import Mathlib.Data.List.Nodup
import Mathlib.Data.Set.Basic
import Cmdb.Records

/-!
# What a reverse rebuild does to a zone

Completeness, soundness and exactness of the two passes of `build_reverse_zone`, and
the fixpoint of a `/24`.

* `cmdbRecordsToAdd_complete_iff` : when every forward record of a sub-zone is
  represented afterwards;
* `cmdbRecordsToAdd_sound_iff` : when every row added comes from a forward record of its
  sub-zone;
* `cmdbRecordsToRemove_exact` : the pass removes exactly the reverse records no forward
  record justifies;
* `rebuild_slash24` : on a `/24` one rebuild makes the reverse records the image of the
  forward records, and a second one changes nothing.

The first two do not hold in general. A reverse record stored under the wrong sub-zone
hides a forward record, the host of the last reverse record stays in the search buffer,
and cutting the buffer at its last dot makes `10.0.1` accept `10.0.10.5`.
-/

namespace Cmdb

open CString DottedQuad

variable {z : RevZone} {i n zoneId uid : ℕ} {f r : AilsaRecord} {a : Quad}
  {forward reverse : List AilsaRecord}

/-! ## Records at an address -/

theorem matches_iff (hi : i < z.subZones) (hf : f.dest = a.text) (hn : serviceLen ≤ n) :
    Matches z i n f r ↔ z.InSubZone i a ∧ r.host = a.hostText z.octets ∧ r.dest = fqdnOf f := by
  have hlen := a.length_hostText_add_one_lt z.octets_pos z.octets_le
  rw [Matches, hf, eq_comm, RevZone.octetPrefix_append_eq_text_iff hi, and_assoc,
    snprintf_eq_iff (hlen.trans_le hn), eq_comm (a := fqdnOf f)]

theorem stored_iff (hi : i < z.subZones) (hf : f.dest = a.text) (ha : z.InSubZone i a) :
    Stored z reverse i f ↔ ∃ r ∈ reverse, r.host = a.hostText z.octets ∧ r.dest = fqdnOf f := by
  refine exists_congr fun r => and_congr_right fun _ => ?_
  rw [matches_iff hi hf (by decide), and_iff_right ha]

theorem newRow_host (zoneId uid : ℕ) (hi : i < z.subZones) (hf : f.dest = a.text)
    (ha : z.InSubZone i a) :
    (newRow z zoneId uid i f).host = a.hostText z.octets := by
  rw [newRow, hf, cmdbGetRevDestFromSearch_eq hi ha]

theorem mem_addRows {e : NewRevRecord} : e ∈ addRows z zoneId uid forward reverse i ↔
    ∃ f ∈ forward, ¬Stored z reverse i f ∧ cutText z reverse i <+: f.dest ∧
      newRow z zoneId uid i f = e := by
  simp [addRows, and_assoc]

/-- For an address of the sub-zone only the last reverse record decides. -/
theorem cutText_prefix_iff (hi : i < z.subZones) (ha : z.InSubZone i a) :
    cutText z reverse i <+: a.text ↔
      ∀ p, strrchr (lastHost reverse) '.' = some p →
        cut (lastHost reverse) p <+: a.hostText z.octets := by
  have h := (RevZone.inSubZone_iff hi).mp ha
  rw [a.text_eq_netText_append z.octets_le, ← h, cutText]
  rcases strrchr (lastHost reverse) '.' with _ | p
  · simp only [reduceCtorEq, false_imp_iff, implies_true, iff_true]
    rw [RevZone.octetPrefix, ← Quad.netStem_append _ z.octets_pos, List.append_assoc]
    exact List.prefix_append ..
  · simp [List.prefix_append_right_inj]

/-- An address entered in a sub-zone it is not in has one dot too many in its host : the
cut text ends inside one of its octets. -/
theorem inSubZone_of_count_dot (zoneId uid : ℕ) (hi : i < z.subZones) (hf : f.dest = a.text)
    (hcut : cutText z reverse i <+: f.dest)
    (hdots : (newRow z zoneId uid i f).host.count '.' = 3 - z.octets) : z.InSubZone i a := by
  rw [← RevZone.octetPrefix_prefix_text_iff hi]
  rw [hf] at hcut
  rw [cutText] at hcut
  rcases h : strrchr (lastHost reverse) '.' with _ | p
  · rw [h] at hcut
    dsimp only at hcut
    have hstem := (z.subNet i).netStem_append z.octets_pos
    have hcount := congrArg (List.count '.') hstem
    rw [Quad.count_dot_netText _ z.octets_le, List.count_append,
      List.count_singleton_self] at hcount
    have hk := z.octets_le
    obtain ⟨s, hs⟩ := hcut
    have htext : a.text.count '.' = 3 := by
      rw [a.text_eq_netText_append (k := 0) (by decide), Quad.netText_zero, List.nil_append,
        Quad.count_dot_hostText _ (by decide)]
    rw [← hs, List.count_append] at htext
    rcases s with _ | ⟨c, s⟩
    · rw [List.count_nil] at htext
      omega
    by_cases hc : c = '.'
    · rw [RevZone.octetPrefix, ← hstem, ← hs, hc]
      exact ⟨s, by simp⟩
    · have hlen : s.length < 16 := by
        have := a.length_text_lt
        rw [← hs, List.length_append, List.length_cons] at this
        omega
      have hhost : (newRow z zoneId uid i f).host = s := by
        rw [newRow, hf, ← hs, cmdbGetRevDestFromSearch, RevZone.octetPrefix, ← hstem]
        have : ((z.subNet i).netStem z.octets ++ ['.'] ++ ['%']).length - 1 =
            ((z.subNet i).netStem z.octets).length + 1 := by simp
        rw [this, List.drop_length_add_append, List.drop_one, List.tail_cons,
          snprintf_of_length_lt (hlen.trans (by decide))]
      rw [List.count_cons_of_ne hc] at htext
      rw [hhost] at hdots
      omega
  · rw [h] at hcut
    exact (List.prefix_append ..).trans hcut

/-! ## Completeness -/

/-- A reverse record of sub-zone `i` holds address `a` under the name of `f`. -/
def HeldIn (z : RevZone) (reverse : List AilsaRecord) (i : ℕ) (f : AilsaRecord) (a : Quad) : Prop :=
  ∃ r ∈ reverse, r.index = i ∧ r.host = a.hostText z.octets ∧ r.dest = fullName f

/-- `f` at address `a` is represented in sub-zone `i` : stored already, or among the
rows added. -/
def Represented (z : RevZone) (zoneId uid : ℕ) (reverse : List AilsaRecord)
    (added : List NewRevRecord) (i : ℕ) (f : AilsaRecord) (a : Quad) : Prop :=
  HeldIn z reverse i f a ∨
    { zoneId := zoneId, index := i, host := a.hostText z.octets, dest := fullName f,
      cuser := uid, muser := uid } ∈ added

/-- What lets the pass represent `f` : it is stored in the right sub-zone, or it is
stored in none, its name fits, and the part before the last dot of the last reverse
record's host starts the host of `a`. -/
def Enterable (z : RevZone) (reverse : List AilsaRecord) (i : ℕ) (f : AilsaRecord)
    (a : Quad) : Prop :=
  HeldIn z reverse i f a ∨
    (fullName f).length < domainLen ∧
    (¬∃ r ∈ reverse, r.host = a.hostText z.octets ∧ r.dest = fullName f) ∧
    ∀ p, strrchr (lastHost reverse) '.' = some p →
      cut (lastHost reverse) p <+: a.hostText z.octets

/-- When the row of `f` is among the rows of the sub-zones. -/
theorem mem_flatMap_addRows_iff (hi : i < z.subZones) (hf : f ∈ forward)
    (hquad : ∀ g ∈ forward, ∃ b : Quad, g.dest = b.text) (hdest : f.dest = a.text)
    (ha : z.InSubZone i a) :
    { zoneId := zoneId, index := i, host := a.hostText z.octets, dest := fullName f,
      cuser := uid, muser := uid : NewRevRecord } ∈
        (List.range z.subZones).flatMap (addRows z zoneId uid forward reverse) ↔
      (fullName f).length < domainLen ∧
      (¬∃ r ∈ reverse, r.host = a.hostText z.octets ∧ r.dest = fullName f) ∧
      cutText z reverse i <+: a.text := by
  simp only [List.mem_flatMap, List.mem_range, mem_addRows]
  constructor
  · rintro ⟨j, hj, g, hg, hstored, hcut, hrow⟩
    obtain ⟨b, hb⟩ := hquad g hg
    have hji : j = i := congrArg NewRevRecord.index hrow
    have hname : fqdnOf g = fullName f := congrArg NewRevRecord.dest hrow
    have hhost : (newRow z zoneId uid j g).host = a.hostText z.octets :=
      congrArg NewRevRecord.host hrow
    subst hji
    -- The row of another record would be in the same sub-zone, hence at the same address.
    have hbz : z.InSubZone j b := inSubZone_of_count_dot zoneId uid hi hb hcut
      (by rw [hhost, Quad.count_dot_hostText _ z.octets_le])
    have hab : b.hostText z.octets = a.hostText z.octets := by
      rw [← hhost, newRow_host _ _ hi hb hbz]
    have htext : b.text = a.text := by
      rw [b.text_eq_netText_append z.octets_le, a.text_eq_netText_append z.octets_le, hab,
        ← (RevZone.inSubZone_iff hi).mp hbz, ← (RevZone.inSubZone_iff hi).mp ha]
    rw [stored_iff hi hb hbz, hab, hname] at hstored
    exact ⟨hname ▸ length_fqdnOf_lt g, hstored, by rwa [← htext, ← hb]⟩
  · rintro ⟨hlen, hstored, hcut⟩
    refine ⟨i, hi, f, hf, ?_, by rwa [hdest], ?_⟩
    · rwa [stored_iff hi hdest ha, fqdnOf_eq_fullName hlen]
    · rw [← newRow_host zoneId uid hi hdest ha, ← fqdnOf_eq_fullName hlen]
      rfl

/-- Every forward record of a sub-zone is represented after the pass iff each can be
entered. -/
theorem cmdbRecordsToAdd_complete_iff (z : RevZone) (uid zoneId : ℕ) (l : RebuildLists)
    (hadd : l.add = []) (hquad : ∀ f ∈ l.forward, ∃ a : Quad, f.dest = a.text) :
    ∃ out, cmdbRecordsToAdd uid z.range zoneId z.pfx l = .ok out ∧
      ((∀ i < z.subZones, ∀ f ∈ l.forward, ∀ a : Quad, f.dest = a.text → z.InSubZone i a →
          Represented z zoneId uid l.reverse (revRows out.add) i f a) ↔
        ∀ i < z.subZones, ∀ f ∈ l.forward, ∀ a : Quad, f.dest = a.text → z.InSubZone i a →
          Enterable z l.reverse i f a) := by
  refine ⟨_, cmdbRecordsToAdd_eq z uid zoneId l, ?_⟩
  dsimp only
  rw [hadd, List.nil_append, revRows_flatMap_data]
  refine forall₂_congr fun i hi => forall₂_congr fun f hf => forall_congr' fun a =>
    forall₂_congr fun hdest ha => or_congr_right ?_
  rw [mem_flatMap_addRows_iff hi hf hquad hdest ha, cutText_prefix_iff hi ha]

/-- `www.example.com` at `10.1.7.8`, and a reverse record `5.6` of another address. -/
def hiddenRecord : RebuildLists where
  forward := [
    { host := "www".toList, dest := "10.1.7.8".toList, domain := "example.com".toList
      id := 1, zone := 1, index := 0 }]
  reverse := [
    { host := "5.6".toList, dest := "old.example.com.".toList, domain := []
      id := 2, zone := 1, index := 0 }]
  remove := []
  add := []

theorem cmdbRecordsToAdd_complete_iff_hiddenRecord :
    ∃ out, cmdbRecordsToAdd 0 RevZone.tenOne.range 1 RevZone.tenOne.pfx hiddenRecord = .ok out ∧
      ((∀ i < RevZone.tenOne.subZones, ∀ f ∈ hiddenRecord.forward, ∀ a : Quad, f.dest = a.text →
          RevZone.tenOne.InSubZone i a →
          Represented RevZone.tenOne 1 0 hiddenRecord.reverse (revRows out.add) i f a) ↔
        ∀ i < RevZone.tenOne.subZones, ∀ f ∈ hiddenRecord.forward, ∀ a : Quad, f.dest = a.text →
          RevZone.tenOne.InSubZone i a → Enterable RevZone.tenOne hiddenRecord.reverse i f a) :=
  cmdbRecordsToAdd_complete_iff RevZone.tenOne 0 1 hiddenRecord rfl
    (by rw [hiddenRecord, List.forall_mem_singleton]; exact ⟨⟨10, 1, 7, 8⟩, by decide⟩)

/-- The host `5.6` stays in the buffer, and `10.1.7.8` does not start with `10.1.5`. -/
theorem cmdbRecordsToAdd_hiddenRecord_not_represented :
    ∃ out, cmdbRecordsToAdd 0 RevZone.tenOne.range 1 RevZone.tenOne.pfx hiddenRecord = .ok out ∧
      ∃ f ∈ hiddenRecord.forward, f.dest = Quad.text ⟨10, 1, 7, 8⟩ ∧
        0 < RevZone.tenOne.subZones ∧ RevZone.tenOne.InSubZone 0 ⟨10, 1, 7, 8⟩ ∧
        ¬Represented RevZone.tenOne 1 0 hiddenRecord.reverse (revRows out.add) 0 f
          ⟨10, 1, 7, 8⟩ := by
  refine ⟨_, cmdbRecordsToAdd_eq RevZone.tenOne 0 1 hiddenRecord, _, List.mem_singleton_self _,
    by decide, by decide, by decide, ?_⟩
  rw [Represented, HeldIn]
  decide +kernel

/-! ## Soundness -/

/-- Row `e` comes from a forward record of its sub-zone that was not stored. -/
def ComesFrom (z : RevZone) (zoneId uid : ℕ) (forward reverse : List AilsaRecord)
    (e : NewRevRecord) : Prop :=
  e.zoneId = zoneId ∧ e.cuser = uid ∧ e.muser = uid ∧
  ∃ f ∈ forward, (∃ a : Quad, f.dest = a.text ∧ z.InSubZone e.index a) ∧
    z.octetPrefix e.index ++ e.host = f.dest ∧ e.dest = fullName f ∧
    ¬∃ r ∈ reverse, r.index = e.index ∧ r.host = e.host ∧ r.dest = e.dest

/-- No forward record is entered under two sub-zones. -/
def EnteredOnce (z : RevZone) (forward : List AilsaRecord) (added : List NewRevRecord) : Prop :=
  ∀ f ∈ forward, ∀ e ∈ added, ∀ e' ∈ added, z.octetPrefix e.index ++ e.host = f.dest →
    z.octetPrefix e'.index ++ e'.host = f.dest → e.index = e'.index

theorem enteredOnce_of_comesFrom {added : List NewRevRecord}
    (h : ∀ e ∈ added, ComesFrom z zoneId uid forward reverse e) : EnteredOnce z forward added := by
  intro f _ e he e' he' hf hf'
  obtain ⟨-, -, -, g, -, ⟨a, hga, ha⟩, hg, -⟩ := h e he
  obtain ⟨-, -, -, g', -, ⟨a', hga', ha'⟩, hg', -⟩ := h e' he'
  have haa : a = a' := Quad.text_inj.mp (by rw [← hga, ← hga', ← hg, ← hg', hf, hf'])
  exact ha.index_eq (haa ▸ ha')

/-- What makes the row for `f` in sub-zone `i` right : the address is in the sub-zone,
and the name, as far as it fits, is the name of a forward record at that address. -/
def RightlyEntered (z : RevZone) (forward : List AilsaRecord) (i : ℕ) (f : AilsaRecord) : Prop :=
  (∃ a : Quad, f.dest = a.text ∧ z.InSubZone i a) ∧
    ∃ g ∈ forward, g.dest = f.dest ∧ fullName g = fqdnOf f

theorem comesFrom_newRow_iff (hi : i < z.subZones)
    (hquad : ∀ g ∈ forward, ∃ b : Quad, g.dest = b.text) (hf : f ∈ forward)
    (hstored : ¬Stored z reverse i f) (hcut : cutText z reverse i <+: f.dest) :
    ComesFrom z zoneId uid forward reverse (newRow z zoneId uid i f) ↔
      RightlyEntered z forward i f := by
  obtain ⟨b, hb⟩ := hquad f hf
  constructor
  · rintro ⟨-, -, -, g, hg, ⟨a, hga, ha⟩, hhost, hname, -⟩
    have hrow : (newRow z zoneId uid i f).host = a.hostText z.octets :=
      ((RevZone.octetPrefix_append_eq_text_iff hi).mp (hhost.trans hga)).2
    have hbz : z.InSubZone i b := inSubZone_of_count_dot zoneId uid hi hb hcut
      (by rw [hrow, Quad.count_dot_hostText _ z.octets_le])
    refine ⟨⟨b, hb, hbz⟩, g, hg, ?_, hname.symm⟩
    rw [← hhost, newRow_host _ _ hi hb hbz, hb]
    exact (RevZone.octetPrefix_append_eq_text_iff hi).mpr ⟨hbz, rfl⟩
  · rintro ⟨⟨a, hfa, ha⟩, g, hg, hdest, hname⟩
    have hhost := newRow_host zoneId uid hi hfa ha
    refine ⟨rfl, rfl, rfl, g, hg, ⟨a, hdest.trans hfa, ha⟩, ?_, hname.symm, ?_⟩
    · rw [hhost, hdest, hfa]
      exact (RevZone.octetPrefix_append_eq_text_iff hi).mpr ⟨ha, rfl⟩
    · rintro ⟨r, hr, -, hrh, hrd⟩
      exact hstored ((stored_iff hi hfa ha).mpr ⟨r, hr, hrh.trans hhost, hrd⟩)

/-- Every row added is sound iff each record the cut text lets in is entered rightly. -/
theorem cmdbRecordsToAdd_sound_iff (z : RevZone) (uid zoneId : ℕ) (l : RebuildLists)
    (hadd : l.add = []) (hquad : ∀ f ∈ l.forward, ∃ a : Quad, f.dest = a.text) :
    ∃ out, cmdbRecordsToAdd uid z.range zoneId z.pfx l = .ok out ∧
      (((∀ e ∈ revRows out.add, ComesFrom z zoneId uid l.forward l.reverse e) ∧
          EnteredOnce z l.forward (revRows out.add)) ↔
        ∀ i < z.subZones, ∀ f ∈ l.forward, ¬Stored z l.reverse i f →
          cutText z l.reverse i <+: f.dest → RightlyEntered z l.forward i f) := by
  refine ⟨_, cmdbRecordsToAdd_eq z uid zoneId l, ?_⟩
  dsimp only
  rw [hadd, List.nil_append, revRows_flatMap_data, and_iff_left_of_imp enteredOnce_of_comesFrom]
  simp only [List.mem_flatMap, List.mem_range, mem_addRows]
  constructor
  · intro h i hi f hf hstored hcut
    exact (comesFrom_newRow_iff hi hquad hf hstored hcut).mp
      (h _ ⟨i, hi, f, hf, hstored, hcut, rfl⟩)
  · rintro h e ⟨i, hi, f, hf, hstored, hcut, rfl⟩
    exact (comesFrom_newRow_iff hi hquad hf hstored hcut).mpr (h i hi f hf hstored hcut)

/-- `www.example.com` at `10.0.10.5`, nothing stored. -/
def spilledRecord : RebuildLists where
  forward := [
    { host := "www".toList, dest := "10.0.10.5".toList, domain := "example.com".toList
      id := 1, zone := 1, index := 0 }]
  reverse := []
  remove := []
  add := []

theorem cmdbRecordsToAdd_sound_iff_spilledRecord :
    ∃ out, cmdbRecordsToAdd 0 RevZone.ten20.range 1 RevZone.ten20.pfx spilledRecord = .ok out ∧
      (((∀ e ∈ revRows out.add,
            ComesFrom RevZone.ten20 1 0 spilledRecord.forward spilledRecord.reverse e) ∧
          EnteredOnce RevZone.ten20 spilledRecord.forward (revRows out.add)) ↔
        ∀ i < RevZone.ten20.subZones, ∀ f ∈ spilledRecord.forward,
          ¬Stored RevZone.ten20 spilledRecord.reverse i f →
          cutText RevZone.ten20 spilledRecord.reverse i <+: f.dest →
          RightlyEntered RevZone.ten20 spilledRecord.forward i f) :=
  cmdbRecordsToAdd_sound_iff RevZone.ten20 0 1 spilledRecord rfl
    (by rw [spilledRecord, List.forall_mem_singleton]; exact ⟨⟨10, 0, 10, 5⟩, by decide⟩)

/-- `10.0.1` starts `10.0.10.5`, which is entered in sub-zone 1 as host `.5`. -/
theorem cmdbRecordsToAdd_spilledRecord_not_comesFrom :
    ∃ out, cmdbRecordsToAdd 0 RevZone.ten20.range 1 RevZone.ten20.pfx spilledRecord = .ok out ∧
      ∃ e ∈ revRows out.add, e.index = 1 ∧ e.host = ".5".toList ∧
        ¬ComesFrom RevZone.ten20 1 0 spilledRecord.forward spilledRecord.reverse e := by
  refine ⟨_, cmdbRecordsToAdd_eq RevZone.ten20 0 1 spilledRecord,
    { zoneId := 1, index := 1, host := ".5".toList, dest := "www.example.com.".toList, cuser := 0,
      muser := 0 }, by decide +kernel, rfl, rfl, ?_⟩
  rintro ⟨-, -, -, f, hf, -, hhost, -⟩
  rw [spilledRecord, List.mem_singleton] at hf
  rw [hf] at hhost
  revert hhost
  decide +kernel

/-! ## Exactness of the clean-up -/

/-- Forward record `f` justifies the reverse record `r`. -/
def Justifies (z : RevZone) (f r : AilsaRecord) : Prop :=
  f.dest = z.octetPrefix r.index ++ r.host ∧ fullName f = r.dest

instance (z : RevZone) (f r : AilsaRecord) : Decidable (Justifies z f r) :=
  inferInstanceAs (Decidable (_ ∧ _))

/-- With hosts and names that fit, the pass removes exactly the records no forward record
justifies, once each, in the order of the sub-zones and of the list. -/
theorem cmdbRecordsToRemove_exact (z : RevZone) (l : RebuildLists)
    (hhost : ∀ r ∈ l.reverse, r.host.length < serviceLen)
    (hname : ∀ f ∈ l.forward, (fullName f).length < domainLen) :
    cmdbRecordsToRemove z.range z.pfx l = .ok { l with
      remove := l.remove ++ ((List.range z.subZones).flatMap fun i =>
        l.reverse.filter fun r => r.index = i ∧ ¬∃ f ∈ l.forward, Justifies z f r).map
          fun r => .number r.id } := by
  have h : stale z l.forward l.reverse = fun i =>
      l.reverse.filter fun r => r.index = i ∧ ¬∃ f ∈ l.forward, Justifies z f r := by
    funext i
    refine List.filter_congr fun r hr => decide_eq_decide.mpr (and_congr_right fun hi => ?_)
    refine not_congr (exists_congr fun f => and_congr_right fun hf => ?_)
    rw [Matches, Justifies, snprintf_of_length_lt (hhost r hr), fqdnOf_eq_fullName (hname f hf), hi]
  rw [cmdbRecordsToRemove_eq, h]

theorem cmdbRecordsToRemove_exact_hiddenRecord :
    cmdbRecordsToRemove RevZone.tenOne.range RevZone.tenOne.pfx hiddenRecord =
      .ok { hiddenRecord with
        remove := hiddenRecord.remove ++ ((List.range RevZone.tenOne.subZones).flatMap fun i =>
          hiddenRecord.reverse.filter fun r =>
            r.index = i ∧ ¬∃ f ∈ hiddenRecord.forward, Justifies RevZone.tenOne f r).map
              fun r => .number r.id } :=
  cmdbRecordsToRemove_exact RevZone.tenOne hiddenRecord (by decide) (by decide)

/-! ## The fixpoint of a `/24` -/

/-- The records `rows` become when they are inserted, with whatever ids. -/
def Inserted (added : List AilsaRecord) (rows : List NewRevRecord) : Prop :=
  added.map (fun r => (r.zone, r.index, r.host, r.dest)) =
    rows.map fun e => (e.zoneId, e.index, e.host, e.dest)

/-- The reverse records are the image of the forward records. -/
structure Mirrors (z : RevZone) (forward reverse : List AilsaRecord) : Prop where
  index : ∀ r ∈ reverse, r.index = 0
  sound : ∀ r ∈ reverse, ∃ f ∈ forward, ∃ a : Quad, f.dest = a.text ∧
    r.host = a.hostText z.octets ∧ r.dest = fullName f
  complete : ∀ f ∈ forward, ∀ a : Quad, f.dest = a.text →
    ∃ r ∈ reverse, r.host = a.hostText z.octets ∧ r.dest = fullName f

/-- Forward records with an address in the block and a name that fits. -/
def ForwardOk (z : RevZone) (forward : List AilsaRecord) : Prop :=
  ∀ f ∈ forward, (∃ a : Quad, f.dest = a.text ∧ z.InBlock a) ∧ (fullName f).length < domainLen

theorem RevZone.subZones_slash24 (h : z.pfx = 24) : z.subZones = 1 := by
  have h1 := z.subZones_mul_subSize
  rw [RevZone.subSize, RevZone.octets, h, if_pos (by decide)] at h1
  omega

theorem inSubZone_zero (h : z.pfx = 24) (hfwd : ForwardOk z forward) (hf : f ∈ forward)
    (hdest : f.dest = a.text) : z.InSubZone 0 a := by
  obtain ⟨⟨b, hb, hin⟩, -⟩ := hfwd f hf
  rw [Quad.text_inj.mp (hdest.symm.trans hb)]
  obtain ⟨i, hi, hz⟩ := RevZone.inBlock_iff.mp hin
  rw [RevZone.subZones_slash24 h] at hi
  rwa [Nat.lt_one_iff.mp hi] at hz

/-- On reverse records that mirror the forward records both passes find nothing. -/
theorem passes_eq_nil_of_mirrors (zoneId uid : ℕ) (h : z.pfx = 24) (hfwd : ForwardOk z forward)
    (hm : Mirrors z forward reverse) :
    stale z forward reverse 0 = [] ∧ addRows z zoneId uid forward reverse 0 = [] := by
  have h0 : 0 < z.subZones := by rw [RevZone.subZones_slash24 h]; decide
  constructor
  · rw [stale, List.filter_eq_nil_iff]
    intro r hr
    obtain ⟨f, hf, a, hdest, hhost, hname⟩ := hm.sound r hr
    rw [decide_eq_true_eq, not_and_not_right]
    refine fun _ => ⟨f, hf, (matches_iff h0 hdest le_rfl).mpr ?_⟩
    rw [fqdnOf_eq_fullName (hfwd f hf).2]
    exact ⟨inSubZone_zero h hfwd hf hdest, hhost, hname⟩
  · rw [List.eq_nil_iff_forall_not_mem]
    intro e he
    obtain ⟨f, hf, hstored, -, -⟩ := mem_addRows.mp he
    obtain ⟨⟨a, hdest, -⟩, hlen⟩ := hfwd f hf
    refine hstored ((stored_iff h0 hdest (inSubZone_zero h hfwd hf hdest)).mpr ?_)
    rw [fqdnOf_eq_fullName hlen]
    exact hm.complete f hf a hdest

section Inserted

variable {added : List AilsaRecord} {rows : List NewRevRecord}

theorem Inserted.exists_row (h : Inserted added rows) {r : AilsaRecord} (hr : r ∈ added) :
    ∃ e ∈ rows, e.index = r.index ∧ e.host = r.host ∧ e.dest = r.dest := by
  have hmem := List.mem_map_of_mem
    (f := fun r : AilsaRecord => (r.zone, r.index, r.host, r.dest)) hr
  rw [h, List.mem_map] at hmem
  obtain ⟨e, he, heq⟩ := hmem
  simp only [Prod.mk.injEq] at heq
  exact ⟨e, he, heq.2.1, heq.2.2.1, heq.2.2.2⟩

theorem Inserted.exists_added (h : Inserted added rows) {e : NewRevRecord} (he : e ∈ rows) :
    ∃ r ∈ added, r.host = e.host ∧ r.dest = e.dest := by
  have hmem := List.mem_map_of_mem
    (f := fun e : NewRevRecord => (e.zoneId, e.index, e.host, e.dest)) he
  rw [← h, List.mem_map] at hmem
  obtain ⟨r, hr, heq⟩ := hmem
  simp only [Prod.mk.injEq] at heq
  exact ⟨r, hr, heq.2.2.1, heq.2.2.2⟩

end Inserted

theorem strrchr_lastHost_eq_none (hdot : ∀ r ∈ reverse, '.' ∉ r.host) :
    strrchr (lastHost reverse) '.' = none := by
  rw [strrchr_eq_none, lastHost]
  split
  next r hr => exact fun hmem => hdot r (List.mem_of_getLast? hr) (List.mem_of_mem_take hmem)
  next => decide

/-- What is not stale is matched. -/
theorem notMem_stale_iff {i : ℕ} {r : AilsaRecord} (hr : r ∈ reverse) (hi : r.index = i) :
    r ∉ stale z forward reverse i ↔ ∃ f ∈ forward, Matches z i serviceLen f r := by
  rw [stale, List.mem_filter, decide_eq_true_eq, not_and, not_and_not_right]
  exact ⟨fun h => h hr hi, fun h _ _ => h⟩

/-- What is kept and what is entered together mirror the forward records. -/
theorem mirrors_rebuild {rev' added : List AilsaRecord} (h : z.pfx = 24)
    (hfwd : ForwardOk z forward) (hindex : ∀ r ∈ reverse, r.index = 0)
    (hdot : ∀ r ∈ reverse, '.' ∉ r.host)
    (hins : Inserted added (addRows z zoneId uid forward reverse 0))
    (hmem : ∀ r, r ∈ rev' ↔ (r ∈ reverse ∧ r ∉ stale z forward reverse 0) ∨ r ∈ added) :
    Mirrors z forward rev' := by
  have h0 : 0 < z.subZones := by rw [RevZone.subZones_slash24 h]; decide
  refine ⟨fun r hr => ?_, fun r hr => ?_, fun f hf a hdest => ?_⟩
  · rcases (hmem r).mp hr with ⟨hr, -⟩ | hr
    · exact hindex r hr
    · obtain ⟨e, he, hi, -⟩ := hins.exists_row hr
      obtain ⟨f, -, -, -, rfl⟩ := mem_addRows.mp he
      exact hi.symm
  · rcases (hmem r).mp hr with ⟨hr, hkept⟩ | hr
    · obtain ⟨f, hf, hmatch⟩ := (notMem_stale_iff hr (hindex r hr)).mp hkept
      obtain ⟨⟨a, hdest, -⟩, hlen⟩ := hfwd f hf
      obtain ⟨-, hhost, hname⟩ := (matches_iff h0 hdest le_rfl).mp hmatch
      exact ⟨f, hf, a, hdest, hhost, by rw [hname, fqdnOf_eq_fullName hlen]⟩
    · obtain ⟨e, he, -, hhost, hname⟩ := hins.exists_row hr
      obtain ⟨f, hf, -, -, rfl⟩ := mem_addRows.mp he
      obtain ⟨⟨a, hdest, -⟩, hlen⟩ := hfwd f hf
      refine ⟨f, hf, a, hdest, ?_, ?_⟩
      · rw [← hhost, newRow_host _ _ h0 hdest (inSubZone_zero h hfwd hf hdest)]
      · rw [← hname, ← fqdnOf_eq_fullName hlen]
        rfl
  · have ha := inSubZone_zero h hfwd hf hdest
    have hname := fqdnOf_eq_fullName (hfwd f hf).2
    by_cases hs : Stored z reverse 0 f
    · obtain ⟨r, hr, hhost, hdestr⟩ := (stored_iff h0 hdest ha).mp hs
      have hmatch := (matches_iff h0 hdest le_rfl).mpr ⟨ha, hhost, hdestr⟩
      have hkept := (notMem_stale_iff hr (hindex r hr)).mpr ⟨f, hf, hmatch⟩
      exact ⟨r, (hmem r).mpr (.inl ⟨hr, hkept⟩), hhost, hdestr.trans hname⟩
    · have hcut : cutText z reverse 0 <+: f.dest := by
        rw [hdest, cutText_prefix_iff h0 ha, strrchr_lastHost_eq_none hdot]
        exact fun p hp => nomatch hp
      obtain ⟨r, hr, hhost, hdestr⟩ :=
        hins.exists_added (mem_addRows.mpr ⟨f, hf, hs, hcut, rfl⟩)
      refine ⟨r, (hmem r).mpr (.inr hr), ?_, hdestr.trans hname⟩
      rw [hhost, newRow_host _ _ h0 hdest ha]

/-- The two passes run, and whatever ids and order the inserted rows get, the reverse
records become the pairs of last octet and name of the forward records, and the passes
run on them list nothing. -/
def ReachesFixpoint (z : RevZone) (uid zoneId : ℕ) (l : RebuildLists) : Prop :=
  ∃ removed out, cmdbRecordsToRemove z.range z.pfx l = .ok removed ∧
    cmdbRecordsToAdd uid z.range zoneId z.pfx removed = .ok out ∧
    ∀ rev' added : List AilsaRecord, Inserted added (revRows out.add) →
      rev'.Perm (l.reverse.filter (fun r => .number r.id ∉ out.remove) ++ added) →
      {x | ∃ r ∈ rev', x = (r.host, r.dest)} =
        {x | ∃ f ∈ l.forward, ∃ a : Quad, f.dest = a.text ∧ x = (octetText a.d, fullName f)} ∧
      cmdbRecordsToRemove z.range z.pfx { l with reverse := rev' } =
        .ok { l with reverse := rev' } ∧
      cmdbRecordsToAdd uid z.range zoneId z.pfx { l with reverse := rev' } =
        .ok { l with reverse := rev' }

/-- One rebuild of a `/24` reaches the fixpoint. -/
theorem rebuild_slash24 (z : RevZone) (h : z.pfx = 24) (uid zoneId : ℕ) (l : RebuildLists)
    (hremove : l.remove = []) (hadd : l.add = []) (hfwd : ForwardOk z l.forward)
    (hindex : ∀ r ∈ l.reverse, r.index = 0) (hdot : ∀ r ∈ l.reverse, '.' ∉ r.host)
    (hid : (l.reverse.map AilsaRecord.id).Nodup) : ReachesFixpoint z uid zoneId l := by
  refine ⟨_, _, cmdbRecordsToRemove_eq z l, cmdbRecordsToAdd_eq z uid zoneId _, ?_⟩
  intro rev' added hins hperm
  rw [RevZone.subZones_slash24 h, hadd] at hins
  simp only [List.range_one, List.flatMap_singleton, List.nil_append,
    revRows_flatMap_data] at hins
  have hmem : ∀ r, r ∈ rev' ↔
      (r ∈ l.reverse ∧ r ∉ stale z l.forward l.reverse 0) ∨ r ∈ added := by
    intro r
    rw [hperm.mem_iff, List.mem_append, List.mem_filter, RevZone.subZones_slash24 h, hremove]
    simp only [List.range_one, List.flatMap_singleton, List.nil_append, decide_eq_true_eq,
      List.mem_map, AilsaData.number.injEq, not_exists, not_and]
    refine or_congr_left (and_congr_right fun hr =>
    ⟨fun hn hs => hn r hs rfl, fun hn s hs hsr => ?_⟩)
    have hs' : s ∈ l.reverse := (List.mem_filter.mp hs).1
    exact hn (List.inj_on_of_nodup_map hid hs' hr hsr ▸ hs)
  have hm := mirrors_rebuild h hfwd hindex hdot hins hmem
  obtain ⟨hnil, hnil'⟩ := passes_eq_nil_of_mirrors zoneId uid h hfwd hm
  have hoct : ∀ a : Quad, a.hostText z.octets = octetText a.d := by
    intro a
    rw [RevZone.octets, h, if_pos (by decide)]
    simp [Quad.hostText, Quad.octets]
  refine ⟨Set.ext fun x => ⟨?_, ?_⟩, ?_, ?_⟩
  · rintro ⟨r, hr, rfl⟩
    obtain ⟨f, hf, a, hdest, hhost, hname⟩ := hm.sound r hr
    exact ⟨f, hf, a, hdest, by rw [hhost, hoct, hname]⟩
  · rintro ⟨f, hf, a, hdest, rfl⟩
    obtain ⟨r, hr, hhost, hname⟩ := hm.complete f hf a hdest
    exact ⟨r, hr, by rw [hhost, hoct, hname]⟩
  · rw [cmdbRecordsToRemove_eq, RevZone.subZones_slash24 h]
    simp [hnil, List.range_one]
  · rw [cmdbRecordsToAdd_eq, RevZone.subZones_slash24 h]
    simp [hnil', List.range_one]

/-- Two names at `10.0.2.5`, one of them stored, and a stale record. -/
def slash24Records : RebuildLists where
  forward := [
    { host := "www".toList, dest := "10.0.2.5".toList, domain := "example.com".toList
      id := 1, zone := 1, index := 0 },
    { host := "@".toList, dest := "10.0.2.5".toList, domain := "example.com".toList
      id := 2, zone := 1, index := 0 }]
  reverse := [
    { host := "5".toList, dest := "www.example.com.".toList, domain := []
      id := 1, zone := 1, index := 0 },
    { host := "6".toList, dest := "old.example.com.".toList, domain := []
      id := 2, zone := 1, index := 0 }]
  remove := []
  add := []

theorem rebuild_slash24_slash24Records : ReachesFixpoint RevZone.ten24 0 1 slash24Records :=
  rebuild_slash24 RevZone.ten24 rfl 0 1 slash24Records rfl rfl
    (by
      rw [ForwardOk, slash24Records]
      have h : Quad.text ⟨10, 0, 2, 5⟩ = "10.0.2.5".toList := by decide
      simp only [List.forall_mem_cons, List.not_mem_nil, false_imp_iff, implies_true, and_true]
      exact ⟨⟨⟨_, h.symm, by decide⟩, by decide⟩, ⟨_, h.symm, by decide⟩, by decide⟩)
    (by decide) (by decide) (by decide)

end Cmdb
