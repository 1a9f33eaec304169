import Mathlib.Data.List.Infix
import Cmdb.Classes
import Cmdb.SerialDiscipline

/-!
# The forward records of a block

`get_fwd_records` asks for each sub-zone which records have a destination `LIKE` its octet
prefix and a `%`. Such a pattern is a prefix test (`like_append_percent_iff`), octet
prefixes exclude one another (`octetPrefix_unique`), and every address of the block has
one, so all `A` records of the block are in the list, once and under the index of their
sub-zone. But the query does not look at the type, and a text with an octet prefix need not
be an address : `getFwdRecords_exact_iff` says when nothing else is in the list.
-/

namespace Cmdb

open CString DottedQuad Classes

/-! ## Prefix patterns -/

theorem toLower_of_lt {c : Char} (h : c.toNat < 65) : c.toLower = c := by
  delta Char.toLower
  rw [dif_neg]
  rintro ⟨h1, -⟩
  have : (65 : ℕ) ≤ c.toNat := h1
  omega

/-- A character below the letters is matched by no other. -/
theorem toLower_eq_iff {c x : Char} (h : c.toNat < 65) : c.toLower = x.toLower ↔ c = x := by
  refine ⟨fun hx => ?_, fun hx => hx ▸ rfl⟩
  rw [toLower_of_lt h] at hx
  by_cases hup : x.val ≥ 'A'.val ∧ x.val ≤ 'Z'.val
  · delta Char.toLower at hx
    rw [dif_pos hup] at hx
    have h1 : (65 : ℕ) ≤ x.toNat := hup.1
    have h2 : x.toNat ≤ 90 := hup.2
    have h3 : c.toNat = (x.val + 32).toNat := by rw [hx]; rfl
    have h4 : (x.val + 32).toNat = x.toNat + 32 := by
      rw [UInt32.toNat_add]
      exact Nat.mod_eq_of_lt (by change x.toNat + 32 < _; omega)
    omega
  · delta Char.toLower at hx
    rwa [dif_neg hup] at hx

theorem like_percent (s : CStr) : like ['%'] s = true := by
  unfold like
  rw [if_pos rfl, List.any_eq_true]
  exact ⟨[], (List.mem_tails _ _).mpr List.nil_suffix, rfl⟩

/-- A pattern of digits and dots with a closing `%` asks for a prefix. -/
theorem like_append_percent_iff : ∀ {p s : CStr}, (∀ c ∈ p, c.isDigit ∨ c = '.') →
    (like (p ++ ['%']) s = true ↔ p <+: s)
  | [], s, _ => by simp [like_percent]
  | c :: p, s, h => by
    obtain ⟨hc, hp⟩ := List.forall_mem_cons.mp h
    have hlt : c.toNat < 65 := by
      rcases hc with hc | rfl
      · exact (Char.isDigit_iff_toNat.mp hc).2.trans_lt (by decide)
      · decide
    have hne : c ≠ '%' ∧ c ≠ '_' := by
      constructor <;> rintro rfl
      · exact absurd hc (by decide)
      · exact absurd hlt (by decide)
    rw [List.cons_append]
    unfold like
    rw [if_neg hne.1]
    cases s with
    | nil => simp
    | cons x s =>
      simp [hne.2, toLower_eq_iff hlt, like_append_percent_iff hp, List.cons_prefix_cons]

/-! ## What is asked for -/

variable {z : RevZone} {env : ZoneEnv} {w : ZoneWorld}

/-- A text starts with the octet prefix of at most one sub-zone. -/
theorem octetPrefix_unique {i j : ℕ} (hi : i < z.subZones) (hj : j < z.subZones) {s : CStr}
    (h : z.octetPrefix i <+: s) (h' : z.octetPrefix j <+: s) : i = j := by
  obtain ⟨t, rfl⟩ := h
  obtain ⟨t', ht⟩ := h'
  have hself : z.InSubZone j (z.subNet j) := (RevZone.inSubZone_iff hj).mpr rfl
  have hin : z.InSubZone i (z.subNet j) :=
    (RevZone.inSubZone_iff hi).mpr (Quad.netText_append_inj.mp ht).1.symm
  exact hin.index_eq hself

theorem like_octetPrefix_iff {i : ℕ} {s : CStr} :
    like (arg (z.octetPrefix i ++ ['%'])) s = true ↔ z.octetPrefix i <+: s := by
  have hlen := (z.subNet i).length_netText_lt z.octets_le
  have harg : (z.octetPrefix i ++ ['%']).length ≤ configLen := by
    rw [List.length_append, List.length_singleton, RevZone.octetPrefix, configLen]
    omega
  rw [arg_of_length_le harg]
  exact like_append_percent_iff fun c hc => isDigit_or_dot_of_mem_dotted hc

/-- The text starts with the octet prefix of a sub-zone. -/
def HasOctetPrefix (z : RevZone) (s : CStr) : Prop :=
  ∃ i ∈ List.range z.subZones, z.octetPrefix i <+: s

instance (z : RevZone) (s : CStr) : Decidable (HasOctetPrefix z s) :=
  inferInstanceAs (Decidable (∃ i ∈ _, _))

/-- The record is of type `A`, with an address of the block. -/
def IsBlockA (z : RevZone) (r : DnsRecord) : Prop :=
  r.type = "A".toList ∧ (inetPton r.destination).any fun a => z.InBlock a

instance (z : RevZone) : DecidablePred (IsBlockA z) := fun _ => inferInstanceAs (Decidable (_ ∧ _))

/-- The list entry of a record with an address, under the index of its sub-zone. -/
def fwdEntry (z : RevZone) (db : ZoneDb) (r : DnsRecord) : AilsaRecord where
  host := r.host.take domainLen
  dest := r.destination.take domainLen
  domain := (((db.zones.find? (·.id = r.zone)).map Zone.name).getD []).take domainLen
  id := r.id
  zone := 0
  index := (inetPton r.destination).elim 0 fun a => (a.toNat - z.net.toNat) / z.subSize

/-- The entries of the `A` records of the block. -/
def blockEntries (z : RevZone) (db : ZoneDb) : List AilsaRecord :=
  (db.records.filter (IsBlockA z)).map (fwdEntry z db)

/-- Only `A` records with an address have a destination with the octet prefix of a
sub-zone. -/
def OnlyAddresses (z : RevZone) (db : ZoneDb) : Prop :=
  ∀ r ∈ db.records, HasOctetPrefix z r.destination →
    r.type = "A".toList ∧ (inetPton r.destination).isSome

/-- The records of sub-zone `i`, as the query sees it. -/
def subZoneRecords (z : RevZone) (db : ZoneDb) (i : ℕ) : List DnsRecord :=
  db.records.filter (z.octetPrefix i <+: ·.destination)

theorem isBlockA_iff {r : DnsRecord} : IsBlockA z r ↔ HasOctetPrefix z r.destination ∧
    r.type = "A".toList ∧ (inetPton r.destination).isSome := by
  unfold IsBlockA HasOctetPrefix
  rcases hr : inetPton r.destination with _ | a
  · simp
  · rw [inetPton_eq_some_iff.mp hr]
    simp only [Option.any_some, decide_eq_true_eq, Option.isSome_some, and_true, List.mem_range,
      RevZone.inBlock_iff]
    rw [and_comm]
    refine and_congr_left fun _ => exists_congr fun i => and_congr_right fun hi => ?_
    exact (RevZone.octetPrefix_prefix_text_iff hi).symm

/-- An address of sub-zone `i` is entered under index `i`. -/
theorem index_fwdEntry {i : ℕ} {a : Quad} (ha : z.InSubZone i a) :
    (a.toNat - z.net.toNat) / z.subSize = i := by
  obtain ⟨h1, h2⟩ := ha
  rw [Nat.div_eq_iff z.subSize_pos]
  rw [Nat.mul_succ] at h2
  rw [mul_comm i]
  omega

/-- A loop succeeds if every round does, and appends what the rounds return. -/
theorem collect_ok_iff {α : Type} {f : ℕ → ZoneProg (List α)} {g : ℕ → List α} {p : ℕ → Prop}
    (hf : ∀ i, Prog.ReadOnly (f i)) : ∀ {is : List ℕ} {l : List α},
    (∀ i ∈ is, ∀ a, (f i w).1 = .ok a ↔ p i ∧ g i = a) →
      ((collect f is w).1 = .ok l ↔ (∀ i ∈ is, p i) ∧ is.flatMap g = l)
  | [], l, _ => by simp [collect]
  | i :: is, l, hg => by
    obtain ⟨hi, his⟩ := List.forall_mem_cons.mp hg
    rw [collect, List.forall_mem_cons, List.flatMap_cons]
    constructor
    · intro h
      obtain ⟨l1, h1, h⟩ := (hf i).bind_ok h
      obtain ⟨l2, h2, h⟩ := (readOnly_collect hf is).bind_ok h
      obtain ⟨hp1, rfl⟩ := (hi l1).mp h1
      obtain ⟨hp2, rfl⟩ := (collect_ok_iff hf his).mp h2
      exact ⟨⟨hp1, hp2⟩, Except.ok.inj h⟩
    · rintro ⟨⟨hp1, hp2⟩, rfl⟩
      rw [(hf i).bind_run_of_ok ((hi _).mpr ⟨hp1, rfl⟩),
        (readOnly_collect hf is).bind_run_of_ok ((collect_ok_iff hf his).mpr ⟨hp2, rfl⟩)]
      rfl

/-- What the list is filled with, sub-zone by sub-zone. -/
def filled (z : RevZone) (db : ZoneDb) : List AilsaRecord :=
  (List.range z.subZones).flatMap fun i => fillFwdRecords
    ((subZoneRecords z db i).map fun r =>
      (r, ((db.zones.find? (·.id = r.zone)).map Zone.name).getD [])) i

theorem recordsLike_octetPrefix (db : ZoneDb) (i : ℕ) :
    db.recordsLike (arg (z.octetPrefix i ++ ['%'])) = (subZoneRecords z db i).map fun r =>
      (r, ((db.zones.find? (·.id = r.zone)).map Zone.name).getD []) := by
  rw [ZoneDb.recordsLike, subZoneRecords]
  refine congrArg (List.map _) (List.filter_congr fun r _ => ?_)
  rw [Bool.eq_iff_iff, like_octetPrefix_iff, decide_eq_true_eq]

/-- One round of the loop. -/
theorem getFwdRecords_round {i : ℕ} (hi : i < z.subZones) {a : List AilsaRecord} :
    ((do
      let search ← ret (getRangeSearchString z.range z.pfx i)
      let l ← query env .recordsOnNetRange search i fun db => db.recordsLike (arg search)
      return fillFwdRecords l i : ZoneProg (List AilsaRecord)) w).1 = .ok a ↔
    env.sql .recordsOnNetRange (z.octetPrefix i ++ ['%']) i = true ∧
      fillFwdRecords ((subZoneRecords z w.db i).map fun r =>
        (r, ((w.db.zones.find? (·.id = r.zone)).map Zone.name).getD [])) i = a := by
  have hsearch : (ret (getRangeSearchString z.range z.pfx i) w).1 =
      .ok (z.octetPrefix i ++ ['%']) := getRangeSearchString_eq hi
  rw [(readOnly_ret _).bind_run_of_ok hsearch, ← recordsLike_octetPrefix]
  constructor
  · intro h
    obtain ⟨l, hl, h⟩ := (readOnly_query _ _ _ _ _).bind_ok h
    obtain ⟨hsql, rfl⟩ := query_ok_iff.mp hl
    exact ⟨hsql, Except.ok.inj h⟩
  · rintro ⟨hsql, rfl⟩
    rw [(readOnly_query _ _ _ _ _).bind_run_of_ok (query_ok_iff.mpr ⟨hsql, rfl⟩)]
    rfl

theorem getFwdRecords_ok_iff {l : List AilsaRecord} :
    (getFwdRecords env z.range z.pfx w).1 = .ok l ↔
      (∀ i ∈ List.range z.subZones,
        env.sql .recordsOnNetRange (z.octetPrefix i ++ ['%']) i = true) ∧ filled z w.db = l := by
  have hpfx : (Prog.require (z.pfx ≠ 0) AilsaError.noData : ZoneProg Unit) = pure () := by
    rw [decide_eq_true (by have := z.eight_le; omega), Prog.require_true]
  have hindex : (ret (getZoneIndex z.pfx) w).1 = .ok z.subZones := getZoneIndex_eq z
  rw [getFwdRecords, hpfx, Prog.pure_bind_run, (readOnly_ret _).bind_run_of_ok hindex]
  refine collect_ok_iff (fun _ => (readOnly_ret _).bind fun _ =>
    (readOnly_query _ _ _ _ _).bind fun _ => Prog.ReadOnly.pure _) fun i hi a => ?_
  exact getFwdRecords_round (List.mem_range.mp hi)

/-! ## Exactness -/

/-- The rounds see each record with an octet prefix once. -/
theorem flatMap_subZoneRecords_perm (z : RevZone) (db : ZoneDb) :
    ((List.range z.subZones).flatMap (subZoneRecords z db)).Perm
      (db.records.filter (HasOctetPrefix z ·.destination)) :=
  flatMap_filter_perm (fun i (r : DnsRecord) => z.octetPrefix i <+: r.destination) _
    List.nodup_range
    fun _ hi _ hj _ _ => octetPrefix_unique (List.mem_range.mp hi) (List.mem_range.mp hj)

theorem length_filled (z : RevZone) (db : ZoneDb) : (filled z db).length =
    (db.records.filter (HasOctetPrefix z ·.destination)).length := by
  rw [← (flatMap_subZoneRecords_perm z db).length_eq, filled, List.length_flatMap,
    List.length_flatMap]
  simp only [fillFwdRecords, List.length_map]

/-- Where only addresses have an octet prefix, the rounds fill in the entries of their
sub-zone. -/
theorem filled_perm (h : OnlyAddresses z w.db) : (filled z w.db).Perm (blockEntries z w.db) := by
  have hblock : w.db.records.filter (HasOctetPrefix z ·.destination) =
      w.db.records.filter (IsBlockA z) := by
    refine List.filter_congr fun r hr => decide_eq_decide.mpr ?_
    rw [isBlockA_iff]
    exact ⟨fun hpre => ⟨hpre, h r hr hpre⟩, And.left⟩
  rw [blockEntries, ← hblock]
  refine List.Perm.trans (.of_eq ?_)
    ((flatMap_subZoneRecords_perm z w.db).map (fwdEntry z w.db))
  rw [filled, List.map_flatMap]
  refine List.flatMap_congr fun i hi => ?_
  rw [fillFwdRecords, List.map_map]
  refine List.map_congr_left fun r hr => ?_
  obtain ⟨hr, hpre⟩ := List.mem_filter.mp hr
  have hpre := of_decide_eq_true hpre
  obtain ⟨a, ha⟩ := Option.isSome_iff_exists.mp (h r hr ⟨i, hi, hpre⟩).2
  rw [inetPton_eq_some_iff.mp ha,
    RevZone.octetPrefix_prefix_text_iff (List.mem_range.mp hi)] at hpre
  rw [Function.comp_apply, fwdEntry, ha, Option.elim_some, index_fwdEntry hpre]

/-- When `get_fwd_records` succeeds, and it does if its queries do, the list holds one
entry for each `A` record of the block and no other iff only `A` records with an address
have a destination with an octet prefix of the block. -/
theorem getFwdRecords_exact_iff (env : ZoneEnv) (z : RevZone) (w : ZoneWorld) :
    (∀ l, (getFwdRecords env z.range z.pfx w).1 = .ok l →
      (l.Perm (blockEntries z w.db) ↔ OnlyAddresses z w.db)) ∧
    (env.SqlOk → ∃ l, (getFwdRecords env z.range z.pfx w).1 = .ok l) := by
  refine ⟨fun l hl => ?_, fun h => ⟨_, getFwdRecords_ok_iff.mpr ⟨fun _ _ => h _ _ _, rfl⟩⟩⟩
  obtain ⟨-, rfl⟩ := getFwdRecords_ok_iff.mp hl
  refine ⟨fun hperm r hr hpre => ?_, filled_perm⟩
  have hlen := hperm.length_eq
  rw [length_filled, blockEntries, List.length_map] at hlen
  have hall := forall_of_length_filter_eq (fun r _ hr => ?_) hlen.symm r hr (decide_eq_true hpre)
  · exact (isBlockA_iff.mp (of_decide_eq_true hall)).2
  · exact decide_eq_true (isBlockA_iff.mp (of_decide_eq_true hr)).1

/-- `example.com` with a `TXT` record `10.0.2.5`. -/
def txtWorld : ZoneWorld where
  db :=
    { zones := [⟨1, "example.com".toList, "ns.example.com".toList, "none".toList, 1, 1, 1, 1, 1,
        "yes".toList, "no".toList, "master".toList, none⟩]
      records := [⟨1, 1, "build".toList, "TXT".toList, none, none, 0, "10.0.2.5".toList⟩]
      glueZones := []
      revZones := []
      revRecords := []
      preferredA := [] }
  files := []

/-- The text record of the block `10.0.2.0/24` is entered like an address. -/
theorem getFwdRecords_txtWorld_not_exact :
    RevZone.ten24.net.toNat + 2 ^ (32 - RevZone.ten24.pfx) ≤ 4294967295 ∧
    ∃ l, (getFwdRecords (noClock true) RevZone.ten24.range RevZone.ten24.pfx txtWorld).1 = .ok l ∧
      ¬l.Perm (blockEntries RevZone.ten24 txtWorld.db) := by
  refine ⟨by decide, _, getFwdRecords_ok_iff.mpr ⟨fun _ _ => rfl, rfl⟩, fun h => ?_⟩
  have hlen := h.length_eq
  rw [length_filled] at hlen
  revert hlen
  decide

end Cmdb
