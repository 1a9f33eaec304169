import Cmdb.AilList
import Cmdb.ListSequence
import Cmdb.ZoneOps

/-!
# Records of the preferred addresses

`cmdb_trim_record_list` walks the list of records once for each preferred address, and takes
elements out of it on the way : an inner one through the element before it, the first one
through the head of the list. `trimLoop_run` is one such walk, over what is left behind the
elements that were kept. `cmdbTrimRecordList_run` is the function, on lists of any length, and
`trimmed_data` says that it computes what the rebuild is modelled with.
-/

namespace Cmdb

open CString DoublyLinked

variable {A : Type}

/-! ## Data -/

def ailsaListNoDestroy : ℤ := 209
def ailsaListCannotRemove : ℤ := 210

/-- An entry of the list of preferred addresses (`ailsa_preferred_s`). `fill_pref_records`
copies at most `HOST_LEN` characters of the address. -/
structure AilsaPreferred extends PreferredA where
  ip_length : ip.length ≤ hostLen

/-- What the elements of the two lists point to. -/
inductive RebuildData
  | record (rec : AilsaRecord)
  | preferred (pref : AilsaPreferred)

def recordCell (c : A × AilsaRecord) : A × Option RebuildData := (c.1, some (.record c.2))

def preferredCell (c : A × AilsaPreferred) : A × Option RebuildData :=
  (c.1, some (.preferred c.2))

/-- No entry of the address of the record names another record. -/
def KeptBy (ps : List AilsaPreferred) (rec : AilsaRecord) : Prop :=
  ∀ pref ∈ ps, pref.ip = rec.dest → rec.id = pref.recordId

instance (ps : List AilsaPreferred) (rec : AilsaRecord) : Decidable (KeptBy ps rec) :=
  inferInstanceAs (Decidable (∀ pref ∈ ps, pref.ip = rec.dest → rec.id = pref.recordId))

/-! ## The function -/

/-- `record->data` as an `ailsa_record_s` -/
def recordOf : Option RebuildData → ListProg A RebuildData AilsaRecord
  | some (.record rec) => pure rec
  | _ => Prog.fail .badPointer

/-- `preferred->data` as an `ailsa_preferred_s` -/
def preferredOf : Option RebuildData → ListProg A RebuildData AilsaPreferred
  | some (.preferred pref) => pure pref
  | _ => Prog.fail .badPointer

variable [DecidableEq A]

namespace Mem

/-- The loop over the records, from `record` on. -/
def trimLoop (preferred : Option A) : ℕ → Option A → ListProg A RebuildData ℤ
  | 0, _ => Prog.fail .noTurns
  | _ + 1, none => pure 0
  | turns + 1, some a => do
    let p ← deref preferred
    let pref ← preferredOf p.data
    let record ← deref (some a)
    let rec ← recordOf record.data
    if StrncmpEq pref.ip rec.dest domainLen ∧ rec.id ≠ pref.recordId then
      match record.prev with
      | some tmp =>
        let before ← deref (some tmp)
        let (retval, data) ← ailsaListRemove before.next none
        if retval = 0 then
          destroyData data
          let before ← deref (some tmp)
          trimLoop preferred turns before.next
        else
          return ailsaListCannotRemove
      | none =>
        let r ← getList
        let (retval, data) ← ailsaListRemove r.head none
        if retval = 0 then
          destroyData data
          let r ← getList
          trimLoop preferred turns r.head
        else
          return ailsaListCannotRemove
    else
      trimLoop preferred turns record.next

/-- The loop over the preferred addresses, from `preferred` on. -/
def preferredLoop : ℕ → Option A → ListProg A RebuildData ℤ
  | 0, _ => Prog.fail .noTurns
  | _ + 1, none => pure 0
  | turns + 1, some a => do
    let r ← getList
    let retval ← trimLoop (some a) turns r.head
    if retval = 0 then
      let p ← deref (some a)
      preferredLoop turns p.next
    else
      return retval

/-- `r` is the list in memory and `p` another one, neither of them `NULL`. -/
def cmdbTrimRecordList (turns : ℕ) (p : AilList A) : ListProg A RebuildData ℤ := do
  let r ← getList
  if r.total = 0 ∨ p.total = 0 then
    return 0
  if ¬r.destroy then
    return ailsaListNoDestroy
  preferredLoop turns p.head

end Mem

/-! ## Runs -/

variable {m : ListMem A RebuildData} {a : A} {q q' : Option A} {pref : AilsaPreferred}
  {l₁ l₂ : List (A × Option RebuildData)} {c : A × AilsaRecord} {rs : List (A × AilsaRecord)}
  {turns : ℕ}

omit [DecidableEq A] in
theorem strncmpEq_dest_iff {rec : AilsaRecord} :
    StrncmpEq pref.ip rec.dest domainLen ↔ pref.ip = rec.dest :=
  strncmpEq_iff (pref.ip_length.trans_lt (by decide))

/-- The record behind `l₁` is taken out and destroyed. -/
def ListMem.withoutRecord (m : ListMem A RebuildData) (l₁ : List (A × Option RebuildData))
    (c : A × AilsaRecord) (l₂ : List (A × Option RebuildData)) : ListMem A RebuildData :=
  { m.unlinked l₁ (recordCell c) l₂ with destroyed := m.destroyed ++ [some (.record c.2)] }

theorem ListMem.Holds.withoutRecord (hm : m.Holds (l₁ ++ recordCell c :: l₂)) :
    (m.withoutRecord l₁ c l₂).Holds (l₁ ++ l₂) := hm.unlinked

/-- A record of the address that is another one is taken out, and the walk goes on behind it. -/
theorem trimLoop_remove (ha : m.heap a = some ⟨q, q', some (.preferred pref)⟩)
    (hm : m.Holds (l₁ ++ recordCell c :: l₂)) (hip : pref.ip = c.2.dest)
    (hid : c.2.id ≠ pref.recordId) :
    Mem.trimLoop (some a) (turns + 1) (some c.1) m =
      Mem.trimLoop (some a) turns (first l₂ none) (m.withoutRecord l₁ c l₂) := by
  obtain ⟨hl₁, hcell, -⟩ := segment_append.mp hm.segment
  have hc : m.heap c.1 = some ⟨last none l₁, first l₂ none, some (.record c.2)⟩ := hcell
  have hgo : StrncmpEq pref.ip c.2.dest domainLen ∧ c.2.id ≠ pref.recordId :=
    ⟨strncmpEq_dest_iff.mpr hip, hid⟩
  have hrun : ailsaListRemove (some c.1) none m =
      (.ok (0, some (.record c.2)), m.unlinked l₁ (recordCell c) l₂) := ailsaListRemove_member hm
  have hm' := hm.withoutRecord
  rw [Mem.trimLoop, deref_bind ha]
  simp only [preferredOf, Prog.pure_bind_run]
  rw [deref_bind hc]
  simp only [recordOf, Prog.pure_bind_run]
  rw [if_pos hgo]
  cases l₁ using List.reverseRecOn with
  | nil =>
    dsimp only [last_nil]
    have hhead : m.list.head = some c.1 := hm.head_eq
    rw [getList_bind, hhead, Prog.bind_run_ok hrun, if_pos rfl, destroyData_bind, getList_bind]
    rfl
  | append_singleton l₁ b =>
    -- the element before it leads to it, and past it once it is gone
    have hb : m.heap b.1 = some ⟨last none l₁, some c.1, b.2⟩ := (segment_append.mp hl₁).2.1
    obtain ⟨-, hb', -⟩ := segment_append.mp (segment_append.mp hm'.segment).1
    simp only [last_append, last_cons, last_nil]
    rw [deref_bind hb]
    dsimp only
    rw [Prog.bind_run_ok hrun, if_pos rfl, destroyData_bind]
    exact deref_bind hb' _

/-- Another record stays, and the walk goes on behind it. -/
theorem trimLoop_keep (ha : m.heap a = some ⟨q, q', some (.preferred pref)⟩)
    (hm : m.Holds (l₁ ++ recordCell c :: l₂)) (hc : pref.ip = c.2.dest → c.2.id = pref.recordId) :
    Mem.trimLoop (some a) (turns + 1) (some c.1) m =
      Mem.trimLoop (some a) turns (first l₂ none) m := by
  obtain ⟨-, hcell, -⟩ := segment_append.mp hm.segment
  have hcell : m.heap c.1 = some ⟨last none l₁, first l₂ none, some (.record c.2)⟩ := hcell
  have hstay : ¬(StrncmpEq pref.ip c.2.dest domainLen ∧ c.2.id ≠ pref.recordId) :=
    fun h => h.2 (hc (strncmpEq_dest_iff.mp h.1))
  rw [Mem.trimLoop, deref_bind ha]
  simp only [preferredOf, Prog.pure_bind_run]
  rw [deref_bind hcell]
  simp only [recordOf, Prog.pure_bind_run]
  rw [if_neg hstay]

/-- What the walks over the records leave of memory : the records that are kept, a list that
can be destroyed, and everything else as it was. -/
structure TrimmedTo (m m' : ListMem A RebuildData) (l l' : List (A × Option RebuildData)) :
    Prop where
  holds : m'.Holds l'
  destroy : m'.list.destroy = m.list.destroy
  unchanged : ∀ a ∉ addrs l, m'.heap a = m.heap a

/-- The records one preferred address keeps. -/
def keptByOne (pref : AilsaPreferred) (rs : List (A × AilsaRecord)) : List (A × AilsaRecord) :=
  rs.filter fun c => pref.ip = c.2.dest → c.2.id = pref.recordId

/-- The walk for one preferred address, over the records behind `l₁`. -/
theorem trimLoop_run : ∀ {rs : List (A × AilsaRecord)} {l₁ : List (A × Option RebuildData)}
    {m : ListMem A RebuildData}, m.heap a = some ⟨q, q', some (.preferred pref)⟩ →
    a ∉ addrs (l₁ ++ rs.map recordCell) → m.Holds (l₁ ++ rs.map recordCell) →
    ∃ m', (∀ turns, rs.length < turns →
        Mem.trimLoop (some a) turns (first (rs.map recordCell) none) m = (.ok 0, m')) ∧
      TrimmedTo m m' (l₁ ++ rs.map recordCell) (l₁ ++ (keptByOne pref rs).map recordCell)
  | [], l₁, m, _, _, hm => by
    refine ⟨m, fun turns hturns => ?_, hm, rfl, fun _ _ => rfl⟩
    obtain ⟨turns, rfl⟩ := Nat.exists_eq_succ_of_ne_zero hturns.ne'
    rfl
  | c :: rs, l₁, m, ha, hdisj, hm => by
    by_cases hc : pref.ip = c.2.dest → c.2.id = pref.recordId
    · -- the record joins what is in front
      have happ : l₁ ++ (c :: rs).map recordCell =
          (l₁ ++ [recordCell c]) ++ rs.map recordCell := List.append_cons ..
      have hkept : keptByOne pref (c :: rs) = c :: keptByOne pref rs :=
        List.filter_cons_of_pos (decide_eq_true hc)
      have happ' : l₁ ++ (keptByOne pref (c :: rs)).map recordCell =
          (l₁ ++ [recordCell c]) ++ (keptByOne pref rs).map recordCell := by
        rw [hkept]
        exact List.append_cons ..
      obtain ⟨m', hrun, htrim⟩ := trimLoop_run ha (happ ▸ hdisj) (happ ▸ hm)
      refine ⟨m', fun turns hturns => ?_, ?_⟩
      · obtain ⟨turns, rfl⟩ := Nat.exists_eq_succ_of_ne_zero (Nat.zero_lt_of_lt hturns).ne'
        exact (trimLoop_keep ha hm hc).trans (hrun turns (Nat.lt_of_succ_lt_succ hturns))
      · rw [happ, happ']
        exact htrim
    · obtain ⟨hip, hid⟩ := Classical.not_imp.mp hc
      have hkept : keptByOne pref (c :: rs) = keptByOne pref rs :=
        List.filter_cons_of_neg (by simpa using hc)
      have hheap : ∀ b ∉ addrs (l₁ ++ (c :: rs).map recordCell),
          (m.withoutRecord l₁ c (rs.map recordCell)).heap b = m.heap b :=
        fun b hb => unlink_of_not_mem hb
      have hsub : ∀ b, b ∈ addrs (l₁ ++ rs.map recordCell) →
          b ∈ addrs (l₁ ++ (c :: rs).map recordCell) := by
        intro b hb
        rw [addrs_append, List.mem_append] at hb ⊢
        exact hb.imp_right (List.mem_cons_of_mem _)
      obtain ⟨m', hrun, htrim⟩ := trimLoop_run ((hheap a hdisj).trans ha)
        (mt (hsub a) hdisj) hm.withoutRecord
      refine ⟨m', fun turns hturns => ?_, ?_⟩
      · obtain ⟨turns, rfl⟩ := Nat.exists_eq_succ_of_ne_zero (Nat.zero_lt_of_lt hturns).ne'
        exact (trimLoop_remove ha hm hip hid).trans (hrun turns (Nat.lt_of_succ_lt_succ hturns))
      · rw [hkept]
        exact ⟨htrim.holds, htrim.destroy, fun b hb =>
          (htrim.unchanged b (mt (hsub b) hb)).trans (hheap b hb)⟩

/-- The records that all the entries keep. -/
def keptByAll (ps : List (A × AilsaPreferred)) (rs : List (A × AilsaRecord)) :
    List (A × AilsaRecord) := rs.filter fun c => KeptBy (ps.map Prod.snd) c.2

omit [DecidableEq A] in
theorem keptByAll_cons (p : A × AilsaPreferred) (ps : List (A × AilsaPreferred)) :
    keptByAll (p :: ps) rs = keptByAll ps (keptByOne p.2 rs) := by
  rw [keptByAll, keptByAll, keptByOne, List.filter_filter]
  refine List.filter_congr fun c _ => ?_
  rw [← Bool.decide_and, decide_eq_decide, KeptBy, List.map_cons, List.forall_mem_cons, and_comm,
    KeptBy]

omit [DecidableEq A] in
theorem mem_addrs_keptByOne (h : a ∈ addrs ((keptByOne pref rs).map recordCell)) :
    a ∈ addrs (rs.map recordCell) := by
  rw [addrs, List.map_map] at h ⊢
  exact (List.filter_sublist.map _).subset h

/-- The walks for the preferred addresses behind `q`. -/
theorem preferredLoop_run : ∀ {ps : List (A × AilsaPreferred)} {rs : List (A × AilsaRecord)}
    {q : Option A} {m : ListMem A RebuildData}, Segment m.heap q (ps.map preferredCell) none →
    (∀ p ∈ ps, p.1 ∉ addrs (rs.map recordCell)) → m.Holds (rs.map recordCell) →
    ∃ m', (∀ turns, rs.length + ps.length < turns →
        Mem.preferredLoop turns (first (ps.map preferredCell) none) m = (.ok 0, m')) ∧
      TrimmedTo m m' (rs.map recordCell) ((keptByAll ps rs).map recordCell)
  | [], rs, _, m, _, _, hm => by
    have hall : keptByAll ([] : List (A × AilsaPreferred)) rs = rs :=
      List.filter_eq_self.mpr fun _ _ => decide_eq_true (List.forall_mem_nil _)
    refine ⟨m, fun turns hturns => ?_, ?_, rfl, fun _ _ => rfl⟩
    · obtain ⟨turns, rfl⟩ := Nat.exists_eq_succ_of_ne_zero (Nat.zero_lt_of_lt hturns).ne'
      rfl
    · rwa [hall]
  | p :: ps, rs, q, m, hs, hdisj, hm => by
    have hp : p.1 ∉ addrs (rs.map recordCell) := hdisj p (List.mem_cons_self ..)
    have hnode : m.heap p.1 =
      some ⟨q, first (ps.map preferredCell) none, some (.preferred p.2)⟩ := hs.1
    have hnil : m.Holds ([] ++ rs.map recordCell) := hm
    obtain ⟨m₁, hrun₁, htrim₁⟩ := trimLoop_run hnode hp hnil
    -- the rest of the preferred addresses is where it was
    have hs₁ : Segment m₁.heap (some p.1) (ps.map preferredCell) none := by
      refine hs.2.congr fun b hb => htrim₁.unchanged b ?_
      obtain ⟨_, hc, rfl⟩ := List.mem_map.mp hb
      obtain ⟨p', hp', rfl⟩ := List.mem_map.mp hc
      exact hdisj p' (List.mem_cons_of_mem _ hp')
    have hdisj₁ : ∀ p' ∈ ps, p'.1 ∉ addrs ((keptByOne p.2 rs).map recordCell) :=
      fun p' hp' h => hdisj p' (List.mem_cons_of_mem _ hp') (mem_addrs_keptByOne h)
    obtain ⟨m', hrun, htrim⟩ := preferredLoop_run hs₁ hdisj₁ htrim₁.holds
    refine ⟨m', fun turns hturns => ?_, ?_⟩
    · obtain ⟨turns, rfl⟩ := Nat.exists_eq_succ_of_ne_zero (Nat.zero_lt_of_lt hturns).ne'
      have hlen : (keptByOne p.2 rs).length ≤ rs.length := List.length_filter_le ..
      rw [List.length_cons] at hturns
      have hhead : m.list.head = first (rs.map recordCell) none := hm.head_eq
      rw [List.map_cons, first_cons, preferredCell, Mem.preferredLoop, getList_bind, hhead,
        Prog.bind_run_ok (hrun₁ turns (by omega)), if_pos rfl,
        deref_bind ((htrim₁.unchanged _ hp).trans hnode)]
      exact hrun turns (by omega)
    · rw [keptByAll_cons]
      exact ⟨htrim.holds, htrim.destroy.trans htrim₁.destroy, fun b hb =>
        (htrim.unchanged b fun h => hb (mem_addrs_keptByOne h)).trans (htrim₁.unchanged b hb)⟩

omit [DecidableEq A] in
theorem keptByAll_of_length_eq_zero {ps : List (A × AilsaPreferred)}
    (h : rs.length = 0 ∨ ps.length = 0) : keptByAll ps rs = rs := by
  obtain h | h := h
  · rw [List.eq_nil_of_length_eq_zero h]
    rfl
  · rw [List.eq_nil_of_length_eq_zero h]
    exact List.filter_eq_self.mpr fun _ _ => decide_eq_true (List.forall_mem_nil _)

/-- The function on two lists that share no element. -/
theorem cmdbTrimRecordList_run {p : AilList A} {ps : List (A × AilsaPreferred)}
    (hr : m.Holds (rs.map recordCell))
    (hp : Represents m.heap p.head p.tail p.total (ps.map preferredCell))
    (hdisj : ∀ c ∈ ps, c.1 ∉ addrs (rs.map recordCell)) (hdestroy : m.list.destroy = true) :
    ∃ m', (∀ turns, rs.length + ps.length < turns →
        Mem.cmdbTrimRecordList turns p m = (.ok 0, m')) ∧
      TrimmedTo m m' (rs.map recordCell) ((keptByAll ps rs).map recordCell) := by
  have hlen : m.list.total = rs.length := hr.total_eq.trans (List.length_map _)
  have hlen' : p.total = ps.length := hp.total_eq.trans (List.length_map _)
  by_cases hempty : rs.length = 0 ∨ ps.length = 0
  · refine ⟨m, fun turns _ => ?_, ?_, rfl, fun _ _ => rfl⟩
    · rw [Mem.cmdbTrimRecordList, getList_bind, hlen, hlen', if_pos hempty, Prog.pure_run]
    · rwa [keptByAll_of_length_eq_zero hempty]
  · obtain ⟨m', hrun, htrim⟩ := preferredLoop_run hp.segment hdisj hr
    refine ⟨m', fun turns hturns => ?_, htrim⟩
    rw [Mem.cmdbTrimRecordList, getList_bind, hlen, hlen', if_neg hempty,
      if_neg (not_not.mpr hdestroy), hp.head_eq]
    exact hrun turns hturns

/-- After the function the list has the records that no preferred entry of their address
excludes, in order, and is well formed, and the preferred entries are as they were. -/
theorem cmdbTrimRecordList_keeps {p : AilList A} {ps : List (A × AilsaPreferred)}
    (hr : m.Holds (rs.map recordCell))
    (hp : Represents m.heap p.head p.tail p.total (ps.map preferredCell))
    (hdisj : ∀ c ∈ ps, c.1 ∉ addrs (rs.map recordCell)) (hdestroy : m.list.destroy = true) :
    ∃ m', (∀ turns, rs.length + ps.length < turns →
        Mem.cmdbTrimRecordList turns p m = (.ok 0, m')) ∧
      m'.WellFormed ((rs.filter fun c => KeptBy (ps.map Prod.snd) c.2).map recordCell) ∧
      WellFormed m'.heap p.head p.tail p.total (ps.map preferredCell) ∧
      ∀ c ∈ ps, m'.heap c.1 = m.heap c.1 := by
  obtain ⟨m', hrun, htrim⟩ := cmdbTrimRecordList_run hr hp hdisj hdestroy
  have hsame : ∀ c ∈ ps, m'.heap c.1 = m.heap c.1 := fun c hc => htrim.unchanged _ (hdisj c hc)
  have hp' : Represents m'.heap p.head p.tail p.total (ps.map preferredCell) := by
    refine hp.congr fun b hb => ?_
    obtain ⟨_, hcell, rfl⟩ := List.mem_map.mp hb
    obtain ⟨c, hc, rfl⟩ := List.mem_map.mp hcell
    exact hsame c hc
  exact ⟨m', hrun, htrim.holds.wellFormed, hp'.wellFormed, hsame⟩

/-- Three records of two addresses, the first at address `1`, and at `4` a preferred entry that
names the second of them. -/
def trimSample : ListMem ℕ RebuildData where
  heap
    | 1 => some ⟨none, some 2, some (.record ⟨"a".toList, "10.0.0.5".toList, [], 7, 1, 0⟩)⟩
    | 2 => some ⟨some 1, some 3, some (.record ⟨"b".toList, "10.0.0.5".toList, [], 8, 1, 0⟩)⟩
    | 3 => some ⟨some 2, none, some (.record ⟨"c".toList, "10.0.0.6".toList, [], 9, 1, 0⟩)⟩
    | 4 => some ⟨none, none, some (.preferred ⟨⟨"10.0.0.5".toList, [], 8⟩, by decide⟩)⟩
    | _ => none
  list := ⟨3, some 1, some 3, true⟩
  destroyed := []

/-- The first record goes. -/
theorem cmdbTrimRecordList_keeps_two :
    ∃ m', (∀ turns, 4 < turns →
        Mem.cmdbTrimRecordList turns ⟨1, some 4, some 4, true⟩ trimSample = (.ok 0, m')) ∧
      m'.WellFormed [recordCell (2, ⟨"b".toList, "10.0.0.5".toList, [], 8, 1, 0⟩),
        recordCell (3, ⟨"c".toList, "10.0.0.6".toList, [], 9, 1, 0⟩)] := by
  have hr : trimSample.Holds ([(1, ⟨"a".toList, "10.0.0.5".toList, [], 7, 1, 0⟩),
      (2, ⟨"b".toList, "10.0.0.5".toList, [], 8, 1, 0⟩),
      (3, ⟨"c".toList, "10.0.0.6".toList, [], 9, 1, 0⟩)].map recordCell) :=
    ⟨by decide, ⟨rfl, rfl, rfl, trivial⟩, rfl, rfl, rfl⟩
  have hp : Represents trimSample.heap (some 4) (some 4) 1
      ([(4, ⟨⟨"10.0.0.5".toList, [], 8⟩, by decide⟩)].map preferredCell) :=
    ⟨by decide, ⟨rfl, trivial⟩, rfl, rfl, rfl⟩
  obtain ⟨m', hrun, hm', -⟩ :=
    cmdbTrimRecordList_keeps (p := ⟨1, some 4, some 4, true⟩) hr hp (by decide) rfl
  exact ⟨m', hrun, hm'⟩

/-! ## The rebuild -/

omit [DecidableEq A] in
/-- The records that are left are those the rebuild goes on with. -/
theorem trimmed_data : ∀ (ps : List (A × AilsaPreferred)) (rs : List (A × AilsaRecord)),
    (keptByAll ps rs).map Prod.snd =
      cmdbTrimRecordList (rs.map Prod.snd) (ps.map fun p => p.2.toPreferredA)
  | [], rs => by rw [keptByAll_of_length_eq_zero (.inr rfl)]; rfl
  | p :: ps, rs => by
    have hone : (keptByOne p.2 rs).map Prod.snd = (rs.map Prod.snd).filter fun record =>
        ¬(StrncmpEq p.2.ip record.dest domainLen ∧ record.id ≠ p.2.recordId) := by
      rw [List.filter_map, keptByOne]
      refine congrArg _ (List.filter_congr fun c _ => ?_)
      rw [Function.comp_apply, decide_eq_decide, strncmpEq_dest_iff, not_and, not_not]
    rw [keptByAll_cons, trimmed_data ps, hone, cmdbTrimRecordList, cmdbTrimRecordList,
      List.map_cons, List.foldl_cons]

end Cmdb
