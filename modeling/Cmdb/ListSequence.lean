import Cmdb.AilList

/-!
# The linked list as a sequence

Each function of the list does one thing to the sequence of its elements, or fails and
leaves the list as it was. `ailList_sequence` says it of every run of them on a list that
begins empty, with the links and the counter right after each call.
-/

namespace Cmdb

open DoublyLinked History

variable {A D : Type} [DecidableEq A]

/-! ## Sequences -/

/-- The elements of a list, with their data. -/
abbrev Cells (A D : Type) := List (A × Option D)

namespace Cells

variable (l : Cells A D) (cell : A × Option D)

/-- A new element after another one, or as the only one. -/
def insertAfter : Option A → Option (Cells A D)
  | none => if l.isEmpty then some [cell] else none
  | some a => some (l.insertIdx (position l a + 1) cell)

/-- A new element before another one, or as the only one. -/
def insertBefore : Option A → Option (Cells A D)
  | none => if l.isEmpty then some [cell] else none
  | some a => some (l.insertIdx (position l a) cell)

/-- A new element where `action` says, which for two of the actions is at `ptr`. -/
def insertAt (ptr : Option A) (action : ℤ) : Option (Cells A D) :=
  if action = ailsaBefore then ptr.bind fun a => insertBefore l cell (some a)
  else if action = ailsaAfter then ptr.bind fun a => insertAfter l cell (some a)
  else if action = ailsaHead then some (cell :: l)
  else if action = ailsaTail then some (l ++ [cell])
  else none

/-- The `len` elements from `a` on are deleted. -/
def deleteRun (a : A) (len : ℕ) : Cells A D :=
  l.take (position l a) ++ l.drop (position l a + len)

end Cells

/-! ## Calls -/

/-- A call of one of the functions, `new` the address of the node it makes. -/
inductive ListOp (A D : Type)
  | insNext (new : A) (element : Option A) (data : Option D)
  | insPrev (new : A) (element : Option A) (data : Option D)
  | insert (new : A) (data : Option D)
  | insertClone (new : A) (copy ptr : Option A) (action : ℤ) (size : ℕ)
  | remove (element : Option A)
  | removeElements (e : Option A) (len : ℕ)
deriving DecidableEq, Repr

namespace ListOp

variable (memcpy : Option D → ℕ → D) (m : ListMem A D) (l : Cells A D)

def run : ListOp A D → ListProg A D ℤ
  | insNext new element data => ailsaListInsNext new element data
  | insPrev new element data => ailsaListInsPrev new element data
  | insert new data => ailsaListInsert new data
  | insertClone new copy ptr action size => ailsaListInsertClone memcpy new copy ptr action size
  | remove element => do
    let (retval, _) ← ailsaListRemove element none
    return retval
  | removeElements e len => ailsaListRemoveElements e len

/-- What the call does to the sequence, or nothing if it fails. -/
def spec : ListOp A D → Option (Cells A D)
  | insNext new element data => l.insertAfter (new, data) element
  | insPrev new element data => l.insertBefore (new, data) element
  | insert new data => data.map fun d => l ++ [(new, some d)]
  | insertClone new copy ptr action size => copy.bind fun c =>
    if size = 0 then none
    else l.insertAt (new, some (memcpy ((m.heap c).bind Node.data) size)) ptr action
  | remove element => element.map fun a => l.eraseIdx (position l a)
  | removeElements e len => e.map fun a => l.deleteRun a len

/-- An element argument is `NULL` or of the list. -/
def Member (element : Option A) : Prop := ∀ a, element = some a → a ∈ addrs l

/-- The node that is made is new, the element arguments are of the list, a run of elements
is as long as it says, and the element that is cloned is in memory. -/
def Valid : ListOp A D → Prop
  | insNext new element _ => m.heap new = none ∧ Member l element
  | insPrev new element _ => m.heap new = none ∧ Member l element
  | insert new _ => m.heap new = none
  | insertClone new copy ptr _ _ =>
    m.heap new = none ∧ (∀ a, copy = some a → Live m.heap (some a)) ∧ Member l ptr
  | remove element => Member l element
  | removeElements e len => Member l e ∧ ∀ a, e = some a → position l a + len ≤ l.length

end ListOp

/-! ## Runs -/

/-- A list in memory, and the sequence it stands for. -/
abbrev ListState (A D : Type) := ListMem A D × Cells A D

def ListMem.WellFormed (m : ListMem A D) (l : Cells A D) : Prop :=
  DoublyLinked.WellFormed m.heap m.list.head m.list.tail m.list.total l

omit [DecidableEq A] in
theorem ListMem.WellFormed.holds {m : ListMem A D} {l : Cells A D} (hm : m.WellFormed l) :
    m.Holds l :=
  hm.represents

namespace ListOp

/-- A call, and what it should do to the sequence. -/
def step (memcpy : Option D → ℕ → D) (s : ListState A D) (op : ListOp A D) : ListState A D :=
  ((op.run memcpy s.1).2, (op.spec memcpy s.1 s.2).getD s.2)

/-- The call returns, with `0` unless it fails, the list is well formed after it and has the
elements it should, and it is unchanged after a call that fails. -/
structure StepRight (memcpy : Option D → ℕ → D) (s : ListState A D) (op : ListOp A D) : Prop where
  returns : ∃ retval, (op.run memcpy s.1).1 = .ok retval ∧
    (retval = 0 ↔ op.spec memcpy s.1 s.2 ≠ none)
  wellFormed : (step memcpy s op).1.WellFormed (step memcpy s op).2
  unchanged : op.spec memcpy s.1 s.2 = none → (step memcpy s op).1 = s.1

end ListOp

/-! ## Outcomes -/

/-- A call returns `0` and leaves the list of `s`, or returns another code and changes
nothing. -/
def ListOutcome (m : ListMem A D) (r : Except MemFault ℤ × ListMem A D) :
    Option (Cells A D) → Prop
  | some l => ∃ m', r = (.ok 0, m') ∧ m'.Holds l ∧ m'.list.destroy = m.list.destroy
  | none => ∃ retval, retval ≠ 0 ∧ r = (.ok retval, m)

variable {m : ListMem A D} {l l₁ l₂ : Cells A D} {new : A} {element copy ptr e : Option A}
  {data : Option D} {action : ℤ} {size len : ℕ} {memcpy : Option D → ℕ → D}

theorem insNext_outcome (hm : m.Holds l) (hnew : m.heap new = none)
    (he : ListOp.Member l element) :
    ListOutcome m (ailsaListInsNext new element data m) (l.insertAfter (new, data) element) := by
  cases element with
  | none =>
    cases l with
    | nil => exact ⟨_, ailsaListInsNext_empty hm, hm.linked_nil hnew, rfl⟩
    | cons c l =>
      have htotal := hm.total_ne_zero (List.cons_ne_nil c l)
      exact ⟨-1, by decide, ailsaListInsNext_null htotal⟩
  | some a =>
    obtain ⟨l₁, c, l₂, rfl, rfl⟩ := exists_split (he a rfl)
    have hsplit : l₁ ++ c :: l₂ = (l₁ ++ [c]) ++ l₂ := List.append_cons ..
    have hpos : position (l₁ ++ c :: l₂) c.1 + 1 = (l₁ ++ [c]).length := by
      rw [position_middle hm.nodup, List.length_append, List.length_singleton]
    refine ⟨_, ailsaListInsNext_member hm hnew, ?_, rfl⟩
    rw [hpos, hsplit, insertIdx_length]
    exact ListMem.Holds.linked (hsplit ▸ hm) hnew

theorem insPrev_outcome (hm : m.Holds l) (hnew : m.heap new = none)
    (he : ListOp.Member l element) :
    ListOutcome m (ailsaListInsPrev new element data m) (l.insertBefore (new, data) element) := by
  cases element with
  | none =>
    cases l with
    | nil => exact ⟨_, ailsaListInsPrev_empty hm, hm.linked_nil hnew, rfl⟩
    | cons c l =>
      refine ⟨-1, by decide, ?_⟩
      rw [ailsaListInsPrev, getList_bind, if_pos ⟨rfl, hm.total_ne_zero (List.cons_ne_nil c l)⟩]
      rfl
  | some a =>
    obtain ⟨l₁, c, l₂, rfl, rfl⟩ := exists_split (he a rfl)
    refine ⟨_, ailsaListInsPrev_member hm hnew, ?_, rfl⟩
    rw [position_middle hm.nodup, insertIdx_length]
    exact hm.linked hnew

theorem insert_outcome (hm : m.Holds l) (hnew : m.heap new = none) :
    ListOutcome m (ailsaListInsert new data m) (data.map fun d => l ++ [(new, some d)]) := by
  cases data with
  | none => exact ⟨-1, by decide, rfl⟩
  | some d =>
    refine ⟨_, ailsaListInsert_run hm hnew (Option.some_ne_none d), ?_, rfl⟩
    exact ListMem.Holds.linked ((List.append_nil l).symm ▸ hm) hnew

theorem remove_outcome (hm : m.Holds l) (he : ListOp.Member l element) :
    ListOutcome m ((ListOp.remove element).run memcpy m)
      (element.map fun a => l.eraseIdx (position l a)) := by
  cases element with
  | none => exact ⟨-1, by decide, rfl⟩
  | some a =>
    obtain ⟨l₁, c, l₂, rfl, rfl⟩ := exists_split (he a rfl)
    refine ⟨m.unlinked l₁ c l₂, ?_, ?_, rfl⟩
    · exact Prog.bind_run_ok (ailsaListRemove_member hm) _
    · dsimp only
      rw [position_middle hm.nodup, eraseIdx_length]
      exact hm.unlinked

theorem removeElements_outcome (hm : m.Holds l) (hdestroy : m.list.destroy = true)
    (he : ListOp.Member l e) (hlen : ∀ a, e = some a → position l a + len ≤ l.length) :
    ListOutcome m (ailsaListRemoveElements e len m) (e.map fun a => l.deleteRun a len) := by
  cases e with
  | none => exact ⟨ailsaNoData, by decide, rfl⟩
  | some a =>
    have hlen := hlen a rfl
    obtain ⟨l₁, c, l₂, rfl, rfl⟩ := exists_split (he a rfl)
    rw [position_middle hm.nodup, List.length_append, Nat.add_le_add_iff_left] at hlen
    -- the run and what follows it
    obtain ⟨run, l₃, hsplit, rfl⟩ : ∃ run l₃, c :: l₂ = run ++ l₃ ∧ run.length = len :=
      ⟨_, _, (List.take_append_drop len _).symm, List.length_take_of_le hlen⟩
    have hfirst : first (run ++ l₃) none = some c.1 := by rw [← hsplit, first_cons]
    obtain ⟨m', hrun, hm', hdestroy'⟩ :=
      ailsaListRemoveElements_run (hsplit ▸ hm) hfirst hdestroy
    refine ⟨m', hrun, ?_, hdestroy'.trans hdestroy.symm⟩
    dsimp only [Cells.deleteRun]
    rw [position_middle hm.nodup, List.take_left, List.drop_length_add_append, hsplit,
      List.drop_left]
    exact hm'

omit [DecidableEq A] in
/-- An insert whose code goes through `cloneCode`. -/
theorem ListOutcome.clone {p : ListProg A D ℤ} {s : Option (Cells A D)}
    (h : ListOutcome m (p m) s) : ListOutcome m ((p >>= fun r => pure (cloneCode r)) m) s := by
  cases s with
  | none =>
    obtain ⟨retval, hne, hrun⟩ := h
    refine ⟨ailsaListCloneFailed, by decide, ?_⟩
    rw [Prog.bind_run_ok hrun, cloneCode, if_pos hne, Prog.pure_run]
  | some l =>
    obtain ⟨m', hrun, hm'⟩ := h
    exact ⟨m', Prog.bind_run_ok hrun _, hm'⟩

omit [DecidableEq A] in
theorem member_first : ListOp.Member l (first l none) := by
  intro a ha
  cases l with
  | nil => cases ha
  | cons c l =>
    cases ha
    exact List.mem_cons_self ..

omit [DecidableEq A] in
theorem member_last : ListOp.Member l (last none l) := by
  intro a ha
  rcases List.eq_nil_or_concat' l with rfl | ⟨l, c, rfl⟩
  · cases ha
  · rw [last_append] at ha
    cases ha
    rw [addrs_append]
    exact List.mem_append_right _ (List.mem_singleton_self _)

theorem insertBefore_first (cell : A × Option D) :
    l.insertBefore cell (first l none) = some (cell :: l) := by
  cases l with
  | nil => rfl
  | cons c l =>
    rw [first_cons, Cells.insertBefore, position, addrs_cons, List.idxOf_cons_self,
      List.insertIdx_zero]

theorem insertAfter_last (hn : (addrs l).Nodup) (cell : A × Option D) :
    l.insertAfter cell (last none l) = some (l ++ [cell]) := by
  rcases List.eq_nil_or_concat' l with rfl | ⟨l, c, rfl⟩
  · rfl
  · have hlen : l.length + 1 = (l ++ [c]).length := by
      rw [List.length_append, List.length_singleton]
    rw [last_append, last_cons, last_nil, Cells.insertAfter, position_middle hn, hlen,
      List.insertIdx_length_self]

theorem insertClone_outcome (hm : m.Holds l) (hnew : m.heap new = none)
    (hcopy : ∀ a, copy = some a → Live m.heap (some a)) (hptr : ListOp.Member l ptr) :
    ListOutcome m (ailsaListInsertClone memcpy new copy ptr action size m)
      ((ListOp.insertClone new copy ptr action size).spec memcpy m l) := by
  cases copy with
  | none => exact ⟨-1, by decide, rfl⟩
  | some a =>
  obtain ⟨a, n, ⟨⟩, ha⟩ := hcopy a rfl
  rw [ailsaListInsertClone, ListOp.spec, Option.bind_some, ha, Option.bind_some]
  by_cases hsize : size = 0
  · rw [if_pos (.inr (.inr hsize)), if_pos hsize]
    exact ⟨-1, by decide, rfl⟩
  rw [if_neg hsize]
  by_cases haction : action = 0
  · rw [if_pos (.inr (.inl haction)), haction]
    exact ⟨-1, by decide, rfl⟩
  have hgo : ¬(some a = none ∨ action = 0 ∨ size = 0) := by
    rintro (h | h | h)
    · cases h
    · exact haction h
    · exact hsize h
  rw [if_neg hgo, deref_bind ha, getList_bind, Cells.insertAt]
  by_cases hbefore : action = ailsaBefore
  · rw [if_pos hbefore, if_pos hbefore]
    cases ptr with
    | none => exact ⟨ailsaListCloneFailed, by decide, rfl⟩
    | some b => exact (insPrev_outcome hm hnew hptr).clone
  rw [if_neg hbefore, if_neg hbefore]
  by_cases hafter : action = ailsaAfter
  · rw [if_pos hafter, if_pos hafter]
    cases ptr with
    | none => exact ⟨ailsaListCloneFailed, by decide, rfl⟩
    | some b => exact (insNext_outcome hm hnew hptr).clone
  rw [if_neg hafter, if_neg hafter]
  by_cases hhead : action = ailsaHead
  · rw [if_pos hhead, if_pos hhead, hm.head_eq, ← insertBefore_first]
    exact (insPrev_outcome hm hnew member_first).clone
  rw [if_neg hhead, if_neg hhead]
  by_cases htail : action = ailsaTail
  · rw [if_pos htail, if_pos htail, hm.tail_eq, ← insertAfter_last hm.nodup]
    exact (insNext_outcome hm hnew member_last).clone
  rw [if_neg htail, if_neg htail]
  exact ⟨ailsaListCloneFailed, by decide, rfl⟩

theorem run_outcome (memcpy : Option D → ℕ → D) (op : ListOp A D) (hm : m.Holds l)
    (hdestroy : m.list.destroy = true) (hv : op.Valid m l) :
    ListOutcome m (op.run memcpy m) (op.spec memcpy m l) := by
  cases op with
  | insNext new element data => exact insNext_outcome hm hv.1 hv.2
  | insPrev new element data => exact insPrev_outcome hm hv.1 hv.2
  | insert new data => exact insert_outcome hm hv
  | insertClone new copy ptr action size => exact insertClone_outcome hm hv.1 hv.2.1 hv.2.2
  | remove element => exact remove_outcome hm hv
  | removeElements e len => exact removeElements_outcome hm hdestroy hv.1 hv.2

/-- One call on a list with a destructor. -/
theorem ListOp.step_right (op : ListOp A D) (hm : m.Holds l) (hdestroy : m.list.destroy = true)
    (hv : op.Valid m l) : op.StepRight memcpy (m, l) ∧
      (op.step memcpy (m, l)).1.Holds (op.step memcpy (m, l)).2 ∧
      (op.step memcpy (m, l)).1.list.destroy = true := by
  have h := run_outcome memcpy op hm hdestroy hv
  cases hs : op.spec memcpy m l with
  | none =>
    rw [hs] at h
    obtain ⟨retval, hne, hrun⟩ := h
    have hstep : op.step memcpy (m, l) = (m, l) := by rw [step, hrun, hs, Option.getD_none]
    rw [hstep]
    refine ⟨⟨⟨retval, congrArg Prod.fst hrun, ?_⟩, ?_, ?_⟩, hm, hdestroy⟩
    · exact iff_of_false hne (not_not.mpr hs)
    · rw [hstep]
      exact hm.wellFormed
    · rw [hstep]
      exact fun _ => rfl
  | some l' =>
    rw [hs] at h
    obtain ⟨m', hrun, hm', hdestroy'⟩ := h
    have hstep : op.step memcpy (m, l) = (m', l') := by rw [step, hrun, hs, Option.getD_some]
    rw [hstep]
    refine ⟨⟨⟨0, congrArg Prod.fst hrun, ?_⟩, ?_, ?_⟩, hm', hdestroy'.trans hdestroy⟩
    · exact iff_of_true rfl (hs ▸ Option.some_ne_none l')
    · rw [hstep]
      exact hm'.wellFormed
    · exact fun hnone => absurd (hs.symm.trans hnone) (Option.some_ne_none l')

/-- On a list that begins empty every call does what it should to the sequence of elements,
or fails and changes nothing, and leaves the links and the counter right. -/
theorem ailList_sequence (memcpy : Option D → ℕ → D) (heap : Heap A (Option D))
    (ops : List (ListOp A D))
    (hvalid : Each (ListOp.step memcpy) (fun s op => op.Valid s.1 s.2)
      (⟨heap, ailsaListInit true, []⟩, []) ops) :
    Each (ListOp.step memcpy) (ListOp.StepRight memcpy)
      (⟨heap, ailsaListInit true, []⟩, []) ops := by
  refine Each.imp (J := fun s => s.1.Holds s.2 ∧ s.1.list.destroy = true) ?_ ?_ hvalid
  · exact fun s op hs hop => op.step_right hs.1 hs.2 hop
  · exact ⟨holds_ailsaListInit, rfl⟩

/-- A run through each of the functions. -/
theorem ailList_sequence_run :
    Each (ListOp.step fun d _ => d.getD 0) (ListOp.StepRight fun d _ => d.getD 0)
      ((⟨fun _ => none, ailsaListInit true, []⟩, []) : ListState ℕ ℕ)
      [.insNext 1 none (some 10), .insert 2 (some 20), .insPrev 3 (some 2) (some 30),
        .insertClone 4 (some 1) none ailsaHead 8, .remove (some 1),
        .removeElements (some 4) 2] := by
  refine ailList_sequence _ _ _ ⟨⟨rfl, nofun⟩, rfl, ⟨rfl, ?_⟩, ⟨rfl, ?_, nofun⟩, ?_, ⟨?_, ?_⟩,
    trivial⟩
  · rintro _ ⟨⟩
    decide
  · rintro _ ⟨⟩
    exact ⟨1, _, rfl, rfl⟩
  · rintro _ ⟨⟩
    decide
  · rintro _ ⟨⟩
    decide
  · rintro _ ⟨⟩
    decide

end Cmdb
