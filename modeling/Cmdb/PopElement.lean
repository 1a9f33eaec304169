import Cmdb.DataLists
import Cmdb.ListSequence

/-!
# Popping an element

`ailsa_list_pop_element` takes an element out of its list without freeing it. The next element
keeps its link back to a head that is popped, and a list that loses its only element keeps its
tail. Otherwise, if the element is not the tail, two loops look for its neighbours, and neither
takes a step : they end at once or never (`popsElement_iff`).
-/

namespace Cmdb

open DoublyLinked

variable {A D : Type} [DecidableEq A]

/-! ## The code -/

/-- `while (e) if (e->link == element) break;`, in at most `turns` turns. -/
def popLoop (link : Node A (Option D) → Option A) (element : Option A) :
    ℕ → Option A → ListProg A D (Option A)
  | 0, _ => Prog.fail .noTurns
  | _ + 1, none => pure none
  | turns + 1, some a => do
    let e ← deref (some a)
    if link e = element then return some a
    popLoop link element turns (some a)

/-- `ailsa_list_pop_element` -/
def ailsaListPopElement (turns : ℕ) (element : Option A) : ListProg A D ℤ := do
  let list ← getList
  if element = none ∨ list.total = 0 then
    return -1
  if element = list.head then
    let e ← deref element
    match e.next with
    | some next => setList fun l => { l with head := some next }
    | none => setList fun l => { l with head := none }
  else if element = list.tail then
    let t ← deref list.tail
    setList fun l => { l with tail := t.prev }
    writeNext t.prev none
  else
    let e ← popLoop Node.next element turns list.head
    let f ← popLoop Node.prev element turns list.tail
    writePrev f e
    writeNext e f
  setList fun l => { l with total := l.total - 1 }
  return 0

variable {m m' : ListMem A D} {l₁ l₂ : List (A × Option D)} {b b' c : A × Option D} {a : A}
  {n : Node A (Option D)} {f : Node A (Option D) → Option A} {element : Option A}

/-! ## The loops -/

/-- A loop that is at the neighbour ends. -/
theorem popLoop_of_eq (hn : m.heap a = some n) (h : f n = element) (turns : ℕ) :
    popLoop f element (turns + 1) (some a) m = (.ok (some a), m) := by
  rw [popLoop, deref_bind hn, if_pos h]
  rfl

/-- A loop that is not there stays where it is. -/
theorem popLoop_of_ne (hn : m.heap a = some n) (h : f n ≠ element) : ∀ turns,
    popLoop f element turns (some a) m = (.error .noTurns, m)
  | 0 => rfl
  | turns + 1 => by
    rw [popLoop, deref_bind hn, if_neg h]
    exact popLoop_of_ne hn h turns

/-- A loop leaves the memory as it is, and ends at the element where it begins or not at all. -/
theorem popLoop_run (hn : m.heap a = some n) (turns : ℕ) :
    popLoop f element turns (some a) m = (.ok (some a), m) ∨
      popLoop f element turns (some a) m = (.error .noTurns, m) := by
  by_cases h : f n = element
  · cases turns with
    | zero => exact .inr rfl
    | succ turns => exact .inl (popLoop_of_eq hn h turns)
  · exact .inr (popLoop_of_ne hn h turns)

/-! ## The branches -/

theorem pop_head (hm : m.Holds (c :: l₂)) (turns : ℕ) : ailsaListPopElement turns (some c.1) m =
    (.ok 0, { m with
      list := { m.list with head := first l₂ none, total := m.list.total - 1 } }) := by
  have htotal := hm.total_ne_zero (List.cons_ne_nil c l₂)
  have hhead : some c.1 = m.list.head := hm.head_eq.symm
  rw [ailsaListPopElement, getList_bind]
  simp only [htotal, reduceCtorEq, false_or, if_false]
  rw [if_pos hhead, deref_bind hm.segment.1]
  cases l₂ <;> rfl

omit [DecidableEq A] in
/-- The links forward are right after the head is popped, but not the one back of the next
element, or else the tail. -/
theorem not_wellFormed_of_head (hm : m.Holds (c :: l₂)) : ¬ListMem.WellFormed
    { m with list := { m.list with head := first l₂ none, total := m.list.total - 1 } } l₂ := by
  intro hw
  cases l₂ with
  | nil =>
    have htail := hw.tail_eq_none.mpr hw.total_eq
    exact Option.some_ne_none c.1 (hm.tail_eq.symm.trans htail)
  | cons c' l₂ =>
    obtain ⟨n, hn, hprev⟩ := hw.head_prev c'.1 rfl
    obtain rfl := Option.some.inj (hm.segment.2.1.symm.trans hn)
    cases hprev

omit [DecidableEq A] in
theorem head_ne_of_left (hm : m.Holds (l₁ ++ c :: l₂)) (hl : l₁ ≠ []) :
    some c.1 ≠ m.list.head := by
  rw [hm.head_eq, first_append]
  cases l₁ with
  | nil => exact absurd rfl hl
  | cons b l₁ =>
    intro heq
    have hmem := not_mem_addrs_left hm.nodup
    rw [Option.some.inj heq, addrs_cons] at hmem
    exact hmem (List.mem_cons_self ..)

/-- The tail of a list of at least two elements. -/
theorem pop_tail (hm : m.Holds (l₁ ++ [c])) (hl : l₁ ≠ []) (turns : ℕ) :
    ∃ m', ailsaListPopElement turns (some c.1) m = (.ok 0, m') ∧ m'.Holds l₁ := by
  have htotal := hm.total_ne_zero (List.append_ne_nil_of_left_ne_nil hl [c])
  have htail : some c.1 = m.list.tail := by
    rw [hm.tail_eq, last_append]
    rfl
  obtain ⟨hl₁, hc, -⟩ := segment_append.mp hm.segment
  obtain ⟨a, ha, hlast⟩ := last_mem_addrs (p := none) hl
  obtain ⟨b, hb, rfl⟩ := List.mem_map.mp ha
  obtain ⟨n, hn, -⟩ := hl₁.exists_node b hb
  have hnodup := hm.nodup
  rw [addrs_append, List.nodup_append] at hnodup
  refine ⟨{ m with heap := setNext m.heap (last none l₁) none, list :=
    { m.list with tail := last none l₁, total := m.list.total - 1 } }, ?_, ?_⟩
  · rw [ailsaListPopElement, getList_bind]
    simp only [htotal, reduceCtorEq, false_or, if_false]
    rw [if_neg (head_ne_of_left hm hl), if_pos htail, ← htail, deref_bind hc, setList_bind,
      writeNext_bind, setList_bind, Prog.pure_run]
    exact ⟨b.1, n, hlast, hn⟩
  · refine ⟨hnodup.1, hl₁.setNext_last hnodup.1, ?_, rfl, ?_⟩
    · rw [hm.head_eq, first_append]
      cases l₁ with
      | nil => exact absurd rfl hl
      | cons b l₁ => rfl
    · change m.list.total - 1 = _
      rw [hm.total_eq, List.length_append]
      rfl

/-- The code behind the loops. -/
theorem pop_middle (hm : m.Holds (l₁ ++ c :: l₂)) (hl₁ : l₁ ≠ []) (hl₂ : l₂ ≠ []) (turns : ℕ) :
    ailsaListPopElement turns (some c.1) m = (do
      let e ← popLoop Node.next (some c.1) turns m.list.head
      let f ← popLoop Node.prev (some c.1) turns m.list.tail
      writePrev f e
      writeNext e f
      setList fun l => { l with total := l.total - 1 }
      return 0 : ListProg A D ℤ) m := by
  have htotal := hm.total_ne_zero (List.append_ne_nil_of_left_ne_nil hl₁ _)
  have htail : some c.1 ≠ m.list.tail := by
    have hnodup := hm.nodup
    rw [addrs_append, addrs_cons, List.nodup_append, List.nodup_cons] at hnodup
    rw [hm.tail_eq, last_append, last_cons]
    exact last_ne_of_not_mem hl₂ hnodup.2.1.1
  rw [ailsaListPopElement, getList_bind]
  simp only [htotal, reduceCtorEq, false_or, if_false]
  rw [if_neg (head_ne_of_left hm hl₁), if_neg htail]

/-- The second of three elements : both loops end where they begin. -/
theorem pop_second (hm : m.Holds [b, c, b']) (turns : ℕ) :
    ∃ m', ailsaListPopElement (turns + 1) (some c.1) m = (.ok 0, m') ∧ m'.Holds [b, b'] := by
  obtain ⟨hb, -, hb', -⟩ := hm.segment
  have hnodup : b.1 ∉ [c.1, b'.1] := (List.nodup_cons.mp hm.nodup).1
  have hne : b.1 ≠ b'.1 := fun heq => hnodup (by simp [heq])
  have hhead : m.list.head = some b.1 := hm.head_eq
  have htail : m.list.tail = some b'.1 := hm.tail_eq
  have hnext : popLoop Node.next (some c.1) (turns + 1) (some b.1) m = (.ok (some b.1), m) :=
    popLoop_of_eq hb rfl turns
  have hprev : popLoop Node.prev (some c.1) (turns + 1) (some b'.1) m = (.ok (some b'.1), m) :=
    popLoop_of_eq hb' rfl turns
  refine ⟨{ m with
    heap := setNext (setPrev m.heap (some b'.1) (some b.1)) (some b.1) (some b'.1)
    list := { m.list with total := m.list.total - 1 } }, ?_, ?_⟩
  · have hsplit : m.Holds ([b] ++ c :: [b']) := hm
    have hcode := pop_middle hsplit (List.cons_ne_nil b []) (List.cons_ne_nil b' [])
    rw [hcode, hhead, htail, Prog.bind_run_ok hnext, Prog.bind_run_ok hprev,
      writePrev_bind ⟨b'.1, _, rfl, hb'⟩, writeNext_bind (live_setPrev.mpr ⟨b.1, _, rfl, hb⟩),
      setList_bind, Prog.pure_run]
  · refine ⟨by simpa using hne, ⟨?_, ?_, trivial⟩, hhead, htail, ?_⟩
    · simp [setNext, setPrev, hne, hb]
    · simp [setNext, setPrev, hne.symm, hb']
    · change m.list.total - 1 = 2
      rw [hm.total_eq]
      rfl

/-- Two nodes before it, the loop from the head does not end. -/
theorem popLoop_head_noTurns (hm : m.Holds (l₁ ++ c :: l₂)) (hl : 1 < l₁.length) (turns : ℕ) :
    popLoop Node.next (some c.1) turns m.list.head m = (.error .noTurns, m) := by
  have hmem := not_mem_addrs_left hm.nodup
  match l₁, hl with
  | b :: x :: l₁, _ =>
    have hhead : m.list.head = some b.1 := hm.head_eq
    rw [hhead]
    refine popLoop_of_ne hm.segment.1 (fun hnext => hmem ?_) turns
    rw [← Option.some.inj hnext]
    exact List.mem_cons_of_mem _ (List.mem_cons_self ..)

/-- Two nodes behind it, the loop from the tail does not end. -/
theorem popLoop_tail_noTurns (hm : m.Holds (l₁ ++ c :: l₂)) (hl : 1 < l₂.length) (turns : ℕ) :
    popLoop Node.prev (some c.1) turns m.list.tail m = (.error .noTurns, m) := by
  cases l₂ using List.reverseRecOn with
  | nil => cases hl
  | append_singleton l₂ b =>
    have hne : l₂ ≠ [] := by
      rintro rfl
      exact absurd hl (Nat.lt_irrefl 1)
    obtain ⟨-, -, hs⟩ := segment_append.mp hm.segment
    obtain ⟨-, hb, -⟩ := segment_append.mp hs
    have htail : m.list.tail = some b.1 := by
      rw [hm.tail_eq, last_append, last_cons, last_append]
      rfl
    have hnodup := hm.nodup
    rw [addrs_append, addrs_cons, addrs_append, List.nodup_append, List.nodup_cons,
      List.mem_append, not_or] at hnodup
    rw [htail]
    exact popLoop_of_ne hb (last_ne_of_not_mem hne hnodup.2.1.1.1).symm turns

/-- Elsewhere in the middle one of the loops does not end. -/
theorem pop_noTurns (hm : m.Holds (l₁ ++ c :: l₂)) (hl₁ : l₁ ≠ []) (hl₂ : l₂ ≠ [])
    (hlong : ¬(l₁.length = 1 ∧ l₂.length = 1)) (turns : ℕ) :
    ailsaListPopElement turns (some c.1) m = (.error .noTurns, m) := by
  rw [pop_middle hm hl₁ hl₂]
  have hpos₁ := List.length_pos_iff.mpr hl₁
  have hpos₂ := List.length_pos_iff.mpr hl₂
  by_cases hl : 1 < l₁.length
  · exact Prog.bind_run_error (popLoop_head_noTurns hm hl turns) _
  · have hl' : 1 < l₂.length := by omega
    have hprev := popLoop_tail_noTurns hm hl' turns
    match l₁, hl₁ with
    | b :: l₁, _ =>
      have hhead : m.list.head = some b.1 := hm.head_eq
      rw [hhead]
      rcases popLoop_run (f := Node.next) hm.segment.1 turns with hnext | hnext
      · rw [Prog.bind_run_ok hnext]
        exact Prog.bind_run_error hprev _
      · exact Prog.bind_run_error hnext _

/-! ## Popping -/

/-- The function returns, and the list is the sequence `l` then. -/
def PopsElement (m : ListMem A D) (e : A) (l : List (A × Option D)) : Prop :=
  ∃ turns m', ailsaListPopElement turns (some e) m = (.ok 0, m') ∧ m'.WellFormed l

/-- An element is popped as it should be exactly if it is the tail of a longer list or the
second of three elements. -/
theorem popsElement_iff (hm : m.WellFormed (l₁ ++ c :: l₂)) :
    PopsElement m c.1 (l₁ ++ l₂) ↔ l₁ ≠ [] ∧ (l₂ = [] ∨ l₁.length = 1 ∧ l₂.length = 1) := by
  have hholds := hm.holds
  by_cases hl₁ : l₁ = []
  · subst hl₁
    refine iff_of_false ?_ fun h => h.1 rfl
    rintro ⟨turns, m', hrun, hw⟩
    rw [pop_head hholds, Prod.mk.injEq] at hrun
    rw [← hrun.2] at hw
    exact not_wellFormed_of_head hholds hw
  rw [and_iff_right hl₁]
  by_cases hl₂ : l₂ = []
  · subst hl₂
    obtain ⟨m', hrun, hm'⟩ := pop_tail hholds hl₁ 0
    rw [List.append_nil]
    exact iff_of_true ⟨0, m', hrun, hm'.wellFormed⟩ (.inl rfl)
  rw [or_iff_right hl₂]
  by_cases hlen : l₁.length = 1 ∧ l₂.length = 1
  · obtain ⟨b, rfl⟩ := List.length_eq_one_iff.mp hlen.1
    obtain ⟨b', rfl⟩ := List.length_eq_one_iff.mp hlen.2
    obtain ⟨m', hrun, hm'⟩ := pop_second hholds 0
    exact iff_of_true ⟨1, m', hrun, hm'.wellFormed⟩ hlen
  · refine iff_of_false ?_ hlen
    rintro ⟨turns, m', hrun, -⟩
    rw [pop_noTurns hholds hl₁ hl₂ hlen] at hrun
    cases hrun

/-- The second of three elements. -/
theorem popsElement_second : PopsElement (listMem [(1, some 10), (2, some 20), (3, some 30)]) 2
    [(1, some 10), (3, some 30)] := by
  have hm : (listMem [(1, some 10), (2, some 20), (3, some 30)] : ListMem ℕ ℕ).WellFormed
      ([(1, some 10)] ++ (2, some 20) :: [(3, some 30)]) :=
    (has_listMem (by decide)).holds.wellFormed
  exact (popsElement_iff hm).mpr ⟨List.cons_ne_nil _ _, .inr ⟨rfl, rfl⟩⟩

/-- The second of four elements is never popped. -/
theorem not_popsElement :
    ∃ m : ListMem ℕ ℕ, m.WellFormed [(1, some 10), (2, some 20), (3, some 30), (4, some 40)] ∧
      (∀ turns, ailsaListPopElement turns (some 2) m = (.error .noTurns, m)) ∧
      ¬PopsElement m 2 [(1, some 10), (3, some 30), (4, some 40)] := by
  have hm : (listMem [(1, some 10), (2, some 20), (3, some 30), (4, some 40)] :
      ListMem ℕ ℕ).Holds ([(1, some 10)] ++ (2, some 20) :: [(3, some 30), (4, some 40)]) :=
    (has_listMem (by decide)).holds
  have hrun := pop_noTurns hm (List.cons_ne_nil _ _) (List.cons_ne_nil _ _) (by decide)
  refine ⟨_, hm.wellFormed, hrun, ?_⟩
  rintro ⟨turns, m', hret, -⟩
  rw [hrun] at hret
  cases hret

end Cmdb
