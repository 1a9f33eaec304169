import Cmdb.Ailsa
import Cmdb.DoublyLinked
import Cmdb.History
import Cmdb.Prog
import Mathlib.Data.Int.Notation

/-!
# The linked list

`AILLIST` and the functions of it that change its links, on a memory of nodes. A pointer is
an address or `NULL`, and to follow one that leads to no node is a fault. The address
`ailsa_calloc` finds for a node is an argument of the functions that call it.
-/

namespace Cmdb

open DoublyLinked

variable {A D : Type}

/-! ## Codes -/

def ailsaListCloneFailed : ℤ := 56

def ailsaBefore : ℤ := 1
def ailsaAfter : ℤ := 2
def ailsaHead : ℤ := 3
def ailsaTail : ℤ := 4

/-! ## Memory -/

/-- A list : the number of its nodes, its ends, and whether a destructor is set. -/
structure AilList (A : Type) where
  total : ℕ
  head : Option A
  tail : Option A
  destroy : Bool
deriving DecidableEq, Repr

/-- The nodes in memory, whose data is a pointer that may be `NULL`, a list, and the data
its destructor was called on so far. -/
structure ListMem (A D : Type) where
  heap : Heap A (Option D)
  list : AilList A
  destroyed : List (Option D)

/-- The program goes through a pointer that leads to no node, divides by `0`, or does not
come to the end of a loop in the turns it is given. -/
inductive MemFault
  | badPointer
  | divByZero
  | noTurns
deriving DecidableEq, Repr

abbrev ListProg (A D α : Type) : Type := Prog (ListMem A D) MemFault α

/-- `*p` -/
def deref (p : Option A) : ListProg A D (Node A (Option D)) := Prog.reads fun m =>
  match p.bind m.heap with
  | some n => .ok n
  | none => .error .badPointer

def getList : ListProg A D (AilList A) := Prog.reads fun m => .ok m.list

def setList (u : AilList A → AilList A) : ListProg A D Unit :=
  Prog.modify fun m => { m with list := u m.list }

variable {m : ListMem A D} {α : Type} {a new : A} {p q element : Option A} {d data : Option D}
  {l l₁ l₂ : List (A × Option D)} {c : A × Option D}

theorem deref_run {n : Node A (Option D)} (ha : m.heap a = some n) :
    deref (some a) m = (.ok n, m) := by
  rw [deref, Prog.reads_run, Option.bind_some, ha]

theorem deref_bind {n : Node A (Option D)} (ha : m.heap a = some n)
    (f : Node A (Option D) → ListProg A D α) : (deref (some a) >>= f) m = f n m :=
  Prog.bind_run_ok (deref_run ha) f

theorem getList_bind (f : AilList A → ListProg A D α) : (getList >>= f) m = f m.list m := rfl

theorem setList_bind (u : AilList A → AilList A) (f : Unit → ListProg A D α) :
    (setList u >>= f) m = f () { m with list := u m.list } := rfl

/-- `list->destroy(data)` -/
def destroyData (data : Option D) : ListProg A D Unit :=
  Prog.modify fun m => { m with destroyed := m.destroyed ++ [data] }

/-- `ailsa_list_init` -/
def ailsaListInit (destroy : Bool) : AilList A := ⟨0, none, none, destroy⟩

variable [DecidableEq A]

/-- `p->next = q` -/
def writeNext (p q : Option A) : ListProg A D Unit := do
  let _ ← deref p
  Prog.modify fun m => { m with heap := setNext m.heap p q }

/-- `p->prev = q` -/
def writePrev (p q : Option A) : ListProg A D Unit := do
  let _ ← deref p
  Prog.modify fun m => { m with heap := setPrev m.heap p q }

/-- `new = ailsa_calloc(..); new->data = data` -/
def newElement (new : A) (data : Option D) : ListProg A D Unit :=
  Prog.modify fun m => { m with heap := Function.update m.heap new (some ⟨none, none, data⟩) }

/-- `my_free(p)` -/
def freeElement (p : Option A) : ListProg A D Unit :=
  Prog.modify fun m => { m with heap := fun a => if some a = p then none else m.heap a }

/-! ## Functions -/

def ailsaListInsNext (new : A) (element : Option A) (data : Option D) : ListProg A D ℤ := do
  let list ← getList
  if element = none ∧ list.total ≠ 0 then
    return -1
  newElement new data
  if list.total = 0 then
    setList fun l => { l with head := some new, tail := some new }
    writePrev (some new) none
    writeNext (some new) none
  else
    let e ← deref element
    writeNext (some new) e.next
    writePrev (some new) element
    match e.next with
    | none => setList fun l => { l with tail := some new }
    | some next => writePrev (some next) (some new)
    writeNext element (some new)
  setList fun l => { l with total := l.total + 1 }
  return 0

def ailsaListInsPrev (new : A) (element : Option A) (data : Option D) : ListProg A D ℤ := do
  let list ← getList
  if element = none ∧ list.total ≠ 0 then
    return -1
  newElement new data
  if list.total = 0 then
    setList fun l => { l with head := some new, tail := some new }
    writePrev (some new) none
    writeNext (some new) none
  else
    let e ← deref element
    writeNext (some new) element
    writePrev (some new) e.prev
    match e.prev with
    | none => setList fun l => { l with head := some new }
    | some prev => writeNext (some prev) (some new)
    writePrev element (some new)
  setList fun l => { l with total := l.total + 1 }
  return 0

def ailsaListInsert (new : A) (data : Option D) : ListProg A D ℤ := do
  if data = none then
    return -1
  let list ← getList
  if list.total = 0 then
    ailsaListInsNext new none data
  else
    newElement new data
    writeNext list.tail (some new)
    writePrev (some new) list.tail
    writeNext (some new) none
    setList fun l => { l with tail := some new, total := l.total + 1 }
    return 0

/-- `data` is what `*data` holds before the call, and the second result after it. -/
def ailsaListRemove (element : Option A) (data : Option D) : ListProg A D (ℤ × Option D) := do
  let list ← getList
  if element = none ∨ list.total = 0 then
    return (-1, data)
  let e ← deref element
  if element = list.head then
    setList fun l => { l with head := e.next }
    match e.next with
    | none => setList fun l => { l with tail := none }
    | some next => writePrev (some next) none
  else
    writeNext e.prev e.next
    match e.next with
    | none => setList fun l => { l with tail := e.prev }
    | some next => writePrev (some next) e.prev
  setList fun l => { l with total := l.total - 1 }
  freeElement element
  return (0, e.data)

/-- The loop of `ailsa_list_remove_elements`, with `count` turns to go, and the number of
elements it removed. -/
def removeLoop : ℕ → Option A → Option D → ℕ → ListProg A D ℕ
  | 0, _, _, no => pure no
  | count + 1, p, d, no => do
    let n ← deref p
    let (retval, d) ← ailsaListRemove p d
    let l ← getList
    if retval = 0 ∧ l.destroy then
      destroyData d
      removeLoop count n.next d (no + 1)
    else
      removeLoop count n.next d no

def ailsaListRemoveElements (e : Option A) (len : ℕ) : ListProg A D ℤ := do
  if e = none then
    return ailsaNoData
  let no ← removeLoop len e none 0
  if no ≠ len then
    return 1
  return 0

/-- What `ailsa_list_insert_clone` returns for the code of an insert. -/
def cloneCode (retval : ℤ) : ℤ := if retval ≠ 0 then ailsaListCloneFailed else retval

/-- `memcpy data size` is what a new block of `size` bytes holds after the copy, which C says
nothing of for a `data` that is `NULL`. -/
def ailsaListInsertClone (memcpy : Option D → ℕ → D) (new : A) (copy ptr : Option A)
    (action : ℤ) (size : ℕ) : ListProg A D ℤ := do
  if copy = none ∨ action = 0 ∨ size = 0 then
    return -1
  let c ← deref copy
  let data := some (memcpy c.data size)
  let list ← getList
  if action = ailsaBefore then
    if ptr = none then
      return ailsaListCloneFailed
    return cloneCode (← ailsaListInsPrev new ptr data)
  else if action = ailsaAfter then
    if ptr = none then
      return ailsaListCloneFailed
    return cloneCode (← ailsaListInsNext new ptr data)
  else if action = ailsaHead then
    return cloneCode (← ailsaListInsPrev new list.head data)
  else if action = ailsaTail then
    return cloneCode (← ailsaListInsNext new list.tail data)
  else
    return ailsaListCloneFailed

/-! ## Runs -/

namespace ListMem

/-- The memory holds a list of the nodes of `l`. -/
def Holds (m : ListMem A D) (l : List (A × Option D)) : Prop :=
  Represents m.heap m.list.head m.list.tail m.list.total l

omit [DecidableEq A] in
theorem Holds.total_ne_zero (hm : m.Holds l) (hl : l ≠ []) : m.list.total ≠ 0 := by
  rw [hm.total_eq]
  exact mt List.length_eq_zero_iff.mp hl

/-- A new node is in the list between `l₁` and `l₂`. -/
def linked (m : ListMem A D) (l₁ l₂ : List (A × Option D)) (new : A) (d : Option D) :
    ListMem A D :=
  { m with
    heap := link m.heap (last none l₁) (first l₂ none) new d
    list := ⟨m.list.total + 1, first (l₁ ++ (new, d) :: l₂) none,
      last none (l₁ ++ (new, d) :: l₂), m.list.destroy⟩ }

/-- The node of `c` is taken out of the list from between `l₁` and `l₂`. -/
def unlinked (m : ListMem A D) (l₁ : List (A × Option D)) (c : A × Option D)
    (l₂ : List (A × Option D)) : ListMem A D :=
  { m with
    heap := unlink m.heap (last none l₁) (first l₂ none) c.1
    list := ⟨m.list.total - 1, first (l₁ ++ l₂) none, last none (l₁ ++ l₂), m.list.destroy⟩ }

theorem Holds.linked (hm : m.Holds (l₁ ++ l₂)) (hnew : m.heap new = none) :
    (m.linked l₁ l₂ new d).Holds (l₁ ++ (new, d) :: l₂) := hm.link hnew

theorem Holds.linked_nil (hm : m.Holds []) (hnew : m.heap new = none) :
    (m.linked [] [] new d).Holds [(new, d)] :=
  Holds.linked (show m.Holds ([] ++ []) from hm) hnew

theorem Holds.unlinked (hm : m.Holds (l₁ ++ c :: l₂)) :
    (m.unlinked l₁ c l₂).Holds (l₁ ++ l₂) := hm.unlink

end ListMem

omit [DecidableEq A] in
theorem holds_ailsaListInit {heap : Heap A (Option D)} {destroy : Bool}
    {destroyed : List (Option D)} :
    (⟨heap, ailsaListInit destroy, destroyed⟩ : ListMem A D).Holds [] :=
  ⟨List.nodup_nil, trivial, rfl, rfl, rfl⟩

theorem newElement_bind (f : Unit → ListProg A D α) : (newElement new d >>= f) m =
    f () { m with heap := Function.update m.heap new (some ⟨none, none, d⟩) } := rfl

theorem writeNext_bind (hp : Live m.heap p) (f : Unit → ListProg A D α) :
    (writeNext p q >>= f) m = f () { m with heap := setNext m.heap p q } := by
  obtain ⟨a, n, rfl, ha⟩ := hp
  have hrun : writeNext (some a) q m = (.ok (), { m with heap := setNext m.heap (some a) q }) := by
    rw [writeNext, deref_bind ha]
    rfl
  exact Prog.bind_run_ok hrun f

theorem freeElement_bind (f : Unit → ListProg A D α) : (freeElement (some a) >>= f) m =
    f () { m with heap := Function.update m.heap a none } := by
  have hrun : freeElement (some a) m =
      (.ok (), { m with heap := Function.update m.heap a none }) := by
    refine congrArg (fun h => (_, { m with heap := h })) (funext fun b => ?_)
    simp only [Function.update_apply, Option.some_inj]
  exact Prog.bind_run_ok hrun f

omit [DecidableEq A] in
theorem destroyData_bind (f : Unit → ListProg A D α) : (destroyData d >>= f) m =
    f () { m with destroyed := m.destroyed ++ [d] } := rfl

theorem writePrev_bind (hp : Live m.heap p) (f : Unit → ListProg A D α) :
    (writePrev p q >>= f) m = f () { m with heap := setPrev m.heap p q } := by
  obtain ⟨a, n, rfl, ha⟩ := hp
  have hrun : writePrev (some a) q m = (.ok (), { m with heap := setPrev m.heap (some a) q }) := by
    rw [writePrev, deref_bind ha]
    rfl
  exact Prog.bind_run_ok hrun f

omit [DecidableEq A] in
theorem ne_of_absent {n : Node A (Option D)} (hnew : m.heap new = none)
    (ha : m.heap a = some n) : some new ≠ some a := by
  rintro ⟨⟩
  rw [ha] at hnew
  cases hnew

/-- The branch of an insert for a list that is empty. -/
theorem onlyElement_run : (do
      newElement new data
      setList fun l => { l with head := some new, tail := some new }
      writePrev (some new) none
      writeNext (some new) none
      setList fun l => { l with total := l.total + 1 }
      return 0 : ListProg A D ℤ) m = (.ok 0, m.linked [] [] new data) := by
  rw [newElement_bind, setList_bind, writePrev_bind (live_update_self _),
    writeNext_bind (live_setPrev.mpr (live_update_self _)), setList_bind]
  simp only [setPrev_update_self, setNext_update_self, Prog.pure_run]
  rfl

theorem ailsaListInsNext_empty (hm : m.Holds []) :
    ailsaListInsNext new element data m = (.ok 0, m.linked [] [] new data) := by
  have htotal := hm.total_eq
  rw [ailsaListInsNext, getList_bind]
  simp only [htotal, List.length_nil, ne_eq, not_true_eq_false, and_false, if_false, if_true]
  exact onlyElement_run

theorem ailsaListInsNext_null (htotal : m.list.total ≠ 0) :
    ailsaListInsNext new none data m = (.ok (-1), m) := by
  rw [ailsaListInsNext, getList_bind, if_pos ⟨rfl, htotal⟩, Prog.pure_run]

theorem ailsaListInsNext_member (hm : m.Holds (l₁ ++ c :: l₂)) (hnew : m.heap new = none) :
    ailsaListInsNext new (some c.1) data m = (.ok 0, m.linked (l₁ ++ [c]) l₂ new data) := by
  have htotal := hm.total_ne_zero (List.append_ne_nil_of_right_ne_nil l₁ (List.cons_ne_nil c l₂))
  obtain ⟨-, hc, hl₂⟩ := segment_append.mp hm.segment
  have hne : some new ≠ some c.1 := ne_of_absent hnew hc
  have hhead := hm.head_eq
  have htail := hm.tail_eq
  have hcell (n : Node A (Option D)) : Function.update m.heap new (some n) c.1 = m.heap c.1 :=
    Function.update_of_ne (mt (congrArg some) hne.symm) ..
  rw [ailsaListInsNext, getList_bind]
  simp only [htotal, if_false, reduceCtorEq, false_and]
  rw [newElement_bind, deref_bind ((hcell _).trans hc), writeNext_bind (live_update_self _),
    writePrev_bind (live_setNext.mpr (live_update_self _)), setNext_update_self,
    setPrev_update_self]
  cases l₂ with
  | nil =>
    dsimp only [first_nil]
    rw [setList_bind, writeNext_bind (Live.update ⟨_, _, rfl, hc⟩ _),
      setNext_update_of_ne hne, setList_bind, Prog.pure_run, ListMem.linked]
    simp [DoublyLinked.link, hhead]
  | cons c' l₂ =>
    have hne' : some new ≠ some c'.1 := ne_of_absent hnew hl₂.1
    dsimp only [first_cons]
    rw [writePrev_bind (Live.update ⟨_, _, rfl, hl₂.1⟩ _),
      setPrev_update_of_ne hne', writeNext_bind (Live.update (live_setPrev.mpr ⟨_, _, rfl, hc⟩) _),
      setNext_update_of_ne hne, setNext_setPrev, setList_bind, Prog.pure_run, ListMem.linked]
    simp [DoublyLinked.link, hhead, htail]

theorem ailsaListInsPrev_empty (hm : m.Holds []) :
    ailsaListInsPrev new element data m = (.ok 0, m.linked [] [] new data) := by
  have htotal := hm.total_eq
  rw [ailsaListInsPrev, getList_bind]
  simp only [htotal, List.length_nil, ne_eq, not_true_eq_false, and_false, if_false, if_true]
  exact onlyElement_run

theorem ailsaListInsPrev_member (hm : m.Holds (l₁ ++ c :: l₂)) (hnew : m.heap new = none) :
    ailsaListInsPrev new (some c.1) data m = (.ok 0, m.linked l₁ (c :: l₂) new data) := by
  have htotal := hm.total_ne_zero (List.append_ne_nil_of_right_ne_nil l₁ (List.cons_ne_nil c l₂))
  obtain ⟨hl₁, hc, -⟩ := segment_append.mp hm.segment
  have hne : some new ≠ some c.1 := ne_of_absent hnew hc
  have hhead := hm.head_eq
  have htail := hm.tail_eq
  have hcell (n : Node A (Option D)) : Function.update m.heap new (some n) c.1 = m.heap c.1 :=
    Function.update_of_ne (mt (congrArg some) hne.symm) ..
  rw [ailsaListInsPrev, getList_bind]
  simp only [htotal, if_false, reduceCtorEq, false_and]
  rw [newElement_bind, deref_bind ((hcell _).trans hc), writeNext_bind (live_update_self _),
    writePrev_bind (live_setNext.mpr (live_update_self _)), setNext_update_self,
    setPrev_update_self]
  cases l₁ using List.reverseRecOn with
  | nil =>
    dsimp only [last_nil]
    rw [setList_bind, writePrev_bind (Live.update ⟨_, _, rfl, hc⟩ _),
      setPrev_update_of_ne hne, setList_bind, Prog.pure_run, ListMem.linked]
    simp [DoublyLinked.link, htail]
  | append_singleton l₁ c' =>
    obtain ⟨-, hc', -⟩ := segment_append.mp hl₁
    have hne' : some new ≠ some c'.1 := ne_of_absent hnew hc'
    simp only [last_append, last_cons, last_nil]
    rw [writeNext_bind (Live.update ⟨_, _, rfl, hc'⟩ _), setNext_update_of_ne hne',
      writePrev_bind (Live.update (live_setNext.mpr ⟨_, _, rfl, hc⟩) _),
      setPrev_update_of_ne hne, setList_bind, Prog.pure_run, ListMem.linked]
    simp [DoublyLinked.link, hhead, htail]

theorem ailsaListInsert_run (hm : m.Holds l) (hnew : m.heap new = none) (hd : d ≠ none) :
    ailsaListInsert new d m = (.ok 0, m.linked l [] new d) := by
  have htotal := hm.total_eq
  have htail := hm.tail_eq
  have hhead := hm.head_eq
  rw [ailsaListInsert, if_neg hd, getList_bind]
  cases l using List.reverseRecOn with
  | nil =>
    rw [htotal, List.length_nil, if_pos rfl]
    exact ailsaListInsNext_empty hm
  | append_singleton l c =>
    obtain ⟨-, hc, -⟩ := segment_append.mp hm.segment
    have hne : some new ≠ some c.1 := ne_of_absent hnew hc
    rw [last_append, last_cons, last_nil] at htail
    rw [if_neg (by rw [htotal, List.length_append]; exact Nat.succ_ne_zero _), htail,
      newElement_bind, writeNext_bind (Live.update ⟨_, _, rfl, hc⟩ _), setNext_update_of_ne hne,
      writePrev_bind (live_update_self _), setPrev_update_self,
      writeNext_bind (live_update_self _), setNext_update_self, setList_bind, Prog.pure_run,
      ListMem.linked]
    simp [DoublyLinked.link, hhead]

theorem ailsaListRemove_null : ailsaListRemove none data m = (.ok (-1, data), m) := rfl

theorem ailsaListRemove_member (hm : m.Holds (l₁ ++ c :: l₂)) :
    ailsaListRemove (some c.1) data m = (.ok (0, c.2), m.unlinked l₁ c l₂) := by
  have htotal := hm.total_ne_zero (List.append_ne_nil_of_right_ne_nil l₁ (List.cons_ne_nil c l₂))
  obtain ⟨hl₁, hc, hl₂⟩ := segment_append.mp hm.segment
  have hhead := hm.head_eq
  have htail := hm.tail_eq
  rw [ailsaListRemove, getList_bind]
  simp only [htotal, reduceCtorEq, false_or, if_false]
  rw [deref_bind hc]
  cases l₁ using List.reverseRecOn with
  | nil =>
    have heq : some c.1 = m.list.head := hhead.symm
    rw [if_pos heq, setList_bind]
    cases l₂ with
    | nil =>
      dsimp only [first_nil]
      rw [setList_bind, setList_bind, freeElement_bind, Prog.pure_run, ListMem.unlinked]
      simp [unlink]
    | cons c' l₂ =>
      dsimp only [first_cons]
      rw [writePrev_bind, setList_bind, freeElement_bind, Prog.pure_run, ListMem.unlinked]
      · simp [unlink, htail]
      · exact ⟨_, _, rfl, hl₂.1⟩
  | append_singleton l₁ c₁ =>
    obtain ⟨-, hc₁, -⟩ := segment_append.mp hl₁
    have hne : some c.1 ≠ m.list.head := by
      have hmem := not_mem_addrs_left hm.nodup
      rw [addrs_append, addrs_cons, addrs_nil, List.mem_append, not_or,
        List.mem_singleton] at hmem
      rw [hhead, first_append, first_append, first_cons]
      exact first_ne_of_not_mem (mt Option.some.inj hmem.2) hmem.1
    rw [if_neg hne]
    simp only [last_append, last_cons, last_nil]
    rw [writeNext_bind ⟨_, _, rfl, hc₁⟩]
    cases l₂ with
    | nil =>
      dsimp only [first_nil]
      rw [setList_bind, setList_bind, freeElement_bind, Prog.pure_run, ListMem.unlinked]
      simp [unlink, hhead]
    | cons c' l₂ =>
      dsimp only [first_cons]
      rw [writePrev_bind (live_setNext.mpr ⟨_, _, rfl, hl₂.1⟩), setList_bind, freeElement_bind,
        Prog.pure_run, ListMem.unlinked]
      simp [unlink, hhead, htail]

/-- The loop takes out the elements of `run`, one after the other, and destroys their data. -/
theorem removeLoop_run : ∀ {run : List (A × Option D)} {m : ListMem A D} (d : Option D) (no : ℕ),
    m.Holds (l₁ ++ (run ++ l₂)) → m.list.destroy = true →
    ∃ m', removeLoop run.length (first (run ++ l₂) none) d no m = (.ok (no + run.length), m') ∧
      m'.Holds (l₁ ++ l₂) ∧ m'.list.destroy = true ∧
      m'.destroyed = m.destroyed ++ run.map Prod.snd
  | [], m, _, _, hm, hdestroy => ⟨m, rfl, hm, hdestroy, (List.append_nil _).symm⟩
  | c :: run, m, d, no, hm, hdestroy => by
    obtain ⟨-, hc, -⟩ := segment_append.mp hm.segment
    let m₁ := m.unlinked l₁ c (run ++ l₂)
    let m₂ := { m₁ with destroyed := m.destroyed ++ [c.2] }
    have hm₂ : m₂.Holds (l₁ ++ (run ++ l₂)) := hm.unlink
    obtain ⟨m', hrun, hm', hdestroy', hlog⟩ := removeLoop_run c.2 (no + 1) hm₂ hdestroy
    refine ⟨m', ?_, hm', hdestroy', ?_⟩
    · have hno : no + 1 + run.length = no + (run.length + 1) := by omega
      rw [List.length_cons, List.cons_append, first_cons, removeLoop, deref_bind hc,
        Prog.bind_run_ok (ailsaListRemove_member hm)]
      dsimp only
      rw [getList_bind, if_pos ⟨rfl, hdestroy⟩, ← hno]
      exact hrun
    · rw [hlog, List.map_cons, List.append_assoc, List.singleton_append]

/-- A run of elements from `e` on is removed. -/
theorem ailsaListRemoveElements_run {e : A} {run : List (A × Option D)}
    (hm : m.Holds (l₁ ++ (run ++ l₂))) (he : first (run ++ l₂) none = some e)
    (hdestroy : m.list.destroy = true) :
    ∃ m', ailsaListRemoveElements (some e) run.length m = (.ok 0, m') ∧ m'.Holds (l₁ ++ l₂) ∧
      m'.list.destroy = true := by
  obtain ⟨m', hrun, hm', hdestroy', -⟩ := removeLoop_run none 0 hm hdestroy
  refine ⟨m', ?_, hm', hdestroy'⟩
  rw [ailsaListRemoveElements, if_neg (Option.some_ne_none e), ← he, Prog.bind_run_ok hrun,
    Nat.zero_add, if_neg (not_not.mpr rfl)]
  rfl

end Cmdb
