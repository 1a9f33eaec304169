import Mathlib.Data.List.TakeDrop
import Cmdb.DataLists
import Cmdb.ListSequence

/-!
# Cloning an element

`ailsa_clone_data_element` copies a text up to 256 characters and a time as it is. For the other
types its `memcpy` goes the wrong way : the zeros of the new union are written over the value of
the source (`clonesElement_iff`).
-/

namespace Cmdb

open CString DoublyLinked Prog

/-! ## Data -/

/-- The types of `ailsa_data_s` whose value is in the union itself. -/
inductive ScalarType
  | null | lint | sint | tiny | float
deriving DecidableEq, Repr

/-- The bits of the member of the union. -/
def ScalarType.width : ScalarType → ℕ
  | .null => 0
  | .lint => 64
  | .sint => 16
  | .tiny => 8
  | .float => 64

/-- `ailsa_data_s`, with its union. `T` is `MYSQL_TIME`, and empty without MySQL. -/
inductive DataValue (T : Type)
  | text (s : CStr)
  | time (t : T)
  | scalar (type : ScalarType) (bits : BitVec type.width)

variable {A T : Type} [DecidableEq A]

/-! ## The code -/

/-- `*e->data = d` -/
def writeData (e : A) (d : DataValue T) : ListProg A (DataValue T) Unit :=
  modify fun m => { m with
    heap := Function.update m.heap e ((m.heap e).map fun n => { n with data := some d }) }

/-- The data of `ailsa_clone_data_element`. `u` is fresh from `calloc` where it is copied. -/
def ailsaCloneDataElement (e : Option A) : ListProg A (DataValue T) (Option (DataValue T)) := do
  match e with
  | none => return none
  | some e =>
    let n ← deref (some e)
    let d ← dataOf n.data
    match d with
    | .text s => return some (.text (s.take configLen))
    | .time t => return some (.time t)
    | .scalar type _ =>
      let u := .scalar type 0
      writeData e u
      return some u

/-- `ailsa_insert_clone`, on a list of data. -/
def ailsaInsertClone (new : A) (elem : Option A) : ListProg A (DataValue T) ℤ := do
  if elem = none then
    return ailsaNoData
  match ← ailsaCloneDataElement elem with
  | some copy => ailsaListInsert new (some copy)
  | none => return ailsaListCloneFailed

variable {m m' : ListMem A (DataValue T)} {l : List (A × Option (DataValue T))} {e new : A}
  {n : Node A (Option (DataValue T))} {d : DataValue T}

/-! ## Data that stay -/

section SameData

variable {D : Type} {m m₁ m₂ : ListMem A D} {data : Option D}

/-- All the nodes but the one at `new` keep their data. -/
def SameData (new : A) (m m' : ListMem A D) : Prop :=
  ∀ a, a ≠ new → (m'.heap a).map Node.data = (m.heap a).map Node.data

omit [DecidableEq A] in
theorem SameData.refl (new : A) (m : ListMem A D) : SameData new m m := fun _ _ => rfl

omit [DecidableEq A] in
theorem SameData.trans (m m₁ m₂ : ListMem A D) (h : SameData new m m₁) (h' : SameData new m₁ m₂) :
    SameData new m m₂ :=
  fun a ha => (h' a ha).trans (h a ha)

theorem data_setNext (h : Heap A D) (p q : Option A) (a : A) :
    (setNext h p q a).map Node.data = (h a).map Node.data := by
  unfold setNext
  split
  · rw [Option.map_map]
    rfl
  · rfl

theorem data_setPrev (h : Heap A D) (q p : Option A) (a : A) :
    (setPrev h q p a).map Node.data = (h a).map Node.data := by
  unfold setPrev
  split
  · rw [Option.map_map]
    rfl
  · rfl

theorem moves_writeNext (p q : Option A) :
    Moves (SameData new) (writeNext p q : ListProg A D Unit) :=
  Moves.bind SameData.trans (ReadOnly.moves (SameData.refl new) (ReadOnly.reads _))
    fun _ => Moves.modify fun _ a _ => data_setNext _ p q a

theorem moves_writePrev (p q : Option A) :
    Moves (SameData new) (writePrev p q : ListProg A D Unit) :=
  Moves.bind SameData.trans (ReadOnly.moves (SameData.refl new) (ReadOnly.reads _))
    fun _ => Moves.modify fun _ a _ => data_setPrev _ p q a

theorem moves_newElement (data : Option D) : Moves (SameData new) (newElement new data) :=
  Moves.modify fun _ _ ha => congrArg (Option.map Node.data) (Function.update_of_ne ha ..)

omit [DecidableEq A] in
theorem moves_setList (u : AilList A → AilList A) :
    Moves (SameData new) (setList u : ListProg A D Unit) :=
  Moves.modify fun m => SameData.refl new m

omit [DecidableEq A] in
theorem moves_pure {α : Type} (a : α) : Moves (SameData new) (pure a : ListProg A D α) :=
  ReadOnly.moves (SameData.refl new) (ReadOnly.pure a)

theorem moves_insNext_null : Moves (SameData new) (ailsaListInsNext new none data) := by
  refine Moves.bind SameData.trans (ReadOnly.moves (SameData.refl new) (ReadOnly.reads _))
    fun list => ?_
  split
  · exact moves_pure _
  · next htotal =>
    have hzero : list.total = 0 := not_not.mp fun h => htotal ⟨rfl, h⟩
    rw [if_pos hzero]
    exact (moves_newElement data).bind SameData.trans fun _ =>
      (moves_setList _).bind SameData.trans fun _ =>
      (moves_writePrev _ _).bind SameData.trans fun _ =>
      (moves_writeNext _ _).bind SameData.trans fun _ =>
      (moves_setList _).bind SameData.trans fun _ => moves_pure _

/-- An insert changes the links of other elements, but no data. -/
theorem moves_ailsaListInsert (hdata : data ≠ none) :
    Moves (SameData new) (ailsaListInsert new data) := by
  rw [ailsaListInsert, if_neg hdata]
  refine Moves.bind SameData.trans (ReadOnly.moves (SameData.refl new) (ReadOnly.reads _))
    fun list => ?_
  split
  · exact moves_insNext_null
  · exact (moves_newElement data).bind SameData.trans fun _ =>
      (moves_writeNext _ _).bind SameData.trans fun _ =>
      (moves_writePrev _ _).bind SameData.trans fun _ =>
      (moves_writeNext _ _).bind SameData.trans fun _ =>
      (moves_setList _).bind SameData.trans fun _ => moves_pure _

end SameData

/-! ## Clones -/

/-- What the copy of a value has. -/
def DataValue.copy : DataValue T → DataValue T
  | .text s => .text (s.take configLen)
  | .time t => .time t
  | .scalar type _ => .scalar type 0

/-- What the source has after it is copied. -/
def DataValue.left : DataValue T → DataValue T
  | .scalar type _ => .scalar type 0
  | d => d

/-- A text that fits, a time, or the zero of another type. -/
def DataValue.Cloneable : DataValue T → Prop
  | .text s => s.length ≤ configLen
  | .time _ => True
  | .scalar _ bits => bits = 0

instance : (d : DataValue T) → Decidable d.Cloneable
  | .text s => inferInstanceAs (Decidable (s.length ≤ configLen))
  | .time _ => inferInstanceAs (Decidable True)
  | .scalar _ bits => inferInstanceAs (Decidable (bits = 0))

omit [DecidableEq A] in
theorem DataValue.copy_eq_iff : d.copy = d ↔ d.Cloneable := by
  cases d with
  | text s => rw [copy, text.injEq, List.take_eq_self_iff, Cloneable]
  | time t => exact iff_of_true rfl trivial
  | scalar type bits =>
    rw [copy, Cloneable, scalar.injEq, heq_eq_eq]
    exact ⟨fun h => h.2.symm, fun h => ⟨rfl, h.symm⟩⟩

omit [DecidableEq A] in
theorem DataValue.Cloneable.left_eq (h : d.Cloneable) : d.left = d := by
  cases d with
  | text s => rfl
  | time t => rfl
  | scalar type bits =>
    obtain rfl : bits = 0 := h
    rfl

/-- The memory with another value in the element at `e`. -/
def withData (m : ListMem A (DataValue T)) (e : A) (d : DataValue T) : ListMem A (DataValue T) :=
  { m with heap := Function.update m.heap e ((m.heap e).map fun n => { n with data := some d }) }

theorem data_withData (hn : m.heap e = some n) (d : DataValue T) :
    ((withData m e d).heap e).map Node.data = some (some d) := by
  simp [withData, hn]

theorem withData_self (hn : m.heap e = some n) (hd : n.data = some d) : withData m e d = m := by
  have hheap : Function.update m.heap e ((m.heap e).map fun n => { n with data := some d }) =
      m.heap := by
    rw [hn, Option.map_some, ← hd]
    exact Function.update_eq_self_iff.mpr hn.symm
  rw [withData, hheap]

/-- The copy is made, and the source is left with what is left of its value. -/
theorem ailsaCloneDataElement_run (hn : m.heap e = some n) (hd : n.data = some d) :
    ailsaCloneDataElement (some e) m = (.ok (some d.copy), withData m e d.left) := by
  have hsame := withData_self hn hd
  have hdata : dataOf n.data m = (.ok d, m) := by rw [hd]; rfl
  rw [ailsaCloneDataElement, deref_bind hn, bind_run_ok hdata]
  cases d with
  | text s => exact congrArg (Prod.mk _) hsame.symm
  | time t => exact congrArg (Prod.mk _) hsame.symm
  | scalar type bits => rfl

theorem ailsaInsertClone_run (hn : m.heap e = some n) (hd : n.data = some d) :
    ailsaInsertClone new (some e) m = ailsaListInsert new (some d.copy) (withData m e d.left) := by
  rw [ailsaInsertClone, if_neg (Option.some_ne_none e),
    bind_run_ok (ailsaCloneDataElement_run hn hd)]

/-- The list has a new element at its end that is equal to the source, and the source is as it
was. -/
def ClonesElement (m : ListMem A (DataValue T)) (l : List (A × Option (DataValue T))) (e new : A)
    (d : DataValue T) : Prop :=
  ∃ m', ailsaInsertClone new (some e) m = (.ok 0, m') ∧
    m'.WellFormed (l ++ [(new, some d)]) ∧ ∃ n, m'.heap e = some n ∧ n.data = some d

/-- An element, of the list or of another one, is cloned as it should be exactly if it is a text
of at most 256 characters, a time or a zero. -/
theorem clonesElement_iff (hm : m.WellFormed l) (hn : m.heap e = some n) (hd : n.data = some d)
    (hnew : m.heap new = none) : ClonesElement m l e new d ↔ d.Cloneable := by
  have hne : e ≠ new := by
    rintro rfl
    exact absurd (hn.symm.trans hnew) (Option.some_ne_none n)
  have hlist := hm.holds
  have hholds : m.Holds (l ++ []) := by
    rw [List.append_nil]
    exact hlist
  rw [ClonesElement, ailsaInsertClone_run hn hd]
  constructor
  · rintro ⟨m', hrun, hw, n', hn', hd'⟩
    have hsame := moves_ailsaListInsert (Option.some_ne_none d.copy) (withData m e d.left) e hne
    rw [hrun, hn', Option.map_some, hd', data_withData hn] at hsame
    have hleft : d = d.left := Option.some.inj (Option.some.inj hsame)
    rw [← hleft, withData_self hn hd,
      ailsaListInsert_run hlist hnew (Option.some_ne_none _)] at hrun
    obtain rfl := (Prod.mk.inj hrun).2
    have heq := hw.unique (hholds.linked hnew).wellFormed
    rw [List.append_right_inj, List.cons.injEq, Prod.mk.injEq, Option.some.injEq] at heq
    exact DataValue.copy_eq_iff.mp heq.1.2.symm
  · intro h
    rw [DataValue.copy_eq_iff.mpr h, h.left_eq, withData_self hn hd,
      ailsaListInsert_run hlist hnew (Option.some_ne_none _)]
    have hsame := moves_ailsaListInsert (Option.some_ne_none d) m e hne
    rw [ailsaListInsert_run hlist hnew (Option.some_ne_none _), hn, Option.map_some, hd] at hsame
    obtain ⟨n', hn', hd'⟩ := Option.map_eq_some_iff.mp hsame
    exact ⟨_, rfl, (hholds.linked hnew).wellFormed, n', hn', hd'⟩

/-- A text, from the list itself. -/
theorem clonesElement_text :
    ClonesElement (listMem [(1, some (.text ['a'])), (2, some (.scalar .lint 5))] :
      ListMem ℕ (DataValue Unit)) [(1, some (.text ['a'])), (2, some (.scalar .lint 5))] 1 3
      (.text ['a']) :=
  (clonesElement_iff (has_listMem (by decide)).holds.wellFormed rfl rfl rfl).mpr (by decide)

/-- A number is zero after it is cloned. -/
theorem not_clonesElement_number : ∃ m : ListMem ℕ (DataValue Unit),
    m.WellFormed [(1, some (.scalar .lint 5))] ∧
      (∃ m', ailsaInsertClone 2 (some 1) m = (.ok 0, m') ∧
        (m'.heap 1).map Node.data = some (some (.scalar .lint 0))) ∧
      ¬ClonesElement m [(1, some (.scalar .lint 5))] 1 2 (.scalar .lint 5) := by
  refine ⟨listMem _, (has_listMem (by decide)).holds.wellFormed, ⟨_, rfl, rfl⟩, ?_⟩
  rintro ⟨m', hrun, -, n, hn, hd⟩
  obtain rfl := (Prod.mk.inj hrun).2
  obtain rfl := Option.some.inj hn
  cases hd

end Cmdb
