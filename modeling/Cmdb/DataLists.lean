import Cmdb.AilList
import Cmdb.Ailsa
import Cmdb.ListsApart

/-!
# Lists of data

A function that works with lists of its own beside the one it is called on : `onList` runs a
function of the list on another list of the same memory, and `ListMem.Has m l ls` says that the
list of `m` has the nodes of `l`, and that the lists `ls` are in the memory beside it.
`cmdb_replace_data_element` puts a copy of an element of another list in the place of one of
the list (`replaceDataElement_run`).
-/

namespace Cmdb

open DoublyLinked Prog

variable {A D α : Type}

/-! ## Functions -/

/-- The list of the nodes of `l`, with a destructor. -/
def ailListOf (l : List (A × Option D)) : AilList A := ⟨l.length, first l none, last none l, true⟩

/-- Run a function of the list on another list `l`, and return what that list is then. -/
def onList (l : AilList A) (p : ListProg A D α) : ListProg A D (α × AilList A) := fun m =>
  match p { m with list := l } with
  | (.ok a, m') => (.ok (a, m'.list), { m' with list := m.list })
  | (.error e, m') => (.error e, { m' with list := m.list })

def calloc (al : Allocator A (Option D)) : ListProg A D A := reads fun m => .ok (al.calloc m.heap)

/-- `*new = n` -/
def writeElement [DecidableEq A] (new : A) (n : Node A (Option D)) : ListProg A D Unit :=
  modify fun m => { m with heap := Function.update m.heap new (some n) }

/-- What a data pointer points to. -/
def dataOf : Option D → ListProg A D D
  | some d => pure d
  | none => fail .badPointer

/-- `e = e->next`, `number` times, which stops at the end of the list. -/
def moveDown : ℕ → Option A → ListProg A D (Option A)
  | 0, e => pure e
  | _ + 1, none => pure none
  | number + 1, some a => do
    let e ← deref (some a)
    moveDown number e.next

/-- The data of `number` elements from `e` on. -/
def dataFrom : ℕ → Option A → ListProg A D (List D)
  | 0, _ => pure []
  | number + 1, e => do
    let n ← deref e
    let d ← dataOf n.data
    let ds ← dataFrom number n.next
    return d :: ds

variable [DecidableEq A] (al : Allocator A (Option D))

/-- `ailsa_list_insert` of each of the data. -/
def insertAll : List D → ListProg A D Unit
  | [] => pure ()
  | d :: ds => do
    let new ← calloc al
    let _ ← ailsaListInsert new (some d)
    insertAll ds

/-- The loop of `ailsa_list_clean`. -/
def cleanLoop : ℕ → ListProg A D Unit
  | 0 => fail .noTurns
  | turns + 1 => do
    let list ← getList
    if 0 < list.total then
      let (retval, data) ← ailsaListRemove list.tail none
      if retval = 0 ∧ list.destroy then
        destroyData data
        cleanLoop turns
      else
        cleanLoop turns
    else
      return ()

/-- A turn takes out an element, or none does. -/
def ailsaListClean : ListProg A D Unit := do
  let list ← getList
  cleanLoop (list.total + 1)

/-- The copy of a `data` : a text is copied up to `DOMAIN_LEN` characters. -/
def copyData : AilsaData → AilsaData
  | .number n => .number n
  | .text s => .text (s.take domainLen)

/-- The copy `r`, linked as the element it is copied from, takes the place of the element
`number` of the list, which is found on the way. -/
def linkInPlace (r : A) (number : ℕ) : ListProg A D (Option A × Node A (Option D)) := do
  let list ← getList
  if number = 0 then
    let e ← deref list.head
    setList fun l => { l with head := some r }
    writeNext (some r) e.next
    writePrev e.next (some r)
    return (list.head, e)
  else if number = list.total - 1 then
    let e ← deref list.tail
    setList fun l => { l with tail := some r }
    writePrev (some r) e.prev
    writeNext e.prev (some r)
    return (list.tail, e)
  else
    let p ← moveDown number list.head
    let e ← deref p
    writePrev e.next (some r)
    writeNext e.prev (some r)
    writeNext (some r) e.next
    writePrev (some r) e.prev
    return (p, e)

def cmdbReplaceDataElement (al : Allocator A (Option AilsaData)) (element : Option A)
    (number : ℕ) : ListProg A AilsaData ℤ := do
  if element = none then
    return ailsaNoData
  let r ← calloc al
  let s ← deref element
  let d ← dataOf s.data
  writeElement r ⟨s.prev, s.next, some (copyData d)⟩
  let (p, e) ← linkInPlace r number
  let list ← getList
  if list.destroy then
    destroyData e.data
  freeElement p
  return 0

/-! ## The lists of a memory -/

/-- The list of `m` has the nodes of `l`, and the lists `ls` are in the memory beside it. -/
structure ListMem.Has (m : ListMem A D) (l : List (A × Option D))
    (ls : List (List (A × Option D))) : Prop where
  list : m.list = ailListOf l
  apart : Apart m.heap (l :: ls)

variable {m : ListMem A D} {l l' l₁ l₂ : List (A × Option D)} {ls : List (List (A × Option D))}
  {c : A × Option D} {al : Allocator A (Option D)}

omit [DecidableEq A] in
theorem ListMem.Has.holds (h : m.Has l ls) : m.Holds l := by
  rw [ListMem.Holds, h.list]
  exact h.apart.head

omit [DecidableEq A] in
theorem ListMem.Has.fresh (h : m.Has l ls) (al : Allocator A (Option D)) :
    m.heap (al.calloc m.heap) = none := al.fresh _ h.apart.finite

/-- A list in a memory of its own. -/
def listMem (l : List (A × Option D)) : ListMem A D := ⟨heapOf none l, ailListOf l, []⟩

theorem has_listMem (hn : (addrs l).Nodup) : (listMem l).Has l [] := ⟨rfl, apart_heapOf hn⟩

omit [DecidableEq A] in
/-- A list that is made beside the others. -/
theorem ListMem.Has.new (h : m.Has l ls) : m.Has l ([] :: ls) :=
  ⟨h.list, h.apart.nil.swap⟩

omit [DecidableEq A] in
theorem ListMem.Has.swap (h : m.Has l (l₁ :: l₂ :: ls)) : m.Has l (l₂ :: l₁ :: ls) :=
  ⟨h.list, h.apart.perm (.cons l (.swap l₂ l₁ ls))⟩

theorem ListMem.Has.linked (h : m.Has (l₁ ++ l₂) ls) {new : A} (hnew : m.heap new = none)
    (d : Option D) : (m.linked l₁ l₂ new d).Has (l₁ ++ (new, d) :: l₂) ls := by
  refine ⟨?_, h.apart.link hnew⟩
  rw [ListMem.linked, h.list]
  simp only [ailListOf, List.length_append, List.length_cons, Nat.add_assoc]

theorem ListMem.Has.unlinked (h : m.Has (l₁ ++ c :: l₂) ls) :
    (m.unlinked l₁ c l₂).Has (l₁ ++ l₂) ls := by
  refine ⟨?_, h.apart.unlink⟩
  rw [ListMem.unlinked, h.list]
  simp only [ailListOf, List.length_append, List.length_cons]
  rfl

omit [DecidableEq A] in
/-- A function on the list `l` beside the list of `m`, which does not touch that one. -/
theorem onList_returns {p : ListProg A D α} {bs : List (A × Option D)} (h : m.Has bs (l :: ls))
    {post : α → List (A × Option D) → Prop}
    (hp : ∀ m' : ListMem A D, m'.Has l (bs :: ls) →
      Returns p m' fun a m'' => ∃ l', post a l' ∧ m''.Has l' (bs :: ls)) :
    Returns (onList (ailListOf l) p) m fun r m' =>
      ∃ a l', r = (a, ailListOf l') ∧ post a l' ∧ m'.Has bs (l' :: ls) := by
  obtain ⟨a, m', hrun, l', hpost, hm'⟩ :=
    hp { m with list := ailListOf l } ⟨rfl, h.apart.swap⟩
  refine ⟨(a, m'.list), { m' with list := m.list }, ?_, a, l', ?_, hpost, h.list,
    hm'.apart.swap⟩
  · rw [onList, hrun]
  · rw [hm'.list]

/-! ## Runs -/

omit [DecidableEq A] in
theorem calloc_bind (f : A → ListProg A D α) :
    (calloc al >>= f) m = f (al.calloc m.heap) m := rfl

/-- A new element at the end. -/
theorem ListMem.Has.insert (h : m.Has l ls) (al : Allocator A (Option D)) (d : D) :
    ∃ m', ailsaListInsert (al.calloc m.heap) (some d) m = (.ok 0, m') ∧
      m'.Has (l ++ [(al.calloc m.heap, some d)]) ls := by
  have hnew := h.fresh al
  exact ⟨_, ailsaListInsert_run h.holds hnew (Option.some_ne_none d),
    ListMem.Has.linked ((List.append_nil l).symm ▸ h) hnew (some d)⟩

/-- The element at the end is taken out. -/
theorem ListMem.Has.remove_last (h : m.Has (l ++ [c]) ls) (data : Option D) :
    ∃ m', ailsaListRemove m.list.tail data m = (.ok (0, c.2), m') ∧ m'.Has l ls := by
  have htail : m.list.tail = some c.1 := by rw [h.list, ailListOf, last_append]; rfl
  have hm' : (m.unlinked l c []).Has l ls := by
    have := h.unlinked
    rwa [List.append_nil] at this
  rw [htail]
  exact ⟨_, ailsaListRemove_member h.holds, hm'⟩

/-- The data is put at the end, one after the other. -/
theorem insertAll_returns : ∀ (ds : List D) {m : ListMem A D} {l : List (A × Option D)},
    m.Has l ls → Returns (insertAll al ds) m fun _ m' =>
      ∃ cells, cells.map Prod.snd = ds.map some ∧ m'.Has (l ++ cells) ls
  | [], m, l, h => returns_pure ⟨[], rfl, (List.append_nil l).symm ▸ h⟩
  | d :: ds, m, l, h => by
    obtain ⟨m₁, hins, hm₁⟩ := h.insert al d
    obtain ⟨u, m', hrun, cells, hcells, hm'⟩ := insertAll_returns ds hm₁
    refine ⟨u, m', ?_, (al.calloc m.heap, some d) :: cells, ?_, ?_⟩
    · rw [insertAll, calloc_bind, bind_run_ok hins]
      exact hrun
    · rw [List.map_cons, List.map_cons, hcells]
    · rw [List.append_cons]
      exact hm'

/-- All the elements are taken out. -/
theorem cleanLoop_returns : ∀ (n : ℕ) {m : ListMem A D} {l : List (A × Option D)},
    m.Has l ls → l.length = n → Returns (cleanLoop (n + 1)) m fun _ m' => m'.Has [] ls
  | 0, m, l, h, hlen => by
    obtain rfl := List.eq_nil_of_length_eq_zero hlen
    have htotal : m.list.total = 0 := by rw [h.list]; rfl
    refine ⟨(), m, ?_, h⟩
    rw [cleanLoop, getList_bind, htotal]
    rfl
  | n + 1, m, l, h, hlen => by
    obtain rfl | ⟨l, c, rfl⟩ := List.eq_nil_or_concat' l
    · cases hlen
    · rw [List.length_append, List.length_singleton, Nat.add_right_cancel_iff] at hlen
      have htotal : 0 < m.list.total := by
        rw [h.list, ailListOf, List.length_append]
        exact Nat.succ_pos _
      obtain ⟨m₁, hrem, hm₁⟩ := h.remove_last none
      have hdestroy : m.list.destroy = true := by rw [h.list]; rfl
      let m₂ := { m₁ with destroyed := m₁.destroyed ++ [c.2] }
      obtain ⟨u, m', hrun, hm'⟩ := cleanLoop_returns n (m := m₂) ⟨hm₁.list, hm₁.apart⟩ hlen
      refine ⟨u, m', ?_, hm'⟩
      rw [cleanLoop, getList_bind, if_pos htotal, bind_run_ok hrem]
      dsimp only
      rw [if_pos ⟨rfl, hdestroy⟩]
      exact hrun

theorem ailsaListClean_returns (h : m.Has l ls) :
    Returns ailsaListClean m fun _ m' => m'.Has [] ls := by
  obtain ⟨u, m', hrun, hm'⟩ := cleanLoop_returns l.length h rfl
  refine ⟨u, m', ?_, hm'⟩
  rw [ailsaListClean, getList_bind, h.list]
  exact hrun

/-- A list beside that of `m` is cleaned, and is no longer there. -/
theorem onList_clean_returns {bs : List (A × Option D)} (h : m.Has bs (l :: ls)) :
    Returns (onList (ailListOf l) ailsaListClean) m fun _ m' => m'.Has bs ls := by
  have hclean : Returns (onList (ailListOf l) ailsaListClean) m fun r m' =>
      ∃ a l', r = (a, ailListOf l') ∧ l' = [] ∧ m'.Has bs (l' :: ls) :=
    onList_returns h fun m' hm' =>
      (ailsaListClean_returns hm').imp fun _ _ hm'' => ⟨[], rfl, hm''⟩
  refine hclean.imp ?_
  rintro - m' ⟨-, _, -, rfl, hm'⟩
  exact ⟨hm'.list, hm'.apart.swap.tail⟩

omit [DecidableEq A] in
/-- The element behind `l₁` is as many steps down. -/
theorem moveDown_run : ∀ {l₁ : List (A × Option D)} {q : Option A},
    Segment m.heap q (l₁ ++ c :: l₂) none →
      moveDown l₁.length (first (l₁ ++ c :: l₂) none) m = (.ok (some c.1), m)
  | [], _, _ => rfl
  | b :: l₁, _, hs => by
    have hb := hs.1
    rw [List.cons_append, first_cons, List.length_cons, moveDown, deref_bind hb]
    exact moveDown_run hs.2

omit [DecidableEq A] in
/-- The data of the first elements. -/
theorem dataFrom_run : ∀ {l₁ : List (A × Option D)} {ds : List D} {q : Option A},
    Segment m.heap q (l₁ ++ l₂) none → l₁.map Prod.snd = ds.map some →
      dataFrom ds.length (first (l₁ ++ l₂) none) m = (.ok ds, m)
  | [], [], _, _, _ => rfl
  | b :: l₁, d :: ds, q, hs, hds => by
    obtain ⟨hd, hds⟩ := List.cons_eq_cons.mp hds
    have hb : m.heap b.1 = some ⟨q, first (l₁ ++ l₂) none, some d⟩ := hd ▸ hs.1
    have hrest : dataFrom ds.length (first (l₁ ++ l₂) none) m = (.ok ds, m) :=
      dataFrom_run hs.2 hds
    rw [List.cons_append, first_cons, List.length_cons, dataFrom, deref_bind hb]
    simp only [dataOf, pure_bind_run]
    rw [bind_run_ok hrest]
    rfl
  | [], _ :: _, _, _, hds => by cases hds
  | _ :: _, [], _, _, hds => by cases hds

/-! ## Replacing an element -/

/-- An element of the list is replaced by a new one. -/
def ListMem.replaced (m : ListMem A D) (l₁ : List (A × Option D)) (c : A × Option D)
    (l₂ : List (A × Option D)) (new : A) (d : Option D) : ListMem A D where
  heap := relink m.heap (last none l₁) (first l₂ none) c.1 new d
  list := ailListOf (l₁ ++ (new, d) :: l₂)
  destroyed := m.destroyed ++ [c.2]

theorem ListMem.Has.replaced (h : m.Has (l₁ ++ c :: l₂) ls) {new : A} (hnew : m.heap new = none)
    (d : Option D) : (m.replaced l₁ c l₂ new d).Has (l₁ ++ (new, d) :: l₂) ls :=
  ⟨rfl, h.apart.relink hnew⟩

theorem writeElement_bind {new : A} {n : Node A (Option D)} (f : Unit → ListProg A D α) :
    (writeElement new n >>= f) m =
      f () { m with heap := Function.update m.heap new (some n) } := rfl

/-- A node is as it was when one is written at a free address. -/
theorem update_of_present {h : Heap A (Option D)} {new a : A} {n n' : Node A (Option D)}
    (hnew : h new = none) (ha : h a = some n) :
    Function.update h new (some n') a = some n := by
  have hne : a ≠ new := by
    rintro rfl
    cases hnew.symm.trans ha
  exact (Function.update_of_ne hne ..).trans ha

section LinkInPlace

variable {new : A} {p q : Option A} {d : Option D} {b c' : A × Option D}

/-- The copy takes the place of the first element. -/
theorem linkInPlace_first (hm : m.Has (c :: c' :: l₂) ls) (hnew : m.heap new = none) :
    linkInPlace new 0 { m with heap := Function.update m.heap new (some ⟨none, q, d⟩) } =
      (.ok (some c.1, ⟨none, some c'.1, c.2⟩),
        { m with
          heap := link m.heap none (some c'.1) new d
          list := ailListOf ((new, d) :: c' :: l₂) }) := by
  obtain ⟨hc, hc', -⟩ := hm.holds.segment
  have hne' : some new ≠ some c'.1 := ne_of_absent hnew hc'
  rw [linkInPlace, getList_bind, if_pos rfl, hm.list]
  dsimp only [ailListOf, first_cons]
  rw [deref_bind (update_of_present hnew hc), setList_bind]
  dsimp only [first_cons]
  rw [writeNext_bind (live_update_self _), setNext_update_self,
    writePrev_bind (Live.update ⟨_, _, rfl, hc'⟩ _), setPrev_update_of_ne hne', pure_run]
  simp [link]

/-- The copy takes the place of the last element. -/
theorem linkInPlace_last (hm : m.Has ((l₁ ++ [b]) ++ [c]) ls) (hnew : m.heap new = none) :
    linkInPlace new (l₁ ++ [b]).length
        { m with heap := Function.update m.heap new (some ⟨p, none, d⟩) } =
      (.ok (some c.1, ⟨some b.1, none, c.2⟩),
        { m with
          heap := link m.heap (some b.1) none new d
          list := ailListOf ((l₁ ++ [b]) ++ [(new, d)]) }) := by
  obtain ⟨hl₁, hc, -⟩ := segment_append.mp hm.holds.segment
  obtain ⟨-, hb, -⟩ := segment_append.mp hl₁
  simp only [last_append, last_cons, last_nil, first_nil] at hc
  have hnb : some new ≠ some b.1 := ne_of_absent hnew hb
  have hpos : ¬(l₁ ++ [b]).length = 0 := by
    rw [List.length_append]
    exact Nat.succ_ne_zero _
  have hlast : (l₁ ++ [b]).length = (ailListOf ((l₁ ++ [b]) ++ [c])).total - 1 := by
    simp [ailListOf]
  have htail : (ailListOf ((l₁ ++ [b]) ++ [c])).tail = some c.1 := last_append
  rw [linkInPlace, getList_bind, if_neg hpos, hm.list, if_pos hlast, htail,
    deref_bind (update_of_present hnew hc), setList_bind, writePrev_bind (live_update_self _),
    setPrev_update_self, writeNext_bind (Live.update ⟨_, _, rfl, hb⟩ _),
    setNext_update_of_ne hnb, pure_run]
  simp [link, ailListOf]

/-- The copy takes the place of an element in the middle. -/
theorem linkInPlace_middle (hm : m.Has ((l₁ ++ [b]) ++ c :: c' :: l₂) ls)
    (hnew : m.heap new = none) :
    linkInPlace new (l₁ ++ [b]).length
        { m with heap := Function.update m.heap new (some ⟨p, q, d⟩) } =
      (.ok (some c.1, ⟨some b.1, some c'.1, c.2⟩),
        { m with
          heap := link m.heap (some b.1) (some c'.1) new d
          list := ailListOf ((l₁ ++ [b]) ++ (new, d) :: c' :: l₂) }) := by
  have hseg := hm.holds.segment
  obtain ⟨hl₁, hc, hc', -⟩ := segment_append.mp hseg
  obtain ⟨-, hb, -⟩ := segment_append.mp hl₁
  simp only [last_append, last_cons, last_nil, first_cons] at hc
  have hnb : some new ≠ some b.1 := ne_of_absent hnew hb
  have hne' : some new ≠ some c'.1 := ne_of_absent hnew hc'
  have hpos : ¬(l₁ ++ [b]).length = 0 := by
    rw [List.length_append]
    exact Nat.succ_ne_zero _
  have hmid : ¬(l₁ ++ [b]).length = (ailListOf ((l₁ ++ [b]) ++ c :: c' :: l₂)).total - 1 := by
    simp [ailListOf]
  have hhead : (ailListOf ((l₁ ++ [b]) ++ c :: c' :: l₂)).head =
      first ((l₁ ++ [b]) ++ c :: c' :: l₂) none := rfl
  -- the walk to the element does not meet the copy
  have hwalk : Segment (Function.update m.heap new (some ⟨p, q, d⟩)) none
      ((l₁ ++ [b]) ++ c :: c' :: l₂) none := by
    refine hseg.congr fun a ha => Function.update_of_ne ?_ ..
    rintro rfl
    exact hm.holds.not_mem hnew ha
  rw [linkInPlace, getList_bind, if_neg hpos, hm.list, if_neg hmid, hhead,
    bind_run_ok (moveDown_run hwalk), deref_bind (update_of_present hnew hc),
    writePrev_bind (Live.update ⟨_, _, rfl, hc'⟩ _), setPrev_update_of_ne hne',
    writeNext_bind (Live.update (live_setPrev.mpr ⟨_, _, rfl, hb⟩) _),
    setNext_update_of_ne hnb, setNext_setPrev, writeNext_bind (live_update_self _),
    setNext_update_self, writePrev_bind (live_update_self _), setPrev_update_self, pure_run]
  simp [link, ailListOf]

/-- The copy `new`, with the links it came with, is linked in the place of `c`. At an end of
the list the link out of it is the one it came with. -/
theorem linkInPlace_run (hm : m.Has (l₁ ++ c :: l₂) ls) (hnew : m.heap new = none)
    (hlen : l₁ ≠ [] ∨ l₂ ≠ []) (hp : l₁ = [] → p = none) (hq : l₂ = [] → q = none) :
    linkInPlace new l₁.length { m with heap := Function.update m.heap new (some ⟨p, q, d⟩) } =
      (.ok (some c.1, ⟨last none l₁, first l₂ none, c.2⟩),
        { m with
          heap := link m.heap (last none l₁) (first l₂ none) new d
          list := ailListOf (l₁ ++ (new, d) :: l₂) }) := by
  cases l₁ using List.reverseRecOn with
  | nil =>
    obtain rfl := hp rfl
    cases l₂ with
    | nil => simp at hlen
    | cons c' l₂ => exact linkInPlace_first hm hnew
  | append_singleton l₁ b =>
    rw [last_append]
    cases l₂ with
    | nil =>
      obtain rfl := hq rfl
      exact linkInPlace_last hm hnew
    | cons c' l₂ => exact linkInPlace_middle hm hnew

end LinkInPlace

/-- An element is replaced by a copy of one of another list, which at an end of the list has no
link out of it. -/
theorem cmdbReplaceDataElement_run {m : ListMem A AilsaData}
    {l₁ l₂ : List (A × Option AilsaData)} {ls : List (List (A × Option AilsaData))}
    {c : A × Option AilsaData} {a : A} {p q : Option A} {d : AilsaData}
    (al : Allocator A (Option AilsaData)) (hm : m.Has (l₁ ++ c :: l₂) ls)
    (hlen : l₁ ≠ [] ∨ l₂ ≠ []) (ha : m.heap a = some ⟨p, q, some d⟩) (hp : l₁ = [] → p = none)
    (hq : l₂ = [] → q = none) :
    cmdbReplaceDataElement al (some a) l₁.length m =
      (.ok 0, m.replaced l₁ c l₂ (al.calloc m.heap) (some (copyData d))) := by
  have hlink := linkInPlace_run (d := some (copyData d)) hm (hm.fresh al) hlen hp hq
  rw [cmdbReplaceDataElement, if_neg (Option.some_ne_none a), calloc_bind, deref_bind ha]
  simp only [dataOf, pure_bind_run]
  rw [writeElement_bind, bind_run_ok hlink]
  dsimp only
  rw [getList_bind]
  rw [ailListOf, if_pos rfl, destroyData_bind, freeElement_bind]
  rfl

end Cmdb
