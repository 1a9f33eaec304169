import Mathlib.Data.List.Induction
import Mathlib.Data.List.Nodup
import Mathlib.Logic.Function.Basic

/-!
# Doubly linked lists

A heap maps addresses to nodes, each with two links and data. `Segment h p l q` : the nodes
of `l`, in order, are linked both ways, behind `p` and before `q`. Linking a node in between
two neighbours and unlinking one are writes to at most three nodes, and keep a segment from
end to end (`Segment.link`, `Segment.unlink`), whichever of the neighbours are missing.

`Represents` adds the head, the tail and the number of nodes, and gives what a walk over the
links sees (`Represents.wellFormed`).
-/

namespace DoublyLinked

variable {A D : Type}

/-- A node. -/
structure Node (A D : Type) where
  prev : Option A
  next : Option A
  data : D
deriving DecidableEq, Repr

/-- The nodes in memory, by address. -/
abbrev Heap (A D : Type) := A → Option (Node A D)

/-! ## Segments -/

/-- The address of the first node of `l`, or else `q`. -/
def first (l : List (A × D)) (q : Option A) : Option A :=
  match l with
  | [] => q
  | c :: _ => some c.1

/-- The address of the last node of `l`, or else `p`. -/
def last (p : Option A) : List (A × D) → Option A
  | [] => p
  | c :: l => last (some c.1) l

/-- The addresses of the nodes. -/
def addrs (l : List (A × D)) : List A := l.map Prod.fst

/-- The nodes of `l` are linked both ways, behind `p` and before `q`. -/
def Segment (h : Heap A D) : Option A → List (A × D) → Option A → Prop
  | _, [], _ => True
  | p, c :: l, q => h c.1 = some ⟨p, first l q, c.2⟩ ∧ Segment h (some c.1) l q

variable {h h' : Heap A D} {p q r : Option A} {l l₁ l₂ : List (A × D)} {c : A × D} {a new : A}
  {d : D}

@[simp] theorem addrs_nil : addrs ([] : List (A × D)) = [] := rfl

@[simp] theorem addrs_cons : addrs (c :: l) = c.1 :: addrs l := rfl

@[simp] theorem addrs_append : addrs (l₁ ++ l₂) = addrs l₁ ++ addrs l₂ := List.map_append

@[simp] theorem first_nil : first ([] : List (A × D)) q = q := rfl

@[simp] theorem first_cons : first (c :: l) q = some c.1 := rfl

@[simp] theorem last_nil : last p ([] : List (A × D)) = p := rfl

@[simp] theorem last_cons : last p (c :: l) = last (some c.1) l := rfl

@[simp] theorem first_append : first (l₁ ++ l₂) q = first l₁ (first l₂ q) := by
  cases l₁ <;> rfl

@[simp] theorem last_append : last p (l₁ ++ l₂) = last (last p l₁) l₂ := by
  induction l₁ generalizing p with
  | nil => rfl
  | cons c l₁ ih => exact ih

theorem last_mem_addrs : ∀ {l : List (A × D)} {p : Option A}, l ≠ [] →
    ∃ a ∈ addrs l, last p l = some a
  | [c], _, _ => ⟨c.1, List.mem_singleton_self _, rfl⟩
  | c :: c' :: l, _, _ => by
    obtain ⟨a, ha, hlast⟩ := last_mem_addrs (p := some c.1) (List.cons_ne_nil c' l)
    exact ⟨a, List.mem_cons_of_mem _ ha, hlast⟩

theorem last_ne_of_not_mem (hl : l ≠ []) (ha : a ∉ addrs l) : some a ≠ last p l := by
  obtain ⟨b, hb, hlast⟩ := last_mem_addrs (p := p) hl
  rw [hlast]
  rintro ⟨⟩
  exact ha hb

theorem first_ne_of_not_mem (hp : some a ≠ q) (ha : a ∉ addrs l) : some a ≠ first l q := by
  cases l with
  | nil => exact hp
  | cons c l =>
    rintro ⟨⟩
    exact ha (List.mem_cons_self ..)

theorem first_none_ne (ha : a ∉ addrs l) : some a ≠ first l none :=
  first_ne_of_not_mem (Option.some_ne_none a) ha

theorem last_none_ne (ha : a ∉ addrs l) : some a ≠ last none l := by
  by_cases hl : l = []
  · rw [hl]
    nofun
  · exact last_ne_of_not_mem hl ha

/-- The nodes before another one are not it. -/
theorem not_mem_addrs_left (hn : (addrs (l₁ ++ c :: l₂)).Nodup) : c.1 ∉ addrs l₁ := by
  rw [addrs_append, addrs_cons] at hn
  exact fun hc => (List.nodup_append.mp hn).2.2 c.1 hc c.1 (List.mem_cons_self ..) rfl

theorem segment_append : ∀ {l₁ : List (A × D)} {p : Option A}, Segment h p (l₁ ++ l₂) q ↔
    Segment h p l₁ (first l₂ q) ∧ Segment h (last p l₁) l₂ q
  | [], _ => ⟨fun h => ⟨trivial, h⟩, And.right⟩
  | c :: l₁, p => by
    rw [List.cons_append, Segment, Segment, first_append, segment_append, and_assoc, last]

/-- What is not in the segment may change. -/
theorem Segment.congr : ∀ {l : List (A × D)} {p : Option A}, (∀ a ∈ addrs l, h' a = h a) →
    Segment h p l q → Segment h' p l q
  | [], _, _, _ => trivial
  | c :: _, _, hagree, hs =>
    ⟨(hagree c.1 (List.mem_cons_self ..)).trans hs.1,
      hs.2.congr fun a ha => hagree a (List.mem_cons_of_mem _ ha)⟩

/-- The nodes of a segment are in memory, with their data. -/
theorem Segment.exists_node : ∀ {l : List (A × D)} {p : Option A}, Segment h p l q →
    ∀ c ∈ l, ∃ n, h c.1 = some n ∧ n.data = c.2
  | c :: l, p, hs, c', hc' => by
    obtain rfl | hc' := List.mem_cons.mp hc'
    · exact ⟨_, hs.1, rfl⟩
    · exact hs.2.exists_node c' hc'

/-! ## Lists -/

/-- There is a node at `p`. -/
def Live (h : Heap A D) (p : Option A) : Prop := ∃ a n, p = some a ∧ h a = some n

/-- The links from `p` lead to `l`, node after node, and end there. -/
def Walk (h : Heap A D) (step : Node A D → Option A) : Option A → List A → Prop
  | p, [] => p = none
  | p, a :: l => p = some a ∧ ∃ n, h a = some n ∧ Walk h step (step n) l

/-- A list of `total` nodes between `head` and `tail` : the links forward lead from the head
to the nodes of `l`, those back from the tail to the same nodes in reverse, and the ends are
missing exactly when there is no node. -/
structure WellFormed (h : Heap A D) (head tail : Option A) (total : ℕ) (l : List (A × D)) :
    Prop where
  nodup : (addrs l).Nodup
  forward : Walk h Node.next head (addrs l)
  backward : Walk h Node.prev tail (addrs l).reverse
  data : ∀ c ∈ l, ∃ n, h c.1 = some n ∧ n.data = c.2
  total_eq : total = l.length
  head_prev : ∀ a, head = some a → ∃ n, h a = some n ∧ n.prev = none
  tail_next : ∀ a, tail = some a → ∃ n, h a = some n ∧ n.next = none
  head_eq_none : head = none ↔ total = 0
  tail_eq_none : tail = none ↔ total = 0

/-- The nodes of `l` are one segment, and `head`, `tail` and `total` are those of it. -/
structure Represents (h : Heap A D) (head tail : Option A) (total : ℕ) (l : List (A × D)) :
    Prop where
  nodup : (addrs l).Nodup
  segment : Segment h none l none
  head_eq : head = first l none
  tail_eq : tail = last none l
  total_eq : total = l.length

theorem Segment.forward : ∀ {l : List (A × D)} {p : Option A}, Segment h p l none →
    Walk h Node.next (first l none) (addrs l)
  | [], _, _ => rfl
  | _ :: _, _, hs => ⟨rfl, _, hs.1, hs.2.forward⟩

theorem Segment.backward (hs : Segment h none l q) :
    Walk h Node.prev (last none l) (addrs l).reverse := by
  induction l using List.reverseRecOn generalizing q with
  | nil => rfl
  | append_singleton l c ih =>
    obtain ⟨hl, hc, -⟩ := segment_append.mp hs
    rw [last_append, addrs_append, List.reverse_append]
    exact ⟨rfl, _, hc, ih hl⟩

/-- What is not in memory is not in the list. -/
theorem Represents.not_mem {head tail : Option A} {total : ℕ}
    (hr : Represents h head tail total l) (ha : h a = none) : a ∉ addrs l := by
  intro hmem
  obtain ⟨c, hc, rfl⟩ := List.mem_map.mp hmem
  obtain ⟨n, hn, -⟩ := hr.segment.exists_node c hc
  rw [ha] at hn
  cases hn

/-- What is not in the list may change. -/
theorem Represents.congr {head tail : Option A} {total : ℕ} (hr : Represents h head tail total l)
    (hagree : ∀ a ∈ addrs l, h' a = h a) : Represents h' head tail total l :=
  { hr with segment := hr.segment.congr hagree }

theorem Represents.wellFormed {head tail : Option A} {total : ℕ}
    (hr : Represents h head tail total l) : WellFormed h head tail total l := by
  obtain ⟨hnodup, hs, rfl, rfl, rfl⟩ := hr
  refine ⟨hnodup, hs.forward, hs.backward, hs.exists_node, rfl, ?_, ?_, ?_, ?_⟩
  · intro a ha
    cases l with
    | nil => cases ha
    | cons c l =>
      cases ha
      exact ⟨_, hs.1, rfl⟩
  · intro a ha
    cases l using List.reverseRecOn with
    | nil => cases ha
    | append_singleton l c =>
      rw [last_append] at ha
      cases ha
      exact ⟨_, (segment_append.mp hs).2.1, rfl⟩
  · cases l <;> simp [first]
  · cases l using List.reverseRecOn <;> simp [last, last_append]

theorem Walk.unique {step : Node A D → Option A} : ∀ {as as' : List A} {p : Option A},
    Walk h step p as → Walk h step p as' → as = as'
  | [], [], _, _, _ => rfl
  | [], _ :: _, _, hw, hw' => nomatch hw.symm.trans hw'.1
  | _ :: _, [], _, hw, hw' => nomatch hw'.symm.trans hw.1
  | a :: as, a' :: as', _, ⟨ha, n, hn, hw⟩, ⟨ha', n', hn', hw'⟩ => by
    obtain rfl := Option.some.inj (ha.symm.trans ha')
    obtain rfl := Option.some.inj (hn.symm.trans hn')
    rw [hw.unique hw']

/-- A heap has one list between two ends. -/
theorem WellFormed.unique {head tail : Option A} {total : ℕ} {l l' : List (A × D)}
    (hw : WellFormed h head tail total l) (hw' : WellFormed h head tail total l') : l = l' := by
  have haddrs : addrs l = addrs l' := hw.forward.unique hw'.forward
  have hlen : l.length = l'.length := hw.total_eq.symm.trans hw'.total_eq
  refine List.ext_getElem hlen fun i hi hi' => ?_
  have haddr : (l[i]).1 = (l'[i]).1 := by
    have := congrArg (·[i]?) haddrs
    simpa [addrs, hi, hi'] using this
  obtain ⟨n, hn, hd⟩ := hw.data _ (List.getElem_mem hi)
  obtain ⟨n', hn', hd'⟩ := hw'.data _ (List.getElem_mem hi')
  rw [haddr, hn', Option.some.injEq] at hn
  exact Prod.ext haddr (hd.symm.trans ((congrArg Node.data hn).symm.trans hd'))

theorem first_none_eq (l : List (A × D)) : first l none = (addrs l).head? := by
  cases l <;> rfl

theorem last_none_eq (l : List (A × D)) : last none l = (addrs l).reverse.head? := by
  induction l using List.reverseRecOn with
  | nil => rfl
  | append_singleton l c => rw [last_append, addrs_append, List.reverse_append]; rfl

theorem Walk.eq_head? {step : Node A D → Option A} {as : List A} (hw : Walk h step p as) :
    p = as.head? := by
  cases as with
  | nil => exact hw
  | cons a as => exact hw.1

/-- The link of each node of a walk leads to the next one. -/
theorem Walk.step_eq {step : Node A D → Option A} {bs : List A} : ∀ {as : List A} {p : Option A},
    Walk h step p (as ++ a :: bs) → ∃ n, h a = some n ∧ step n = bs.head?
  | [], _, ⟨_, n, hn, hw⟩ => ⟨n, hn, hw.eq_head?⟩
  | _ :: _, _, ⟨_, _, _, hw⟩ => hw.step_eq

theorem segment_of_nodes : ∀ {l : List (A × D)} {p : Option A},
    (∀ l₁ c l₂, l = l₁ ++ c :: l₂ → h c.1 = some ⟨last p l₁, first l₂ q, c.2⟩) → Segment h p l q
  | [], _, _ => trivial
  | c :: l, _, hnodes => ⟨hnodes [] c l rfl, segment_of_nodes fun l₁ c' l₂ hl =>
      hnodes (c :: l₁) c' l₂ (by rw [hl, List.cons_append])⟩

/-- What the walks see of a list is all that there is of it. -/
theorem WellFormed.represents {head tail : Option A} {total : ℕ}
    (hw : WellFormed h head tail total l) : Represents h head tail total l := by
  refine ⟨hw.nodup, segment_of_nodes fun l₁ c l₂ hl => ?_, ?_, ?_, hw.total_eq⟩
  · have hforward := hw.forward
    have hbackward := hw.backward
    rw [hl, addrs_append, addrs_cons] at hforward hbackward
    rw [List.reverse_append, List.reverse_cons, List.append_assoc,
      List.singleton_append] at hbackward
    obtain ⟨n, hn, hnext⟩ := hforward.step_eq
    obtain ⟨n', hn', hprev⟩ := hbackward.step_eq
    obtain ⟨n'', hn'', hdata⟩ := hw.data c (hl ▸ List.mem_append_right _ (List.mem_cons_self ..))
    obtain rfl := Option.some.inj (hn.symm.trans hn')
    obtain rfl := Option.some.inj (hn.symm.trans hn'')
    rw [hn, first_none_eq, last_none_eq, ← hnext, ← hprev, ← hdata]
  · rw [first_none_eq]
    exact hw.forward.eq_head?
  · rw [last_none_eq]
    exact hw.backward.eq_head?

variable [DecidableEq A]

/-! ## Positions -/

/-- The position of the node at `a`. -/
def position (l : List (A × D)) (a : A) : ℕ := (addrs l).idxOf a

omit [DecidableEq A] in
theorem exists_split (ha : a ∈ addrs l) : ∃ l₁ c l₂, l = l₁ ++ c :: l₂ ∧ c.1 = a := by
  obtain ⟨c, hc, rfl⟩ := List.mem_map.mp ha
  obtain ⟨l₁, l₂, rfl⟩ := List.append_of_mem hc
  exact ⟨l₁, c, l₂, rfl, rfl⟩

theorem position_middle (hn : (addrs (l₁ ++ c :: l₂)).Nodup) :
    position (l₁ ++ c :: l₂) c.1 = l₁.length := by
  rw [position, addrs_append, addrs_cons, List.idxOf_append, if_neg (not_mem_addrs_left hn),
    List.idxOf_cons_self, Nat.zero_add, addrs, List.length_map]

omit [DecidableEq A] in
theorem insertIdx_length : ∀ {l₁ : List (A × D)}, (l₁ ++ l₂).insertIdx l₁.length c =
    l₁ ++ c :: l₂
  | [] => rfl
  | b :: _ => congrArg (b :: ·) insertIdx_length

omit [DecidableEq A] in
theorem eraseIdx_length : (l₁ ++ c :: l₂).eraseIdx l₁.length = l₁ ++ l₂ := by
  rw [List.eraseIdx_append_of_length_le (Nat.le_refl _), Nat.sub_self]
  rfl

/-! ## Writes -/

/-- Write the link forward of the node at `p`, if there is one. -/
def setNext (h : Heap A D) (p q : Option A) : Heap A D := fun a =>
  if some a = p then (h a).map fun n => { n with next := q } else h a

/-- Write the link back of the node at `q`, if there is one. -/
def setPrev (h : Heap A D) (q p : Option A) : Heap A D := fun a =>
  if some a = q then (h a).map fun n => { n with prev := p } else h a

@[simp] theorem setNext_none (h : Heap A D) (q : Option A) : setNext h none q = h := rfl

@[simp] theorem setPrev_none (h : Heap A D) (p : Option A) : setPrev h none p = h := rfl

theorem setNext_of_ne (ha : some a ≠ p) : setNext h p q a = h a := if_neg ha

theorem setPrev_of_ne (ha : some a ≠ q) : setPrev h q p a = h a := if_neg ha

/-- A new node between `p` and `q`. -/
def link (h : Heap A D) (p q : Option A) (new : A) (d : D) : Heap A D :=
  Function.update (setPrev (setNext h p (some new)) q (some new)) new (some ⟨p, q, d⟩)

/-- The node at `a` is taken out from between `p` and `q`. -/
def unlink (h : Heap A D) (p q : Option A) (a : A) : Heap A D :=
  Function.update (setPrev (setNext h p q) q p) a none

/-- A new node between `p` and `q`, in the place of the one at `a`. -/
def relink (h : Heap A D) (p q : Option A) (a new : A) (d : D) : Heap A D :=
  Function.update (link h p q new d) a none

/-- The last node of a segment is linked to another one. -/
theorem Segment.setNext_last : ∀ {l : List (A × D)} {p : Option A}, Segment h p l q →
    (addrs l).Nodup → Segment (setNext h (last p l) r) p l r
  | [], _, _, _ => trivial
  | [c], p, hs, _ => by
    refine ⟨?_, trivial⟩
    rw [last, last, setNext, if_pos rfl, hs.1]
    rfl
  | c :: c' :: l, p, hs, hn => by
    obtain ⟨hc, hn⟩ := List.nodup_cons.mp hn
    refine ⟨?_, hs.2.setNext_last hn⟩
    rw [last, setNext_of_ne (last_ne_of_not_mem (List.cons_ne_nil c' l) hc), hs.1]
    rfl

/-- The first node of a segment is linked back to another one. -/
theorem Segment.setPrev_first (hs : Segment h p l q) (hn : (addrs l).Nodup) :
    Segment (setPrev h (first l none) r) r l q := by
  cases l with
  | nil => trivial
  | cons c l =>
    obtain ⟨hc, -⟩ := List.nodup_cons.mp hn
    refine ⟨?_, hs.2.congr fun a ha => setPrev_of_ne ?_⟩
    · rw [first, setPrev, if_pos rfl, hs.1]
      rfl
    · rintro ⟨⟩
      exact hc ha

/-- Linking in a new node. -/
theorem Segment.link (hs : Segment h none (l₁ ++ l₂) none) (hn : (addrs (l₁ ++ l₂)).Nodup)
    (hnew : new ∉ addrs (l₁ ++ l₂)) :
    Segment (link h (last none l₁) (first l₂ none) new d) none (l₁ ++ (new, d) :: l₂) none := by
  rw [addrs_append] at hn hnew
  obtain ⟨hn₁, hn₂, hdisj⟩ := List.nodup_append.mp hn
  obtain ⟨hnew₁, hnew₂⟩ := not_or.mp (mt List.mem_append.mpr hnew)
  obtain ⟨hs₁, hs₂⟩ := segment_append.mp hs
  have hput : ∀ a, a ≠ new → DoublyLinked.link h (last none l₁) (first l₂ none) new d a =
      setPrev (setNext h (last none l₁) (some new)) (first l₂ none) (some new) a :=
    fun a ha => Function.update_of_ne ha ..
  refine segment_append.mpr ⟨?_, Function.update_self .., ?_⟩
  · refine (hs₁.setNext_last hn₁).congr fun a ha => ?_
    have hfirst : some a ≠ first l₂ none := first_none_ne fun ha' => hdisj a ha a ha' rfl
    rw [hput a fun heq => hnew₁ (heq ▸ ha), setPrev_of_ne hfirst]
    rfl
  · have hkept : Segment (setNext h (last none l₁) (some new)) (last none l₁) l₂ none := by
      refine hs₂.congr fun a ha => setNext_of_ne ?_
      exact last_none_ne fun ha' => hdisj a ha' a ha rfl
    exact (hkept.setPrev_first hn₂).congr fun a ha => hput a fun heq => hnew₂ (heq ▸ ha)

/-- Unlinking a node. -/
theorem Segment.unlink (hs : Segment h none (l₁ ++ c :: l₂) none)
    (hn : (addrs (l₁ ++ c :: l₂)).Nodup) :
    Segment (unlink h (last none l₁) (first l₂ none) c.1) none (l₁ ++ l₂) none := by
  have hc₁ := not_mem_addrs_left hn
  rw [addrs_append, addrs_cons] at hn
  obtain ⟨hn₁, hn₂, hdisj⟩ := List.nodup_append.mp hn
  obtain ⟨hc₂, hn₂⟩ := List.nodup_cons.mp hn₂
  obtain ⟨hs₁, -, hs₂⟩ := segment_append.mp hs
  have hput : ∀ a, a ≠ c.1 → DoublyLinked.unlink h (last none l₁) (first l₂ none) c.1 a =
      setPrev (setNext h (last none l₁) (first l₂ none)) (first l₂ none) (last none l₁) a :=
    fun a ha => Function.update_of_ne ha ..
  refine segment_append.mpr ⟨?_, ?_⟩
  · refine (hs₁.setNext_last hn₁).congr fun a ha => ?_
    rw [hput a fun heq => hc₁ (heq ▸ ha), setPrev_of_ne]
    exact first_none_ne fun ha' => hdisj a ha a (List.mem_cons_of_mem _ ha') rfl
  · have hkept : Segment (setNext h (last none l₁) (first l₂ none)) (some c.1) l₂ none := by
      refine hs₂.congr fun a ha => setNext_of_ne ?_
      exact last_none_ne fun ha' => hdisj a ha' a (List.mem_cons_of_mem _ ha) rfl
    exact (hkept.setPrev_first hn₂).congr fun a ha => hput a fun heq => hc₂ (heq ▸ ha)

theorem setNext_update_self (n : Node A D) : setNext (Function.update h a (some n)) (some a) q =
    Function.update h a (some { n with next := q }) := by
  funext b
  by_cases hb : b = a
  · subst hb
    simp [setNext]
  · simp [setNext, hb]

theorem setPrev_update_self (n : Node A D) : setPrev (Function.update h a (some n)) (some a) p =
    Function.update h a (some { n with prev := p }) := by
  funext b
  by_cases hb : b = a
  · subst hb
    simp [setPrev]
  · simp [setPrev, hb]

theorem setNext_update_of_ne (ha : some a ≠ p) (n : Option (Node A D)) :
    setNext (Function.update h a n) p q = Function.update (setNext h p q) a n := by
  funext b
  by_cases hb : b = a
  · subst hb
    rw [setNext_of_ne ha, Function.update_self, Function.update_self]
  · rw [Function.update_of_ne hb, setNext, setNext, Function.update_of_ne hb]

theorem setPrev_update_of_ne (ha : some a ≠ q) (n : Option (Node A D)) :
    setPrev (Function.update h a n) q p = Function.update (setPrev h q p) a n := by
  funext b
  by_cases hb : b = a
  · subst hb
    rw [setPrev_of_ne ha, Function.update_self, Function.update_self]
  · rw [Function.update_of_ne hb, setPrev, setPrev, Function.update_of_ne hb]

theorem setNext_setPrev {p' q' : Option A} : setNext (setPrev h q p) p' q' =
    setPrev (setNext h p' q') q p := by
  funext b
  simp only [setNext, setPrev]
  split <;> split <;> simp [Function.comp_def]

theorem live_setNext {r q : Option A} : Live (setNext h p r) q ↔ Live h q := by
  refine exists_congr fun a => ?_
  by_cases ha : some a = p
  · simp [setNext, ha]
  · simp [setNext_of_ne ha]

theorem live_setPrev {r : Option A} : Live (setPrev h p r) q ↔ Live h q := by
  refine exists_congr fun a => ?_
  by_cases ha : some a = p
  · simp [setPrev, ha]
  · simp [setPrev_of_ne ha]

theorem Live.update (hp : Live h p) (n : Node A D) :
    Live (Function.update h new (some n)) p := by
  obtain ⟨a, m, rfl, ha⟩ := hp
  by_cases heq : a = new
  · exact ⟨a, n, rfl, heq ▸ Function.update_self ..⟩
  · exact ⟨a, m, rfl, (Function.update_of_ne heq ..).trans ha⟩

theorem live_update_self (n : Node A D) : Live (Function.update h new (some n)) (some new) :=
  ⟨new, n, rfl, Function.update_self ..⟩

/-- What is not one of the nodes is as it was after a new one is linked in. -/
theorem link_of_not_mem (ha : a ∉ addrs (l₁ ++ l₂)) (hne : a ≠ new) :
    link h (last none l₁) (first l₂ none) new d a = h a := by
  rw [addrs_append, List.mem_append, not_or] at ha
  rw [link, Function.update_of_ne hne, setPrev_of_ne (first_none_ne ha.2),
    setNext_of_ne (last_none_ne ha.1)]

/-- What is not one of the nodes is as it was after one of them is taken out. -/
theorem unlink_of_not_mem (ha : a ∉ addrs (l₁ ++ c :: l₂)) :
    unlink h (last none l₁) (first l₂ none) c.1 a = h a := by
  rw [addrs_append, addrs_cons, List.mem_append, List.mem_cons, not_or, not_or] at ha
  obtain ⟨ha₁, hc, ha₂⟩ := ha
  rw [unlink, Function.update_of_ne hc, setPrev_of_ne (first_none_ne ha₂),
    setNext_of_ne (last_none_ne ha₁)]

@[simp] theorem setNext_setNext : setNext (setNext h p q) p r = setNext h p r := by
  funext b
  simp only [setNext]
  split <;> simp [Function.comp_def]

@[simp] theorem setPrev_setPrev : setPrev (setPrev h q p) q r = setPrev h q r := by
  funext b
  simp only [setPrev]
  split <;> simp [Function.comp_def]

/-- A node is put in the place of another one by taking that one out and linking it in. -/
theorem relink_eq (hp : some a ≠ p) (hq : some a ≠ q) (hne : a ≠ new) :
    relink h p q a new d = link (unlink h p q a) p q new d := by
  rw [relink, link, link, unlink, setNext_update_of_ne hp, setPrev_update_of_ne hq,
    setNext_setPrev, setNext_setNext, setPrev_setPrev, Function.update_comm hne]

/-! ## Operations -/

variable {head tail : Option A} {total : ℕ}

theorem Represents.link (hr : Represents h head tail total (l₁ ++ l₂)) (hnew : h new = none) :
    Represents (link h (last none l₁) (first l₂ none) new d)
      (first (l₁ ++ (new, d) :: l₂) none) (last none (l₁ ++ (new, d) :: l₂)) (total + 1)
      (l₁ ++ (new, d) :: l₂) := by
  have hmem := hr.not_mem hnew
  refine ⟨?_, hr.segment.link hr.nodup hmem, rfl, rfl, ?_⟩
  · rw [addrs_append, addrs_cons, List.nodup_middle, ← addrs_append]
    exact List.nodup_cons.mpr ⟨hmem, hr.nodup⟩
  · rw [hr.total_eq, List.length_append, List.length_append, List.length_cons, Nat.add_assoc]

theorem Represents.unlink (hr : Represents h head tail total (l₁ ++ c :: l₂)) :
    Represents (unlink h (last none l₁) (first l₂ none) c.1)
      (first (l₁ ++ l₂) none) (last none (l₁ ++ l₂)) (total - 1) (l₁ ++ l₂) := by
  refine ⟨?_, hr.segment.unlink hr.nodup, rfl, rfl, ?_⟩
  · have hnodup := hr.nodup
    rw [addrs_append, addrs_cons, List.nodup_middle, ← addrs_append] at hnodup
    exact (List.nodup_cons.mp hnodup).2
  · rw [hr.total_eq, List.length_append, List.length_append, List.length_cons]
    omega

theorem Represents.relink (hr : Represents h head tail total (l₁ ++ c :: l₂))
    (hnew : h new = none) :
    Represents (relink h (last none l₁) (first l₂ none) c.1 new d)
      (first (l₁ ++ (new, d) :: l₂) none) (last none (l₁ ++ (new, d) :: l₂)) total
      (l₁ ++ (new, d) :: l₂) := by
  have hnew' : new ∉ addrs (l₁ ++ c :: l₂) := hr.not_mem hnew
  have hnodup := hr.nodup
  rw [addrs_append, addrs_cons, List.nodup_middle, List.nodup_cons, List.mem_append,
    not_or] at hnodup
  have hne : c.1 ≠ new := by
    rintro rfl
    exact hnew' (List.mem_map_of_mem (List.mem_append_right _ (List.mem_cons_self ..)))
  have htotal : total - 1 + 1 = total := by
    rw [hr.total_eq, List.length_append, List.length_cons]
    omega
  rw [relink_eq (last_none_ne hnodup.1.1) (first_none_ne hnodup.1.2) hne]
  exact htotal ▸ hr.unlink.link ((unlink_of_not_mem hnew').trans hnew)

/-- What is not one of the nodes is as it was after one of them is replaced. -/
theorem relink_of_not_mem (ha : a ∉ addrs (l₁ ++ c :: l₂)) (hne : a ≠ new) :
    DoublyLinked.relink h (last none l₁) (first l₂ none) c.1 new d a = h a := by
  rw [addrs_append, addrs_cons, List.mem_append, List.mem_cons, not_or, not_or] at ha
  obtain ⟨ha₁, hc, ha₂⟩ := ha
  rw [DoublyLinked.relink, Function.update_of_ne hc, link_of_not_mem _ hne]
  rw [addrs_append, List.mem_append]
  exact not_or.mpr ⟨ha₁, ha₂⟩

end DoublyLinked
