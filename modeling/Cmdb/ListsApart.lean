import Cmdb.DoublyLinked
import Mathlib.Data.Set.Finite.Basic

/-!
# Lists that share no node

Several doubly linked lists in one heap of finitely many nodes. `Apart h ls` : the nodes of each
of `ls` are a list in `h`, and no two of them share a node. Linking a node into the first of
them, taking one out and putting one in the place of another leave the others as they are, and
which of them is the first does not matter (`Apart.perm`).

An `Allocator` finds an address that is free, in every such heap.
-/

namespace DoublyLinked

variable {A D : Type}

def HeapFinite (h : Heap A D) : Prop := {a | h a ≠ none}.Finite

/-- The nodes of `l` are a list of the heap, between their own ends. -/
def IsList (h : Heap A D) (l : List (A × D)) : Prop :=
  Represents h (first l none) (last none l) l.length l

/-- Each of `ls` is a list of the heap, and they share no node. -/
structure Apart (h : Heap A D) (ls : List (List (A × D))) : Prop where
  finite : HeapFinite h
  lists : ∀ l ∈ ls, IsList h l
  disjoint : ls.Pairwise fun l l' => (addrs l).Disjoint (addrs l')

structure Allocator (A D : Type) where
  calloc : Heap A D → A
  fresh : ∀ h, HeapFinite h → h (calloc h) = none

theorem exists_free [Infinite A] {h : Heap A D} (hf : HeapFinite h) : ∃ a, h a = none := by
  obtain ⟨a, ha⟩ := Set.Finite.exists_notMem hf
  exact ⟨a, not_not.mp ha⟩

open Classical in
/-- An allocator, where there are infinitely many addresses. -/
noncomputable def freeAddress [Infinite A] : Allocator A D where
  calloc h := if hf : HeapFinite h then (exists_free hf).choose else Classical.arbitrary A
  fresh h hf := by
    rw [dif_pos hf]
    exact (exists_free hf).choose_spec

variable {h h' : Heap A D} {l l' l₁ l₂ : List (A × D)} {ls ls' : List (List (A × D))}
  {x : A × D} {new a : A} {d : D}

/-- A heap with nodes at most where there were some, and at one more address. -/
theorem HeapFinite.of_free (hf : HeapFinite h) (new : A)
    (hfree : ∀ a, a ≠ new → h a = none → h' a = none) : HeapFinite h' := by
  refine (hf.insert new).subset fun a ha => ?_
  by_cases hne : a = new
  · exact .inl hne
  · exact .inr fun hnone => ha (hfree a hne hnone)

theorem Apart.tail (ha : Apart h (l :: ls)) : Apart h ls where
  finite := ha.finite
  lists l' hl' := ha.lists l' (List.mem_cons_of_mem _ hl')
  disjoint := ha.disjoint.of_cons

theorem Apart.head (ha : Apart h (l :: ls)) : IsList h l := ha.lists l (List.mem_cons_self ..)

theorem Apart.perm (ha : Apart h ls) (hperm : ls.Perm ls') : Apart h ls' where
  finite := ha.finite
  lists l hl := ha.lists l (hperm.mem_iff.mpr hl)
  disjoint := (hperm.pairwise_iff List.Disjoint.symm).mp ha.disjoint

theorem Apart.swap (ha : Apart h (l :: l' :: ls)) : Apart h (l' :: l :: ls) :=
  ha.perm (.swap l' l ls)

theorem isList_nil : IsList h [] := ⟨List.nodup_nil, trivial, rfl, rfl, rfl⟩

/-- A list without nodes is apart from all others. -/
theorem Apart.nil (ha : Apart h ls) : Apart h ([] :: ls) where
  finite := ha.finite
  lists := List.forall_mem_cons.mpr ⟨isList_nil, ha.lists⟩
  disjoint := List.pairwise_cons.mpr ⟨fun _ _ => List.disjoint_nil_left _, ha.disjoint⟩

/-- The first of the lists is changed, and the nodes that are not of it stay. -/
theorem Apart.change (ha : Apart h (l :: ls)) (hfin : HeapFinite h') (hl' : IsList h' l')
    (hkeep : ∀ b ∉ addrs l, h b ≠ none → h' b = h b)
    (hnodes : ∀ b ∈ addrs l', b ∈ addrs l ∨ h b = none) : Apart h' (l' :: ls) := by
  obtain ⟨hdisj, hls⟩ := List.pairwise_cons.mp ha.disjoint
  have hlive : ∀ k ∈ ls, ∀ b ∈ addrs k, h b ≠ none := fun k hk b hb hnone =>
    (ha.tail.lists k hk).not_mem hnone hb
  refine ⟨hfin, List.forall_mem_cons.mpr ⟨hl', fun k hk => ?_⟩,
    List.pairwise_cons.mpr ⟨fun k hk b hb hb' => ?_, hls⟩⟩
  · exact (ha.tail.lists k hk).congr fun b hb =>
      hkeep b (fun hc => hdisj k hk hc hb) (hlive k hk b hb)
  · obtain hb | hb := hnodes b hb
    · exact hdisj k hk hb hb'
    · exact hlive k hk b hb' hb

variable [DecidableEq A]

theorem Apart.link (ha : Apart h ((l₁ ++ l₂) :: ls)) (hnew : h new = none) :
    Apart (link h (last none l₁) (first l₂ none) new d) ((l₁ ++ (new, d) :: l₂) :: ls) := by
  have hrep := ha.head.link (d := d) hnew
  have hlen : (l₁ ++ l₂).length + 1 = (l₁ ++ (new, d) :: l₂).length := by
    simp only [List.length_append, List.length_cons, Nat.add_assoc]
  rw [hlen] at hrep
  refine ha.change ?_ hrep (fun b hb hlive => ?_) fun b hb => ?_
  · exact ha.finite.of_free new fun b hne hb =>
      (link_of_not_mem (ha.head.not_mem hb) hne).trans hb
  · exact link_of_not_mem hb fun heq => hlive (heq ▸ hnew)
  · simp only [addrs_append, addrs_cons, List.mem_append, List.mem_cons] at hb ⊢
    obtain hb | rfl | hb := hb
    · exact .inl (.inl hb)
    · exact .inr hnew
    · exact .inl (.inr hb)

theorem Apart.unlink (ha : Apart h ((l₁ ++ x :: l₂) :: ls)) :
    Apart (unlink h (last none l₁) (first l₂ none) x.1) ((l₁ ++ l₂) :: ls) := by
  have hrep := ha.head.unlink
  have hlen : (l₁ ++ x :: l₂).length - 1 = (l₁ ++ l₂).length := by
    simp only [List.length_append, List.length_cons]
    omega
  rw [hlen] at hrep
  refine ha.change ?_ hrep (fun b hb _ => unlink_of_not_mem hb) fun b hb => ?_
  · exact ha.finite.of_free x.1 fun b _ hb =>
      (unlink_of_not_mem (ha.head.not_mem hb)).trans hb
  · simp only [addrs_append, addrs_cons, List.mem_append, List.mem_cons] at hb ⊢
    exact .inl (hb.imp_right .inr)

theorem Apart.relink (ha : Apart h ((l₁ ++ x :: l₂) :: ls)) (hnew : h new = none) :
    Apart (relink h (last none l₁) (first l₂ none) x.1 new d)
      ((l₁ ++ (new, d) :: l₂) :: ls) := by
  have hrep := ha.head.relink (d := d) hnew
  have hlen : (l₁ ++ x :: l₂).length = (l₁ ++ (new, d) :: l₂).length := by
    simp only [List.length_append, List.length_cons]
  rw [hlen] at hrep
  refine ha.change ?_ hrep (fun b hb hlive => ?_) fun b hb => ?_
  · exact ha.finite.of_free new fun b hne hb =>
      (relink_of_not_mem (ha.head.not_mem hb) hne).trans hb
  · exact relink_of_not_mem hb fun heq => hlive (heq ▸ hnew)
  · simp only [addrs_append, addrs_cons, List.mem_append, List.mem_cons] at hb ⊢
    obtain hb | rfl | hb := hb
    · exact .inl (.inl hb)
    · exact .inr hnew
    · exact .inl (.inr (.inr hb))

/-- A heap with nothing but the nodes of `l`, linked behind `p`. -/
def heapOf : Option A → List (A × D) → Heap A D
  | _, [] => fun _ => none
  | p, c :: l => Function.update (heapOf (some c.1) l) c.1 (some ⟨p, first l none, c.2⟩)

theorem segment_heapOf : ∀ {l : List (A × D)} {p : Option A}, (addrs l).Nodup →
    Segment (heapOf p l) p l none
  | [], _, _ => trivial
  | c :: l, p, hn => by
    obtain ⟨hc, hn⟩ := List.nodup_cons.mp hn
    refine ⟨Function.update_self .., (segment_heapOf hn).congr fun b hb => ?_⟩
    refine Function.update_of_ne ?_ ..
    rintro rfl
    exact hc hb

theorem heapFinite_heapOf : ∀ (l : List (A × D)) (p : Option A), HeapFinite (heapOf p l)
  | [], _ => Set.finite_empty.subset fun _ ha => absurd rfl ha
  | c :: l, _ => (heapFinite_heapOf l (some c.1)).of_free c.1 fun _ hne ha =>
    (Function.update_of_ne hne ..).trans ha

/-- Nodes with different addresses are a list of some heap. -/
theorem apart_heapOf (hn : (addrs l).Nodup) : Apart (heapOf none l) [l] where
  finite := heapFinite_heapOf l none
  lists := List.forall_mem_singleton.mpr ⟨hn, segment_heapOf hn, rfl, rfl, rfl⟩
  disjoint := List.pairwise_singleton ..

end DoublyLinked
