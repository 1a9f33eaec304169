import Mathlib.Data.List.Basic
import Mathlib.Data.List.TakeWhile

/-!
# Selections from a list

Three ways to select from a list, and when they select the same :

* classes one after the other, where an element is in at most one class, select what is in
  a class (`flatMap_filter_perm`);
* a stronger test that lets as many elements through is the same test on the list
  (`forall_of_length_filter_eq`);
* a loop that stops at the first failure selects all that pass iff nothing that passes
  comes behind a failure (`length_takeWhile_eq_iff`).
-/

namespace Classes

variable {α κ : Type} {l : List α} {p : α → Bool}

/-- Classes of which an element is in at most one, one after the other, are the elements
that are in a class. -/
theorem flatMap_filter_perm (p : κ → α → Prop) [∀ k, DecidablePred (p k)] : ∀ ks : List κ,
    ks.Nodup → (∀ k ∈ ks, ∀ k' ∈ ks, ∀ a ∈ l, p k a → p k' a → k = k') →
    (ks.flatMap fun k => l.filter (p k)).Perm (l.filter fun a => ∃ k ∈ ks, p k a)
  | [], _, _ => by simp
  | k :: ks, hn, h => by
    obtain ⟨hk, hn⟩ := List.nodup_cons.mp hn
    have ih := flatMap_filter_perm p ks hn fun k hk k' hk' =>
      h k (List.mem_cons_of_mem _ hk) k' (List.mem_cons_of_mem _ hk')
    have hsplit := List.filter_append_perm (fun a => decide (p k a))
      (l.filter fun a => ∃ k' ∈ k :: ks, p k' a)
    rw [List.filter_filter, List.filter_filter] at hsplit
    have hfirst : l.filter (p k) =
        l.filter fun a => decide (p k a) && decide (∃ k' ∈ k :: ks, p k' a) := by
      refine List.filter_congr fun a _ => ?_
      by_cases ha : p k a <;> simp [ha]
    have hrest : (l.filter fun a => ∃ k' ∈ ks, p k' a) =
        l.filter fun a => !decide (p k a) && decide (∃ k' ∈ k :: ks, p k' a) := by
      refine List.filter_congr fun a ha => ?_
      by_cases hka : p k a
      · have hno : ¬∃ k' ∈ ks, p k' a := fun ⟨k', hk', hk'a⟩ =>
          hk (h k (List.mem_cons_self ..) k' (List.mem_cons_of_mem _ hk') a ha hka hk'a ▸ hk')
        simp [hka, hno]
      · simp [hka]
    rw [List.flatMap_cons]
    refine (ih.append_left _).trans ?_
    rwa [hfirst, hrest]

/-- A stronger test that lets as many through lets the same ones through. -/
theorem forall_of_length_filter_eq {p q : α → Bool} (hpq : ∀ a ∈ l, p a → q a)
    (h : (l.filter p).length = (l.filter q).length) : ∀ a ∈ l, q a → p a := by
  have hp : l.filter p = (l.filter q).filter p := by
    rw [List.filter_filter]
    refine List.filter_congr fun a ha => ?_
    cases hpa : p a with
    | false => rfl
    | true => rw [hpq a ha hpa]; rfl
  rw [hp, List.length_filter_eq_length_iff] at h
  exact fun a ha hq => h a (List.mem_filter.mpr ⟨ha, hq⟩)

/-! ## Loops that stop at a failure -/

/-- What passes comes first. -/
def PassesFirst (p : α → Bool) (l : List α) : Prop := l.Pairwise fun a b => p b → p a

instance (p : α → Bool) (l : List α) : Decidable (PassesFirst p l) :=
  inferInstanceAs (Decidable (l.Pairwise _))

theorem takeWhile_eq_filter_of_passesFirst : ∀ {l : List α}, PassesFirst p l →
    l.takeWhile p = l.filter p
  | [], _ => rfl
  | a :: l, h => by
    obtain ⟨ha, hl⟩ := List.pairwise_cons.mp h
    cases hpa : p a with
    | true => simp [hpa, takeWhile_eq_filter_of_passesFirst hl]
    | false =>
      have hnone : l.filter p = [] := List.filter_eq_nil_iff.mpr fun b hb hpb => by
        simp [ha b hb hpb] at hpa
      simp [hpa, hnone]

theorem passesFirst_of_takeWhile_eq_filter : ∀ {l : List α}, l.takeWhile p = l.filter p →
    PassesFirst p l
  | [], _ => List.Pairwise.nil
  | a :: l, h => by
    cases hpa : p a with
    | true =>
      rw [List.takeWhile_cons, if_pos hpa, List.filter_cons, if_pos hpa, List.cons.injEq] at h
      exact List.pairwise_cons.mpr ⟨fun _ _ _ => hpa, passesFirst_of_takeWhile_eq_filter h.2⟩
    | false =>
      have hnone : l.filter p = [] := by simpa [hpa] using h.symm
      have hno : ∀ b ∈ l, ¬p b := List.filter_eq_nil_iff.mp hnone
      refine List.pairwise_cons.mpr ⟨fun b hb hpb => absurd hpb (hno b hb), ?_⟩
      exact List.pairwise_of_forall_mem_list fun b _ c hc hpc => absurd hpc (hno c hc)

/-- A loop that stops at the first failure selects as much as one that goes on iff what
passes comes first. -/
theorem length_takeWhile_eq_iff :
    (l.takeWhile p).length = (l.filter p).length ↔ PassesFirst p l := by
  refine ⟨fun h => passesFirst_of_takeWhile_eq_filter ?_,
    fun h => by rw [takeWhile_eq_filter_of_passesFirst h]⟩
  have hall : (l.takeWhile p).filter p = l.takeWhile p :=
    List.filter_eq_self.mpr fun a ha => List.mem_takeWhile_imp ha
  have hsub : ((l.takeWhile p).filter p).Sublist (l.filter p) :=
    (List.takeWhile_sublist p).filter p
  rw [hall] at hsub
  exact hsub.eq_of_length h

end Classes
