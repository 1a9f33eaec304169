import Mathlib.Data.List.Dedup
import Mathlib.Data.List.TakeWhile

/-!
# Lists in groups

A list is `Grouped` by a key if the elements of each key stand together. A list that is
sorted by the key is (`grouped_of_pairwise`). What is made of the elements of each key, one
key after the other (`byKey`), is then made group by group (`byKey_append`).
-/

namespace Runs

variable {A B K : Type*}

/-- The elements of each key stand together. -/
inductive Grouped (key : A → K) : List A → Prop
  | nil : Grouped key []
  | append {k : K} {a : A} {g rest : List A} (hg : ∀ b ∈ a :: g, key b = k)
      (hrest : ∀ b ∈ rest, key b ≠ k) (h : Grouped key rest) : Grouped key (a :: g ++ rest)

variable [DecidableEq K] {key : A → K} {k : K} {a : A} {g rest : List A}

/-- In a list that is sorted by the key, the elements behind those of the first key have other
keys. -/
theorem ne_of_mem_dropWhile {r : K → K → Prop} [Std.Antisymm r] {l : List A}
    (h : ((a :: l).map key).Pairwise r) : ∀ c ∈ l.dropWhile (key · = key a), key c ≠ key a := by
  intro c hc
  have hpair : ((l.dropWhile (key · = key a)).map key).Pairwise r :=
    (List.pairwise_cons.mp h).2.sublist ((List.dropWhile_sublist _).map key)
  rcases hd : l.dropWhile (key · = key a) with _ | ⟨b, t⟩
  · rw [hd] at hc
    exact absurd hc List.not_mem_nil
  have hb : key b ≠ key a := by
    have := List.head_dropWhile_not (key · = key a) (by rw [hd]; exact List.cons_ne_nil _ _)
    simpa only [hd, List.head_cons, decide_eq_false_iff_not] using this
  have hmem : b ∈ l := (List.dropWhile_sublist _).subset (hd ▸ List.mem_cons_self ..)
  rw [hd] at hc hpair
  rcases List.mem_cons.mp hc with rfl | hc
  · exact hb
  · -- `key a` before `key b` before `key c`
    intro heq
    have hab := (List.pairwise_cons.mp h).1 _ (List.mem_map_of_mem hmem)
    have hbc := (List.pairwise_cons.mp hpair).1 _ (List.mem_map_of_mem hc)
    rw [heq] at hbc
    exact hb (Std.Antisymm.antisymm _ _ hbc hab)

theorem grouped_of_pairwise {r : K → K → Prop} [Std.Antisymm r] :
    ∀ {l : List A}, (l.map key).Pairwise r → Grouped key l
  | [], _ => .nil
  | a :: l, h => by
    have hsplit : l = l.takeWhile (key · = key a) ++ l.dropWhile (key · = key a) :=
      List.takeWhile_append_dropWhile.symm
    have hlen : (l.dropWhile (key · = key a)).length ≤ l.length :=
      (List.dropWhile_sublist _).length_le
    have ih := grouped_of_pairwise
      ((List.pairwise_cons.mp h).2.sublist ((List.dropWhile_sublist (key · = key a)).map key))
    rw [hsplit, ← List.cons_append]
    refine .append (k := key a) (fun b hb => ?_) (ne_of_mem_dropWhile h) ih
    rcases List.mem_cons.mp hb with rfl | hb
    · rfl
    · simpa using List.mem_takeWhile_imp hb
termination_by l => l.length

/-- The elements of the first key are the first group. -/
theorem filter_group (hg : ∀ b ∈ g, key b = k) (hrest : ∀ b ∈ rest, key b ≠ k) :
    (g ++ rest).filter (key · = k) = g := by
  rw [List.filter_append, List.filter_eq_self.mpr (by simpa using hg),
    List.filter_eq_nil_iff.mpr (by simpa using hrest), List.append_nil]

/-- Those of another key are behind it. -/
theorem filter_rest {k' : K} (hg : ∀ b ∈ g, key b = k) (hk' : k' ≠ k) :
    (g ++ rest).filter (key · = k') = rest.filter (key · = k') := by
  rw [List.filter_append, List.filter_eq_nil_iff.mpr, List.nil_append]
  intro b hb
  rw [hg b hb, decide_eq_true_eq]
  exact hk'.symm

/-- What holds of the elements of each key holds of the first group and of those behind it. -/
theorem forall_filter_append {P : List A → Prop} (hnil : P []) (hg : ∀ b ∈ a :: g, key b = k)
    (hrest : ∀ b ∈ rest, key b ≠ k) :
    (∀ k', P ((a :: g ++ rest).filter (key · = k'))) ↔
      P (a :: g) ∧ ∀ k', P (rest.filter (key · = k')) := by
  have hnone : rest.filter (key · = k) = [] := List.filter_eq_nil_iff.mpr (by simpa using hrest)
  constructor
  · refine fun h => ⟨filter_group hg hrest ▸ h k, fun k' => ?_⟩
    by_cases hk' : k' = k
    · rw [hk', hnone]
      exact hnil
    · exact filter_rest hg hk' ▸ h k'
  · rintro ⟨h1, h2⟩ k'
    by_cases hk' : k' = k
    · rw [hk', filter_group hg hrest]
      exact h1
    · rw [filter_rest hg hk']
      exact h2 k'

/-- What `f` makes of the elements of each key, in the order of the keys. -/
def byKey (key : A → K) (f : K → List A → List B) (l : List A) : List B :=
  (l.map key).dedup.flatMap fun k => f k (l.filter fun a => key a = k)

@[simp] theorem byKey_nil (f : K → List A → List B) : byKey key f [] = [] := rfl

theorem dedup_map_append (hrest : ∀ b ∈ rest, key b ≠ k) : ∀ {g : List A} {a : A},
    (∀ b ∈ a :: g, key b = k) →
      ((a :: g ++ rest).map key).dedup = k :: (rest.map key).dedup
  | [], a, hg => by
    have ha := hg a (List.mem_cons_self ..)
    have hk : k ∉ rest.map key := fun h => by
      obtain ⟨b, hb, hbk⟩ := List.mem_map.mp h
      exact hrest b hb hbk
    rw [List.cons_append, List.nil_append, List.map_cons, ha, List.dedup_cons_of_notMem hk]
  | a' :: g, a, hg => by
    have ha := hg a (List.mem_cons_self ..)
    have ha' := hg a' (List.mem_cons_of_mem _ (List.mem_cons_self ..))
    have hmem : key a ∈ (a' :: g ++ rest).map key := by
      rw [ha, ← ha']
      exact List.mem_map_of_mem (List.mem_cons_self ..)
    rw [List.cons_append, List.map_cons, List.dedup_cons_of_mem hmem,
      dedup_map_append hrest fun b hb => hg b (List.mem_cons_of_mem _ hb)]

theorem byKey_append (f : K → List A → List B) (hg : ∀ b ∈ a :: g, key b = k)
    (hrest : ∀ b ∈ rest, key b ≠ k) :
    byKey key f (a :: g ++ rest) = f k (a :: g) ++ byKey key f rest := by
  rw [byKey, dedup_map_append hrest hg, List.flatMap_cons, filter_group hg hrest, byKey]
  congr 1
  refine List.flatMap_congr fun k' hk' => ?_
  obtain ⟨b, hb, rfl⟩ := List.mem_map.mp (List.mem_dedup.mp hk')
  rw [filter_rest hg (hrest b hb)]

end Runs
