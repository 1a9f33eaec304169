import Mathlib.Order.Interval.Set.Disjoint
import Mathlib.Data.List.Pairwise
import Mathlib.Order.CompletePartialOrder

/-!
# Tables of disjoint intervals

Rows `ρ` stand for closed intervals from `lo` to `hi` of a linear order. `Overlaps` is the
test a table is asked before a row is entered : does a row lie inside the new interval,
or hold its first, or its last point? On intervals that are not reversed it fails exactly
if they are disjoint (`not_overlaps_iff`), so a table filled behind this test, and rows
removed from it, stay `Separated`. On a reversed interval the test may miss a row, and
the table would hold a row that is no interval : this is why `Separated.concat` asks for
`lo ≤ hi` first.
-/

namespace IntervalTable

variable {α ρ σ : Type*} [LinearOrder α]

/-- The interval from `lo` to `hi` lies inside that from `a` to `b`, or holds one of its
ends. -/
def Overlaps (lo hi a b : α) : Prop := (a ≤ lo ∧ hi ≤ b) ∨ (lo ≤ a ∧ a ≤ hi) ∨ (lo ≤ b ∧ b ≤ hi)

instance (lo hi a b : α) : Decidable (Overlaps lo hi a b) :=
  inferInstanceAs (Decidable (_ ∨ _ ∨ _))

theorem not_overlaps_iff {lo hi a b : α} (h : lo ≤ hi) (hab : a ≤ b) :
    ¬Overlaps lo hi a b ↔ Disjoint (Set.Icc lo hi) (Set.Icc a b) := by
  rw [Set.disjoint_left]
  constructor
  · rintro hno x ⟨hlo, hhi⟩ ⟨ha, hb⟩
    -- `x` lies in both, so one of the ends of the second does, or the first lies inside
    rcases le_total lo a with hloa | halo
    · exact hno (.inr (.inl ⟨hloa, ha.trans hhi⟩))
    · rcases le_total hi b with hhib | hbhi
      · exact hno (.inl ⟨halo, hhib⟩)
      · exact hno (.inr (.inr ⟨hlo.trans hb, hbhi⟩))
  · rintro hdis (⟨ha, hb⟩ | ⟨hlo, hhi⟩ | ⟨hlo, hhi⟩)
    · exact hdis ⟨le_rfl, h⟩ ⟨ha, h.trans hb⟩
    · exact hdis ⟨hlo, hhi⟩ ⟨le_rfl, hab⟩
    · exact hdis ⟨hlo, hhi⟩ ⟨hab, le_rfl⟩

/-- No row is reversed, and the rows are pairwise disjoint. -/
structure Separated (lo hi : ρ → α) (rows : List ρ) : Prop where
  le : ∀ r ∈ rows, lo r ≤ hi r
  disjoint : rows.Pairwise fun r r' => Disjoint (Set.Icc (lo r) (hi r)) (Set.Icc (lo r') (hi r'))

variable {lo hi : ρ → α} {rows : List ρ}

theorem separated_nil : Separated lo hi [] := ⟨by simp, .nil⟩

/-- A row that passed the test is entered. -/
theorem Separated.concat (h : Separated lo hi rows) {x : ρ} (hx : lo x ≤ hi x)
    (hnew : ∀ r ∈ rows, ¬Overlaps (lo r) (hi r) (lo x) (hi x)) :
    Separated lo hi (rows ++ [x]) where
  le r hr := by
    rcases List.mem_append.mp hr with hr | hr
    · exact h.le r hr
    · rw [List.mem_singleton.mp hr]
      exact hx
  disjoint := by
    refine List.pairwise_append.mpr ⟨h.disjoint, List.pairwise_singleton _ _, fun r hr y hy => ?_⟩
    rw [List.mem_singleton.mp hy]
    exact (not_overlaps_iff (h.le r hr) hx).mp (hnew r hr)

/-- Rows are removed. -/
theorem Separated.sublist {rows' : List ρ} (h : Separated lo hi rows)
    (hsub : rows'.Sublist rows) : Separated lo hi rows' :=
  ⟨fun r hr => h.le r (hsub.subset hr), h.disjoint.sublist hsub⟩

/-- What a table is separated by is what its rows are mapped to. -/
theorem separated_map {lo hi : σ → α} {f : ρ → σ} :
    Separated lo hi (rows.map f) ↔ Separated (lo ∘ f) (hi ∘ f) rows :=
  ⟨fun h => ⟨fun _ hr => h.le _ (List.mem_map_of_mem hr),
      (List.pairwise_map (f := f)).mp h.disjoint⟩,
    fun h => ⟨List.forall_mem_map.mpr h.le, (List.pairwise_map (f := f)).mpr h.disjoint⟩⟩

end IntervalTable
