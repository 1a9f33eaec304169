import Mathlib.Order.Bounds.Basic

/-!
# The first hit of a search

A search walks from `start` towards `last`, passes over the points that are used, and
takes the first of the others that passes a test (`FirstHit`). If the test says which
points are free this is the least free point (`firstHit_iff_isLeast`), and for any other
test it is so exactly if the test is right on the points the search has tried
(`FirstHit.isLeast_iff`). `firstHit_iff_of_skip` and `firstHit_iff_eq_start` are the two
steps of the walk.
-/

namespace Search

variable {α : Type*} [LinearOrder α]

/-- The points from `start` to `last` that are not used and satisfy `p`. -/
def Unused (used : α → Prop) (start last : α) (p : α → Prop) : Set α :=
  {a | start ≤ a ∧ a ≤ last ∧ ¬used a ∧ p a}

/-- `a` is the first point that is not used and passes the test. -/
structure FirstHit (used : α → Prop) (start last : α) (test : α → Prop) (a : α) : Prop where
  start_le : start ≤ a
  le_last : a ≤ last
  not_used : ¬used a
  passes : test a
  first : ∀ b, start ≤ b → b < a → ¬used b → ¬test b

variable {used test free : α → Prop} {start last a : α}

theorem firstHit_iff_isLeast :
    FirstHit used start last test a ↔ IsLeast (Unused used start last test) a := by
  constructor
  · rintro ⟨h1, h2, h3, h4, h5⟩
    refine ⟨⟨h1, h2, h3, h4⟩, fun b ⟨hb1, _, hb3, hb4⟩ => ?_⟩
    exact le_of_not_gt fun hlt => h5 b hb1 hlt hb3 hb4
  · rintro ⟨⟨h1, h2, h3, h4⟩, hleast⟩
    refine ⟨h1, h2, h3, h4, fun b hb1 hlt hb3 hb4 => ?_⟩
    exact absurd (hleast ⟨hb1, hlt.le.trans h2, hb3, hb4⟩) (not_le_of_gt hlt)

/-- A search that starts below may skip the points that are used or fail the test. -/
theorem firstHit_iff_of_skip {start' : α} (hle : start ≤ start')
    (hskip : ∀ b, start ≤ b → b < start' → used b ∨ ¬test b) :
    FirstHit used start last test a ↔ FirstHit used start' last test a := by
  constructor
  · rintro ⟨h1, h2, h3, h4, h5⟩
    refine ⟨?_, h2, h3, h4, fun b hb => h5 b (hle.trans hb)⟩
    refine le_of_not_gt fun hlt => ?_
    exact (hskip a h1 hlt).elim h3 (fun h => h h4)
  · rintro ⟨h1, h2, h3, h4, h5⟩
    refine ⟨hle.trans h1, h2, h3, h4, fun b hb hlt hused => ?_⟩
    rcases lt_or_ge b start' with h | h
    · exact (hskip b hb h).resolve_left hused
    · exact h5 b h hlt hused

/-- A search whose first point is a hit ends there. -/
theorem firstHit_iff_eq_start (hle : start ≤ last) (hused : ¬used start) (htest : test start) :
    FirstHit used start last test a ↔ a = start := by
  constructor
  · intro h
    by_contra hne
    exact h.first start le_rfl (lt_of_le_of_ne h.start_le (Ne.symm hne)) hused htest
  · rintro rfl
    exact ⟨le_rfl, hle, hused, htest, fun b hb hlt => absurd hlt (not_lt_of_ge hb)⟩

/-- The first hit of a test is the least free point exactly if the test agrees with being
free on the points tried. -/
theorem FirstHit.isLeast_iff (h : FirstHit used start last test a) :
    IsLeast (Unused used start last free) a ↔
      ∀ b, start ≤ b → b ≤ a → ¬used b → (test b ↔ free b) := by
  constructor
  · rintro ⟨⟨-, -, -, hfree⟩, hleast⟩ b hb hba hused
    rcases eq_or_lt_of_le hba with rfl | hlt
    · exact ⟨fun _ => hfree, fun _ => h.passes⟩
    · refine ⟨fun htest => absurd htest (h.first b hb hlt hused), fun hfb => ?_⟩
      exact absurd (hleast ⟨hb, hlt.le.trans h.le_last, hused, hfb⟩) (not_le_of_gt hlt)
  · intro hagree
    refine firstHit_iff_isLeast.mp ⟨h.start_le, h.le_last, h.not_used, ?_, ?_⟩
    · exact (hagree a h.start_le le_rfl h.not_used).mp h.passes
    · intro b hb hlt hused hfb
      exact h.first b hb hlt hused ((hagree b hb hlt.le hused).mpr hfb)

end Search
