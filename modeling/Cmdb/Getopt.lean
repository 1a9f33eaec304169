import Mathlib.Data.List.Basic

/-!
# Loops over options

A command line is read one option after another, and each option sets fields of a record or stops
the loop. What a field holds at the end is what the last option that sets it has said.

* `foldlM_given`, `foldlM_given_or` : the field is the last argument given for it, or what it was;
* `foldlM_invariant` : the loop keeps what each option keeps;
* `exists_foldlM_iff` : the loop ends exactly if no option stops it;
* `check_eq_ok_iff` : a check of what the loop has read is passed.
-/

namespace Getopt

variable {σ α β γ ε : Type} {f : σ → α → Except ε σ} {s s' : σ} {opts : List α}

/-- The last argument among the options. -/
def given (arg : α → Option β) (opts : List α) : Option β := (opts.filterMap arg).getLast?

theorem given_cons (arg : α → Option β) (o : α) (opts : List α) :
    given arg (o :: opts) = (given arg opts).or (arg o) := by
  rw [given, given, List.filterMap_cons]
  cases arg o with
  | none => rw [Option.or_none]
  | some b =>
    rw [List.getLast?_cons]
    cases (opts.filterMap arg).getLast? <;> rfl

theorem given_map (arg : α → Option β) (g : β → γ) (opts : List α) :
    given (fun o => (arg o).map g) opts = (given arg opts).map g := by
  rw [given, given, ← List.map_filterMap, List.getLast?_map]

/-- What is read from the last argument is the last that is read. -/
theorem given_bind {arg : α → Option β} {g : β → Option γ} {b : β} {c : γ}
    (h : given arg opts = some b) (hg : g b = some c) :
    given (fun o => (arg o).bind g) opts = some c := by
  obtain ⟨bs, hbs⟩ := List.getLast?_eq_some_iff.mp h
  rw [given, ← List.filterMap_filterMap, hbs, List.filterMap_append,
    List.filterMap_cons_some hg, List.filterMap_nil, List.getLast?_concat]

/-- What the step does to a field, the loop does with the last argument. -/
theorem foldlM_given (arg : α → Option β) (field : σ → β)
    (hstep : ∀ s o s', f s o = .ok s' → field s' = (arg o).getD (field s))
    (h : opts.foldlM f s = .ok s') : field s' = (given arg opts).getD (field s) := by
  induction opts generalizing s with
  | nil =>
    obtain rfl := Except.ok.inj h
    rfl
  | cons o opts ih =>
    rw [List.foldlM_cons] at h
    cases hs : f s o with
    | error e =>
      rw [hs] at h
      cases h
    | ok s₁ =>
      rw [hs] at h
      rw [ih h, hstep s o s₁ hs, given_cons]
      cases given arg opts <;> rfl

/-- The same for a field that may be empty. -/
theorem foldlM_given_or (arg : α → Option β) (field : σ → Option β)
    (hstep : ∀ s o s', f s o = .ok s' → field s' = (arg o).or (field s))
    (h : opts.foldlM f s = .ok s') : field s' = (given arg opts).or (field s) := by
  have hsome : ∀ s o s', f s o = .ok s' → field s' = ((arg o).map some).getD (field s) := by
    intro s o s' hs
    rw [hstep s o s' hs]
    cases arg o <;> rfl
  rw [foldlM_given _ field hsome h, given_map]
  cases given arg opts <;> rfl

/-- What holds before the loop and is kept by each option holds behind it. -/
theorem foldlM_invariant {P : σ → Prop} (hstep : ∀ s o s', P s → f s o = .ok s' → P s')
    (hs : P s) (h : opts.foldlM f s = .ok s') : P s' := by
  induction opts generalizing s with
  | nil =>
    obtain rfl := Except.ok.inj h
    exact hs
  | cons o opts ih =>
    rw [List.foldlM_cons] at h
    cases ho : f s o with
    | error e =>
      rw [ho] at h
      cases h
    | ok s₁ =>
      rw [ho] at h
      exact ih (hstep s o s₁ hs ho) h

theorem exists_foldlM_iff {P : α → Prop} (hstep : ∀ s o, (∃ s', f s o = .ok s') ↔ P o) :
    (∃ s', opts.foldlM f s = .ok s') ↔ ∀ o ∈ opts, P o := by
  induction opts generalizing s with
  | nil => exact ⟨fun _ o ho => absurd ho List.not_mem_nil, fun _ => ⟨s, rfl⟩⟩
  | cons o opts ih =>
    rw [List.forall_mem_cons, List.foldlM_cons, ← hstep s o]
    cases hs : f s o with
    | error e =>
      constructor
      · rintro ⟨s', h⟩
        cases h
      · rintro ⟨⟨s', h⟩, -⟩
        cases h
    | ok s₁ => exact ih.trans (and_iff_right ⟨s₁, rfl⟩).symm

/-- A check that is passed. -/
theorem check_eq_ok_iff {c : Prop} [Decidable c] {e : ε} {x : Except ε σ} :
    (if c then .error e else x) = .ok s ↔ ¬c ∧ x = .ok s := by
  by_cases hc : c
  · rw [if_pos hc]
    exact iff_of_false nofun fun h => h.1 hc
  · rw [if_neg hc, and_iff_right hc]

end Getopt
