import Mathlib.Data.List.Basic

/-!
# Histories

A machine on states `σ` takes one step for each operation of a list. A property of states
holds `Throughout` a run if it does in every state of it, and `Each` step of a run meets a
condition if it does in the state in which it is taken. When a condition is what a step
needs to keep the property, the two say the same (`throughout_iff_each`).
-/

namespace History

variable {σ ω : Type} {step : σ → ω → σ}

/-- The state after a run. -/
def run (step : σ → ω → σ) (s : σ) (ops : List ω) : σ := ops.foldl step s

/-- `P` holds in every state of the run. -/
def Throughout (step : σ → ω → σ) (P : σ → Prop) (s : σ) (ops : List ω) : Prop :=
  ∀ pre, pre <+: ops → P (run step s pre)

/-- Every step of the run meets `C` in the state in which it is taken. -/
def Each (step : σ → ω → σ) (C : σ → ω → Prop) : σ → List ω → Prop
  | _, [] => True
  | s, op :: ops => C s op ∧ Each step C (step s op) ops

variable {P J : σ → Prop} {C D : σ → ω → Prop} {s : σ} {op : ω} {ops : List ω}

@[simp] theorem run_nil (s : σ) : run step s [] = s := rfl

@[simp] theorem run_cons (s : σ) (op : ω) (ops : List ω) :
    run step s (op :: ops) = run step (step s op) ops := rfl

theorem throughout_nil : Throughout step P s [] ↔ P s := by
  refine ⟨fun h => h [] (List.prefix_refl _), fun h pre hpre => ?_⟩
  rw [List.prefix_nil.mp hpre]
  exact h

theorem throughout_cons :
    Throughout step P s (op :: ops) ↔ P s ∧ Throughout step P (step s op) ops := by
  constructor
  · intro h
    refine ⟨h [] List.nil_prefix, fun pre hpre => ?_⟩
    exact h (op :: pre) (List.cons_prefix_cons.mpr ⟨rfl, hpre⟩)
  · rintro ⟨hs, h⟩ pre hpre
    rcases pre with _ | ⟨op', pre⟩
    · exact hs
    · obtain ⟨rfl, hrest⟩ := List.cons_prefix_cons.mp hpre
      exact h pre hrest

/-- An invariant that a step keeps under `C` holds at the end of the run. -/
theorem Each.invariant (hkeep : ∀ s op, J s → C s op → J (step s op)) :
    ∀ {ops : List ω} {s : σ}, Each step C s ops → J s → J (run step s ops)
  | [], _, _, hs => hs
  | op :: ops, s, ⟨hop, hops⟩, hs => by
    have hs' := hkeep s op hs hop
    rw [run_cons]
    exact Each.invariant hkeep hops hs'

/-- A condition met step by step gives another one, if it does where an invariant holds and
the invariant is kept under it. -/
theorem Each.imp (hkeep : ∀ s op, J s → C s op → D s op ∧ J (step s op)) :
    ∀ {ops : List ω} {s : σ}, J s → Each step C s ops → Each step D s ops
  | [], _, _, _ => trivial
  | op :: ops, s, hs, ⟨hop, hops⟩ => by
    obtain ⟨hD, hs'⟩ := hkeep s op hs hop
    exact ⟨hD, Each.imp hkeep hs' hops⟩

/-- From a state where `J` holds, `P` holds throughout a run iff each of its steps meets
`C`, if `J` needs `C` to be kept and `P` needs `C` to hold again. -/
theorem throughout_iff_each (hJ : ∀ s, J s → P s)
    (hkeep : ∀ s op, J s → C s op → J (step s op))
    (hneed : ∀ s op, J s → P (step s op) → C s op) :
    ∀ (ops : List ω) (s : σ), J s → (Throughout step P s ops ↔ Each step C s ops)
  | [], s, hs => iff_of_true (throughout_nil.mpr (hJ s hs)) trivial
  | op :: ops, s, hs => by
    have ih := throughout_iff_each hJ hkeep hneed ops (step s op)
    rw [throughout_cons, Each]
    constructor
    · rintro ⟨-, h⟩
      have hop := hneed s op hs (h [] List.nil_prefix)
      exact ⟨hop, (ih (hkeep s op hs hop)).mp h⟩
    · rintro ⟨hop, hops⟩
      exact ⟨hJ s hs, (ih (hkeep s op hs hop)).mpr hops⟩

/-- Two conditions that agree where an invariant holds are met by the same runs. -/
theorem each_iff_each (hkeep : ∀ s op, J s → J (step s op))
    (hiff : ∀ s op, J s → (C s op ↔ D s op)) :
    ∀ (ops : List ω) (s : σ), J s → (Each step C s ops ↔ Each step D s ops)
  | [], _, _ => Iff.rfl
  | op :: ops, s, hs =>
    and_congr (hiff s op hs) (each_iff_each hkeep hiff ops _ (hkeep s op hs))

/-- In a run whose steps are all admitted, two conditions that agree where an invariant
holds are met by each step or by neither, if the invariant is kept under one of them. -/
theorem Each.iff_of_each {V : σ → ω → Prop} (hiff : ∀ s op, J s → V s op → (C s op ↔ D s op))
    (hkeep : ∀ s op, J s → V s op → D s op → J (step s op)) :
    ∀ {ops : List ω} {s : σ}, J s → Each step V s ops → (Each step C s ops ↔ Each step D s ops)
  | [], _, _, _ => Iff.rfl
  | op :: ops, s, hs, ⟨hop, hops⟩ => by
    rw [Each, Each, hiff s op hs hop]
    exact and_congr_right fun hD => Each.iff_of_each hiff hkeep (hkeep s op hs hop hD) hops

end History
