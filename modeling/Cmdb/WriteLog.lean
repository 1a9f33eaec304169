import Mathlib.Logic.Function.Basic
import Cmdb.Prog

/-!
# Programs that only write

A store has a value for some keys. A program that writes it without looking at it does the same
writes whatever is there, up to the step it stops at : it has a log.

* `Does.bind` : the log of one program after another;
* `apply_of_nodup`, `apply_of_agree` : what a log leaves in the store;
* `runAll_does` : a run of programs, each started whatever became of the one before, has a log.
-/

set_option linter.unusedSectionVars false

namespace WriteLog

open Prog

variable {K V ε : Type} [DecidableEq K]

/-- The store after some writes. -/
def apply : List (K × V) → (K → Option V) → K → Option V
  | [], s => s
  | w :: ws, s => apply ws (Function.update s w.1 (some w.2))

variable {ws ws' : List (K × V)} {k : K} {v : V} {p : Prog (K → Option V) ε Unit}
  {f : Unit → Prog (K → Option V) ε Unit} {r : Except ε Unit} {s : K → Option V}

theorem apply_append (ws ws' : List (K × V)) (s : K → Option V) :
    apply (ws ++ ws') s = apply ws' (apply ws s) := by
  induction ws generalizing s with
  | nil => rfl
  | cons w ws ih => exact ih _

/-- What is not written stays. -/
theorem apply_of_notMem (h : ∀ w ∈ ws, w.1 ≠ k) (s : K → Option V) : apply ws s k = s k := by
  induction ws generalizing s with
  | nil => rfl
  | cons w ws ih =>
    obtain ⟨hw, hws⟩ := List.forall_mem_cons.mp h
    rw [apply, ih hws, Function.update_of_ne hw.symm]

/-- A value stays if nothing else is written for its key. -/
theorem apply_of_agree (hs : s k = some v) (h : ∀ w ∈ ws, w.1 = k → w.2 = v) :
    apply ws s k = some v := by
  induction ws generalizing s with
  | nil => exact hs
  | cons w ws ih =>
    obtain ⟨hw, hws⟩ := List.forall_mem_cons.mp h
    refine ih ?_ hws
    by_cases hk : w.1 = k
    · rw [← hk, Function.update_self, hw hk]
    · rw [Function.update_of_ne (Ne.symm hk), hs]

/-- What is written once is there. -/
theorem apply_of_nodup (h : (ws.map Prod.fst).Nodup) {w : K × V} (hw : w ∈ ws)
    (s : K → Option V) : apply ws s w.1 = some w.2 := by
  induction ws generalizing s with
  | nil => cases hw
  | cons u ws ih =>
    rw [List.map_cons, List.nodup_cons] at h
    rcases List.mem_cons.mp hw with rfl | hw
    · have hnot : ∀ u ∈ ws, u.1 ≠ w.1 := fun u hu heq => h.1 (heq ▸ List.mem_map_of_mem hu)
      rw [apply, apply_of_notMem hnot, Function.update_self]
    · exact ih h.2 hw _

theorem apply_eq_or (ws : List (K × V)) (s : K → Option V) (k : K) :
    (∃ w ∈ ws, w.1 = k ∧ ∀ s, apply ws s k = some w.2) ∨
      (∀ w ∈ ws, w.1 ≠ k) ∧ apply ws s k = s k := by
  induction ws generalizing s with
  | nil => exact .inr ⟨List.forall_mem_nil _, rfl⟩
  | cons w ws ih =>
    rcases ih (Function.update s w.1 (some w.2)) with ⟨u, hu, hk, hall⟩ | ⟨hnot, -⟩
    · exact .inl ⟨u, List.mem_cons_of_mem _ hu, hk, fun s => hall _⟩
    · by_cases hk : w.1 = k
      · refine .inl ⟨w, List.mem_cons_self, hk, fun s => ?_⟩
        rw [apply, apply_of_notMem hnot, hk, Function.update_self]
      · have hall : ∀ u ∈ w :: ws, u.1 ≠ k := List.forall_mem_cons.mpr ⟨hk, hnot⟩
        exact .inr ⟨hall, apply_of_notMem hall s⟩

/-- Logs that agree where they write the same keys can be swapped. -/
theorem apply_comm (h : ∀ w ∈ ws, ∀ u ∈ ws', w.1 = u.1 → w.2 = u.2) (s : K → Option V) :
    apply ws' (apply ws s) = apply ws (apply ws' s) := by
  funext k
  rcases apply_eq_or ws s k with ⟨w, hw, hk, hws⟩ | ⟨hws, hs⟩
  · rw [hws]
    exact apply_of_agree (hws s) fun u hu hu' => (h w hw u hu (hk.trans hu'.symm)).symm
  · rw [apply_of_notMem hws]
    rcases apply_eq_or ws' s k with ⟨u, hu, hk, hus⟩ | ⟨hus, hs'⟩
    · rw [hus, hus]
    · rw [apply_of_notMem hus, hs, hs']

/-- A program does these writes, whatever is in the store, and returns this. -/
def Logs (p : Prog (K → Option V) ε Unit) (ws : List (K × V)) (r : Except ε Unit) : Prop :=
  ∀ s, p s = (r, apply ws s)

theorem Logs.pure : Logs (pure () : Prog (K → Option V) ε Unit) [] (.ok ()) := fun _ => rfl

theorem Logs.fail (e : ε) : Logs (fail e : Prog (K → Option V) ε Unit) [] (.error e) := fun _ => rfl

theorem Logs.bind_ok (h : Logs p ws (.ok ())) (h' : Logs (f ()) ws' r) :
    Logs (p >>= f) (ws ++ ws') r := fun s => by
  rw [bind_run_ok (h s), h', apply_append]

theorem Logs.bind_error {e : ε} (h : Logs p ws (.error e)) : Logs (p >>= f) ws (.error e) :=
  fun s => bind_run_error (h s) f

/-- A program has a log that keeps to some writes, and to a form where it does not fail. -/
def Does (P : K × V → Prop) (Q : List (K × V) → Prop) (p : Prog (K → Option V) ε Unit) : Prop :=
  ∃ ws r, Logs p ws r ∧ (∀ w ∈ ws, P w) ∧ (r = .ok () → Q ws)

variable {P : K × V → Prop} {Q R : List (K × V) → Prop}

theorem Does.pure (h : Q []) : Does P Q (pure () : Prog (K → Option V) ε Unit) :=
  ⟨[], _, .pure, List.forall_mem_nil _, fun _ => h⟩

theorem Does.fail (e : ε) : Does P Q (fail e : Prog (K → Option V) ε Unit) :=
  ⟨[], _, .fail e, List.forall_mem_nil _, by simp⟩

theorem Does.bind (hp : Does P Q p) (hf : Does P R (f ())) :
    Does P (fun ws => ∃ u v, ws = u ++ v ∧ Q u ∧ R v) (p >>= f) := by
  obtain ⟨ws, r, hlog, hws, hq⟩ := hp
  obtain ⟨ws', r', hlog', hws', hq'⟩ := hf
  rcases r with e | ⟨⟩
  · exact ⟨ws, _, hlog.bind_error, hws, by simp⟩
  · exact ⟨ws ++ ws', r', hlog.bind_ok hlog', List.forall_mem_append.mpr ⟨hws, hws'⟩,
      fun hr => ⟨ws, ws', rfl, hq rfl, hq' hr⟩⟩

theorem Does.mono (h : Does P Q p) (hq : ∀ ws, Q ws → R ws) : Does P R p := by
  obtain ⟨ws, r, hlog, hws, hform⟩ := h
  exact ⟨ws, r, hlog, hws, fun hr => hq ws (hform hr)⟩

/-- The store after a run of programs, each started whatever became of the one before. -/
def runAll : List (Prog (K → Option V) ε Unit) → (K → Option V) → K → Option V
  | [], s => s
  | p :: ps, s => runAll ps (p s).2

theorem runAll_append (ps qs : List (Prog (K → Option V) ε Unit)) (s : K → Option V) :
    runAll (ps ++ qs) s = runAll qs (runAll ps s) := by
  induction ps generalizing s with
  | nil => rfl
  | cons p ps ih => exact ih _

/-- A run of programs that keep to some writes does writes of this kind. -/
theorem runAll_does {ps : List (Prog (K → Option V) ε Unit)} (h : ∀ p ∈ ps, Does P Q p) :
    ∃ ws : List (K × V), (∀ w ∈ ws, P w) ∧ ∀ s, runAll ps s = apply ws s := by
  induction ps with
  | nil => exact ⟨[], List.forall_mem_nil _, fun _ => rfl⟩
  | cons p ps ih =>
    obtain ⟨⟨ws, r, hlog, hws, -⟩, hps⟩ := List.forall_mem_cons.mp h
    obtain ⟨ws', hws', hrun⟩ := ih hps
    refine ⟨ws ++ ws', List.forall_mem_append.mpr ⟨hws, hws'⟩, fun s => ?_⟩
    rw [runAll, hlog s, hrun, apply_append]

end WriteLog
