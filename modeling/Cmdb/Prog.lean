import Mathlib.Logic.Relation

/-!
# Programs that may fail

`Prog σ ε α` is a program on states `σ` that returns an `α` or stops with an error `ε`.
An error keeps the state reached so far : nothing is rolled back. `reads` asks the
state, `modify` changes it, `attempt` goes on after an error, `zoom` runs a program on a
part of the state.

A program that only asks (`ReadOnly`) hands its answer on in the same state
(`ReadOnly.bind_run_snd`). `Moves R p` says that `p` takes every state to a state `R`
relates it to, whether it returns or stops. For a preorder `R` it is closed under
sequencing (`Moves.bind`), under the loops over a list (`Moves.forM`) and under
`attempt`, so that what one statement may do bounds what a whole program may do, at
whichever statement it stops.
-/

/-- A program on states `σ` : its result or error, and the state it leaves. -/
def Prog (σ ε α : Type) : Type := σ → Except ε α × σ

namespace Prog

variable {σ τ ε α β : Type}

/-- Run `p`, then `f` on its result. -/
def bind (p : Prog σ ε α) (f : α → Prog σ ε β) : Prog σ ε β := fun s =>
  match p s with
  | (.ok a, s') => f a s'
  | (.error e, s') => (.error e, s')

instance : Monad (Prog σ ε) where
  pure a := fun s => (.ok a, s)
  bind := bind

/-- Stop with an error. -/
def fail (e : ε) : Prog σ ε α := fun s => (.error e, s)

/-- A question to the state. -/
def reads (g : σ → Except ε α) : Prog σ ε α := fun s => (g s, s)

/-- A change of the state. -/
def modify (u : σ → σ) : Prog σ ε Unit := fun s => (.ok (), u s)

/-- Go on with the error of `p` in hand. -/
def attempt (p : Prog σ ε α) : Prog σ ε (Except ε α) := fun s => (.ok (p s).1, (p s).2)

/-- Run `p` on a part of the state. -/
def zoom (get : τ → σ) (set : τ → σ → τ) (p : Prog σ ε α) : Prog τ ε α := fun t =>
  ((p (get t)).1, set t (p (get t)).2)

/-- Run `p` if `b`. -/
def runIf (b : Bool) (p : Prog σ ε Unit) : Prog σ ε Unit := if b then p else pure ()

/-- Stop with `e` unless `b`. -/
def require (b : Bool) (e : ε) : Prog σ ε Unit := if b then pure () else fail e

/-! ## Running a program -/

variable (s : σ)

@[simp] theorem pure_run (a : α) : (pure a : Prog σ ε α) s = (.ok a, s) := rfl

@[simp] theorem fail_run (e : ε) : (fail e : Prog σ ε α) s = (.error e, s) := rfl

@[simp] theorem reads_run (g : σ → Except ε α) : reads g s = (g s, s) := rfl

@[simp] theorem modify_run (u : σ → σ) : (modify u : Prog σ ε Unit) s = (.ok (), u s) := rfl

@[simp] theorem attempt_run (p : Prog σ ε α) : attempt p s = (.ok (p s).1, (p s).2) := rfl

@[simp] theorem require_true (e : ε) : (require true e : Prog σ ε Unit) = pure () := rfl

theorem require_run (b : Bool) (e : ε) : (require b e : Prog σ ε Unit) s =
    if b then (.ok (), s) else (.error e, s) := by
  cases b <;> rfl

@[simp] theorem zoom_run (get : τ → σ) (set : τ → σ → τ) (p : Prog σ ε α) (t : τ) :
    zoom get set p t = ((p (get t)).1, set t (p (get t)).2) := rfl

theorem ite_run (c : Prop) [Decidable c] (p q : Prog σ ε α) :
    (if c then p else q) s = if c then p s else q s := by
  split <;> rfl

theorem bind_run (p : Prog σ ε α) (f : α → Prog σ ε β) : (p >>= f) s =
    match p s with
    | (.ok a, s') => f a s'
    | (.error e, s') => (.error e, s') := rfl

variable {s}

theorem bind_run_ok {p : Prog σ ε α} {a : α} {s' : σ} (h : p s = (.ok a, s'))
    (f : α → Prog σ ε β) : (p >>= f) s = f a s' := by
  rw [bind_run, h]

theorem bind_run_error {p : Prog σ ε α} {e : ε} {s' : σ} (h : p s = (.error e, s'))
    (f : α → Prog σ ε β) : (p >>= f) s = (.error e, s') := by
  rw [bind_run, h]

@[simp] theorem modify_bind_run (u : σ → σ) (f : Unit → Prog σ ε β) :
    (modify u >>= f) s = f () (u s) := rfl

@[simp] theorem pure_bind_run (a : α) (f : α → Prog σ ε β) : ((pure a : Prog σ ε α) >>= f) s =
    f a s := rfl

theorem require_ok {b : Bool} {e : ε} {u : Unit}
    (h : ((require b e : Prog σ ε Unit) s).1 = .ok u) : b = true := by
  cases b
  · cases h
  · rfl

/-! ## Programs that only ask -/

/-- Every run of `p` leaves the state as it is. -/
def ReadOnly (p : Prog σ ε α) : Prop := ∀ s, (p s).2 = s

theorem ReadOnly.pure (a : α) : ReadOnly (pure a : Prog σ ε α) := fun _ => rfl

theorem ReadOnly.fail (e : ε) : ReadOnly (fail e : Prog σ ε α) := fun _ => rfl

theorem ReadOnly.reads (g : σ → Except ε α) : ReadOnly (reads g) := fun _ => rfl

theorem ReadOnly.require (b : Bool) (e : ε) : ReadOnly (require b e : Prog σ ε Unit) := by
  cases b
  · exact ReadOnly.fail e
  · exact ReadOnly.pure ()

theorem ReadOnly.bind {p : Prog σ ε α} {f : α → Prog σ ε β} (hp : ReadOnly p)
    (hf : ∀ a, ReadOnly (f a)) : ReadOnly (p >>= f) := by
  intro s
  have h := hp s
  rcases hs : p s with ⟨e | a, s'⟩
  · rw [bind_run_error hs]
    rwa [hs] at h
  · rw [bind_run_ok hs]
    rw [hs] at h
    rw [hf a s', ← h]

theorem ReadOnly.attempt {p : Prog σ ε α} (hp : ReadOnly p) : ReadOnly (attempt p) := hp

theorem ReadOnly.run_eq {p : Prog σ ε α} (hp : ReadOnly p) (s : σ) : p s = ((p s).1, s) :=
  Prod.ext rfl (hp s)

/-- A property of the state left behind, after a program that only asks : either it
stops, or it goes on in the same state with its answer. -/
theorem ReadOnly.bind_run_snd {p : Prog σ ε α} {f : α → Prog σ ε β} (hp : ReadOnly p)
    {P : σ → Prop} (hs : P s) (hf : ∀ a, (p s).1 = .ok a → P (f a s).2) : P ((p >>= f) s).2 := by
  have hrun := hp.run_eq s
  rcases h : (p s).1 with e | a
  · rw [h] at hrun
    rw [bind_run_error hrun]
    exact hs
  · rw [h] at hrun
    rw [bind_run_ok hrun]
    exact hf a h

/-- After a question the state is left as it is if the rest leaves it so. -/
theorem ReadOnly.bind_unchanged {p : Prog σ ε α} {f : α → Prog σ ε β} (hp : ReadOnly p)
    (hf : ∀ a, (p s).1 = .ok a → (f a s).2 = s) : ((p >>= f) s).2 = s :=
  hp.bind_run_snd (P := (· = s)) rfl hf

/-- A program that begins by asking stops there, or goes on with the answer. -/
theorem ReadOnly.bind_cases {p : Prog σ ε α} (hp : ReadOnly p) (f : α → Prog σ ε β) (s : σ) :
    (∃ e, (p s).1 = .error e ∧ (p >>= f) s = (.error e, s)) ∨
      ∃ a, (p s).1 = .ok a ∧ (p >>= f) s = f a s := by
  have hrun := hp.run_eq s
  rcases h : (p s).1 with e | a
  · exact .inl ⟨e, rfl, bind_run_error (by rw [hrun, h]) f⟩
  · exact .inr ⟨a, rfl, bind_run_ok (by rw [hrun, h]) f⟩

theorem ReadOnly.bind_run_of_ok {p : Prog σ ε α} (hp : ReadOnly p) {a : α} (h : (p s).1 = .ok a)
    (f : α → Prog σ ε β) : (p >>= f) s = f a s :=
  bind_run_ok (by rw [hp.run_eq, h]) f

/-- The result of a program that begins by asking. -/
theorem ReadOnly.bind_ok {p : Prog σ ε α} {f : α → Prog σ ε β} (hp : ReadOnly p) {b : β}
    (h : ((p >>= f) s).1 = .ok b) : ∃ a, (p s).1 = .ok a ∧ (f a s).1 = .ok b := by
  have hrun := hp.run_eq s
  rcases ha : (p s).1 with e | a
  · rw [ha] at hrun
    rw [bind_run_error hrun] at h
    cases h
  · rw [ha] at hrun
    rw [bind_run_ok hrun] at h
    exact ⟨a, rfl, h⟩

theorem ReadOnly.bind_ok_iff {p : Prog σ ε α} {f : α → Prog σ ε β} (hp : ReadOnly p) {b : β} :
    ((p >>= f) s).1 = .ok b ↔ ∃ a, (p s).1 = .ok a ∧ (f a s).1 = .ok b := by
  refine ⟨hp.bind_ok, fun ⟨a, ha, hb⟩ => ?_⟩
  rwa [hp.bind_run_of_ok ha]

theorem ReadOnly.zoom {get : τ → σ} {set : τ → σ → τ} {p : Prog σ ε α} (hp : ReadOnly p)
    (hset : ∀ t, set t (get t) = t) : ReadOnly (zoom get set p) := by
  intro t
  rw [zoom_run, hp (get t)]
  exact hset t

/-- `p` stops with an error and leaves the state as it is. -/
def Refuses (p : Prog σ ε α) (s : σ) : Prop := ∃ e, p s = (.error e, s)

theorem refuses_fail (e : ε) (s : σ) : Refuses (fail e : Prog σ ε α) s := ⟨e, rfl⟩

/-- A program that begins by asking refuses if it does so with every answer. -/
theorem ReadOnly.refuses_bind {p : Prog σ ε α} {f : α → Prog σ ε β} (hp : ReadOnly p)
    (hf : ∀ a, (p s).1 = .ok a → Refuses (f a) s) : Refuses (p >>= f) s := by
  have hrun := hp.run_eq s
  rcases h : (p s).1 with e | a
  · rw [h] at hrun
    exact ⟨e, bind_run_error hrun f⟩
  · rw [h] at hrun
    rw [Refuses, bind_run_ok hrun]
    exact hf a h

/-- An error of `p` leaves the state as it is. -/
def FailsUnchanged (p : Prog σ ε α) : Prop := ∀ s e, (p s).1 = .error e → (p s).2 = s

theorem ReadOnly.failsUnchanged {p : Prog σ ε α} (hp : ReadOnly p) : FailsUnchanged p :=
  fun s _ _ => hp s

/-- Questions before a program that leaves the state as it is when it fails. -/
theorem ReadOnly.bind_failsUnchanged {p : Prog σ ε α} {f : α → Prog σ ε β} (hp : ReadOnly p)
    (hf : ∀ a, FailsUnchanged (f a)) : FailsUnchanged (p >>= f) := by
  intro s e he
  obtain ⟨e', -, hrun⟩ | ⟨a, -, hrun⟩ := hp.bind_cases f s
  · rw [hrun]
  · rw [hrun] at he ⊢
    exact hf a s e he

/-! ## What a program may do -/

/-- Every run of `p` ends, with a result or an error, in a state related to the first. -/
def Moves (R : σ → σ → Prop) (p : Prog σ ε α) : Prop := ∀ s, R s (p s).2

section Moves

variable {R : σ → σ → Prop}

theorem ReadOnly.moves (hr : ∀ s, R s s) {p : Prog σ ε α} (hp : ReadOnly p) : Moves R p :=
  fun s => (hp s).symm ▸ hr s

theorem Moves.attempt {p : Prog σ ε α} (hp : Moves R p) : Moves R (attempt p) := hp

theorem Moves.modify {u : σ → σ} (h : ∀ s, R s (u s)) :
    Moves R (modify u : Prog σ ε Unit) := h

/-- From one state : what `p` leaves is related to it, and the rest goes on from there. -/
theorem rel_bind (ht : ∀ s s' s'', R s s' → R s' s'' → R s s'') {p : Prog σ ε α}
    {f : α → Prog σ ε β} {s : σ} (hp : R s (p s).2) (hf : ∀ a s', R s' (f a s').2) :
    R s ((p >>= f) s).2 := by
  rcases hs : p s with ⟨e | a, s'⟩
  · rw [bind_run_error hs]
    rwa [hs] at hp
  · rw [bind_run_ok hs]
    rw [hs] at hp
    exact ht _ _ _ hp (hf a s')

/-- Sequencing. -/
theorem Moves.bind (ht : ∀ s s' s'', R s s' → R s' s'' → R s s'') {p : Prog σ ε α}
    {f : α → Prog σ ε β} (hp : Moves R p) (hf : ∀ a, Moves R (f a)) : Moves R (p >>= f) :=
  fun s => rel_bind ht (hp s) hf

/-- A loop over a list. -/
theorem Moves.forM (hr : ∀ s, R s s) (ht : ∀ s s' s'', R s s' → R s' s'' → R s s'')
    {f : α → Prog σ ε PUnit} : ∀ {l : List α}, (∀ a ∈ l, Moves R (f a)) → Moves R (forM l f)
  | [], _ => hr
  | a :: l, h => by
    rw [List.forM_cons]
    exact (h a (List.mem_cons_self ..)).bind ht fun _ =>
      Moves.forM hr ht fun b hb => h b (List.mem_cons_of_mem _ hb)

end Moves

/-! ## Programs that return -/

/-- `p` returns from `s`, with a result and in a state as `post` says. -/
def Returns (p : Prog σ ε α) (s : σ) (post : α → σ → Prop) : Prop :=
  ∃ a s', p s = (.ok a, s') ∧ post a s'

section Returns

variable {p : Prog σ ε α} {post post' : α → σ → Prop}

theorem Returns.imp (hp : Returns p s post) (h : ∀ a s', post a s' → post' a s') :
    Returns p s post' := by
  obtain ⟨a, s', hrun, hpost⟩ := hp
  exact ⟨a, s', hrun, h a s' hpost⟩

theorem returns_pure {a : α} (h : post a s) : Returns (pure a : Prog σ ε α) s post :=
  ⟨a, s, rfl, h⟩

theorem Returns.bind {f : α → Prog σ ε β} {post : β → σ → Prop}
    (hp : Returns p s fun a s' => Returns (f a) s' post) : Returns (p >>= f) s post := by
  obtain ⟨a, s', hrun, b, s'', hrun', hpost⟩ := hp
  exact ⟨b, s'', (bind_run_ok hrun f).trans hrun', hpost⟩

end Returns

end Prog
