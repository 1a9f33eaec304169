import Mathlib.Data.Int.Basic
import Mathlib.Order.Basic
import Cmdb.CString

/-!
# Buffers

A buffer is its cells, `none` for a `NUL`; an offset stands for a pointer into it. A write
behind the last cell has no result.

* `Holds.sprintf` : a text written into a string ends it there, if it fits with its `NUL`;
* `foldlM_range` : a counted loop keeps what each of its rounds keeps.
-/

namespace CBuffer

open CString

/-- The cells of a buffer. -/
abbrev Buf := List (Option Char)

/-- `calloc`. -/
def calloc (n : ℕ) : Buf := List.replicate n none

/-- The string in a buffer. -/
def text : Buf → CStr
  | some c :: buf => c :: text buf
  | _ => []

/-- `strlen` : in a buffer without a `NUL` it runs over the end. -/
def strlen : Buf → Option ℕ
  | [] => none
  | none :: _ => some 0
  | some _ :: buf => (strlen buf).map (· + 1)

/-- `sprintf(buf + p, "%s", t)`. -/
def sprintf (buf : Buf) (p : ℕ) (t : CStr) : Option Buf :=
  if p + t.length < buf.length then
    some (buf.take p ++ (t.map some ++ none :: buf.drop (p + t.length + 1)))
  else none

/-- `m[k] = x`. -/
def store {α : Type} (m : List α) (k : ℕ) (x : α) : Option (List α) :=
  if k < m.length then some (m.set k x) else none

/-- The buffer starts with `s` and its `NUL`. -/
def Holds (buf : Buf) (s : CStr) : Prop := ∃ rest, buf = s.map some ++ none :: rest

/-! ## Strings in buffers -/

variable {buf : Buf} {s t : CStr} {p : ℕ}

theorem length_calloc (n : ℕ) : (calloc n).length = n := List.length_replicate

theorem holds_calloc {n : ℕ} (hn : 0 < n) : Holds (calloc n) [] := by
  obtain ⟨m, rfl⟩ := Nat.exists_eq_succ_of_ne_zero hn.ne'
  exact ⟨List.replicate m none, rfl⟩

namespace Holds

theorem text_eq (h : Holds buf s) : text buf = s := by
  obtain ⟨rest, rfl⟩ := h
  induction s with
  | nil => rfl
  | cons c s ih => rw [List.map_cons, List.cons_append, text, ih]

theorem strlen_eq (h : Holds buf s) : strlen buf = some s.length := by
  obtain ⟨rest, rfl⟩ := h
  induction s with
  | nil => rfl
  | cons c s ih => rw [List.map_cons, List.cons_append, strlen, ih]; rfl

theorem sprintf (h : Holds buf s) (hp : p ≤ s.length) (hfit : p + t.length < buf.length) :
    ∃ buf', sprintf buf p t = some buf' ∧ buf'.length = buf.length ∧
      Holds buf' (s.take p ++ t) := by
  refine ⟨_, if_pos hfit, ?_, buf.drop (p + t.length + 1), ?_⟩
  · simp only [List.length_append, List.length_cons, List.length_map, List.length_take,
      List.length_drop]
    omega
  · obtain ⟨rest, rfl⟩ := h
    rw [List.take_append_of_le_length (by rwa [List.length_map]), List.map_append, List.map_take,
      List.append_assoc]

/-- A text written behind a string. -/
theorem sprintf_end (h : Holds buf s) (hfit : s.length + t.length < buf.length) :
    ∃ buf', CBuffer.sprintf buf s.length t = some buf' ∧ buf'.length = buf.length ∧
      Holds buf' (s ++ t) := by
  have hw := h.sprintf (Nat.le_refl _) hfit
  rwa [List.take_length] at hw

end Holds

/-- A text that fits into a buffer is what the buffer holds. -/
theorem sprintf_calloc {n : ℕ} (h : t.length < n) :
    ∃ buf, sprintf (calloc n) 0 t = some buf ∧ text buf = t := by
  obtain ⟨buf, hbuf, -, hholds⟩ := (holds_calloc (Nat.zero_lt_of_lt h)).sprintf_end (t := t)
    (by rwa [List.length_nil, Nat.zero_add, length_calloc])
  exact ⟨buf, hbuf, hholds.text_eq⟩

theorem sprintf_calloc_eq_none {n : ℕ} (h : ¬t.length < n) : sprintf (calloc n) 0 t = none :=
  if_neg (by rwa [Nat.zero_add, length_calloc])

/-! ## Arrays and loops -/

section

variable {α σ : Type} {k n : ℕ}

/-- An array is filled from the front. -/
theorem store_append_replicate {l : List α} {x y : α} (hk : k = l.length) (hn : 0 < n) :
    store (l ++ List.replicate n x) k y = some (l ++ [y] ++ List.replicate (n - 1) x) := by
  obtain ⟨m, rfl⟩ := Nat.exists_eq_succ_of_ne_zero hn.ne'
  subst hk
  rw [store, if_pos (by simp), List.set_append_right _ _ (Nat.le_refl _), Nat.sub_self,
    List.replicate_succ, List.set_cons_zero, List.append_assoc]
  rfl

/-- A loop over `0 .. n - 1` : each round keeps the invariant. -/
theorem foldlM_range {f : σ → ℕ → Option σ} (P : ℕ → σ → Prop) : ∀ {n : ℕ},
    (∀ i < n, ∀ s, P i s → ∃ s', f s i = some s' ∧ P (i + 1) s') → ∀ {s : σ}, P 0 s →
      ∃ s', (List.range n).foldlM f s = some s' ∧ P n s'
  | 0, _, s, h0 => ⟨s, rfl, h0⟩
  | n + 1, hstep, s, h0 => by
    obtain ⟨s₁, hs₁, hP⟩ := foldlM_range (n := n) P (fun i hi => hstep i (by omega)) h0
    obtain ⟨s₂, hs₂, hP⟩ := hstep n (by omega) s₁ hP
    refine ⟨s₂, ?_, hP⟩
    rw [List.range_succ, List.foldlM_append, hs₁]
    simpa using hs₂

end

end CBuffer
