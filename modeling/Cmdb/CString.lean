import Mathlib.Data.List.Basic

/-!
# C strings

A C string is its characters up to the terminating `NUL`. `writeAt s p n t` is
`snprintf(s + p, n, "%s", t)` on the string in `s`, `cut s p` is `s[p] = 0`, and an
offset stands for a pointer into the string.

* `strchr_append_cons`, `strrchr_append_cons` : the first (last) occurrence of `c` in
  `s ++ c :: t`, when the part before (after) it is free of `c`;
* `strncmpEq_iff` : a bounded comparison is equality once one side is below the bound;
* `length_cut_strrchr_lt` : cutting at an occurrence shortens the string, so a loop
  that cuts a string at its last dot ends.
-/

namespace CString

/-- The characters before the terminating `NUL`. -/
abbrev CStr := List Char

/-- `strchr` : the offset of the first `c`. -/
def strchr : CStr → Char → Option ℕ
  | [], _ => none
  | x :: s, c => if x = c then some 0 else (strchr s c).map (· + 1)

/-- `strrchr` : the offset of the last `c`. -/
def strrchr : CStr → Char → Option ℕ
  | [], _ => none
  | x :: s, c =>
    match strrchr s c with
    | some p => some (p + 1)
    | none => if x = c then some 0 else none

/-- `strncmp(s, t, n) == 0`. -/
def StrncmpEq (s t : CStr) (n : ℕ) : Prop := s.take n = t.take n

instance (s t : CStr) (n : ℕ) : Decidable (StrncmpEq s t n) :=
  inferInstanceAs (Decidable (s.take n = t.take n))

/-- `snprintf(buf, n, "%s", s)` and `strndup(s, n - 1)` : at most `n - 1` characters. -/
def snprintf (n : ℕ) (s : CStr) : CStr := s.take (n - 1)

/-- `snprintf(s + p, n, "%s", t)` : what was behind `p` is lost. -/
def writeAt (s : CStr) (p n : ℕ) (t : CStr) : CStr := s.take p ++ snprintf n t

/-- `s[p] = 0`. -/
def cut (s : CStr) (p : ℕ) : CStr := s.take p

/-- `strncat(s, t, n)`. -/
def strncat (s t : CStr) (n : ℕ) : CStr := s ++ t.take n

variable {c : Char} {s t : CStr} {n p : ℕ}

/-! ## Searching for a character -/

theorem strchr_nil : strchr [] c = none := rfl

theorem strchr_cons (x : Char) (s : CStr) :
    strchr (x :: s) c = if x = c then some 0 else (strchr s c).map (· + 1) := rfl

theorem strchr_append_cons : ∀ {s : CStr}, c ∉ s → ∀ t, strchr (s ++ c :: t) c = some s.length
  | [], _, t => by simp [strchr_cons]
  | x :: s, h, t => by
    rw [List.mem_cons, not_or] at h
    rw [List.cons_append, strchr_cons, if_neg (Ne.symm h.1), strchr_append_cons h.2]
    rfl

/-- The first `c` splits the string : no `c` in front of it. -/
theorem isSome_strchr : ∀ {s : CStr}, (strchr s c).isSome = true ↔ c ∈ s
  | [] => by simp [strchr_nil]
  | x :: s => by
    rw [strchr_cons, List.mem_cons, ← isSome_strchr (s := s)]
    split_ifs with h
    · simp [h]
    · simp [Ne.symm h]

theorem strchr_eq_some : ∀ {s : CStr} {p : ℕ}, strchr s c = some p →
    ∃ u v, s = u ++ c :: v ∧ c ∉ u ∧ u.length = p
  | x :: s, p, h => by
    rw [strchr_cons] at h
    by_cases hx : x = c
    · rw [if_pos hx, Option.some_inj] at h
      exact ⟨[], s, by rw [hx, List.nil_append], List.not_mem_nil, h⟩
    · rw [if_neg hx, Option.map_eq_some_iff] at h
      obtain ⟨q, hq, rfl⟩ := h
      obtain ⟨u, v, rfl, hu, rfl⟩ := strchr_eq_some hq
      exact ⟨x :: u, v, rfl, by simp [hu, Ne.symm hx], rfl⟩

theorem strrchr_nil : strrchr [] c = none := rfl

theorem strrchr_cons (x : Char) (s : CStr) : strrchr (x :: s) c =
    ((strrchr s c).map (· + 1)).or (if x = c then some 0 else none) := by
  rw [strrchr]
  cases strrchr s c <;> rfl

theorem strrchr_cons_of_some {x : Char} (h : strrchr s c = some p) :
    strrchr (x :: s) c = some (p + 1) := by
  rw [strrchr_cons, h]
  rfl

theorem strrchr_cons_of_none {x : Char} (h : strrchr s c = none) :
    strrchr (x :: s) c = if x = c then some 0 else none := by
  rw [strrchr_cons, h]
  rfl

theorem strrchr_eq_none : ∀ {s : CStr}, strrchr s c = none ↔ c ∉ s
  | [] => by simp [strrchr_nil]
  | x :: s => by
    have ih := strrchr_eq_none (s := s)
    rw [List.mem_cons, not_or]
    rcases h : strrchr s c with _ | p
    · have hs := ih.mp h
      rw [strrchr_cons_of_none h]
      by_cases hx : x = c
      · simp [hx]
      · simp [hx, hs, Ne.symm hx]
    · have hs : c ∈ s := by
        by_contra hs
        rw [ih.mpr hs] at h
        cases h
      rw [strrchr_cons_of_some h]
      simp [hs]

theorem strrchr_append_cons (ht : c ∉ t) :
    ∀ s, strrchr (s ++ c :: t) c = some s.length
  | [] => by
    rw [List.nil_append, strrchr_cons_of_none (strrchr_eq_none.2 ht), if_pos rfl]
    rfl
  | x :: s => by
    rw [List.cons_append, strrchr_cons_of_some (strrchr_append_cons ht s)]
    rfl

/-- The last `c` splits the string : no `c` behind it. -/
theorem strrchr_eq_some : ∀ {s : CStr} {p : ℕ}, strrchr s c = some p →
    ∃ u v, s = u ++ c :: v ∧ c ∉ v ∧ u.length = p
  | x :: s, p, h => by
    rcases hs : strrchr s c with _ | q
    · rw [strrchr_cons_of_none hs] at h
      split at h
      next hx =>
        cases h
        exact ⟨[], s, by rw [hx, List.nil_append], strrchr_eq_none.1 hs, rfl⟩
      next => cases h
    · rw [strrchr_cons_of_some hs] at h
      cases h
      obtain ⟨u, v, rfl, hv, rfl⟩ := strrchr_eq_some hs
      exact ⟨x :: u, v, rfl, hv, rfl⟩

theorem strrchr_append_of_notMem (ht : c ∉ t) : ∀ s, strrchr (s ++ t) c = strrchr s c
  | [] => by rw [List.nil_append, strrchr_eq_none.2 ht, strrchr_nil]
  | x :: s => by
    have ih := strrchr_append_of_notMem ht s
    rcases h : strrchr s c with _ | p
    · rw [List.cons_append, strrchr_cons_of_none h, strrchr_cons_of_none (ih.trans h)]
    · rw [List.cons_append, strrchr_cons_of_some h, strrchr_cons_of_some (ih.trans h)]

theorem strrchr_append_of_mem (ht : c ∈ t) (s : CStr) :
    strrchr (s ++ t) c = (strrchr t c).map (s.length + ·) := by
  rcases h : strrchr t c with _ | p
  · exact absurd ht (strrchr_eq_none.1 h)
  obtain ⟨u, v, rfl, hv, rfl⟩ := strrchr_eq_some h
  rw [← List.append_assoc, strrchr_append_cons hv]
  simp

theorem length_cut_strrchr_lt (h : strrchr s c = some p) : (cut s p).length < s.length := by
  obtain ⟨u, v, rfl, -, rfl⟩ := strrchr_eq_some h
  simp [cut]

/-! ## Bounded copies and comparisons -/

@[simp] theorem snprintf_of_length_lt (h : s.length < n) : snprintf n s = s :=
  List.take_of_length_le (by omega)

theorem length_snprintf_lt (hn : 0 < n) (s : CStr) : (snprintf n s).length < n := by
  rw [snprintf, List.length_take]
  omega

/-- A copy that is shorter than its bound was not cut. -/
theorem snprintf_eq_iff (h : t.length + 1 < n) : snprintf n s = t ↔ s = t := by
  refine ⟨fun hst => ?_, fun hst => hst ▸ snprintf_of_length_lt (hst ▸ by omega)⟩
  have hlen := congrArg List.length hst
  rw [snprintf, List.length_take] at hlen
  have hs : s.length < n := by omega
  rwa [snprintf_of_length_lt hs] at hst

theorem eq_of_snprintf_eq (h : snprintf n s = snprintf n t) (hs : s.length + 1 < n) : s = t :=
  ((snprintf_eq_iff hs).mp (h.symm.trans (snprintf_of_length_lt (Nat.lt_of_succ_lt hs)))).symm

theorem strncmpEq_iff (h : s.length < n) : StrncmpEq s t n ↔ s = t := by
  refine ⟨fun hst => ?_, fun hst => by rw [hst, StrncmpEq]⟩
  rw [StrncmpEq, List.take_of_length_le (Nat.le_of_lt h)] at hst
  have ht : t.length ≤ n := by
    have := congrArg List.length hst
    rw [List.length_take] at this
    omega
  rwa [List.take_of_length_le ht] at hst

theorem strncmpEq_comm : StrncmpEq s t n ↔ StrncmpEq t s n := eq_comm

/-- A comparison over the whole length of `s` asks whether `t` starts with `s`. -/
theorem strncmpEq_length_iff : StrncmpEq s t s.length ↔ s <+: t := by
  rw [StrncmpEq, List.take_length, List.prefix_iff_eq_take]

@[simp] theorem writeAt_append (s t u : CStr) (n : ℕ) :
    writeAt (s ++ t) s.length n u = s ++ snprintf n u := by
  rw [writeAt, List.take_left]

@[simp] theorem cut_append (s t : CStr) : cut (s ++ t) s.length = s := List.take_left

/-! ## Words closed by a separator -/

/-- A word free of the separator ends at the first one. -/
theorem append_cons_inj : ∀ {s s' : CStr}, c ∉ s → c ∉ s' →
    ∀ {t t' : CStr}, s ++ c :: t = s' ++ c :: t' ↔ s = s' ∧ t = t'
  | [], [], _, _, t, t' => by simp
  | [], x :: s', _, h', t, t' => by
    rw [List.mem_cons, not_or] at h'
    simp [h'.1]
  | x :: s, [], h, _, t, t' => by
    rw [List.mem_cons, not_or] at h
    simp [Ne.symm h.1]
  | x :: s, x' :: s', h, h', t, t' => by
    rw [List.mem_cons, not_or] at h h'
    rw [List.cons_append, List.cons_append, List.cons.injEq, append_cons_inj h.2 h'.2,
      List.cons.injEq, and_assoc]

end CString
