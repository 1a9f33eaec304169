import Mathlib.Data.List.Basic

/-!
# The words of a text

A text over any alphabet is cut at its blanks. What is between them are its words, and a text
that is put together from words and blanks has the words it was put together from.

* `words_append_cons` : a blank ends a word, whatever stands around it;
* `nextWord_append_cons` : the first word of a text, and what is left of it;
* `readNat_toDigits` : a number is read as it was printed.
-/

namespace Words

variable {α : Type*} {blank : α → Bool} {b : α} {s t w : List α}

/-- What stands between the blanks. -/
def words (blank : α → Bool) (s : List α) : List (List α) :=
  (s.splitOnP blank).filter fun w => !w.isEmpty

/-- A text that is one word. -/
structure IsWord (blank : α → Bool) (w : List α) : Prop where
  ne_nil : w ≠ []
  chars : ∀ c ∈ w, blank c = false

theorem words_nil (blank : α → Bool) : words blank [] = [] := rfl

theorem words_append_cons (h : blank b = true) (s t : List α) :
    words blank (s ++ b :: t) = words blank s ++ words blank t := by
  rw [words, List.splitOnP_append_cons _ _ h, List.filter_append]
  rfl

theorem words_cons (h : blank b = true) (t : List α) :
    words blank (b :: t) = words blank t :=
  words_append_cons h [] t

theorem words_append_of_blanks (h : ∀ c ∈ s, blank c = true) (t : List α) :
    words blank (s ++ t) = words blank t := by
  induction s with
  | nil => rfl
  | cons b s ih =>
    rw [List.cons_append, words_cons (h b List.mem_cons_self),
      ih fun c hc => h c (List.mem_cons_of_mem b hc)]

theorem words_append_blanks (h : ∀ c ∈ t, blank c = true) (s : List α) :
    words blank (s ++ t) = words blank s := by
  cases t with
  | nil => rw [List.append_nil]
  | cons b t =>
    have hnil := words_append_of_blanks (fun c hc => h c (List.mem_cons_of_mem b hc)) []
    rw [List.append_nil, words_nil] at hnil
    rw [words_append_cons (h b List.mem_cons_self), hnil, List.append_nil]

/-- A text that starts with a blank is read by itself. -/
theorem words_append_of_head (h : ∃ b ∈ t.head?, blank b = true) (s : List α) :
    words blank (s ++ t) = words blank s ++ words blank t := by
  obtain ⟨b, hb, hblank⟩ := h
  obtain ⟨u, rfl⟩ := List.head?_eq_some_iff.mp hb
  rw [words_append_cons hblank s u, words_cons hblank u]

theorem words_flatten {ls : List (List α)} (h : ∀ l ∈ ls, ∃ b ∈ l.head?, blank b = true)
    (s : List α) : words blank (s ++ ls.flatten) = words blank s ++ ls.flatMap (words blank) := by
  induction ls generalizing s with
  | nil => rw [List.flatten_nil, List.flatMap_nil, List.append_nil, List.append_nil]
  | cons l ls ih =>
    obtain ⟨hl, hls⟩ := List.forall_mem_cons.mp h
    rw [List.flatten_cons, ← List.append_assoc, ih hls, words_append_of_head hl,
      List.flatMap_cons, List.append_assoc]

/-- The characters of one word. -/
def isWordChars (blank : α → Bool) (w : List α) : Bool := !w.isEmpty && w.all fun c => !blank c

namespace IsWord

theorem of_isWordChars (h : isWordChars blank w = true) : IsWord blank w := by
  simp only [isWordChars, Bool.and_eq_true, Bool.not_eq_true', List.isEmpty_eq_false_iff,
    List.all_eq_true] at h
  exact ⟨h.1, fun c hc => by simpa using h.2 c hc⟩

/-- A literal is a word if its characters are. -/
theorem ofList {blank : Char → Bool} {s : String} {l : List Char} (hs : s = String.ofList l)
    (h : isWordChars blank l = true) : IsWord blank s.toList := by
  rw [hs, String.toList_ofList]
  exact of_isWordChars h

theorem words_eq (h : IsWord blank w) : words blank w = [w] := by
  obtain ⟨c, w', rfl⟩ := List.exists_cons_of_ne_nil h.ne_nil
  rw [words, List.splitOnP_eq_singleton h.chars]
  rfl

theorem words_append_cons (h : IsWord blank w) (hb : blank b = true) (t : List α) :
    words blank (w ++ b :: t) = w :: words blank t := by
  rw [Words.words_append_cons hb, h.words_eq, List.singleton_append]

theorem append (h : IsWord blank w) (ht : ∀ c ∈ t, blank c = false) : IsWord blank (w ++ t) where
  ne_nil hnil := h.ne_nil (List.append_eq_nil_iff.mp hnil).1
  chars := List.forall_mem_append.mpr ⟨h.chars, ht⟩

end IsWord

/-- Words put together with a blank between them, and blanks around them. -/
theorem words_intercalate {ws : List (List α)} (hb : blank b = true)
    (h : ∀ w ∈ ws, IsWord blank w) : words blank ([b].intercalate ws) = ws := by
  induction ws with
  | nil => rfl
  | cons w ws ih =>
    obtain ⟨hw, hws⟩ := List.forall_mem_cons.mp h
    cases ws with
    | nil => simpa [List.intercalate] using hw.words_eq
    | cons v ws =>
      have hcons : [b].intercalate (w :: v :: ws) = w ++ b :: [b].intercalate (v :: ws) := by
        simp [List.intercalate]
      rw [hcons, hw.words_append_cons hb, ih hws]

/-- Words with a blank before each. -/
theorem words_flatMap_cons {ws : List (List α)} (hb : blank b = true)
    (h : ∀ w ∈ ws, IsWord blank w) : words blank (ws.flatMap fun w => b :: w) = ws := by
  induction ws with
  | nil => rfl
  | cons w ws ih =>
    obtain ⟨hw, hws⟩ := List.forall_mem_cons.mp h
    rw [List.flatMap_cons, List.cons_append, words_cons hb]
    cases ws with
    | nil => rw [List.flatMap_nil, List.append_nil, hw.words_eq]
    | cons v ws =>
      have hrest := ih hws
      rw [List.flatMap_cons, List.cons_append, words_cons hb] at hrest
      rw [List.flatMap_cons, List.cons_append, hw.words_append_cons hb, hrest]

/-- A text that is written line by line has these lines. -/
theorem splitOn_flatMap_lines [BEq α] [LawfulBEq α] {nl : α} {ls : List (List α)}
    (h : ∀ l ∈ ls, nl ∉ l) (t : List α) :
    (ls.flatMap (· ++ [nl]) ++ t).splitOn nl = ls ++ t.splitOn nl := by
  induction ls with
  | nil => rfl
  | cons l ls ih =>
    obtain ⟨hl, hls⟩ := List.forall_mem_cons.mp h
    rw [List.flatMap_cons, List.append_assoc, List.append_assoc, List.singleton_append,
      List.splitOn_append_cons_self_of_not_mem hl, ih hls, List.cons_append]

/-! ## One word after the other -/

/-- The first word, and what follows it. -/
def nextWord (blank : α → Bool) (s : List α) : List α × List α :=
  let s := s.dropWhile blank
  (s.takeWhile fun c => !blank c, s.dropWhile fun c => !blank c)

theorem nextWord_cons (h : blank b = true) (t : List α) :
    nextWord blank (b :: t) = nextWord blank t := by
  rw [nextWord, List.dropWhile_cons_of_pos h]
  rfl

namespace IsWord

theorem nextWord_append (h : IsWord blank w) (ht : ∀ b ∈ t.head?, blank b = true) :
    nextWord blank (w ++ t) = (w, t) := by
  obtain ⟨c, w', rfl⟩ := List.exists_cons_of_ne_nil h.ne_nil
  have hc : ¬blank c = true := by simp [h.chars c List.mem_cons_self]
  have hall : ∀ d ∈ c :: w', (!blank d) = true := fun d hd => by simp [h.chars d hd]
  rw [nextWord, List.cons_append, List.dropWhile_cons_of_neg hc, ← List.cons_append,
    List.takeWhile_append_of_pos hall, List.dropWhile_append_of_pos hall]
  cases t with
  | nil => simp
  | cons b t =>
    have hb : (fun c => !blank c) b ≠ true := by simp [ht b rfl]
    rw [List.takeWhile_cons_of_neg (p := fun c => !blank c) hb,
      List.dropWhile_cons_of_neg (p := fun c => !blank c) hb, List.append_nil]

theorem nextWord_append_cons (h : IsWord blank w) (hb : blank b = true) (t : List α) :
    nextWord blank (w ++ b :: t) = (w, b :: t) :=
  h.nextWord_append fun _ hc => Option.mem_some.mp hc ▸ hb

end IsWord

/-! ## Numbers -/

/-- A number without a sign. -/
def readNat (w : List Char) : Option ℕ :=
  if w ≠ [] ∧ w.all Char.isDigit then some (Nat.ofDigitChars 10 w 0) else none

theorem readNat_toDigits (n : ℕ) : readNat (Nat.toDigits 10 n) = some n := by
  have hall : (Nat.toDigits 10 n).all Char.isDigit := by
    rw [List.all_eq_true]
    exact fun c hc => Nat.isDigit_of_mem_toDigits (by decide) (by decide) hc
  rw [readNat, if_pos ⟨Nat.toDigits_ne_nil, hall⟩, Nat.ofDigitChars_ten_toDigits]

theorem isWord_toDigits {blank : Char → Bool} (h : ∀ c, c.isDigit = true → blank c = false)
    (n : ℕ) : IsWord blank (Nat.toDigits 10 n) where
  ne_nil := Nat.toDigits_ne_nil
  chars c hc := h c (Nat.isDigit_of_mem_toDigits (by decide) (by decide) hc)

end Words
