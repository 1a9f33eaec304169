import Mathlib.Algebra.Group.Nat.Defs
import Mathlib.Data.List.Induction
import Mathlib.Data.Nat.Size
import Cmdb.Ailsa
import Cmdb.CBuffer

/-!
# The string builder

`ailsa_fill_string` appends to a string in a buffer of 4096 bytes. If the piece does not fit,
the buffer is doubled, but only once : a piece that takes the string to twice the size is
copied over the end (`buildsString_iff`).
-/

namespace Cmdb

open CString CBuffer

/-! ## The code -/

/-- `ailsa_string_s`. -/
structure AilsaString where
  string : Buf
  len : ℕ
  size : ℕ
deriving DecidableEq, Repr

/-- What `realloc` leaves in the bytes that it adds. -/
abbrev Junk := ℕ → Option Char

/-- `ailsa_init_string`. -/
def ailsaInitString : AilsaString := ⟨calloc fileLen, 0, fileLen⟩

/-- `ailsa_realloc`, to more bytes. -/
def ailsaRealloc (junk : Junk) (r : Buf) (n : ℕ) : Buf :=
  r ++ (List.range (n - r.length)).map junk

/-- `ailsa_resize_string`. -/
def ailsaResizeString (junk : Junk) (str : AilsaString) : AilsaString :=
  { str with string := ailsaRealloc junk str.string (str.size * 2), size := str.size * 2 }

/-- The start of `ailsa_fill_string`. -/
def makeRoom (junk : Junk) (str : AilsaString) (s : CStr) : AilsaString :=
  if str.size ≤ s.length + str.len then ailsaResizeString junk str else str

/-- `ailsa_fill_string`. -/
def ailsaFillString (junk : Junk) (str : AilsaString) (s : CStr) : Option AilsaString := do
  let str := makeRoom junk str s
  let string ← sprintf str.string str.len s
  let len ← strlen string
  return { str with string := string, len := len }

/-- One append after the other. -/
def fillStrings (junk : Junk) (ss : List CStr) : Option AilsaString :=
  ss.foldlM (ailsaFillString junk) ailsaInitString

/-! ## A size that is doubled -/

/-- The first of `b`, `2 * b`, `4 * b`, ... that is more than `n`. -/
def doubled (b n : ℕ) : ℕ := b * 2 ^ (n / b).size

section Doubled

variable {b n m k : ℕ}

theorem doubled_le_iff (hb : 0 < b) : doubled b n ≤ b * 2 ^ k ↔ n < b * 2 ^ k := by
  rw [doubled, Nat.mul_le_mul_left_iff hb, Nat.pow_le_pow_iff_right (by decide), Nat.size_le,
    Nat.div_lt_iff_lt_mul hb, Nat.mul_comm]

theorem lt_doubled (hb : 0 < b) (n : ℕ) : n < doubled b n :=
  (doubled_le_iff hb).mp le_rfl

theorem doubled_le_doubled (h : n ≤ m) : doubled b n ≤ doubled b m :=
  Nat.mul_le_mul_left b (Nat.pow_le_pow_right (by decide)
    (Nat.size_le_size (Nat.div_le_div_right h)))

/-- Below the size nothing changes. -/
theorem doubled_of_lt (hb : 0 < b) (hle : n ≤ m) (h : m < doubled b n) :
    doubled b m = doubled b n :=
  Nat.le_antisymm ((doubled_le_iff hb).mpr h) (doubled_le_doubled hle)

/-- Below twice the size one doubling is enough. -/
theorem doubled_of_le (hb : 0 < b) (h : doubled b n ≤ m) (h2 : m < doubled b n * 2) :
    doubled b m = doubled b n * 2 := by
  have hdouble : doubled b n * 2 = b * 2 ^ ((n / b).size + 1) := by
    rw [doubled, Nat.pow_succ, Nat.mul_assoc]
  refine Nat.le_antisymm ?_ ?_
  · rw [hdouble] at h2 ⊢
    exact (doubled_le_iff hb).mpr h2
  · have hlt := h.trans_lt (lt_doubled hb m)
    rw [doubled, doubled, Nat.mul_lt_mul_left hb, Nat.pow_lt_pow_iff_right (by decide)] at hlt
    rw [hdouble]
    exact Nat.mul_le_mul_left b (Nat.pow_le_pow_right (by decide) hlt)

end Doubled

/-! ## Appending -/

/-- The builder has the text `s`, and as much room as doubling makes of it. -/
structure AilsaString.Built (str : AilsaString) (s : CStr) : Prop where
  holds : Holds str.string s
  length : str.string.length = str.size
  len : str.len = s.length
  size : str.size = doubled fileLen s.length

variable {junk : Junk} {str str' : AilsaString} {s t : CStr} {ss : List CStr}

theorem built_ailsaInitString : ailsaInitString.Built [] :=
  ⟨holds_calloc (by decide), length_calloc fileLen, rfl, rfl⟩

namespace AilsaString.Built

theorem len_lt_size (h : str.Built s) : str.len < str.size := by
  rw [h.len, h.size]
  exact lt_doubled (by decide) _

/-- A string with room for `t` keeps its text, whether or not its buffer is doubled. -/
theorem makeRoom (h : str.Built s) (junk : Junk) (t : CStr) :
    Holds (makeRoom junk str t).string s ∧
      (makeRoom junk str t).string.length = (makeRoom junk str t).size ∧
      (makeRoom junk str t).len = s.length := by
  unfold Cmdb.makeRoom
  split
  · obtain ⟨rest, hrest⟩ := h.holds
    refine ⟨⟨rest ++ (List.range (str.size * 2 - str.string.length)).map junk, ?_⟩, ?_, h.len⟩
    · simp only [ailsaResizeString, ailsaRealloc, hrest, List.append_assoc, List.cons_append]
    · simp only [ailsaResizeString, ailsaRealloc, List.length_append, List.length_map,
        List.length_range, h.length]
      omega
  · exact ⟨h.holds, h.length, h.len⟩

/-- After one doubling there is room exactly if the text stays below twice the size. -/
theorem size_makeRoom (h : str.Built s) (junk : Junk) (t : CStr) :
    (s.length + t.length < (Cmdb.makeRoom junk str t).size ↔
      s.length + t.length < doubled fileLen s.length * 2) ∧
    (s.length + t.length < doubled fileLen s.length * 2 →
      (Cmdb.makeRoom junk str t).size = doubled fileLen (s.length + t.length)) := by
  unfold Cmdb.makeRoom
  rw [h.len, Nat.add_comm t.length, h.size]
  split
  · next hle =>
    exact ⟨by rw [ailsaResizeString, h.size],
      fun h2 => by rw [ailsaResizeString, h.size, doubled_of_le (by decide) hle h2]⟩
  · next hlt =>
    rw [Nat.not_le] at hlt
    refine ⟨?_, fun _ => ?_⟩
    · rw [h.size]
      omega
    · rw [h.size, doubled_of_lt (by decide) (Nat.le_add_right _ _) hlt]

theorem fill (h : str.Built s) (junk : Junk)
    (ht : s.length + t.length < doubled fileLen s.length * 2) :
    ∃ str', ailsaFillString junk str t = some str' ∧ str'.Built (s ++ t) := by
  obtain ⟨hholds, hlength, hlen⟩ := h.makeRoom junk t
  obtain ⟨hroom, hsize⟩ := h.size_makeRoom junk t
  have hfit := hroom.mpr ht
  obtain ⟨buf, hbuf, hbuflen, hbufholds⟩ := hholds.sprintf_end (hlength.symm ▸ hfit)
  refine ⟨⟨buf, (s ++ t).length, (Cmdb.makeRoom junk str t).size⟩, ?_, hbufholds,
    hbuflen.trans hlength, rfl, ?_⟩
  · rw [ailsaFillString, hlen, hbuf]
    change (strlen buf).bind _ = _
    rw [hbufholds.strlen_eq]
    rfl
  · rw [List.length_append]
    exact hsize ht

/-- A text that stays below the first size needs no other. -/
theorem fill_of_lt (h : str.Built s) (junk : Junk) (ht : s.length + t.length < fileLen) :
    ∃ str', ailsaFillString junk str t = some str' ∧ str'.Built (s ++ t) := by
  have hle : fileLen ≤ doubled fileLen s.length := Nat.le_mul_of_pos_right _ (Nat.two_pow_pos _)
  exact h.fill junk (by omega)

/-- A piece that one doubling does not make room for is written over the end. -/
theorem fill_eq_none (h : str.Built s)
    (ht : ¬s.length + t.length < doubled fileLen s.length * 2) :
    ailsaFillString junk str t = none := by
  obtain ⟨-, hlength, hlen⟩ := h.makeRoom junk t
  have hfit := mt (h.size_makeRoom junk t).1.mp ht
  rw [ailsaFillString, hlen, sprintf, if_neg (by rwa [hlength])]
  rfl

end AilsaString.Built

theorem fillStrings_concat (junk : Junk) (ss : List CStr) (t : CStr) :
    fillStrings junk (ss ++ [t]) =
      (fillStrings junk ss).bind fun str => ailsaFillString junk str t := by
  rw [fillStrings, List.foldlM_append]
  exact congrArg _ (funext fun str => by cases h : ailsaFillString junk str t <;> simp [h])

/-- Every string that is built is the concatenation of the pieces. -/
theorem built_of_fillStrings (h : fillStrings junk ss = some str) : str.Built ss.flatten := by
  induction ss using List.reverseRecOn generalizing str with
  | nil =>
    obtain rfl := Option.some.inj h
    exact built_ailsaInitString
  | append_singleton ss t ih =>
    rw [fillStrings_concat] at h
    obtain ⟨str', hss, hfill⟩ := Option.bind_eq_some_iff.mp h
    rw [List.flatten_append, List.flatten_singleton]
    by_cases ht : ss.flatten.length + t.length < doubled fileLen ss.flatten.length * 2
    · obtain ⟨str₁, hfill₁, hbuilt⟩ := (ih hss).fill junk ht
      rw [hfill, Option.some.injEq] at hfill₁
      rwa [hfill₁]
    · rw [(ih hss).fill_eq_none ht] at hfill
      cases hfill

/-- No piece takes the text to twice the size that the buffer has before it : the first of
4096, 8192, ... that is more than the length. -/
def PiecesFit (ss : List CStr) : Prop :=
  ∀ before s, before ++ [s] <+: ss →
    before.flatten.length + s.length < doubled fileLen before.flatten.length * 2

/-- At each point of the sequence the string is the concatenation of what is appended, and its
length is below the size of its buffer. -/
def BuildsString (junk : Junk) (ss : List CStr) : Prop :=
  ∀ before, before <+: ss → ∃ str, fillStrings junk before = some str ∧
    str.string.length = str.size ∧ str.len < str.size ∧ text str.string = before.flatten ∧
    str.len = before.flatten.length

theorem buildsString_of_fits (junk : Junk) (h : PiecesFit ss) {before : List CStr}
    (hb : before <+: ss) :
    ∃ str, fillStrings junk before = some str ∧ str.Built before.flatten := by
  induction before using List.reverseRecOn with
  | nil => exact ⟨_, rfl, built_ailsaInitString⟩
  | append_singleton before t ih =>
    obtain ⟨str, hrun, hbuilt⟩ := ih ((List.prefix_append before [t]).trans hb)
    obtain ⟨str', hfill, hbuilt'⟩ := hbuilt.fill junk (h before t hb)
    refine ⟨str', ?_, ?_⟩
    · rw [fillStrings_concat, hrun]
      exact hfill
    · rwa [List.flatten_append, List.flatten_singleton]

/-- The builder holds what is appended exactly if no piece takes it to twice its size. -/
theorem buildsString_iff (junk : Junk) (ss : List CStr) : BuildsString junk ss ↔ PiecesFit ss := by
  constructor
  · intro h before s hb
    by_contra hs
    obtain ⟨str, hrun, -⟩ := h before ((List.prefix_append before [s]).trans hb)
    obtain ⟨str', hrun', -⟩ := h (before ++ [s]) hb
    rw [fillStrings_concat, hrun, Option.bind_some,
      (built_of_fillStrings hrun).fill_eq_none hs] at hrun'
    cases hrun'
  · intro h before hb
    obtain ⟨str, hrun, hbuilt⟩ := buildsString_of_fits junk h hb
    exact ⟨str, hrun, hbuilt.length, hbuilt.len_lt_size, hbuilt.holds.text_eq, hbuilt.len⟩

/-- A first piece of 8192 characters is written over the end of the doubled buffer. -/
theorem not_buildsString : ¬BuildsString (fun _ => none) [List.replicate 8192 'x'] := by
  intro h
  obtain ⟨str, hrun, -⟩ := h _ (List.prefix_refl _)
  have hnone : ailsaFillString (fun _ => none) ailsaInitString (List.replicate 8192 'x') = none :=
    built_ailsaInitString.fill_eq_none (by rw [List.length_replicate]; decide)
  rw [fillStrings, List.foldlM_cons, hnone] at hrun
  cases hrun

end Cmdb
