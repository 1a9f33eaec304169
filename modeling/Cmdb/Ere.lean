import Mathlib.Computability.RegularExpressions
import Mathlib.Data.Char

/-!
# POSIX extended regular expressions

`regcomp` reads an expression that is anchored at both ends, and `regexec` says whether it
matches a text. In brackets a backslash is a character like any other, and a hyphen that is
neither the first nor the last makes a range of the characters beside it.

* `regexec_iff` : a text is matched exactly if it is in the language of the expression;
* `mem_lang_set`, `mem_lang_alt`, `mem_lang_cat`, `mem_lang_star` : the languages of the
  parts of an expression;
* `mem_lang_star_set`, `mem_lang_times_set` : a bracket with a star matches the texts of its
  characters, one with a number those of that length;
* `mem_lang_joined` : expressions with a separator between them match the texts that are joined
  with it.
-/

namespace Posix

/-! ## Expressions -/

/-- An extended regular expression. A set is given by ranges, and `rep m n a` is `m` times
`a` at least, and `n` times at most if there is an `n`. -/
inductive Ere
  | empty
  | set (ranges : List (Char × Char))
  | alt (a b : Ere)
  | cat (a b : Ere)
  | rep (m : ℕ) (n : Option ℕ) (a : Ere)
deriving DecidableEq, Repr

/-- The characters of a range. -/
def charRange (lo hi : Char) : List Char :=
  (List.range (hi.toNat + 1)).filterMap fun n =>
    if h : n.isValidChar then
      if lo ≤ Char.ofNatAux n h then some (Char.ofNatAux n h) else none
    else none

/-- One character of a list. -/
def oneOf (cs : List Char) : RegularExpression Char :=
  cs.foldr (fun c r => .char c + r) 0

/-- The expression in the alphabet of characters. -/
def Ere.toRegular : Ere → RegularExpression Char
  | .empty => 1
  | .set ranges => oneOf (ranges.flatMap fun r => charRange r.1 r.2)
  | .alt a b => a.toRegular + b.toRegular
  | .cat a b => a.toRegular * b.toRegular
  | .rep m none a => a.toRegular ^ m * a.toRegular.star
  | .rep m (some n) a => a.toRegular ^ m * (1 + a.toRegular) ^ (n - m)

/-- The texts an expression stands for. -/
def Ere.lang (a : Ere) : Language Char := a.toRegular.matches'

/-- `regexec`, for an expression with an anchor at each end. -/
def regexec (a : Ere) (s : List Char) : Bool := a.toRegular.rmatch s

/-! ## Reading an expression -/

/-- What `regcomp` refuses. `unsupported` is no code of it : anchors inside, negated sets,
classes, and the dot are not read here. -/
inductive RegError
  | unsupported
  | eescape
  | ebrack
  | eparen
  | ebrace
  | badbr
  | erange
  | espace
  | badrpt
deriving DecidableEq, Repr

/-- The ranges of a bracket, from its second character on, and what follows it. -/
def bracket : List Char → Except RegError (List (Char × Char) × List Char)
  | [] => .error .ebrack
  | ']' :: s => .ok ([], s)
  | c :: '-' :: d :: s =>
    if d = ']' then .ok ([(c, c), ('-', '-')], s)
    else if c ≤ d then (bracket s).map fun (rs, rest) => ((c, d) :: rs, rest)
    else .error .erange
  | c :: s =>
    if c = '[' then .error .unsupported
    else (bracket s).map fun (rs, rest) => ((c, c) :: rs, rest)

/-- The ranges of a bracket. A closing bracket that comes first closes nothing. -/
def bracketFirst : List Char → Except RegError (List (Char × Char) × List Char)
  | '^' :: _ => .error .unsupported
  | ']' :: s => (bracket s).map fun (rs, rest) => ((']', ']') :: rs, rest)
  | s => bracket s

/-- A number and what follows it. -/
def number (s : List Char) : Option (ℕ × List Char) :=
  let digits := s.takeWhile Char.isDigit
  if digits = [] then none else some (Nat.ofDigitChars 10 digits 0, s.dropWhile Char.isDigit)

/-- The bounds of an interval, from behind its brace. -/
def interval (s : List Char) : Except RegError ((ℕ × Option ℕ) × List Char) :=
  match number s with
  | none => .error .badbr
  | some (m, '\x7d' :: s) => .ok ((m, some m), s)
  | some (m, ',' :: '\x7d' :: s) => .ok ((m, none), s)
  | some (m, ',' :: s) =>
    match number s with
    | some (n, '\x7d' :: s) => if m ≤ n then .ok ((m, some n), s) else .error .badbr
    | _ => .error .badbr
  | some _ => .error .ebrace

/-- The expression with the repetition that follows it. -/
def repetition (a : Ere) : List Char → Except RegError (Ere × List Char)
  | '*' :: s => .ok (.rep 0 none a, s)
  | '+' :: s => .ok (.rep 1 none a, s)
  | '?' :: s => .ok (.rep 0 (some 1) a, s)
  | '\x7b' :: s => (interval s).map fun ((m, n), rest) => (.rep m n a, rest)
  | s => .ok (a, s)

/-- One expression after another. -/
def Ere.andThen : Ere → Ere → Ere
  | .empty, b => b
  | a, b => .cat a b

/-- The branches before, and the last branch. -/
def Ere.orElse : Option Ere → Ere → Ere
  | none, b => b
  | some a, b => .alt a b

/-- An expression up to the parenthesis that closes it, or outside of all of them up to the
end. `alts` are the branches before, `branch` is what was read of the last one. -/
def parse : ℕ → Bool → Option Ere → Ere → List Char → Except RegError (Ere × List Char)
  | 0, _, _, _, _ => .error .espace
  | _ + 1, false, _, branch, [] => .ok (branch, [])
  | _ + 1, true, _, _, [] => .error .eparen
  | fuel + 1, inside, alts, branch, c :: s =>
    match c with
    | ')' => if inside then .ok (Ere.orElse alts branch, s) else .error .eparen
    | '|' =>
      if inside then parse fuel inside (some (Ere.orElse alts branch)) .empty s
      else .error .unsupported
    | '(' => do
      let (a, s) ← parse fuel true none .empty s
      let (a, s) ← repetition a s
      parse fuel inside alts (branch.andThen a) s
    | '[' => do
      let (ranges, s) ← bracketFirst s
      let (a, s) ← repetition (.set ranges) s
      parse fuel inside alts (branch.andThen a) s
    | '\\' =>
      match s with
      | [] => .error .eescape
      | c :: s => do
        let (a, s) ← repetition (.set [(c, c)]) s
        parse fuel inside alts (branch.andThen a) s
    | '*' | '+' | '?' | '\x7b' => .error .badrpt
    | '^' | '$' | '.' => .error .unsupported
    | c => do
      let (a, s) ← repetition (.set [(c, c)]) s
      parse fuel inside alts (branch.andThen a) s

/-- `regcomp` with `REG_EXTENDED`, for an expression with an anchor at each end. -/
def regcomp : List Char → Except RegError Ere
  | '^' :: s =>
    if s.getLast? = some '$' then (parse s.length false none .empty s.dropLast).map Prod.fst
    else .error .unsupported
  | _ => .error .unsupported

/-! ## Languages -/

variable {a b : Ere} {s : List Char} {ranges : List (Char × Char)}

theorem regexec_iff : regexec a s = true ↔ s ∈ a.lang :=
  RegularExpression.rmatch_iff_matches' _ _

/-- A character is in one of the ranges. -/
def InRanges (ranges : List (Char × Char)) (c : Char) : Prop := ∃ r ∈ ranges, r.1 ≤ c ∧ c ≤ r.2

instance (ranges : List (Char × Char)) (c : Char) : Decidable (InRanges ranges c) :=
  inferInstanceAs (Decidable (∃ r ∈ ranges, r.1 ≤ c ∧ c ≤ r.2))

theorem mem_charRange {lo hi c : Char} : c ∈ charRange lo hi ↔ lo ≤ c ∧ c ≤ hi := by
  rw [charRange, List.mem_filterMap]
  constructor
  · rintro ⟨n, hn, h⟩
    have hle := List.mem_range.mp hn
    by_cases hvalid : n.isValidChar
    swap
    · rw [dif_neg hvalid] at h
      cases h
    rw [dif_pos hvalid] at h
    by_cases hlo : lo ≤ Char.ofNatAux n hvalid
    swap
    · rw [if_neg hlo] at h
      cases h
    rw [if_pos hlo] at h
    cases h
    refine ⟨hlo, ?_⟩
    rw [Char.le_def, UInt32.le_iff_toNat_le]
    exact Nat.le_of_lt_succ hle
  · rintro ⟨hlo, hhi⟩
    have hvalid : c.toNat.isValidChar := c.valid
    have hc : Char.ofNatAux c.toNat hvalid = c := rfl
    refine ⟨c.toNat, List.mem_range.mpr (Nat.lt_succ_of_le ?_), ?_⟩
    · rwa [Char.le_def, UInt32.le_iff_toNat_le] at hhi
    · rw [dif_pos hvalid, hc, if_pos hlo]

theorem mem_oneOf {cs : List Char} : s ∈ (oneOf cs).matches' ↔ ∃ c ∈ cs, s = [c] := by
  induction cs with
  | nil => simp [oneOf, Language.notMem_zero]
  | cons c cs ih =>
    have hcons : oneOf (c :: cs) = .char c + oneOf cs := rfl
    rw [hcons, RegularExpression.matches'_add, Language.mem_add, ih,
      RegularExpression.matches'_char, List.exists_mem_cons_iff]
    exact Iff.rfl

theorem Ere.lang_set : (Ere.set ranges).lang =
    (oneOf (ranges.flatMap fun r => charRange r.1 r.2)).matches' := rfl

theorem Ere.lang_cat : (Ere.cat a b).lang = a.lang * b.lang := rfl

theorem Ere.lang_rep_none (m : ℕ) (a : Ere) :
    (Ere.rep m none a).lang = (a.toRegular ^ m * a.toRegular.star).matches' := rfl

theorem Ere.lang_rep_some (m n : ℕ) (a : Ere) : (Ere.rep m (some n) a).lang =
    (a.toRegular ^ m * (1 + a.toRegular) ^ (n - m)).matches' := rfl

theorem mem_lang_set : s ∈ (Ere.set ranges).lang ↔ ∃ c, InRanges ranges c ∧ s = [c] := by
  rw [Ere.lang_set, mem_oneOf]
  simp only [List.mem_flatMap, mem_charRange, InRanges]

theorem mem_lang_alt : s ∈ (Ere.alt a b).lang ↔ s ∈ a.lang ∨ s ∈ b.lang := Iff.rfl

theorem mem_lang_cat : s ∈ (Ere.cat a b).lang ↔ ∃ u ∈ a.lang, ∃ v ∈ b.lang, u ++ v = s :=
  Language.mem_mul

theorem mem_lang_cat_assoc {c : Ere} :
    s ∈ (Ere.cat (.cat a b) c).lang ↔ s ∈ (Ere.cat a (.cat b c)).lang :=
  iff_of_eq (congrArg (s ∈ ·) (mul_assoc a.lang b.lang c.lang))

theorem mem_lang_star :
    s ∈ (Ere.rep 0 none a).lang ↔
      ∃ ws : List (List Char), s = ws.flatten ∧ ∀ w ∈ ws, w ∈ a.lang := by
  rw [Ere.lang_rep_none, RegularExpression.matches'_mul, RegularExpression.matches'_pow,
    pow_zero, one_mul, RegularExpression.matches'_star, Language.mem_kstar]
  rfl

theorem mem_lang_times (n : ℕ) : s ∈ (Ere.rep n (some n) a).lang ↔
    ∃ ws : List (List Char), s = ws.flatten ∧ ws.length = n ∧ ∀ w ∈ ws, w ∈ a.lang := by
  rw [Ere.lang_rep_some, Nat.sub_self, RegularExpression.matches'_mul,
    RegularExpression.matches'_pow, RegularExpression.matches'_pow, pow_zero, mul_one,
    Language.mem_pow]
  rfl

/-- A bracket with a star : the texts of its characters. -/
theorem mem_lang_star_set :
    s ∈ (Ere.rep 0 none (.set ranges)).lang ↔ ∀ c ∈ s, InRanges ranges c := by
  rw [mem_lang_star]
  constructor
  · rintro ⟨ws, rfl, hws⟩ c hc
    obtain ⟨w, hw, hcw⟩ := List.mem_flatten.mp hc
    obtain ⟨d, hd, rfl⟩ := mem_lang_set.mp (hws w hw)
    rwa [List.mem_singleton.mp hcw]
  · intro h
    have hflat : s = (s.map fun c => [c]).flatten := by
      rw [← List.flatMap_def, List.flatMap_singleton']
    refine ⟨s.map fun c => [c], hflat, fun w hw => ?_⟩
    obtain ⟨c, hc, rfl⟩ := List.mem_map.mp hw
    exact mem_lang_set.mpr ⟨c, h c hc, rfl⟩

theorem mem_lang_plus :
    s ∈ (Ere.rep 1 none a).lang ↔ s ∈ (Ere.cat a (.rep 0 none a)).lang := by
  have hone : (Ere.rep 1 none a).lang = (Ere.cat a (.rep 0 none a)).lang := by
    rw [Ere.lang_cat, Ere.lang_rep_none, Ere.lang_rep_none, RegularExpression.matches'_mul,
      RegularExpression.matches'_mul, RegularExpression.matches'_pow,
      RegularExpression.matches'_pow, pow_one, pow_zero, one_mul]
    rfl
  rw [hone]

/-- A bracket with a plus : the texts of its characters but the empty one. -/
theorem mem_lang_plus_set :
    s ∈ (Ere.rep 1 none (.set ranges)).lang ↔ s ≠ [] ∧ ∀ c ∈ s, InRanges ranges c := by
  rw [mem_lang_plus, mem_lang_cat]
  constructor
  · rintro ⟨_, hu, v, hv, rfl⟩
    obtain ⟨c, hc, rfl⟩ := mem_lang_set.mp hu
    exact ⟨by simp, List.forall_mem_cons.mpr ⟨hc, mem_lang_star_set.mp hv⟩⟩
  · rintro ⟨hne, h⟩
    obtain ⟨c, v, rfl⟩ := List.exists_cons_of_ne_nil hne
    obtain ⟨hc, hv⟩ := List.forall_mem_cons.mp h
    exact ⟨[c], mem_lang_set.mpr ⟨c, hc, rfl⟩, v, mem_lang_star_set.mpr hv, rfl⟩

/-- The set of one character. -/
theorem mem_lang_char {d : Char} : s ∈ (Ere.set [(d, d)]).lang ↔ s = [d] := by
  rw [mem_lang_set]
  constructor
  · rintro ⟨c, ⟨r, hr, hc⟩, rfl⟩
    rw [List.mem_singleton.mp hr] at hc
    rw [le_antisymm hc.2 hc.1]
  · rintro rfl
    exact ⟨d, ⟨_, List.mem_singleton.mpr rfl, le_refl d, le_refl d⟩, rfl⟩

theorem length_flatten_set {ws : List (List Char)} (h : ∀ w ∈ ws, w ∈ (Ere.set ranges).lang) :
    ws.flatten.length = ws.length := by
  induction ws with
  | nil => rfl
  | cons w ws ih =>
    obtain ⟨c, -, rfl⟩ := mem_lang_set.mp (h w List.mem_cons_self)
    have hrest := ih fun v hv => h v (List.mem_cons_of_mem _ hv)
    rw [List.flatten_cons, List.length_append, hrest, List.length_singleton, List.length_cons,
      Nat.add_comm]

/-- A bracket with a number : the texts of so many of its characters. -/
theorem mem_lang_times_set (n : ℕ) :
    s ∈ (Ere.rep n (some n) (.set ranges)).lang ↔ s.length = n ∧ ∀ c ∈ s, InRanges ranges c := by
  rw [mem_lang_times, ← mem_lang_star_set, mem_lang_star]
  constructor
  · rintro ⟨ws, rfl, hlen, hws⟩
    exact ⟨(length_flatten_set hws).trans hlen, ws, rfl, hws⟩
  · rintro ⟨hlen, ws, rfl, hws⟩
    exact ⟨ws, rfl, (length_flatten_set hws).symm.trans hlen, hws⟩

/-- Characters between two others. -/
theorem mem_lang_enclosed {first middle last : List (Char × Char)} :
    s ∈ (Ere.cat (.cat (.set first) (.rep 0 none (.set middle))) (.set last)).lang ↔
      ∃ a m b, s = a :: (m ++ [b]) ∧ InRanges first a ∧ (∀ c ∈ m, InRanges middle c) ∧
        InRanges last b := by
  simp only [mem_lang_cat, mem_lang_set, mem_lang_star_set]
  constructor
  · rintro ⟨_, ⟨_, ⟨a, ha, rfl⟩, m, hm, rfl⟩, _, ⟨b, hb, rfl⟩, rfl⟩
    exact ⟨a, m, b, by simp, ha, hm, hb⟩
  · rintro ⟨a, m, b, rfl, ha, hm, hb⟩
    exact ⟨[a] ++ m, ⟨[a], ⟨a, ha, rfl⟩, m, hm, rfl⟩, [b], ⟨b, hb, rfl⟩, by simp⟩

/-! ## Texts with a separator -/

/-- `n` texts with `P`, and `d` between them. -/
def Joined (d : Char) (P : List Char → Prop) (n : ℕ) (s : List Char) : Prop :=
  ∃ ws : List (List Char), ws.length = n ∧ (∀ w ∈ ws, P w) ∧ s = List.intercalate [d] ws

variable {d : Char} {P : List Char → Prop} {n : ℕ}

theorem intercalate_concat {ws : List (List Char)} {w : List Char} (h : ws ≠ []) :
    List.intercalate [d] (ws ++ [w]) = List.intercalate [d] ws ++ d :: w := by
  induction ws with
  | nil => exact absurd rfl h
  | cons v ws ih =>
    rcases eq_or_ne ws [] with rfl | hne
    · simp [List.intercalate_cons_cons]
    · rw [List.cons_append, List.intercalate_cons_of_ne_nil (by simp), ih hne,
        List.intercalate_cons_of_ne_nil hne]
      simp only [List.append_assoc]

theorem joined_one : Joined d P 1 s ↔ P s := by
  constructor
  · rintro ⟨ws, hlen, hws, rfl⟩
    obtain ⟨w, rfl⟩ := List.length_eq_one_iff.mp hlen
    rw [List.intercalate_singleton]
    exact hws w (List.mem_singleton.mpr rfl)
  · intro h
    exact ⟨[s], rfl, List.forall_mem_singleton.mpr h, List.intercalate_singleton.symm⟩

/-- One more text behind the others. -/
theorem joined_add_one (hn : 0 < n) :
    Joined d P (n + 1) s ↔ ∃ u, Joined d P n u ∧ ∃ w, P w ∧ u ++ d :: w = s := by
  constructor
  · rintro ⟨ws, hlen, hws, rfl⟩
    obtain ⟨init, w, rfl⟩ : ∃ init w, ws = init ++ [w] :=
      ⟨_, _, (List.dropLast_concat_getLast (List.ne_nil_of_length_eq_add_one hlen)).symm⟩
    rw [List.length_append, List.length_singleton, Nat.add_right_cancel_iff] at hlen
    have hne : init ≠ [] := List.ne_nil_of_length_pos (hlen ▸ hn)
    obtain ⟨hinit, hw⟩ := List.forall_mem_append.mp hws
    exact ⟨_, ⟨init, hlen, hinit, rfl⟩, w, hw w (List.mem_singleton.mpr rfl),
      (intercalate_concat hne).symm⟩
  · rintro ⟨u, ⟨ws, hlen, hws, rfl⟩, w, hw, rfl⟩
    have hne : ws ≠ [] := List.ne_nil_of_length_pos (hlen ▸ hn)
    refine ⟨ws ++ [w], by rw [List.length_append, hlen, List.length_singleton], ?_,
      (intercalate_concat hne).symm⟩
    exact List.forall_mem_append.mpr ⟨hws, List.forall_mem_singleton.mpr hw⟩

theorem joined_two : Joined d P 2 s ↔ ∃ u, P u ∧ ∃ w, P w ∧ u ++ d :: w = s := by
  rw [joined_add_one Nat.one_pos]
  simp only [joined_one]

/-- Texts without the separator are what they are joined of. -/
theorem joined_intercalate_iff {ws : List (List Char)} (hn : 0 < n) (hd : ∀ w ∈ ws, d ∉ w)
    (hne : ws ≠ []) (hP : ∀ w, P w → d ∉ w) :
    Joined d P n (List.intercalate [d] ws) ↔ ws.length = n ∧ ∀ w ∈ ws, P w := by
  constructor
  · rintro ⟨vs, hlen, hvs, h⟩
    have hvne : vs ≠ [] := List.ne_nil_of_length_pos (hlen ▸ hn)
    have hsplit := congrArg (List.splitOn d) h
    rw [List.splitOn_intercalate d hd hne,
      List.splitOn_intercalate d (fun v hv => hP v (hvs v hv)) hvne] at hsplit
    exact hsplit ▸ ⟨hlen, hvs⟩
  · rintro ⟨hlen, hws⟩
    exact ⟨ws, hlen, hws, rfl⟩

/-- An expression, a separator and one expression more. -/
theorem mem_lang_joined (hn : 0 < n) (ha : ∀ u, u ∈ a.lang ↔ Joined d P n u)
    (hb : ∀ w, w ∈ b.lang ↔ P w) :
    s ∈ (Ere.cat (.cat a (.set [(d, d)])) b).lang ↔ Joined d P (n + 1) s := by
  rw [joined_add_one hn]
  simp only [mem_lang_cat, mem_lang_char, ha, hb]
  constructor
  · rintro ⟨_, ⟨u, hu, _, rfl, rfl⟩, w, hw, rfl⟩
    exact ⟨u, hu, w, hw, by simp⟩
  · rintro ⟨u, hu, w, hw, rfl⟩
    exact ⟨_, ⟨u, hu, _, rfl, rfl⟩, w, hw, by simp⟩

/-! ## Sets -/

theorem inRanges_cons {r : Char × Char} {c : Char} :
    InRanges (r :: ranges) c ↔ (r.1 ≤ c ∧ c ≤ r.2) ∨ InRanges ranges c :=
  List.exists_mem_cons_iff _ _ _

theorem inRanges_nil {c : Char} : ¬InRanges [] c := fun ⟨_, h, _⟩ => absurd h List.not_mem_nil

theorem inRanges_swap {r r' : Char × Char} {c : Char} :
    InRanges (r :: r' :: ranges) c ↔ InRanges (r' :: r :: ranges) c := by
  simp only [inRanges_cons]
  exact or_left_comm

theorem between_self {c d : Char} : d ≤ c ∧ c ≤ d ↔ c = d :=
  ⟨fun h => le_antisymm h.2 h.1, fun h => h ▸ ⟨le_refl _, le_refl _⟩⟩

theorem inRanges_append {ranges' : List (Char × Char)} {c : Char} :
    InRanges (ranges ++ ranges') c ↔ InRanges ranges c ∨ InRanges ranges' c := by
  simp only [InRanges, List.mem_append, or_and_right, exists_or]

/-- Ranges of one character each are the list of the characters. -/
theorem inRanges_map_self {cs : List Char} {c : Char} :
    InRanges (cs.map fun d => (d, d)) c ↔ c ∈ cs := by
  constructor
  · rintro ⟨r, hr, h⟩
    obtain ⟨d, hd, rfl⟩ := List.mem_map.mp hr
    exact between_self.mp h ▸ hd
  · exact fun h => ⟨(c, c), List.mem_map.mpr ⟨c, h, rfl⟩, le_refl c, le_refl c⟩

theorem isUpper_iff {c : Char} : c.isUpper = true ↔ 'A' ≤ c ∧ c ≤ 'Z' := by
  delta Char.isUpper
  simp [Char.le_def]

theorem isLower_iff {c : Char} : c.isLower = true ↔ 'a' ≤ c ∧ c ≤ 'z' := by
  delta Char.isLower
  simp [Char.le_def]

theorem isDigit_iff {c : Char} : c.isDigit = true ↔ '0' ≤ c ∧ c ≤ '9' := by
  simp [Char.isDigit, Char.le_def]

theorem isAlpha_iff {c : Char} :
    c.isAlpha = true ↔ ('a' ≤ c ∧ c ≤ 'z') ∨ ('A' ≤ c ∧ c ≤ 'Z') := by
  delta Char.isAlpha
  rw [Bool.or_eq_true, isUpper_iff, isLower_iff, or_comm]

theorem isAlphanum_iff {c : Char} :
    c.isAlphanum = true ↔
      ('a' ≤ c ∧ c ≤ 'z') ∨ ('A' ≤ c ∧ c ≤ 'Z') ∨ ('0' ≤ c ∧ c ≤ '9') := by
  rw [Char.isAlphanum, Bool.or_eq_true, isAlpha_iff, isDigit_iff, or_assoc]

end Posix
