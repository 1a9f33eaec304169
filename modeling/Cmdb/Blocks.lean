import Mathlib.Data.List.Basic

/-!
# Configurations of statements and blocks

A configuration is a list of statements, each closed by a semicolon, and of blocks, each with a
head and a configuration of its own in braces. A text is read in two steps : a machine that goes
from character to character makes tokens of it, and a stack of open blocks makes items of these.

* `run_append` : two texts after each other are read after each other;
* `parse_tokens` : the tokens of a configuration are read as the configuration.
-/

namespace Blocks

/-! ## Tokens -/

inductive Token
  | word (w : List Char)
  | text (s : List Char)
  | ends
  | opens
  | closes
deriving DecidableEq, Repr

/-- Between quotes or not, with the characters that are read of a word or a text. -/
inductive State
  | plain (acc : List Char)
  | quoted (acc : List Char)
deriving DecidableEq, Repr

/-- The word that is read, if it is one. -/
def flush (acc : List Char) : List Token := if acc = [] then [] else [.word acc]

/-- The token that a character is by itself. -/
def mark (c : Char) : Option Token :=
  if c = ';' then some .ends else if c = '{' then some .opens
  else if c = '}' then some .closes else none

/-- A character outside of the quotes that ends a word. -/
def Delimiter (c : Char) : Prop := c.isWhitespace = true ∨ c = '"' ∨ (mark c).isSome = true

instance (c : Char) : Decidable (Delimiter c) :=
  inferInstanceAs (Decidable (c.isWhitespace = true ∨ c = '"' ∨ (mark c).isSome = true))

def step : State → Char → State × List Token
  | .quoted acc, c => if c = '"' then (.plain [], [.text acc]) else (.quoted (acc ++ [c]), [])
  | .plain acc, c =>
    if c.isWhitespace then (.plain [], flush acc)
    else if c = '"' then (.quoted [], flush acc)
    else match mark c with
      | some t => (.plain [], flush acc ++ [t])
      | none => (.plain (acc ++ [c]), [])

/-- The state behind a text, and the tokens that it closes. -/
def run (q : State) : List Char → State × List Token
  | [] => (q, [])
  | c :: s => ((run (step q c).1 s).1, (step q c).2 ++ (run (step q c).1 s).2)

/-- The tokens of a text, unless it stops between quotes. -/
def tokens (s : List Char) : Option (List Token) :=
  match run (.plain []) s with
  | (.plain acc, ts) => some (ts ++ flush acc)
  | (.quoted _, _) => none

variable {q q' q'' : State} {s s' w acc : List Char} {ts ts' : List Token}

theorem run_append (q : State) (s s' : List Char) :
    run q (s ++ s') = ((run (run q s).1 s').1, (run q s).2 ++ (run (run q s).1 s').2) := by
  induction s generalizing q with
  | nil => rfl
  | cons c s ih => rw [List.cons_append, run, run, ih, List.append_assoc]

/-- A text leads from one state to another, with these tokens. -/
def Reads (q : State) (s : List Char) (ts : List Token) (q' : State) : Prop := run q s = (q', ts)

instance (q : State) (s : List Char) (ts : List Token) (q' : State) :
    Decidable (Reads q s ts q') := inferInstanceAs (Decidable (run q s = (q', ts)))

theorem Reads.append (h : Reads q s ts q') (h' : Reads q' s' ts' q'') :
    Reads q (s ++ s') (ts ++ ts') q'' := by
  rw [Reads] at *
  rw [run_append, h, h']

theorem Reads.cons {c : Char} (h : Reads (step q c).1 s ts q') :
    Reads q (c :: s) ((step q c).2 ++ ts) q' := by
  rw [Reads] at *
  rw [run, h]

theorem Reads.nil (q : State) : Reads q [] [] q := rfl

/-- A literal is read as its characters are. -/
theorem Reads.ofList {s : String} {l : List Char} (hs : s = String.ofList l)
    (h : Reads q l ts q') : Reads q s.toList ts q' := by
  rwa [hs, String.toList_ofList]

theorem Reads.tokens_eq (h : Reads (.plain []) s ts (.plain [])) : tokens s = some ts := by
  rw [Reads] at h
  rw [tokens, h]
  exact congrArg some (List.append_nil ts)

/-- A text that is one word. -/
structure IsName (w : List Char) : Prop where
  ne_nil : w ≠ []
  chars : ∀ c ∈ w, ¬Delimiter c

/-- The characters of one word. -/
def isNameChars (w : List Char) : Bool := !w.isEmpty && w.all fun c => !decide (Delimiter c)

theorem IsName.of_isNameChars (h : isNameChars w = true) : IsName w := by
  simp only [isNameChars, Bool.and_eq_true, Bool.not_eq_true', List.isEmpty_eq_false_iff,
    List.all_eq_true, decide_eq_false_iff_not] at h
  exact ⟨h.1, h.2⟩

theorem step_of_not_delimiter {c : Char} (h : ¬Delimiter c) (acc : List Char) :
    step (.plain acc) c = (.plain (acc ++ [c]), []) := by
  simp only [Delimiter, not_or, Bool.not_eq_true, Option.isSome_eq_false_iff,
    Option.isNone_iff_eq_none] at h
  rw [step, if_neg (by simp [h.1]), if_neg h.2.1, h.2.2]

theorem reads_chars (h : ∀ c ∈ w, ¬Delimiter c) (acc : List Char) :
    Reads (.plain acc) w [] (.plain (acc ++ w)) := by
  induction w generalizing acc with
  | nil => rw [List.append_nil]; exact .nil _
  | cons c w ih =>
    obtain ⟨hc, hw⟩ := List.forall_mem_cons.mp h
    have hrest := ih hw (acc ++ [c])
    rw [List.append_assoc, List.singleton_append] at hrest
    have hstep := step_of_not_delimiter hc acc
    have hread : Reads (step (.plain acc) c).1 w [] (.plain (acc ++ c :: w)) := by
      rw [hstep]
      exact hrest
    have hcons := hread.cons
    rwa [hstep] at hcons

/-- A character that ends a word closes the token of it. -/
theorem step_of_delimiter {c : Char} (h : Delimiter c) (hne : w ≠ []) :
    step (.plain w) c = ((step (.plain []) c).1, .word w :: (step (.plain []) c).2) := by
  have hflush : flush w = [.word w] := if_neg hne
  rw [step, step, hflush]
  split_ifs with hblank hquote
  · rfl
  · rfl
  · obtain ⟨t, ht⟩ := Option.isSome_iff_exists.mp ((h.resolve_left hblank).resolve_left hquote)
    rw [ht]
    rfl

/-- What ends a word is read as if it stood alone, behind the word. -/
theorem Reads.delimited (h : Reads (.plain []) s ts q) (hs : ∃ c ∈ s.head?, Delimiter c)
    (hw : IsName w) : Reads (.plain w) s (.word w :: ts) q := by
  obtain ⟨c, hhead, hc⟩ := hs
  obtain ⟨s', rfl⟩ := List.head?_eq_some_iff.mp hhead
  rw [Reads, run] at *
  rw [step_of_delimiter hc hw.ne_nil]
  rw [Prod.mk.injEq] at h ⊢
  exact ⟨h.1, by rw [List.cons_append, h.2]⟩

theorem IsName.reads (hw : IsName w) : Reads (.plain []) w [] (.plain w) :=
  reads_chars hw.chars []

/-- A text up to the quote that ends it. -/
theorem reads_quoted (h : '"' ∉ w) (acc : List Char) :
    Reads (.quoted acc) w [] (.quoted (acc ++ w)) := by
  induction w generalizing acc with
  | nil => rw [List.append_nil]; exact .nil _
  | cons c w ih =>
    rw [List.mem_cons, not_or] at h
    have hrest := ih h.2 (acc ++ [c])
    rw [List.append_assoc, List.singleton_append] at hrest
    have hstep : step (.quoted acc) c = (.quoted (acc ++ [c]), []) := if_neg (Ne.symm h.1)
    have hread : Reads (step (.quoted acc) c).1 w [] (.quoted (acc ++ c :: w)) := by
      rw [hstep]
      exact hrest
    have hcons := hread.cons
    rwa [hstep] at hcons

/-- A word with a text before it, and one behind it that ends it. -/
theorem Reads.thenWord {t : List Char} (h : Reads q t ts (.plain [])) (hw : IsName w)
    (hs : ∃ c ∈ s.head?, Delimiter c) (hread : Reads (.plain []) s ts' q') :
    Reads q (t ++ w ++ s) (ts ++ .word w :: ts') q' := by
  have hall := (h.append hw.reads).append (hread.delimited hs hw)
  rwa [List.append_nil] at hall

/-- A text between quotes, with what stands around it. -/
theorem Reads.thenText {t : List Char} (h : Reads q t ts (.quoted [])) (hw : '"' ∉ w)
    (hread : Reads (.quoted w) s ts' q') : Reads q (t ++ w ++ s) (ts ++ ts') q' := by
  have hall := (h.append (reads_quoted hw [])).append hread
  rwa [List.append_nil] at hall

/-! ## Items -/

inductive Item
  | statement (ts : List Token)
  | block (head : List Token) (items : List Item)

/-- The blocks that are open, from the inside : the head of each, and the items before it. -/
abbrev Stack := List (List Token × List Item)

/-- The items of the innermost block, with the tokens of the statement that is read. -/
def parseFrom (st : Stack) (items : List Item) (ts : List Token) :
    List Token → Option (List Item)
  | [] =>
    match st, ts with
    | [], [] => some items
    | _, _ => none
  | .ends :: r => parseFrom st (items ++ [.statement ts]) [] r
  | .opens :: r => parseFrom ((ts, items) :: st) [] [] r
  | .closes :: r =>
    match st, ts with
    | (head, before) :: st, [] => parseFrom st (before ++ [.block head items]) [] r
    | _, _ => none
  | t :: r => parseFrom st items (ts ++ [t]) r

def parse (ts : List Token) : Option (List Item) := parseFrom [] [] [] ts

mutual

def Item.tokens : Item → List Token
  | .statement ts => ts ++ [.ends]
  | .block head items => head ++ .opens :: (itemsTokens items ++ [.closes])

def itemsTokens : List Item → List Token
  | [] => []
  | i :: is => i.tokens ++ itemsTokens is

end

/-- Words and texts. -/
def Plain (ts : List Token) : Prop := ∀ t ∈ ts, t ≠ .ends ∧ t ≠ .opens ∧ t ≠ .closes

instance (ts : List Token) : Decidable (Plain ts) :=
  inferInstanceAs (Decidable (∀ t ∈ ts, t ≠ .ends ∧ t ≠ .opens ∧ t ≠ .closes))

mutual

/-- The statements and the heads are words and texts. -/
def Item.Clean : Item → Prop
  | .statement ts => Plain ts
  | .block head items => Plain head ∧ ItemsClean items

def ItemsClean : List Item → Prop
  | [] => True
  | i :: is => i.Clean ∧ ItemsClean is

end

@[simp] theorem plain_nil : Plain [] := nofun

@[simp] theorem plain_word_cons {w : List Char} {ts : List Token} :
    Plain (.word w :: ts) ↔ Plain ts := by simp [Plain]

@[simp] theorem plain_text_cons {s : List Char} {ts : List Token} :
    Plain (.text s :: ts) ↔ Plain ts := by simp [Plain]

@[simp] theorem itemsClean_nil : ItemsClean [] := trivial

@[simp] theorem itemsClean_cons {i : Item} {is : List Item} :
    ItemsClean (i :: is) ↔ i.Clean ∧ ItemsClean is := Iff.rfl

@[simp] theorem clean_statement {ts : List Token} : (Item.statement ts).Clean ↔ Plain ts := Iff.rfl

@[simp] theorem clean_block {head : List Token} {is : List Item} :
    (Item.block head is).Clean ↔ Plain head ∧ ItemsClean is := Iff.rfl

theorem parseFrom_plain {us : List Token} (h : Plain us) (st : Stack) (items : List Item)
    (ts r : List Token) : parseFrom st items ts (us ++ r) = parseFrom st items (ts ++ us) r := by
  induction us generalizing ts with
  | nil => rw [List.nil_append, List.append_nil]
  | cons t us ih =>
    obtain ⟨ht, hus⟩ := List.forall_mem_cons.mp h
    have hrest := ih hus (ts ++ [t])
    rw [List.append_assoc, List.singleton_append] at hrest
    rw [List.cons_append, parseFrom, hrest]
    · exact ht.1
    · exact ht.2.1
    · exact ht.2.2

mutual

theorem parseFrom_tokens : ∀ (i : Item), i.Clean → ∀ (st : Stack) (items : List Item)
    (r : List Token), parseFrom st items [] (i.tokens ++ r) = parseFrom st (items ++ [i]) [] r
  | .statement ts, h, st, items, r => by
    rw [Item.tokens, List.append_assoc, parseFrom_plain h, List.nil_append]
    rfl
  | .block head is, ⟨hhead, his⟩, st, items, r => by
    rw [Item.tokens, List.append_assoc, parseFrom_plain hhead, List.nil_append,
      List.cons_append, List.append_assoc, parseFrom, parseFrom_itemsTokens is his]
    rfl

/-- The items of a block are read one after the other. -/
theorem parseFrom_itemsTokens : ∀ (is : List Item), ItemsClean is → ∀ (st : Stack)
    (items : List Item) (r : List Token),
      parseFrom st items [] (itemsTokens is ++ r) = parseFrom st (items ++ is) [] r
  | [], _, st, items, r => by rw [itemsTokens, List.nil_append, List.append_nil]
  | i :: is, ⟨hi, his⟩, st, items, r => by
    rw [itemsTokens, List.append_assoc, parseFrom_tokens i hi, parseFrom_itemsTokens is his,
      List.append_assoc, List.singleton_append]

end

/-- A configuration is read back. -/
theorem parse_tokens {is : List Item} (h : ItemsClean is) : parse (itemsTokens is) = some is := by
  have hread := parseFrom_itemsTokens is h [] [] []
  rwa [List.append_nil, List.nil_append] at hread

/-! ## What a block says -/

/-- A literal as a word. -/
def word (s : String) : Token := .word s.toList

@[simp] theorem word_inj {s t : String} : word s = word t ↔ s = t := by
  rw [word, word, Token.word.injEq, String.toList_inj]

@[simp] theorem plain_literal_cons {s : String} {ts : List Token} :
    Plain (word s :: ts) ↔ Plain ts := plain_word_cons

/-- What a statement has behind its first words. -/
def Item.behind (key : List String) : Item → Option (List Token)
  | .statement ts =>
    if key.map word <+: ts then some (ts.drop key.length) else none
  | .block _ _ => none

@[simp] theorem behind_block (key : List String) (head : List Token) (items : List Item) :
    Item.behind key (.block head items) = none := rfl

/-- The word behind the only statement with these first words. -/
def wordOf (key : List String) (items : List Item) : Option (List Char) :=
  match items.filterMap (Item.behind key) with
  | [[.word w]] => some w
  | _ => none

/-- The text behind the only statement with these first words. -/
def textOf (key : List String) (items : List Item) : Option (List Char) :=
  match items.filterMap (Item.behind key) with
  | [[.text s]] => some s
  | _ => none

/-- The only block of a configuration. -/
def theBlock (items : List Item) : Option (List Token × List Item) :=
  match items.filterMap fun | .block head inner => some (head, inner) | .statement _ => none with
  | [b] => some b
  | _ => none

/-- The configuration of a text. -/
def readItems (s : List Char) : Option (List Item) := (tokens s).bind parse

/-- A text that is written item by item is read as the items. -/
theorem readItems_flatMap {α : Type} {line : α → List Char} {item : α → Item} {as : List α}
    (h : ∀ a ∈ as, Reads (.plain []) (line a) (item a).tokens (.plain []))
    (hclean : ∀ a ∈ as, (item a).Clean) : readItems (as.flatMap line) = some (as.map item) := by
  have hread : Reads (.plain []) (as.flatMap line) (itemsTokens (as.map item)) (.plain []) := by
    induction as with
    | nil => exact .nil _
    | cons a as ih =>
      rw [List.forall_mem_cons] at h hclean
      exact h.1.append (ih h.2 hclean.2)
  have hitems : ItemsClean (as.map item) := by
    clear h hread
    induction as with
    | nil => exact trivial
    | cons a as ih =>
      rw [List.forall_mem_cons] at hclean
      exact ⟨hclean.1, ih hclean.2⟩
  rw [readItems, hread.tokens_eq, Option.bind_some, parse_tokens hitems]

/-- What the items of a text stand for. -/
def readAll {β : Type} (read : Item → Option β) (s : List Char) : Option (List β) :=
  (readItems s).bind (·.mapM read)

theorem readAll_flatMap {α β : Type} {line : α → List Char} {item : α → Item} {meaning : α → β}
    {read : Item → Option β} {as : List α}
    (h : ∀ a ∈ as, Reads (.plain []) (line a) (item a).tokens (.plain []))
    (hclean : ∀ a ∈ as, (item a).Clean) (hread : ∀ a ∈ as, read (item a) = some (meaning a)) :
    readAll read (as.flatMap line) = some (as.map meaning) := by
  rw [readAll, readItems_flatMap h hclean, Option.bind_some]
  clear h hclean
  induction as with
  | nil => rfl
  | cons a as ih =>
    obtain ⟨ha, has⟩ := List.forall_mem_cons.mp hread
    rw [List.map_cons, List.mapM_cons, ha, ih has]
    rfl

end Blocks
