import Cmdb.Words

/-!
# Files of answers

A file of answers for the installer of Debian has one answer a line : the owner of a question,
its name, its type, and the value up to the end of the line. A line that ends with a backslash
goes on in the next one, and a line that starts with `#` is a comment. A program writes such a
file line by line (`Line`).

* `answersFrom_text` : the answers of a text are those of its lines, joined where a line goes on;
* `readAnswer_line` : a clean answer is read as it was written.
-/

namespace Debconf

open Words

variable {acc l s t : List Char} {sep : Char}

/-! ## Lines -/

/-- The lines, where one that ends with a backslash is joined with the next. `acc` is the line
that is read. -/
def joinFrom (acc : List Char) : List (List Char) → List (List Char)
  | [] => [acc]
  | l :: ls =>
    if acc.getLast? = some '\\' then joinFrom (acc.dropLast ++ l) ls else acc :: joinFrom l ls

/-- The joined lines of a text whose first line goes on after `acc`. -/
def logicalFrom (acc s : List Char) : List (List Char) :=
  match s.splitOn '\n' with
  | [] => [acc]
  | l :: ls => joinFrom (acc ++ l) ls

theorem logicalFrom_nil (acc : List Char) : logicalFrom acc [] = [acc] := by
  rw [logicalFrom, List.splitOn_nil]
  exact congrArg ([·]) (List.append_nil acc)

theorem logicalFrom_line (hl : '\n' ∉ l) (hend : (acc ++ l).getLast? ≠ some '\\')
    (t : List Char) : logicalFrom acc (l ++ '\n' :: t) = (acc ++ l) :: logicalFrom [] t := by
  rw [logicalFrom, List.splitOn_append_cons_self_of_not_mem hl, logicalFrom]
  cases ht : t.splitOn '\n' with
  | nil => exact absurd ht (List.splitOn_ne_nil _ _)
  | cons m ms => exact if_neg hend

theorem logicalFrom_continued (hl : '\n' ∉ l) (t : List Char) :
    logicalFrom acc (l ++ '\\' :: '\n' :: t) = logicalFrom (acc ++ l) t := by
  have hl' : '\n' ∉ l ++ ['\\'] := by simp [hl]
  have happend : l ++ '\\' :: '\n' :: t = (l ++ ['\\']) ++ '\n' :: t := by simp
  rw [logicalFrom, happend, List.splitOn_append_cons_self_of_not_mem hl', logicalFrom]
  cases ht : t.splitOn '\n' with
  | nil => exact absurd ht (List.splitOn_ne_nil _ _)
  | cons m ms =>
    have hlast : (acc ++ (l ++ ['\\'])).getLast? = some '\\' := by simp
    have hdrop : (acc ++ (l ++ ['\\'])).dropLast = acc ++ l := by
      rw [← List.append_assoc, List.dropLast_concat]
    simp only [joinFrom, if_pos hlast, hdrop]

/-- A text that stands at the end of a line : it is one line, and does not join it with the next. -/
def OneLine (s : List Char) : Prop := '\n' ∉ s ∧ s.getLast? ≠ some '\\'

instance (s : List Char) : Decidable (OneLine s) :=
  inferInstanceAs (Decidable ('\n' ∉ s ∧ s.getLast? ≠ some '\\'))

/-- The characters of a text that ends its line. -/
def oneLineChars (l : List Char) : Bool := l.all fun c => c != '\n' && c != '\\'

theorem OneLine.ofList {s : String} (hs : s = String.ofList l) (h : oneLineChars l = true) :
    OneLine s.toList := by
  simp only [oneLineChars, List.all_eq_true, Bool.and_eq_true, bne_iff_ne] at h
  rw [hs, String.toList_ofList]
  exact ⟨fun hmem => (h _ hmem).1 rfl, fun hlast => (h _ (List.mem_of_getLast? hlast)).2 rfl⟩

/-- A line as it is written : one that ends, or one that goes on. -/
inductive Line
  | plain (l : List Char)
  | continued (l : List Char)
deriving DecidableEq, Repr

namespace Line

def body : Line → List Char
  | plain l => l
  | continued l => l

def text : Line → List Char
  | plain l => l ++ ['\n']
  | continued l => l ++ ['\\', '\n']

/-- What is written of the line does not end or join it. -/
def Clean (l : Line) : Prop := OneLine l.body

end Line

/-! ## Answers -/

structure Answer where
  owner : List Char
  question : List Char
  type : List Char
  value : List Char
deriving DecidableEq, Repr

/-- The answer on a line. -/
def readAnswer (line : List Char) : Option Answer :=
  let (owner, s) := nextWord Char.isWhitespace line
  let (question, s) := nextWord Char.isWhitespace s
  let (type, s) := nextWord Char.isWhitespace s
  if owner = [] ∨ owner.head? = some '#' ∨ question = [] ∨ type = [] then none
  else some ⟨owner, question, type, s.drop 1⟩

/-- The answers of a text whose first line goes on after `acc`. -/
def answersFrom (acc s : List Char) : List Answer := (logicalFrom acc s).filterMap readAnswer

/-- The answers of a file. -/
def answers (s : List Char) : List Answer := answersFrom [] s

/-- The answers of the lines, the first of which goes on after `acc`. -/
def readFrom (acc : List Char) : List Line → List Answer
  | [] => (readAnswer acc).toList
  | .plain l :: ls => (readAnswer (acc ++ l)).toList ++ readFrom [] ls
  | .continued l :: ls => readFrom (acc ++ l) ls

theorem readAnswer_nil : readAnswer [] = none := rfl

/-- The values a question is answered with. -/
def values (question : List Char) (as : List Answer) : List (List Char) :=
  (as.filter (·.question = question)).map Answer.value

theorem getLast?_append_ne (hacc : acc.getLast? ≠ some '\\') (hl : l.getLast? ≠ some '\\') :
    (acc ++ l).getLast? ≠ some '\\' := by
  rw [List.getLast?_append]
  cases h : l.getLast? with
  | none => exact hacc
  | some c => rwa [h] at hl

theorem OneLine.append (hacc : OneLine acc) (hl : OneLine l) : OneLine (acc ++ l) :=
  ⟨List.not_mem_append hacc.1 hl.1, getLast?_append_ne hacc.2 hl.2⟩

/-- The answers of a text are those of the lines it was written in. -/
theorem answersFrom_text {ls : List Line} (hclean : ∀ l ∈ ls, l.Clean)
    (hacc : acc.getLast? ≠ some '\\') :
    answersFrom acc (ls.flatMap Line.text) = readFrom acc ls := by
  induction ls generalizing acc with
  | nil =>
    rw [List.flatMap_nil, answersFrom, logicalFrom_nil, readFrom]
    cases h : readAnswer acc <;> simp [h]
  | cons l ls ih =>
    obtain ⟨hl, hls⟩ := List.forall_mem_cons.mp hclean
    cases l with
    | plain l =>
      obtain ⟨hnewline, hend⟩ : '\n' ∉ l ∧ l.getLast? ≠ some '\\' := hl
      have happend := getLast?_append_ne hacc hend
      have htext : (Line.plain l :: ls).flatMap Line.text =
          l ++ '\n' :: ls.flatMap Line.text := by simp [Line.text]
      have hrest : answersFrom [] (ls.flatMap Line.text) = readFrom [] ls := ih hls nofun
      rw [htext, answersFrom, logicalFrom_line hnewline happend, readFrom, ← hrest]
      cases h : readAnswer (acc ++ l) <;> simp [h, answersFrom]
    | continued l =>
      obtain ⟨hnewline, hend⟩ : '\n' ∉ l ∧ l.getLast? ≠ some '\\' := hl
      have happend := getLast?_append_ne hacc hend
      have htext : (Line.continued l :: ls).flatMap Line.text =
          l ++ '\\' :: '\n' :: ls.flatMap Line.text := by simp [Line.text]
      rw [htext, answersFrom, logicalFrom_continued hnewline, readFrom, ← ih hls happend]
      rfl

theorem answers_text {ls : List Line} (hclean : ∀ l ∈ ls, l.Clean) :
    answers (ls.flatMap Line.text) = readFrom [] ls := answersFrom_text hclean nofun

theorem readFrom_continued (acc : List Char) (bodies : List (List Char)) (ls : List Line) :
    readFrom acc (bodies.map Line.continued ++ ls) = readFrom (acc ++ bodies.flatten) ls := by
  induction bodies generalizing acc with
  | nil => simp
  | cons b bodies ih =>
    rw [List.map_cons, List.cons_append, readFrom, ih, List.flatten_cons, List.append_assoc]

/-- What follows a line that ends is read by itself. -/
theorem readFrom_append (b : List Char) (ls ls' : List Line) (acc : List Char) :
    readFrom acc (ls ++ .plain b :: ls') =
      readFrom acc (ls ++ [.plain b]) ++ readFrom [] ls' := by
  induction ls generalizing acc with
  | nil => simp [readFrom, readAnswer_nil]
  | cons l ls ih =>
    cases l with
    | plain l => rw [List.cons_append, readFrom, ih, List.cons_append, readFrom, List.append_assoc]
    | continued l => exact ih (acc ++ l)

namespace Answer

/-- The line up to the value, the words apart by `sep`. -/
def bare (sep : Char) (a : Answer) : List Char := a.owner ++ sep :: (a.question ++ sep :: a.type)

/-- The line of an answer with a value. -/
def line (sep : Char) (a : Answer) : List Char := a.bare sep ++ sep :: a.value

/-- The words of the answer are words, and the line is not a comment. -/
structure Clean (a : Answer) : Prop where
  owner : IsWord Char.isWhitespace a.owner
  not_comment : a.owner.head? ≠ some '#'
  question : IsWord Char.isWhitespace a.question
  type : IsWord Char.isWhitespace a.type

end Answer

namespace Answer.Clean

variable {a : Answer}

theorem readAnswer_bare (h : a.Clean) (hsep : sep.isWhitespace = true)
    (ht : ∀ b ∈ t.head?, b.isWhitespace = true) :
    readAnswer (a.bare sep ++ t) = some { a with value := t.drop 1 } := by
  have hne : ¬(a.owner = [] ∨ a.owner.head? = some '#' ∨ a.question = [] ∨ a.type = []) := by
    simp [h.owner.ne_nil, h.not_comment, h.question.ne_nil, h.type.ne_nil]
  have htext : a.bare sep ++ t = a.owner ++ sep :: (a.question ++ sep :: (a.type ++ t)) := by
    simp [bare]
  rw [readAnswer, htext, h.owner.nextWord_append_cons hsep]
  simp only [nextWord_cons hsep, h.question.nextWord_append_cons hsep,
    h.type.nextWord_append ht, if_neg hne]

theorem readAnswer_line (h : a.Clean) (hsep : sep.isWhitespace = true) :
    readAnswer (a.line sep) = some a := by
  have hhead : ∀ b ∈ (sep :: a.value).head?, b.isWhitespace = true := by simpa using hsep
  rw [line, h.readAnswer_bare hsep hhead]
  rfl

theorem newline_notMem_bare (h : a.Clean) (hsep : sep ≠ '\n') : '\n' ∉ a.bare sep := by
  have hword : ∀ {w : List Char}, IsWord Char.isWhitespace w → '\n' ∉ w :=
    fun hw hmem => absurd (hw.chars _ hmem) (by decide)
  simp [bare, hword h.owner, hword h.question, hword h.type, hsep.symm]

theorem clean_line (h : a.Clean) (hsep : sep = ' ' ∨ sep = '\t') (hvalue : OneLine a.value) :
    (Line.plain (a.line sep)).Clean := by
  have hne : sep ≠ '\n' ∧ sep ≠ '\\' := by
    rcases hsep with rfl | rfl <;> decide
  constructor
  · simp [Line.body, line, h.newline_notMem_bare hne.1, hvalue.1, hne.1.symm]
  · rw [Line.body, line, List.getLast?_append_cons, List.getLast?_cons]
    cases hlast : a.value.getLast? with
    | none => exact fun hc => hne.2 (Option.some.inj hc)
    | some c => exact fun hc => hvalue.2 (hlast.trans hc)

end Answer.Clean

/-! ## Parts of a file -/

/-- The lines are lines of a file, and wherever they stand they are read as these answers. -/
structure Reads (ls : List Line) (as : List Answer) : Prop where
  clean : ∀ l ∈ ls, l.Clean
  reads : ∀ ls', readFrom [] (ls ++ ls') = as ++ readFrom [] ls'

namespace Reads

variable {a : Answer} {as as' : List Answer} {ls ls' : List Line}

theorem nil : Reads [] [] := ⟨nofun, fun _ => rfl⟩

theorem append (h : Reads ls as) (h' : Reads ls' as') : Reads (ls ++ ls') (as ++ as') where
  clean := List.forall_mem_append.mpr ⟨h.clean, h'.clean⟩
  reads ls'' := by rw [List.append_assoc, h.reads, h'.reads, List.append_assoc]

theorem cons {l : Line} (h : Reads [l] as) (h' : Reads ls as') : Reads (l :: ls) (as ++ as') :=
  h.append h'

theorem map {ι : Type*} {f : ι → Line} {g : ι → Answer} {l : List ι}
    (h : ∀ i ∈ l, Reads [f i] [g i]) : Reads (l.map f) (l.map g) := by
  induction l with
  | nil => exact nil
  | cons i l ih =>
    obtain ⟨hi, hl⟩ := List.forall_mem_cons.mp h
    exact hi.cons (ih hl)

theorem blank : Reads [.plain []] [] where
  clean := List.forall_mem_singleton.mpr ⟨nofun, nofun⟩
  reads _ := rfl

/-- Lines that end with one that does not go on. -/
theorem of_readFrom {l : List Char} (hclean : ∀ b ∈ ls ++ [.plain l], b.Clean)
    (h : readFrom [] (ls ++ [.plain l]) = as) : Reads (ls ++ [.plain l]) as where
  clean := hclean
  reads ls' := by
    rw [List.append_assoc, List.singleton_append, readFrom_append, h]

theorem line (h : a.Clean) (hsep : sep = ' ' ∨ sep = '\t') (hvalue : OneLine a.value) :
    Reads [.plain (a.line sep)] [a] where
  clean := List.forall_mem_singleton.mpr (h.clean_line hsep hvalue)
  reads _ := by
    have hblank : sep.isWhitespace = true := by rcases hsep with rfl | rfl <;> rfl
    rw [List.singleton_append, readFrom, List.nil_append, h.readAnswer_line hblank]
    rfl

/-- A line that ends with the type, or goes on with blanks. -/
theorem bare {t : List Char} (h : a.Clean) (hsep : sep = ' ' ∨ sep = '\t')
    (htype : a.type.getLast? ≠ some '\\') (ht : ∀ b ∈ t.head?, b.isWhitespace = true)
    (hvalue : OneLine t) : Reads [.plain (a.bare sep ++ t)] [{ a with value := t.drop 1 }] where
  clean := by
    have hne : sep ≠ '\n' := by rcases hsep with rfl | rfl <;> decide
    have hlast : (a.bare sep).getLast? ≠ some '\\' := by
      have hbare : a.bare sep = a.owner ++ sep :: a.question ++ [sep] ++ a.type := by
        simp [Answer.bare]
      have hsep' : (a.owner ++ sep :: a.question ++ [sep]).getLast? ≠ some '\\' := by
        rw [List.getLast?_concat]
        rcases hsep with rfl | rfl <;> decide
      rw [hbare]
      exact getLast?_append_ne hsep' htype
    refine List.forall_mem_singleton.mpr ⟨?_, getLast?_append_ne hlast hvalue.2⟩
    rw [Line.body, List.mem_append, not_or]
    exact ⟨h.newline_notMem_bare hne, hvalue.1⟩
  reads _ := by
    have hblank : sep.isWhitespace = true := by rcases hsep with rfl | rfl <;> rfl
    rw [List.singleton_append, readFrom, List.nil_append, h.readAnswer_bare hblank ht]
    rfl

/-- The file is read as the answers of its parts. -/
theorem answers_text (h : Reads ls as) : answers (ls.flatMap Line.text) = as := by
  have hreads := h.reads []
  rw [List.append_nil, readFrom, readAnswer_nil, Option.toList_none, List.append_nil] at hreads
  rw [Debconf.answers_text h.clean, hreads]

end Reads

/-- A question that is asked once has the value of its answer. -/
theorem values_of_nodup {a : Answer} {as : List Answer} (hnodup : (as.map Answer.question).Nodup)
    (h : a ∈ as) : values a.question as = [a.value] := by
  induction as with
  | nil => nomatch h
  | cons b as ih =>
    obtain ⟨hb, has⟩ := List.nodup_cons.mp hnodup
    rw [values, List.filter_cons]
    rcases List.mem_cons.mp h with rfl | h
    · have hnone : as.filter (fun b => b.question = a.question) = [] :=
        List.filter_eq_nil_iff.mpr fun b hmem heq =>
          hb (of_decide_eq_true heq ▸ List.mem_map_of_mem hmem)
      rw [if_pos (decide_eq_true rfl), hnone]
      rfl
    · have hne : b.question ≠ a.question := fun heq => hb (heq ▸ List.mem_map_of_mem h)
      rw [if_neg (by simpa using hne)]
      exact ih has h

end Debconf
