import Cmdb.Words

/-!
# Kickstart files

A kickstart file has its commands first, one a line, and then sections that start with `%`. A
command has a name and arguments, and some of them are options with a value (`--size=512`).

* `readPartition` : the partition that a command asks for;
* `commands_append` : the commands before the first section are read one after the other;
* `optionOf_cons_self`, `optionOf_cons_quoted` : an option has the value it was written with.
-/

namespace Kickstart

open Words

/-- A word. -/
abbrev Word := List Char

variable {key v w : Word} {args : List Word} {ls : List (List Char)}

/-- The words of the commands : the lines up to the first section. -/
def commands (ls : List (List Char)) : List (List Word) :=
  (ls.takeWhile fun l => l.head? ≠ some '%').map (words Char.isWhitespace)

/-- The value of an option, without its quotes. -/
def optionOf (key : Word) (args : List Word) : Option Word :=
  args.findSome? fun w =>
    if (key ++ ['=']).isPrefixOf w then some ((w.drop (key.length + 1)).filter (· ≠ '"')) else none

/-- What a command asks for : a file system on a mount point, and the volume it is on. -/
structure Partition where
  mount : Word
  fs : Word
  size : ℕ
  volume : Option Word
deriving DecidableEq, Repr

/-- The partition that a command asks for. -/
def readPartition : List Word → Option Partition
  | name :: mount :: args => do
    if name = "part".toList ∨ name = "logvol".toList then
      let fs ← optionOf "--fstype".toList args
      let size ← (optionOf "--size".toList args).bind readNat
      some ⟨mount, fs, size, optionOf "--name".toList args⟩
    else none
  | _ => none

/-- The partitions of a file. -/
def partitions (ls : List (List Char)) : List Partition := (commands ls).filterMap readPartition

/-- The packages of the section `%packages`, without the groups. -/
def packages (ls : List (List Char)) : List Word :=
  (((ls.dropWhile (· ≠ "%packages".toList)).drop 1).takeWhile (· ≠ "%end".toList)).filter fun l =>
    l ≠ [] ∧ l.head? ≠ some '@'

/-- Lines before the first section are commands. -/
theorem commands_append (h : ∀ l ∈ ls, l.head? ≠ some '%') (ls' : List (List Char)) :
    commands (ls ++ ls') = ls.map (words Char.isWhitespace) ++ commands ls' := by
  rw [commands, List.takeWhile_append_of_pos fun l hl => decide_eq_true (h l hl), List.map_append,
    commands]

theorem partitions_append (h : ∀ l ∈ ls, l.head? ≠ some '%') (ls' : List (List Char)) :
    partitions (ls ++ ls') =
      ls.filterMap (fun l => readPartition (words Char.isWhitespace l)) ++ partitions ls' := by
  rw [partitions, commands_append h, List.filterMap_append, List.filterMap_map, partitions]
  rfl

theorem words_name {name : Word} {s : List Char} (h : IsWord Char.isWhitespace name)
    (hs : ∀ b ∈ s.head?, b.isWhitespace = true) :
    words Char.isWhitespace (name ++ s) = name :: words Char.isWhitespace s := by
  cases s with
  | nil => rw [List.append_nil, h.words_eq, words_nil]
  | cons b s => rw [h.words_append_cons (hs b rfl), words_cons (hs b rfl)]

/-- There are no commands from the first section on. -/
theorem commands_section {l : List Char} (h : l.head? = some '%') (ls : List (List Char)) :
    commands (l :: ls) = [] := by
  rw [commands, List.takeWhile_cons_of_neg (by simpa using h)]
  rfl

theorem partitions_section {l : List Char} (h : l.head? = some '%') (ls : List (List Char)) :
    partitions (l :: ls) = [] := by
  rw [partitions, commands_section h, List.filterMap_nil]

/-- Other commands are no partitions. -/
theorem readPartition_of_ne {name : Word} (h : IsWord Char.isWhitespace name)
    (hpart : name ≠ "part".toList) (hlogvol : name ≠ "logvol".toList)
    {s : List Char} (hs : ∀ b ∈ s.head?, b.isWhitespace = true) :
    readPartition (words Char.isWhitespace (name ++ s)) = none := by
  rw [words_name h hs]
  cases words Char.isWhitespace s with
  | nil => rfl
  | cons mount args => rw [readPartition, if_neg (not_or.mpr ⟨hpart, hlogvol⟩)]

theorem optionOf_nil (key : Word) : optionOf key [] = none := rfl

theorem optionOf_cons (key w : Word) (args : List Word) :
    optionOf key (w :: args) = if (key ++ ['=']).isPrefixOf w
      then some ((w.drop (key.length + 1)).filter (· ≠ '"')) else optionOf key args := by
  rw [optionOf, List.findSome?_cons]
  split_ifs <;> rfl

theorem optionOf_cons_self (h : '"' ∉ v) (key : Word) (args : List Word) :
    optionOf key ((key ++ '=' :: v) :: args) = some v := by
  have hdrop : (key ++ '=' :: v).drop (key.length + 1) = v := by
    rw [← List.drop_drop]
    simp
  have hfilter : v.filter (· ≠ '"') = v := by
    rw [List.filter_eq_self]
    exact fun c hc => decide_eq_true fun heq => h (heq ▸ hc)
  have hprefix : (key ++ ['=']).isPrefixOf (key ++ '=' :: v) = true := by
    rw [List.isPrefixOf_iff_prefix]
    exact ⟨v, by simp⟩
  rw [optionOf_cons, if_pos hprefix, hdrop, hfilter]

theorem optionOf_cons_quoted (h : '"' ∉ v) (key : Word) (args : List Word) :
    optionOf key ((key ++ '=' :: '"' :: (v ++ ['"'])) :: args) = some v := by
  have hdrop : (key ++ '=' :: '"' :: (v ++ ['"'])).drop (key.length + 1) = '"' :: (v ++ ['"']) := by
    rw [← List.drop_drop]
    simp
  have hfilter : ('"' :: (v ++ ['"'])).filter (· ≠ '"') = v := by
    have hv : v.filter (· ≠ '"') = v := by
      rw [List.filter_eq_self]
      exact fun c hc => decide_eq_true fun heq => h (heq ▸ hc)
    simpa using hv
  have hprefix : (key ++ ['=']).isPrefixOf (key ++ '=' :: '"' :: (v ++ ['"'])) = true := by
    rw [List.isPrefixOf_iff_prefix]
    exact ⟨'"' :: (v ++ ['"']), by simp⟩
  rw [optionOf_cons, if_pos hprefix, hdrop, hfilter]

/-! ## Tables of commands -/

/-- The arguments of the commands of one name. -/
def argumentsOf (name : Word) (cs : List (List Word)) : List (List Word) :=
  cs.filterMap fun c => if c.head? = some name then some c.tail else none

/-- The arguments of a command that is there once. -/
def theCommand (name : Word) (cs : List (List Word)) : Option (List Word) :=
  match argumentsOf name cs with
  | [args] => some args
  | _ => none

/-- Names of commands with what follows them on their lines. -/
abbrev Table := List (String × List Char)

/-- The lines of a table. -/
def Table.lines (t : Table) : List (List Char) := t.map fun c => c.1.toList ++ c.2

/-- The names are words, and the lines are commands. -/
def Table.Clean (t : Table) : Prop :=
  ∀ c ∈ t, (IsWord Char.isWhitespace c.1.toList ∧ c.1.toList.head? ≠ some '%' ∧ '\n' ∉ c.2) ∧
    ∀ b ∈ c.2.head?, b.isWhitespace = true

variable {t : Table} {cs cs' : List (List Word)} {name : Word}

theorem argumentsOf_append (name : Word) (cs cs' : List (List Word)) :
    argumentsOf name (cs ++ cs') = argumentsOf name cs ++ argumentsOf name cs' :=
  List.filterMap_append

theorem argumentsOf_eq_nil (h : ∀ c ∈ cs, c.head? ≠ some name) : argumentsOf name cs = [] :=
  List.filterMap_eq_nil_iff.mpr fun c hc => if_neg (h c hc)

theorem argumentsOf_cons (key name : Word) (args : List Word) (cs : List (List Word)) :
    argumentsOf key ((name :: args) :: cs) =
      if name = key then args :: argumentsOf key cs else argumentsOf key cs := by
  rw [argumentsOf, List.filterMap_cons, List.head?_cons, List.tail_cons]
  by_cases h : name = key
  · rw [if_pos h, if_pos (congrArg some h)]
    rfl
  · rw [if_neg h, if_neg fun heq => h (Option.some.inj heq)]
    rfl

/-- The names of a table that are not looked for. -/
theorem argumentsOf_lines_of_notMem {s : String} (hclean : t.Clean) (h : s ∉ t.map Prod.fst) :
    argumentsOf s.toList (t.lines.map (words Char.isWhitespace)) = [] := by
  refine argumentsOf_eq_nil (List.forall_mem_map.mpr (List.forall_mem_map.mpr fun c hc => ?_))
  rw [words_name (hclean c hc).1.1 (hclean c hc).2, List.head?_cons]
  exact fun heq => h (String.toList_inj.mp (Option.some.inj heq) ▸ List.mem_map_of_mem hc)

/-- A command of a table that has its name once. -/
theorem argumentsOf_lines {c : String × List Char} (hclean : t.Clean)
    (hnodup : (t.map Prod.fst).Nodup) (hc : c ∈ t) :
    argumentsOf c.1.toList (t.lines.map (words Char.isWhitespace)) =
      [words Char.isWhitespace c.2] := by
  induction t with
  | nil => nomatch hc
  | cons d t ih =>
    have ht : Table.Clean t := fun c hc => hclean c (.tail _ hc)
    obtain ⟨⟨hname, -⟩, hblank⟩ := hclean d (.head _)
    rw [List.map_cons, List.nodup_cons] at hnodup
    rw [Table.lines, List.map_cons, List.map_cons, words_name hname hblank, argumentsOf_cons]
    rcases List.mem_cons.mp hc with rfl | hc
    · rw [if_pos rfl]
      exact congrArg _ (argumentsOf_lines_of_notMem ht hnodup.1)
    · have hne : d.1.toList ≠ c.1.toList := fun heq =>
        hnodup.1 (String.toList_inj.mp heq ▸ List.mem_map_of_mem hc)
      rw [if_neg hne]
      exact ih ht hnodup.2 hc

/-! ## Options -/

/-- Options as they are written. -/
def optionWords (os : List (String × List Char)) : List Word :=
  os.map fun o => o.1.toList ++ '=' :: o.2

theorem isWord_optionWords {os : List (String × List Char)}
    (h : ∀ o ∈ os, IsWord Char.isWhitespace o.1.toList ∧ ∀ c ∈ o.2, c.isWhitespace = false) :
    ∀ w ∈ optionWords os, IsWord Char.isWhitespace w :=
  List.forall_mem_map.mpr fun o ho =>
    (h o ho).1.append (List.forall_mem_cons.mpr ⟨rfl, (h o ho).2⟩)

theorem isPrefixOf_option {k k' v : Word} (hk : '=' ∉ k) (hk' : '=' ∉ k') :
    (k ++ ['=']).isPrefixOf (k' ++ '=' :: v) = true ↔ k = k' := by
  rw [List.isPrefixOf_iff_prefix]
  constructor
  · rintro ⟨t, ht⟩
    rw [List.append_assoc, List.singleton_append] at ht
    have htake := congrArg (List.takeWhile fun c => c ≠ '=') ht
    have hall : ∀ {w : Word}, '=' ∉ w → ∀ c ∈ w, decide (c ≠ '=') = true :=
      fun hw c hc => decide_eq_true fun heq => hw (heq ▸ hc)
    rwa [List.takeWhile_append_of_pos (hall hk), List.takeWhile_append_of_pos (hall hk'),
      List.takeWhile_cons_of_neg (by simp), List.takeWhile_cons_of_neg (by simp),
      List.append_nil, List.append_nil] at htake
  · rintro rfl
    exact ⟨v, by simp⟩

/-- An option that is there once has its value. -/
theorem optionOf_optionWords {os : List (String × List Char)} {o : String × List Char}
    (h : ∀ o ∈ os, '=' ∉ o.1.toList ∧ '"' ∉ o.2) (hnodup : (os.map Prod.fst).Nodup)
    (ho : o ∈ os) : optionOf o.1.toList (optionWords os) = some o.2 := by
  induction os with
  | nil => nomatch ho
  | cons p os ih =>
    obtain ⟨hp, hos⟩ := List.forall_mem_cons.mp h
    rw [List.map_cons, List.nodup_cons] at hnodup
    rw [optionWords, List.map_cons]
    rcases List.mem_cons.mp ho with rfl | ho
    · exact optionOf_cons_self hp.2 o.1.toList _
    · have hne : p.1.toList ≠ o.1.toList := fun heq =>
        hnodup.1 (String.toList_inj.mp heq ▸ List.mem_map_of_mem ho)
      rw [optionOf_cons, if_neg fun hpre =>
        hne ((isPrefixOf_option (hos o ho).1 hp.1).mp hpre).symm]
      exact ih hos hnodup.2 ho

theorem optionOf_append (key : Word) (ws ws' : List Word) :
    optionOf key (ws ++ ws') = (optionOf key ws).or (optionOf key ws') := List.findSome?_append

theorem optionOf_eq_none (h : ∀ w ∈ args, ¬(key ++ ['=']).isPrefixOf w) :
    optionOf key args = none :=
  List.findSome?_eq_none_iff.mpr fun w hw => if_neg (h w hw)

/-! ## Packages -/

/-- The packages between the start of their section and its end. -/
theorem packages_section {pre body : List (List Char)} (hpre : ∀ l ∈ pre, l ≠ "%packages".toList)
    (hbody : ∀ l ∈ body, l ≠ "%end".toList) (rest : List (List Char)) :
    packages (pre ++ "%packages".toList :: (body ++ "%end".toList :: rest)) =
      body.filter fun l => l ≠ [] ∧ l.head? ≠ some '@' := by
  have hdrop : (pre ++ "%packages".toList :: (body ++ "%end".toList :: rest)).dropWhile
      (· ≠ "%packages".toList) = "%packages".toList :: (body ++ "%end".toList :: rest) := by
    rw [List.dropWhile_append_of_pos fun l hl => decide_eq_true (hpre l hl),
      List.dropWhile_cons_of_neg (by simp)]
  have htake : (body ++ "%end".toList :: rest).takeWhile (· ≠ "%end".toList) = body := by
    rw [List.takeWhile_append_of_pos fun l hl => decide_eq_true (hbody l hl),
      List.takeWhile_cons_of_neg (by simp), List.append_nil]
  rw [packages, hdrop, List.drop_one, List.tail_cons, htake]

end Kickstart
