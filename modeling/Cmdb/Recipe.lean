import Cmdb.Words

/-!
# Recipes for the partitions of a disk

A recipe has a name, two colons and the partitions, each closed by a full stop. A partition has
three numbers and a file system, and then what is to be done with it : words alone, and words
with a value in braces (`format{ }`, `mountpoint{ / }`).

* `entries_flatMap` : the partitions of a recipe are those it was put together from;
* `readRecipe_of_words` : and so they are read from a text with these words.
-/

namespace Recipe

open Words

/-- A word. -/
abbrev Word := List Char

variable {k v w : Word} {ws : List Word}

/-! ## What is to be done with a partition -/

/-- A word, and the words in its braces if it has them. -/
abbrev Spec := Word × List Word

/-- The words read one after the other; `opened` is the word whose braces are open. -/
def specsFrom (opened : Option Spec) : List Word → List Spec
  | [] => opened.toList
  | w :: ws =>
    match opened with
    | none =>
      if w.getLast? = some '{' then specsFrom (some (w.dropLast, [])) ws
      else (w, []) :: specsFrom none ws
    | some (k, vs) =>
      if w = ['}'] then (k, vs) :: specsFrom none ws else specsFrom (some (k, vs ++ [w])) ws

/-- `k{ v₁ v₂ … }`. -/
def braced (k : Word) (vs : List Word) : List Word := (k ++ ['{']) :: (vs ++ [['}']])

theorem specsFrom_flag (h : w.getLast? ≠ some '{') (ws : List Word) :
    specsFrom none (w :: ws) = (w, []) :: specsFrom none ws := by
  rw [specsFrom, if_neg h]

theorem specsFrom_opened {vs us : List Word} (h : ['}'] ∉ us) (ws : List Word) :
    specsFrom (some (k, vs)) (us ++ ['}'] :: ws) = (k, vs ++ us) :: specsFrom none ws := by
  induction us generalizing vs with
  | nil => rw [List.nil_append, specsFrom, if_pos rfl, List.append_nil]
  | cons u us ih =>
    rw [List.mem_cons, not_or] at h
    rw [List.cons_append, specsFrom, if_neg (Ne.symm h.1), ih h.2, List.append_assoc,
      List.singleton_append]

theorem specsFrom_braced {vs : List Word} (h : ['}'] ∉ vs) (k : Word) (ws : List Word) :
    specsFrom none (braced k vs ++ ws) = (k, vs) :: specsFrom none ws := by
  have happend : braced k vs ++ ws = (k ++ ['{']) :: (vs ++ ['}'] :: ws) := by simp [braced]
  have hlast : (k ++ ['{']).getLast? = some '{' := by simp
  rw [happend, specsFrom, if_pos hlast, List.dropLast_concat, specsFrom_opened h, List.nil_append]

theorem specsFrom_braced_self {vs : List Word} (h : ['}'] ∉ vs) (k : Word) :
    specsFrom none (braced k vs) = [(k, vs)] := by
  have hnil := specsFrom_braced h k []
  rwa [List.append_nil] at hnil

/-! ## Partitions -/

structure Entry where
  numbers : ℕ × ℕ × ℕ
  fs : Word
  specs : List Spec
deriving DecidableEq, Repr

/-- The value in the braces of a word. -/
def Entry.value (e : Entry) (key : Word) : Option (List Word) := e.specs.lookup key

/-- A partition from its words. -/
def readEntry : List Word → Option Entry
  | a :: b :: c :: fs :: ws => do
    let a ← readNat a
    let b ← readNat b
    let c ← readNat c
    some ⟨(a, b, c), fs, specsFrom none ws⟩
  | _ => none

/-- The words of the partitions, up to the full stop of each. -/
def chunks (ws : List Word) : List (List Word) := (ws.splitOn ['.']).filter fun c => !c.isEmpty

theorem chunks_append {c : List Word} (hne : c ≠ []) (h : ['.'] ∉ c) (ws : List Word) :
    chunks (c ++ ['.'] :: ws) = c :: chunks ws := by
  rw [chunks, List.splitOn_append_cons_self_of_not_mem h, List.filter_cons_of_pos]
  · rfl
  · simpa using hne

theorem chunks_flatMap {ι : Type*} {f : ι → List Word} {l : List ι}
    (hne : ∀ i ∈ l, f i ≠ []) (h : ∀ i ∈ l, ['.'] ∉ f i) :
    chunks (l.flatMap fun i => f i ++ [['.']]) = l.map f := by
  induction l with
  | nil => rfl
  | cons i l ih =>
    rw [List.forall_mem_cons] at hne h
    rw [List.flatMap_cons, List.append_assoc, List.singleton_append, chunks_append hne.1 h.1,
      ih hne.2 h.2, List.map_cons]

theorem mapM_eq_some_map {ι : Type*} {g : ι → Option Entry} {e : ι → Entry} {l : List ι}
    (h : ∀ i ∈ l, g i = some (e i)) : l.mapM g = some (l.map e) := by
  induction l with
  | nil => rfl
  | cons i l ih =>
    rw [List.forall_mem_cons] at h
    rw [List.mapM_cons, h.1, ih h.2]
    rfl

/-- The name and the partitions of a recipe. -/
def readRecipe (s : List Char) : Option (Word × List Entry) :=
  match words Char.isWhitespace s with
  | name :: [':', ':'] :: ws => ((chunks ws).mapM readEntry).map fun es => (name, es)
  | _ => none

/-- A recipe with the words of these partitions has them. -/
theorem readRecipe_of_words {ι : Type*} {f : ι → List Word} {e : ι → Entry} {l : List ι}
    {name : Word} {s : List Char}
    (hs : words Char.isWhitespace s = name :: [':', ':'] :: l.flatMap fun i => f i ++ [['.']])
    (hread : ∀ i ∈ l, readEntry (f i) = some (e i)) (hdot : ∀ i ∈ l, ['.'] ∉ f i) :
    readRecipe s = some (name, l.map e) := by
  have hne : ∀ i ∈ l, f i ≠ [] := by
    intro i hi hnil
    have := hread i hi
    rw [hnil] at this
    cases this
  have hall : (l.map f).mapM readEntry = some (l.map e) := by
    rw [List.mapM_map]
    exact mapM_eq_some_map hread
  rw [readRecipe, hs]
  simp only [chunks_flatMap hne hdot, hall, Option.map_some]

end Recipe
