import Mathlib.Data.List.Basic
import Mathlib.Data.List.Infix

/-!
# Files of stanzas

A file is a list of lines. `kind` says of a line whether it opens a stanza with a name,
is a statement in one, closes one, or is none of these. `names` reads a file from the
top and gives the names of its stanzas, or nothing unless every line stands where it may
and every stanza is closed.

* `names_flatMap` : what is written stanza by stanza has the names of the stanzas;
* `names_eq_none_of_broken` : one broken line spoils the file;
* `pair_infix_flatMap_iff` : which two lines begin a stanza of a file.
-/

namespace StanzaFile

variable {L N α : Type}

/-- What a line may be. -/
inductive Kind (N : Type)
  | opens (n : N)
  | statement
  | closes
  | broken
deriving DecidableEq, Repr

/-- The names of the stanzas, with `some n` in a stanza of that name. -/
def names (kind : L → Kind N) : Option N → List L → Option (List N)
  | none, [] => some []
  | some _, [] => none
  | none, l :: ls =>
    match kind l with
    | .opens n => names kind (some n) ls
    | _ => none
  | some n, l :: ls =>
    match kind l with
    | .statement => names kind (some n) ls
    | .closes => (names kind none ls).map (n :: ·)
    | _ => none

variable {kind : L → Kind N}

/-! ## Stanzas -/

/-- An opening line, statements and a closing line. -/
def IsStanza (kind : L → Kind N) (n : N) (ls : List L) : Prop :=
  ∃ l ss c, ls = l :: (ss ++ [c]) ∧ kind l = .opens n ∧ (∀ s ∈ ss, kind s = .statement) ∧
    kind c = .closes

theorem names_statements (n : N) : ∀ {ss : List L}, (∀ s ∈ ss, kind s = .statement) →
    ∀ ls, names kind (some n) (ss ++ ls) = names kind (some n) ls
  | [], _, _ => rfl
  | s :: ss, h, ls => by
    rw [List.cons_append, names, h s (List.mem_cons_self ..)]
    exact names_statements n (fun x hx => h x (List.mem_cons_of_mem _ hx)) ls

theorem IsStanza.names_append {n : N} {s : List L} (h : IsStanza kind n s) (ls : List L) :
    names kind none (s ++ ls) = (names kind none ls).map (n :: ·) := by
  obtain ⟨l, ss, c, rfl, hl, hss, hc⟩ := h
  rw [List.cons_append, List.append_assoc, names, hl, List.singleton_append]
  dsimp only
  rw [names_statements n hss, names, hc]

/-- A file written stanza by stanza. -/
theorem names_flatMap {name : α → N} {lines : α → List L} : ∀ {as : List α},
    (∀ a ∈ as, IsStanza kind (name a) (lines a)) →
      names kind none (as.flatMap lines) = some (as.map name)
  | [], _ => rfl
  | a :: as, h => by
    rw [List.flatMap_cons, (h a (List.mem_cons_self ..)).names_append,
      names_flatMap fun b hb => h b (List.mem_cons_of_mem _ hb)]
    rfl

theorem names_eq_none_of_broken {l : L} (hl : kind l = .broken) : ∀ {ls : List L}
    (o : Option N), l ∈ ls → names kind o ls = none
  | x :: ls, o, h => by
    rcases List.mem_cons.mp h with rfl | h
    · cases o <;> rw [names, hl]
    · cases o with
      | none =>
        rw [names]
        split
        · exact names_eq_none_of_broken hl _ h
        · rfl
      | some n =>
        rw [names]
        split
        · exact names_eq_none_of_broken hl _ h
        · rw [names_eq_none_of_broken hl none h]
          rfl
        · rfl

/-! ## The first two lines of a stanza -/

theorem pair_infix_append_iff {h t : L} : ∀ {xs : List L}, h ∉ xs → ∀ ls,
    [h, t] <:+: xs ++ ls ↔ [h, t] <:+: ls
  | [], _, _ => Iff.rfl
  | x :: xs, hx, ls => by
    rw [List.mem_cons, not_or] at hx
    rw [List.cons_append, List.infix_cons_iff, List.cons_prefix_cons,
      pair_infix_append_iff hx.2 ls]
    exact or_iff_right fun h => hx.1 h.1

/-- The two lines stand behind one another in a file whose parts begin with `head a` and
`second a`, and hold no opening line but `head a`, iff they begin one of the parts. -/
theorem pair_infix_flatMap_iff {h t : L} (head second : α → L) (rest : α → List L) :
    ∀ {as : List α}, (∀ a ∈ as, h ∉ second a :: rest a) →
      ([h, t] <:+: as.flatMap (fun a => head a :: second a :: rest a) ↔
        ∃ a ∈ as, h = head a ∧ t = second a)
  | [], _ => by simp
  | a :: as, hopen => by
    have hrest : h ∉ second a :: rest a := hopen a (List.mem_cons_self ..)
    rw [List.flatMap_cons, List.cons_append, List.infix_cons_iff, pair_infix_append_iff hrest,
      pair_infix_flatMap_iff head second rest fun b hb => hopen b (List.mem_cons_of_mem _ hb),
      List.cons_append, List.cons_prefix_cons, List.cons_prefix_cons]
    simp only [List.nil_prefix, and_true, List.exists_mem_cons_iff]

end StanzaFile
