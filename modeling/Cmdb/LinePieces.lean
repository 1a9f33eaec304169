import Mathlib.Data.List.Basic

/-!
# A text read in bounded pieces

`fgets` reads up to a newline, but never more than the buffer holds. A loop over it reads a
text in pieces (`fgetsLoop`), and a line that is longer than the buffer comes in several of
them. `marked` says of each piece whether it is at the start of a line.

* `marked_fgetsLoop` : the pieces are those of the lines, one line after the other, and only
  the first piece of a line is at its start;
* `lastStore_ne_iff` : when the last piece that a scanner accepts is at the start of a line;
* `getLast?_filterMap_of_lastStore` : then the first pieces alone decide what is scanned last.
-/

set_option linter.unusedSectionVars false

namespace LinePieces

variable {α β γ : Type*} [DecidableEq α] {nl : α} {n : ℕ} {s t l : List α}

/-! ## Lines -/

/-- The first line, with its newline. -/
def headLine (nl : α) : List α → List α
  | [] => []
  | c :: s => if c = nl then [c] else c :: headLine nl s

/-- The lines, each with its newline. -/
def lines (nl : α) : List α → List (List α)
  | [] => []
  | c :: s =>
    if c = nl then [c] :: lines nl s
    else
      match lines nl s with
      | [] => [[c]]
      | l :: ls => (c :: l) :: ls

theorem headLine_cons (c : α) (s : List α) :
    headLine nl (c :: s) = if c = nl then [c] else c :: headLine nl s := rfl

theorem headLine_of_notMem : ∀ {s : List α}, nl ∉ s → headLine nl s = s
  | [], _ => rfl
  | c :: s, h => by
    rw [List.mem_cons, not_or] at h
    rw [headLine_cons, if_neg (Ne.symm h.1), headLine_of_notMem h.2]

theorem headLine_append_of_mem : ∀ {s : List α}, nl ∈ s → ∀ t, headLine nl (s ++ t) = headLine nl s
  | c :: s, h, t => by
    by_cases hc : c = nl
    · simp [headLine_cons, hc]
    · have hs : nl ∈ s := (List.mem_cons.mp h).resolve_left (Ne.symm hc)
      simp [headLine_cons, hc, headLine_append_of_mem hs t]

theorem headLine_ne_nil (nl : α) : ∀ {s : List α}, s ≠ [] → headLine nl s ≠ []
  | c :: s, _ => by
    rw [headLine_cons]
    split <;> exact List.cons_ne_nil _ _

theorem prefix_headLine (nl : α) : ∀ s : List α, headLine nl s <+: s
  | [] => List.prefix_refl _
  | c :: s => by
    rw [headLine_cons]
    split
    · exact ⟨s, rfl⟩
    · exact List.cons_prefix_cons.mpr ⟨rfl, prefix_headLine nl s⟩

/-- A newline is at the end of the first line, or nowhere. -/
theorem notMem_dropLast_headLine (nl : α) : ∀ s : List α, nl ∉ (headLine nl s).dropLast
  | [] => List.not_mem_nil
  | c :: s => by
    rw [headLine_cons]
    split
    · exact List.not_mem_nil
    · next hc =>
      cases hs : headLine nl s with
      | nil => exact List.not_mem_nil
      | cons d t =>
        rw [List.dropLast_cons_of_ne_nil (List.cons_ne_nil _ _), List.mem_cons, not_or, ← hs]
        exact ⟨Ne.symm hc, notMem_dropLast_headLine nl s⟩

/-- What is behind the first line, if anything, is behind a newline. -/
theorem getLast?_headLine : ∀ {s : List α}, s.drop (headLine nl s).length ≠ [] →
    (headLine nl s).getLast? = some nl
  | [], h => absurd rfl h
  | c :: s, h => by
    rw [headLine_cons] at h ⊢
    split at h
    · next hc => rw [if_pos hc, hc, List.getLast?_singleton]
    · next hc =>
      rw [if_neg hc]
      have hs : s ≠ [] := by
        rintro rfl
        exact h rfl
      rw [List.getLast?_cons_of_ne_nil (headLine_ne_nil nl hs)]
      exact getLast?_headLine h

theorem lines_eq : ∀ {s : List α}, s ≠ [] →
    lines nl s = headLine nl s :: lines nl (s.drop (headLine nl s).length)
  | [c], _ => by
    by_cases hc : c = nl <;> simp [lines, headLine, hc]
  | c :: d :: s, _ => by
    rw [lines, headLine_cons]
    by_cases hc : c = nl
    · rw [if_pos hc, if_pos hc]
      rfl
    · rw [if_neg hc, if_neg hc, lines_eq (List.cons_ne_nil d s)]
      rfl

/-! ## The loop over `fgets` -/

/-- `fgets` with room for `n` characters. -/
def fgets (nl : α) (n : ℕ) (s : List α) : List α := headLine nl (s.take n)

/-- The pieces that at most `k` turns of the loop read. -/
def fgetsTurns (nl : α) (n : ℕ) : ℕ → List α → List (List α)
  | 0, _ => []
  | _ + 1, [] => []
  | k + 1, c :: s =>
    let buff := fgets nl n (c :: s)
    buff :: fgetsTurns nl n k ((c :: s).drop buff.length)

/-- `while (fgets(...))` : every turn reads something, so that there are no more turns than
characters. -/
def fgetsLoop (nl : α) (n : ℕ) (s : List α) : List (List α) := fgetsTurns nl n s.length s

theorem fgetsTurns_succ_cons (k : ℕ) (c : α) (s : List α) : fgetsTurns nl n (k + 1) (c :: s) =
    fgets nl n (c :: s) :: fgetsTurns nl n k ((c :: s).drop (fgets nl n (c :: s)).length) := rfl

theorem fgets_ne_nil (nl : α) (hn : 0 < n) (hs : s ≠ []) : fgets nl n s ≠ [] :=
  headLine_ne_nil nl (by simpa [List.take_eq_nil_iff, hs] using Nat.ne_of_gt hn)

theorem prefix_fgets (nl : α) (n : ℕ) (s : List α) : fgets nl n s <+: s :=
  (prefix_headLine nl _).trans (List.take_prefix n s)

theorem length_fgets_le (s : List α) : (fgets nl n s).length ≤ n :=
  Nat.le_trans (prefix_headLine nl _).length_le (List.length_take_le n s)

theorem length_drop_fgets_lt (nl : α) (hn : 0 < n) (hs : s ≠ []) :
    (s.drop (fgets nl n s).length).length < s.length := by
  have hpos := List.length_pos_iff.mpr hs
  have hbuff := List.length_pos_iff.mpr (fgets_ne_nil nl hn hs)
  rw [List.length_drop]
  omega

theorem fgetsTurns_of_le (hn : 0 < n) {k : ℕ} : ∀ {s : List α}, s.length ≤ k →
    fgetsTurns nl n k s = fgetsLoop nl n s := by
  induction k using Nat.strongRecOn with
  | ind k ih =>
    intro s h
    cases s with
    | nil => cases k <;> rfl
    | cons c s =>
      have hlt := length_drop_fgets_lt nl hn (List.cons_ne_nil c s)
      rw [List.length_cons] at hlt h
      obtain ⟨k, rfl⟩ := Nat.exists_eq_add_one_of_ne_zero (n := k) (by omega)
      rw [fgetsLoop, List.length_cons, fgetsTurns_succ_cons, fgetsTurns_succ_cons,
        ih k (by omega) (by omega), ih s.length (by omega) (by omega)]

@[simp] theorem fgetsLoop_nil : fgetsLoop nl n [] = [] := rfl

theorem fgetsLoop_eq (hn : 0 < n) : ∀ {s : List α}, s ≠ [] →
    fgetsLoop nl n s = fgets nl n s :: fgetsLoop nl n (s.drop (fgets nl n s).length)
  | c :: s, hs => by
    have hlt := length_drop_fgets_lt nl hn hs
    rw [List.length_cons] at hlt
    rw [fgetsLoop, List.length_cons, fgetsTurns_succ_cons, fgetsTurns_of_le hn (by omega)]

theorem length_le_of_mem_fgetsTurns : ∀ {k : ℕ} {s p : List α}, p ∈ fgetsTurns nl n k s →
    p.length ≤ n
  | _ + 1, c :: s, p, h => by
    rw [fgetsTurns_succ_cons, List.mem_cons] at h
    obtain rfl | h := h
    · exact length_fgets_le _
    · exact length_le_of_mem_fgetsTurns h

theorem length_le_of_mem_fgetsLoop {p : List α} (h : p ∈ fgetsLoop nl n s) : p.length ≤ n :=
  length_le_of_mem_fgetsTurns h

/-! ## The pieces of a line -/

theorem headLine_of_line : ∀ {l : List α}, nl ∉ l.dropLast → headLine nl l = l
  | [], _ => rfl
  | [c], _ => by simp [headLine]
  | c :: d :: l, h => by
    rw [List.dropLast_cons_of_ne_nil (List.cons_ne_nil d l), List.mem_cons, not_or] at h
    rw [headLine_cons, if_neg (Ne.symm h.1), headLine_of_line h.2]

theorem notMem_dropLast_take (h : nl ∉ l.dropLast) : nl ∉ (l.take n).dropLast := by
  rw [List.dropLast_eq_take] at h ⊢
  rw [List.take_take]
  exact fun hmem => h (List.take_subset_take_left l (by rw [List.length_take]; omega) hmem)

theorem notMem_dropLast_drop (h : nl ∉ l.dropLast) : nl ∉ (l.drop n).dropLast := by
  by_cases hd : l.drop n = []
  · rw [hd]
    exact List.not_mem_nil
  · rw [← List.take_append_drop n l, List.dropLast_append_of_ne_nil hd] at h
    exact fun hmem => h (List.mem_append_right _ hmem)

theorem fgets_of_line (h : nl ∉ l.dropLast) : fgets nl n l = l.take n :=
  headLine_of_line (notMem_dropLast_take h)

/-- A line is read in pieces of `n` characters. -/
theorem fgetsLoop_of_line (hn : 0 < n) (h : nl ∉ l.dropLast) (hl : l ≠ []) :
    fgetsLoop nl n l = l.take n :: fgetsLoop nl n (l.drop n) := by
  rw [fgetsLoop_eq hn hl, fgets_of_line h]
  obtain hlt | hge := Nat.lt_or_ge n l.length
  · rw [List.length_take_of_le (Nat.le_of_lt hlt)]
  · rw [List.take_of_length_le hge, List.drop_length, List.drop_of_length_le hge]

/-- What is behind a newline is read by itself. -/
theorem fgetsLoop_append (hn : 0 < n) (t : List α) : ∀ {k : ℕ} {s : List α}, s.length ≤ k →
    (s ≠ [] → s.getLast? = some nl) → fgetsLoop nl n (s ++ t) = fgetsLoop nl n s ++ fgetsLoop nl n t
  | 0, s, hk, _ => by
    rw [List.length_eq_zero_iff.mp (Nat.le_zero.mp hk)]
    rfl
  | k + 1, [], _, _ => rfl
  | k + 1, c :: s, hk, hlast => by
    have hs := List.cons_ne_nil c s
    have hlt := length_drop_fgets_lt nl hn hs
    have hbuff : fgets nl n (c :: s ++ t) = fgets nl n (c :: s) := by
      rw [fgets, fgets, List.take_append]
      obtain hle | hgt := Nat.lt_or_ge (c :: s).length n
      · rw [List.take_of_length_le (Nat.le_of_lt hle)]
        exact headLine_append_of_mem (List.mem_of_getLast? (hlast hs)) _
      · rw [Nat.sub_eq_zero_of_le hgt, List.take_zero, List.append_nil]
    have ih : fgetsLoop nl n ((c :: s).drop (fgets nl n (c :: s)).length ++ t) = _ :=
      fgetsLoop_append hn t (k := k) (by rw [List.length_cons] at hk hlt; omega) fun hne => by
        rw [List.getLast?_drop, if_neg, hlast hs]
        simpa [List.drop_eq_nil_iff] using hne
    rw [fgetsLoop_eq hn (List.append_ne_nil_of_left_ne_nil hs t), fgetsLoop_eq hn hs, hbuff,
      List.drop_append_of_le_length (prefix_fgets nl n _).length_le, ih, List.cons_append]

/-! ## The pieces of a text -/

/-- Each piece with whether it is at the start of a line : `start` says so of the first. -/
def marked (nl : α) : Bool → List (List α) → List (Bool × List α)
  | _, [] => []
  | start, p :: ps => (start, p) :: marked nl (p.getLast? = some nl) ps

/-- The first piece of a line and the others. -/
def markedLine (nl : α) (n : ℕ) (l : List α) : List (Bool × List α) :=
  (true, l.take n) :: (fgetsLoop nl n (l.drop n)).map (Prod.mk false)

@[simp] theorem map_snd_marked : ∀ (start : Bool) (ps : List (List α)),
    (marked nl start ps).map Prod.snd = ps
  | _, [] => rfl
  | _, p :: ps => by rw [marked, List.map_cons, map_snd_marked]

theorem marked_append (start : Bool) (qs : List (List α)) {p : List α} :
    ∀ {ps : List (List α)}, ps.getLast? = some p →
      marked nl start (ps ++ qs) = marked nl start ps ++ marked nl (p.getLast? = some nl) qs
  | [q], h => by
    rw [List.getLast?_singleton, Option.some.injEq] at h
    rw [h]
    rfl
  | q :: r :: ps, h => by
    rw [List.getLast?_cons_cons] at h
    rw [List.cons_append, marked, marked_append _ qs h]
    rfl

/-- Only the first piece of a line can be at its start. -/
theorem marked_line (hn : 0 < n) (start : Bool) : ∀ {k : ℕ} {l : List α}, l.length ≤ k →
    nl ∉ l.dropLast → l ≠ [] → marked nl start (fgetsLoop nl n l) =
      (start, l.take n) :: (fgetsLoop nl n (l.drop n)).map (Prod.mk false)
  | 0, l, hk, _, hl => absurd (List.length_eq_zero_iff.mp (Nat.le_zero.mp hk)) hl
  | k + 1, l, hk, h, hl => by
    have hpos := List.length_pos_iff.mpr hl
    have hrest := notMem_dropLast_drop (n := n) h
    rw [fgetsLoop_of_line hn h hl, marked]
    obtain hd | hd := Decidable.em (l.drop n = [])
    · rw [hd]
      rfl
    · have htake : (l.take n).getLast? ≠ some nl := fun hlast => by
        rw [← List.take_append_drop n l, List.dropLast_append_of_ne_nil hd] at h
        exact h (List.mem_append_left _ (List.mem_of_getLast? hlast))
      rw [decide_eq_false htake, marked_line hn false (k := k) (by rw [List.length_drop]; omega)
        hrest hd, fgetsLoop_of_line hn hrest hd, List.map_cons]

/-- The last piece of a text ends as the text does. -/
theorem getLast?_fgetsLoop (nl : α) (hn : 0 < n) : ∀ {k : ℕ} {s : List α}, s.length ≤ k → s ≠ [] →
    ∃ p, (fgetsLoop nl n s).getLast? = some p ∧ p.getLast? = s.getLast?
  | 0, s, hk, hs => absurd (List.length_eq_zero_iff.mp (Nat.le_zero.mp hk)) hs
  | k + 1, s, hk, hs => by
    have hlt := length_drop_fgets_lt nl hn hs
    have happ := List.prefix_iff_eq_append.mp (prefix_fgets nl n s)
    rw [fgetsLoop_eq hn hs]
    obtain hd | hd := Decidable.em (s.drop (fgets nl n s).length = [])
    · rw [hd, List.append_nil] at happ
      exact ⟨fgets nl n s, by rw [hd]; rfl, by rw [happ]⟩
    · obtain ⟨p, hp, hlast⟩ := getLast?_fgetsLoop nl hn (k := k) (by omega) hd
      refine ⟨p, ?_, ?_⟩
      · rw [List.getLast?_cons, hp]
        rfl
      · rw [hlast, List.getLast?_drop, if_neg]
        simpa [List.drop_eq_nil_iff] using hd

/-- The pieces of a text are those of its lines, and the first piece of each line is at the
start of a line. -/
theorem marked_fgetsLoop (hn : 0 < n) : ∀ {k : ℕ} {s : List α}, s.length ≤ k →
    marked nl true (fgetsLoop nl n s) = (lines nl s).flatMap (markedLine nl n)
  | 0, s, hk => by
    rw [List.length_eq_zero_iff.mp (Nat.le_zero.mp hk)]
    rfl
  | k + 1, [], _ => rfl
  | k + 1, c :: s, hk => by
    have hs := List.cons_ne_nil c s
    have hline := notMem_dropLast_headLine nl (c :: s)
    have hne := headLine_ne_nil nl hs
    have hpos := List.length_pos_iff.mpr hne
    have happ := List.prefix_iff_eq_append.mp (prefix_headLine nl (c :: s))
    have hone : marked nl true (fgetsLoop nl n (headLine nl (c :: s))) = markedLine nl n _ :=
      marked_line hn true (Nat.le_refl _) hline hne
    rw [lines_eq hs, List.flatMap_cons, ← hone]
    obtain hd | hd := Decidable.em ((c :: s).drop (headLine nl (c :: s)).length = [])
    · rw [hd, List.append_nil] at happ
      rw [hd, happ]
      exact (List.append_nil _).symm
    · have hlast := getLast?_headLine hd
      obtain ⟨p, hp, hend⟩ := getLast?_fgetsLoop nl hn (Nat.le_refl _) hne
      have ih : marked nl true (fgetsLoop nl n ((c :: s).drop (headLine nl (c :: s)).length)) = _ :=
        marked_fgetsLoop hn (k := k) (by rw [List.length_drop]; omega)
      nth_rewrite 1 [← happ]
      rw [fgetsLoop_append hn _ (Nat.le_refl _) fun _ => hlast, marked_append _ _ hp,
        hend, hlast, decide_eq_true rfl, ih]

/-! ## What is scanned last -/

section Scan

variable {scan : List α → Option β} {ps qs : List (Bool × List α)} {ls : List (List α)}

/-- What is scanned of the last piece that `scan` accepts, and whether that piece is at the
start of a line. -/
def lastStore (scan : List α → Option β) (ps : List (Bool × List α)) : Option (Bool × β) :=
  (ps.filterMap fun p => (scan p.2).map (Prod.mk p.1)).getLast?

theorem lastStore_append :
    lastStore scan (ps ++ qs) = (lastStore scan qs).or (lastStore scan ps) := by
  rw [lastStore, List.filterMap_append, List.getLast?_append]
  rfl

theorem map_snd_lastStore :
    (lastStore scan ps).map Prod.snd = ((ps.map Prod.snd).filterMap scan).getLast? := by
  rw [lastStore, ← List.getLast?_map, List.map_filterMap, List.filterMap_map]
  congr 2
  funext p
  simp [Option.map_map, Function.comp_def]

theorem lastStore_markedLine :
    lastStore scan (markedLine nl n l) =
      ((((fgetsLoop nl n (l.drop n)).filterMap scan).getLast?).map (Prod.mk false)).or
        ((scan (l.take n)).map (Prod.mk true)) := by
  have hrest : lastStore scan ((fgetsLoop nl n (l.drop n)).map (Prod.mk false)) =
      (((fgetsLoop nl n (l.drop n)).filterMap scan).getLast?).map (Prod.mk false) := by
    rw [lastStore, List.filterMap_map, ← List.getLast?_map, List.map_filterMap]
    rfl
  rw [markedLine, ← List.singleton_append, lastStore_append, hrest]
  congr 1
  cases h : scan (l.take n) <;> simp [lastStore, h]

/-- Every piece in the middle of a line that `scan` accepts has a line behind it whose first
piece `scan` accepts. -/
def Overtaken (nl : α) (n : ℕ) (scan : List α → Option β) (ls : List (List α)) : Prop :=
  ∀ l after, l :: after <:+ ls → (∃ p ∈ fgetsLoop nl n (l.drop n), (scan p).isSome) →
    ∃ l' ∈ after, (scan (l'.take n)).isSome

theorem overtaken_cons : Overtaken nl n scan (l :: ls) ↔
    ((∃ p ∈ fgetsLoop nl n (l.drop n), (scan p).isSome) → ∃ l' ∈ ls, (scan (l'.take n)).isSome) ∧
      Overtaken nl n scan ls := by
  refine ⟨fun h => ⟨h l ls (List.suffix_refl _), fun l' after hs =>
    h l' after (hs.trans (List.suffix_cons l ls))⟩, fun ⟨hl, hls⟩ l' after hs => ?_⟩
  obtain heq | hs := List.suffix_cons_iff.mp hs
  · obtain ⟨rfl, rfl⟩ := List.cons.inj heq
    exact hl
  · exact hls l' after hs

theorem lastStore_eq_none_iff : lastStore scan (ls.flatMap (markedLine nl n)) = none ↔
    ∀ l ∈ ls, scan (l.take n) = none ∧ ∀ p ∈ fgetsLoop nl n (l.drop n), scan p = none := by
  simp only [lastStore, List.getLast?_eq_none_iff, List.filterMap_eq_nil_iff, List.mem_flatMap,
    markedLine, List.mem_cons, List.mem_map, Option.map_eq_none_iff]
  constructor
  · intro h l hl
    exact ⟨h (true, l.take n) ⟨l, hl, Or.inl rfl⟩,
      fun p hp => h (false, p) ⟨l, hl, Or.inr ⟨p, hp, rfl⟩⟩⟩
  · rintro h _ ⟨l, hl, rfl | ⟨p, hp, rfl⟩⟩
    · exact (h l hl).1
    · exact (h l hl).2 p hp

theorem exists_of_lastStore_true {w : β}
    (h : lastStore scan (ls.flatMap (markedLine nl n)) = some (true, w)) :
    ∃ l ∈ ls, (scan (l.take n)).isSome := by
  have hmem := List.mem_of_getLast? h
  simp only [List.mem_filterMap, List.mem_flatMap, Option.map_eq_some_iff, Prod.mk.injEq] at hmem
  obtain ⟨p, ⟨l, hl, hp⟩, v, hv, hstart, rfl⟩ := hmem
  rw [markedLine, List.mem_cons, List.mem_map] at hp
  obtain rfl | ⟨q, -, rfl⟩ := hp
  · exact ⟨l, hl, Option.isSome_iff_exists.mpr ⟨v, hv⟩⟩
  · cases hstart

/-- The last piece that `scan` accepts is at the start of a line exactly if a line overtakes
each other one. -/
theorem lastStore_ne_iff : (∀ w, lastStore scan (ls.flatMap (markedLine nl n)) ≠ some (false, w)) ↔
    Overtaken nl n scan ls := by
  induction ls with
  | nil => simp [lastStore, Overtaken]
  | cons l ls ih =>
    rw [overtaken_cons, List.flatMap_cons, lastStore_append, ← ih]
    rcases h : lastStore scan (ls.flatMap (markedLine nl n)) with _ | ⟨_ | _, w⟩
    · have hnone := lastStore_eq_none_iff.mp h
      have hheads : ¬∃ l' ∈ ls, (scan (l'.take n)).isSome := fun ⟨l', hl', hsome⟩ => by
        rw [(hnone l' hl').1] at hsome
        cases hsome
      rw [Option.none_or, lastStore_markedLine]
      rcases hrest : ((fgetsLoop nl n (l.drop n)).filterMap scan).getLast? with _ | w
      · have hnil := List.filterMap_eq_nil_iff.mp (List.getLast?_eq_none_iff.mp hrest)
        simp only [Option.map_none, Option.none_or]
        refine ⟨fun _ => ⟨fun ⟨p, hp, hsome⟩ => ?_, fun w => by simp⟩, fun _ w => ?_⟩
        · rw [hnil p hp] at hsome
          cases hsome
        · simp
      · obtain ⟨p, hp, hw⟩ := List.mem_filterMap.mp (List.mem_of_getLast? hrest)
        refine ⟨fun hne => absurd rfl (hne w), fun hne => absurd (hne.1 ⟨p, hp, ?_⟩) hheads⟩
        exact Option.isSome_iff_exists.mpr ⟨w, hw⟩
    · exact ⟨fun hne => absurd rfl (hne w), fun hne => absurd rfl (hne.2 w)⟩
    · exact ⟨fun _ => ⟨fun _ => exists_of_lastStore_true h, by simp⟩, fun _ => by simp⟩

/-- Then the first pieces of the lines decide alone. -/
theorem map_snd_lastStore_of_ne (h : ∀ w, lastStore scan (ls.flatMap (markedLine nl n)) ≠
    some (false, w)) :
    (lastStore scan (ls.flatMap (markedLine nl n))).map Prod.snd =
      (ls.filterMap fun l => scan (l.take n)).getLast? := by
  induction ls with
  | nil => rfl
  | cons l ls ih =>
    rw [List.flatMap_cons, lastStore_append] at h ⊢
    have hheads : (List.filterMap (fun l => scan (l.take n)) (l :: ls)).getLast? =
        (ls.filterMap fun l => scan (l.take n)).getLast?.or (scan (l.take n)) := by
      rw [← List.singleton_append, List.filterMap_append, List.getLast?_append]
      congr 1
      cases hl : scan (l.take n) <;> simp [hl]
    rw [hheads]
    rcases hrest : lastStore scan (ls.flatMap (markedLine nl n)) with _ | ⟨_ | _, w⟩
    · rw [hrest] at h ih
      rw [← ih (by simp), Option.none_or, lastStore_markedLine, Option.map_none, Option.none_or]
      rw [Option.none_or, lastStore_markedLine] at h
      rcases hlast : ((fgetsLoop nl n (l.drop n)).filterMap scan).getLast? with _ | w
      · simp [Option.map_map, Function.comp_def]
      · exact absurd (by rw [hlast]; rfl) (h w)
    · rw [hrest] at h
      exact absurd rfl (h w)
    · rw [hrest] at ih
      rw [← ih (by simp)]
      rfl

end Scan

end LinePieces
