import Mathlib.Data.List.Infix

/-!
# Variables in a text

The variables are words that begin with a mark and have no other, and none begins with
another (`Marked`). `expand` puts its value in the place of every variable, in one pass from
the left, and does not look at the values again.

* `expand_append`, `expand_of_noVar` : what becomes of a variable, and of a text without;
* `Marked.infix_append` : a variable in a text that starts with one is that one or stands
  behind it;
* `append_expand_eq_take_iff` : with values that do not look like variables, the text as it
  was, cut somewhere, is the expanded one only if there was nothing to expand or to cut.
-/

namespace Expansion

variable {A : Type*} [DecidableEq A]

/-- Words with one mark each, at the start, and none of them at the start of another. -/
structure Marked (mark : A) (names : List (List A)) : Prop where
  eq_cons : ∀ v ∈ names, ∃ t, v = mark :: t ∧ mark ∉ t
  prefix_free : ∀ v ∈ names, ∀ w ∈ names, v <+: w → v = w

/-- The text with every variable replaced, after `n` characters that are skipped. -/
def expandFrom (names : List (List A)) (value : List A → List A) : ℕ → List A → List A
  | _, [] => []
  | n + 1, _ :: s => expandFrom names value n s
  | 0, c :: s =>
    match names.find? (·.isPrefixOf (c :: s)) with
    | some v => value v ++ expandFrom names value (v.length - 1) s
    | none => c :: expandFrom names value 0 s

/-- The text with every variable replaced. -/
def expand (names : List (List A)) (value : List A → List A) (s : List A) : List A :=
  expandFrom names value 0 s

/-- No variable occurs in the text. -/
def NoVar (names : List (List A)) (s : List A) : Prop := ∀ v ∈ names, ¬v <:+: s

instance (names : List (List A)) (s : List A) : Decidable (NoVar names s) :=
  inferInstanceAs (Decidable (∀ v ∈ names, ¬v <:+: s))

variable {mark : A} {names : List (List A)} {value : List A → List A} {v w s : List A}

theorem expandFrom_eq : ∀ (n : ℕ) (s : List A),
    expandFrom names value n s = expand names value (s.drop n)
  | 0, _ => rfl
  | _ + 1, [] => rfl
  | n + 1, _ :: s => expandFrom_eq n s

theorem expand_cons_of_not {c : A} (h : ∀ v ∈ names, ¬v <+: c :: s) :
    expand names value (c :: s) = c :: expand names value s := by
  have hnone : names.find? (·.isPrefixOf (c :: s)) = none := by
    simpa only [List.find?_eq_none, List.isPrefixOf_iff_prefix] using h
  rw [expand, expandFrom, hnone]
  rfl

theorem expand_append (hm : Marked mark names) (hv : v ∈ names) (s : List A) :
    expand names value (v ++ s) = value v ++ expand names value s := by
  obtain ⟨t, rfl, -⟩ := hm.eq_cons v hv
  have hfind : names.find? (·.isPrefixOf (mark :: t ++ s)) = some (mark :: t) := by
    rcases h : names.find? (·.isPrefixOf (mark :: t ++ s)) with _ | w
    · have hno := List.find?_eq_none.mp h _ hv
      rw [List.isPrefixOf_iff_prefix] at hno
      exact absurd (List.prefix_append _ s) hno
    · have hw := List.mem_of_find?_eq_some h
      have hpre : w <+: mark :: t ++ s := List.isPrefixOf_iff_prefix.mp (List.find?_some h :)
      rcases List.prefix_or_prefix_of_prefix hpre (List.prefix_append (mark :: t) s) with hle | hle
      · exact h.trans (congrArg some (hm.prefix_free _ hw _ hv hle))
      · exact h.trans (congrArg some (hm.prefix_free _ hv _ hw hle).symm)
  rw [List.cons_append] at hfind ⊢
  rw [expand, expandFrom, hfind]
  dsimp only
  rw [expandFrom_eq, List.length_cons, Nat.add_sub_cancel, List.drop_left]

omit [DecidableEq A] in
theorem NoVar.tail {c : A} (h : NoVar names (c :: s)) : NoVar names s := fun v hv hs =>
  h v hv (hs.trans (List.suffix_cons c s).isInfix)

theorem expand_of_noVar : ∀ {s : List A}, NoVar names s → expand names value s = s
  | [], _ => rfl
  | c :: s, h => by
    rw [expand_cons_of_not fun v hv hpre => h v hv hpre.isInfix, expand_of_noVar h.tail]

omit [DecidableEq A] in
/-- A variable in a text that starts with a variable is this one, or is behind it. -/
theorem Marked.infix_append (hm : Marked mark names) (hv : v ∈ names) (hw : w ∈ names)
    (h : w <:+: v ++ s) : w = v ∨ w <:+: s := by
  obtain ⟨t, hvt, ht⟩ := hm.eq_cons v hv
  obtain ⟨t', hwt, -⟩ := hm.eq_cons w hw
  obtain ⟨x, y, hxy⟩ := h
  rw [List.append_assoc] at hxy
  rcases x with _ | ⟨c, x⟩
  · rw [List.nil_append] at hxy
    refine .inl ?_
    rcases List.prefix_or_prefix_of_prefix ⟨y, hxy⟩ (List.prefix_append v s) with hle | hle
    · exact hm.prefix_free _ hw _ hv hle
    · exact (hm.prefix_free _ hv _ hw hle).symm
  · refine .inr ?_
    rw [hvt, List.cons_append, List.cons_append, List.cons.injEq] at hxy
    rcases List.append_eq_append_iff.mp hxy.2 with ⟨z, rfl, hz⟩ | ⟨z, rfl, hz⟩
    · rcases z with _ | ⟨d, z⟩
      · exact ⟨[], y, by simpa using hz⟩
      · -- the mark of `w` would stand inside of `v`
        rw [hwt, List.cons_append, List.cons_append, List.cons.injEq] at hz
        rw [← hz.1] at ht
        exact absurd (List.mem_append_right x (List.mem_cons_self ..)) ht
    · exact ⟨z, y, by rw [List.append_assoc, hz]⟩

/-- The first variable of a text. -/
theorem exists_first (hm : Marked mark names) (value : List A → List A) :
    ∀ {s : List A}, ¬NoVar names s →
    ∃ u, ∃ v ∈ names, ∃ t, s = u ++ v ++ t ∧
      expand names value s = u ++ value v ++ expand names value t
  | [], h => by
    unfold NoVar at h
    push Not at h
    obtain ⟨v, hv, hs⟩ := h
    obtain ⟨t, rfl, -⟩ := hm.eq_cons v hv
    exact absurd (List.eq_nil_of_infix_nil hs) (List.cons_ne_nil _ _)
  | c :: s, h => by
    by_cases hpre : ∃ v ∈ names, v <+: c :: s
    · obtain ⟨v, hv, t, ht⟩ := hpre
      exact ⟨[], v, hv, t, by rw [List.nil_append, ht], by
        rw [← ht, expand_append hm hv, List.nil_append]⟩
    · push Not at hpre
      have hs : ¬NoVar names s := by
        refine fun hs => h fun v hv hinf => ?_
        rcases List.infix_cons_iff.mp hinf with hinf | hinf
        · exact hpre v hv hinf
        · exact hs v hv hinf
      obtain ⟨u, v, hv, t, rfl, hexp⟩ := exists_first hm value hs
      exact ⟨c :: u, v, hv, t, by simp, by rw [expand_cons_of_not hpre, hexp]; simp⟩

/-! ## Texts that are cut and not expanded -/

/-- The values do not begin like a variable. -/
def Plain (mark : A) (names : List (List A)) (value : List A → List A) : Prop :=
  ∀ v ∈ names, ∃ c t, value v = c :: t ∧ c ≠ mark

omit [DecidableEq A] in
/-- Two texts part where one goes on differently, however the second is cut. -/
theorem append_cons_ne_take {u s t : List A} {c d : A} (h : c ≠ d) (n : ℕ) :
    u ++ c :: s ≠ (u ++ d :: t).take n := by
  intro heq
  have hlen := congrArg List.length heq
  rw [List.length_take, List.length_append, List.length_cons] at hlen
  have hget := congrArg (·[u.length]?) heq
  rw [List.getElem?_append_right (Nat.le_refl _), Nat.sub_self, List.getElem?_cons_zero] at hget
  rw [List.getElem?_take_of_lt (by omega), List.getElem?_append_right (Nat.le_refl _), Nat.sub_self,
    List.getElem?_cons_zero, Option.some_inj] at hget
  exact h hget

/-- A text that is only cut is the expanded one exactly if there is no variable and nothing
was cut off. -/
theorem append_expand_eq_take_iff (hm : Marked mark names) (hp : Plain mark names value)
    (pre s : List A) (n : ℕ) :
    pre ++ expand names value s = (pre ++ s).take n ↔
      NoVar names s ∧ pre.length + s.length ≤ n := by
  constructor
  · intro h
    by_cases hs : NoVar names s
    · refine ⟨hs, ?_⟩
      rw [expand_of_noVar hs] at h
      have hlen := congrArg List.length h
      rw [List.length_take, List.length_append] at hlen
      omega
    · obtain ⟨u, v, hv, t, rfl, hexp⟩ := exists_first hm value hs
      obtain ⟨t', rfl, -⟩ := hm.eq_cons v hv
      obtain ⟨c, y, hc, hne⟩ := hp _ hv
      rw [hexp, hc] at h
      simp only [List.append_assoc, List.cons_append] at h
      rw [← List.append_assoc, ← List.append_assoc] at h
      exact absurd h (append_cons_ne_take hne n)
  · rintro ⟨hs, hlen⟩
    rw [expand_of_noVar hs, List.take_of_length_le (by rw [List.length_append]; omega)]

end Expansion
