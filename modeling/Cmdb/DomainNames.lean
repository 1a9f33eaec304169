import Cmdb.Ailsa
import Cmdb.CString
import Cmdb.Ere
import Cmdb.Validation

/-!
# Names of zones and the shell

`cmdb_check_zone` writes the name of a zone, as it is, into a command for `system`. The name was
matched with `DOMAIN_REGEX`, where the backslash before the hyphen is one more character of the
set, and where any number of dots may follow the last label.

* `validate_domain_eq_zero_iff` : what the expression accepts;
* `zoneName_iff` : an accepted name is one of labels between single dots, without a character of
  the shell, exactly if it has no backslash and does not end in two dots;
* `special_checkZoneCommand` : the command for such a name has no character of the shell but
  those of the checker's path, of the directory, and its spaces.
-/

namespace Cmdb

open CString Posix

/-! ## Names -/

/-- A label : a letter first, a letter or digit last, and letters, digits and `others`. -/
structure Label (others : List Char) (w : CStr) : Prop where
  first : ∃ c ∈ w.head?, c.isAlpha
  last : ∃ c ∈ w.getLast?, c.isAlphanum
  chars : ∀ c ∈ w, c.isAlphanum ∨ c ∈ others

/-- Labels between single dots, with `n` dots behind the last one. -/
def DomainText (others : List Char) (n : ℕ) (s : CStr) : Prop :=
  ∃ labels : List CStr, labels ≠ [] ∧ (∀ w ∈ labels, Label others w) ∧
    s = List.intercalate ['.'] labels ++ List.replicate n '.'

/-- The characters that are not themselves to the shell : those that separate words and
commands, quote, expand, or redirect. -/
def shellSpecial : List Char :=
  [' ', '\t', '\n', ';', '&', '|', '<', '>', '(', ')', '$', '*', '?', '[', ']', '#', '~', '=', '%',
    '!', '\\', '\x22', '\x27', '\x60', '\x7b', '\x7d']

/-- A name for `cmdb_check_zone` : labels between single dots, one dot more at most, and nothing
for the shell. -/
structure ZoneName (s : CStr) : Prop where
  text : ∃ n ≤ 1, DomainText ['-'] n s
  plain : ∀ c ∈ s, c ∉ shellSpecial

/-- The command of `cmdb_check_zone`. -/
def checkZoneCommand (chkz dir zone : CStr) : CStr :=
  snprintf configLen (chkz ++ " ".toList ++ zone ++ " ".toList ++ dir ++ zone)

variable {s w : CStr} {others : List Char}

theorem isAlphanum_of_isAlpha {c : Char} (h : c.isAlpha) : c.isAlphanum := by
  rw [Char.isAlphanum, h, Bool.true_or]

/-- A label is a letter, or a letter and what ends in a letter or digit. -/
theorem label_iff :
    Label others w ↔ (∃ c, c.isAlpha ∧ w = [c]) ∨ ∃ a m b, w = a :: (m ++ [b]) ∧ a.isAlpha ∧
      (∀ c ∈ m, c.isAlphanum ∨ c ∈ others) ∧ b.isAlphanum := by
  constructor
  · rintro ⟨⟨a, hfirst, ha⟩, ⟨b, hlast, hb⟩, hchars⟩
    rcases Nat.lt_or_ge w.length 2 with hlt | hge
    · cases w with
      | nil => cases hfirst
      | cons c w =>
        cases hfirst
        have hlen : w.length = 0 := Nat.lt_one_iff.mp (Nat.lt_of_succ_lt_succ hlt)
        rw [List.length_eq_zero_iff.mp hlen]
        exact .inl ⟨a, ha, rfl⟩
    · obtain ⟨c, m, d, rfl⟩ := exists_ends hge
      rw [getLast?_ends] at hlast
      cases hfirst
      cases hlast
      exact .inr ⟨a, m, b, rfl, ha, (forall_mem_ends.mp hchars).2.1, hb⟩
  · rintro (⟨c, hc, rfl⟩ | ⟨a, m, b, rfl, ha, hm, hb⟩)
    · have hc' := isAlphanum_of_isAlpha hc
      exact ⟨⟨c, rfl, hc⟩, ⟨c, rfl, hc'⟩, List.forall_mem_singleton.mpr (.inl hc')⟩
    · exact ⟨⟨a, rfl, ha⟩, ⟨b, getLast?_ends, hb⟩,
        forall_mem_ends.mpr ⟨.inl (isAlphanum_of_isAlpha ha), hm, .inl hb⟩⟩

/-! ## The expression -/

/-- The expression of a label, for the sets of its letters, of its middle and of its end. -/
def labelEre (letters middle last : List (Char × Char)) : Ere :=
  .alt (.set letters) (.cat (.cat (.set letters) (.rep 0 none (.set middle))) (.set last))

def domainEre : Ere :=
  .cat (.cat (.rep 0 none (.cat
    (labelEre [('a', 'z'), ('A', 'Z')]
      [('a', 'z'), ('A', 'Z'), ('0', '9'), ('\\', '\\'), ('-', '-')]
      [('a', 'z'), ('A', 'Z'), ('0', '9')]) (.set [('.', '.')])))
    (labelEre [('A', 'Z'), ('a', 'z')]
      [('A', 'Z'), ('a', 'z'), ('0', '9'), ('\\', '\\'), ('-', '-')]
      [('A', 'Z'), ('a', 'z'), ('0', '9')]))
    (.rep 0 none (.set [('.', '.')]))

theorem regcomp_domain : regcomp (regexps .domain) = .ok domainEre := by decide +kernel

theorem mem_lang_labelEre {letters middle last : List (Char × Char)}
    (hletters : ∀ c, InRanges letters c ↔ c.isAlpha)
    (hmiddle : ∀ c, InRanges middle c ↔ c.isAlphanum ∨ c ∈ others)
    (hlast : ∀ c, InRanges last c ↔ c.isAlphanum) :
    w ∈ (labelEre letters middle last).lang ↔ Label others w := by
  rw [labelEre, mem_lang_alt, mem_lang_set, mem_lang_enclosed, label_iff]
  simp only [hletters, hmiddle, hlast]

/-- Letters, digits, the backslash and the hyphen. -/
theorem inRanges_middle {c : Char} :
    InRanges [('a', 'z'), ('A', 'Z'), ('0', '9'), ('\\', '\\'), ('-', '-')] c ↔
      c.isAlphanum ∨ c ∈ ['\\', '-'] := by
  simp only [inRanges_cons, inRanges_nil, between_self, isAlphanum_iff, List.mem_cons,
    List.not_mem_nil, or_false, or_assoc]

theorem inRanges_alpha {c : Char} : InRanges [('a', 'z'), ('A', 'Z')] c ↔ c.isAlpha := by
  simp only [inRanges_cons, inRanges_nil, or_false, isAlpha_iff]

theorem mem_lang_dots : s ∈ (Ere.rep 0 none (.set [('.', '.')])).lang ↔
    ∃ n, s = List.replicate n '.' := by
  rw [mem_lang_star_set]
  simp only [inRanges_cons, inRanges_nil, between_self, or_false]
  exact ⟨fun h => ⟨s.length, List.eq_replicate_of_mem h⟩, fun ⟨n, hn⟩ c hc =>
    List.eq_of_mem_replicate (hn ▸ hc)⟩

/-- Labels that are each closed with a dot, and a last one. -/
theorem flatten_closed_append (labels : List CStr) (l : CStr) :
    (labels.map (· ++ ['.'])).flatten ++ l = List.intercalate ['.'] (labels ++ [l]) := by
  induction labels with
  | nil => simp
  | cons w labels ih =>
    have hne : labels ++ [l] ≠ [] := by simp
    rw [List.map_cons, List.flatten_cons, List.append_assoc, ih, List.cons_append,
      List.intercalate_cons_of_ne_nil hne]

/-- Texts of labels with a dot are the texts of a list of labels. -/
theorem mem_lang_star_closed {a : Ere} (ha : ∀ w, w ∈ a.lang ↔ Label others w) :
    s ∈ (Ere.rep 0 none (.cat a (.set [('.', '.')]))).lang ↔
      ∃ labels : List CStr, (∀ w ∈ labels, Label others w) ∧
        s = (labels.map (· ++ ['.'])).flatten := by
  have hclosed : ∀ w, w ∈ (Ere.cat a (.set [('.', '.')])).lang ↔
      ∃ l, Label others l ∧ w = l ++ ['.'] := by
    intro w
    simp only [mem_lang_cat, mem_lang_set, inRanges_cons, inRanges_nil, between_self, or_false, ha,
      exists_eq_left, eq_comm]
  rw [mem_lang_star]
  simp only [hclosed]
  constructor
  · rintro ⟨ws, rfl, hws⟩
    have hopen : ∀ w ∈ ws, Label others w.dropLast ∧ w.dropLast ++ ['.'] = w := by
      intro w hw
      obtain ⟨l, hl, rfl⟩ := hws w hw
      rw [List.dropLast_concat]
      exact ⟨hl, rfl⟩
    refine ⟨ws.map List.dropLast, fun l hl => ?_, ?_⟩
    · obtain ⟨w, hw, rfl⟩ := List.mem_map.mp hl
      exact (hopen w hw).1
    · have hsame : ws.map ((· ++ ['.']) ∘ List.dropLast) = ws.map id :=
        List.map_congr_left fun w hw => (hopen w hw).2
      rw [List.map_map, hsame, List.map_id]
  · rintro ⟨labels, hlabels, rfl⟩
    refine ⟨_, rfl, fun w hw => ?_⟩
    obtain ⟨l, hl, rfl⟩ := List.mem_map.mp hw
    exact ⟨l, hlabels l hl, rfl⟩

/-- What is accepted are labels with hyphens and backslashes, and any number of dots behind. -/
theorem validate_domain_eq_zero_iff :
    ailsaValidateInput s .domain = 0 ↔ ∃ n, DomainText ['\\', '-'] n s := by
  have hlower : ∀ w, w ∈ _ ↔ Label ['\\', '-'] w := fun w =>
    mem_lang_labelEre (fun _ => inRanges_alpha) (fun _ => inRanges_middle)
      (fun _ => inRanges_alphanum)
  have hupper : ∀ w, w ∈ _ ↔ Label ['\\', '-'] w := fun w =>
    mem_lang_labelEre (fun _ => inRanges_swap.trans inRanges_alpha)
      (fun _ => inRanges_swap.trans inRanges_middle)
      (fun _ => inRanges_swap.trans inRanges_alphanum)
  rw [ailsaValidateInput_eq_zero_iff regcomp_domain, domainEre, mem_lang_cat]
  constructor
  · rintro ⟨_, hu, v, hv, rfl⟩
    obtain ⟨x, hx, l, hl, rfl⟩ := mem_lang_cat.mp hu
    obtain ⟨labels, hlabels, rfl⟩ := (mem_lang_star_closed hlower).mp hx
    obtain ⟨n, rfl⟩ := mem_lang_dots.mp hv
    refine ⟨n, labels ++ [l], by simp, fun w hw => ?_, by rw [flatten_closed_append]⟩
    rcases List.mem_append.mp hw with hw | hw
    · exact hlabels w hw
    · exact List.mem_singleton.mp hw ▸ (hupper l).mp hl
  · rintro ⟨n, labels, hne, hlabels, rfl⟩
    have hlast := hlabels _ (List.getLast_mem hne)
    have hinit := (mem_lang_star_closed hlower).mpr
      ⟨labels.dropLast, fun w hw => hlabels w (List.mem_of_mem_dropLast hw), rfl⟩
    refine ⟨_, mem_lang_cat.mpr ⟨_, hinit, _, (hupper _).mpr hlast, rfl⟩, _,
      mem_lang_dots.mpr ⟨n, rfl⟩, ?_⟩
    rw [flatten_closed_append, List.dropLast_concat_getLast]

theorem validate_uk : ailsaValidateInput "uk".toList .domain = 0 := by
  refine validate_domain_eq_zero_iff.mpr ⟨0, [['u', 'k']], by simp, fun w hw => ?_, rfl⟩
  rw [List.mem_singleton.mp hw]
  exact ⟨⟨'u', rfl, rfl⟩, ⟨'k', rfl, rfl⟩, by simp⟩

/-! ## Accepted names -/

variable {n : ℕ}

/-- The characters of a list of labels : theirs, and the dots between them. -/
theorem mem_intercalate_dot {labels : List CStr} {c : Char} :
    (∀ w ∈ labels, c ∈ w → c ∈ List.intercalate ['.'] labels) ∧
      (c ∈ List.intercalate ['.'] labels → c = '.' ∨ ∃ w ∈ labels, c ∈ w) := by
  induction labels with
  | nil => simp
  | cons l labels ih =>
    rcases eq_or_ne labels [] with rfl | hne
    · simpa using .inr
    · rw [List.intercalate_cons_of_ne_nil hne]
      constructor
      · intro w hw hc
        rcases List.mem_cons.mp hw with rfl | hw
        · exact List.mem_append_left _ (List.mem_append_left _ hc)
        · exact List.mem_append_right _ (ih.1 w hw hc)
      · intro hc
        rcases List.mem_append.mp hc with hc | hc
        · rcases List.mem_append.mp hc with hc | hc
          · exact .inr ⟨l, List.mem_cons_self, hc⟩
          · exact .inl (List.mem_singleton.mp hc)
        · refine (ih.2 hc).imp_right ?_
          rintro ⟨w, hw, hcw⟩
          exact ⟨w, List.mem_cons_of_mem l hw, hcw⟩

/-- Before the dots behind a name there is a letter or digit. -/
theorem DomainText.ends (h : DomainText others n s) :
    ∃ x b, s = x ++ b :: List.replicate n '.' ∧ b.isAlphanum := by
  obtain ⟨labels, hne, hlabels, rfl⟩ := h
  obtain ⟨init, l, rfl⟩ : ∃ init l, labels = init ++ [l] :=
    ⟨_, _, (List.dropLast_concat_getLast hne).symm⟩
  obtain ⟨b, hb, halnum⟩ := (hlabels l (by simp)).last
  obtain ⟨x, rfl⟩ : ∃ x, l = x ++ [b] := ⟨_, (List.dropLast_append_getLast? b hb).symm⟩
  refine ⟨(init.map (· ++ ['.'])).flatten ++ x, b, ?_, halnum⟩
  rw [← flatten_closed_append]
  simp only [List.append_assoc, List.singleton_append]

theorem dots_suffix_iff {x : CStr} {b : Char} (hb : b ≠ '.') :
    ['.', '.'] <:+ x ++ b :: List.replicate n '.' ↔ 2 ≤ n := by
  rw [← List.reverse_prefix]
  simp only [List.reverse_append, List.reverse_cons, List.reverse_replicate, List.append_assoc]
  match n with
  | 0 => simp [hb.symm]
  | 1 => simp [hb.symm]
  | n + 2 => simp [List.replicate_succ]

/-- Two dots at the end are dots behind the name. -/
theorem DomainText.dots_suffix_iff (h : DomainText others n s) : ['.', '.'] <:+ s ↔ 2 ≤ n := by
  obtain ⟨x, b, rfl, hb⟩ := h.ends
  refine Cmdb.dots_suffix_iff ?_
  rintro rfl
  exact absurd hb (by decide)

theorem DomainText.chars (h : DomainText others n s) {c : Char} (hc : c ∈ s) :
    c.isAlphanum ∨ c ∈ others ∨ c = '.' := by
  obtain ⟨labels, -, hlabels, rfl⟩ := h
  rcases List.mem_append.mp hc with hc | hc
  · rcases mem_intercalate_dot.2 hc with hdot | ⟨w, hw, hcw⟩
    · exact .inr (.inr hdot)
    · exact ((hlabels w hw).chars c hcw).imp_right .inl
  · exact .inr (.inr (List.eq_of_mem_replicate hc))

/-- Without the character in the text there is none in a label. -/
theorem DomainText.of_cons {d : Char} (h : DomainText (d :: others) n s) (hd : d ∉ s) :
    DomainText others n s := by
  obtain ⟨labels, hne, hlabels, rfl⟩ := h
  refine ⟨labels, hne, fun w hw => ?_, rfl⟩
  have hlabel := hlabels w hw
  have hnone : d ∉ w := fun hmem =>
    hd (List.mem_append_left _ (mem_intercalate_dot.1 w hw hmem))
  exact ⟨hlabel.first, hlabel.last, allowed_of_cons hlabel.chars hnone⟩

theorem not_shellSpecial {c : Char} (h : c.isAlphanum ∨ c ∈ ['-'] ∨ c = '.') :
    c ∉ shellSpecial := by
  have hspecial : shellSpecial.all fun c => ¬(c.isAlphanum ∨ c ∈ ['-'] ∨ c = '.') := by decide
  exact fun hc => of_decide_eq_true (List.all_eq_true.mp hspecial c hc) h

/-- An accepted name has its labels between single dots, a dot behind at most, and nothing for
the shell, exactly if it has no backslash and does not end in two dots. -/
theorem zoneName_iff (s : CStr) (h : ailsaValidateInput s .domain = 0) :
    ZoneName s ↔ '\\' ∉ s ∧ ¬['.', '.'] <:+ s := by
  obtain ⟨n, htext⟩ := validate_domain_eq_zero_iff.mp h
  constructor
  · rintro ⟨⟨m, hm, hplain⟩, hshell⟩
    refine ⟨fun hc => hshell _ hc (by decide), ?_⟩
    rw [hplain.dots_suffix_iff]
    omega
  · rintro ⟨hback, hdots⟩
    rw [htext.dots_suffix_iff] at hdots
    have hplain := htext.of_cons hback
    exact ⟨⟨n, by omega, hplain⟩, fun c hc => not_shellSpecial (hplain.chars hc)⟩

theorem zoneName_iff_example : ZoneName "db.uk".toList ↔
    '\\' ∉ "db.uk".toList ∧ ¬['.', '.'] <:+ "db.uk".toList := by
  refine zoneName_iff _ (validate_domain_eq_zero_iff.mpr ⟨0, [['d', 'b'], ['u', 'k']], ?_⟩)
  refine ⟨by simp, fun w hw => ?_, by decide⟩
  simp only [List.mem_cons, List.not_mem_nil, or_false] at hw
  rcases hw with rfl | rfl
  · exact ⟨⟨'d', rfl, rfl⟩, ⟨'b', rfl, rfl⟩, by simp⟩
  · exact ⟨⟨'u', rfl, rfl⟩, ⟨'k', rfl, rfl⟩, by simp⟩

/-- A backslash goes through, and into the command. -/
theorem not_zoneName : ¬∀ s, ailsaValidateInput s .domain = 0 → ZoneName s := by
  intro h
  have hlabel : Label ['\\', '-'] ['a', '\\', 'b'] :=
    ⟨⟨'a', rfl, rfl⟩, ⟨'b', rfl, rfl⟩, by simp⟩
  have haccepted : ailsaValidateInput ['a', '\\', 'b'] .domain = 0 :=
    validate_domain_eq_zero_iff.mpr ⟨0, [['a', '\\', 'b']], by simp,
      fun w hw => List.mem_singleton.mp hw ▸ hlabel, rfl⟩
  exact (h _ haccepted).plain '\\' (by decide) (by decide)

/-- The command for such a name : what the shell does not take as it stands is of the checker's
path, of the directory, or a space in between. -/
theorem special_checkZoneCommand {chkz dir zone : CStr} {c : Char} (hzone : ZoneName zone)
    (hc : c ∈ checkZoneCommand chkz dir zone) (hspecial : c ∈ shellSpecial) :
    c ∈ chkz ∨ c ∈ dir ∨ c = ' ' := by
  have hplain : c ∉ zone := fun hmem => hzone.plain c hmem hspecial
  have hmem := List.mem_of_mem_take hc
  simp only [List.mem_append, hplain, or_false] at hmem
  rcases hmem with ((hmem | hmem) | hmem) | hmem
  · exact .inl hmem
  · exact .inr (.inr (List.mem_singleton.mp hmem))
  · exact .inr (.inr (List.mem_singleton.mp hmem))
  · exact .inr (.inl hmem)

end Cmdb
