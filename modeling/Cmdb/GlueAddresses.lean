import Cmdb.CString
import Cmdb.DnsaOptions
import Cmdb.Ere
import Cmdb.Records
import Cmdb.Validation
import Cmdb.ZoneOps

/-!
# The arguments of a glue zone

The name servers of a glue zone and their addresses are each one text, with a comma where there
are two. The expression of two addresses is put together when it is needed : the first copy of
`IP_REGEX` without its `$`, an escaped comma, and a second copy without its `^`.

* `validateGlueIp_iff` : what is accepted is one address, or two with a comma between them;
* `splitGlue_iff` : the two splitters agree exactly on the texts without a second comma, since
  that of the addresses assigns to its pointer where the other one writes through it.
-/

namespace Cmdb

open CString DottedQuad Posix

/-! ## The regular expression library -/

/-- `ailsa_validate_string`. -/
def ailsaValidateString (input reTest : CStr) : ℤ :=
  match regcomp reTest with
  | .error e => regErrorCode e
  | .ok re => if regexec re input then 0 else -1

/-- The index of an expression in `regexps`. -/
def Regexp.index : Regexp → RegexIndex
  | .name => .name
  | .ip => .ip
  | .domain => .domain
  | .txtrr => .txtrr
  | .resourceType => .resourceType

/-- The expression `validate_glue_comm_line` writes for two texts with a comma : `snprintf` with
the length as its bound drops the last character. -/
def pairRegex (re : CStr) : CStr :=
  strncat (strncat (snprintf re.length re) "\\,".toList 3) (re.drop 1) re.length

/-- `ailsa_validate_input` and `ailsa_validate_string`, as the checks call them : only a negative
code refuses. -/
def ailsaValidator : Validator where
  input r s := decide (¬ailsaValidateInput s r.index < 0)
  pair r s := decide (¬ailsaValidateString s (pairRegex (regexps r.index)) < 0)

/-- The buffer of `validate_glue_comm_line` passes its own test, and what is written to it fits. -/
theorem glueBuffer_fits :
    (regexps .ip).length + (regexps .domain).length + 4 ≤ configLen ∧
      (pairRegex (regexps .ip)).length < configLen ∧
      (pairRegex (regexps .domain)).length < configLen := by
  decide +kernel

variable {s t : CStr} {re : Ere} {r : Regexp}

theorem not_validateString_neg_iff (h : regcomp t = .ok re) :
    ¬ailsaValidateString s t < 0 ↔ s ∈ re.lang := by
  rw [← regexec_iff, ailsaValidateString, h]
  by_cases hs : regexec re s = true <;> simp [hs]

theorem ailsaValidateInput_eq (s : CStr) (test : RegexIndex) :
    ailsaValidateInput s test = ailsaValidateString s (regexps test) := rfl

/-- An expression that compiles refuses what it does not match. -/
theorem input_iff (h : regcomp (regexps r.index) = .ok re) :
    ailsaValidator.input r s = true ↔ ailsaValidateInput s r.index = 0 := by
  rw [ailsaValidateInput_eq_zero_iff h, ← not_validateString_neg_iff h, ← ailsaValidateInput_eq]
  exact Bool.decide_iff _

theorem pair_iff (h : regcomp (pairRegex (regexps r.index)) = .ok re) :
    ailsaValidator.pair r s = true ↔ s ∈ re.lang := by
  rw [← not_validateString_neg_iff h]
  exact Bool.decide_iff _

/-- The text of an address. -/
def IsAddress (s : CStr) : Prop := ∃ q : Quad, s = q.text

theorem input_ip_iff : ailsaValidator.input .ip s = true ↔ IsAddress s :=
  (input_iff (r := .ip) regcomp_ip).trans (validate_ip_iff s).1

/-! ## Two addresses -/

/-- What is compiled for two addresses. -/
def ipPairEre : Ere :=
  .cat (.cat (.cat ipEre (.set [(',', ',')])) (.rep 3 (some 3) (.cat octetEre (.set [('.', '.')]))))
    octetEre

theorem regcomp_pairRegex_ip : regcomp (pairRegex (regexps .ip)) = .ok ipPairEre := by
  decide +kernel

/-- What is matched are two addresses with a comma between them. -/
theorem mem_lang_ipPairEre : s ∈ ipPairEre.lang ↔ Joined ',' IsAddress 2 s := by
  have hip : ∀ u, u ∈ ipEre.lang ↔ IsAddress u := fun _ => mem_lang_ipEre
  rw [ipPairEre, mem_lang_cat_assoc]
  exact mem_lang_joined Nat.one_pos (fun u => (hip u).trans joined_one.symm) hip

theorem pair_ip_iff : ailsaValidator.pair .ip s = true ↔ Joined ',' IsAddress 2 s :=
  (pair_iff (r := .ip) regcomp_pairRegex_ip).trans mem_lang_ipPairEre

/-! ## Glue addresses -/

theorem IsAddress.comma_notMem (h : IsAddress s) : ',' ∉ s := by
  obtain ⟨q, rfl⟩ := h
  intro hc
  rcases Quad.isDigit_or_dot_of_mem_text hc with hdigit | hdot
  · exact absurd hdigit (by decide)
  · exact absurd hdot (by decide)

theorem requireMatch_eq_ok {v : Validator} {rs : List Regexp} {e : DnsaUsage} :
    requireMatch v rs (some s) e = .ok () ↔ rs.any (v.input · s) = true := by
  rw [requireMatch]
  split_ifs with h <;> simp [h]

/-- A command that adds : its addresses are one, or two with a comma between them. -/
theorem validateGlueIp_iff (comm : DnsaOptions) (glueIp : CStr) (hadd : comm.action ≠ .deleteZone)
    (hip : comm.glueIp = some glueIp) (hns : comm.glueNs = none) :
    validateGlueCommLine ailsaValidator comm = .ok () ↔
      (∃ q : Quad, glueIp = q.text) ∨ ∃ q q' : Quad, glueIp = q.text ++ ',' :: q'.text := by
  have hpair : Joined ',' IsAddress 2 glueIp ↔
      ∃ q q' : Quad, glueIp = q.text ++ ',' :: q'.text := by
    rw [joined_two]
    constructor
    · rintro ⟨_, ⟨q, rfl⟩, _, ⟨q', rfl⟩, rfl⟩
      exact ⟨q, q', rfl⟩
    · rintro ⟨q, q', rfl⟩
      exact ⟨_, ⟨q, rfl⟩, _, ⟨q', rfl⟩, rfl⟩
  rw [← hpair]
  change _ ↔ IsAddress glueIp ∨ _
  by_cases hcomma : ',' ∈ glueIp
  · -- one address has no comma
    have hone : ¬IsAddress glueIp := fun h => h.comma_notMem hcomma
    have hcode : validateGlueCommLine ailsaValidator comm =
        if ailsaValidator.pair .ip glueIp then .ok () else .error .glueIpInputInvalid := by
      simp only [validateGlueCommLine, hip, hns, isSome_strchr, hcomma, if_true]
      split_ifs <;> rfl
    rw [hcode, ← pair_ip_iff]
    split_ifs with h
    · simp [h]
    · simpa [h] using hone
  · -- two addresses have one
    have htwo : ¬Joined ',' IsAddress 2 glueIp := by
      rw [joined_two]
      rintro ⟨u, -, w, -, rfl⟩
      exact hcomma (by simp)
    have hcode : validateGlueCommLine ailsaValidator comm =
        requireMatch ailsaValidator [.ip] (some glueIp) .glueIpInputInvalid := by
      simp only [validateGlueCommLine, hip, hns, isSome_strchr, hcomma, if_false, if_pos hadd]
      rw [bind_pure_unit]
    rw [hcode, requireMatch_eq_ok, List.any_cons, List.any_nil, Bool.or_false, input_ip_iff]
    exact (or_iff_left htwo).symm

theorem validateGlueIp_iff_example :
    validateGlueCommLine ailsaValidator { DnsaOptions.init with
      action := .addZone, type := .glue, glueIp := some "10.0.0.1,10.0.0.2".toList } = .ok () ↔
      (∃ q : Quad, "10.0.0.1,10.0.0.2".toList = q.text) ∨
        ∃ q q' : Quad, "10.0.0.1,10.0.0.2".toList = q.text ++ ',' :: q'.text :=
  validateGlueIp_iff _ _ (by decide) rfl rfl

/-! ## Splitting -/

/-- What a list of glue takes from a text : what is before the first comma, and what is between
that one and the next; or the text, and `none`. -/
def gluePair (s : CStr) : CStr × CStr :=
  match s.splitOn ',' with
  | first :: second :: _ => (first, second)
  | _ => (s, "none".toList)

theorem gluePair_of_notMem (h : ',' ∉ s) : gluePair s = (s, "none".toList) := by
  rw [gluePair, List.splitOn_eq_singleton h]

theorem gluePair_append (h : ',' ∉ s) (h' : ',' ∉ t) : gluePair (s ++ ',' :: t) = (s, t) := by
  rw [gluePair, List.splitOn_append_cons_self_of_not_mem h, List.splitOn_eq_singleton h']

theorem gluePair_append_append (h : ',' ∉ s) (h' : ',' ∉ t) (u : CStr) :
    gluePair (s ++ ',' :: (t ++ ',' :: u)) = (s, t) := by
  rw [gluePair, List.splitOn_append_cons_self_of_not_mem h,
    List.splitOn_append_cons_self_of_not_mem h']

/-- A text has no comma, one, or more. -/
theorem comma_cases (s : CStr) : ',' ∉ s ∨ (∃ u v, s = u ++ ',' :: v ∧ ',' ∉ u ∧ ',' ∉ v) ∨
    ∃ u v w, s = u ++ ',' :: (v ++ ',' :: w) ∧ ',' ∉ u ∧ ',' ∉ v := by
  by_cases h : ',' ∈ s
  · obtain ⟨u, t, rfl, hu⟩ := List.eq_append_cons_of_mem h
    by_cases ht : ',' ∈ t
    · obtain ⟨v, w, rfl, hv⟩ := List.eq_append_cons_of_mem ht
      exact .inr (.inr ⟨u, v, w, rfl, hu, hv⟩)
    · exact .inr (.inl ⟨u, t, rfl, hu, ht⟩)
  · exact .inl h

/-- Two texts at the end of a list. -/
theorem addStrings_eq {l : List AilsaData} {x y : CStr} (hx : x.length ≤ configLen)
    (hy : y.length ≤ configLen) :
    cmdbAddStringToList y (cmdbAddStringToList x l) = l ++ [.text x, .text y] := by
  rw [cmdbAddStringToList_of_length_le hx, cmdbAddStringToList_of_length_le hy, List.append_assoc]
  rfl

theorem strchr_eq_none (h : ',' ∉ s) : strchr s ',' = none :=
  Option.not_isSome_iff_eq_none.mp (mt isSome_strchr.mp h)

theorem drop_append_comma (s t : CStr) : (s ++ ',' :: t).drop (s.length + 1) = t := by
  rw [List.drop_length_add_append, List.drop_succ_cons, List.drop_zero]

/-- The name servers are split as they should be. -/
theorem dnsaSplitGlueNs_eq {l : List AilsaData} (h : s.length < domainLen) :
    dnsaSplitGlueNs (some s) l = .ok (l ++ [.text (gluePair s).1, .text (gluePair s).2]) := by
  have hfile : s.take fileLen = s := List.take_of_length_le (h.le.trans (by decide))
  have hle : s.length ≤ configLen := h.le
  rcases comma_cases s with hs | ⟨u, v, rfl, hu, hv⟩ | ⟨u, v, w, rfl, hu, hv⟩
  · rw [gluePair_of_notMem hs]
    simp only [dnsaSplitGlueNs, hfile, strchr_eq_none hs]
    rw [addStrings_eq hle (by decide)]
  · rw [gluePair_append hu hv]
    simp only [dnsaSplitGlueNs, hfile, strchr_append_cons hu, drop_append_comma,
      strchr_eq_none hv, cut_append]
    simp only [List.length_append, List.length_cons] at hle
    rw [addStrings_eq (by omega) (by omega)]
  · rw [gluePair_append_append hu hv]
    simp only [dnsaSplitGlueNs, hfile, strchr_append_cons hu, drop_append_comma,
      strchr_append_cons hv, cut_append]
    simp only [List.length_append, List.length_cons] at hle
    rw [addStrings_eq (by omega) (by omega)]

/-- The addresses keep what is behind the second comma. -/
theorem dnsaSplitGlueIp_eq {l : List AilsaData} (h : s.length < domainLen) :
    dnsaSplitGlueIp s l = l ++ [.text (gluePair s).1, .text (gluePair s).2] ↔
      s.count ',' ≤ 1 := by
  have hdomain : s.take domainLen = s := List.take_of_length_le h.le
  have hle : s.length ≤ configLen := h.le
  rcases comma_cases s with hs | ⟨u, v, rfl, hu, hv⟩ | ⟨u, v, w, rfl, hu, hv⟩
  · rw [gluePair_of_notMem hs, List.count_eq_zero.mpr hs]
    simp only [dnsaSplitGlueIp, hdomain, strchr_eq_none hs]
    rw [addStrings_eq hle (by decide)]
    simp
  · rw [gluePair_append hu hv]
    simp only [dnsaSplitGlueIp, hdomain, strchr_append_cons hu, drop_append_comma, cut_append]
    simp only [List.length_append, List.length_cons] at hle
    rw [addStrings_eq (by omega) (by omega)]
    simp [List.count_eq_zero.mpr hu, List.count_eq_zero.mpr hv]
  · rw [gluePair_append_append hu hv]
    simp only [dnsaSplitGlueIp, hdomain, strchr_append_cons hu, drop_append_comma, cut_append]
    simp only [List.length_append, List.length_cons] at hle
    rw [addStrings_eq (by omega) (by simp; omega)]
    simp [List.count_eq_zero.mpr hu, List.count_eq_zero.mpr hv]

/-- Names and addresses are split alike up to the second comma. -/
theorem splitGlue_iff (s : CStr) (l : List AilsaData) (h : s.length < domainLen) :
    (dnsaSplitGlueNs (some s) l = .ok (l ++ [.text (gluePair s).1, .text (gluePair s).2]) ∧
      dnsaSplitGlueIp s l = l ++ [.text (gluePair s).1, .text (gluePair s).2]) ↔
        s.count ',' ≤ 1 :=
  (and_iff_right (dnsaSplitGlueNs_eq h)).trans (dnsaSplitGlueIp_eq h)

theorem splitGlue_iff_example :
    (dnsaSplitGlueNs (some "10.0.0.1,10.0.0.2".toList) [] =
        .ok [.text "10.0.0.1".toList, .text "10.0.0.2".toList] ∧
      dnsaSplitGlueIp "10.0.0.1,10.0.0.2".toList [] =
        [.text "10.0.0.1".toList, .text "10.0.0.2".toList]) ↔
        "10.0.0.1,10.0.0.2".toList.count ',' ≤ 1 :=
  splitGlue_iff _ [] (by decide)

/-- Three addresses : the second entry holds two of them. -/
theorem not_splitGlue : ¬∀ (s : CStr) (l : List AilsaData), s.length < domainLen →
    dnsaSplitGlueNs (some s) l = .ok (l ++ [.text (gluePair s).1, .text (gluePair s).2]) ∧
      dnsaSplitGlueIp s l = l ++ [.text (gluePair s).1, .text (gluePair s).2] := by
  intro h
  exact absurd (h "10.0.0.1,10.0.0.2,10.0.0.3".toList [] (by decide)).2 (by decide)

end Cmdb
