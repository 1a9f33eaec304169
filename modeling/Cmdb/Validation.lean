import Cmdb.CString
import Cmdb.DottedQuad
import Cmdb.Ere
import Cmdb.NetRange

/-!
# Validation of input

`ailsa_validate_input` matches a text with one of the expressions of `regexps`. In C a
backslash is written twice there, so one is left for the expression, and within brackets that
one is a character of the set.

* `IP_REGEX` matches the texts of addresses and nothing else (`validate_ip_iff`);
* `TXTRR_REGEX` has the range from backslash to backslash where a hyphen was meant
  (`validate_txtrr_agrees_iff`).
-/

namespace Cmdb

open CString DottedQuad Posix

/-! ## The expressions -/

/-- The indices of `regexps`. -/
inductive RegexIndex
  | uuid | name | id | customer | coid | mac | ip | domain | path | logvol | fs | address | dev
  | capacity | osVer | postcode | url | phone | email | txtrr | cn | dc | timezone
  | packageField | resourceType | systemPackageArg
deriving DecidableEq, Repr

def regexps : RegexIndex → CStr
  | .uuid =>
    "^[a-fA-F0-9]{8}-[a-fA-F0-9]{4}-[a-fA-F0-9]{4}-[a-fA-F0-9]{4}-[a-fA-F0-9]{12}$".toList
  | .name => "^[a-zA-Z0-9][a-zA-Z0-9\\-]*[a-zA-Z0-9]$".toList
  | .id => "^[0-9]+$".toList
  | .customer => "^[a-zA-Z0-9]*[a-zA-Z0-9\\_\\ \\\x27\\.\\-]*[a-zA-Z0-9]$".toList
  | .coid => "^[A-Z0-9]{4,14}[A-Z0-9]$".toList
  | .mac =>
    "^[a-f0-9]{2}:[a-f0-9]{2}:[a-f0-9]{2}:[a-f0-9]{2}:[a-f0-9]{2}:[a-f0-9]{2}$".toList
  | .ip =>
    ("^(([0-9]|[1-9][0-9]|1[0-9]{2}|2[0-4][0-9]|25[0-5])\\.){3}" ++
      "([0-9]|[1-9][0-9]|1[0-9]{2}|2[0-4][0-9]|25[0-5])$").toList
  | .domain =>
    ("^(([a-zA-Z]|[a-zA-Z][a-zA-Z0-9\\-]*[a-zA-Z0-9])\\.)*" ++
      "([A-Za-z]|[A-Za-z][A-Za-z0-9\\-]*[A-Za-z0-9])\\.*$").toList
  | .path => "^/([a-zA-Z0-9]*)(/([a-zA-Z0-9]+))*$".toList
  | .logvol => "^[a-zA-Z0-9]*[a-zA-Z0-9\\_]*[a-zA-Z0-9]$".toList
  | .fs => "^[a-zA-Z0-9]+$".toList
  | .address => "^[a-zA-Z0-9][a-zA-Z0-9\\ \\,\\.\\_\\-]*[a-zA-Z0-9]$".toList
  | .dev => "^[a-z][a-z0-9]*$".toList
  | .capacity => "^[0-9]*\\ [TGM]B$".toList
  | .osVer => "^[0-9]*\\.?[0-9]*$".toList
  | .postcode => "^[A-Z][A-Z]?[1-9][0-9]?\\ ?[1-9][A-Z]{2}$".toList
  | .url => "^([a-z]{1,8}\\:\\/{2})?(([a-z0-9]*([a-z0-9][\\-\\.])?[a-z0-9])+/?)*$".toList
  | .phone => "^\\+?[0-9]*[0-9\\ ]*[0-9]$".toList
  | .email =>
    "^[a-zA-Z0-9]+[a-zA-Z0-9\\.\\_\\-]*@[a-zA-Z0-9]+[a-zA-Z0-9\\.\\-]+[a-zA-Z]*$".toList
  | .txtrr => "^[a-zA-Z0-9][a-zA-Z0-9\\ \\,\\.\\-\\_\\:]*[a-zA-Z0-9]$".toList
  | .cn => "^cn\\=[a-zA-Z0-9]*(\\,dc\\=([a-zA-Z]|[a-zA-Z][a-zA-Z0-9\\-]*[a-zA-Z0-9]))*$".toList
  | .dc =>
    ("^dc\\=([a-zA-Z]|[a-zA-Z][a-zA-Z0-9\\-]*[a-zA-Z0-9])" ++
      "(\\,dc\\=([a-zA-Z]|[a-zA-Z][a-zA-Z0-9\\-]*[a-zA-Z0-9]))*$").toList
  | .timezone => "^[a-zA-Z]*[a-zA-Z0-9]*[\\-/]*[a-zA-Z0-9]*$".toList
  | .packageField =>
    "^[a-zA-Z]+[a-zA-Z0-9]*[\\-]?[a-zA-Z0-9]*/[a-zA-Z0-9]+([\\_\\-]?[a-zA-Z0-9])*$".toList
  | .resourceType => "^[a-zA-Z0-9]+$".toList
  | .systemPackageArg => "^[a-zA-Z0-9%]+[a-zA-Z0-9\\ \\,\\@\\.]+$".toList

/-- The code of `regcomp`. -/
def regErrorCode : RegError → ℤ
  | .unsupported => 2
  | .eescape => 5
  | .ebrack => 7
  | .eparen => 8
  | .ebrace => 9
  | .badbr => 10
  | .erange => 11
  | .espace => 12
  | .badrpt => 13

/-- `ailsa_validate_input` : `0` for a match, `-1` for none, and a positive code for an
expression that does not compile. -/
def ailsaValidateInput (input : CStr) (test : RegexIndex) : ℤ :=
  match regcomp (regexps test) with
  | .error e => regErrorCode e
  | .ok re => if regexec re input then 0 else -1

theorem ailsaValidateInput_eq_zero_iff {test : RegexIndex} {re : Ere} {s : CStr}
    (h : regcomp (regexps test) = .ok re) : ailsaValidateInput s test = 0 ↔ s ∈ re.lang := by
  rw [← regexec_iff, ailsaValidateInput, h]
  by_cases hs : regexec re s = true
  · simp [hs]
  · simp [hs]

/-! ## Addresses -/

/-- The expression of an octet : up to `9`, up to `99`, up to `199`, up to `249` and up to
`255`. -/
def octetEre : Ere :=
  .alt (.alt (.alt (.alt (.set [('0', '9')]) (.cat (.set [('1', '9')]) (.set [('0', '9')])))
    (.cat (.set [('1', '1')]) (.rep 2 (some 2) (.set [('0', '9')]))))
    (.cat (.cat (.set [('2', '2')]) (.set [('0', '4')])) (.set [('0', '9')])))
    (.cat (.cat (.set [('2', '2')]) (.set [('5', '5')])) (.set [('0', '5')]))

def ipEre : Ere := .cat (.rep 3 (some 3) (.cat octetEre (.set [('.', '.')]))) octetEre

theorem regcomp_ip : regcomp (regexps .ip) = .ok ipEre := by decide +kernel

variable {s w : CStr}

/-- The expression stands for the decimal numbers with `P`. -/
def Denotes (a : Ere) (P : ℕ → Prop) : Prop := ∀ w, w ∈ a.lang ↔ ∃ n, P n ∧ w = octetText n

theorem octetText_of_lt {n : ℕ} (h : n < 10) : octetText n = [n.digitChar] :=
  Nat.toDigits_of_lt_base h

theorem octetText_append {n d : ℕ} (hn : 0 < n) (hd : d < 10) :
    octetText n ++ octetText d = octetText (10 * n + d) :=
  Nat.toDigits_append_toDigits (by decide) hn hd

theorem toNat_digitChar {d : ℕ} (h : d < 10) : d.digitChar.toNat = 48 + d := by
  interval_cases d <;> rfl

theorem between_digitChar {lo hi : ℕ} (hlo : lo < 10) (hhi : hi < 10) {c : Char} :
    lo.digitChar ≤ c ∧ c ≤ hi.digitChar ↔ ∃ d, lo ≤ d ∧ d ≤ hi ∧ c = d.digitChar := by
  simp only [Char.le_def, UInt32.le_iff_toNat_le]
  change lo.digitChar.toNat ≤ c.toNat ∧ c.toNat ≤ hi.digitChar.toNat ↔ _
  rw [toNat_digitChar hlo, toNat_digitChar hhi]
  constructor
  · rintro ⟨h1, h2⟩
    refine ⟨c.toNat - 48, by omega, by omega, Char.toNat_inj.mp ?_⟩
    rw [toNat_digitChar (by omega)]
    omega
  · rintro ⟨d, h1, h2, rfl⟩
    rw [toNat_digitChar (by omega)]
    omega

theorem denotes_set (lo hi : ℕ) (hlo : lo < 10) (hhi : hi < 10) :
    Denotes (.set [(lo.digitChar, hi.digitChar)]) fun n => lo ≤ n ∧ n ≤ hi := by
  intro w
  rw [mem_lang_set]
  constructor
  · rintro ⟨c, ⟨r, hr, hc⟩, rfl⟩
    rw [List.mem_singleton.mp hr] at hc
    obtain ⟨d, hd, hd', rfl⟩ := (between_digitChar hlo hhi).mp hc
    exact ⟨d, ⟨hd, hd'⟩, (octetText_of_lt (by omega)).symm⟩
  · rintro ⟨n, ⟨hn, hn'⟩, rfl⟩
    have hbetween := (between_digitChar hlo hhi).mpr ⟨n, hn, hn', rfl⟩
    exact ⟨n.digitChar, ⟨_, List.mem_singleton.mpr rfl, hbetween⟩, octetText_of_lt (by omega)⟩

theorem Denotes.alt {a b : Ere} {P Q : ℕ → Prop} (ha : Denotes a P) (hb : Denotes b Q) :
    Denotes (.alt a b) fun n => P n ∨ Q n := by
  intro w
  rw [mem_lang_alt, ha, hb, ← exists_or]
  simp only [or_and_right]

/-- A number with one more digit. -/
theorem Denotes.cat {a b : Ere} {P Q : ℕ → Prop} (ha : Denotes a P) (hb : Denotes b Q)
    (hP : ∀ n, P n → 0 < n) (hQ : ∀ n, Q n → n < 10) :
    Denotes (.cat a b) fun n => P (n / 10) ∧ Q (n % 10) := by
  intro w
  rw [mem_lang_cat]
  constructor
  · rintro ⟨u, hu, v, hv, rfl⟩
    obtain ⟨n, hn, rfl⟩ := (ha u).mp hu
    obtain ⟨d, hd, rfl⟩ := (hb v).mp hv
    have hlt := hQ d hd
    refine ⟨10 * n + d, ⟨?_, ?_⟩, octetText_append (hP n hn) hlt⟩
    · rwa [Nat.mul_add_div (by decide), Nat.div_eq_of_lt hlt, Nat.add_zero]
    · rwa [Nat.mul_add_mod, Nat.mod_eq_of_lt hlt]
  · rintro ⟨n, ⟨hn, hd⟩, rfl⟩
    refine ⟨_, (ha _).mpr ⟨n / 10, hn, rfl⟩, _, (hb _).mpr ⟨n % 10, hd, rfl⟩, ?_⟩
    rw [octetText_append (hP _ hn) (hQ _ hd), Nat.div_add_mod]

theorem Denotes.cat_twice {a b : Ere} {P : ℕ → Prop} (h : Denotes (.cat (.cat a b) b) P) :
    Denotes (.cat a (.rep 2 (some 2) b)) P := by
  intro w
  rw [← h w]
  simp only [mem_lang_cat, mem_lang_times]
  constructor
  · rintro ⟨u, hu, _, ⟨ws, rfl, hlen, hws⟩, rfl⟩
    obtain ⟨x, y, rfl⟩ := List.length_eq_two.mp hlen
    exact ⟨u ++ x, ⟨u, hu, x, hws x (by simp), rfl⟩, y, hws y (by simp), by simp⟩
  · rintro ⟨_, ⟨u, hu, x, hx, rfl⟩, y, hy, rfl⟩
    exact ⟨u, hu, x ++ y, ⟨[x, y], by simp, rfl, by simp [hx, hy]⟩, by simp⟩

theorem denotes_octetEre : Denotes octetEre (· < 256) := by
  have hdigit : Denotes (.set [('0', '9')]) _ := denotes_set 0 9 (by decide) (by decide)
  have hpos : Denotes (.set [('1', '9')]) _ := denotes_set 1 9 (by decide) (by decide)
  have hone : Denotes (.set [('1', '1')]) _ := denotes_set 1 1 (by decide) (by decide)
  have htwo : Denotes (.set [('2', '2')]) _ := denotes_set 2 2 (by decide) (by decide)
  have hfour : Denotes (.set [('0', '4')]) _ := denotes_set 0 4 (by decide) (by decide)
  have hfive : Denotes (.set [('5', '5')]) _ := denotes_set 5 5 (by decide) (by decide)
  have hlast : Denotes (.set [('0', '5')]) _ := denotes_set 0 5 (by decide) (by decide)
  -- two digits, and three from `100`, from `200` and from `250` on
  have h99 := hpos.cat hdigit (by omega) (by omega)
  have h199 := (hone.cat hdigit (by omega) (by omega)).cat hdigit (by omega) (by omega)
  have h249 := (htwo.cat hfour (by omega) (by omega)).cat hdigit (by omega) (by omega)
  have h255 := (htwo.cat hfive (by omega) (by omega)).cat hlast (by omega) (by omega)
  have hall := (((hdigit.alt h99).alt h199.cat_twice).alt h249).alt h255
  intro w
  unfold octetEre
  rw [hall w]
  refine exists_congr fun n => and_congr_left fun _ => ?_
  omega

theorem text_eq_flatten (q : Quad) : q.text =
    [octetText q.a ++ ['.'], octetText q.b ++ ['.'], octetText q.c ++ ['.']].flatten ++
      octetText q.d := by
  rw [Quad.text_eq_netText_append q (Nat.le_refl 3)]
  simp [Quad.netText, Quad.hostText, Quad.octets, List.intercalate]

/-- What the expression matches are the texts of addresses. -/
theorem mem_lang_ipEre : s ∈ ipEre.lang ↔ ∃ q : Quad, s = q.text := by
  rw [ipEre, mem_lang_cat]
  constructor
  · rintro ⟨u, hu, v, hv, rfl⟩
    obtain ⟨ws, rfl, hlen, hws⟩ := (mem_lang_times 3).mp hu
    have hnet : ∀ w ∈ ws, ∃ o : Fin 256, w = octetText o ++ ['.'] := by
      intro w hw
      obtain ⟨x, hx, y, hy, rfl⟩ := mem_lang_cat.mp (hws w hw)
      obtain ⟨n, hn, rfl⟩ := (denotes_octetEre x).mp hx
      obtain ⟨c, ⟨r, hr, hc⟩, rfl⟩ := mem_lang_set.mp hy
      rw [List.mem_singleton.mp hr] at hc
      rw [le_antisymm hc.2 hc.1]
      exact ⟨⟨n, hn⟩, rfl⟩
    obtain ⟨x, y, z, rfl⟩ := List.length_eq_three.mp hlen
    obtain ⟨a, rfl⟩ := hnet x (by simp)
    obtain ⟨b, rfl⟩ := hnet y (by simp)
    obtain ⟨c, rfl⟩ := hnet z (by simp)
    obtain ⟨d, hd, rfl⟩ := (denotes_octetEre v).mp hv
    exact ⟨⟨a, b, c, ⟨d, hd⟩⟩, (text_eq_flatten ⟨a, b, c, ⟨d, hd⟩⟩).symm⟩
  · rintro ⟨q, rfl⟩
    have hoctet : ∀ o : Fin 256, octetText o ∈ octetEre.lang := fun o =>
      (denotes_octetEre _).mpr ⟨o, o.isLt, rfl⟩
    have hdot : ['.'] ∈ (Ere.set [('.', '.')]).lang :=
      mem_lang_set.mpr ⟨'.', ⟨_, List.mem_singleton.mpr rfl, le_refl _, le_refl _⟩, rfl⟩
    have hclosed : ∀ o : Fin 256, octetText o ++ ['.'] ∈
        (Ere.cat octetEre (.set [('.', '.')])).lang := fun o =>
      mem_lang_cat.mpr ⟨_, hoctet o, _, hdot, rfl⟩
    rw [text_eq_flatten]
    refine ⟨_, (mem_lang_times 3).mpr ⟨_, rfl, rfl, ?_⟩, _, hoctet q.d, rfl⟩
    simp only [List.forall_mem_cons, hclosed, List.not_mem_nil, false_imp_iff, implies_true,
      and_self]

theorem convertBinIpv4ToText_eq_ok {n : ℕ} {q : Quad} (hn : 0 < n) (hlt : n < 2 ^ 32) :
    convertBinIpv4ToText n = .ok q.text ↔ n = q.toNat := by
  rw [convertBinIpv4ToText, if_neg (by omega), Except.ok.injEq, inetNtop, Quad.text_inj]
  refine ⟨fun h => ?_, fun h => by rw [h, Quad.ofNat_toNat]⟩
  rw [← h, Quad.toNat_ofNat hlt]

/-- `IP_REGEX` matches exactly the texts of addresses, which are those that are made of the
numbers of 32 bits, and every one of them is read back. -/
theorem validate_ip_iff (s : CStr) :
    (ailsaValidateInput s .ip = 0 ↔ ∃ q : Quad, s = q.text) ∧
      (ailsaValidateInput s .ip = 0 ↔
        (∃ n, 0 < n ∧ n < 2 ^ 32 ∧ convertBinIpv4ToText n = .ok s) ∨ s = "0.0.0.0".toList) ∧
      (ailsaValidateInput s .ip = 0 → ∃ n, convertTextIpv4ToBin s = .ok n) := by
  have hquad : ailsaValidateInput s .ip = 0 ↔ ∃ q : Quad, s = q.text := by
    rw [ailsaValidateInput_eq_zero_iff regcomp_ip, mem_lang_ipEre]
  have hzero : "0.0.0.0".toList = (Quad.ofNat 0).text := by decide
  refine ⟨hquad, ?_, fun h => ?_⟩
  · rw [hquad, hzero]
    constructor
    · rintro ⟨q, rfl⟩
      rcases Nat.eq_zero_or_pos q.toNat with h0 | hpos
      · exact .inr (by rw [← h0, Quad.ofNat_toNat])
      · exact .inl ⟨q.toNat, hpos, q.toNat_lt, (convertBinIpv4ToText_eq_ok hpos q.toNat_lt).mpr rfl⟩
    · rintro (⟨n, hn, -, h⟩ | h)
      · rw [convertBinIpv4ToText, if_neg (by omega), Except.ok.injEq] at h
        exact ⟨_, h.symm⟩
      · exact ⟨_, h⟩
  · obtain ⟨q, rfl⟩ := hquad.mp h
    exact ⟨q.toNat, by rw [convertTextIpv4ToBin, inetPton_text]⟩

/-! ## Text records -/

/-- Two characters or more, a letter or digit first and last, and letters, digits and `others`
in between. -/
structure TextData (others : List Char) (s : CStr) : Prop where
  two_le : 2 ≤ s.length
  first : ∃ c ∈ s.head?, c.isAlphanum
  last : ∃ c ∈ s.getLast?, c.isAlphanum
  chars : ∀ c ∈ s, c.isAlphanum ∨ c ∈ others

/-- Space, comma, dot, underscore and colon. -/
def textPunctuation : List Char := [' ', ',', '.', '_', ':']

theorem exists_ends (h : 2 ≤ s.length) : ∃ a m b, s = a :: (m ++ [b]) := by
  obtain ⟨a, rest, rfl⟩ := List.exists_cons_of_length_pos (Nat.lt_of_lt_of_le Nat.two_pos h)
  have hne : rest ≠ [] := by
    rintro rfl
    exact absurd h (Nat.lt_irrefl 1)
  exact ⟨a, rest.dropLast, rest.getLast hne, by rw [List.dropLast_concat_getLast]⟩

theorem getLast?_ends {a b : Char} {m : CStr} : (a :: (m ++ [b])).getLast? = some b := by
  rw [← List.cons_append, List.getLast?_concat]

theorem forall_mem_ends {p : Char → Prop} {a b : Char} {m : CStr} :
    (∀ c ∈ a :: (m ++ [b]), p c) ↔ p a ∧ (∀ c ∈ m, p c) ∧ p b := by
  rw [List.forall_mem_cons, List.forall_mem_append, List.forall_mem_singleton]

/-- A character that does not occur need not be allowed. -/
theorem allowed_of_cons {others : List Char} {d : Char}
    (h : ∀ c ∈ s, c.isAlphanum ∨ c ∈ d :: others) (hd : d ∉ s) :
    ∀ c ∈ s, c.isAlphanum ∨ c ∈ others := by
  intro c hc
  refine (h c hc).imp_right fun hmem => List.mem_of_ne_of_mem ?_ hmem
  rintro rfl
  exact hd hc

theorem textData_iff {others : List Char} :
    TextData others s ↔ ∃ a m b, s = a :: (m ++ [b]) ∧ a.isAlphanum ∧
      (∀ c ∈ m, c.isAlphanum ∨ c ∈ others) ∧ b.isAlphanum := by
  constructor
  · rintro ⟨hlen, ⟨c, hfirst, hc⟩, ⟨d, hlast, hd⟩, hchars⟩
    obtain ⟨a, m, b, rfl⟩ := exists_ends hlen
    rw [getLast?_ends] at hlast
    cases hfirst
    cases hlast
    exact ⟨_, m, _, rfl, hc, (forall_mem_ends.mp hchars).2.1, hd⟩
  · rintro ⟨a, m, b, rfl, ha, hm, hb⟩
    exact ⟨by simp, ⟨a, rfl, ha⟩, ⟨b, getLast?_ends, hb⟩,
      forall_mem_ends.mpr ⟨.inl ha, hm, .inl hb⟩⟩

/-- One more character is allowed : it is the only difference. -/
theorem textData_cons_iff (others : List Char) (d : Char) (hd : ¬(d.isAlphanum ∨ d ∈ others)) :
    TextData others s ↔ TextData (d :: others) s ∧ d ∉ s := by
  constructor
  · intro h
    refine ⟨⟨h.two_le, h.first, h.last, fun c hc => ?_⟩, fun hds => hd (h.chars d hds)⟩
    exact (h.chars c hc).imp_right (List.mem_cons_of_mem d)
  · rintro ⟨h, hds⟩
    exact ⟨h.two_le, h.first, h.last, allowed_of_cons h.chars hds⟩

theorem textData_swap {others : List Char} {d e : Char} :
    TextData (d :: e :: others) s ↔ TextData (e :: d :: others) s := by
  have hswap : ∀ c, c ∈ d :: e :: others ↔ c ∈ e :: d :: others := fun c =>
    (List.Perm.swap e d others).mem_iff
  constructor
  · exact fun h => ⟨h.two_le, h.first, h.last, fun c hc => (h.chars c hc).imp_right (hswap c).mp⟩
  · exact fun h => ⟨h.two_le, h.first, h.last, fun c hc => (h.chars c hc).imp_right (hswap c).mpr⟩

/-- What the expression is compiled to : the hyphen of `\\.\\-\\_` is between two backslashes. -/
def txtrrEre : Ere :=
  .cat (.cat (.set [('a', 'z'), ('A', 'Z'), ('0', '9')])
    (.rep 0 none (.set [('a', 'z'), ('A', 'Z'), ('0', '9'), ('\\', '\\'), (' ', ' '),
      ('\\', '\\'), (',', ','), ('\\', '\\'), ('.', '.'), ('\\', '\\'), ('_', '_'), ('\\', '\\'),
      (':', ':')])))
    (.set [('a', 'z'), ('A', 'Z'), ('0', '9')])

theorem regcomp_txtrr : regcomp (regexps .txtrr) = .ok txtrrEre := by decide +kernel

theorem inRanges_alphanum {c : Char} :
    InRanges [('a', 'z'), ('A', 'Z'), ('0', '9')] c ↔ c.isAlphanum := by
  simp only [inRanges_cons, inRanges_nil, or_false, isAlphanum_iff]

/-- The text has a backslash where a hyphen was meant. -/
theorem validate_txtrr_eq_zero_iff :
    ailsaValidateInput s .txtrr = 0 ↔ TextData ('\\' :: textPunctuation) s := by
  rw [ailsaValidateInput_eq_zero_iff regcomp_txtrr, txtrrEre, mem_lang_enclosed, textData_iff]
  have hpunctuation : ∀ c, c ∈ ['\\', ' ', '\\', ',', '\\', '.', '\\', '_', '\\', ':'] ↔
      c ∈ '\\' :: textPunctuation := by
    intro c
    simp only [textPunctuation, List.mem_cons, List.not_mem_nil, or_false]
    tauto
  have hmiddle : ∀ c, InRanges ([('a', 'z'), ('A', 'Z'), ('0', '9')] ++
      ['\\', ' ', '\\', ',', '\\', '.', '\\', '_', '\\', ':'].map fun d => (d, d)) c ↔
        c.isAlphanum ∨ c ∈ '\\' :: textPunctuation := by
    intro c
    rw [inRanges_append, inRanges_alphanum, inRanges_map_self, hpunctuation]
  simp only [List.map_cons, List.map_nil, List.cons_append, List.nil_append] at hmiddle
  simp only [hmiddle, inRanges_alphanum]

/-- `TXTRR_REGEX` says what it was meant to say, but for the texts with a hyphen or with a
backslash : of the two kinds the first is refused and the second let through. -/
theorem validate_txtrr_agrees_iff (s : CStr) :
    (ailsaValidateInput s .txtrr = 0 ↔ TextData ('-' :: textPunctuation) s) ↔
      ¬(TextData ('-' :: '\\' :: textPunctuation) s ∧ ¬('-' ∈ s ↔ '\\' ∈ s)) := by
  rw [validate_txtrr_eq_zero_iff, textData_cons_iff ('\\' :: textPunctuation) '-' (by decide),
    textData_cons_iff ('-' :: textPunctuation) '\\' (by decide),
    textData_swap (d := '\\') (e := '-')]
  tauto

/-- A hyphen in the data of a record is refused. -/
theorem not_validate_txtrr :
    ¬∀ s, ailsaValidateInput s .txtrr = 0 ↔ TextData ('-' :: textPunctuation) s := by
  intro h
  have hdata : TextData ('-' :: textPunctuation) ['a', '-', 'b'] :=
    ⟨by decide, ⟨'a', rfl, rfl⟩, ⟨'b', rfl, rfl⟩, by simp⟩
  have hback := validate_txtrr_eq_zero_iff.mp ((h _).mpr hdata)
  exact absurd (hback.chars '-' (by simp)) (by decide)

end Cmdb
