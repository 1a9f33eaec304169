import Cmdb.DomainNames
import Cmdb.GlueAddresses

/-!
# Adding an `A` record

For the host `@` the checks of `validate_fwd_comm_line` ask that the destination of an `A` record
is an address, and then that the same destination is a name or a domain. No text is both, so
nothing can be added for the zone itself.

* `validate_name_eq_zero_iff`, `validate_resourceType_eq_zero_iff` : what the expressions accept;
* `validateAddress_iff` : the checks are right exactly for the commands on another host.
-/

namespace Cmdb

open CString DottedQuad Posix

variable {s : CStr}

/-! ## The expressions -/

def nameEre : Ere :=
  .cat (.cat (.set [('a', 'z'), ('A', 'Z'), ('0', '9')])
    (.rep 0 none (.set [('a', 'z'), ('A', 'Z'), ('0', '9'), ('\\', '\\'), ('-', '-')])))
    (.set [('a', 'z'), ('A', 'Z'), ('0', '9')])

/-- Letters and digits. -/
def alphanumEre : Ere := .rep 1 none (.set [('a', 'z'), ('A', 'Z'), ('0', '9')])

theorem regcomp_name : regcomp (regexps .name) = .ok nameEre := by decide +kernel

theorem regcomp_resourceType : regcomp (regexps .resourceType) = .ok alphanumEre := by
  decide +kernel

/-- A letter or digit first and last, and letters, digits, hyphens and backslashes between. -/
theorem validate_name_eq_zero_iff : ailsaValidateInput s .name = 0 ↔ TextData ['\\', '-'] s := by
  rw [ailsaValidateInput_eq_zero_iff regcomp_name, nameEre, mem_lang_enclosed, textData_iff]
  simp only [inRanges_middle, inRanges_alphanum]

theorem mem_lang_alphanumEre : s ∈ alphanumEre.lang ↔ s ≠ [] ∧ ∀ c ∈ s, c.isAlphanum := by
  rw [alphanumEre, mem_lang_plus_set]
  simp only [inRanges_alphanum]

theorem validate_resourceType_eq_zero_iff :
    ailsaValidateInput s .resourceType = 0 ↔ s ≠ [] ∧ ∀ c ∈ s, c.isAlphanum := by
  rw [ailsaValidateInput_eq_zero_iff regcomp_resourceType, mem_lang_alphanumEre]

theorem input_name_iff : ailsaValidator.input .name s = true ↔ ailsaValidateInput s .name = 0 :=
  input_iff (r := .name) regcomp_name

theorem input_domain_iff :
    ailsaValidator.input .domain s = true ↔ ailsaValidateInput s .domain = 0 :=
  input_iff (r := .domain) regcomp_domain

theorem input_resourceType_iff :
    ailsaValidator.input .resourceType s = true ↔ ailsaValidateInput s .resourceType = 0 :=
  input_iff (r := .resourceType) regcomp_resourceType

theorem not_isAlpha_of_isDigit {c : Char} (h : c.isDigit) : ¬c.isAlpha := by
  rw [isDigit_iff] at h
  rw [isAlpha_iff]
  rintro (⟨ha, -⟩ | ⟨ha, -⟩)
  · exact absurd (ha.trans h.2) (by decide)
  · exact absurd (ha.trans h.2) (by decide)

/-- A name has no dot. -/
theorem IsAddress.not_name (h : IsAddress s) : ailsaValidateInput s .name ≠ 0 := by
  obtain ⟨q, rfl⟩ := h
  intro hname
  have hdot : '.' ∈ q.text := by
    rw [← List.count_pos_iff, Quad.text, Quad.count_dot_hostText q (Nat.zero_le 3)]
    decide
  exact absurd ((validate_name_eq_zero_iff.mp hname).chars '.' hdot) (by decide)

/-- A label begins with a letter. -/
theorem IsAddress.not_domain (h : IsAddress s) : ailsaValidateInput s .domain ≠ 0 := by
  obtain ⟨q, rfl⟩ := h
  intro hdomain
  obtain ⟨n, labels, hne, hlabels, htext⟩ := validate_domain_eq_zero_iff.mp hdomain
  obtain ⟨l, hl⟩ := List.exists_mem_of_ne_nil labels hne
  obtain ⟨c, hc, halpha⟩ := (hlabels l hl).first
  have hmem : c ∈ q.text := by
    rw [htext]
    exact List.mem_append_left _ (mem_intercalate_dot.1 l hl (List.mem_of_mem_head? hc))
  rcases Quad.isDigit_or_dot_of_mem_text hmem with hdigit | rfl
  · exact not_isAlpha_of_isDigit hdigit halpha
  · exact absurd halpha (by decide)

/-! ## The command -/

/-- A command that adds an `A` record without a service. -/
structure AddressCommand (comm : DnsaOptions) (domain host dest : CStr) : Prop where
  action : comm.action = .addHost
  rtype : comm.rtype = some "A".toList
  service : comm.service = none
  domain : comm.domain = some domain
  host : comm.host = some host
  dest : comm.dest = some dest

/-- The record that is meant : an address for the zone itself, or for a host or a domain. -/
def AddressRecord (host dest : CStr) : Prop :=
  ailsaValidateInput dest .ip = 0 ∧
    (host = "@".toList ∨ ailsaValidateInput host .name = 0 ∨ ailsaValidateInput host .domain = 0)

variable {comm : DnsaOptions} {domain host dest : CStr}

theorem requireMatch_name_or_domain {e : DnsaUsage} :
    requireMatch ailsaValidator [.name, .domain] (some s) e = .ok () ↔
      ailsaValidateInput s .name = 0 ∨ ailsaValidateInput s .domain = 0 := by
  rw [requireMatch_eq_ok, List.any_cons, List.any_cons, List.any_nil, Bool.or_false,
    Bool.or_eq_true, input_name_iff, input_domain_iff]

theorem unit_bind_eq_ok {x y : Except DnsaUsage Unit} :
    (x >>= fun _ => y) = .ok () ↔ x = .ok () ∧ y = .ok () := by
  cases x with
  | error e => simp [bind, Except.bind]
  | ok u => simp [bind, Except.bind]

theorem sameText_at_iff : sameText s "@" = true ↔ s = "@".toList := by
  rw [sameText, decide_eq_true_iff, strncmpEq_comm, strncmpEq_iff (by decide), eq_comm]

/-- The checks accept what is meant, but not for the zone itself. -/
theorem validateRecord_address (h : AddressCommand comm domain host dest) :
    validateRecord ailsaValidator comm "A".toList = .ok () ↔
      AddressRecord host dest ∧ host ≠ "@".toList := by
  have hip : requireMatchIf ailsaValidator [.ip] comm.dest .destInputInvalid = .ok () ↔
      ailsaValidateInput dest .ip = 0 := by
    rw [h.dest, requireMatchIf, requireMatch_eq_ok, List.any_cons, List.any_nil, Bool.or_false,
      input_ip_iff, (validate_ip_iff dest).1, IsAddress]
  have hA : sameText "A".toList "A" = true := by decide
  rw [validateRecord, if_pos hA, unit_bind_eq_ok, hip, h.host, h.dest, AddressRecord]
  by_cases hhost : host = "@".toList
  · -- an address is neither a name nor a domain
    have hat : sameText host "@" = true := sameText_at_iff.mpr hhost
    dsimp only
    rw [if_pos hat, requireMatch_name_or_domain]
    constructor
    · rintro ⟨hdest, hname | hdomain⟩
      · exact absurd hname (IsAddress.not_name ((validate_ip_iff dest).1.mp hdest))
      · exact absurd hdomain (IsAddress.not_domain ((validate_ip_iff dest).1.mp hdest))
    · exact fun hno => absurd hhost hno.2
  · have hat : ¬sameText host "@" = true := mt sameText_at_iff.mp hhost
    dsimp only
    rw [if_neg hat, requireMatch_name_or_domain, or_iff_right hhost]
    exact (and_iff_left hhost).symm

/-- Behind the record nothing is left but the arguments of a glue zone. -/
theorem validateFwd_address (h : AddressCommand comm domain host dest)
    (hdomain : ailsaValidateInput domain .domain = 0) :
    validateFwdCommLine ailsaValidator comm = .ok () ↔
      validateRecord ailsaValidator comm "A".toList = .ok () ∧
        (comm.type = .glue → validateGlueCommLine ailsaValidator comm = .ok ()) := by
  have hrtype : requireMatchIf ailsaValidator [.resourceType] (some "A".toList)
      .rtypeInputInvalid = .ok () := by
    rw [requireMatchIf, requireMatch_eq_ok, List.any_cons, List.any_nil, Bool.or_false,
      input_resourceType_iff, validate_resourceType_eq_zero_iff]
    exact ⟨by decide, by simp⟩
  have hdom : requireMatchIf ailsaValidator [.domain] comm.domain .domainInputInvalid = .ok () := by
    rw [h.domain, requireMatchIf, requireMatch_eq_ok, List.any_cons, List.any_nil, Bool.or_false,
      input_domain_iff]
    exact hdomain
  have hdelete : validateDelete comm = .ok () := by
    rw [validateDelete, h.action]
    rfl
  have hname : validateName ailsaValidator comm = .ok () := by
    rw [validateName, h.action, h.rtype, h.host]
    rfl
  have hservice : requireMatchIf ailsaValidator [.name] comm.service .serviceInputInvalid =
      .ok () := by
    rw [h.service]
    rfl
  simp only [validateFwdCommLine, unit_bind_eq_ok, hrtype, hdom, h.rtype, hdelete, hname,
    hservice, h.action, true_and]
  refine and_congr_right fun _ => ?_
  by_cases hglue : comm.type = .glue <;> simp [hglue, pure, Except.pure]

/-- The checks are right for the commands on another host; one that a later `-G` has made a
command on a glue zone has the arguments of that one besides. -/
theorem validateAddress_iff (comm : DnsaOptions) (domain host dest : CStr)
    (h : AddressCommand comm domain host dest) (hdomain : ailsaValidateInput domain .domain = 0) :
    (validateFwdCommLine ailsaValidator comm = .ok () ↔ AddressRecord host dest) ↔
      ¬(AddressRecord host dest ∧ (host = "@".toList ∨
        comm.type = .glue ∧ validateGlueCommLine ailsaValidator comm ≠ .ok ())) := by
  rw [validateFwd_address h hdomain, validateRecord_address h, and_assoc, and_iff_left_iff_imp,
    not_and, not_or, ne_eq, ne_eq, not_and_not_right]

/-- `dnsa -a -n uk -h host -i 10.0.0.1 -t A`. -/
def ukAddress (host : CStr) : DnsaOptions := { DnsaOptions.init with
  action := .addHost
  type := .forward
  rtype := some "A".toList
  domain := some "uk".toList
  host := some host
  dest := some "10.0.0.1".toList }

theorem ukAddress_command (host : CStr) :
    AddressCommand (ukAddress host) "uk".toList host "10.0.0.1".toList :=
  ⟨rfl, rfl, rfl, rfl, rfl, rfl⟩

theorem validateAddress_iff_example :
    (validateFwdCommLine ailsaValidator (ukAddress "www".toList) = .ok () ↔
      AddressRecord "www".toList "10.0.0.1".toList) ↔
      ¬(AddressRecord "www".toList "10.0.0.1".toList ∧ ("www".toList = "@".toList ∨
        (ukAddress "www".toList).type = .glue ∧
          validateGlueCommLine ailsaValidator (ukAddress "www".toList) ≠ .ok ())) :=
  validateAddress_iff _ _ _ _ (ukAddress_command _) validate_uk

/-- The zone itself gets no address. -/
theorem not_validateAddress : ¬∀ (comm : DnsaOptions) (domain host dest : CStr),
    AddressCommand comm domain host dest → ailsaValidateInput domain .domain = 0 →
      (validateFwdCommLine ailsaValidator comm = .ok () ↔ AddressRecord host dest) := by
  intro h
  have hdest : ailsaValidateInput "10.0.0.1".toList .ip = 0 :=
    (validate_ip_iff _).1.mpr ⟨⟨10, 0, 0, 1⟩, by decide⟩
  have hmeant : AddressRecord "@".toList "10.0.0.1".toList := ⟨hdest, .inl rfl⟩
  have hcommand := ukAddress_command "@".toList
  have hok := (h _ _ _ _ hcommand validate_uk).mpr hmeant
  exact ((validateRecord_address hcommand).mp
    ((validateFwd_address hcommand validate_uk).mp hok).1).2 rfl

end Cmdb
