import Cmdb.AddressRecords
import Cmdb.Getopt
import Cmdb.Locales

/-!
# Checks of the fields that are given

`cbcpart` checks its fields in one chain of `else if`, so that a field is checked only if none
of those before it is given. `cbclocale` checks all of its fields, and drops the code.

* `validateCbcpart_eq_ok_iff` : only the first of the given fields counts;
* `optionChecks_iff` : when every given field is checked all the same.
-/

namespace Cmdb

open CString Getopt Posix

/-- A field with the expression it has to match. -/
abbrev CheckedField := CStr × RegexIndex

/-- The expression accepts the field. -/
def Accepted (f : CheckedField) : Prop := ailsaValidateInput f.1 f.2 = 0

/-- The fields that are given. -/
def givenFields (fields : List (Option CStr × RegexIndex)) : List CheckedField :=
  fields.filterMap fun f => f.1.map fun s => (s, f.2)

/-! ## Partitions -/

/-- The fields of the command line of `cbcpart` (`cbcpart_comm_line_s`) that are checked. -/
structure CbcpartCommLine where
  fs : Option CStr
  logVol : Option CStr
  partition : Option CStr
  option : Option CStr
  scheme : Option CStr
deriving DecidableEq, Repr

/-- The codes of the checks. -/
inductive CbcpartUsage
  | filesystemInvalid | logVolInvalid | fsPathInvalid | partOptionInvalid | partSchemeInvalid
deriving DecidableEq, Repr

/-- `validate_cbcpart_comm_line`. -/
def validateCbcpartCommLine (cpl : CbcpartCommLine) : Except CbcpartUsage Unit :=
  match cpl.fs with
  | some fs => if ailsaValidateInput fs .fs < 0 then .error .filesystemInvalid else .ok ()
  | none =>
  match cpl.logVol with
  | some logVol => if ailsaValidateInput logVol .logvol < 0 then .error .logVolInvalid else .ok ()
  | none =>
  match cpl.partition with
  | some partition =>
    if ailsaValidateInput partition .path < 0 then .error .fsPathInvalid else .ok ()
  | none =>
  match cpl.option with
  | some option => if ailsaValidateInput option .fs < 0 then .error .partOptionInvalid else .ok ()
  | none =>
  match cpl.scheme with
  | some scheme => if ailsaValidateInput scheme .name < 0 then .error .partSchemeInvalid else .ok ()
  | none => .ok ()

/-- The given fields, in the order of the chain. -/
def CbcpartCommLine.given (cpl : CbcpartCommLine) : List CheckedField :=
  givenFields [(cpl.fs, .fs), (cpl.logVol, .logvol), (cpl.partition, .path), (cpl.option, .fs),
    (cpl.scheme, .name)]

variable {cpl : CbcpartCommLine} {s : CStr} {test : RegexIndex}

/-- An expression that compiles refuses with a negative code. -/
theorem not_validate_neg_iff (h : (regcomp (regexps test)).toOption.isSome) :
    ¬ailsaValidateInput s test < 0 ↔ Accepted (s, test) := by
  obtain ⟨re, hre⟩ := Option.isSome_iff_exists.mp h
  cases hc : regcomp (regexps test) with
  | error e =>
    rw [hc] at hre
    cases hre
  | ok re' =>
    rw [ailsaValidateInput_eq, not_validateString_neg_iff hc, Accepted,
      ailsaValidateInput_eq_zero_iff hc]

theorem isSome_regcomp : ∀ test ∈ [RegexIndex.fs, .logvol, .path, .name],
    (regcomp (regexps test)).toOption.isSome := by
  decide +kernel

theorem regcomp_fs : regcomp (regexps .fs) = .ok alphanumEre := by decide +kernel

/-- Only the first of the given fields counts. -/
theorem validateCbcpart_eq_ok_iff :
    validateCbcpartCommLine cpl = .ok () ↔ ∀ f ∈ cpl.given.head?, Accepted f := by
  have hfs : ∀ s, ¬ailsaValidateInput s .fs < 0 ↔ _ := fun _ =>
    not_validate_neg_iff (isSome_regcomp .fs (by decide))
  have hlogvol : ∀ s, ¬ailsaValidateInput s .logvol < 0 ↔ _ := fun _ =>
    not_validate_neg_iff (isSome_regcomp .logvol (by decide))
  have hpath : ∀ s, ¬ailsaValidateInput s .path < 0 ↔ _ := fun _ =>
    not_validate_neg_iff (isSome_regcomp .path (by decide))
  have hname : ∀ s, ¬ailsaValidateInput s .name < 0 ↔ _ := fun _ =>
    not_validate_neg_iff (isSome_regcomp .name (by decide))
  obtain ⟨fs, logVol, partition, option, scheme⟩ := cpl
  unfold validateCbcpartCommLine CbcpartCommLine.given givenFields
  cases fs with
  | some fs => simp [hfs]
  | none =>
  cases logVol with
  | some logVol => simp [hlogvol]
  | none =>
  cases partition with
  | some partition => simp [hpath]
  | none =>
  cases option with
  | some option => simp [hfs]
  | none =>
  cases scheme with
  | some scheme => simp [hname]
  | none => simp

/-! ## Locales -/

/-- What `cbclocale` is to do. -/
inductive LocaleAction
  | none | add | display | list | server | remove | setDefault
deriving DecidableEq, Repr

/-- The command line of `cbclocale` while it is parsed. -/
structure LocaleOptions extends LocaleCommLine where
  action : LocaleAction
deriving DecidableEq, Repr

/-- Before any option. -/
def LocaleOptions.init : LocaleOptions where
  country := none
  keymap := none
  language := none
  locale := none
  name := none
  timezone := none
  action := .none

/-- An option of `cbclocale`, with its argument. -/
inductive LocaleOption
  | add | display | list | server | remove | version | setDefault | unknown
  | language (optarg : CStr)
  | keymap (optarg : CStr)
  | locale (optarg : CStr)
  | name (optarg : CStr)
  | timezone (optarg : CStr)
  | country (optarg : CStr)
deriving DecidableEq, Repr

/-- The codes of the command line. -/
inductive LocaleUsage
  | displayUsage | version | noName | noAction | languageInvalid | keymapInvalid | localeInvalid
  | localNameInvalid | timezoneInvalid | countryInvalid
deriving DecidableEq, Repr

/-- One option of `parse_locale_comm_line`. -/
def localeOption (cl : LocaleOptions) : LocaleOption → Except LocaleUsage LocaleOptions
  | .add => .ok { cl with action := .add }
  | .display => .ok { cl with action := .display }
  | .list => .ok { cl with action := .list }
  | .server => .ok { cl with action := .server }
  | .remove => .ok { cl with action := .remove }
  | .version => .error .version
  | .setDefault => .ok { cl with action := .setDefault }
  | .language optarg => .ok { cl with language := some (optarg.take serviceLen) }
  | .keymap optarg => .ok { cl with keymap := some (optarg.take serviceLen) }
  | .locale optarg => .ok { cl with locale := some (optarg.take macLen) }
  | .name optarg => .ok { cl with name := some (optarg.take hostLen) }
  | .timezone optarg => .ok { cl with timezone := some (optarg.take hostLen) }
  | .country optarg => .ok { cl with country := some (optarg.take hostLen) }
  | .unknown => .error .displayUsage

/-- Refuse a field that is given and does not match. -/
def checkField (test : RegexIndex) (e : LocaleUsage) : Option CStr → Except LocaleUsage Unit
  | none => .ok ()
  | some s => if ailsaValidateInput s test < 0 then .error e else .ok ()

/-- `validate_locale_comm_line`. -/
def validateLocaleCommLine (cl : LocaleCommLine) : Except LocaleUsage Unit := do
  checkField .name .languageInvalid cl.language
  checkField .name .keymapInvalid cl.keymap
  checkField .logvol .localeInvalid cl.locale
  checkField .name .localNameInvalid cl.name
  checkField .timezone .timezoneInvalid cl.timezone
  checkField .name .countryInvalid cl.country

/-- `parse_locale_comm_line` : the code of the checks is not looked at. -/
def parseLocaleCommLine (opts : List LocaleOption) : Except LocaleUsage LocaleOptions := do
  if opts = [] then .error .displayUsage
  else
    let cl ← opts.foldlM localeOption .init
    if cl.action = .list then .ok cl
    else if cl.name = none then .error .noName
    else if cl.action = .none then .error .noAction
    else if cl.action = .add ∧ (cl.language = none ∨ cl.keymap = none ∨ cl.locale = none ∨
        cl.timezone = none ∨ cl.country = none) then .error .displayUsage
    else
      let _ := validateLocaleCommLine cl.toLocaleCommLine
      .ok cl

/-- The given fields. -/
def LocaleCommLine.given (cl : LocaleCommLine) : List CheckedField :=
  givenFields [(cl.language, .name), (cl.keymap, .name), (cl.locale, .logvol), (cl.name, .name),
    (cl.timezone, .timezone), (cl.country, .name)]

/-- The parser is to let a command line through with fields that are accepted only. -/
def LocaleRight (opts : List LocaleOption) : Prop :=
  ∀ cl, parseLocaleCommLine opts = .ok cl → cl.action ≠ .list → ∀ f ∈ cl.given, Accepted f

/-! ## The options of a locale -/

namespace LocaleOption

def languageArg : LocaleOption → Option CStr
  | .language optarg => some (optarg.take serviceLen)
  | _ => none

def keymapArg : LocaleOption → Option CStr
  | .keymap optarg => some (optarg.take serviceLen)
  | _ => none

def localeArg : LocaleOption → Option CStr
  | .locale optarg => some (optarg.take macLen)
  | _ => none

def nameArg : LocaleOption → Option CStr
  | .name optarg => some (optarg.take hostLen)
  | _ => none

def timezoneArg : LocaleOption → Option CStr
  | .timezone optarg => some (optarg.take hostLen)
  | _ => none

def countryArg : LocaleOption → Option CStr
  | .country optarg => some (optarg.take hostLen)
  | _ => none

/-- The action an option stands for. -/
def action : LocaleOption → Option LocaleAction
  | .add => some .add
  | .display => some .display
  | .list => some .list
  | .server => some .server
  | .remove => some .remove
  | .setDefault => some .setDefault
  | _ => none

end LocaleOption

/-- The options that are given, the last of each. -/
def localeGiven (opts : List LocaleOption) : LocaleOptions where
  language := given LocaleOption.languageArg opts
  keymap := given LocaleOption.keymapArg opts
  locale := given LocaleOption.localeArg opts
  name := given LocaleOption.nameArg opts
  timezone := given LocaleOption.timezoneArg opts
  country := given LocaleOption.countryArg opts
  action := (given LocaleOption.action opts).getD .none

/-- A check that is not about the form of a field refuses the command line. -/
inductive LocaleRefused (opts : List LocaleOption) : Prop
  | version (h : .version ∈ opts)
  | usage (h : .unknown ∈ opts)
  | noName (h : (localeGiven opts).name = none)
  | noAction (h : (localeGiven opts).action = .none)
  | missing (hadd : (localeGiven opts).action = .add)
      (h : (localeGiven opts).language = none ∨ (localeGiven opts).keymap = none ∨
        (localeGiven opts).locale = none ∨ (localeGiven opts).timezone = none ∨
          (localeGiven opts).country = none)

variable {opts : List LocaleOption} {cl cl' : LocaleOptions} {o : LocaleOption}

/-- What one option does to each field. -/
theorem localeOption_ok (h : localeOption cl o = .ok cl') :
    cl'.language = o.languageArg.or cl.language ∧ cl'.keymap = o.keymapArg.or cl.keymap ∧
      cl'.locale = o.localeArg.or cl.locale ∧ cl'.name = o.nameArg.or cl.name ∧
      cl'.timezone = o.timezoneArg.or cl.timezone ∧ cl'.country = o.countryArg.or cl.country ∧
      cl'.action = o.action.getD cl.action := by
  cases o <;> cases h <;> exact ⟨rfl, rfl, rfl, rfl, rfl, rfl, rfl⟩

/-- The loop leaves what the options give. -/
theorem localeLoop_eq (h : opts.foldlM localeOption .init = .ok cl) : cl = localeGiven opts := by
  have hlanguage := foldlM_given_or _ (fun cl => cl.language)
    (fun _ _ _ hs => (localeOption_ok hs).1) h
  have hkeymap := foldlM_given_or _ (fun cl => cl.keymap)
    (fun _ _ _ hs => (localeOption_ok hs).2.1) h
  have hlocale := foldlM_given_or _ (fun cl => cl.locale)
    (fun _ _ _ hs => (localeOption_ok hs).2.2.1) h
  have hname := foldlM_given_or _ (fun cl => cl.name)
    (fun _ _ _ hs => (localeOption_ok hs).2.2.2.1) h
  have htimezone := foldlM_given_or _ (fun cl => cl.timezone)
    (fun _ _ _ hs => (localeOption_ok hs).2.2.2.2.1) h
  have hcountry := foldlM_given_or _ (fun cl => cl.country)
    (fun _ _ _ hs => (localeOption_ok hs).2.2.2.2.2.1) h
  have haction := foldlM_given _ (fun cl => cl.action)
    (fun _ _ _ hs => (localeOption_ok hs).2.2.2.2.2.2) h
  simp only [LocaleOptions.init, Option.or_none] at *
  obtain ⟨⟨country, keymap, language, locale, name, timezone⟩, action⟩ := cl
  simp only [localeGiven, LocaleOptions.mk.injEq, LocaleCommLine.mk.injEq]
  exact ⟨⟨hcountry, hkeymap, hlanguage, hlocale, hname, htimezone⟩, haction⟩

theorem exists_localeOption_iff (cl : LocaleOptions) (o : LocaleOption) :
    (∃ cl', localeOption cl o = .ok cl') ↔ o ≠ .version ∧ o ≠ .unknown := by
  cases o with
  | version => exact iff_of_false (fun ⟨_, h⟩ => nomatch h) (fun h => h.1 rfl)
  | unknown => exact iff_of_false (fun ⟨_, h⟩ => nomatch h) (fun h => h.2 rfl)
  | _ => exact iff_of_true ⟨_, rfl⟩ ⟨(nomatch ·), (nomatch ·)⟩

/-- The loop goes through unless the version or an unknown option is met. -/
theorem localeLoop_eq_ok_iff : opts.foldlM localeOption .init = .ok (localeGiven opts) ↔
    .version ∉ opts ∧ .unknown ∉ opts := by
  have hexists : (∃ cl, opts.foldlM localeOption .init = .ok cl) ↔ _ :=
    exists_foldlM_iff exists_localeOption_iff
  constructor
  · intro h
    have hall := hexists.mp ⟨_, h⟩
    exact ⟨fun hv => (hall _ hv).1 rfl, fun hu => (hall _ hu).2 rfl⟩
  · rintro ⟨hv, hu⟩
    obtain ⟨cl, hcl⟩ := hexists.mpr fun o ho =>
      ⟨fun h => hv (h ▸ ho), fun h => hu (h ▸ ho)⟩
    rw [hcl, localeLoop_eq hcl]

/-- What is let through is what the options give. -/
theorem parseLocale_eq_ok (h : parseLocaleCommLine opts = .ok cl) : cl = localeGiven opts := by
  unfold parseLocaleCommLine at h
  split_ifs at h
  obtain ⟨cl', hloop, h⟩ := bind_eq_ok.mp h
  obtain rfl := localeLoop_eq hloop
  split_ifs at h <;> exact (Except.ok.inj h).symm

/-- But for a list, a command line is let through unless another check refuses it. -/
theorem parseLocale_eq_ok_iff (hlist : (localeGiven opts).action ≠ .list) :
    parseLocaleCommLine opts = .ok (localeGiven opts) ↔ ¬LocaleRefused opts := by
  constructor
  · intro h hrefused
    unfold parseLocaleCommLine at h
    split_ifs at h
    obtain ⟨cl', hloop, h⟩ := bind_eq_ok.mp h
    obtain rfl := localeLoop_eq hloop
    obtain ⟨hv, hu⟩ := localeLoop_eq_ok_iff.mp hloop
    rw [if_neg hlist] at h
    cases hrefused with
    | version hmem => exact hv hmem
    | usage hmem => exact hu hmem
    | noName hname =>
      rw [if_pos hname] at h
      cases h
    | noAction haction =>
      rw [if_pos haction] at h
      split_ifs at h
    | missing hadd hmissing =>
      rw [if_pos (show _ ∧ _ from ⟨hadd, hmissing⟩)] at h
      split_ifs at h
  · intro hok
    have hopts : opts ≠ [] := by
      rintro rfl
      exact hok (.noName rfl)
    have hloop := localeLoop_eq_ok_iff.mpr
      ⟨fun hv => hok (.version hv), fun hu => hok (.usage hu)⟩
    unfold parseLocaleCommLine
    rw [if_neg hopts, hloop, ok_bind, if_neg hlist, if_neg fun h => hok (.noName h),
      if_neg fun h => hok (.noAction h), if_neg fun h => hok (.missing h.1 h.2)]

theorem localeRight_iff : LocaleRight opts ↔ LocaleRefused opts ∨
    (localeGiven opts).action = .list ∨ ∀ f ∈ (localeGiven opts).given, Accepted f := by
  constructor
  · intro h
    by_contra hno
    obtain ⟨hok, hno⟩ := not_or.mp hno
    obtain ⟨hlist, hbad⟩ := not_or.mp hno
    exact hbad (h _ ((parseLocale_eq_ok_iff hlist).mpr hok) hlist)
  · intro h cl hcl hlist
    obtain rfl := parseLocale_eq_ok hcl
    rcases h with hrefused | hlist' | hall
    · exact absurd hrefused ((parseLocale_eq_ok_iff hlist).mp hcl)
    · exact absurd hlist' hlist
    · exact hall

/-- The given fields are all checked in a partition whose first one is refused or whose others
are accepted, and in a locale that is refused anyway, is a list, or has accepted fields only. -/
theorem optionChecks_iff (cpl : CbcpartCommLine) (opts : List LocaleOption) :
    ((validateCbcpartCommLine cpl = .ok () ↔ ∀ f ∈ cpl.given, Accepted f) ↔
      (∃ f ∈ cpl.given.head?, ¬Accepted f) ∨ ∀ f ∈ cpl.given.tail, Accepted f) ∧
    (LocaleRight opts ↔ LocaleRefused opts ∨
      (localeGiven opts).action = .list ∨ ∀ f ∈ (localeGiven opts).given, Accepted f) := by
  refine ⟨?_, localeRight_iff⟩
  rw [validateCbcpart_eq_ok_iff]
  cases cpl.given with
  | nil => simp
  | cons f fields =>
    simp only [List.head?_cons, Option.mem_some_iff, forall_eq', exists_eq_left', List.tail_cons,
      List.forall_mem_cons]
    tauto

/-- The expression of a time zone has the range from the backslash to the slash, and does not
compile. -/
theorem validate_timezone (s : CStr) : ailsaValidateInput s .timezone = 11 := by
  have herror : regcomp (regexps .timezone) = .error .erange := by decide +kernel
  rw [ailsaValidateInput, herror]
  rfl

theorem not_accepted_name : ¬Accepted ("a!b".toList, .name) := by
  intro h
  exact absurd ((validate_name_eq_zero_iff.mp h).chars '!' (by decide)) (by decide)

/-- The name of a scheme behind a file system, and the name of a locale to remove. -/
theorem not_optionChecks :
    (¬∀ cpl : CbcpartCommLine,
      validateCbcpartCommLine cpl = .ok () ↔ ∀ f ∈ cpl.given, Accepted f) ∧
    ¬∀ opts : List LocaleOption, LocaleRight opts := by
  constructor
  · intro h
    have hfs : Accepted ("ext4".toList, .fs) :=
      (ailsaValidateInput_eq_zero_iff regcomp_fs).mpr
        (mem_lang_alphanumEre.mpr ⟨by decide, by simp⟩)
    have hall := (h ⟨some "ext4".toList, none, none, none, some "a!b".toList⟩).mp
      (validateCbcpart_eq_ok_iff.mpr fun f hf => by
        obtain rfl := Option.some.inj hf
        exact hfs)
    exact not_accepted_name (hall _ (List.mem_cons_of_mem _ List.mem_cons_self))
  · intro h
    have hok : ¬LocaleRefused [.remove, .name "a!b".toList] := by
      intro hrefused
      cases hrefused with
      | version hmem => exact absurd hmem (by decide)
      | usage hmem => exact absurd hmem (by decide)
      | noName hname => cases hname
      | noAction haction => cases haction
      | missing hadd => cases hadd
    have hlist : (localeGiven [.remove, .name "a!b".toList]).action ≠ .list := by decide
    exact not_accepted_name
      (h _ _ ((parseLocale_eq_ok_iff hlist).mpr hok) hlist _ List.mem_cons_self)

end Cmdb
