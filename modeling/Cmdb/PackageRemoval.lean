import Cmdb.OsPackages

/-!
# Removing packages

`remove_cbc_package` picks one of eight statements by the filters that are given, and lists their
arguments. Two of the texts lack a bracket, those for an architecture without a version.
`removeCbcPackage_iff` says that the others delete what they should.
-/

namespace Cmdb

open CString
open Sql (Value)

/-! ## The command -/

/-- `package_deletes` -/
def packageDeletes : List AilsaSqlQuery :=
  [ -- `RM_PACKAGE_ON_OS`
    { query := ("DELETE FROM packages WHERE package = ? AND os_id IN (SELECT os_id FROM " ++
        "build_os WHERE alias = ? OR os = ?)").toList
      number := 3
      fields := [.text, .text, .text] },
    -- `RM_PACKAGE_ON_OS_VERSION`
    { query := ("DELETE FROM packages WHERE package = ? AND os_id IN (SELECT os_id FROM " ++
        "build_os WHERE (alias = ? OR os = ?) AND (os_version = ? OR ver_alias = ?))").toList
      number := 5
      fields := [.text, .text, .text, .text, .text] },
    -- `RM_PACKAGE_ON_OS_ARCH`
    { query := ("DELETE FROM packages WHERE package = ? AND os_id IN (SELECT os_id FROM " ++
        "build_os WHERE (alias = ? OR os = ?) AND arch = ?").toList
      number := 4
      fields := [.text, .text, .text, .text] },
    -- `RM_PACKAGE_ON_OS_VERSION_ARCH`
    { query := ("DELETE FROM packages WHERE package = ? AND os_id IN (SELECT os_id FROM " ++
        "build_os WHERE (alias = ? OR os = ?) AND (os_version = ? OR ver_alias = ?) AND " ++
        "arch = ?)").toList
      number := 6
      fields := [.text, .text, .text, .text, .text, .text] },
    -- `RM_PACKAGE_ON_OS_VARIENT`
    { query := ("DELETE FROM packages WHERE package = ? AND os_id IN (SELECT os_id FROM " ++
        "build_os WHERE alias = ? OR os = ?) AND varient_id IN (SELECT varient_id FROM " ++
        "varient WHERE varient = ? OR valias = ?)").toList
      number := 5
      fields := [.text, .text, .text, .text, .text] },
    -- `RM_PACKAGE_ON_OS_VERSION_VARIENT`
    { query := ("DELETE FROM packages WHERE package = ? AND os_id IN (SELECT os_id FROM " ++
        "build_os WHERE (alias = ? OR os = ?) AND (os_version = ? OR ver_alias = ?)) AND " ++
        "varient_id IN (SELECT varient_id FROM varient WHERE varient = ? OR valias = ?)").toList
      number := 7
      fields := [.text, .text, .text, .text, .text, .text, .text] },
    -- `RM_PACKAGE_ON_OS_ARCH_VARIENT`
    { query := ("DELETE FROM packages WHERE package = ? AND os_id IN (SELECT os_id FROM " ++
        "build_os WHERE (alias = ? OR os = ?) AND arch = ? AND varient_id IN (SELECT " ++
        "varient_id FROM varient WHERE varient = ? OR valias = ?)").toList
      number := 6
      fields := [.text, .text, .text, .text, .text, .text] },
    -- `RM_PACKAGE_ON_OS_VERSION_ARCH_VARIENT`
    { query := ("DELETE FROM packages WHERE package = ? AND os_id IN (SELECT os_id FROM " ++
        "build_os WHERE (alias = ? OR os = ?) AND (os_version = ? OR ver_alias = ?) AND " ++
        "arch = ?) AND varient_id IN (SELECT varient_id FROM varient WHERE varient = ? OR " ++
        "valias = ?)").toList
      number := 8
      fields := [.text, .text, .text, .text, .text, .text, .text, .text] } ]

/-- `get_delete_package_query` : the list, and the number of the statement. -/
def getDeletePackageQuery (pack os vers arch vari : Option CStr) :
    Except (Option ℤ) (List AilsaData × ℕ) := do
  if os = none then .error (some ailsaNoData)
  let list ← addStringOrNull pack []
  let (list, _) ← getBuildOsQuery list os vers arch
  let list ← if vari.isSome then addStringOrNull vari list >>= addStringOrNull vari else .ok list
  return (list, (if vers.isSome then 1 else 0) ||| (if arch.isSome then 2 else 0) |||
    if vari.isSome then 4 else 0)

/-- What `remove_cbc_package` looks for : a name is taken before an alias. -/
def CbcvariCommLine.deleteQuery (cvl : CbcvariCommLine) :
    Except (Option ℤ) (List AilsaData × ℕ) :=
  getDeletePackageQuery cvl.package (cvl.os <|> cvl.osAlias) (cvl.version <|> cvl.verAlias)
    cvl.arch (cvl.varient <|> cvl.valias)

/-- `remove_cbc_package` -/
def removeCbcPackage (cvl : CbcvariCommLine) : PackageProg Unit := do
  let (list, query) ← Prog.reads fun _ => cvl.deleteQuery
  match packageDeletes[query]? with
  | none => Prog.fail none
  | some q => PackageDb.deleteQuery q list

/-! ## What it is for -/

/-- The package is the one, for an OS that meets the filters, and of the varient if one is
given. -/
def PackageDb.ToRemove (db : PackageDb) (pack : CStr) (f : OsFilter) (vari : Option CStr)
    (p : PackageRow) : Prop :=
  p.package = pack ∧ (∃ o ∈ db.buildOs, o.id = p.osId ∧ o.Meets f) ∧
    ∀ s ∈ vari, ∃ v ∈ db.varients, v.id = p.varientId ∧ v.Carries s

instance (db : PackageDb) (pack : CStr) (f : OsFilter) (vari : Option CStr) (p : PackageRow) :
    Decidable (db.ToRemove pack f vari p) :=
  inferInstanceAs (Decidable (_ ∧ _ ∧ _))

/-- The statement is well formed, and the packages that are asked for go, and only they. -/
structure RemovesPackages (db : PackageDb) (cvl : CbcvariCommLine) (pack : CStr) : Prop where
  wellFormed : ∃ list query q, cvl.deleteQuery = .ok (list, query) ∧
    packageDeletes[query]? = some q ∧ (Sql.prepare db.tables q.query).isSome
  removes : removeCbcPackage cvl db = (.ok (),
    db.keepPackages fun p => ¬db.ToRemove pack cvl.osFilter (cvl.varient <|> cvl.valias) p)

/-! ## The statements -/

/-- The condition of the sub-select on `build_os`. -/
def deleteOsCond (vers arch : Bool) : Sql.Cond :=
  andIf arch
    (andIf vers (eitherParam none "alias" "os" 1) (eitherParam none "os_version" "ver_alias" 3))
    (.param ⟨none, "arch".toList⟩ (if vers then 5 else 3))

def deleteCond (vers arch vari : Bool) : Sql.Cond :=
  andIf vari
    (.and (.param ⟨none, "package".toList⟩ 0)
      (.inSelect ⟨none, "os_id".toList⟩ "os_id".toList "build_os".toList (deleteOsCond vers arch)))
    (.inSelect ⟨none, "varient_id".toList⟩ "varient_id".toList "varient".toList
      (eitherParam none "varient" "valias" ((if vers then 5 else 3) + if arch then 1 else 0)))

/-- The number of the statement. -/
def deleteIndex (vers arch vari : Bool) : ℕ :=
  (if vers then 1 else 0) ||| (if arch then 2 else 0) ||| if vari then 4 else 0

set_option maxRecDepth 2000 in
/-- The text of a statement lacks a bracket if it has an architecture and no version. -/
theorem parse_packageDeletes : ∀ vers arch vari : Bool,
    (packageDeletes[deleteIndex vers arch vari]?).bind (fun q => Sql.parse q.query) =
      if arch = true → vers = true then
        some (.delete "packages".toList (deleteCond vers arch vari))
      else none := by
  rintro (_ | _) (_ | _) (_ | _)
  all_goals
    apply parse_of_query rfl
    apply Exists.intro
    apply And.intro
    · repeat' with_reducible apply toList_append_eq
      all_goals exact String.toList_ofList
    · decide +kernel

/-- The number of its placeholders. -/
def deleteNumber (vers arch vari : Bool) : ℕ :=
  3 + (if vers then 2 else 0) + (if arch then 1 else 0) + if vari then 2 else 0

theorem deleteNumber_lt : ∀ vers arch vari : Bool, deleteNumber vers arch vari < 2 ^ 31 := by
  decide

theorem length_params_deleteCond : ∀ vers arch vari : Bool,
    (deleteCond vers arch vari).params.length = deleteNumber vers arch vari := by
  decide

theorem fields_packageDeletes : ∀ vers arch vari : Bool,
    (packageDeletes[deleteIndex vers arch vari]?).map (fun q => (q.number, q.fields)) =
      some (deleteNumber vers arch vari, List.replicate (deleteNumber vers arch vari) .text) := by
  decide

/-! ## Runs -/

/-- The texts on the list, a name twice. -/
def deleteTexts (pack os : CStr) (vers arch vari : Option CStr) : List CStr :=
  pack :: os :: os :: (vers.elim [] (fun s => [s, s]) ++ (arch.elim [] (fun s => [s]) ++
    vari.elim [] fun s => [s, s]))

theorem length_deleteTexts (pack os : CStr) (vers arch vari : Option CStr) :
    (deleteTexts pack os vers arch vari).length =
      deleteNumber vers.isSome arch.isSome vari.isSome := by
  cases vers <;> cases arch <;> cases vari <;> rfl

theorem getDeletePackageQuery_eq {pack os : CStr} {vers arch vari : Option CStr}
    (hpack : pack.length ≤ configLen) (hos : os.length ≤ configLen)
    (hvers : ∀ s ∈ vers, s.length ≤ configLen) (harch : ∀ s ∈ arch, s.length ≤ configLen)
    (hvari : ∀ s ∈ vari, s.length ≤ configLen) :
    getDeletePackageQuery (some pack) (some os) vers arch vari =
      .ok ((deleteTexts pack os vers arch vari).map .text,
        deleteIndex vers.isSome arch.isSome vari.isSome) := by
  have hall : getDeletePackageQuery (some pack) (some os) vers arch vari =
      .ok ((deleteTexts (arg pack) (arg os) (vers.map arg) (arch.map arg) (vari.map arg)).map .text,
        deleteIndex vers.isSome arch.isSome vari.isSome) := by
    cases vers <;> cases arch <;> cases vari <;> rfl
  rw [hall, arg_of_length_le hpack, arg_of_length_le hos, map_arg_of_length_le hvers,
    map_arg_of_length_le harch, map_arg_of_length_le hvari]

variable {db : PackageDb} {pack os : CStr} {vers arch vari : Option CStr}

/-- The sub-select finds the OSes that meet the filters. -/
theorem holds_deleteOsCond {o : OsRow} :
    (deleteOsCond vers.isSome arch.isSome).Holds db.tables
        (textArgs (deleteTexts pack os vers arch vari))
        (Sql.ofTable (Sql.valueOf OsRow.columns o)) ↔
      o.Meets ⟨some os, vers, arch⟩ := by
  have h := o.readBy_ofTable
  refine h.meets_iff (h.alias_iff rfl rfl) ?_ ?_
  · rintro v rfl
    exact ⟨rfl, rfl⟩
  · rintro a rfl
    cases vers <;> rfl

/-- The statement deletes the packages that are asked for. -/
theorem holds_deleteCond {p : PackageRow} :
    (deleteCond vers.isSome arch.isSome vari.isSome).Holds db.tables
        (textArgs (deleteTexts pack os vers arch vari))
        (Sql.ofTable (Sql.valueOf PackageRow.columns p)) ↔
      db.ToRemove pack ⟨some os, vers, arch⟩ vari p := by
  have hos : db.tables "build_os".toList = some (.ofColumns OsRow.columns db.buildOs) := rfl
  have hvari : db.tables "varient".toList = some (.ofColumns Varient.columns db.varients) := rfl
  rw [deleteCond, holds_andIf, PackageDb.ToRemove, ← and_assoc]
  refine and_congr (and_congr ?_ ?_) ?_
  · exact Sql.Value.text_equals_text
  · refine (Sql.Cond.holds_inSelect hos).trans (exists_congr fun o => and_congr_right fun _ => ?_)
    rw [holds_deleteOsCond, and_comm]
    refine and_congr_left fun _ => Iff.trans ?_ eq_comm
    exact Sql.Value.nat_equals_nat
  · refine ifGiven_iff ?_
    rintro s rfl
    refine (Sql.Cond.holds_inSelect hvari).trans (exists_congr fun v => and_congr_right fun _ => ?_)
    rw [and_comm]
    refine and_congr (Sql.Value.nat_equals_nat.trans eq_comm) ?_
    cases vers <;> cases arch <;>
      exact or_congr Sql.Value.text_equals_text Sql.Value.text_equals_text

/-! ## When it is right -/

/-- The statement of the command line. -/
theorem deleteQuery_eq {cvl : CbcvarientLine} (hpack : cvl.package = some pack)
    (hos : (cvl.os <|> cvl.osAlias) = some os) :
    cvl.deleteQuery =
      .ok ((deleteTexts pack os cvl.osFilter.version cvl.arch
          (cvl.varient <|> cvl.valias)).map .text,
        deleteIndex cvl.osFilter.version.isSome cvl.arch.isSome
          (cvl.varient <|> cvl.valias).isSome) := by
  have hmac : macLen ≤ configLen := by decide
  have hhost : hostLen ≤ configLen := by decide
  have hservice : serviceLen ≤ configLen := by decide
  have hos' : os.length ≤ configLen := (cvl.length_os_le os hos).trans hmac
  have hpack' : pack.length ≤ configLen := (cvl.copied.package pack hpack).trans hhost
  rw [CbcvariCommLine.deleteQuery, hpack, hos]
  exact getDeletePackageQuery_eq hpack' hos' (fun s hs => (cvl.length_version_le s hs).trans hmac)
    (fun s hs => (cvl.copied.arch s hs).trans hservice)
    fun s hs => (cvl.length_varient_le s hs).trans hhost

/-- A statement whose text is read as it should be. -/
theorem deleteQuery_run {q : AilsaSqlQuery} {ss : List CStr} {w : Sql.Cond}
    (hprep : Sql.prepare db.tables q.query = some (.delete "packages".toList w))
    (hf : q.fields = (ss.map .text).map fieldOf) (hn : q.number = ss.length)
    (hle : ss.length ≤ w.params.length) (hlt : w.params.length < 2 ^ 31) :
    PackageDb.deleteQuery q (ss.map .text) db = (.ok (), db.keepPackages fun p =>
      ¬w.Holds db.tables (textArgs ss) (Sql.ofTable (Sql.valueOf PackageRow.columns p))) := by
  have hlen : (ss.map AilsaData.text).length = ss.length := List.length_map _
  have hsetup := setupStatement_eq_ok [] hprep hf (hn.trans hlen.symm) (hlen ▸ hle) hlt
  rw [List.append_nil] at hsetup
  rw [PackageDb.deleteQuery, hsetup]
  dsimp only
  rw [if_pos rfl, boundValue_texts]

/-- The statement of a command line with a version, or without an architecture. -/
theorem exists_packageDelete (db : PackageDb) (pack os : CStr) {vers arch : Option CStr}
    (vari : Option CStr) (harch : arch.isSome = true → vers.isSome = true) :
    ∃ q, packageDeletes[deleteIndex vers.isSome arch.isSome vari.isSome]? = some q ∧
      Sql.prepare db.tables q.query = some (.delete "packages".toList
        (deleteCond vers.isSome arch.isSome vari.isSome)) ∧
      q.fields = ((deleteTexts pack os vers arch vari).map .text).map fieldOf ∧
      q.number = (deleteTexts pack os vers arch vari).length := by
  obtain ⟨q, hq, hparse⟩ := Option.bind_eq_some_iff.mp
    ((parse_packageDeletes vers.isSome arch.isSome vari.isSome).trans (if_pos harch))
  have hresolves : (Sql.Statement.delete "packages".toList
      (deleteCond vers.isSome arch.isSome vari.isSome)).resolves db.tables = true := by
    cases vers <;> cases arch <;> cases vari <;> rfl
  have hfields := fields_packageDeletes vers.isSome arch.isSome vari.isSome
  rw [hq] at hfields
  obtain ⟨hn, hf⟩ := Prod.mk.inj (Option.some.inj hfields)
  refine ⟨q, hq, Sql.prepare_eq_some hparse hresolves, hf.trans ?_,
    hn.trans (length_deleteTexts ..).symm⟩
  cases vers <;> cases arch <;> cases vari <;> rfl

theorem keepPackages_congr {P Q : PackageRow → Prop} [DecidablePred P] [DecidablePred Q]
    (h : ∀ p, P p ↔ Q p) : db.keepPackages P = db.keepPackages Q := by
  simp only [PackageDb.keepPackages, h]

/-- With an architecture and no version the text of the statement is cut short. -/
theorem not_removesPackages_of_arch {cvl : CbcvarientLine} (hpack : cvl.package = some pack)
    (hos : (cvl.os <|> cvl.osAlias) = some os) (harch : cvl.arch.isSome = true)
    (hvers : (cvl.version <|> cvl.verAlias).isSome = false) :
    ¬RemovesPackages db cvl.toCbcvariCommLine pack := by
  intro h
  obtain ⟨list, query, q, hlist, hq, hprep⟩ := h.wellFormed
  obtain ⟨-, rfl⟩ := Prod.mk.inj (Except.ok.inj ((deleteQuery_eq hpack hos).symm.trans hlist))
  have hnone := parse_packageDeletes false true (cvl.varient <|> cvl.valias).isSome
  rw [harch, CbcvariCommLine.osFilter, hvers] at hq
  rw [hq, if_neg (by decide)] at hnone
  rw [Sql.prepare_eq_none hnone] at hprep
  cases hprep

/-- The packages that are asked for are removed iff the filters are no architecture without a
version. -/
theorem removeCbcPackage_iff (db : PackageDb) (cvl : CbcvarientLine) {pack os : CStr}
    (hpack : cvl.package = some pack) (hos : (cvl.os <|> cvl.osAlias) = some os) :
    RemovesPackages db cvl.toCbcvariCommLine pack ↔
      (cvl.arch.isSome = true → (cvl.version <|> cvl.verAlias).isSome = true) := by
  constructor
  · intro h harch
    by_contra hvers
    exact not_removesPackages_of_arch hpack hos harch (Bool.eq_false_of_not_eq_true hvers) h
  · intro harch
    have hquery := deleteQuery_eq hpack hos
    obtain ⟨q, hq, hprep, hf, hn⟩ := exists_packageDelete db pack os
      (cvl.varient <|> cvl.valias) harch
    refine ⟨⟨_, _, q, hquery, hq, hprep ▸ rfl⟩, ?_⟩
    have hlen := length_deleteTexts pack os (cvl.version <|> cvl.verAlias) cvl.arch
      (cvl.varient <|> cvl.valias)
    have hfilter : cvl.osFilter = ⟨some os, cvl.version <|> cvl.verAlias, cvl.arch⟩ := by
      rw [CbcvariCommLine.osFilter, hos]
    have hrun := deleteQuery_run hprep hf hn
      (hlen.trans (length_params_deleteCond ..).symm).le
      ((length_params_deleteCond ..).trans_lt (deleteNumber_lt ..))
    rw [removeCbcPackage, hquery, hfilter]
    refine (Prog.bind_run_ok rfl _).trans ?_
    dsimp only
    rw [hq]
    dsimp only
    rw [hrun]
    exact congrArg _ (keepPackages_congr fun p => not_congr holds_deleteCond)

/-- `cbcvarient -r -g -p vim -n debian -t x86_64 -x base` -/
def removeVim : List CbcvarientOption :=
  [.rm, .package, .packageName "vim".toList, .osName "debian".toList, .arch "x86_64".toList,
    .varientName "base".toList]

def removeVimLine (version : Option CStr) : CbcvariCommLine :=
  ⟨.rm, .package, some "base".toList, none, none, some "debian".toList, none, version, none,
    some "x86_64".toList, some "vim".toList⟩

/-- With the option `-o wheezy`. -/
theorem parse_removeVim_wheezy :
    parseCbcvarientCommLine (.osVersion "wheezy".toList :: removeVim) =
      .ok (removeVimLine (some "wheezy".toList)) := rfl

theorem removeCbcPackage_iff_wheezy :
    RemovesPackages twoArchs (removeVimLine (some "wheezy".toList)) "vim".toList :=
  (removeCbcPackage_iff twoArchs ⟨_, copied_of_parse parse_removeVim_wheezy⟩ rfl rfl).mpr
    fun _ => rfl

/-- Without the version nothing is removed. -/
theorem not_removesPackages : ∃ cvl, parseCbcvarientCommLine removeVim = .ok cvl ∧
    ¬RemovesPackages twoArchs cvl "vim".toList := by
  have hparse : parseCbcvarientCommLine removeVim = .ok (removeVimLine none) := rfl
  let cvl : CbcvarientLine := ⟨_, copied_of_parse hparse⟩
  have hpack : cvl.package = some "vim".toList := rfl
  have hos : (cvl.os <|> cvl.osAlias) = some "debian".toList := rfl
  exact ⟨_, hparse, not_removesPackages_of_arch hpack hos rfl rfl⟩

end Cmdb
