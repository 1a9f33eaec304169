import Cmdb.OsPackages
import Mathlib.Data.List.Perm.Basic
import Mathlib.Data.List.ProdSigma
import Mathlib.Data.List.TakeDrop

/-!
# Displaying a varient

`display_cbc_build_varient` picks one of eight queries by the filters that are given, and lists
their arguments. The query for a version alone declares a parameter less than it has, so that the
alias of the version is compared to `NULL`, and `cmdb_add_os_version_or_alias_to_list` cuts the
version at `SERVICE_LEN`. `displayVarient_iff` says when what is shown is right all the same.
-/

namespace Cmdb

open CString
open Sql (Value)

/-! ## The command -/

/-- `varient_queries` -/
def varientQueries : List AilsaSqlQuery :=
  [ { query := ("SELECT p.package, o.os, o.os_version, o.arch FROM packages p JOIN build_os o " ++
        "ON p.os_id = o.os_id WHERE p.varient_id = ? ORDER BY o.os, o.os_version, o.arch").toList
      number := 1
      fields := [.lint] },
    { query := ("SELECT p.package, o.os, o.os_version, o.arch FROM packages p JOIN build_os o " ++
        "ON p.os_id = o.os_id WHERE p.varient_id = ? AND (o.os = ? OR o.alias = ?) ORDER BY " ++
        "o.os, o.os_version, o.arch").toList
      number := 3
      fields := [.lint, .text, .text] },
    { query := ("SELECT p.package, o.os, o.os_version, o.arch FROM packages p JOIN build_os o " ++
        "ON p.os_id = o.os_id WHERE p.varient_id = ? AND (o.os_version = ? OR o.ver_alias = ?) " ++
        "ORDER BY o.os, o.os_version, o.arch").toList
      number := 2
      fields := [.lint, .text] },
    { query := ("SELECT p.package, o.os, o.os_version, o.arch FROM packages p JOIN build_os o " ++
        "ON p.os_id = o.os_id WHERE p.varient_id = ? AND (o.os = ? OR o.alias = ?) AND " ++
        "(o.os_version = ? OR o.ver_alias = ?) ORDER BY o.os, o.os_version, o.arch").toList
      number := 5
      fields := [.lint, .text, .text, .text, .text] },
    { query := ("SELECT p.package, o.os, o.os_version, o.arch FROM packages p JOIN build_os o " ++
        "ON p.os_id = o.os_id WHERE p.varient_id = ? AND o.arch = ? ORDER BY o.os, " ++
        "o.os_version, o.arch").toList
      number := 2
      fields := [.lint, .text] },
    { query := ("SELECT p.package, o.os, o.os_version, o.arch FROM packages p JOIN build_os o " ++
        "ON p.os_id = o.os_id WHERE p.varient_id = ? AND (o.os = ? OR o.alias = ?) AND o.arch = " ++
        "? ORDER BY o.os, o.os_version, o.arch").toList
      number := 4
      fields := [.lint, .text, .text, .text] },
    { query := ("SELECT p.package, o.os, o.os_version, o.arch FROM packages p JOIN build_os o " ++
        "ON p.os_id = o.os_id WHERE p.varient_id = ? AND (o.os_version = ? OR o.ver_alias = ?) " ++
        "AND o.arch = ? ORDER BY o.os, o.os_version, o.arch").toList
      number := 4
      fields := [.lint, .text, .text, .text] },
    { query := ("SELECT p.package, o.os, o.os_version, o.arch FROM packages p JOIN build_os o " ++
        "ON p.os_id = o.os_id WHERE p.varient_id = ? AND (o.os = ? OR o.alias = ?) AND " ++
        "(o.os_version = ? OR o.ver_alias = ?) AND o.arch = ? ORDER BY o.os, o.os_version, " ++
        "o.arch").toList
      number := 6
      fields := [.lint, .text, .text, .text, .text, .text] } ]

/-- `varient_get_display_query` : the list, and the number of the query. -/
def varientGetDisplayQuery (cvl : CbcvariCommLine) (list : List AilsaData) :
    List AilsaData × ℕ :=
  let list := cmdbAddOsNameOrAliasToList cvl.os cvl.osAlias list
  let list := cmdbAddOsVersionOrAliasToList cvl.version cvl.verAlias list
  let list := cvl.arch.elim list fun arch => cmdbAddStringToList arch list
  (list, (if cvl.osFilter.os.isSome then 1 else 0) |||
    (if cvl.osFilter.version.isSome then 2 else 0) ||| if cvl.arch.isSome then 4 else 0)

/-- `AILSA_NO_VARIENT` -/
abbrev ailsaNoVarient : ℤ := 18

namespace PackageDb

variable (db : PackageDb)

/-- The query of `display_cbc_build_varient`, and its arguments. -/
def displayQuery (cvl : CbcvariCommLine) : Except (Option ℤ) (List AilsaData × AilsaSqlQuery) := do
  match cvl.varient <|> cvl.valias with
  | none => .error (some ailsaNoVarient)
  | some varient =>
    let vid ← db.checkVarientId varient
    let (list, query) := varientGetDisplayQuery cvl (cmdbAddNumberToList vid [])
    match varientQueries[query]? with
    | none => .error none
    | some q => return (list, q)

/-- What `display_cbc_build_varient` hands to `print_varient_details` : the rows, and the columns
of them. -/
def displayRows (cvl : CbcvariCommLine) :
    Except (Option ℤ) (List Sql.Column × List Sql.Row) := do
  let (list, q) ← db.displayQuery cvl
  db.argumentRows q list

end PackageDb

/-! ## What it is for -/

/-- A package and its OS as one row. -/
def joinedRow (x : PackageRow × OsRow) : Sql.Row :=
  Sql.ofJoin "p".toList "o".toList (Sql.valueOf PackageRow.columns x.1)
    (Sql.valueOf OsRow.columns x.2)

/-- The packages of a varient on the OSes that meet the filters. -/
def PackageDb.packagesOn (db : PackageDb) (vid : ℕ) (f : OsFilter) : List (PackageRow × OsRow) :=
  (db.packages.product db.buildOs).filter fun x =>
    x.1.osId = x.2.id ∧ x.1.varientId = vid ∧ x.2.Meets f

/-- The columns that are shown. -/
def displayColumns : List Sql.Column :=
  [⟨some "p".toList, "package".toList⟩, ⟨some "o".toList, "os".toList⟩,
    ⟨some "o".toList, "os_version".toList⟩, ⟨some "o".toList, "arch".toList⟩]

/-- What a column is to be compared to. -/
def OsFilter.meantFor (f : OsFilter) (vid : ℕ) (c : Sql.Column) : Value :=
  if c.name = "varient_id".toList then .int vid
  else if c.name = "os".toList ∨ c.name = "alias".toList then textOrNull f.os
  else if c.name = "os_version".toList ∨ c.name = "ver_alias".toList then textOrNull f.version
  else if c.name = "arch".toList then textOrNull f.arch
  else .null

/-- The packages of the varient on the OSes that meet all filters are shown, and the placeholders
that are bound get what is meant for them. -/
structure ShowsVarient (db : PackageDb) (cvl : CbcvariCommLine) (vid : ℕ) : Prop where
  bound : ∃ list q s calls, db.displayQuery cvl = .ok (list, q) ∧
    setupStatement db.tables q list = .ok (s, calls) ∧
    ∀ x ∈ s.cond.params, x.2 < calls.length → boundValue calls x.2 = cvl.osFilter.meantFor vid x.1
  shown : ∃ rows, db.displayRows cvl = .ok (displayColumns, rows) ∧
    rows.Perm ((db.packagesOn vid cvl.osFilter).map joinedRow)

/-! ## The queries -/

/-- The condition of a query. -/
def displayCond (os vers arch : Bool) : Sql.Cond :=
  andIf arch
    (andIf vers
      (andIf os (.param ⟨some "p".toList, "varient_id".toList⟩ 0)
        (eitherParam (some "o".toList) "os" "alias" 1))
      (eitherParam (some "o".toList) "os_version" "ver_alias" (if os then 3 else 1)))
    (.param ⟨some "o".toList, "arch".toList⟩ ((if os then 3 else 1) + if vers then 2 else 0))

def displaySelect (os vers arch : Bool) : Sql.Select where
  columns := displayColumns
  source := .join "packages".toList "p".toList "build_os".toList "o".toList
    (.column ⟨some "p".toList, "os_id".toList⟩ ⟨some "o".toList, "os_id".toList⟩)
  cond := displayCond os vers arch
  orderBy := [⟨some "o".toList, "os".toList⟩, ⟨some "o".toList, "os_version".toList⟩,
    ⟨some "o".toList, "arch".toList⟩]
  descending := false
  limit := none

/-- The number of the query. -/
def displayIndex (os vers arch : Bool) : ℕ :=
  (if os then 1 else 0) ||| (if vers then 2 else 0) ||| if arch then 4 else 0

/-- The number of parameters it declares. -/
def displayNumber (os vers arch : Bool) : ℕ :=
  1 + (if os then 2 else 0) + (if vers then if os || arch then 2 else 1 else 0) +
    if arch then 1 else 0

set_option maxRecDepth 2000 in
theorem parse_varientQueries : ∀ os vers arch : Bool,
    (varientQueries[displayIndex os vers arch]?).bind (fun q => Sql.parse q.query) =
      some (.select (displaySelect os vers arch)) := by
  rintro (_ | _) (_ | _) (_ | _)
  all_goals
    apply parse_of_query rfl
    apply Exists.intro
    apply And.intro
    · repeat' with_reducible apply toList_append_eq
      all_goals exact String.toList_ofList
    · decide +kernel

theorem fields_varientQueries : ∀ os vers arch : Bool,
    (varientQueries[displayIndex os vers arch]?).map (fun q => (q.number, q.fields)) =
      some (displayNumber os vers arch,
        .lint :: List.replicate (displayNumber os vers arch - 1) .text) := by
  decide

/-! ## Arguments -/

/-- What `strndup` leaves of the version. -/
def OsFilter.cutVersion (f : OsFilter) : OsFilter :=
  { f with version := f.version.map fun s => s.take serviceLen }

/-- The texts on the list, a name twice. -/
def displayTexts (os vers arch : Option CStr) : List CStr :=
  os.elim [] (fun s => [s, s]) ++ (vers.elim [] (fun s => [s, s]) ++ arch.elim [] fun s => [s])

def displayData (vid : ℕ) (os vers arch : Option CStr) : List AilsaData :=
  .number vid :: (displayTexts os vers arch).map .text

/-- What is bound of it. -/
def displayBound (vid : ℕ) (os vers arch : Option CStr) : List AilsaData :=
  (displayData vid os vers arch).take (displayNumber os.isSome vers.isSome arch.isSome)

theorem addOsName_eq {os osAlias : Option CStr} (h : ∀ s ∈ (os <|> osAlias), s.length ≤ macLen)
    (list : List AilsaData) : cmdbAddOsNameOrAliasToList os osAlias list =
      list ++ ((os <|> osAlias).elim [] fun s => [s, s]).map .text := by
  rw [cmdbAddOsNameOrAliasToList]
  cases hname : (os <|> osAlias) with
  | none => exact (List.append_nil list).symm
  | some s =>
    dsimp only
    rw [List.take_of_length_le (h s hname)]
    rfl

theorem addOsVersion_eq (ver valias : Option CStr) (list : List AilsaData) :
    cmdbAddOsVersionOrAliasToList ver valias list =
      list ++ (((ver <|> valias).map fun s => s.take serviceLen).elim [] fun s => [s, s]).map
        .text := by
  rw [cmdbAddOsVersionOrAliasToList]
  cases ver <|> valias with
  | none => exact (List.append_nil list).symm
  | some s => rfl

theorem addArch_eq {arch : Option CStr} (h : ∀ s ∈ arch, s.length ≤ serviceLen)
    (list : List AilsaData) : arch.elim list (fun arch => cmdbAddStringToList arch list) =
      list ++ (arch.elim [] fun s => [s]).map .text := by
  cases arch with
  | none => exact (List.append_nil list).symm
  | some s =>
    have hle : s.length ≤ configLen := (h s rfl).trans (by decide)
    rw [Option.elim_some, cmdbAddStringToList, arg_of_length_le hle]
    rfl

theorem varientGetDisplayQuery_eq (cvl : CbcvarientLine) (vid : ℕ) :
    varientGetDisplayQuery cvl.toCbcvariCommLine (cmdbAddNumberToList vid []) =
      (displayData vid cvl.osFilter.os cvl.osFilter.cutVersion.version cvl.arch,
        displayIndex cvl.osFilter.os.isSome cvl.osFilter.version.isSome cvl.arch.isSome) := by
  have hname := addOsName_eq cvl.length_os_le
  have harch := addArch_eq cvl.copied.arch
  rw [varientGetDisplayQuery, hname, addOsVersion_eq, harch, displayData, displayTexts,
    List.map_append, List.map_append, List.append_assoc, List.append_assoc]
  rfl

/-- The OS is taken for one that meets the filters : the alias of the version counts only beside
another filter. -/
def OsRow.Shown (o : OsRow) (f : OsFilter) : Prop :=
  (∀ s ∈ f.os, o.os = s ∨ o.osAlias = some s) ∧
    (∀ s ∈ f.version, o.osVersion = some s ∨ (f.os.isSome ∨ f.arch.isSome) ∧ o.verAlias = s) ∧
    ∀ s ∈ f.arch, o.arch = some s

instance (o : OsRow) (f : OsFilter) : Decidable (o.Shown f) :=
  inferInstanceAs (Decidable (_ ∧ _ ∧ _))

variable {db : PackageDb} {vid : ℕ} {os vers arch : Option CStr}

theorem OsRow.readBy_joinedRow (x : PackageRow × OsRow) :
    x.2.ReadBy (some "o".toList) (joinedRow x) :=
  ⟨rfl, rfl, rfl, rfl, rfl⟩

theorem holds_displayCond {x : PackageRow × OsRow} :
    (displayCond os.isSome vers.isSome arch.isSome).Holds db.tables
        (boundValue (dataCalls 0 (displayBound vid os vers arch))) (joinedRow x) ↔
      x.1.varientId = vid ∧ x.2.Shown ⟨os, vers, arch⟩ := by
  have h := OsRow.readBy_joinedRow x
  rw [displayCond, holds_andIf, holds_andIf, holds_andIf, and_assoc, and_assoc]
  refine and_congr ?_ (and_congr ?_ (and_congr ?_ ?_))
  · have hvid : boundValue (dataCalls 0 (displayBound vid os vers arch)) 0 = .int vid := by
      cases os <;> cases vers <;> cases arch <;> rfl
    rw [Sql.Cond.Holds, hvid]
    exact Sql.Value.nat_equals_nat
  · refine ifGiven_iff ?_
    rintro s rfl
    cases vers <;> cases arch <;> exact h.name_iff rfl rfl
  · refine ifGiven_iff ?_
    rintro v rfl
    cases os with
    | some s =>
      refine Iff.trans ?_ (or_congr_right (and_iff_right (.inl rfl)).symm)
      cases arch <;> exact h.version_iff rfl rfl
    | none =>
      cases arch with
      | some a =>
        refine Iff.trans ?_ (or_congr_right (and_iff_right (.inr rfl)).symm)
        exact h.version_iff rfl rfl
      | none =>
        -- the second placeholder is not bound
        change (textOrNull x.2.osVersion).Equals (.text v) ∨
          (Value.text x.2.verAlias).Equals .null ↔ _
        rw [textOrNull_equals]
        exact or_congr_right (iff_of_false Sql.Value.not_equals_null fun h => by simp at h)
  · refine ifGiven_iff ?_
    rintro a rfl
    cases os <;> cases vers <;> exact h.arch_iff rfl

/-- The query finds what it takes for the packages asked for. -/
theorem found_displaySelect : (displaySelect os.isSome vers.isSome arch.isSome).found db.tables
      (boundValue (dataCalls 0 (displayBound vid os vers arch))) =
    ((db.packages.product db.buildOs).filter fun x =>
      x.1.osId = x.2.id ∧ x.1.varientId = vid ∧ x.2.Shown ⟨os, vers, arch⟩).map joinedRow := by
  have hpack : db.tables "packages".toList = some (.ofColumns PackageRow.columns db.packages) := rfl
  have hos : db.tables "build_os".toList = some (.ofColumns OsRow.columns db.buildOs) := rfl
  rw [Sql.Select.found_map (Sql.Source.rows_join hpack hos), List.filter_filter]
  refine congrArg _ (List.filter_congr fun x _ => ?_)
  rw [← Bool.decide_and, decide_eq_decide, and_comm]
  exact and_congr Sql.Value.nat_equals_nat holds_displayCond

theorem fieldOf_displayBound (vid : ℕ) (os vers arch : Option CStr) :
    (displayBound vid os vers arch).map fieldOf = .lint ::
      List.replicate (displayNumber os.isSome vers.isSome arch.isSome - 1) .text := by
  cases os <;> cases vers <;> cases arch <;> rfl

theorem length_displayBound (vid : ℕ) (os vers arch : Option CStr) :
    (displayBound vid os vers arch).length =
      displayNumber os.isSome vers.isSome arch.isSome := by
  cases os <;> cases vers <;> cases arch <;> rfl

theorem displayNumber_le : ∀ os vers arch : Bool, displayNumber os vers arch ≤
      (displaySelect os vers arch).cond.params.length ∧
    (displaySelect os vers arch).cond.params.length < 2 ^ 31 := by
  decide

/-- The query that is run, with as many of its arguments as it declares. -/
theorem exists_displayQuery (db : PackageDb) (vid : ℕ) (os vers arch : Option CStr) :
    ∃ q, varientQueries[displayIndex os.isSome vers.isSome arch.isSome]? = some q ∧
      setupStatement db.tables q (displayData vid os vers arch) =
        .ok (.select (displaySelect os.isSome vers.isSome arch.isSome),
          dataCalls 0 (displayBound vid os vers arch)) := by
  obtain ⟨q, hq, hparse⟩ := Option.bind_eq_some_iff.mp
    (parse_varientQueries os.isSome vers.isSome arch.isSome)
  have hresolves : (Sql.Statement.select
      (displaySelect os.isSome vers.isSome arch.isSome)).resolves db.tables = true := by
    cases os <;> cases vers <;> cases arch <;> rfl
  have hfields := fields_varientQueries os.isSome vers.isSome arch.isSome
  rw [hq] at hfields
  obtain ⟨hn, hf⟩ := Prod.mk.inj (Option.some.inj hfields)
  have hlen := length_displayBound vid os vers arch
  obtain ⟨hle, hlt⟩ := displayNumber_le os.isSome vers.isSome arch.isSome
  refine ⟨q, hq, ?_⟩
  rw [← List.take_append_drop (displayNumber os.isSome vers.isSome arch.isSome)
    (displayData vid os vers arch)]
  exact setupStatement_eq_ok _ (Sql.prepare_eq_some hparse hresolves)
    (hf.trans (fieldOf_displayBound ..).symm) (hn.trans hlen.symm) (hlen.trans_le hle) hlt

/-! ## When it is right -/

/-- The version fits into `SERVICE_LEN`, and if it is the only filter, it is the version of every
OS it is the alias of that has a package of the varient. -/
def DisplayCondition (db : PackageDb) (vid : ℕ) (f : OsFilter) : Prop :=
  ∀ v ∈ f.version, v.length ≤ serviceLen ∧
    (f.os = none → f.arch = none → ∀ p ∈ db.packages, p.varientId = vid → ∀ o ∈ db.buildOs,
      p.osId = o.id → o.verAlias = v → o.osVersion = some v)

theorem valueOf_injective_packages : Function.Injective (Sql.valueOf PackageRow.columns) := by
  rintro ⟨i, p, v, o, c, m⟩ ⟨i', p', v', o', c', m'⟩ h
  have hi : Value.int i = .int i' := congrFun h "pack_id".toList
  have hp : Value.text p = .text p' := congrFun h "package".toList
  have hv : Value.int v = .int v' := congrFun h "varient_id".toList
  have ho : Value.int o = .int o' := congrFun h "os_id".toList
  have hc : Value.int c = .int c' := congrFun h "cuser".toList
  have hm : Value.int m = .int m' := congrFun h "muser".toList
  simp only [Value.int.injEq, Value.text.injEq, Nat.cast_inj] at hi hp hv ho hc hm
  rw [hi, hp, hv, ho, hc, hm]

theorem textOrNull_injective : Function.Injective textOrNull := by
  rintro (_ | s) (_ | t) h <;> cases h <;> rfl

theorem numberOrNull_injective : Function.Injective numberOrNull := by
  rintro (_ | m) (_ | n) h <;> cases h <;> rfl

theorem valueOf_injective_oses : Function.Injective (Sql.valueOf OsRow.columns) := by
  rintro ⟨i, o, v, a, va, ar, b, c⟩ ⟨i', o', v', a', va', ar', b', c'⟩ h
  have hi : Value.int i = .int i' := congrFun h "os_id".toList
  have ho : Value.text o = .text o' := congrFun h "os".toList
  have hv : textOrNull v = textOrNull v' := congrFun h "os_version".toList
  have ha : textOrNull a = textOrNull a' := congrFun h "alias".toList
  have hva : Value.text va = .text va' := congrFun h "ver_alias".toList
  have har : textOrNull ar = textOrNull ar' := congrFun h "arch".toList
  have hb : numberOrNull b = numberOrNull b' := congrFun h "bt_id".toList
  have hc : Value.int c = .int c' := congrFun h "ctime".toList
  simp only [Value.int.injEq, Value.text.injEq, Nat.cast_inj] at hi ho hva hc
  rw [hi, ho, textOrNull_injective hv, textOrNull_injective ha, hva, textOrNull_injective har,
    numberOrNull_injective hb, hc]

/-- A row of the join tells which package and which OS it is of. -/
theorem joinedRow_injective : Function.Injective joinedRow := by
  rintro ⟨p, o⟩ ⟨p', o'⟩ h
  have hp : Sql.valueOf PackageRow.columns p = Sql.valueOf PackageRow.columns p' :=
    funext fun c => congrFun h ⟨some "p".toList, c⟩
  have ho : Sql.valueOf OsRow.columns o = Sql.valueOf OsRow.columns o' :=
    funext fun c => congrFun h ⟨some "o".toList, c⟩
  rw [valueOf_injective_packages hp, valueOf_injective_oses ho]

theorem filter_perm_filter_iff {α : Type} {P Q : α → Prop} [DecidablePred P] [DecidablePred Q]
    {l : List α} : (l.filter P).Perm (l.filter Q) ↔ ∀ x ∈ l, P x ↔ Q x := by
  constructor
  · intro h x hx
    have hmem := h.mem_iff (a := x)
    rw [List.mem_filter, List.mem_filter, and_iff_right hx, and_iff_right hx, decide_eq_true_iff,
      decide_eq_true_iff] at hmem
    exact hmem
  · intro h
    rw [List.filter_congr fun x hx => decide_eq_decide.mpr (h x hx)]

/-- A version of at most `SERVICE_LEN` characters is not cut. -/
theorem cutVersion_eq_self_iff {f : OsFilter} :
    f.cutVersion = f ↔ ∀ s ∈ f.version, s.length ≤ serviceLen := by
  obtain ⟨os, v, arch⟩ := f
  simp only [OsFilter.cutVersion, OsFilter.mk.injEq, true_and, and_true]
  cases v with
  | none => exact iff_of_true rfl nofun
  | some s =>
    rw [Option.map_some, Option.some_inj, List.take_eq_self_iff]
    exact ⟨fun h t ht => Option.some.inj ht ▸ h, fun h => h s rfl⟩

theorem version_mem_params : ∀ os arch : Bool,
    (⟨some "o".toList, "os_version".toList⟩, if os then 3 else 1) ∈
      (displaySelect os true arch).cond.params ∧
    (if os then 3 else 1) < displayNumber os true arch := by
  decide

/-- The placeholders that are bound get what is meant for them iff the version is not cut. -/
theorem bound_iff (f : OsFilter) :
    (∀ x ∈ (displaySelect f.os.isSome f.version.isSome f.arch.isSome).cond.params,
      x.2 < (dataCalls 0 (displayBound vid f.os f.cutVersion.version f.arch)).length →
      boundValue (dataCalls 0 (displayBound vid f.os f.cutVersion.version f.arch)) x.2 =
        f.meantFor vid x.1) ↔ f.cutVersion = f := by
  obtain ⟨os, vers, arch⟩ := f
  constructor
  · intro h
    cases vers with
    | none => rfl
    | some v =>
      obtain ⟨hmem, hlt⟩ := version_mem_params os.isSome arch.isSome
      have hlen := length_displayBound vid os (some (v.take serviceLen)) arch
      have hv := h _ hmem (hlt.trans_eq (hlen.symm.trans (length_dataCalls 0 _).symm))
      refine congrArg (fun v => (⟨os, some v, arch⟩ : OsFilter)) (Value.text.inj (Eq.trans ?_ hv))
      cases os <;> cases arch <;> rfl
  · intro h
    rw [h]
    cases os <;> cases vers <;> cases arch <;>
      repeat' first
        | exact List.forall_mem_nil _
        | refine List.forall_mem_cons.mpr ⟨fun _ => rfl, ?_⟩
        | refine List.forall_mem_cons.mpr ⟨fun h => absurd h (lt_irrefl _), ?_⟩

theorem displayQuery_eq {cvl : CbcvarientLine} {s : CStr}
    (hs : (cvl.varient <|> cvl.valias) = some s)
    (hvid : (db.varients.filter fun v => v.Carries s).map Varient.id = [vid])
    {q : AilsaSqlQuery} (hq : varientQueries[displayIndex cvl.osFilter.os.isSome
      cvl.osFilter.version.isSome cvl.arch.isSome]? = some q) :
    db.displayQuery cvl.toCbcvariCommLine = .ok (displayData vid cvl.osFilter.os
      cvl.osFilter.cutVersion.version cvl.arch, q) := by
  have hle : s.length ≤ configLen := (cvl.length_varient_le s hs).trans (by decide)
  rw [PackageDb.displayQuery, hs]
  dsimp only
  rw [PackageDb.checkVarientId_eq db hle, hvid]
  change (match varientQueries[(varientGetDisplayQuery cvl.toCbcvariCommLine
    (cmdbAddNumberToList vid [])).2]? with | none => _ | some q => _) = _
  rw [varientGetDisplayQuery_eq, hq]
  rfl

/-- The query takes the right OSes iff no version, alone, needs its alias. -/
theorem shown_iff_meets (f : OsFilter) :
    (∀ x ∈ db.packages.product db.buildOs,
      (x.1.osId = x.2.id ∧ x.1.varientId = vid ∧ x.2.Shown f) ↔
        x.1.osId = x.2.id ∧ x.1.varientId = vid ∧ x.2.Meets f) ↔
    ∀ v ∈ f.version, f.os = none → f.arch = none → ∀ p ∈ db.packages, p.varientId = vid →
      ∀ o ∈ db.buildOs, p.osId = o.id → o.verAlias = v → o.osVersion = some v := by
  constructor
  · intro h v hv hos harch p hp hvid o ho hid halias
    have hmeets : o.Meets f := by
      refine ⟨?_, fun u hu => ?_, ?_⟩
      · rw [hos]
        exact nofun
      · obtain rfl := Option.some.inj (hv.symm.trans hu)
        exact .inr halias
      · rw [harch]
        exact nofun
    obtain ⟨-, -, -, hshown, -⟩ :=
      (h (p, o) (List.mem_product.mpr ⟨hp, ho⟩)).mpr ⟨hid, hvid, hmeets⟩
    refine (hshown v hv).resolve_right ?_
    rintro ⟨hother, -⟩
    rw [hos, harch] at hother
    simp at hother
  · rintro h ⟨p, o⟩ hx
    obtain ⟨hp, ho⟩ := List.mem_product.mp hx
    refine and_congr_right fun hid => and_congr_right fun hvid => and_congr_right fun _ =>
      and_congr_left fun _ => forall₂_congr fun v hv => ?_
    by_cases hother : f.os.isSome ∨ f.arch.isSome
    · rw [and_iff_right hother]
    · obtain ⟨hos, harch⟩ := not_or.mp hother
      rw [Option.not_isSome_iff_eq_none] at hos harch
      refine ⟨fun h' => h'.imp_right And.right, fun h' => .inl ?_⟩
      exact h'.elim id (h v hv hos harch p hp hvid o ho hid)

/-- The rows that are shown. -/
theorem exists_displayRows {cvl : CbcvarientLine} {s : CStr}
    (hs : (cvl.varient <|> cvl.valias) = some s)
    (hvid : (db.varients.filter fun v => v.Carries s).map Varient.id = [vid]) :
    ∃ list q calls rows, db.displayQuery cvl.toCbcvariCommLine = .ok (list, q) ∧
      calls = dataCalls 0 (displayBound vid cvl.osFilter.os cvl.osFilter.cutVersion.version
        cvl.arch) ∧
      setupStatement db.tables q list = .ok (.select (displaySelect cvl.osFilter.os.isSome
        cvl.osFilter.version.isSome cvl.arch.isSome), calls) ∧
      db.displayRows cvl.toCbcvariCommLine = .ok (displayColumns, rows) ∧
      rows.Perm (((db.packages.product db.buildOs).filter fun x => x.1.osId = x.2.id ∧
        x.1.varientId = vid ∧ x.2.Shown cvl.osFilter.cutVersion).map joinedRow) := by
  have hsome : cvl.osFilter.cutVersion.version.isSome = cvl.osFilter.version.isSome :=
    Option.isSome_map
  obtain ⟨q, hq, hsetup⟩ := exists_displayQuery db vid cvl.osFilter.os
    cvl.osFilter.cutVersion.version cvl.arch
  rw [hsome] at hq hsetup
  have hquery := displayQuery_eq hs hvid hq
  let select := displaySelect cvl.osFilter.os.isSome cvl.osFilter.version.isSome cvl.arch.isSome
  let calls := dataCalls 0 (displayBound vid cvl.osFilter.os cvl.osFilter.cutVersion.version
    cvl.arch)
  have hrows : db.displayRows cvl.toCbcvariCommLine =
      .ok (displayColumns, select.rows db.tables (boundValue calls)) := by
    rw [PackageDb.displayRows, hquery]
    refine Eq.trans (b := db.argumentRows q _) rfl ?_
    rw [PackageDb.argumentRows, hsetup]
    rfl
  have hfound : select.found db.tables (boundValue calls) =
      ((db.packages.product db.buildOs).filter fun x => x.1.osId = x.2.id ∧ x.1.varientId = vid ∧
        x.2.Shown cvl.osFilter.cutVersion).map joinedRow := by
    dsimp only [select, calls]
    rw [← hsome]
    exact found_displaySelect
  exact ⟨_, q, calls, _, hquery, rfl, hsetup, hrows, hfound ▸ Sql.Select.rows_perm rfl⟩

/-- `cbcvarient -d -x base -e wheezy` -/
def displayWheezy : List CbcvarientOption :=
  [.display, .varientName "base".toList, .verAlias "wheezy".toList]

def displayWheezyLine (os : Option CStr) : CbcvariCommLine :=
  ⟨.display, .varient, some "base".toList, none, none, os, none, none, some "wheezy".toList,
    none, none⟩

/-- With the option `-n debian`. -/
theorem parse_displayWheezy_debian :
    parseCbcvarientCommLine (.osName "debian".toList :: displayWheezy) =
      .ok (displayWheezyLine (some "debian".toList)) := rfl

theorem parse_displayWheezy :
    parseCbcvarientCommLine displayWheezy = .ok (displayWheezyLine none) := rfl

end Cmdb
