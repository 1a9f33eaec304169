import Cmdb.Getopt
import Cmdb.OsProfiles
import Cmdb.RemoveOs

/-!
# The details of a new OS

`cmdb_fill_os_details` lists what `INSERT_BUILD_OS` binds. The alias is the one of the command
line, or else the one the OS has in `build_os` ; but the build type is looked up by the one of the
command line alone, so that without it nothing is inserted (`cmdbFillOsDetails_iff`).
-/

namespace Cmdb

open CString Except
open Sql (Value)

/-! ## The command line of `cbcos` -/

/-- What `cbcos` is to do. -/
inductive CbcosAction
  | none | add | display | list | cbcServer | rm | version | download | default
deriving DecidableEq, Repr

/-- `cbcos_comm_line_s` -/
structure CbcosLine extends CbcosCommLine where
  action : CbcosAction
deriving DecidableEq, Repr

/-- The options of `cbcos`. -/
inductive CbcosOption
  | add | display | list | cbcServer | rm | version | download | default | usage | force
  | verAlias (optarg : CStr)
  | osName (optarg : CStr)
  | osVersion (optarg : CStr)
  | osAlias (optarg : CStr)
  | arch (optarg : CStr)
deriving DecidableEq, Repr

/-- The `switch` of `parse_cbcos_comm_line`. -/
def cbcosOption (col : CbcosLine) : CbcosOption → Except UsageError CbcosLine
  | .add => .ok { col with action := .add }
  | .display => .ok { col with action := .display }
  | .list => .ok { col with action := .list }
  | .cbcServer => .ok { col with action := .cbcServer }
  | .rm => .ok { col with action := .rm }
  | .version => .ok { col with action := .version }
  | .download => .ok { col with action := .download }
  | .default => .ok { col with action := .default }
  | .usage => .error .displayUsage
  | .force => .ok { col with force := 1 }
  | .verAlias optarg => .ok { col with verAlias := some (optarg.take macLen) }
  | .osName optarg => .ok { col with os := some (optarg.take macLen) }
  | .osVersion optarg => .ok { col with version := some (optarg.take macLen) }
  | .osAlias optarg => .ok { col with osAlias := some (optarg.take macLen) }
  | .arch optarg => .ok { col with arch := some (optarg.take serviceLen) }

/-- The checks of `parse_cbcos_comm_line` behind the options. -/
def acceptCbcos (argc : ℕ) (col : CbcosLine) : Except UsageError CbcosLine :=
  if argc = 1 then .error .displayUsage
  else if col.action = .version then .error .version
  else if col.action = .none then .error .noAction
  else if (col.action = .default ∨ col.action = .add) ∧
      (col.version = none ∨ col.os = none ∨ col.arch = none) then .error .displayUsage
  else if (col.action = .rm ∨ col.action = .cbcServer) ∧
      (col.version = none ∨ col.os = none ∧ col.osAlias = none) then .error .displayUsage
  else if (col.action ≠ .list ∧ col.action ≠ .download) ∧ col.os = none then .error .displayUsage
  else .ok col

/-- `parse_cbcos_comm_line`, where every word is an option or the argument of one. -/
def parseCbcosCommLine (opts : List CbcosOption) : Except UsageError CbcosLine := do
  let col ← opts.foldlM cbcosOption ⟨⟨none, none, none, none, none, 0⟩, .none⟩
  acceptCbcos (opts.length + 1) col

/-- The texts of a command line are what `strndup` leaves of the arguments. -/
structure CbcosCommLine.Copied (col : CbcosCommLine) : Prop where
  os : ∀ s ∈ col.os, s.length ≤ macLen
  osAlias : ∀ s ∈ col.osAlias, s.length ≤ macLen
  version : ∀ s ∈ col.version, s.length ≤ macLen
  verAlias : ∀ s ∈ col.verAlias, s.length ≤ macLen
  arch : ∀ s ∈ col.arch, s.length ≤ serviceLen

theorem CbcosCommLine.Copied.cbcosOption {col col' : CbcosLine} {o : CbcosOption}
    (h : col.Copied) (ho : cbcosOption col o = .ok col') : col'.Copied := by
  cases o with
  | usage => cases ho
  | verAlias optarg =>
    cases ho
    exact { h with verAlias := fun _ => length_take_le_of_mem }
  | osName optarg =>
    cases ho
    exact { h with os := fun _ => length_take_le_of_mem }
  | osVersion optarg =>
    cases ho
    exact { h with version := fun _ => length_take_le_of_mem }
  | osAlias optarg =>
    cases ho
    exact { h with osAlias := fun _ => length_take_le_of_mem }
  | arch optarg =>
    cases ho
    exact { h with arch := fun _ => length_take_le_of_mem }
  | _ =>
    cases ho
    exact ⟨h.os, h.osAlias, h.version, h.verAlias, h.arch⟩

section Parse

variable {opts : List CbcosOption} {col : CbcosLine}

/-- What is accepted is the command line as the options leave it. -/
theorem acceptCbcos_eq {argc : ℕ} {col' : CbcosLine} (h : acceptCbcos argc col = .ok col') :
    col' = col := by
  unfold acceptCbcos at h
  split_ifs at h
  exact (Except.ok.inj h).symm

theorem exists_of_parseCbcos (h : parseCbcosCommLine opts = .ok col) :
    opts.foldlM cbcosOption ⟨⟨none, none, none, none, none, 0⟩, .none⟩ = .ok col ∧
      acceptCbcos (opts.length + 1) col = .ok col := by
  obtain ⟨col', hloop, haccept⟩ := bind_eq_ok.mp h
  obtain rfl := acceptCbcos_eq haccept
  exact ⟨hloop, haccept⟩

theorem copied_of_parseCbcos (h : parseCbcosCommLine opts = .ok col) : col.Copied := by
  refine Getopt.foldlM_invariant (P := fun col : CbcosLine => col.Copied)
    (fun _ _ _ hcol ho => hcol.cbcosOption ho) ?_ (exists_of_parseCbcos h).1
  exact ⟨nofun, nofun, nofun, nofun, nofun⟩

/-- To add an OS its name, version and architecture are given. -/
theorem given_of_parseCbcos (h : parseCbcosCommLine opts = .ok col) (hadd : col.action = .add) :
    ∃ os version arch, col.os = some os ∧ col.version = some version ∧ col.arch = some arch := by
  have haccept := (exists_of_parseCbcos h).2
  unfold acceptCbcos at haccept
  split_ifs at haccept with _ _ _ hgiven
  rw [and_iff_right (.inr hadd), not_or, not_or] at hgiven
  obtain ⟨hversion, hos, harch⟩ := hgiven
  obtain ⟨version, hversion⟩ := Option.ne_none_iff_exists'.mp hversion
  obtain ⟨os, hos⟩ := Option.ne_none_iff_exists'.mp hos
  obtain ⟨arch, harch⟩ := Option.ne_none_iff_exists'.mp harch
  exact ⟨os, version, arch, hos, hversion, harch⟩

end Parse

/-! ## Tables -/

/-- A row of `build_type`. -/
structure BuildType where
  id : ℕ
  btAlias : CStr
deriving DecidableEq, Repr

/-- The tables of the OSes with their build types. -/
structure OsDb extends PackageDb where
  buildTypes : List BuildType

/-- `OS_ALIAS_ON_OS_NAME`, each alias once. -/
def PackageDb.osAliasOnOsName (db : PackageDb) (os : CStr) : List Value :=
  ((db.buildOs.filter fun o => o.os = os).map fun o => textOrNull o.osAlias).eraseDups.map
    storeBasic

/-- `BT_ID_ON_ALIAS` -/
def OsDb.btIdOnAlias (db : OsDb) (osAlias : CStr) : List ℕ :=
  (db.buildTypes.filter fun t => t.btAlias = osAlias).map BuildType.id

/-! ## The list -/

/-- `AILSA_NO_OS` -/
abbrev ailsaNoOs : ℤ := 217

/-- `AILSA_BUILD_TYPE_NO_FOUND` -/
abbrev ailsaBuildTypeNoFound : ℤ := 228

/-- `cmdb_add_os_alias_to_list` -/
def cmdbAddOsAliasToList (db : PackageDb) (os : Option CStr) (list : List AilsaData) :
    Except (Option ℤ) (List AilsaData) :=
  match os with
  | none => .error (some ailsaNoData)
  | some os =>
    match db.osAliasOnOsName (arg os) with
    | [] => .error (some ailsaNoOs)
    | aliases => .ok (list ++ aliases.map valueData)

/-- `cmdb_add_build_type_id_to_list` -/
def cmdbAddBuildTypeIdToList (db : OsDb) (osAlias : Option CStr) (list : List AilsaData) :
    Except (Option ℤ) (List AilsaData) :=
  match osAlias with
  | none => .error (some ailsaNoData)
  | some osAlias => .ok (list ++ (db.btIdOnAlias (arg osAlias)).map .number)

/-- `cmdb_fill_os_details`, for the user `uid`. -/
def cmdbFillOsDetails (db : OsDb) (uid : ℕ) (col : CbcosCommLine) :
    Except (Option ℤ) (List AilsaData) := do
  let os ← addStringOrNull col.os []
  let os ← addStringOrNull col.version os
  let os ← (if col.osAlias.isSome then addStringOrNull col.osAlias os
    else cmdbAddOsAliasToList db.toPackageDb col.os os)
  let os ← addStringOrNull col.verAlias os
  let os ← addStringOrNull col.arch os
  let len := os.length
  match cmdbAddBuildTypeIdToList db col.osAlias os with
  | .error _ => .error (some ailsaBuildTypeNoFound)
  | .ok os =>
    if os.length ≠ len + 1 then .error (some ailsaBuildTypeNoFound)
    else return cmdbPopulateCuserMuser uid os

/-- `add_cbc_build_os` before it asks for the OS : the alias of a version is never missing. -/
def CbcosCommLine.defaultVerAlias (col : CbcosCommLine) : CbcosCommLine :=
  { col with verAlias := some (col.verAlias.getD "none".toList) }

/-! ## What is inserted -/

/-- `INSERT_BUILD_OS` -/
def insertBuildOs : AilsaSqlQuery where
  query := ("INSERT INTO build_os (os, os_version, alias, ver_alias, arch, bt_id, cuser, muser) " ++
    "VALUES (?, ?, ?, ?, ?, ?, ?, ?)").toList
  number := 8
  fields := [.text, .text, .text, .text, .text, .lint, .lint, .lint]

/-- The alias the new OS is to have : the one given, or the only one its name has. -/
def OsDb.AliasFor (db : OsDb) (col : CbcosCommLine) (osAlias : CStr) : Prop :=
  col.osAlias = some osAlias ∨ col.osAlias = none ∧
    ∃ os ∈ col.os, (∃ o ∈ db.buildOs, o.os = os) ∧
      ∀ o ∈ db.buildOs, o.os = os → o.osAlias = some osAlias

/-- The list is the row of the new OS, with a build type of its alias, and is bound as it is. -/
def FillsOsDetails (db : OsDb) (uid : ℕ) (col : CbcosCommLine) (osAlias : CStr) : Prop :=
  ∃ o : NewOs, ∃ t ∈ db.buildTypes, t.btAlias = osAlias ∧
    col.os = some o.os ∧ col.version = some o.osVersion ∧ o.osAlias = osAlias ∧
    o.verAlias = col.verAlias.getD "none".toList ∧ col.arch = some o.arch ∧ o.btId = t.id ∧
    cmdbFillOsDetails db uid col.defaultVerAlias = .ok (o.data uid) ∧
    bindCalls insertBuildOs.fields 0 insertBuildOs.number (o.data uid) =
      .ok (dataCalls 0 (o.data uid))

theorem bindCalls_insertBuildOs (o : NewOs) (uid : ℕ) :
    bindCalls insertBuildOs.fields 0 insertBuildOs.number (o.data uid) =
      .ok (dataCalls 0 (o.data uid)) := by
  have h : bindCalls insertBuildOs.fields 0 (o.data uid).length (o.data uid ++ []) =
      .ok (dataCalls 0 (o.data uid)) :=
    bindCalls_eq_dataCalls rfl (show 0 + 8 < 2 ^ 31 by decide)
  rwa [List.append_nil] at h

/-- Without an alias on the command line no build type is looked up. -/
theorem cmdbFillOsDetails_none {db : OsDb} {uid : ℕ} {col : CbcosCommLine}
    {list : List AilsaData} (h : col.osAlias = none) :
    cmdbFillOsDetails db uid col ≠ .ok list := by
  intro hrun
  rw [cmdbFillOsDetails] at hrun
  obtain ⟨_, _, hrun⟩ := bind_eq_ok.mp hrun
  obtain ⟨_, _, hrun⟩ := bind_eq_ok.mp hrun
  obtain ⟨_, _, hrun⟩ := bind_eq_ok.mp hrun
  obtain ⟨_, _, hrun⟩ := bind_eq_ok.mp hrun
  obtain ⟨_, _, hrun⟩ := bind_eq_ok.mp hrun
  rw [h] at hrun
  cases hrun

/-- With one the list is filled if one build type has it. -/
theorem cmdbFillOsDetails_some {db : OsDb} {uid : ℕ} {col : CbcosCommLine} (hcol : col.Copied)
    {os version osAlias arch : CStr} (hos : col.os = some os)
    (hversion : col.version = some version) (halias : col.osAlias = some osAlias)
    (harch : col.arch = some arch) :
    cmdbFillOsDetails db uid col.defaultVerAlias =
      match db.btIdOnAlias osAlias with
      | [id] => .ok [.text os, .text version, .text osAlias,
          .text (col.verAlias.getD "none".toList), .text arch, .number id, .number uid, .number uid]
      | _ => .error (some ailsaBuildTypeNoFound) := by
  have hmac : macLen ≤ configLen := by decide
  have hservice : serviceLen ≤ configLen := by decide
  have hver : (col.verAlias.getD "none".toList).length ≤ configLen := by
    cases hver : col.verAlias with
    | none => decide
    | some v => exact (hcol.verAlias v hver).trans hmac
  rw [cmdbFillOsDetails, CbcosCommLine.defaultVerAlias]
  simp only [hos, hversion, halias, harch, addStringOrNull, cmdbAddStringToList,
    cmdbAddBuildTypeIdToList, arg_of_length_le ((hcol.os os hos).trans hmac),
    arg_of_length_le ((hcol.version version hversion).trans hmac),
    arg_of_length_le ((hcol.osAlias osAlias halias).trans hmac), arg_of_length_le hver,
    arg_of_length_le ((hcol.arch arch harch).trans hservice)]
  rcases db.btIdOnAlias osAlias with _ | ⟨id, _ | ⟨id', ids⟩⟩
  · rfl
  · rfl
  · let l : List AilsaData := [.text os, .text version, .text osAlias,
      .text (col.verAlias.getD "none".toList), .text arch]
    let l' : List AilsaData := (id :: id' :: ids).map .number
    have hlen : (l ++ l').length ≠ l.length + 1 := by
      rw [List.length_append, List.length_map]
      exact fun h => absurd (Nat.add_left_cancel h) (by simp)
    have hrun : (if (l ++ l').length ≠ l.length + 1 then error (some ailsaBuildTypeNoFound)
        else pure (cmdbPopulateCuserMuser uid (l ++ l'))) =
      error (some ailsaBuildTypeNoFound) := if_pos hlen
    exact hrun

/-- The list is filled iff the alias is given, and is the one of one build type. -/
theorem cmdbFillOsDetails_iff {opts : List CbcosOption} {col : CbcosLine}
    (h : parseCbcosCommLine opts = .ok col) (hadd : col.action = .add) (db : OsDb) (uid : ℕ)
    {osAlias : CStr} (halias : db.AliasFor col.toCbcosCommLine osAlias) :
    FillsOsDetails db uid col.toCbcosCommLine osAlias ↔
      col.osAlias.isSome ∧ ∃ id, db.btIdOnAlias osAlias = [id] := by
  obtain ⟨os, version, arch, hos, hversion, harch⟩ := given_of_parseCbcos h hadd
  obtain hnone | hnone := eq_or_ne col.osAlias none
  · rw [hnone]
    refine iff_of_false ?_ nofun
    rintro ⟨o, t, -, -, -, -, -, -, -, -, hrun, -⟩
    exact cmdbFillOsDetails_none (by exact hnone) hrun
  · obtain halias : col.osAlias = some osAlias := halias.resolve_right fun h => hnone h.1
    have hcopied := copied_of_parseCbcos h
    have hrun := @cmdbFillOsDetails_some db uid _ hcopied _ _ _ _ hos hversion halias harch
    rw [halias, Option.isSome_some, and_iff_right rfl]
    constructor
    · rintro ⟨o, t, -, -, -, -, -, -, -, -, hok, -⟩
      rw [hrun] at hok
      rcases hids : db.btIdOnAlias osAlias with _ | ⟨id, _ | ⟨id', ids⟩⟩
      · rw [hids] at hok
        cases hok
      · exact ⟨id, rfl⟩
      · rw [hids] at hok
        cases hok
    · rintro ⟨id, hid⟩
      have hmem : id ∈ db.btIdOnAlias osAlias := hid ▸ List.mem_singleton.mpr rfl
      obtain ⟨t, ht, rfl⟩ := List.mem_map.mp hmem
      obtain ⟨ht, hta⟩ := List.mem_filter.mp ht
      let o : NewOs := ⟨os, version, osAlias, col.verAlias.getD "none".toList, arch, t.id,
        (hcopied.arch arch harch).trans (by decide)⟩
      rw [hid] at hrun
      exact ⟨o, t, ht, of_decide_eq_true hta, hos, hversion, rfl, rfl, harch, rfl, hrun,
        bindCalls_insertBuildOs o uid⟩

/-- The build type of the OSes there are. -/
def debianTypes : OsDb := { twoArchs with buildTypes := [⟨1, "deb".toList⟩] }

/-- `cbcos -a -n debian -o 8 -s deb -t x86_64` -/
def addJessie : List CbcosOption :=
  [.add, .osName "debian".toList, .osVersion "8".toList, .osAlias "deb".toList,
    .arch "x86_64".toList]

theorem cmdbFillOsDetails_iff_jessie :
    FillsOsDetails debianTypes 0 ⟨some "debian".toList, some "deb".toList, some "8".toList, none,
      some "x86_64".toList, 0⟩ "deb".toList := by
  have hparse : parseCbcosCommLine addJessie = .ok ⟨⟨some "debian".toList, some "deb".toList,
    some "8".toList, none, some "x86_64".toList, 0⟩, .add⟩ := rfl
  exact (cmdbFillOsDetails_iff hparse rfl debianTypes 0 (.inl rfl)).mpr ⟨rfl, 1, rfl⟩

/-- `cbcos -a -n debian -o 8 -t x86_64` -/
def addWithoutAlias : List CbcosOption :=
  [.add, .osName "debian".toList, .osVersion "8".toList, .arch "x86_64".toList]

/-- The alias of the OS is looked up, but not its build type. -/
theorem not_fillsOsDetails : ∃ col, parseCbcosCommLine addWithoutAlias = .ok col ∧
    col.action = .add ∧ debianTypes.AliasFor col.toCbcosCommLine "deb".toList ∧
    (∃ t ∈ debianTypes.buildTypes, t.btAlias = "deb".toList) ∧
    ¬FillsOsDetails debianTypes 0 col.toCbcosCommLine "deb".toList := by
  refine ⟨_, rfl, rfl, .inr ⟨rfl, "debian".toList, rfl, by decide, by decide⟩, by decide, ?_⟩
  rintro ⟨o, t, -, -, -, -, -, -, -, -, hrun, -⟩
  exact cmdbFillOsDetails_none rfl hrun

end Cmdb
