import Cmdb.BuildIpSearch

/-!
# The creation of a build

`create_build_config` looks up the parts of a build in the tables, and then enters the
disk, the address with its `A` record, and the build, one after the other.
-/

namespace Cmdb

open CString DottedQuad

/-! ## Lookups -/

namespace BuildDb

variable (db : BuildDb)

/-- `MAC_ADDRESS_FOR_BUILD` on a list of the server and the device. -/
def macAddresses (args : List AilsaData) : List CStr :=
  match args with
  | .number serverId :: .text device :: _ =>
    (db.hardware.filter fun h => h.serverId = serverId ∧ h.device = device).map Hardware.detail
  | _ => []

/-- `VARIENT_ID_ON_VARIANT_OR_VALIAS`. -/
def varientIds (varient : CStr) : List ℕ :=
  (db.varients.filter fun v => v.varient = varient ∨ v.valias = varient).map Varient.id

/-- `BUILD_OS_ON_NAME_VERSION`, and `BUILD_OS_ON_ALL` if the architecture is given. -/
def osIds (os version : CStr) (arch : Option CStr) : List ℕ :=
  (db.buildOs.filter fun b => (b.os = os ∨ b.osAlias = os) ∧
    (b.osVersion = version ∨ b.verAlias = version) ∧
      (arch = none ∨ arch = some b.arch)).map BuildOs.id

/-- `DEFAULT_LOCALE`. -/
def defaultLocaleIds : List ℕ := db.defaultLocale.filter (0 < ·)

/-- `LOCALE_ID_FROM_NAME`. -/
def localeIds (name : CStr) : List ℕ := (db.locales.filter (·.name = name)).map Locale.id

/-- `SCHEME_ID_ON_NAME`. -/
def schemeIds (name : CStr) : List ℕ :=
  (db.seedSchemes.filter (·.schemeName = name)).map SeedScheme.id

/-- `SEED_SCHEME_LVM_ON_ID`. -/
def lvmOnId (id : ℕ) : List ℕ := (db.seedSchemes.filter (·.id = id)).map SeedScheme.lvm

/-- `BUILD_DOMAIN_NET_INFO`. -/
def netInfo (domain : CStr) : List BuildDomain := db.buildDomains.filter (·.domain = domain)

end BuildDb

/-- A query for the id of a part of the build, or none if its arguments are missing. -/
abbrev Lookup := Option (CbcQuery × (BuildDb → List ℕ))

/-- Run the query. -/
def cbcLookup (env : CbcEnv) (l : Lookup) : CbcProg (List ℕ) :=
  match l with
  | some (q, g) => cbcQuery env q 0 g
  | none => Prog.fail .noData

def varientLookup (varient : Option CStr) : Lookup :=
  match varient with
  | none => some (.defaultVarient, BuildDb.defaultVarient)
  | some varient => some (.varientIdOnVariantOrValias, fun db => db.varientIds (arg varient))

/-- Name and version are needed if any of the three is given. -/
def osLookup (os version arch : Option CStr) : Lookup :=
  match os, version, arch with
  | none, none, none => some (.defaultOs, BuildDb.defaultOs)
  | some os, some version, none =>
    some (.buildOsOnNameVersion, fun db => db.osIds (arg os) (arg version) none)
  | some os, some version, some arch =>
    some (.buildOsOnAll, fun db => db.osIds (arg os) (arg version) (some (arg arch)))
  | _, _, _ => none

def localeLookup (locale : Option CStr) : Lookup :=
  match locale with
  | none => some (.defaultLocale, BuildDb.defaultLocaleIds)
  | some locale => some (.localeIdFromName, fun db => db.localeIds (arg locale))

def schemeLookup (scheme : Option CStr) : Lookup :=
  match scheme with
  | none => some (.defaultScheme, BuildDb.defaultScheme)
  | some scheme => some (.schemeIdOnName, fun db => db.schemeIds (arg scheme))

/-- `cmdb_check_add_varient_id_to_list`. -/
def cmdbCheckAddVarientId (env : CbcEnv) (varient : Option CStr) : CbcProg ℕ := do
  let ids ← cbcLookup env (varientLookup varient)
  match ids with
  | [id] => return id
  | _ => Prog.fail .varientNotFound

/-- `cmdb_add_os_id_to_list`. -/
def cmdbAddOsId (env : CbcEnv) (os version arch : Option CStr) : CbcProg (List ℕ) :=
  cbcLookup env (osLookup os version arch)

/-- `cmdb_add_locale_id_to_list`. -/
def cmdbAddLocaleId (env : CbcEnv) (locale : Option CStr) : CbcProg (List ℕ) :=
  cbcLookup env (localeLookup locale)

/-- `cmdb_add_scheme_id_to_list`. -/
def cmdbAddSchemeId (env : CbcEnv) (scheme : Option CStr) : CbcProg (List ℕ) :=
  cbcLookup env (schemeLookup scheme)

/-- `cbc_get_network_info`. -/
def cbcGetNetworkInfo (env : CbcEnv) (cml : CbcCommLine) (build : List AilsaData) :
    CbcProg (List AilsaData) :=
  match cml.netcard with
  | none => Prog.fail .noData
  | some netcard => do
    let build := cmdbAddStringToList netcard build
    let l ← cbcQuery env .macAddressForBuild 0 fun db => db.macAddresses build
    match l with
    | [] => Prog.fail .noMacAddr
    | mac :: _ => return cmdbAddStringToList mac build

/-! ## The disk -/

/-- The row an insert list stands for, under a new id. -/
def newDiskDev (l : List AilsaData) : Except AilsaError (ℕ → DiskDev) :=
  match l with
  | .number serverId :: .text device :: .number lvm :: _ =>
    .ok fun id => ⟨id, serverId, device, lvm⟩
  | _ => .error .wrongListLenght

/-- `INSERT_DISK_DEV`. -/
def BuildDb.insertDiskDev (db : BuildDb) (row : ℕ → DiskDev) : BuildDb :=
  { db with diskDevs := db.diskDevs ++ [row (nextId (db.diskDevs.map DiskDev.id))] }

/-- The number in the tail of a list, which is the id of the scheme. -/
def tailNumber (build : List AilsaData) : Except AilsaError ℕ :=
  match build.getLast? with
  | some (.number n) => .ok n
  | _ => .error .nullDeref

/-- `cbc_add_disk`. -/
def cbcAddDisk (env : CbcEnv) (cml : CbcCommLine) (build : List AilsaData) : CbcProg Unit := do
  let list ← cbcQuery env .diskIdOnServerName 0 fun db => db.diskIds (arg cml.name)
  if 0 < list.length then return ()
  else
    let id ← cmdbCheckAddServerId env cml.name 2
    let disk := snprintf hostLen ("/dev/".toList ++ cml.harddisk)
    let scheme ← cbcRet (tailNumber build)
    let lvm ← cbcQuery env .seedSchemeLvmOnId 0 fun db => db.lvmOnId scheme
    let row ← cbcRet (newDiskDev (cmdbAddStringToList disk [.number id] ++ lvm.map .number))
    cbcStatement env .insertDiskDev 0 fun db => db.insertDiskDev row

/-! ## The address -/

/-- `cbc_get_build_dom_info` : the first and the last address of the domain. -/
def cbcGetBuildDomInfo (env : CbcEnv) (cml : CbcCommLine) : CbcProg (ℕ × ℕ) := do
  let list ← cbcDomainTexts env (cml.buildDomain.map arg) 2
  match list with
  | [] => Prog.fail .wrongListLenght
  | domain :: _ =>
    let bdom ← cbcQuery env .buildDomainNetInfo 0 fun db => db.netInfo domain
    match bdom with
    | [] => Prog.fail .noBuildDomain
    | d :: _ => return (d.startIp, d.endIp)

/-- `cbc_get_ip_info` : an address the server has is taken, whatever its domain. -/
def cbcGetIpInfo (dc : Dc) (env : CbcEnv) (cml : CbcCommLine) (build : List AilsaData) :
    CbcProg (List AilsaData) := do
  let ids ← cmdbAddIpId env cml.name 0
  match ids with
  | id :: _ => return cmdbAddNumberToList id build
  | [] =>
    let ip ← cbcGetBuildDomInfo env cml
    cbcCalculateBuildIp dc env cml ip.1 ip.2
    let ids ← cmdbAddIpId env cml.name 2
    return build ++ ids.map .number

/-! ## The build -/

/-- The row an insert list stands for, under a new id. -/
def newBuild (l : List AilsaData) : Except AilsaError (ℕ → Build) :=
  match l with
  | .number serverId :: .text netInstInt :: .text macAddr :: .number varientId :: .number osId ::
      .number localeId :: .number defSchemeId :: .number ipId :: _ :: _ :: _ =>
    .ok fun id =>
      ⟨id, serverId, netInstInt, macAddr, varientId, osId, localeId, defSchemeId, ipId⟩
  | _ => .error .wrongListLenght

/-- `INSERT_BUILD`. -/
def BuildDb.insertBuild (db : BuildDb) (row : ℕ → Build) : BuildDb :=
  { db with builds := db.builds ++ [row (nextId (db.builds.map Build.id))] }

/-- The searches of `create_build_config` : the list of the parts, or `none` where it
returns `0` early. -/
def createBuildSearch (env : CbcEnv) (cml : CbcCommLine) : CbcProg (Option (List AilsaData)) := do
  let l ← cbcQuery env .buildIdOnServerName 0 fun db => db.buildIds (arg cml.name)
  if 0 < l.length then return none
  else
    let id ← cmdbCheckAddServerId env cml.name 0
    let b ← cbcGetNetworkInfo env cml [.number id]
    if b.length ≠ 3 then return none
    else
      let id ← cmdbCheckAddVarientId env cml.varient
      let ids ← cmdbAddOsId env cml.os cml.osVersion cml.arch
      let b := cmdbAddNumberToList id b ++ ids.map .number
      if b.length ≠ 5 then return none
      else
        let ids ← cmdbAddLocaleId env cml.locale
        let b := b ++ ids.map .number
        if b.length ≠ 6 then return none
        else
          let ids ← cmdbAddSchemeId env cml.partition
          let b := b ++ ids.map .number
          if b.length ≠ 7 then return none else return some b

/-- The end of `create_build_config` : without an address it returns `0`. -/
def createBuildInsert (dc : Dc) (env : CbcEnv) (b : List AilsaData) : CbcProg Unit :=
  if b.length ≠ 8 then return ()
  else do
    let row ← cbcRet (newBuild (cmdbPopulateCuserMuser dc.uid b))
    cbcStatement env .insertBuild 0 fun db => db.insertBuild row

/-- `create_build_config`. -/
def createBuildConfig (dc : Dc) (env : CbcEnv) (cml : CbcCommLine) : CbcProg Unit := do
  let b ← createBuildSearch env cml
  match b with
  | none => return ()
  | some b =>
    cbcAddDisk env cml b
    let b ← cbcGetIpInfo dc env cml b
    createBuildInsert dc env b

end Cmdb
