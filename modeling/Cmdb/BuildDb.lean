import Cmdb.ZoneOps

/-!
# The build tables

The rows of the tables the build programs read and write, with the statements on them as
functions of the tables. A build program runs on these tables and on the DNS tables
(`CbcWorld`). As for the zones, whether a statement succeeds is an outcome of the run :
the number given with it tells apart several calls of one statement.
-/

namespace Cmdb

open CString DottedQuad

/-! ## Tables -/

/-- A row of `server`. -/
structure Server where
  id : ℕ
  name : CStr
deriving DecidableEq, Repr

/-- A row of `hardware`. -/
structure Hardware where
  serverId : ℕ
  device : CStr
  detail : CStr
deriving DecidableEq, Repr

/-- A row of `varient`. -/
structure Varient where
  id : ℕ
  varient : CStr
  valias : CStr
deriving DecidableEq, Repr

/-- A row of `build_os`. -/
structure BuildOs where
  id : ℕ
  os : CStr
  osAlias : CStr
  osVersion : CStr
  verAlias : CStr
  arch : CStr
deriving DecidableEq, Repr

/-- A row of `locale`. -/
structure Locale where
  id : ℕ
  name : CStr
deriving DecidableEq, Repr

/-- A row of `seed_schemes`. -/
structure SeedScheme where
  id : ℕ
  schemeName : CStr
  lvm : ℕ
deriving DecidableEq, Repr

/-- A row of `build_domain`. -/
structure BuildDomain where
  id : ℕ
  startIp : ℕ
  endIp : ℕ
  netmask : ℕ
  gateway : ℕ
  ns : ℕ
  domain : CStr
  ntpServer : CStr
  configNtp : ℕ
deriving DecidableEq, Repr

/-- A row of `build_ip`. -/
structure BuildIp where
  id : ℕ
  ip : ℕ
  hostname : CStr
  domainname : CStr
  bdId : ℕ
  serverId : ℕ
deriving DecidableEq, Repr

/-- A row of `disk_dev`. -/
structure DiskDev where
  id : ℕ
  serverId : ℕ
  device : CStr
  lvm : ℕ
deriving DecidableEq, Repr

/-- A row of `build`. -/
structure Build where
  id : ℕ
  serverId : ℕ
  netInstInt : CStr
  macAddr : CStr
  varientId : ℕ
  osId : ℕ
  localeId : ℕ
  defSchemeId : ℕ
  ipId : ℕ
deriving DecidableEq, Repr

/-- The build tables. The `default_` tables hold one column of ids. -/
structure BuildDb where
  servers : List Server
  hardware : List Hardware
  varients : List Varient
  buildOs : List BuildOs
  locales : List Locale
  seedSchemes : List SeedScheme
  buildDomains : List BuildDomain
  buildIps : List BuildIp
  diskDevs : List DiskDev
  builds : List Build
  defaultVarient : List ℕ
  defaultOs : List ℕ
  defaultLocale : List ℕ
  defaultScheme : List ℕ
  defaultDomain : List ℕ
deriving DecidableEq, Repr

/-! ## World and outcomes -/

/-- The build tables, and the DNS tables with the zone files. -/
structure CbcWorld where
  build : BuildDb
  zone : ZoneWorld
deriving DecidableEq, Repr

/-- The statements, by their names in the query tables. -/
inductive CbcQuery
  | buildIdOnServerName | serverIdOnName | macAddressForBuild
  | defaultVarient | varientIdOnVariantOrValias | defaultOs | buildOsOnAll | buildOsOnNameVersion
  | defaultLocale | localeIdFromName | defaultScheme | schemeIdOnName
  | diskIdOnServerName | seedSchemeLvmOnId | ipIdOnServerName
  | defaultDomain | defaultDomainDetails | buildDomainIdOnDomain | buildDomainNetInfo
  | buildDomainOverlap | buildIpOnBuildDomainId | aRecordsWithIp
  | insertBuildDomain | insertDiskDev | insertBuildIp | insertBuild | deleteBuildDomainOnName
  | serversWithBuildsOnOsId | deleteBuildOs | buildOsDetailsOnOsId
  | insertVarient | updateVarientName | deleteVarient | baseVarientPackages | insertBuildPackage
  | localeOnName | insertLocale | deleteLocale | setDefaultLocale
  | insertDefaultDomain | updateDefaultDomain
  | custIdOnCoid | defaultCustomer | insertCustomer | deleteCustomer
  | insertDefaultCustomer | updateDefaultCustomer
  | vmServerIdOnName | hardwareTypeIdOnClass | insertServer | insertHardware
deriving DecidableEq, Repr

/-- The outcomes one command meets : of the calls of each statement, and of what it does
on the DNS tables. -/
structure CbcEnv where
  sql : CbcQuery → ℕ → Bool
  zone : ZoneEnv

/-- Outcomes where every statement succeeds. -/
def allOk : CbcEnv := ⟨fun _ _ => true, noClock true⟩

/-- Empty tables. -/
def emptyWorld : CbcWorld :=
  ⟨⟨[], [], [], [], [], [], [], [], [], [], [], [], [], [], []⟩, ⟨⟨[], [], [], [], [], []⟩, []⟩⟩

/-- A command on the build tables and the DNS tables. -/
abbrev CbcProg (α : Type) := Prog CbcWorld AilsaError α

/-- A query. -/
def cbcQuery {α : Type} (env : CbcEnv) (q : CbcQuery) (call : ℕ) (g : BuildDb → α) :
    CbcProg α := do
  Prog.require (env.sql q call) .statementFail
  Prog.reads fun w => .ok (g w.build)

/-- An insert or a delete. -/
def cbcStatement (env : CbcEnv) (q : CbcQuery) (call : ℕ) (u : BuildDb → BuildDb) :
    CbcProg Unit := do
  Prog.require (env.sql q call) .statementFail
  Prog.modify fun w => { w with build := u w.build }

/-- A result computed without the tables. -/
def cbcRet {α : Type} (r : Except AilsaError α) : CbcProg α := Prog.reads fun _ => r

/-- A command on the DNS tables. -/
def onZone {α : Type} (p : ZoneProg α) : CbcProg α := fun w =>
  ((p w.zone).1, { w with zone := (p w.zone).2 })

/-! ## Queries -/

namespace BuildDb

variable (db : BuildDb)

/-- `SELECT server_id FROM server WHERE name = ?` as a scalar. -/
def serverIdOnName (name : CStr) : Option ℕ := (db.servers.find? (·.name = name)).map Server.id

/-- `SERVER_ID_ON_NAME`. -/
def serverIds (name : CStr) : List ℕ := (db.servers.filter (·.name = name)).map Server.id

/-- `BUILD_ID_ON_SERVER_NAME`. -/
def buildIds (name : CStr) : List ℕ :=
  (db.builds.filter fun b => some b.serverId = db.serverIdOnName name).map Build.id

/-- `IP_ID_ON_SERVER_NAME`. -/
def ipIds (name : CStr) : List ℕ :=
  (db.buildIps.filter fun b => some b.serverId = db.serverIdOnName name).map BuildIp.id

/-- `DISK_ID_ON_SERVER_NAME`. -/
def diskIds (name : CStr) : List ℕ :=
  (db.diskDevs.filter fun d => some d.serverId = db.serverIdOnName name).map DiskDev.id

/-- `BUILD_DOMAIN_ID_ON_DOMAIN`. -/
def buildDomainIds (domain : CStr) : List ℕ :=
  (db.buildDomains.filter (·.domain = domain)).map BuildDomain.id

/-- `BUILD_DOMAIN_OVERLAP` on its six parameters. -/
def buildDomainOverlap (a b c d e f : ℕ) : List ℕ :=
  (db.buildDomains.filter fun z => (a ≤ z.startIp ∧ z.endIp ≤ b) ∨
    (z.startIp ≤ c ∧ d ≤ z.endIp) ∨ (z.startIp ≤ e ∧ f ≤ z.endIp)).map BuildDomain.id

end BuildDb

/-! ## Running a statement -/

variable {α : Type} {env : CbcEnv} {w : CbcWorld}

theorem readOnly_cbcQuery (env : CbcEnv) (q : CbcQuery) (call : ℕ) (g : BuildDb → α) :
    Prog.ReadOnly (cbcQuery env q call g) :=
  (Prog.ReadOnly.require _ _).bind fun _ => Prog.ReadOnly.reads _

theorem readOnly_cbcRet (r : Except AilsaError α) : Prog.ReadOnly (cbcRet r) :=
  Prog.ReadOnly.reads _

theorem cbcQuery_run (env : CbcEnv) (q : CbcQuery) (call : ℕ) (g : BuildDb → α) (w : CbcWorld) :
    cbcQuery env q call g w =
      if env.sql q call then (.ok (g w.build), w) else (.error .statementFail, w) := by
  rw [cbcQuery]
  cases env.sql q call <;> rfl

theorem cbcStatement_run (env : CbcEnv) (q : CbcQuery) (call : ℕ) (u : BuildDb → BuildDb)
    (w : CbcWorld) : cbcStatement env q call u w =
      if env.sql q call then (.ok (), { w with build := u w.build })
      else (.error .statementFail, w) := by
  rw [cbcStatement]
  cases env.sql q call <;> rfl

theorem failsUnchanged_cbcStatement (env : CbcEnv) (q : CbcQuery) (call : ℕ)
    (u : BuildDb → BuildDb) : Prog.FailsUnchanged (cbcStatement env q call u) := by
  intro w e he
  rw [cbcStatement_run] at he ⊢
  split_ifs at he ⊢
  rfl

theorem cbcQuery_ok {q : CbcQuery} {call : ℕ} {g : BuildDb → α} {a : α}
    (h : (cbcQuery env q call g w).1 = .ok a) : env.sql q call = true ∧ a = g w.build := by
  rw [cbcQuery_run] at h
  cases hq : env.sql q call
  · simp [hq] at h
  · simpa [hq, eq_comm] using h

end Cmdb
