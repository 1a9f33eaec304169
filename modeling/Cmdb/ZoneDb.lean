import Mathlib.Data.Char
import Mathlib.Data.List.Lex
import Cmdb.DottedQuad
import Cmdb.Prog
import Cmdb.Ailsa

/-!
# The DNS tables and the zone files

The rows of the DNS tables the programs read, with the statements on them as functions
of the tables, and the zone files written so far. A statement is a step of a `Prog` :
whether it succeeds is an outcome of the run (`ZoneEnv.sql`), as are the clock, the
opening of a zone file and the zone checker. `Dc` is what stays the same over a run.
-/

namespace Cmdb

open CString DottedQuad

/-! ## Tables -/

/-- A row of `zones`. -/
structure Zone where
  id : ℕ
  name : CStr
  priDns : CStr
  secDns : CStr
  serial : ℕ
  refresh : ℕ
  retry : ℕ
  expire : ℕ
  ttl : ℕ
  valid : CStr
  updated : CStr
  type : CStr
  master : Option CStr
deriving DecidableEq, Repr

/-- A row of `records`. -/
structure DnsRecord where
  id : ℕ
  zone : ℕ
  host : CStr
  type : CStr
  protocol : Option CStr
  service : Option CStr
  pri : ℕ
  destination : CStr
deriving DecidableEq, Repr

/-- A row of `glue_zones`. -/
structure GlueZone where
  id : ℕ
  zoneId : ℕ
  name : CStr
  priNs : CStr
  secNs : CStr
  priDns : CStr
  secDns : CStr
deriving DecidableEq, Repr

/-- A row of `rev_zones`. -/
structure RevZoneRow where
  id : ℕ
  netRange : CStr
  pfx : CStr
  startIp : ℕ
  finishIp : ℕ
  priDns : CStr
  secDns : CStr
  serial : ℕ
  refresh : ℕ
  retry : ℕ
  expire : ℕ
  ttl : ℕ
  valid : CStr
  updated : CStr
  type : CStr
  master : Option CStr
deriving DecidableEq, Repr

/-- A row of `rev_records`. -/
structure RevRecord where
  id : ℕ
  revZone : ℕ
  zoneIndex : ℕ
  host : CStr
  destination : CStr
deriving DecidableEq, Repr

/-- A row of `preferred_a`. -/
structure PreferredA where
  ip : CStr
  fqdn : CStr
  recordId : ℕ
deriving DecidableEq, Repr

/-- The DNS tables. -/
structure ZoneDb where
  zones : List Zone
  records : List DnsRecord
  glueZones : List GlueZone
  revZones : List RevZoneRow
  revRecords : List RevRecord
  preferredA : List PreferredA
deriving DecidableEq, Repr

/-- The id SQLite gives a new row : one above the largest. -/
def nextId (ids : List ℕ) : ℕ := ids.foldr max 0 + 1

theorem lt_nextId : ∀ {ids : List ℕ} {i : ℕ}, i ∈ ids → i < nextId ids
  | j :: ids, i, h => by
    have ih : i ∈ ids → i < nextId ids := lt_nextId
    simp only [nextId, List.foldr_cons] at ih ⊢
    rcases List.mem_cons.mp h with rfl | h
    · omega
    · have := ih h
      omega

theorem nextId_pos (ids : List ℕ) : 0 < nextId ids := Nat.succ_pos _

theorem nextId_not_mem (ids : List ℕ) : nextId ids ∉ ids := fun h => (lt_nextId h).ne rfl

/-! ## World and outcomes -/

/-- A zone file : of a forward zone, or of one sub-zone of a reverse zone. -/
inductive ZoneFile
  | fwd (zone : CStr)
  | rev (range : CStr) (index : ℕ)
deriving DecidableEq, Repr

/-- A zone file as it was written : the serial printed in its header, the serial stored
in the zone's row at that moment, and its lines. -/
structure Written where
  file : ZoneFile
  serial : ℕ
  stored : ℕ
  header : List CStr
  body : List CStr
deriving DecidableEq, Repr

/-- The tables, and the files written, the last one first. -/
structure ZoneWorld where
  db : ZoneDb
  files : List Written
deriving DecidableEq, Repr

/-- A calendar day (`struct tm`). -/
structure Tm where
  year : ℕ
  mon : ℕ
  mday : ℕ
deriving DecidableEq, Repr

/-- The statements, by their names in the query tables. -/
inductive Query
  | fwdZoneIdOnZoneName | revZoneIdOnRange | nameServersOnName | zoneSoaOnName
  | nsMxSrvRecords | zoneRecordsOnName | glueZoneOnZoneName | zoneTypeOnName | zoneNameTypes
  | revZonesNetRange | revSoaOnNetRange | revRecordsOnNetRange | fullRevRecords
  | recordsOnNetRange | preferAInfoOnRange | prefixOnNetRange
  | recordIdOnHostZoneType | recordIdBase | recordIdMx | recordIdSrv
  | recordOnZoneAndHost | recordOnZoneAndHostAndA | recordInOnPri | recordInOnProtocol
  | parentZoneIdOnGlueZone
  | insertRecordBase | insertRecordMx | insertRecordSrv | insertReverseRecord | insertGlueZone
  | deleteRecTypeHost | deleteRecPri | deleteRecProto | deleteReverseRecord | deleteGlueZone
  | revZoneOverlap | insertReverseZone | deleteRevZone
  | insertForwardZone | insertForwardSlaveZone | deleteFwdZone | fwdZoneConfig | revZoneConfig
  | fwdZoneValidate | fwdZoneSerialUpdate | revZoneValidate | revZoneSerialUpdate
  | setFwdZoneUpdated | setFwdZoneUpdatedOnName | setRevZoneUpdated
  | dupIpARecord | fqdnPrefAOnIp | insertPrefA | deletePrefA
deriving DecidableEq, Repr

/-- What `getaddrinfo` finds first : an IPv4 or an IPv6 address, as text. -/
inductive AddrInfo
  | v4 (ip : CStr)
  | v6 (ip : CStr)
deriving DecidableEq, Repr

/-- The text of an address. -/
def AddrInfo.ip : AddrInfo → CStr
  | v4 ip => ip
  | v6 ip => ip

/-- The outcomes one command meets : of a statement on a name and an index, of reading
the clock, opening a file and checking it, and of resolving a name at the `k`-th place of
the command. -/
structure ZoneEnv where
  sql : Query → CStr → ℕ → Bool
  clock : ZoneFile → Option Tm
  openOk : ZoneFile → Bool
  chkz : ZoneFile → Bool
  getaddrinfo : ℕ → CStr → Option AddrInfo

/-- What does not change over a run : the host master of the configuration, the user,
and the ports of `getservbyname`. -/
structure Dc where
  hostmaster : CStr
  uid : ℕ
  port : CStr → CStr → Option ℕ

/-- A command on the tables and the zone files. -/
abbrev ZoneProg (α : Type) := Prog ZoneWorld AilsaError α

/-- All statements succeed. -/
def ZoneEnv.SqlOk (env : ZoneEnv) : Prop := ∀ q name index, env.sql q name index = true

/-- Outcomes where statements succeed, the clock cannot be read, and files open or not. -/
def noClock (openOk : Bool) : ZoneEnv :=
  ⟨fun _ _ _ => true, fun _ => none, fun _ => openOk, fun _ => true, fun _ _ => none⟩

/-- `ailsa_argument_query` and `ailsa_basic_query`. -/
def query {α : Type} (env : ZoneEnv) (q : Query) (name : CStr) (index : ℕ) (g : ZoneDb → α) :
    ZoneProg α := do
  Prog.require (env.sql q name index) .statementFail
  Prog.reads fun w => .ok (g w.db)

/-- `ailsa_insert_query`, `ailsa_update_query`, `ailsa_delete_query` and the multi-row
variants, which are one statement too. -/
def statement (env : ZoneEnv) (q : Query) (name : CStr) (index : ℕ) (u : ZoneDb → ZoneDb) :
    ZoneProg Unit := do
  Prog.require (env.sql q name index) .statementFail
  Prog.modify fun w => { w with db := u w.db }

/-- A result computed without the state. -/
def ret {α : Type} (r : Except AilsaError α) : ZoneProg α := Prog.reads fun _ => r

theorem query_eq {α : Type} {env : ZoneEnv} (h : env.SqlOk) (q : Query) (name : CStr) (index : ℕ)
    (g : ZoneDb → α) : query env q name index g = Prog.reads fun w => .ok (g w.db) := by
  rw [query, h, Prog.require_true]
  rfl

theorem statement_eq {env : ZoneEnv} (h : env.SqlOk) (q : Query) (name : CStr) (index : ℕ)
    (u : ZoneDb → ZoneDb) :
    statement env q name index u = Prog.modify fun w => { w with db := u w.db } := by
  rw [statement, h, Prog.require_true]
  rfl

/-- A statement changes the tables, or fails and changes nothing. -/
theorem statement_run (env : ZoneEnv) (q : Query) (name : CStr) (index : ℕ) (u : ZoneDb → ZoneDb)
    (w : ZoneWorld) : statement env q name index u w =
      if env.sql q name index then (.ok (), { w with db := u w.db })
      else (.error .statementFail, w) := by
  rw [statement]
  cases env.sql q name index <;> rfl

theorem readOnly_query {α : Type} (env : ZoneEnv) (q : Query) (name : CStr) (index : ℕ)
    (g : ZoneDb → α) : Prog.ReadOnly (query env q name index g) :=
  (Prog.ReadOnly.require _ _).bind fun _ => Prog.ReadOnly.reads _

theorem readOnly_ret {α : Type} (r : Except AilsaError α) : Prog.ReadOnly (ret r) :=
  Prog.ReadOnly.reads _

theorem ret_ok_bind_run {α β : Type} (a : α) (f : α → ZoneProg β) (w : ZoneWorld) :
    (ret (.ok a) >>= f) w = f a w := rfl

theorem ret_error_bind_run {α β : Type} (e : AilsaError) (f : α → ZoneProg β) (w : ZoneWorld) :
    (ret (.error e) >>= f) w = (.error e, w) := rfl

theorem query_run {α : Type} (h : env.SqlOk) (q : Query) (name : CStr) (index : ℕ)
    (g : ZoneDb → α) (w : ZoneWorld) : query env q name index g w = (.ok (g w.db), w) := by
  rw [query_eq h]
  rfl

/-- A query answers from the tables, or fails; both change nothing. -/
theorem query_run_of_true {α : Type} {env : ZoneEnv} {q : Query} {name : CStr} {index : ℕ}
    (h : env.sql q name index = true) (g : ZoneDb → α) (w : ZoneWorld) :
    query env q name index g w = (.ok (g w.db), w) := by
  rw [query, h]
  rfl

theorem query_run_of_false {α : Type} {env : ZoneEnv} {q : Query} {name : CStr} {index : ℕ}
    (h : ¬env.sql q name index = true) (g : ZoneDb → α) (w : ZoneWorld) :
    query env q name index g w = (.error .statementFail, w) := by
  rw [query, Bool.eq_false_iff.mpr h]
  rfl

theorem query_ok_iff {α : Type} {env : ZoneEnv} {q : Query} {name : CStr} {index : ℕ}
    {g : ZoneDb → α} {w : ZoneWorld} {a : α} : (query env q name index g w).1 = .ok a ↔
      env.sql q name index = true ∧ g w.db = a := by
  rw [query]
  cases env.sql q name index
  · exact iff_of_false nofun nofun
  · exact ⟨fun h => ⟨rfl, Except.ok.inj h⟩, fun h => congrArg Except.ok h.2⟩

theorem query_ok {α : Type} {env : ZoneEnv} {q : Query} {name : CStr} {index : ℕ}
    {g : ZoneDb → α} {w : ZoneWorld} {a : α} (h : (query env q name index g w).1 = .ok a) :
    a = g w.db := (query_ok_iff.mp h).2.symm

/-! ## Queries -/

/-- `LIKE` : `%` is any text, `_` any character, letters match in either case. -/
def like : CStr → CStr → Bool
  | [], s => s.isEmpty
  | c :: p, s =>
    if c = '%' then s.tails.any (like p)
    else
      match s with
      | [] => false
      | x :: t => (c = '_' || c.toLower = x.toLower) && like p t

/-- `ORDER BY` on texts. -/
def textLe (s t : CStr) : Bool := decide (s ≤ t)

namespace ZoneDb

variable (db : ZoneDb)

/-- `SELECT id FROM zones WHERE name = ?` as a scalar. -/
def zoneIdOnName (name : CStr) : Option ℕ := (db.zones.find? (·.name = name)).map Zone.id

/-- `FWD_ZONE_ID_ON_ZONE_NAME`. -/
def fwdZoneIds (name type : CStr) : List ℕ :=
  (db.zones.filter fun z => z.name = name ∧ z.type = type).map Zone.id

/-- The rows `NAME_SERVERS_ON_NAME`, `ZONE_SOA_ON_NAME` and `ZONE_TYPE_ON_NAME` read. -/
def zonesOnName (name : CStr) : List Zone := db.zones.filter (·.name = name)

/-- `NS_MX_SRV_RECORDS`. -/
def nsMxSrv (name : CStr) : List DnsRecord :=
  db.records.filter fun r => some r.zone = db.zoneIdOnName name ∧
    (r.type = "NS".toList ∨ r.type = "MX".toList ∨ r.type = "SRV".toList)

/-- `ZONE_RECORDS_ON_NAME`, by type and host. -/
def zoneRecords (name : CStr) : List DnsRecord :=
  (db.records.filter fun r => r.type ≠ "NS".toList ∧ r.type ≠ "MX".toList ∧
    r.type ≠ "SRV".toList ∧ some r.zone = db.zoneIdOnName name).mergeSort fun r r' =>
      if r.type = r'.type then textLe r.host r'.host else textLe r.type r'.type

/-- `GLUE_ZONE_ON_ZONE_NAME`. -/
def glueOnZoneName (name : CStr) : List GlueZone :=
  db.glueZones.filter fun g => db.zones.any fun z => z.id = g.zoneId ∧ z.name = name

/-- `SELECT rev_zone_id FROM rev_zones WHERE net_range = ?` as a scalar. -/
def revZoneIdOnRange (range : CStr) : Option ℕ :=
  (db.revZones.find? (·.netRange = range)).map RevZoneRow.id

/-- The rows `REV_SOA_ON_NET_RANGE` and `PREFIX_ON_NET_RANGE` read. -/
def revZonesOnRange (range : CStr) : List RevZoneRow := db.revZones.filter (·.netRange = range)

/-- The rows `REV_RECORDS_ON_NET_RANGE` and `FULL_REV_RECORDS` read. -/
def revRecordsOnRange (range : CStr) (index : ℕ) : List RevRecord :=
  db.revRecords.filter fun r => some r.revZone = db.revZoneIdOnRange range ∧ r.zoneIndex = index

/-! ## Changes -/

/-- `SET_FWD_ZONE_UPDATED_ON_NAME`. -/
def setFwdUpdatedOnName (name : CStr) : ZoneDb :=
  { db with zones := db.zones.map fun z =>
      if z.name = name then { z with updated := "yes".toList } else z }

/-- `SET_FWD_ZONE_UPDATED`. -/
def setFwdUpdated (id : ℕ) : ZoneDb :=
  { db with zones := db.zones.map fun z =>
      if z.id = id then { z with updated := "yes".toList } else z }

/-- `FWD_ZONE_SERIAL_UPDATE`. -/
def setFwdSerial (name : CStr) (serial : ℕ) : ZoneDb :=
  { db with zones := db.zones.map fun z =>
      if z.name = name then { z with serial := serial, updated := "no".toList } else z }

/-- `FWD_ZONE_VALIDATE`. -/
def setFwdValid (name valid : CStr) : ZoneDb :=
  { db with zones := db.zones.map fun z =>
      if z.name = name then { z with valid := valid } else z }

/-- `SET_REV_ZONE_UPDATED`. -/
def setRevUpdated (range : CStr) : ZoneDb :=
  { db with revZones := db.revZones.map fun z =>
      if z.netRange = range then { z with updated := "yes".toList } else z }

/-- `REV_ZONE_SERIAL_UPDATE`. -/
def setRevSerial (range : CStr) (serial : ℕ) : ZoneDb :=
  { db with revZones := db.revZones.map fun z =>
      if z.netRange = range then { z with serial := serial, updated := "no".toList } else z }

/-- `REV_ZONE_VALIDATE`. -/
def setRevValid (range valid : CStr) : ZoneDb :=
  { db with revZones := db.revZones.map fun z =>
      if z.netRange = range then { z with valid := valid } else z }

end ZoneDb

/-! ## Serials -/

/-- The decimal text of a number. -/
def numText (n : ℕ) : CStr := Nat.toDigits 10 n

/-- `strtoul` on a text of digits. -/
def strtoul (s : CStr) : ℕ := Nat.ofDigitChars 10 (s.takeWhile Char.isDigit) 0

/-- `generate_zone_serial` : year, month, day and `01`, or `0` without a local time. -/
def generateZoneSerial : Option Tm → ℕ
  | none => 0
  | some t =>
    let year := numText (t.year + 1900)
    let month := if t.mon < 9 then '0' :: numText (t.mon + 1) else numText (t.mon + 1)
    let day := if t.mday < 10 then '0' :: numText t.mday else numText t.mday
    strtoul (year ++ month ++ day ++ "01".toList)

end Cmdb
