import Cmdb.Records
import Cmdb.ZoneFile

/-!
# Commands on the DNS tables

The commands that change what a zone file will hold : adding and deleting records, the
`CNAME` in the parent domain, glue zones, the `A` record of a build, and the rebuild of
a reverse zone. Each changes rows of one zone and then marks a row of `zones` or
`rev_zones` as updated, by its name or by its id.
-/

namespace Cmdb

open CString DottedQuad

/-- The command line of `dnsa` (`dnsa_comm_line_s`), as far as the commands read it. The
domain is cut to `DOMAIN_LEN` when the options are parsed. -/
structure DnsaCommLine where
  domain : CStr
  host : CStr
  dest : CStr
  rtype : CStr
  pfx : ℕ
  protocol : Option CStr
  service : Option CStr
  toplevel : Option CStr
  glueNs : Option CStr
  glueIp : Option CStr
  length_domain : domain.length ≤ domainLen
deriving DecidableEq, Repr

/-! ## Statements on rows -/

/-- The `WHERE` clause a data list is bound to : zone, type and host, then by its length
the destination, the priority, the protocol and service. -/
def matchesRow (record : List AilsaData) (r : DnsRecord) : Bool :=
  match record with
  | [.number zone, .text type, .text host] => r.zone = zone ∧ r.type = type ∧ r.host = host
  | [.number zone, .text type, .text host, .text dest] =>
    r.zone = zone ∧ r.type = type ∧ r.host = host ∧ r.destination = dest
  | [.number zone, .text type, .text host, .text dest, .number pri] =>
    r.zone = zone ∧ r.type = type ∧ r.host = host ∧ r.destination = dest ∧ r.pri = pri
  | [.number zone, .text type, .text host, .text dest, .number pri, .text protocol,
      .text service] =>
    r.zone = zone ∧ r.type = type ∧ r.host = host ∧ r.destination = dest ∧ r.pri = pri ∧
      r.protocol = some protocol ∧ r.service = some service
  | [.number zone, .text type, .text host, .number pri] =>
    r.zone = zone ∧ r.type = type ∧ r.host = host ∧ r.pri = pri
  | [.number zone, .text type, .text host, .number pri, .text protocol, .text service] =>
    r.zone = zone ∧ r.type = type ∧ r.host = host ∧ r.pri = pri ∧
      r.protocol = some protocol ∧ r.service = some service
  | _ => false

/-- The row an insert list stands for. -/
def newRecord (id : ℕ) (record : List AilsaData) : Option DnsRecord :=
  match record with
  | [.number zone, .text type, .text host, .text dest, _, _] =>
    some ⟨id, zone, host, type, none, none, 0, dest⟩
  | [.number zone, .text type, .text host, .text dest, .number pri, _, _] =>
    some ⟨id, zone, host, type, none, none, pri, dest⟩
  | [.number zone, .text type, .text host, .text dest, .number pri, .text protocol,
      .text service, _, _] =>
    some ⟨id, zone, host, type, some protocol, some service, pri, dest⟩
  | _ => none

namespace ZoneDb

variable (db : ZoneDb)

/-- The ids of the records a data list selects. -/
def recordIds (record : List AilsaData) : List ℕ :=
  (db.records.filter (matchesRow record)).map DnsRecord.id

/-- `INSERT_RECORD_BASE`, `INSERT_RECORD_MX` and `INSERT_RECORD_SRV`. -/
def insertRecord (record : List AilsaData) : ZoneDb :=
  { db with records := db.records ++
      (newRecord (nextId (db.records.map DnsRecord.id)) record).toList }

/-- `DELETE_REC_TYPE_HOST`, `DELETE_REC_PRI` and `DELETE_REC_PROTO`. -/
def deleteRecords (record : List AilsaData) : ZoneDb :=
  { db with records := db.records.filter fun r => ¬matchesRow record r }

/-- `INSERT_GLUE_ZONE`. -/
def insertGlue (z : List AilsaData) : ZoneDb :=
  match z with
  | [.number zoneId, .text name, .text priNs, .text secNs, .text priDns, .text secDns, _, _] =>
    { db with glueZones := db.glueZones ++
        [⟨nextId (db.glueZones.map GlueZone.id), zoneId, name, priNs, secNs, priDns, secDns⟩] }
  | _ => db

/-- `DELETE_GLUE_ZONE`. -/
def deleteGlue (name : CStr) : ZoneDb :=
  { db with glueZones := db.glueZones.filter (·.name ≠ name) }

/-- `DELETE_REVERSE_RECORD` on several ids. -/
def deleteRevRecords (ids : List AilsaData) : ZoneDb :=
  { db with revRecords := db.revRecords.filter fun r => .number r.id ∉ ids }

/-- `INSERT_REVERSE_RECORD`, one row. -/
def insertRevRecord (e : NewRevRecord) : ZoneDb :=
  { db with revRecords := db.revRecords ++
      [⟨nextId (db.revRecords.map RevRecord.id), e.zoneId, e.index, e.host, e.dest⟩] }

/-- `INSERT_REVERSE_RECORD` on several rows. -/
def insertRevRecords (rows : List NewRevRecord) : ZoneDb := rows.foldl insertRevRecord db

end ZoneDb

/-! ## Shared helpers -/

/-- `cmdb_check_add_zone_id_to_list` for a forward zone : the id of the one zone of that
name and type. -/
def cmdbCheckAddZoneId (env : ZoneEnv) (zone ztype : CStr) : ZoneProg ℕ := do
  let ids ← query env .fwdZoneIdOnZoneName zone 0 fun db => db.fwdZoneIds (arg zone) (arg ztype)
  match ids with
  | [id] => return id
  | _ => Prog.fail .zoneNotFound

/-- `set_db_row_updated` by name. -/
def setDbRowUpdatedOnName (env : ZoneEnv) (name : CStr) : ZoneProg Unit :=
  statement env .setFwdZoneUpdatedOnName name 0 fun db => db.setFwdUpdatedOnName (arg name)

/-- `set_db_row_updated` by id. -/
def setDbRowUpdated (env : ZoneEnv) (number : ℕ) : ZoneProg Unit := do
  Prog.require (number ≠ 0) .noData
  statement env .setFwdZoneUpdated [] number fun db => db.setFwdUpdated number

/-- The query `cmdb_check_for_fwd_record` takes for a list of that length. -/
def fwdRecordQuery : ℕ → Except AilsaError Query
  | 3 => .ok .recordIdOnHostZoneType
  | 4 => .ok .recordIdBase
  | 5 => .ok .recordIdMx
  | 7 => .ok .recordIdSrv
  | _ => .error .minusOne

/-- `cmdb_check_for_fwd_record` : how many records there are. -/
def cmdbCheckForFwdRecord (env : ZoneEnv) (record : List AilsaData) : ZoneProg ℕ := do
  let q ← ret (fwdRecordQuery record.length)
  let l ← query env q [] 0 fun db => db.recordIds record
  return l.length

/-- `cmdb_add_string_to_list` on a string that may be missing. -/
def addStringToList (str : Option CStr) (list : List AilsaData) :
    Except AilsaError (List AilsaData) :=
  match str with
  | some s => .ok (cmdbAddStringToList s list)
  | none => .error .noData

/-- A string that is listed is there. -/
theorem addStringToList_bind_ok {α : Type} {str : Option CStr} {list : List AilsaData}
    {f : List AilsaData → Except AilsaError α} {a : α}
    (h : (addStringToList str list >>= f) = .ok a) :
    ∃ s, str = some s ∧ f (list ++ [.text (arg s)]) = .ok a := by
  rcases str with _ | s
  · cases h
  · exact ⟨s, rfl, h⟩

/-! ## Records -/

/-- `dnsa_populate_record`. -/
def dnsaPopulateRecord (cm : DnsaCommLine) (list : List AilsaData) :
    Except AilsaError (List AilsaData) := do
  let list := cmdbAddStringToList cm.dest
    (cmdbAddStringToList cm.host (cmdbAddStringToList cm.rtype list))
  let list := if cm.rtype = "MX".toList ∨ cm.rtype = "SRV".toList then
      cmdbAddNumberToList cm.pfx list
    else list
  if cm.rtype = "SRV".toList then do
    let list ← addStringToList cm.protocol list
    addStringToList cm.service list
  else return list

/-- The statement `add_host` takes for a list of that length. -/
def insertRecordQuery : ℕ → Except AilsaError Query
  | 6 => .ok .insertRecordBase
  | 7 => .ok .insertRecordMx
  | 9 => .ok .insertRecordSrv
  | _ => .error .wrongListLenght

/-- `add_host`. -/
def addHost (dc : Dc) (env : ZoneEnv) (cm : DnsaCommLine) : ZoneProg Unit := do
  let id ← cmdbCheckAddZoneId env cm.domain "master".toList
  let record ← ret (dnsaPopulateRecord cm [.number id])
  let n ← cmdbCheckForFwdRecord env record
  if 0 < n then return ()
  else
    let record := cmdbPopulateCuserMuser dc.uid record
    let q ← ret (insertRecordQuery record.length)
    statement env q [] 0 fun db => db.insertRecord record
    setDbRowUpdatedOnName env cm.domain

/-- The arguments of `delete_record`. -/
def deleteRecordList (cm : DnsaCommLine) (id : ℕ) : Except AilsaError (List AilsaData) := do
  let record := cmdbAddStringToList cm.host (cmdbAddStringToList cm.rtype [.number id])
  let record := if cm.pfx ≠ 0 then cmdbAddNumberToList cm.pfx record else record
  match cm.protocol with
  | some protocol => addStringToList cm.service (cmdbAddStringToList protocol record)
  | none => return record

/-- The query and the statement `delete_record` takes for a list of that length. -/
def deleteRecordQueries : ℕ → Except AilsaError (Query × Query)
  | 3 => .ok (.recordIdOnHostZoneType, .deleteRecTypeHost)
  | 4 => .ok (.recordInOnPri, .deleteRecPri)
  | 6 => .ok (.recordInOnProtocol, .deleteRecProto)
  | _ => .error .wrongListLenght

/-- `delete_record`. A failed delete does not keep the zone from being marked. -/
def deleteRecord (env : ZoneEnv) (cm : DnsaCommLine) : ZoneProg Unit := do
  let id ← cmdbCheckAddZoneId env cm.domain "master".toList
  let record ← ret (deleteRecordList cm id)
  let q ← ret (deleteRecordQueries record.length)
  let list ← query env q.1 [] 0 fun db => db.recordIds record
  if list.length = 0 then return ()
  else
    let _ ← Prog.attempt (statement env q.2 [] 0 fun db => db.deleteRecords record)
    setDbRowUpdatedOnName env cm.domain

/-! ## `CNAME` in the parent domain -/

/-- The parent domain : what stands behind the first dot. -/
def parentDomain (domain : CStr) : Option CStr :=
  (strchr domain '.').map fun p => domain.drop (p + 1)

/-- The id of the top level zone : the one given, or the parent of the domain. -/
def toplevelId (env : ZoneEnv) (domain : CStr) (top : Option CStr) : ZoneProg ℕ :=
  match top with
  | some top => cmdbCheckAddZoneId env top "master".toList
  | none =>
    match parentDomain (snprintf domainLen domain) with
    | some tmp => cmdbCheckAddZoneId env tmp "master".toList
    | none => Prog.fail .noTopLevelDomain

/-- `check_for_zones_and_hosts` : the host has an `A` record in the domain, and no
record in the top level domain. -/
def checkForZonesAndHosts (env : ZoneEnv) (dom : CStr) (top : Option CStr) (host : CStr) :
    ZoneProg Unit := do
  let d ← cmdbCheckAddZoneId env dom "master".toList
  let t ← toplevelId env dom top
  let z ← query env .recordOnZoneAndHostAndA [] d fun db =>
    db.records.filter fun r => r.zone = d ∧ r.host = arg host ∧ r.type = "A".toList
  Prog.require (z.length ≠ 0) .noHost
  let z ← query env .recordOnZoneAndHost [] t fun db =>
    db.records.filter fun r => r.zone = t ∧ r.host = arg host
  Prog.require (z.length = 0) .hostExists

/-- `add_cname_to_root_domain`. -/
def addCnameToRootDomain (dc : Dc) (env : ZoneEnv) (cm : DnsaCommLine) : ZoneProg Unit := do
  checkForZonesAndHosts env cm.domain cm.toplevel cm.host
  let id ← toplevelId env cm.domain cm.toplevel
  let c := cmdbAddStringToList cm.host (cmdbAddStringToList "CNAME".toList [.number id])
  let domain := snprintf domainLen (cm.host ++ ".".toList ++ cm.domain ++ ".".toList)
  let c := cmdbPopulateCuserMuser dc.uid (cmdbAddStringToList domain c)
  statement env .insertRecordBase [] 0 fun db => db.insertRecord c
  setDbRowUpdated env id

/-! ## Glue zones -/

/-- `dnsa_split_glue_ns` : two name servers, the second `none` if there is one. -/
def dnsaSplitGlueNs (ns : Option CStr) (l : List AilsaData) : Except AilsaError (List AilsaData) :=
  match ns with
  | none => .error .noData
  | some ns =>
    let tmp := ns.take fileLen
    match strchr tmp ',' with
    | none => .ok (cmdbAddStringToList "none".toList (cmdbAddStringToList tmp l))
    | some p =>
      let rest := tmp.drop (p + 1)
      let second := match strchr rest ',' with
        | some q => cut rest q
        | none => rest
      .ok (cmdbAddStringToList second (cmdbAddStringToList (cut tmp p) l))

/-- `dnsa_split_glue_ip` : a third address is not cut off. -/
def dnsaSplitGlueIp (ip : CStr) (list : List AilsaData) : List AilsaData :=
  let tmp := ip.take domainLen
  match strchr tmp ',' with
  | none => cmdbAddStringToList "none".toList (cmdbAddStringToList tmp list)
  | some p => cmdbAddStringToList (tmp.drop (p + 1)) (cmdbAddStringToList (cut tmp p) list)

/-- `cmdb_getaddrinfo`, at the `k`-th place. -/
def cmdbGetaddrinfo (env : ZoneEnv) (k : ℕ) (name : CStr) : Except AilsaError AddrInfo :=
  match env.getaddrinfo k name with
  | some a => .ok a
  | none => .error .resolveFailed

/-- `dnsa_get_ip_for_glue_ns` : the addresses given, or those of the name servers in the
list. -/
def dnsaGetIpForGlueNs (env : ZoneEnv) (ip : Option CStr) (list : List AilsaData) :
    Except AilsaError (List AilsaData) :=
  match ip with
  | some ip => .ok (dnsaSplitGlueIp ip list)
  | none =>
    match list with
    | _ :: _ :: .text ns :: .text ns' :: _ => do
      let a ← cmdbGetaddrinfo env 0 ns
      let list := cmdbAddStringToList a.ip list
      if StrncmpEq ns' "none".toList byteLen then return cmdbAddStringToList "none".toList list
      else do
        let a ← cmdbGetaddrinfo env 1 ns'
        return cmdbAddStringToList a.ip list
    | _ => .error .nullDeref

/-- The row `add_glue_zone` inserts, below the id of the parent. -/
def glueList (dc : Dc) (env : ZoneEnv) (cm : DnsaCommLine) (id : ℕ) :
    Except AilsaError (List AilsaData) := do
  let z ← dnsaSplitGlueNs cm.glueNs (cmdbAddStringToList cm.domain [.number id])
  let z ← dnsaGetIpForGlueNs env cm.glueIp z
  return cmdbPopulateCuserMuser dc.uid z

/-- `add_glue_zone`. -/
def addGlueZone (dc : Dc) (env : ZoneEnv) (cm : DnsaCommLine) : ZoneProg Unit :=
  match parentDomain cm.domain with
  | none => Prog.fail .cannotGetParent
  | some parent => do
    let id ← cmdbCheckAddZoneId env parent "master".toList
    let z ← ret (glueList dc env cm id)
    statement env .insertGlueZone cm.domain 0 fun db => db.insertGlue z
    setDbRowUpdatedOnName env parent

/-- `delete_glue_zone` : the zone to mark is read before the delete. -/
def deleteGlueZone (env : ZoneEnv) (cm : DnsaCommLine) : ZoneProg Unit := do
  let i ← query env .parentZoneIdOnGlueZone cm.domain 0 fun db =>
    (db.glueZones.filter (·.name = arg cm.domain)).map GlueZone.zoneId
  statement env .deleteGlueZone cm.domain 0 fun db => db.deleteGlue (arg cm.domain)
  match i with
  | [] => return ()
  | id :: _ => setDbRowUpdated env id

/-! ## The `A` record of a build -/

/-- `cbc_add_host_to_dns`. -/
def cbcAddHostToDns (dc : Dc) (env : ZoneEnv) (domain host : CStr) (ip : ℕ) : ZoneProg Unit := do
  Prog.require (ip ≠ 0) .noData
  let id ← cmdbCheckAddZoneId env domain "master".toList
  let record := cmdbAddStringToList (inetNtop ip)
    (cmdbAddStringToList host (cmdbAddStringToList "A".toList [.number id]))
  let n ← cmdbCheckForFwdRecord env record
  if 0 < n then return ()
  else
    let record := cmdbPopulateCuserMuser dc.uid record
    statement env .insertRecordBase [] 0 fun db => db.insertRecord record
    let id ← cmdbCheckAddZoneId env domain "master".toList
    statement env .setFwdZoneUpdated [] id fun db => db.setFwdUpdated id

/-! ## The rebuild of a reverse zone -/

/-- `fill_rev_records`. -/
def fillRevRecords (list : List RevRecord) (index : ℕ) : List AilsaRecord :=
  list.map fun r =>
    { host := r.host.take hostLen, dest := r.destination.take domainLen, domain := []
      id := r.id, zone := r.revZone, index := index }

/-- `fill_fwd_records`, on records with the name of their zone. -/
def fillFwdRecords (list : List (DnsRecord × CStr)) (index : ℕ) : List AilsaRecord :=
  list.map fun r =>
    { host := r.1.host.take domainLen, dest := r.1.destination.take domainLen
      domain := r.2.take domainLen, id := r.1.id, zone := 0, index := index }

/-- `RECORDS_ON_NET_RANGE` : the join with `zones` gives each record the name of its
zone. -/
def ZoneDb.recordsLike (db : ZoneDb) (pattern : CStr) : List (DnsRecord × CStr) :=
  (db.records.filter fun r => like pattern r.destination).map fun r =>
    (r, ((db.zones.find? (·.id = r.zone)).map Zone.name).getD [])

/-- A loop over the sub-zones that collects a list. -/
def collect {α : Type} (f : ℕ → ZoneProg (List α)) : List ℕ → ZoneProg (List α)
  | [] => return []
  | i :: is => do
    let a ← f i
    let rest ← collect f is
    return a ++ rest

/-- `get_rev_records`. -/
def getRevRecords (env : ZoneEnv) (range : CStr) (index : ℕ) : ZoneProg (List AilsaRecord) :=
  collect (fun i => do
    let l ← query env .fullRevRecords range i fun db => db.revRecordsOnRange (arg range) i
    return fillRevRecords l i) (List.range index)

/-- `get_fwd_records`. -/
def getFwdRecords (env : ZoneEnv) (range : CStr) (pfx : ℕ) : ZoneProg (List AilsaRecord) := do
  Prog.require (pfx ≠ 0) .noData
  let index ← ret (getZoneIndex pfx)
  collect (fun i => do
    let search ← ret (getRangeSearchString range pfx i)
    let l ← query env .recordsOnNetRange search i fun db => db.recordsLike (arg search)
    return fillFwdRecords l i) (List.range index)

/-- `get_pref_records`. -/
def getPrefRecords (env : ZoneEnv) (range : CStr) (pfx : ℕ) : ZoneProg (List PreferredA) := do
  let index ← ret (getZoneIndex pfx)
  collect (fun i => do
    let search ← ret (getRangeSearchString range pfx i)
    let l ← query env .preferAInfoOnRange search i fun db =>
      db.preferredA.filter fun p => like (arg search) p.ip
    return l.map fun p => { p with ip := p.ip.take hostLen, fqdn := p.fqdn.take domainLen })
    (List.range index)

/-- `cmdb_trim_record_list` : for each preferred address, drop its other records. -/
def cmdbTrimRecordList (r : List AilsaRecord) (p : List PreferredA) : List AilsaRecord :=
  p.foldl (fun r pref =>
    r.filter fun record => ¬(StrncmpEq pref.ip record.dest domainLen ∧ record.id ≠ pref.recordId)) r

/-- What `build_reverse_zone` reads : the prefix of the zone and the two lists, or
nothing when the zone is not there. -/
def rebuildLists (dc : Dc) (env : ZoneEnv) (range : CStr) :
    ZoneProg (Option (ℕ × RebuildLists)) := do
  let fix ← query env .prefixOnNetRange range 0 fun db => db.revZonesOnRange (arg range)
  match fix with
  | [] => return none
  | row :: _ =>
    let pfx := strtoul row.pfx
    let ids ← query env .revZoneIdOnRange range 0 fun db =>
      (db.revZones.filter fun z => z.netRange = arg range ∧ z.type = "master".toList).map
        RevZoneRow.id
    match ids with
    | [] => return none
    | zoneId :: _ =>
      let index ← ret (getZoneIndex pfx)
      let rev ← getRevRecords env range index
      let fwd ← getFwdRecords env range pfx
      let pref ← getPrefRecords env range pfx
      let l : RebuildLists :=
        { forward := cmdbTrimRecordList fwd pref, reverse := rev, remove := [], add := [] }
      let l ← ret (cmdbRecordsToRemove range pfx l)
      let l ← ret (cmdbRecordsToAdd dc.uid range zoneId pfx l)
      return some (pfx, l)

/-- `build_reverse_zone`. -/
def buildReverseZone (dc : Dc) (env : ZoneEnv) (cm : DnsaCommLine) : ZoneProg Unit := do
  let found ← rebuildLists dc env cm.domain
  match found with
  | none => return ()
  | some (pfx, l) =>
    if 0 < l.remove.length ∨ 0 < l.add.length then
      Prog.runIf (0 < l.remove.length)
        (statement env .deleteReverseRecord cm.domain 0 fun db => db.deleteRevRecords l.remove)
      Prog.runIf (0 < l.add.length)
        (statement env .insertReverseRecord cm.domain 0 fun db =>
          db.insertRevRecords (revRows l.add))
      statement env .setRevZoneUpdated cm.domain 0 fun db => db.setRevUpdated (arg cm.domain)
      cmdbValidateRevZone dc env cm.domain "master".toList pfx
    else return ()

end Cmdb
