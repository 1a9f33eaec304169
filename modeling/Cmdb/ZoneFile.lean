import Cmdb.NetRange
import Cmdb.ZoneDb

/-!
# Writing and committing zone files

The lines of a zone file, the functions that bump a serial and write a file, and the
commits. The body of a file (`fwdBody`, `revBody`) is what stands below the header : the
records and the glue entries, read off the tables. The configuration file and the reload
that end a commit touch neither the tables nor the zone files, and are not part of the
commits here.
-/

namespace Cmdb

open CString

/-! ## Lines -/

/-- A name with a closing dot, unless it has one. -/
def dotEnd (name : CStr) (lastChar : Option Char) : CStr :=
  if lastChar ≠ some '.' then name ++ ['.'] else name

/-- `write_zone_file_header` on the rows of `NAME_SERVERS_ON_NAME` and
`ZONE_SOA_ON_NAME` : nothing unless there is one. The last character of the secondary
is looked for at the length of the primary. -/
def writeZoneFileHeader (n s : List Zone) (master : CStr) : List CStr :=
  match n, s with
  | ns :: _, [soa] =>
    let pri := ns.priDns
    let sec := ns.secDns
    ["$TTL ".toList ++ numText soa.ttl ++ "\n@\tIN\tSOA\t".toList ++ dotEnd pri pri.getLast? ++
        "\t".toList ++ master ++ "\t(\n".toList,
      "\t\t\t\t".toList ++ numText soa.serial ++ "\t; Serial\n".toList,
      "\t\t\t\t".toList ++ numText soa.refresh ++ "\t\t; Refresh\n".toList,
      "\t\t\t\t".toList ++ numText soa.retry ++ "\t\t; Retry\n".toList,
      "\t\t\t\t".toList ++ numText soa.expire ++ "\t\t; Expire\n".toList,
      "\t\t\t\t".toList ++ numText soa.ttl ++ "\t\t); TTL\n;\n".toList,
      "\tIN\tNS\t".toList ++ dotEnd pri pri.getLast? ++ "\n".toList] ++
    if StrncmpEq sec "none".toList 4 then []
    else ["\tIN\tNS\t".toList ++ dotEnd sec sec[pri.length - 1]? ++ "\n".toList]
  | _, _ => []

/-- The `SRV` lines : they stop at the first service without a port. -/
def srvLines (dc : Dc) (zone : CStr) : List DnsRecord → List CStr
  | [] => []
  | r :: rest =>
    match r.protocol, r.service with
    | some proto, some service =>
      match dc.port service proto with
      | none => []
      | some port =>
        let dest := if r.destination.getLast? ≠ some '.' then
            r.destination ++ ".".toList ++ zone ++ ".".toList
          else r.destination
        ("_".toList ++ r.host ++ "._".toList ++ proto ++ ".".toList ++ zone ++
          ".\tIN SRV ".toList ++ numText r.pri ++ " 0 ".toList ++ numText port ++ "\t".toList ++
          dest ++ "\n".toList) :: srvLines dc zone rest
    | _, _ => []

/-- `write_fwd_header_records` : the `NS`, then the `MX`, then the `SRV` records. -/
def writeFwdHeaderRecords (dc : Dc) (zone : CStr) (r : List DnsRecord) : List CStr :=
  ((r.filter (·.type = "NS".toList)).map fun x =>
      "\tIN\tNS\t".toList ++ x.destination ++ "\n".toList) ++
    ((r.filter (·.type = "MX".toList)).map fun x =>
      "\tIN\tMX\t".toList ++ numText x.pri ++ "\t".toList ++ x.destination ++ "\n".toList) ++
    srvLines dc zone (r.filter (·.type = "SRV".toList))

/-- `write_fwd_records`. -/
def writeFwdRecords (r : List DnsRecord) : List CStr :=
  r.map fun x =>
    x.host ++ (if x.host.length < 8 then "\t\tIN\t".toList else "\tIN\t".toList) ++ x.type ++
      "\t".toList ++ x.destination ++ "\n".toList

/-- `write_glue_records` : the primary and, unless it is empty or `none`, the secondary
name server. -/
def writeGlueRecords (g : List GlueZone) : List CStr :=
  g.flatMap fun x =>
    (x.name ++ ".\tIN\tNS\t".toList ++ x.priNs ++ "\n".toList) ::
      if 0 < x.secNs.length ∧ x.secNs ≠ "none".toList then
        [x.name ++ ".\tIN\tNS\t".toList ++ x.secNs ++ "\n".toList]
      else []

/-- What stands below the header of the file of a forward zone. -/
def fwdBody (dc : Dc) (db : ZoneDb) (zone : CStr) : List CStr :=
  writeFwdHeaderRecords dc zone (db.nsMxSrv (arg zone)) ++
    writeFwdRecords (db.zoneRecords (arg zone)) ++
    writeGlueRecords (db.glueOnZoneName (arg zone))

/-- `write_rev_zone_header` : nothing unless there is one row. -/
def writeRevZoneHeader (s : List RevZoneRow) (hostmaster : CStr) : List CStr :=
  match s with
  | [soa] =>
    let pri := soa.priDns
    let sec := soa.secDns
    ["$TTL ".toList ++ numText soa.ttl ++ "\n".toList,
      "@\tIN\tSOA\t".toList ++ dotEnd pri pri.getLast? ++ "\t".toList ++ hostmaster ++
        " (\n".toList,
      "\t\t\t\t".toList ++ numText soa.serial ++ "\t; Serial\n".toList,
      "\t\t\t\t".toList ++ numText soa.refresh ++ "\t; Refresh\n".toList,
      "\t\t\t\t".toList ++ numText soa.retry ++ "\t; Retry\n".toList,
      "\t\t\t\t".toList ++ numText soa.expire ++ "\t; Expire\n".toList,
      "\t\t\t\t".toList ++ numText soa.ttl ++ "\t); Cache TTL\n".toList,
      ";\n".toList,
      "\t\tIN\tNS\t".toList ++ dotEnd pri pri.getLast? ++ "\n".toList,
      "\t\tIN\tNS\t".toList ++ dotEnd sec sec.getLast? ++ "\n".toList]
  | _ => []

/-- `write_rev_zone_records`. -/
def writeRevZoneRecords (r : List RevRecord) : List CStr :=
  r.map fun x => x.host ++ "\tPTR\t".toList ++ x.destination ++ "\n".toList

/-- What stands below the header of the file of a sub-zone. -/
def revBody (db : ZoneDb) (range : CStr) (index : ℕ) : List CStr :=
  writeRevZoneRecords (db.revRecordsOnRange (arg range) index)

/-! ## Serials and files -/

/-- The serial after a bump : the date, if that is larger, or the next one. -/
def bumpSerial (clock : Option Tm) (serial : ℕ) : ℕ :=
  if generateZoneSerial clock ≤ serial then serial + 1 else generateZoneSerial clock

/-- `ailsa_check_for_zone_update` : bump the serial of a zone marked as updated, in its
row and in the list. -/
def ailsaCheckForZoneUpdate (env : ZoneEnv) (l : List Zone) (zone : CStr) :
    ZoneProg (List Zone) :=
  match l with
  | [] => Prog.fail .nullDeref
  | e :: rest =>
    if e.updated = "yes".toList then do
      let serial := bumpSerial (env.clock (.fwd zone)) e.serial
      statement env .fwdZoneSerialUpdate zone 0 fun db => db.setFwdSerial (arg zone) serial
      return { e with serial := serial } :: rest
    else return l

/-- `ailsa_check_for_rev_zone_update`. -/
def ailsaCheckForRevZoneUpdate (env : ZoneEnv) (l : List RevZoneRow) (zone : CStr) (index : ℕ) :
    ZoneProg (List RevZoneRow) :=
  match l with
  | [] => Prog.fail .nullDeref
  | e :: rest =>
    if e.updated = "yes".toList then do
      let serial := bumpSerial (env.clock (.rev zone index)) e.serial
      statement env .revZoneSerialUpdate zone index fun db => db.setRevSerial (arg zone) serial
      return { e with serial := serial } :: rest
    else return l

/-- The serial stored in the row of a forward zone. -/
def fwdSerial (db : ZoneDb) (name : CStr) : ℕ :=
  ((db.zones.find? (·.name = name)).map Zone.serial).getD 0

/-- The serial stored in the row of a reverse zone. -/
def revSerial (db : ZoneDb) (range : CStr) : ℕ :=
  ((db.revZones.find? (·.netRange = range)).map RevZoneRow.serial).getD 0

/-- Put a version of a file on record. -/
def writeFile (v : ZoneDb → Written) : ZoneProg Unit :=
  Prog.modify fun w => { w with files := v w.db :: w.files }

/-- `write_fwd_zone_file`. -/
def writeFwdZoneFile (dc : Dc) (env : ZoneEnv) (zone : CStr) : ZoneProg Unit := do
  let n ← query env .nameServersOnName zone 0 fun db => db.zonesOnName (arg zone)
  let s ← query env .zoneSoaOnName zone 0 fun db => db.zonesOnName (arg zone)
  let s ← ailsaCheckForZoneUpdate env s zone
  let hr ← query env .nsMxSrvRecords zone 0 fun db => db.nsMxSrv (arg zone)
  let r ← query env .zoneRecordsOnName zone 0 fun db => db.zoneRecords (arg zone)
  let g ← query env .glueZoneOnZoneName zone 0 fun db => db.glueOnZoneName (arg zone)
  Prog.require (env.openOk (.fwd zone)) .fileError
  writeFile fun db =>
    { file := .fwd zone
      serial := (s.head?.map Zone.serial).getD 0
      stored := fwdSerial db (arg zone)
      header := writeZoneFileHeader n s dc.hostmaster
      body := writeFwdHeaderRecords dc zone hr ++ writeFwdRecords r ++ writeGlueRecords g }

/-- `write_rev_zone_file`. -/
def writeRevZoneFile (dc : Dc) (env : ZoneEnv) (zone : CStr) (pfx index : ℕ) : ZoneProg Unit := do
  let s ← query env .revSoaOnNetRange zone index fun db => db.revZonesOnRange (arg zone)
  let s ← ailsaCheckForRevZoneUpdate env s zone index
  let r ← query env .revRecordsOnNetRange zone index fun db =>
    db.revRecordsOnRange (arg zone) index
  let _ ← ret (getOffsetIp zone pfx index)
  Prog.require (env.openOk (.rev zone index)) .fileError
  writeFile fun db =>
    { file := .rev zone index
      serial := (s.head?.map RevZoneRow.serial).getD 0
      stored := revSerial db (arg zone)
      header := writeRevZoneHeader s dc.hostmaster
      body := writeRevZoneRecords r }

/-! ## Validation -/

/-- `strncmp(ztype, "slave", BYTE_LEN) == 0`. -/
def isSlave (ztype : CStr) : Bool := decide (StrncmpEq ztype "slave".toList byteLen)

/-- `cmdb_validate_fwd_zone` : write and check the file of a master zone. -/
def cmdbValidateFwdZone (dc : Dc) (env : ZoneEnv) (zone ztype : CStr) : ZoneProg Unit := do
  if isSlave ztype then
    statement env .fwdZoneValidate zone 0 fun db => db.setFwdValid (arg zone) "yes".toList
  else
    writeFwdZoneFile dc env zone
    let valid := if env.chkz (.fwd zone) then "yes".toList else "no".toList
    statement env .fwdZoneValidate zone 0 fun db => db.setFwdValid (arg zone) valid

/-- The loop of `cmdb_validate_rev_zone` : write and check the files of the sub-zones, up
to the first that is found invalid. -/
def checkRevFiles (dc : Dc) (env : ZoneEnv) (zone : CStr) (pfx : ℕ) : List ℕ → ZoneProg Bool
  | [] => return true
  | i :: is => do
    let _ ← ret (getOffsetIp zone pfx i)
    writeRevZoneFile dc env zone pfx i
    if env.chkz (.rev zone i) then checkRevFiles dc env zone pfx is
    else return false

/-- `cmdb_validate_rev_zone`. -/
def cmdbValidateRevZone (dc : Dc) (env : ZoneEnv) (zone ztype : CStr) (pfx : ℕ) :
    ZoneProg Unit := do
  if isSlave ztype then
    statement env .revZoneValidate zone 0 fun db => db.setRevValid (arg zone) "yes".toList
  else
    let index ← ret (getZoneIndex pfx)
    let ok ← checkRevFiles dc env zone pfx (List.range index)
    let valid := if ok then "yes".toList else "no".toList
    statement env .revZoneValidate zone 0 fun db => db.setRevValid (arg zone) valid

/-! ## Commits -/

/-- `commit_fwd_zones` : of one zone, or of all, where a zone that cannot be validated
does not stop the others. -/
def commitFwdZones (dc : Dc) (env : ZoneEnv) (name : Option CStr) : ZoneProg Unit := do
  match name with
  | some zone =>
    let r ← query env .zoneTypeOnName zone 0 fun db => db.zonesOnName (arg zone)
    match r with
    | [] => return ()
    | z :: _ => cmdbValidateFwdZone dc env zone z.type
  | none =>
    let r ← query env .zoneNameTypes [] 0 ZoneDb.zones
    forM r fun z => do
      let _ ← Prog.attempt (cmdbValidateFwdZone dc env z.name z.type)
      return ()

/-- `commit_rev_zones`. -/
def commitRevZones (dc : Dc) (env : ZoneEnv) (name : Option CStr) : ZoneProg Unit := do
  let l ← query env .revZonesNetRange [] 0 ZoneDb.revZones
  forM l fun z => do
    match name with
    | some name =>
      if StrncmpEq name z.netRange domainLen then
        let _ ← Prog.attempt (cmdbValidateRevZone dc env z.netRange z.type (strtoul z.pfx))
        return ()
      else return ()
    | none =>
      let _ ← Prog.attempt (cmdbValidateRevZone dc env z.netRange z.type (strtoul z.pfx))
      return ()

end Cmdb
