import Cmdb.InAddr
import Cmdb.RevZones
import Cmdb.StanzaFile

/-!
# The configuration of the name server

The two files with the stanzas of the forward and of the reverse zones, the functions
that write them, and the commands that add, delete and commit zones up to the reload of
the name server. A configuration file is kept line by line; that it was written to the
end is counted. The forward file is emptied before anything else is known, and its
stanzas are written as the zones are read; the reverse file is opened when its list of
zones is complete.
-/

namespace Cmdb

open CString

/-! ## World and outcomes -/

/-- A configuration file : its lines, and how often it was written to the end. -/
structure Conf where
  lines : List CStr
  writes : ℕ
deriving DecidableEq, Repr

/-- The tables and the zone files, with the two configuration files. -/
structure DnsWorld where
  zone : ZoneWorld
  fwd : Conf
  rev : Conf
deriving DecidableEq, Repr

/-- The two configuration files. -/
inductive ConfFile
  | fwd | rev
deriving DecidableEq, Repr

/-- The outcomes a command meets, with those of opening a configuration file and of the
reload. -/
structure DnsEnv extends ZoneEnv where
  confOpen : ConfFile → Bool
  reload : Bool

/-- What a zone is entered with, and the directory of the zone files. -/
structure DnsaCmdb extends AilsaCmdb where
  dir : CStr

/-- A configuration with the directory of the zone files. -/
def testCmdb : DnsaCmdb where
  hostmaster := "root.a.com".toList
  uid := 0
  port := fun _ _ => none
  prins := some "ns.a.com".toList
  secns := none
  refresh := 1
  retry := 1
  expire := 1
  ttl := 1
  dir := "/var/bind/".toList

/-- A command on tables, zone files and configuration. -/
abbrev DnsProg (α : Type) := Prog DnsWorld AilsaError α

/-- A program on tables and zone files. -/
def onZones {α : Type} (p : ZoneProg α) : DnsProg α :=
  Prog.zoom DnsWorld.zone (fun w z => { w with zone := z }) p

/-- The forward configuration with other lines. -/
def DnsWorld.setFwdLines (w : DnsWorld) (ls : List CStr) : DnsWorld :=
  { w with fwd := { w.fwd with lines := ls } }

/-- A program on the lines of the forward configuration. -/
def onFwdLines {α : Type} (p : Prog (List CStr) AilsaError α) : DnsProg α :=
  Prog.zoom (fun w => w.fwd.lines) DnsWorld.setFwdLines p

/-! ## Lines -/

/-- The line that opens a stanza. -/
def zoneLine (name : CStr) : CStr := "zone \"".toList ++ name ++ "\" \x7b\n".toList

/-- A line within a stanza, up to its end. -/
def statementLine (text : CStr) : CStr := "\t\t\t".toList ++ text ++ ";\n".toList

/-- The line that closes a stanza. -/
def closeLine : CStr := "\t\t\x7d;\n".toList

def typeLine (type : CStr) : CStr := statementLine ("type ".toList ++ type)

def fileLine (dir name : CStr) : CStr :=
  statementLine ("file \"".toList ++ dir ++ name ++ "\"".toList)

/-- The masters of a slave zone; a missing text is printed as `(null)`. -/
def mastersLine (master : Option CStr) : CStr :=
  statementLine ("masters \x7b ".toList ++ master.getD "(null)".toList ++ "; \x7d".toList)

/-- The address of the secondary. Behind an IPv6 address there is no semicolon. -/
def notifyLine : AddrInfo → CStr
  | .v4 ip => statementLine ("notify-source ".toList ++ ip)
  | .v6 ip => "\t\t\t".toList ++ ("notify-source-v6 ".toList ++ ip ++ "\n".toList)

/-- `dprintf` on an open file. -/
def dprintf (lines : List CStr) : Prog (List CStr) AilsaError Unit := Prog.modify (· ++ lines)

/-! ## The forward configuration -/

/-- `FWD_ZONE_CONFIG`. -/
def ZoneDb.fwdZoneConfig (db : ZoneDb) : List Zone := db.zones.filter (·.valid = "yes".toList)

/-- The secondary of the zone is looked up. -/
def Zone.NeedsLookup (z : Zone) : Prop := z.type = "master".toList ∧ z.secDns ≠ "none".toList

instance (z : Zone) : Decidable z.NeedsLookup := inferInstanceAs (Decidable (_ ∧ _))

/-- The stanza of the zone at place `k`. -/
def writeFwdStanza (dir : CStr) (env : ZoneEnv) (z : Zone) (k : ℕ) :
    Prog (List CStr) AilsaError Unit := do
  dprintf [zoneLine z.name, typeLine z.type, fileLine dir z.name]
  if z.NeedsLookup then
    let a ← Prog.reads fun _ => cmdbGetaddrinfo env k z.secDns
    dprintf [notifyLine a, closeLine]
  else if z.type = "slave".toList then dprintf [mastersLine z.master, closeLine]
  else dprintf [closeLine]

/-- `cmdb_write_fwd_zone_config`. -/
def cmdbWriteFwdZoneConfig (dc : DnsaCmdb) (env : DnsEnv) : DnsProg Unit := do
  Prog.require (env.confOpen .fwd) .fileError
  Prog.modify fun w => w.setFwdLines []
  let l ← onZones (query env.toZoneEnv .fwdZoneConfig [] 0 ZoneDb.fwdZoneConfig)
  onFwdLines (forM l.zipIdx fun p => writeFwdStanza dc.dir env.toZoneEnv p.1 p.2)
  Prog.modify fun w => { w with fwd := { w.fwd with writes := w.fwd.writes + 1 } }

/-! ## The reverse configuration -/

/-- A zone of the reverse configuration (`ailsa_rev_zone_s`). -/
structure AilsaRevZone where
  type : CStr
  master : Option CStr
  netRange : CStr
  inAddr : CStr
deriving DecidableEq, Repr

/-- `strndup(master, DOMAIN_LEN)`. -/
def dupMaster (master : Option CStr) : Except AilsaError CStr :=
  match master with
  | some master => .ok (master.take domainLen)
  | none => .error .nullDeref

/-- The entry of sub-zone `i`. -/
def fillSubZone (z : RevZoneRow) (pfx i : ℕ) : Except AilsaError AilsaRevZone := do
  let master ← dupMaster z.master
  let netRange ← getOffsetIp z.netRange pfx i
  let inAddr ← getInAddrString netRange pfx
  return ⟨z.type.take serviceLen, some master, netRange, inAddr⟩

/-- The entry of a zone that is one sub-zone. -/
def fillWholeZone (z : RevZoneRow) (pfx : ℕ) : Except AilsaError AilsaRevZone := do
  let type := z.type.take serviceLen
  let master ← if isSlave type then Option.some <$> dupMaster z.master else pure none
  let netRange := z.netRange.take domainLen
  let inAddr ← getInAddrString netRange pfx
  return ⟨type, master, netRange, inAddr⟩

/-- The entries of a row. -/
def fillRevZone (z : RevZoneRow) : Except AilsaError (List AilsaRevZone) := do
  let pfx := strtoul z.pfx
  if pfx ≠ 8 ∧ pfx ≠ 16 ∧ pfx ≠ 24 then do
    let index ← getZoneIndex pfx
    (List.range index).mapM (fillSubZone z pfx)
  else do
    let rev ← fillWholeZone z pfx
    return [rev]

/-- `ailsa_fill_rev_zone_list`. -/
def ailsaFillRevZoneList (l : List RevZoneRow) : Except AilsaError (List AilsaRevZone) := do
  let z ← l.mapM fillRevZone
  return z.flatten

/-- The stanza of an entry. -/
def revStanza (dir : CStr) (r : AilsaRevZone) : List CStr :=
  zoneLine r.inAddr ::
    (if r.type = "master".toList then [typeLine "master".toList]
      else if r.type = "slave".toList then [typeLine "slave".toList, mastersLine r.master]
      else []) ++
    [fileLine dir r.netRange, closeLine]

/-- `cmdb_write_rev_zone_config`. Without a zone the file is left as it is. -/
def cmdbWriteRevZoneConfig (dc : DnsaCmdb) (env : DnsEnv) : DnsProg Unit := do
  let l ← onZones (query env.toZoneEnv .revZoneConfig [] 0 ZoneDb.revZones)
  if l.length = 0 then return ()
  else
    let z ← Prog.reads fun _ => ailsaFillRevZoneList l
    Prog.require (env.confOpen .rev) .fileError
    Prog.modify fun w =>
      { w with rev := ⟨z.flatMap (revStanza dc.dir), w.rev.writes + 1⟩ }

/-- The reload of the name server. -/
def reloadNameServer (env : DnsEnv) : DnsProg Unit := Prog.require env.reload .reloadFailed

/-! ## Forward zones -/

/-- `cmdb_check_for_fwd_zone` : how many zones have the name and the type. -/
def cmdbCheckForFwdZone (env : ZoneEnv) (zone : CStr) (type : Option CStr) : ZoneProg ℕ := do
  let ids ← Prog.attempt (query env .fwdZoneIdOnZoneName zone 0 fun db =>
    db.fwdZoneIds (arg zone) (arg (type.getD "master".toList)))
  match ids with
  | .error _ => Prog.fail .minusOne
  | .ok ids => return ids.length

/-- `dnsa_populate_zone`, with the clock reading of `generate_zone_serial`. -/
def dnsaPopulateZone (cbs : AilsaCmdb) (clock : Option Tm) (domain : CStr)
    (type master : Option CStr) : Except AilsaError (List AilsaData) := do
  let zone := cmdbAddStringToList domain []
  let zone ← addStringToList cbs.prins zone
  let zone := cmdbAddStringToList (cbs.secns.getD "none".toList) zone
  let zone := cmdbAddNumberToList cbs.ttl (cmdbAddNumberToList cbs.expire
    (cmdbAddNumberToList cbs.retry (cmdbAddNumberToList cbs.refresh zone)))
  let zone := cmdbAddNumberToList (generateZoneSerial clock) zone
  let zone ←
    match master with
    | some master => do
      let zone ← addStringToList type zone
      pure (cmdbAddStringToList master zone)
    | none => pure (cmdbAddStringToList "master".toList zone)
  return cmdbPopulateCuserMuser cbs.uid zone

namespace ZoneDb

variable (db : ZoneDb)

/-- `INSERT_FORWARD_ZONE`, with the defaults of `valid` and `updated`. A master behind the
type is bound to the column of the user. -/
def insertForwardZone (zone : List AilsaData) : ZoneDb :=
  match zone with
  | .text name :: .text pri :: .text sec :: .number refresh :: .number retry :: .number expire ::
      .number ttl :: .number serial :: .text type :: _ =>
    { db with zones := db.zones ++
        [⟨nextId (db.zones.map Zone.id), name, pri, sec, serial, refresh, retry, expire, ttl,
          "unknown".toList, "yes".toList, type, none⟩] }
  | _ => db

/-- `INSERT_FORWARD_SLAVE_ZONE`. -/
def insertForwardSlaveZone (zone : List AilsaData) : ZoneDb :=
  match zone with
  | .text name :: .text pri :: .text sec :: .number refresh :: .number retry :: .number expire ::
      .number ttl :: .number serial :: .text type :: .text master :: _ =>
    { db with zones := db.zones ++
        [⟨nextId (db.zones.map Zone.id), name, pri, sec, serial, refresh, retry, expire, ttl,
          "unknown".toList, "yes".toList, type, some master⟩] }
  | _ => db

/-- `DELETE_FWD_ZONE`. -/
def deleteFwdZone (id : ℕ) : ZoneDb := { db with zones := db.zones.filter (·.id ≠ id) }

end ZoneDb

/-- The insert of `add_forward_zone`. -/
def insertFwdZone (env : ZoneEnv) (domain : CStr) (slave : Bool) (zone : List AilsaData) :
    ZoneProg Unit :=
  if slave then
    statement env .insertForwardSlaveZone domain 0 fun db => db.insertForwardSlaveZone zone
  else statement env .insertForwardZone domain 0 fun db => db.insertForwardZone zone

/-- `add_forward_zone`. A zone without a type is validated as a master. -/
def addForwardZone (dc : DnsaCmdb) (env : DnsEnv) (domain : CStr) (type master : Option CStr) :
    DnsProg Unit := do
  let slave := type.any isSlave
  Prog.require (¬(slave = true ∧ master = none)) .noMaster
  let n ← onZones (cmdbCheckForFwdZone env.toZoneEnv domain type)
  if 0 < n then return ()
  else
    let zone ← Prog.reads fun _ =>
      dnsaPopulateZone dc.toAilsaCmdb (env.clock (.fwd domain)) domain type master
    onZones (insertFwdZone env.toZoneEnv domain slave zone)
    onZones (cmdbValidateFwdZone dc.toDc env.toZoneEnv domain (type.getD "master".toList))
    cmdbWriteFwdZoneConfig dc env
    reloadNameServer env

/-- `delete_fwd_zone`. -/
def deleteFwdZone (dc : DnsaCmdb) (env : DnsEnv) (domain : CStr) (ztype : Option CStr) :
    DnsProg Unit := do
  let id ← onZones (cmdbCheckAddZoneId env.toZoneEnv domain (ztype.getD "master".toList))
  onZones (statement env.toZoneEnv .deleteFwdZone [] id fun db => db.deleteFwdZone id)
  cmdbWriteFwdZoneConfig dc env
  reloadNameServer env

/-! ## Commands to their end -/

namespace Dns

/-- `add_reverse_zone`. -/
def addReverseZone (dc : DnsaCmdb) (env : DnsEnv) (range : CStr) (type master : Option CStr)
    (pfx : ℕ) : DnsProg Unit := do
  onZones (Cmdb.addReverseZone dc.toAilsaCmdb env.toZoneEnv range type master pfx)
  cmdbWriteRevZoneConfig dc env
  reloadNameServer env

/-- `delete_reverse_zone`. A zone that is not found is no error, and nothing is written. -/
def deleteReverseZone (dc : DnsaCmdb) (env : DnsEnv) (domain : CStr) (ztype : Option CStr) :
    DnsProg Unit := do
  let found ← Prog.attempt
    (onZones (cmdbCheckAddRevZoneId env.toZoneEnv domain (ztype.getD "master".toList)))
  match found with
  | .error _ => return ()
  | .ok id =>
    onZones (statement env.toZoneEnv .deleteRevZone [] id fun db => db.deleteRevZone id)
    cmdbWriteRevZoneConfig dc env
    reloadNameServer env

/-- What is left of a result whose error is only logged : a `NULL` pointer ends the
program. -/
def dropError : Except AilsaError Unit → Except AilsaError Unit
  | .error .nullDeref => .error .nullDeref
  | _ => .ok ()

/-- An error is logged and dropped. -/
def logged (p : DnsProg Unit) : DnsProg Unit := do
  let r ← Prog.attempt p
  Prog.reads fun _ => dropError r

/-- `commit_fwd_zones`. A zone that is not found is no error, and the configuration is
left as it is. -/
def commitFwdZones (dc : DnsaCmdb) (env : DnsEnv) (name : Option CStr) : DnsProg Unit := do
  match name with
  | some zone =>
    let r ← onZones (query env.toZoneEnv .zoneTypeOnName zone 0 fun db =>
      db.zonesOnName (arg zone))
    match r with
    | [] => return ()
    | z :: _ =>
      onZones (cmdbValidateFwdZone dc.toDc env.toZoneEnv zone z.type)
      cmdbWriteFwdZoneConfig dc env
      reloadNameServer env
  | none =>
    let r ← onZones (query env.toZoneEnv .zoneNameTypes [] 0 ZoneDb.zones)
    if r.length = 0 then return ()
    else
      forM r fun z => logged (onZones (cmdbValidateFwdZone dc.toDc env.toZoneEnv z.name z.type))
      cmdbWriteFwdZoneConfig dc env
      reloadNameServer env

/-- `commit_rev_zones`. -/
def commitRevZones (dc : DnsaCmdb) (env : DnsEnv) (name : Option CStr) : DnsProg Unit := do
  let l ← onZones (query env.toZoneEnv .revZonesNetRange [] 0 ZoneDb.revZones)
  if l.length = 0 then return ()
  else
    forM l fun z =>
      if name.all fun name => StrncmpEq name z.netRange domainLen then
        logged (onZones
          (cmdbValidateRevZone dc.toDc env.toZoneEnv z.netRange z.type (strtoul z.pfx)))
      else return ()
    cmdbWriteRevZoneConfig dc env
    reloadNameServer env

end Dns

end Cmdb
