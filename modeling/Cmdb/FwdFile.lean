import Cmdb.Classes
import Cmdb.ZoneCommits

/-!
# What a forward zone file holds

`write_fwd_zone_file` writes the records of a zone in four passes, by type, and then the
glue. `expectedLines` is what the file should hold, record by record : a line for every
record, but for an `SRV` record only if its service is known, and the name servers of the
glue zones. The four passes see every record once (`fwdPasses_perm`), but the one over the
`SRV` records stops at the first service that is not known (`srvLines_eq`), so the body
is what is expected iff the known services come first (`writeFwdZoneFile_complete_iff`).
-/

namespace Cmdb

open CString Classes

variable {dc : Dc} {env : ZoneEnv} {w : ZoneWorld} {db : ZoneDb}

/-! ## The lines that should be there -/

/-- The service of the record has a port. -/
def knownService (dc : Dc) (r : DnsRecord) : Bool :=
  match r.protocol, r.service with
  | some proto, some service => (dc.port service proto).isSome
  | _, _ => false

/-- The line of an `SRV` record, if its service is known. -/
def srvLine (dc : Dc) (zone : CStr) (r : DnsRecord) : Option CStr :=
  match r.protocol, r.service with
  | some proto, some service =>
    (dc.port service proto).map fun port =>
      let dest := if r.destination.getLast? ≠ some '.' then
          r.destination ++ ".".toList ++ zone ++ ".".toList
        else r.destination
      "_".toList ++ r.host ++ "._".toList ++ proto ++ ".".toList ++ zone ++
        ".\tIN SRV ".toList ++ numText r.pri ++ " 0 ".toList ++ numText port ++ "\t".toList ++
        dest ++ "\n".toList
  | _, _ => none

/-- The line of a record, with its type, priority and destination as they are stored. -/
def recordLine (dc : Dc) (zone : CStr) (r : DnsRecord) : Option CStr :=
  if r.type = "NS".toList then some ("\tIN\tNS\t".toList ++ r.destination ++ "\n".toList)
  else if r.type = "MX".toList then
    some ("\tIN\tMX\t".toList ++ numText r.pri ++ "\t".toList ++ r.destination ++ "\n".toList)
  else if r.type = "SRV".toList then srvLine dc zone r
  else some (r.host ++ (if r.host.length < 8 then "\t\tIN\t".toList else "\tIN\t".toList) ++
    r.type ++ "\t".toList ++ r.destination ++ "\n".toList)

/-- The lines of a glue zone : its primary name server, and its secondary if it has one. -/
def glueLines (g : GlueZone) : List CStr :=
  (g.priNs :: [g.secNs].filter fun ns => ns ≠ [] ∧ ns ≠ "none".toList).map fun ns =>
    g.name ++ ".\tIN\tNS\t".toList ++ ns ++ "\n".toList

/-- The records of the zone of that name. -/
def ZoneDb.recordsOfZone (db : ZoneDb) (name : CStr) : List DnsRecord :=
  db.records.filter fun r => some r.zone = db.zoneIdOnName name

/-- What should stand below the header. -/
def expectedLines (dc : Dc) (db : ZoneDb) (zone : CStr) : List CStr :=
  (db.recordsOfZone (arg zone)).filterMap (recordLine dc zone) ++
    (db.glueOnZoneName (arg zone)).flatMap glueLines

/-- The `SRV` records of the zone, in the order they are read. -/
def ZoneDb.srvRecords (db : ZoneDb) (name : CStr) : List DnsRecord :=
  (db.recordsOfZone name).filter (·.type = "SRV".toList)

/-! ## The passes -/

theorem isSome_srvLine (dc : Dc) (zone : CStr) (r : DnsRecord) :
    (srvLine dc zone r).isSome = knownService dc r := by
  unfold srvLine knownService
  split
  · exact Option.isSome_map
  · rfl

theorem srvLines_cons (dc : Dc) (zone : CStr) (r : DnsRecord) (rs : List DnsRecord) :
    srvLines dc zone (r :: rs) =
      (srvLine dc zone r).elim [] fun line => line :: srvLines dc zone rs := by
  obtain ⟨_, _, _, _, proto, service, _, _⟩ := r
  rw [srvLines, srvLine]
  rcases proto with _ | proto
  · rfl
  rcases service with _ | service
  · rfl
  dsimp only
  cases dc.port service proto <;> rfl

/-- The pass over the `SRV` records stops at the first unknown service. -/
theorem srvLines_eq (dc : Dc) (zone : CStr) : ∀ rs : List DnsRecord,
    srvLines dc zone rs = (rs.takeWhile (knownService dc)).filterMap (srvLine dc zone)
  | [] => rfl
  | r :: rs => by
    rw [srvLines_cons, List.takeWhile_cons, ← isSome_srvLine dc zone]
    rcases hline : srvLine dc zone r with _ | line
    · rfl
    · rw [Option.isSome_some, if_pos rfl, List.filterMap_cons_some hline, ← srvLines_eq dc zone rs]
      rfl

theorem length_filterMap_srvLine (dc : Dc) (zone : CStr) (rs : List DnsRecord) :
    (rs.filterMap (srvLine dc zone)).length = (rs.filter (knownService dc)).length := by
  rw [List.length_filterMap_eq_countP, List.countP_eq_length_filter]
  simp only [isSome_srvLine]

/-- The pass writes a line for each known service iff the known services come first. -/
theorem srvLines_perm_iff (dc : Dc) (zone : CStr) (rs : List DnsRecord) :
    (srvLines dc zone rs).Perm (rs.filterMap (srvLine dc zone)) ↔
      PassesFirst (knownService dc) rs := by
  have hall : (rs.takeWhile (knownService dc)).filter (knownService dc) =
      rs.takeWhile (knownService dc) :=
    List.filter_eq_self.mpr fun r hr => List.mem_takeWhile_imp hr
  rw [srvLines_eq]
  constructor
  · intro h
    have hlen := h.length_eq
    rwa [length_filterMap_srvLine, length_filterMap_srvLine, hall, length_takeWhile_eq_iff] at hlen
  · intro h
    rw [takeWhile_eq_filter_of_passesFirst h, List.filterMap_filter]
    refine .of_eq (List.filterMap_congr fun r _ => ?_)
    split_ifs with hr
    · rfl
    · rw [← isSome_srvLine dc zone, Option.not_isSome_iff_eq_none] at hr
      exact hr.symm

/-- The pass that writes a record. -/
inductive RecordKind
  | ns | mx | srv | other
deriving DecidableEq, Repr

/-- By the type of the record. -/
def kindOf (r : DnsRecord) : RecordKind :=
  if r.type = "NS".toList then .ns
  else if r.type = "MX".toList then .mx
  else if r.type = "SRV".toList then .srv
  else .other

theorem kindOf_eq_ns {r : DnsRecord} : kindOf r = .ns ↔ r.type = "NS".toList := by
  unfold kindOf
  split_ifs <;> simp_all

theorem kindOf_eq_mx {r : DnsRecord} : kindOf r = .mx ↔ r.type = "MX".toList := by
  unfold kindOf
  split_ifs <;> simp_all

theorem kindOf_eq_srv {r : DnsRecord} : kindOf r = .srv ↔ r.type = "SRV".toList := by
  unfold kindOf
  split_ifs <;> simp_all

theorem kindOf_eq_other {r : DnsRecord} : kindOf r = .other ↔
    r.type ≠ "NS".toList ∧ r.type ≠ "MX".toList ∧ r.type ≠ "SRV".toList := by
  unfold kindOf
  split_ifs <;> simp_all

/-- The records of a type that `NS_MX_SRV_RECORDS` reads. -/
theorem filter_nsMxSrv (db : ZoneDb) (name : CStr) {type : CStr}
    (h : type = "NS".toList ∨ type = "MX".toList ∨ type = "SRV".toList) :
    (db.nsMxSrv name).filter (·.type = type) = (db.recordsOfZone name).filter (·.type = type) := by
  rw [ZoneDb.nsMxSrv, ZoneDb.recordsOfZone, List.filter_filter, List.filter_filter]
  refine List.filter_congr fun r _ => ?_
  by_cases hr : r.type = type
  · simp only [hr, h, and_true]
  · simp only [hr, decide_false, Bool.false_and]

/-- The records of all other types, in some order. -/
theorem zoneRecords_perm (db : ZoneDb) (name : CStr) :
    (db.zoneRecords name).Perm ((db.recordsOfZone name).filter (kindOf · = .other)) := by
  refine (List.mergeSort_perm _ _).trans (.of_eq ?_)
  rw [ZoneDb.recordsOfZone, List.filter_filter]
  refine List.filter_congr fun r _ => ?_
  rw [← Bool.decide_and, decide_eq_decide, kindOf_eq_other]
  tauto

/-- The lines of the records a pass selects. -/
theorem filterMap_recordLine {p : DnsRecord → Bool} {f : DnsRecord → CStr} (zone : CStr)
    (rs : List DnsRecord) (h : ∀ r, p r = true → recordLine dc zone r = some (f r)) :
    (rs.filter p).filterMap (recordLine dc zone) = (rs.filter p).map f := by
  rw [← List.filterMap_eq_map]
  exact List.filterMap_congr fun r hr => h r (List.mem_filter.mp hr).2

/-- The passes write the lines of every record, if the one over the `SRV` records writes
all it should. -/
theorem fwdPasses_perm (dc : Dc) (db : ZoneDb) (zone : CStr) :
    ((((db.nsMxSrv (arg zone)).filter (·.type = "NS".toList)).map fun x =>
        "\tIN\tNS\t".toList ++ x.destination ++ "\n".toList) ++
      (((db.nsMxSrv (arg zone)).filter (·.type = "MX".toList)).map fun x =>
        "\tIN\tMX\t".toList ++ numText x.pri ++ "\t".toList ++ x.destination ++ "\n".toList) ++
      (db.srvRecords (arg zone)).filterMap (srvLine dc zone) ++
      writeFwdRecords (db.zoneRecords (arg zone))).Perm
    ((db.recordsOfZone (arg zone)).filterMap (recordLine dc zone)) := by
  have hclasses := flatMap_filter_perm (l := db.recordsOfZone (arg zone))
    (fun k r => kindOf r = k) [.ns, .mx, .srv, .other] (by decide)
    fun _ _ _ _ r _ h h' => h.symm.trans h'
  have hall : ((db.recordsOfZone (arg zone)).filter fun r =>
      ∃ k ∈ [RecordKind.ns, .mx, .srv, .other], kindOf r = k) = db.recordsOfZone (arg zone) := by
    refine List.filter_eq_self.mpr fun r _ => decide_eq_true ⟨kindOf r, ?_, rfl⟩
    cases kindOf r <;> simp
  rw [hall] at hclasses
  refine List.Perm.trans ?_ (hclasses.filterMap (recordLine dc zone))
  simp only [List.flatMap_cons, List.flatMap_nil, List.append_nil, List.filterMap_append,
    ← List.append_assoc, kindOf_eq_ns, kindOf_eq_mx, kindOf_eq_srv]
  rw [filter_nsMxSrv db _ (.inl rfl), filter_nsMxSrv db _ (.inr (.inl rfl))]
  refine List.Perm.append (.append (.append (.of_eq ?_) (.of_eq ?_)) (.of_eq ?_)) ?_
  · exact (filterMap_recordLine zone _ fun r hr => if_pos (of_decide_eq_true hr)).symm
  · refine (filterMap_recordLine zone _ fun r hr => ?_).symm
    have hr := of_decide_eq_true hr
    rw [recordLine, hr, if_neg (by decide), if_pos rfl]
  · refine List.filterMap_congr fun r hr => ?_
    have hr := of_decide_eq_true (List.mem_filter.mp hr).2
    rw [recordLine, hr, if_neg (by decide), if_neg (by decide), if_pos rfl]
  · rw [filterMap_recordLine zone _ fun r hr => ?_]
    · exact (zoneRecords_perm db _).map _
    · obtain ⟨h1, h2, h3⟩ := kindOf_eq_other.mp (of_decide_eq_true hr)
      rw [recordLine, if_neg h1, if_neg h2, if_neg h3]

theorem writeGlueRecords_eq (g : List GlueZone) : writeGlueRecords g = g.flatMap glueLines := by
  refine List.flatMap_congr fun x _ => ?_
  by_cases h : x.secNs ≠ [] ∧ x.secNs ≠ "none".toList
  · simp only [glueLines, List.length_pos_iff_ne_nil, if_pos h, decide_eq_true h,
      List.filter_singleton, cond_true, List.map_cons, List.map_nil]
  · simp only [glueLines, List.length_pos_iff_ne_nil, if_neg h, decide_eq_false h,
      List.filter_singleton, cond_false, List.map_cons, List.map_nil]

/-- What stands below the header is what should iff the known services come first. -/
theorem fwdBody_perm_iff (dc : Dc) (db : ZoneDb) (zone : CStr) :
    (fwdBody dc db zone).Perm (expectedLines dc db zone) ↔
      PassesFirst (knownService dc) (db.srvRecords (arg zone)) := by
  have hpasses := fwdPasses_perm dc db zone
  have hsrv := filter_nsMxSrv db (arg zone) (.inr (.inr rfl))
  rw [fwdBody, writeFwdHeaderRecords, writeGlueRecords_eq, expectedLines, hsrv,
    List.perm_append_right_iff, ← srvLines_perm_iff dc zone]
  rw [hpasses.symm.congr_right, List.perm_append_right_iff, List.perm_append_left_iff]
  rfl

/-! ## Writing the file -/

/-- The tables up to serial and mark of the zones of one name. -/
def SerialOnly (name : CStr) (db db' : ZoneDb) : Prop :=
  db' = db ∨ ∃ serial, db' = db.setFwdSerial name serial

theorem SerialOnly.fwdBody_eq {name : CStr} {db db' : ZoneDb} (h : SerialOnly name db db')
    (zone : CStr) : fwdBody dc db' zone = fwdBody dc db zone := by
  rcases h with rfl | ⟨serial, rfl⟩
  · rfl
  · refine fwdBody_mapZones (fun z => ?_) zone
    split_ifs <;> exact ⟨rfl, rfl⟩

/-- The row of the zone is there, and its serial is updated if it is marked. -/
def FwdRowOk (env : ZoneEnv) (zone : CStr) (db : ZoneDb) : Prop :=
  ∃ e, db.zones.find? (·.name = arg zone) = some e ∧
    (e.updated = "yes".toList → env.sql .fwdZoneSerialUpdate zone 0 = true)

/-- The check goes through a `NULL` pointer where no zone has the name. -/
theorem ailsaCheckForZoneUpdate_outcome (env : ZoneEnv) (zone : CStr) (w : ZoneWorld) :
    (FwdRowOk env zone w.db ∧ ∃ l db', SerialOnly (arg zone) w.db db' ∧
      ailsaCheckForZoneUpdate env (w.db.zonesOnName (arg zone)) zone w =
        (.ok l, ⟨db', w.files⟩)) ∨
    ¬FwdRowOk env zone w.db ∧ ∃ e,
      ailsaCheckForZoneUpdate env (w.db.zonesOnName (arg zone)) zone w = (.error e, w) ∧
        (e = .nullDeref → w.db.zones.find? (·.name = arg zone) = none) := by
  have hhead := head?_zonesOnName w.db (arg zone)
  rcases hl : w.db.zonesOnName (arg zone) with _ | ⟨e, rest⟩
  · rw [hl, List.head?_nil] at hhead
    refine .inr ⟨?_, _, rfl, fun _ => hhead.symm⟩
    rintro ⟨e, he, -⟩
    cases hhead.trans he
  rw [hl, List.head?_cons] at hhead
  rw [ailsaCheckForZoneUpdate_cons]
  split_ifs with hu hsql
  · exact .inl ⟨⟨e, hhead.symm, fun _ => hsql⟩, _, _, .inr ⟨_, rfl⟩, rfl⟩
  · refine .inr ⟨?_, _, rfl, nofun⟩
    rintro ⟨e', he', himp⟩
    cases hhead.trans he'
    exact hsql (himp hu)
  · exact .inl ⟨⟨e, hhead.symm, fun h => absurd h hu⟩, _, _, .inl rfl, rfl⟩

/-- What `write_fwd_zone_file` needs to write the file. -/
structure FwdWritable (env : ZoneEnv) (zone : CStr) (db : ZoneDb) : Prop where
  nameServers : env.sql .nameServersOnName zone 0 = true
  soa : env.sql .zoneSoaOnName zone 0 = true
  row : FwdRowOk env zone db
  nsMxSrv : env.sql .nsMxSrvRecords zone 0 = true
  records : env.sql .zoneRecordsOnName zone 0 = true
  glue : env.sql .glueZoneOnZoneName zone 0 = true
  opens : env.openOk (.fwd zone) = true

/-- The function puts the file on record, with records and glue as they are, and changes
the serial at most. -/
def FwdWritten (dc : Dc) (zone : CStr) (w : ZoneWorld) (r : Except AilsaError Unit × ZoneWorld) :
    Prop :=
  ∃ db' v, SerialOnly (arg zone) w.db db' ∧ v.file = .fwd zone ∧ v.body = fwdBody dc w.db zone ∧
    r = (.ok (), ⟨db', v :: w.files⟩)

/-- The function stops, puts no file on record and changes the serial at most. It goes
through a `NULL` pointer only where no zone has the name. -/
def FwdStopped (zone : CStr) (w : ZoneWorld) (r : Except AilsaError Unit × ZoneWorld) : Prop :=
  ∃ db' e, SerialOnly (arg zone) w.db db' ∧ r = (.error e, ⟨db', w.files⟩) ∧
    (e = .nullDeref → w.db.zones.find? (·.name = arg zone) = none)

theorem writeFwdZoneFile_run (dc : Dc) (env : ZoneEnv) (zone : CStr) (w : ZoneWorld) :
    FwdWritable env zone w.db ∧ FwdWritten dc zone w (writeFwdZoneFile dc env zone w) ∨
      ¬FwdWritable env zone w.db ∧ FwdStopped zone w (writeFwdZoneFile dc env zone w) := by
  rw [writeFwdZoneFile]
  by_cases h1 : env.sql .nameServersOnName zone 0 = true
  swap
  · rw [Prog.bind_run_error (query_run_of_false h1 _ w)]
    exact .inr ⟨fun hw => h1 hw.nameServers, w.db, _, .inl rfl, rfl, by simp⟩
  rw [Prog.bind_run_ok (query_run_of_true h1 _ w)]
  by_cases h2 : env.sql .zoneSoaOnName zone 0 = true
  swap
  · rw [Prog.bind_run_error (query_run_of_false h2 _ w)]
    exact .inr ⟨fun hw => h2 hw.soa, w.db, _, .inl rfl, rfl, by simp⟩
  rw [Prog.bind_run_ok (query_run_of_true h2 _ w)]
  obtain ⟨h3, l, db', hdb, hcheck⟩ | ⟨h3, e, hcheck, he⟩ :=
    ailsaCheckForZoneUpdate_outcome env zone w
  swap
  · rw [Prog.bind_run_error hcheck]
    exact .inr ⟨fun hw => h3 hw.row, w.db, e, .inl rfl, rfl, he⟩
  rw [Prog.bind_run_ok hcheck]
  by_cases h4 : env.sql .nsMxSrvRecords zone 0 = true
  swap
  · rw [Prog.bind_run_error (query_run_of_false h4 _ _)]
    exact .inr ⟨fun hw => h4 hw.nsMxSrv, db', _, hdb, rfl, by simp⟩
  rw [Prog.bind_run_ok (query_run_of_true h4 _ _)]
  by_cases h5 : env.sql .zoneRecordsOnName zone 0 = true
  swap
  · rw [Prog.bind_run_error (query_run_of_false h5 _ _)]
    exact .inr ⟨fun hw => h5 hw.records, db', _, hdb, rfl, by simp⟩
  rw [Prog.bind_run_ok (query_run_of_true h5 _ _)]
  by_cases h6 : env.sql .glueZoneOnZoneName zone 0 = true
  swap
  · rw [Prog.bind_run_error (query_run_of_false h6 _ _)]
    exact .inr ⟨fun hw => h6 hw.glue, db', _, hdb, rfl, by simp⟩
  rw [Prog.bind_run_ok (query_run_of_true h6 _ _)]
  by_cases h7 : env.openOk (.fwd zone) = true
  · rw [h7]
    exact .inl ⟨⟨h1, h2, h3, h4, h5, h6, h7⟩, db', _, hdb, rfl, hdb.fwdBody_eq zone, rfl⟩
  · rw [Bool.eq_false_iff.mpr h7]
    exact .inr ⟨fun hw => h7 hw.opens, db', _, hdb, rfl, by simp⟩

/-- When `write_fwd_zone_file` returns `0`, what stands below the header is one line for
every record with a known service or none, and for the name servers of the glue zones,
iff no `SRV` record with a known service is read after one without. -/
theorem writeFwdZoneFile_complete_iff (dc : Dc) (env : ZoneEnv) (zone : CStr) (w w' : ZoneWorld)
    (h : writeFwdZoneFile dc env zone w = (.ok (), w')) :
    ∃ v, w'.files = v :: w.files ∧ v.file = .fwd zone ∧
      (v.body.Perm (expectedLines dc w.db zone) ↔
        PassesFirst (knownService dc) (w.db.srvRecords (arg zone))) := by
  obtain ⟨-, db', v, -, hfile, hbody, hrun⟩ | ⟨-, db', e, -, hrun, -⟩ :=
    writeFwdZoneFile_run dc env zone w
  · rw [h, Prod.mk.injEq] at hrun
    obtain ⟨-, rfl⟩ := hrun
    exact ⟨v, rfl, hfile, by rw [hbody, fwdBody_perm_iff]⟩
  · rw [h] at hrun
    cases hrun

/-- Only the service `sip` has a port. -/
def sipDc : Dc := ⟨[], 0, fun service _ => if service = "sip".toList then some 5060 else none⟩

/-- `a.com` with an `SRV` record of an unknown service before one of `sip`. -/
def srvWorld : ZoneWorld where
  db :=
    { zones := [⟨1, "a.com".toList, "ns.a.com".toList, "none".toList, 5, 1, 1, 1, 1, "yes".toList,
        "no".toList, "master".toList, none⟩]
      records := [⟨1, 1, "old".toList, "SRV".toList, some "tcp".toList, some "old".toList, 10,
          "one".toList⟩,
        ⟨2, 1, "sip".toList, "SRV".toList, some "tcp".toList, some "sip".toList, 10, "two".toList⟩]
      glueZones := []
      revZones := []
      revRecords := []
      preferredA := [] }
  files := []

theorem fwdWritable_srvWorld : FwdWritable (noClock true) "a.com".toList srvWorld.db :=
  ⟨rfl, rfl, ⟨_, rfl, fun _ => rfl⟩, rfl, rfl, rfl, rfl⟩

theorem writeFwdZoneFile_complete_iff_srvWorld :
    ∃ w', writeFwdZoneFile sipDc (noClock true) "a.com".toList srvWorld = (.ok (), w') ∧
      ∃ v, w'.files = v :: srvWorld.files ∧ v.file = .fwd "a.com".toList ∧
        (v.body.Perm (expectedLines sipDc srvWorld.db "a.com".toList) ↔
          PassesFirst (knownService sipDc) (srvWorld.db.srvRecords (arg "a.com".toList))) := by
  obtain ⟨-, _, _, -, -, -, hrun⟩ | ⟨hno, -⟩ :=
    writeFwdZoneFile_run sipDc (noClock true) "a.com".toList srvWorld
  · exact ⟨_, hrun, writeFwdZoneFile_complete_iff _ _ _ _ _ hrun⟩
  · exact absurd fwdWritable_srvWorld hno

/-- The record of `sip` is not in the file, and nothing is reported. -/
theorem writeFwdZoneFile_srvWorld_not_complete :
    ∃ w', writeFwdZoneFile sipDc (noClock true) "a.com".toList srvWorld = (.ok (), w') ∧
      ∃ v, w'.files = [v] ∧ v.file = .fwd "a.com".toList ∧
        ¬v.body.Perm (expectedLines sipDc srvWorld.db "a.com".toList) := by
  obtain ⟨-, _, v, -, hfile, hbody, hrun⟩ | ⟨hno, -⟩ :=
    writeFwdZoneFile_run sipDc (noClock true) "a.com".toList srvWorld
  · refine ⟨_, hrun, v, rfl, hfile, ?_⟩
    rw [hbody, fwdBody_perm_iff]
    decide
  · exact absurd fwdWritable_srvWorld hno

end Cmdb
