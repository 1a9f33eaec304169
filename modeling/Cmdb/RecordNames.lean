import Cmdb.History
import Cmdb.ZoneCommands

/-!
# `CNAME` and other records

A host of a zone with a `CNAME` record must have no other record in that zone. Adding the
`CNAME` of a host to the parent zone looks for any record of that host there, but
`add_host` only looks for the very record it is about to add. So a `CNAME` stays alone
over a history of both iff `add_host` enters no record next to a `CNAME` and no `CNAME`
next to a record (`cnameAlone_iff`).
-/

namespace Cmdb

open CString

variable {dc : Dc} {env : ZoneEnv} {cm : DnsaCommLine} {w : ZoneWorld} {db : ZoneDb}

/-! ## The record of `add_host` -/

/-- The row of a populated list. -/
theorem newRecord_populated {zone : ℕ} {record : List AilsaData}
    (h : dnsaPopulateRecord cm [.number zone] = .ok record) (uid id : ℕ) :
    ∃ r, newRecord id (cmdbPopulateCuserMuser uid record) = some r ∧ r.id = id ∧ r.zone = zone ∧
      r.host = arg cm.host ∧ r.type = arg cm.rtype ∧ r.destination = arg cm.dest := by
  unfold dnsaPopulateRecord at h
  extract_lets list1 list2 at h
  split_ifs at h with hsrv
  · have h2 : list2 = cmdbAddNumberToList cm.pfx list1 := if_pos (.inr hsrv)
    rw [h2] at h
    obtain ⟨list3, h3, h4⟩ := bind_eq_ok.mp h
    rcases hp : cm.protocol with _ | p
    · rw [hp] at h3
      cases h3
    rcases hs : cm.service with _ | s
    · rw [hs] at h4
      cases h4
    rw [hp] at h3
    cases h3
    rw [hs] at h4
    cases h4
    exact ⟨_, rfl, rfl, rfl, rfl, rfl, rfl⟩
  · obtain rfl := Except.ok.inj h
    by_cases hmx : cm.rtype = "MX".toList ∨ cm.rtype = "SRV".toList
    · rw [show list2 = cmdbAddNumberToList cm.pfx list1 from if_pos hmx]
      exact ⟨_, rfl, rfl, rfl, rfl, rfl, rfl⟩
    · rw [show list2 = list1 from if_neg hmx]
      exact ⟨_, rfl, rfl, rfl, rfl, rfl, rfl⟩

/-- The call enters a row of that zone. -/
structure EntersHost (env : ZoneEnv) (cm : DnsaCommLine) (db : ZoneDb) (zone : ℕ)
    (record : List AilsaData) : Prop where
  zoneQuery : env.sql .fwdZoneIdOnZoneName cm.domain 0 = true
  zoneId : db.fwdZoneIds (arg cm.domain) (arg "master".toList) = [zone]
  row : dnsaPopulateRecord cm [.number zone] = .ok record
  query : QueryOk env (fwdRecordQuery record.length)
  new : db.recordIds record = []
  insert : QueryOk env (insertRecordQuery (record.length + 2))

/-- What a program leaves in `records` and `preferred_a`. -/
def ZoneDb.SameRecords (db db' : ZoneDb) : Prop :=
  db'.records = db.records ∧ db'.preferredA = db.preferredA

theorem setDbRowUpdatedOnName_sameRecords (env : ZoneEnv) (name : CStr) (w : ZoneWorld) :
    w.db.SameRecords (setDbRowUpdatedOnName env name w).2.db := by
  rw [setDbRowUpdatedOnName, statement_run]
  split_ifs <;> exact ⟨rfl, rfl⟩

theorem length_cmdbPopulateCuserMuser (uid : ℕ) (list : List AilsaData) :
    (cmdbPopulateCuserMuser uid list).length = list.length + 2 := by
  simp [cmdbPopulateCuserMuser, cmdbAddNumberToList]

/-- A row that can be entered is, and then the zone is marked. -/
theorem EntersHost.run {zone : ℕ} {record : List AilsaData}
    (h : EntersHost env cm w.db zone record) (dc : Dc) :
    addHost dc env cm w = setDbRowUpdatedOnName env cm.domain
      { w with db := w.db.insertRecord (cmdbPopulateCuserMuser dc.uid record) } := by
  obtain ⟨q, hq, hins⟩ := h.insert
  have hnone : ¬0 < (w.db.recordIds record).length := by
    rw [h.new]
    exact lt_irrefl 0
  rw [addHost, (readOnly_cmdbCheckAddZoneId _ _ _).bind_run_of_ok
      (cmdbCheckAddZoneId_ok_iff.mpr ⟨h.zoneQuery, h.zoneId⟩), h.row, ret_ok_bind_run,
    (readOnly_cmdbCheckForFwdRecord _ _).bind_run_of_ok
      (cmdbCheckForFwdRecord_ok_iff.mpr ⟨h.query, rfl⟩), if_neg hnone,
    length_cmdbPopulateCuserMuser, hq, ret_ok_bind_run,
    Prog.bind_run_ok (by rw [statement_run, if_pos hins])]

/-- Otherwise the records stay as they are. -/
theorem addHost_sameRecords (dc : Dc) (h : ∀ zone record, ¬EntersHost env cm w.db zone record) :
    w.db.SameRecords (addHost dc env cm w).2.db := by
  have hsame : w.db.SameRecords w.db := ⟨rfl, rfl⟩
  let P : ZoneWorld → Prop := fun w' => w.db.SameRecords w'.db
  refine (readOnly_cmdbCheckAddZoneId _ _ _).bind_run_snd (P := P) hsame fun zone hz => ?_
  refine (readOnly_ret _).bind_run_snd (P := P) hsame fun record hrow => ?_
  refine (readOnly_cmdbCheckForFwdRecord _ _).bind_run_snd (P := P) hsame fun n hn => ?_
  rw [Prog.ite_run]
  split_ifs with hpos
  · exact hsame
  refine (readOnly_ret _).bind_run_snd (P := P) hsame fun q hq => ?_
  rw [Prog.bind_run, statement_run]
  split_ifs with hins
  · obtain ⟨hzq, hzone⟩ := cmdbCheckAddZoneId_ok_iff.mp hz
    obtain ⟨hquery, rfl⟩ := cmdbCheckForFwdRecord_ok_iff.mp hn
    have hnew := List.length_eq_zero_iff.mp (Nat.eq_zero_of_not_pos hpos)
    rw [length_cmdbPopulateCuserMuser] at hq
    exact absurd ⟨hzq, hzone, hrow, hquery, hnew, q, hq, hins⟩ (h zone record)
  · exact hsame

/-- A row of the zone is entered under a new id, or the records stay as they are. -/
theorem addHost_outcome (dc : Dc) (env : ZoneEnv) (cm : DnsaCommLine) (w : ZoneWorld) :
    (∃ zone record r, EntersHost env cm w.db zone record ∧
      newRecord (nextId (w.db.records.map DnsRecord.id))
        (cmdbPopulateCuserMuser dc.uid record) = some r ∧
      (addHost dc env cm w).2.db.records = w.db.records ++ [r] ∧
      (addHost dc env cm w).2.db.preferredA = w.db.preferredA) ∨
    (∀ zone record, ¬EntersHost env cm w.db zone record) ∧
      w.db.SameRecords (addHost dc env cm w).2.db := by
  by_cases h : ∃ zone record, EntersHost env cm w.db zone record
  · obtain ⟨zone, record, h⟩ := h
    obtain ⟨r, hr, -⟩ :=
      newRecord_populated h.row dc.uid (nextId (w.db.records.map DnsRecord.id))
    obtain ⟨hrecords, hpref⟩ := setDbRowUpdatedOnName_sameRecords env cm.domain
      { w with db := w.db.insertRecord (cmdbPopulateCuserMuser dc.uid record) }
    refine .inl ⟨zone, record, r, h, hr, ?_, by rw [h.run dc]; exact hpref⟩
    rw [h.run dc, hrecords, ZoneDb.insertRecord, hr]
    rfl
  · have hno : ∀ zone record, ¬EntersHost env cm w.db zone record :=
      fun zone record henters => h ⟨zone, record, henters⟩
    exact .inr ⟨hno, addHost_sameRecords dc hno⟩

/-! ## The `CNAME` in the parent zone -/

/-- The host passes only if the top level zone has no record of it. -/
theorem checkForZonesAndHosts_ok {dom host : CStr} {top : Option CStr} {u : Unit}
    (h : (checkForZonesAndHosts env dom top host w).1 = .ok u) :
    ∃ t, (toplevelId env dom top w).1 = .ok t ∧
      ∀ r ∈ w.db.records, r.zone = t → r.host ≠ arg host := by
  obtain ⟨d, -, h⟩ := (readOnly_cmdbCheckAddZoneId _ _ _).bind_ok h
  obtain ⟨t, ht, h⟩ := (readOnly_toplevelId _ _ _).bind_ok h
  obtain ⟨z, -, h⟩ := (readOnly_query _ _ _ _ _).bind_ok h
  obtain ⟨-, -, h⟩ := (Prog.ReadOnly.require _ _).bind_ok h
  obtain ⟨z, hz, h⟩ := (readOnly_query _ _ _ _ _).bind_ok h
  have hnil := of_decide_eq_true (Prog.require_ok h)
  rw [query_ok hz, List.length_eq_zero_iff, List.filter_eq_nil_iff] at hnil
  exact ⟨t, ht, fun r hr hzone hhost => hnil r hr (decide_eq_true ⟨hzone, hhost⟩)⟩

theorem setDbRowUpdated_sameRecords (env : ZoneEnv) (number : ℕ) (w : ZoneWorld) :
    w.db.SameRecords (setDbRowUpdated env number w).2.db := by
  rw [setDbRowUpdated]
  refine (Prog.ReadOnly.require _ _).bind_run_snd
    (P := fun w' : ZoneWorld => w.db.SameRecords w'.db)
    ⟨rfl, rfl⟩ fun _ _ => ?_
  rw [statement_run]
  split_ifs <;> exact ⟨rfl, rfl⟩

/-- A `CNAME` is entered in a zone that has no record of the host, or the records stay as
they are. -/
theorem addCnameToRootDomain_outcome (dc : Dc) (env : ZoneEnv) (cm : DnsaCommLine)
    (w : ZoneWorld) :
    (∃ r : DnsRecord, (∀ r' ∈ w.db.records, r'.zone = r.zone → r'.host ≠ r.host) ∧
      (addCnameToRootDomain dc env cm w).2.db.records = w.db.records ++ [r] ∧
      (addCnameToRootDomain dc env cm w).2.db.preferredA = w.db.preferredA) ∨
    w.db.SameRecords (addCnameToRootDomain dc env cm w).2.db := by
  have hsame : w.db.SameRecords w.db := ⟨rfl, rfl⟩
  obtain ⟨e, -, hrun⟩ | ⟨u, hcheck, hrun⟩ :=
    (readOnly_checkForZonesAndHosts env cm.domain cm.toplevel cm.host).bind_cases _ w
  · rw [addCnameToRootDomain, hrun]
    exact .inr hsame
  rw [addCnameToRootDomain, hrun]
  obtain ⟨t, ht, hfree⟩ := checkForZonesAndHosts_ok hcheck
  rw [(readOnly_toplevelId _ _ _).bind_run_of_ok ht]
  by_cases hins : env.sql .insertRecordBase [] 0 = true
  swap
  · rw [Prog.bind_run_error (by rw [statement_run, if_neg hins])]
    exact .inr hsame
  rw [Prog.bind_run_ok (by rw [statement_run, if_pos hins])]
  obtain ⟨hrecords, hpref⟩ := setDbRowUpdated_sameRecords env t
    ⟨w.db.insertRecord (cmdbPopulateCuserMuser dc.uid (cmdbAddStringToList
      (snprintf domainLen (cm.host ++ ".".toList ++ cm.domain ++ ".".toList))
      (cmdbAddStringToList cm.host (cmdbAddStringToList "CNAME".toList [.number t])))), w.files⟩
  exact .inl ⟨_, hfree, hrecords, hpref⟩

/-! ## Histories -/

/-- No two records of one host of a zone are there if one of them is a `CNAME`. -/
def ZoneDb.CnameAlone (db : ZoneDb) : Prop :=
  db.records.Pairwise fun r r' => r.zone = r'.zone → r.host = r'.host →
    r.type ≠ "CNAME".toList ∧ r'.type ≠ "CNAME".toList

instance (db : ZoneDb) : Decidable db.CnameAlone :=
  inferInstanceAs (Decidable (List.Pairwise _ _))

/-- The commands that add records. -/
inductive RecordOp
  | addHost (cm : DnsaCommLine)
  | addCname (cm : DnsaCommLine)
deriving DecidableEq, Repr

/-- The world after a command, with its outcomes. -/
def RecordOp.step (dc : Dc) (w : ZoneWorld) (op : ZoneEnv × RecordOp) : ZoneWorld :=
  match op.2 with
  | addHost cm => (Cmdb.addHost dc op.1 cm w).2
  | addCname cm => (addCnameToRootDomain dc op.1 cm w).2

/-- Where `add_host` enters a row, the zone has no record of the host if the row is a
`CNAME`, and no `CNAME` of it if not. -/
def RecordOp.NoClash (w : ZoneWorld) (op : ZoneEnv × RecordOp) : Prop :=
  match op.2 with
  | addHost cm => ∀ zone record, EntersHost op.1 cm w.db zone record → ∀ r ∈ w.db.records,
    r.zone = zone → r.host = arg cm.host →
      r.type ≠ "CNAME".toList ∧ arg cm.rtype ≠ "CNAME".toList
  | addCname _ => True

theorem cnameAlone_append {db db' : ZoneDb} {r : DnsRecord}
    (hrecords : db'.records = db.records ++ [r]) : db'.CnameAlone ↔ db.CnameAlone ∧
      ∀ r' ∈ db.records, r'.zone = r.zone → r'.host = r.host →
        r'.type ≠ "CNAME".toList ∧ r.type ≠ "CNAME".toList := by
  rw [ZoneDb.CnameAlone, hrecords, List.pairwise_append]
  simp [ZoneDb.CnameAlone]

/-- Two calls that enter a row enter it in one zone. -/
theorem EntersHost.zone_unique {zone zone' : ℕ} {record record' : List AilsaData}
    (h : EntersHost env cm db zone record) (h' : EntersHost env cm db zone' record') :
    zone' = zone :=
  List.singleton_inj.mp (h'.zoneId.symm.trans h.zoneId)

/-- A command enters a row, which clashes with none exactly under its condition, or leaves
the records as they are. -/
theorem RecordOp.step_cases (dc : Dc) (w : ZoneWorld) (op : ZoneEnv × RecordOp) :
    (∃ r : DnsRecord, (step dc w op).db.records = w.db.records ++ [r] ∧
      (NoClash w op ↔ ∀ r' ∈ w.db.records, r'.zone = r.zone → r'.host = r.host →
        r'.type ≠ "CNAME".toList ∧ r.type ≠ "CNAME".toList)) ∨
    NoClash w op ∧ (step dc w op).db.records = w.db.records := by
  obtain ⟨env, cm | cm⟩ := op
  · obtain ⟨zone, record, r, h, hr, hrecords, -⟩ | ⟨hno, hrecords, -⟩ :=
      addHost_outcome dc env cm w
    swap
    · exact .inr ⟨fun zone record h => absurd h (hno zone record), hrecords⟩
    obtain ⟨r', hr', -, hzone, hhost, htype, -⟩ := newRecord_populated h.row dc.uid
      (nextId (w.db.records.map DnsRecord.id))
    obtain rfl := Option.some.inj (hr.symm.trans hr')
    refine .inl ⟨r, hrecords, fun hclash => ?_, fun hclash zone' record' h' => ?_⟩
    · rw [hzone, hhost, htype]
      exact hclash zone record h
    · rw [hzone, hhost, htype] at hclash
      rwa [h.zone_unique h']
  · obtain ⟨r, hfree, hrecords, -⟩ | ⟨hrecords, -⟩ := addCnameToRootDomain_outcome dc env cm w
    · exact .inl ⟨r, hrecords, fun _ r' hr' hzone hhost => absurd hhost (hfree r' hr' hzone),
        fun _ => trivial⟩
    · exact .inr ⟨trivial, hrecords⟩

/-- From a table where a `CNAME` stands alone, an empty one say, it does so in every state
of a history of both commands, with statements that may fail, iff no `add_host` enters a
row that clashes with one of its host and zone. -/
theorem cnameAlone_iff (dc : Dc) (ops : List (ZoneEnv × RecordOp)) (w : ZoneWorld)
    (hw : w.db.CnameAlone) :
    History.Throughout (RecordOp.step dc) (fun w => w.db.CnameAlone) w ops ↔
      History.Each (RecordOp.step dc) RecordOp.NoClash w ops := by
  refine History.throughout_iff_each (fun _ h => h) (fun w op hw hop => ?_)
    (fun w op _ hstep => ?_) ops w hw
  · obtain ⟨r, hrecords, hiff⟩ | ⟨-, hrecords⟩ := RecordOp.step_cases dc w op
    · exact (cnameAlone_append hrecords).mpr ⟨hw, hiff.mp hop⟩
    · rwa [ZoneDb.CnameAlone, hrecords]
  · obtain ⟨r, hrecords, hiff⟩ | ⟨hop, -⟩ := RecordOp.step_cases dc w op
    · exact hiff.mpr ((cnameAlone_append hrecords).mp hstep).2
    · exact hop

/-- The zones `a.com` and `b.a.com`, without records. -/
def parentAndChild : ZoneWorld where
  db := { zones := [⟨1, "a.com".toList, [], [], 1, 1, 1, 1, 1, [], [], "master".toList, none⟩,
            ⟨2, "b.a.com".toList, [], [], 1, 1, 1, 1, 1, [], [], "master".toList, none⟩]
          records := [], glueZones := [], revZones := [], revRecords := [], preferredA := [] }
  files := []

/-- A command line for a record. -/
def recordCommLine (domain host rtype dest : String) (h : domain.toList.length ≤ domainLen) :
    DnsaCommLine :=
  ⟨domain.toList, host.toList, dest.toList, rtype.toList, 0, none, none, none, none, none, h⟩

/-- A host gets an address, and its `CNAME` in the parent zone. -/
def cnameInParent : List (ZoneEnv × RecordOp) :=
  [(noClock true, .addHost (recordCommLine "b.a.com" "www" "A" "10.0.0.1" (by decide))),
    (noClock true, .addCname (recordCommLine "b.a.com" "www" "CNAME" "" (by decide)))]

theorem cnameAlone_iff_cnameInParent :
    History.Throughout (RecordOp.step ⟨[], 0, fun _ _ => none⟩) (fun w => w.db.CnameAlone)
      parentAndChild cnameInParent ↔
    History.Each (RecordOp.step ⟨[], 0, fun _ _ => none⟩) RecordOp.NoClash
      parentAndChild cnameInParent :=
  cnameAlone_iff ⟨[], 0, fun _ _ => none⟩ cnameInParent parentAndChild List.Pairwise.nil

/-- A `CNAME` is added, and then an address of the same host. -/
theorem addHost_cname_not_alone :
    ¬(History.run (RecordOp.step ⟨[], 0, fun _ _ => none⟩) parentAndChild
      [(noClock true, .addHost (recordCommLine "a.com" "www" "CNAME" "web.a.com" (by decide))),
        (noClock true, .addHost (recordCommLine "a.com" "www" "A" "10.0.0.1" (by decide)))]
      ).db.CnameAlone := by
  decide +kernel

end Cmdb
