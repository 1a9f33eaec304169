import Cmdb.FwdRecords
import Cmdb.RecordNames

/-!
# Preferred `A` records

Of the `A` records of one address a row of `preferred_a` names the one the reverse zone
keeps; `cmdb_trim_record_list` drops the others. The row holds the id of the record, but
`delete_record` does not look at the rows, and a row whose record is gone drops all records
of its address. `prefA_iff` says which deletes, and which types of a marked record, keep
the rows pointing at their records.
-/

namespace Cmdb

open CString DottedQuad

variable {dc : Dc} {env : ZoneEnv} {cm : DnsaCommLine} {w : ZoneWorld} {db : ZoneDb}

/-! ## Commands -/

namespace ZoneDb

variable (db : ZoneDb)

/-- `DUP_IP_A_RECORD` : the address and how many `A` records it has, if more than one. -/
def dupIpARecord (ip : CStr) : List (CStr × ℕ) :=
  let c := (db.records.filter fun r => r.type = "A".toList ∧ r.destination = ip).length
  if 1 < c then [(ip, c)] else []

/-- `FQDN_PREF_A_ON_IP`. -/
def fqdnPrefAOnIp (ip : CStr) : List CStr := (db.preferredA.filter (·.ip = ip)).map PreferredA.fqdn

/-- `INSERT_PREF_A`. -/
def insertPrefA (p : PreferredA) : ZoneDb := { db with preferredA := db.preferredA ++ [p] }

/-- `DELETE_PREF_A`. -/
def deletePrefA (ip : CStr) : ZoneDb :=
  { db with preferredA := db.preferredA.filter (·.ip ≠ ip) }

end ZoneDb

/-- The row `INSERT_PREF_A` binds. With a second id in the list a number stands where the
name is read. -/
def prefARow (i : List AilsaData) : Except AilsaError PreferredA :=
  match i with
  | .text ip :: .number _ :: .number id :: .text fqdn :: .number _ :: .number _ :: _ =>
    .ok ⟨ip, fqdn, id⟩
  | _ => .error .nullDeref

/-- `mark_preferred_a_record`. `RECORD_ID_BASE` reads the first four elements of the list. -/
def markPreferredARecord (dc : Dc) (env : ZoneEnv) (cm : DnsaCommLine) : ZoneProg Unit := do
  let r ← query env .dupIpARecord cm.dest 0 fun db => db.dupIpARecord (arg cm.dest)
  if r.length = 0 then return ()
  else
    let r ← query env .fqdnPrefAOnIp cm.dest 0 fun db => db.fqdnPrefAOnIp (arg cm.dest)
    if 0 < r.length then return ()
    else
      let ip ← ret ((inetPton cm.dest).elim (.error .destInputInvalid) .ok)
      let i := cmdbAddNumberToList ip.toNat (cmdbAddStringToList cm.dest [])
      let zone ← cmdbCheckAddZoneId env cm.domain "master".toList
      let r ← ret (dnsaPopulateRecord cm [.number zone])
      let fqdn := snprintf domainLen (cm.host ++ ".".toList ++ cm.domain)
      let ids ← query env .recordIdBase [] 0 fun db => db.recordIds (r.take 4)
      if ids.length = 0 then return ()
      else
        let i := cmdbAddStringToList fqdn (i ++ ids.map AilsaData.number)
        let p ← ret (prefARow (cmdbPopulateCuserMuser dc.uid i))
        statement env .insertPrefA [] 0 fun db => db.insertPrefA p

/-- `delete_preferred_a`. -/
def deletePreferredA (env : ZoneEnv) (cm : DnsaCommLine) : ZoneProg Unit :=
  statement env .deletePrefA cm.dest 0 fun db => db.deletePrefA (arg cm.dest)

/-! ## What a rebuild is left with -/

/-- The row of every preferred address names an `A` record of that address. -/
def ZoneDb.PrefNamed (db : ZoneDb) : Prop :=
  ∀ p ∈ db.preferredA, ∃ r ∈ db.records,
    r.id = p.recordId ∧ r.type = "A".toList ∧ r.destination = p.ip

instance (db : ZoneDb) : Decidable db.PrefNamed := inferInstanceAs (Decidable (∀ p ∈ _, _))

/-- No rebuild of a reverse zone loses an address : what `cmdb_trim_record_list` leaves has
all addresses of the list. -/
def ZoneWorld.KeepsAddresses (w : ZoneWorld) : Prop :=
  ∀ env range pfx fwd pref, (getFwdRecords env range pfx w).1 = .ok fwd →
    (getPrefRecords env range pfx w).1 = .ok pref →
      ∀ x ∈ fwd, ∃ y ∈ cmdbTrimRecordList fwd pref, y.dest = x.dest

/-- What the commands keep : ids and preferred addresses are unique, an address has the
length of one, and its row names an `A` record of it. -/
structure ZoneDb.PrefOk (db : ZoneDb) : Prop where
  ids : (db.records.map DnsRecord.id).Nodup
  ips : (db.preferredA.map PreferredA.ip).Nodup
  length_ip : ∀ p ∈ db.preferredA, p.ip.length < hostLen
  named : db.PrefNamed

theorem mem_cmdbTrimRecordList {x : AilsaRecord} : ∀ {p : List PreferredA} {r : List AilsaRecord},
    x ∈ cmdbTrimRecordList r p ↔ x ∈ r ∧ ∀ pref ∈ p,
      StrncmpEq pref.ip x.dest domainLen → x.id = pref.recordId
  | [], r => by simp [cmdbTrimRecordList]
  | pref :: p, r => by
    rw [cmdbTrimRecordList, List.foldl_cons, ← cmdbTrimRecordList, mem_cmdbTrimRecordList,
      List.mem_filter, List.forall_mem_cons, and_assoc]
    simp only [not_and, not_not, decide_eq_true_eq]

/-- A sub-zone of the range asks for the text, under its index `i`. -/
def SearchedIn (range : CStr) (pfx i : ℕ) (s : CStr) : Prop :=
  ∃ n search, getZoneIndex pfx = .ok n ∧ i < n ∧ getRangeSearchString range pfx i = .ok search ∧
    like (arg search) s = true

variable {range : CStr} {pfx : ℕ} {fwd : List AilsaRecord} {pref : List PreferredA}

/-- What a loop over the search strings of a range collects. -/
theorem mem_collect_search {α β : Type} {q : Query} {g : CStr → ZoneDb → List β}
    {u : ℕ → List β → List α} {n : ℕ} {l : List α}
    (h : (collect (fun i => do
      let search ← ret (getRangeSearchString range pfx i)
      let l ← query env q search i (g (arg search))
      return u i l) (List.range n) w).1 = .ok l) {x : α} :
    x ∈ l ↔ ∃ i < n, ∃ search, getRangeSearchString range pfx i = .ok search ∧
      x ∈ u i (g (arg search) w.db) := by
  have hro : ∀ i, Prog.ReadOnly (do
      let search ← ret (getRangeSearchString range pfx i)
      let l ← query env q search i (g (arg search))
      return u i l : ZoneProg (List α)) := fun i =>
    (readOnly_ret _).bind fun _ => (readOnly_query _ _ _ _ _).bind fun _ => Prog.ReadOnly.pure _
  have hround : ∀ i l', ((do
      let search ← ret (getRangeSearchString range pfx i)
      let l ← query env q search i (g (arg search))
      return u i l : ZoneProg (List α)) w).1 = .ok l' →
        ∃ search, getRangeSearchString range pfx i = .ok search ∧
          u i (g (arg search) w.db) = l' := by
    intro i l' hl
    obtain ⟨search, hs, hl⟩ := (readOnly_ret _).bind_ok hl
    obtain ⟨rows, hrows, hl⟩ := (readOnly_query _ _ _ _ _).bind_ok hl
    rw [query_ok hrows] at hl
    exact ⟨search, hs, Except.ok.inj hl⟩
  rw [mem_collect_iff hro h]
  constructor
  · rintro ⟨i, hi, l', hl, hx⟩
    obtain ⟨search, hs, rfl⟩ := hround i l' hl
    exact ⟨i, List.mem_range.mp hi, search, hs, hx⟩
  · rintro ⟨i, hi, search, hs, hx⟩
    obtain ⟨l', hl⟩ := exists_round_ok hro h i (List.mem_range.mpr hi)
    obtain ⟨search', hs', rfl⟩ := hround i l' hl
    cases hs.symm.trans hs'
    exact ⟨i, List.mem_range.mpr hi, _, hl, hx⟩

/-- The forward records of a rebuild are the records some sub-zone asks for. -/
theorem mem_getFwdRecords (h : (getFwdRecords env range pfx w).1 = .ok fwd) {x : AilsaRecord} :
    x ∈ fwd ↔ ∃ i, ∃ r ∈ w.db.records, SearchedIn range pfx i r.destination ∧
      x ∈ fillFwdRecords [(r, ((w.db.zones.find? (·.id = r.zone)).map Zone.name).getD [])] i := by
  obtain ⟨-, -, h⟩ := (Prog.ReadOnly.require _ _).bind_ok h
  obtain ⟨n, hn, h⟩ := (readOnly_ret _).bind_ok h
  rw [mem_collect_search (q := .recordsOnNetRange) (g := fun search db => db.recordsLike search)
    (u := fun i l => fillFwdRecords l i) h]
  constructor
  · rintro ⟨i, hi, search, hs, hx⟩
    obtain ⟨_, hrow, rfl⟩ := List.mem_map.mp hx
    obtain ⟨r, hsel, rfl⟩ := List.mem_map.mp hrow
    obtain ⟨hr, hlike⟩ := List.mem_filter.mp hsel
    exact ⟨i, r, hr, ⟨n, search, hn, hi, hs, hlike⟩, List.mem_singleton_self _⟩
  · rintro ⟨i, r, hr, ⟨n', search, hn', hi, hs, hlike⟩, hx⟩
    cases hn.symm.trans hn'
    obtain rfl := List.mem_singleton.mp hx
    exact ⟨i, hi, search, hs, List.mem_map_of_mem
      (List.mem_map_of_mem (List.mem_filter.mpr ⟨hr, hlike⟩))⟩

/-- The preferred addresses of a rebuild are among those some sub-zone asks for. -/
theorem mem_getPrefRecords (h : (getPrefRecords env range pfx w).1 = .ok pref) {p : PreferredA}
    (hp : p ∈ pref) : ∃ i, ∃ p' ∈ w.db.preferredA, SearchedIn range pfx i p'.ip ∧
      p = { p' with ip := p'.ip.take hostLen, fqdn := p'.fqdn.take domainLen } := by
  obtain ⟨n, hn, h⟩ := (readOnly_ret _).bind_ok h
  let asked : CStr → ZoneDb → List PreferredA :=
    fun search db => db.preferredA.filter fun p => like search p.ip
  let copied : ℕ → List PreferredA → List PreferredA :=
    fun _ l => l.map fun p => { p with ip := p.ip.take hostLen, fqdn := p.fqdn.take domainLen }
  have hcollect := mem_collect_search (q := .preferAInfoOnRange) (g := asked) (u := copied)
    (x := p) h
  obtain ⟨i, hi, search, hs, hx⟩ := hcollect.mp hp
  obtain ⟨p', hp', rfl⟩ := List.mem_map.mp hx
  obtain ⟨hp', hlike⟩ := List.mem_filter.mp hp'
  exact ⟨i, p', hp', ⟨n, search, hn, hi, hs, hlike⟩, rfl⟩

/-- Where the rows name their records, no rebuild loses an address. -/
theorem ZoneDb.PrefOk.keepsAddresses (h : w.db.PrefOk) : w.KeepsAddresses := by
  intro env range pfx fwd pref hfwd hpref x hx
  by_cases hall : ∀ p ∈ pref, StrncmpEq p.ip x.dest domainLen → x.id = p.recordId
  · exact ⟨x, mem_cmdbTrimRecordList.mpr ⟨hx, hall⟩, rfl⟩
  -- another record of the address is preferred, and is there
  push Not at hall
  obtain ⟨p, hp, heq, -⟩ := hall
  obtain ⟨i, q, hq, hsearch, rfl⟩ := mem_getPrefRecords hpref hp
  obtain ⟨r, hr, hid, -, hdest⟩ := h.named q hq
  have hlen := h.length_ip q hq
  have hlen' : q.ip.length < domainLen := hlen.trans (by decide)
  have hip : q.ip.take hostLen = q.ip := List.take_of_length_le hlen.le
  have hrdest : r.destination.take domainLen = q.ip := by
    rw [hdest, List.take_of_length_le hlen'.le]
  have hxdest : q.ip = x.dest := (strncmpEq_iff hlen').mp (hip ▸ heq)
  refine ⟨_, mem_cmdbTrimRecordList.mpr ⟨(mem_getFwdRecords hfwd).mpr
    ⟨i, r, hr, hdest ▸ hsearch, List.mem_singleton_self _⟩, fun p' hp' heq' => ?_⟩,
    hrdest.trans hxdest⟩
  -- its address is that of one row only
  obtain ⟨-, q', hq', -, rfl⟩ := mem_getPrefRecords hpref hp'
  have hlen'' := h.length_ip q' hq'
  have hip' : q'.ip.take hostLen = q'.ip := List.take_of_length_le hlen''.le
  change StrncmpEq (q'.ip.take hostLen) (r.destination.take domainLen) domainLen at heq'
  rw [hip', hrdest, strncmpEq_iff (hlen''.trans (by decide))] at heq'
  obtain rfl := List.inj_on_of_nodup_map h.ips hq' hq heq'
  exact hid

/-! ## What the commands do -/

/-- The call deletes records of that zone. -/
structure DeletesRows (env : ZoneEnv) (cm : DnsaCommLine) (db : ZoneDb) (zone : ℕ)
    (record : List AilsaData) : Prop where
  zoneQuery : env.sql .fwdZoneIdOnZoneName cm.domain 0 = true
  zoneId : db.fwdZoneIds (arg cm.domain) (arg "master".toList) = [zone]
  row : deleteRecordList cm zone = .ok record
  statements : ∃ q, deleteRecordQueries record.length = .ok q ∧ env.sql q.1 [] 0 = true ∧
    env.sql q.2 [] 0 = true

theorem DeletesRows.unique {zone zone' : ℕ} {record record' : List AilsaData}
    (h : DeletesRows env cm db zone record) (h' : DeletesRows env cm db zone' record') :
    zone = zone' ∧ record = record' := by
  obtain rfl := List.singleton_inj.mp (h.zoneId.symm.trans h'.zoneId)
  exact ⟨rfl, Except.ok.inj (h.row.symm.trans h'.row)⟩

/-- Records of the zone are deleted, or the records stay as they are. -/
theorem deleteRecord_outcome (env : ZoneEnv) (cm : DnsaCommLine) (w : ZoneWorld) :
    (∃ zone record, DeletesRows env cm w.db zone record ∧
      (deleteRecord env cm w).2.db.records =
        w.db.records.filter (fun r => ¬matchesRow record r) ∧
      (deleteRecord env cm w).2.db.preferredA = w.db.preferredA) ∨
    (∀ zone record, ¬DeletesRows env cm w.db zone record) ∧
      w.db.SameRecords (deleteRecord env cm w).2.db := by
  have hsame : w.db.SameRecords w.db := ⟨rfl, rfl⟩
  by_cases h : ∃ zone record, DeletesRows env cm w.db zone record
  · obtain ⟨zone, record, h⟩ := h
    obtain ⟨q, hq, hsel, hdel⟩ := h.statements
    refine .inl ⟨zone, record, h, ?_⟩
    rw [deleteRecord, (readOnly_cmdbCheckAddZoneId _ _ _).bind_run_of_ok
        (cmdbCheckAddZoneId_ok_iff.mpr ⟨h.zoneQuery, h.zoneId⟩), h.row, ret_ok_bind_run, hq,
      ret_ok_bind_run, (readOnly_query _ _ _ _ _).bind_run_of_ok (query_ok_iff.mpr ⟨hsel, rfl⟩),
      Prog.ite_run]
    split_ifs with hnone
    · -- nothing is deleted also where nothing is found
      rw [List.length_eq_zero_iff, ZoneDb.recordIds, List.map_eq_nil_iff,
        List.filter_eq_nil_iff] at hnone
      refine ⟨(List.filter_eq_self.mpr fun r hr => ?_).symm, rfl⟩
      exact decide_eq_true (hnone r hr)
    · rw [Prog.bind_run, Prog.attempt_run, statement_run, if_pos hdel]
      exact setDbRowUpdatedOnName_sameRecords env cm.domain _
  · refine .inr ⟨fun zone record hdeletes => h ⟨zone, record, hdeletes⟩, ?_⟩
    let P : ZoneWorld → Prop := fun w' => w.db.SameRecords w'.db
    refine (readOnly_cmdbCheckAddZoneId _ _ _).bind_run_snd (P := P) hsame fun zone hz => ?_
    refine (readOnly_ret _).bind_run_snd (P := P) hsame fun record hrow => ?_
    refine (readOnly_ret _).bind_run_snd (P := P) hsame fun q hq => ?_
    refine (readOnly_query _ _ _ _ _).bind_run_snd (P := P) hsame fun ids hids => ?_
    rw [Prog.ite_run]
    split_ifs
    · exact hsame
    rw [Prog.bind_run, Prog.attempt_run, statement_run]
    split_ifs with hdel
    · obtain ⟨hzq, hzone⟩ := cmdbCheckAddZoneId_ok_iff.mp hz
      obtain ⟨hsel, -⟩ := query_ok_iff.mp hids
      exact absurd ⟨zone, record, hzq, hzone, hrow, q, hq, hsel, hdel⟩ h
    · exact setDbRowUpdatedOnName_sameRecords env cm.domain w

/-- The call enters a row that names the record of that id. -/
structure EntersPref (env : ZoneEnv) (cm : DnsaCommLine) (db : ZoneDb) (id : ℕ) : Prop where
  queries : env.sql .dupIpARecord cm.dest 0 = true ∧ env.sql .fqdnPrefAOnIp cm.dest 0 = true ∧
    env.sql .fwdZoneIdOnZoneName cm.domain 0 = true ∧ env.sql .recordIdBase [] 0 = true
  duplicate : db.dupIpARecord (arg cm.dest) ≠ []
  free : db.fqdnPrefAOnIp (arg cm.dest) = []
  address : (inetPton cm.dest).isSome
  record : ∃ zone record, db.fwdZoneIds (arg cm.domain) (arg "master".toList) = [zone] ∧
    dnsaPopulateRecord cm [.number zone] = .ok record ∧ db.recordIds (record.take 4) = [id]
  insert : env.sql .insertPrefA [] 0 = true

/-- The record a marked row names is of the type and has the destination given. -/
theorem EntersPref.exists_record {id : ℕ} (h : EntersPref env cm db id) :
    ∃ r ∈ db.records, r.id = id ∧ r.type = arg cm.rtype ∧ r.destination = arg cm.dest := by
  obtain ⟨zone, record, -, hrow, hids⟩ := h.record
  obtain ⟨t, ht⟩ := prefix_base_dnsaPopulateRecord cm hrow
  have hmem : id ∈ db.recordIds (record.take 4) := hids ▸ List.mem_singleton_self id
  obtain ⟨r, hr, rfl⟩ := List.mem_map.mp hmem
  obtain ⟨hr, hmatch⟩ := List.mem_filter.mp hr
  rw [← ht] at hmatch
  have hmatch : r.zone = zone ∧ r.type = arg cm.rtype ∧ r.host = arg cm.host ∧
      r.destination = arg cm.dest := of_decide_eq_true hmatch
  exact ⟨r, hr, rfl, hmatch.2.1, hmatch.2.2.2⟩

/-- Only with one id in the list there is a row. -/
theorem prefARow_ok {dest fqdn : CStr} {ip uid : ℕ} {ids : List ℕ} {p : PreferredA}
    (hids : ¬ids.length = 0)
    (h : prefARow (cmdbPopulateCuserMuser uid (cmdbAddStringToList fqdn (cmdbAddNumberToList ip
      (cmdbAddStringToList dest []) ++ ids.map AilsaData.number))) = .ok p) :
    ∃ id, ids = [id] ∧ p = ⟨arg dest, arg fqdn, id⟩ := by
  rcases ids with _ | ⟨id, _ | ⟨id', rest⟩⟩
  · exact absurd rfl hids
  · cases h
    exact ⟨id, rfl, rfl⟩
  · cases h

/-- The row that is entered for the address. -/
theorem EntersPref.run {id : ℕ} (h : EntersPref env cm w.db id) (dc : Dc) :
    (markPreferredARecord dc env cm w).2 = ⟨w.db.insertPrefA ⟨arg cm.dest,
      arg (snprintf domainLen (cm.host ++ ".".toList ++ cm.domain)), id⟩, w.files⟩ := by
  obtain ⟨hdup, hpref, hzq, hbase⟩ := h.queries
  obtain ⟨zone, record, hzone, hrow, hids⟩ := h.record
  obtain ⟨a, ha⟩ := Option.isSome_iff_exists.mp h.address
  rw [markPreferredARecord,
    (readOnly_query _ _ _ _ _).bind_run_of_ok (query_ok_iff.mpr ⟨hdup, rfl⟩),
    if_neg (List.length_eq_zero_iff.not.mpr h.duplicate),
    (readOnly_query _ _ _ _ _).bind_run_of_ok (query_ok_iff.mpr ⟨hpref, h.free⟩),
    if_neg (by decide), ha, Option.elim_some, ret_ok_bind_run,
    (readOnly_cmdbCheckAddZoneId _ _ _).bind_run_of_ok
      (cmdbCheckAddZoneId_ok_iff.mpr ⟨hzq, hzone⟩), hrow, ret_ok_bind_run,
    (readOnly_query _ _ _ _ _).bind_run_of_ok (query_ok_iff.mpr ⟨hbase, hids⟩),
    if_neg (by simp)]
  rw [show prefARow _ = .ok _ from rfl, ret_ok_bind_run, statement_run, if_pos h.insert]

/-- Otherwise nothing changes : the function stops before the row is entered. -/
theorem markPreferredARecord_unchanged (dc : Dc) (h : ∀ id, ¬EntersPref env cm w.db id) :
    (markPreferredARecord dc env cm w).2 = w := by
  refine (readOnly_query _ _ _ _ _).bind_unchanged fun dup hdup => ?_
  rw [Prog.ite_run]
  split_ifs with hdup0
  · rfl
  refine (readOnly_query _ _ _ _ _).bind_unchanged fun pref hpref => ?_
  rw [Prog.ite_run]
  split_ifs with hpref0
  · rfl
  refine (readOnly_ret _).bind_unchanged fun a ha => ?_
  refine (readOnly_cmdbCheckAddZoneId _ _ _).bind_unchanged fun zone hz => ?_
  refine (readOnly_ret _).bind_unchanged fun record hrow => ?_
  refine (readOnly_query _ _ _ _ _).bind_unchanged fun ids hids => ?_
  rw [Prog.ite_run]
  split_ifs with hids0
  · rfl
  refine (readOnly_ret _).bind_unchanged fun p hp => ?_
  rw [statement_run]
  split_ifs with hins
  swap
  · rfl
  obtain ⟨hdupq, rfl⟩ := query_ok_iff.mp hdup
  obtain ⟨hprefq, rfl⟩ := query_ok_iff.mp hpref
  obtain ⟨hzq, hzone⟩ := cmdbCheckAddZoneId_ok_iff.mp hz
  obtain ⟨hbase, rfl⟩ := query_ok_iff.mp hids
  obtain ⟨id, hid, -⟩ := prefARow_ok hids0 hp
  refine absurd ⟨⟨hdupq, hprefq, hzq, hbase⟩, ?_, ?_, ?_, ⟨zone, record, hzone, hrow, hid⟩,
    hins⟩ (h id)
  · exact List.length_eq_zero_iff.not.mp hdup0
  · exact List.length_eq_zero_iff.mp (Nat.le_zero.mp (not_lt.mp hpref0))
  · rcases haddr : inetPton cm.dest with _ | q
    · rw [haddr] at ha
      cases ha
    · rfl

/-- A row for the address is entered, or nothing changes. -/
theorem markPreferredARecord_outcome (dc : Dc) (env : ZoneEnv) (cm : DnsaCommLine)
    (w : ZoneWorld) :
    (∃ id, EntersPref env cm w.db id ∧ (markPreferredARecord dc env cm w).2 =
      ⟨w.db.insertPrefA ⟨arg cm.dest,
        arg (snprintf domainLen (cm.host ++ ".".toList ++ cm.domain)), id⟩, w.files⟩) ∨
    (∀ id, ¬EntersPref env cm w.db id) ∧ (markPreferredARecord dc env cm w).2 = w := by
  by_cases h : ∃ id, EntersPref env cm w.db id
  · obtain ⟨id, h⟩ := h
    exact .inl ⟨id, h, h.run dc⟩
  · have hno := not_exists.mp h
    exact .inr ⟨hno, markPreferredARecord_unchanged dc hno⟩

/-! ## Histories -/

/-- The commands on `A` records and their preferred rows. -/
inductive PrefOp
  | addHost (cm : DnsaCommLine)
  | deleteRecord (cm : DnsaCommLine)
  | markPreferredA (cm : DnsaCommLine)
  | deletePreferredA (cm : DnsaCommLine)
deriving DecidableEq, Repr

/-- The world after a command, with its outcomes. -/
def PrefOp.step (dc : Dc) (w : ZoneWorld) (op : ZoneEnv × PrefOp) : ZoneWorld :=
  match op.2 with
  | addHost cm => (Cmdb.addHost dc op.1 cm w).2
  | deleteRecord cm => (Cmdb.deleteRecord op.1 cm w).2
  | markPreferredA cm => (markPreferredARecord dc op.1 cm w).2
  | deletePreferredA cm => (Cmdb.deletePreferredA op.1 cm w).2

/-- No record a row of `preferred_a` names is deleted, and the record of a new row is
looked up as an `A` record. -/
def PrefOp.KeepsNamed (w : ZoneWorld) (op : ZoneEnv × PrefOp) : Prop :=
  match op.2 with
  | deleteRecord cm => ∀ zone record, DeletesRows op.1 cm w.db zone record →
    ∀ p ∈ w.db.preferredA, ∀ r ∈ w.db.records, r.id = p.recordId → ¬matchesRow record r
  | markPreferredA cm => ∀ id, EntersPref op.1 cm w.db id → arg cm.rtype = "A".toList
  | _ => True

section Steps

variable {db' : ZoneDb}

/-- Records that come and go under the rows of `preferred_a`. -/
theorem ZoneDb.PrefOk.of_records (h : db.PrefOk) (hpref : db'.preferredA = db.preferredA)
    (hids : (db'.records.map DnsRecord.id).Nodup) (hnamed : db'.PrefNamed) : db'.PrefOk where
  ids := hids
  ips := hpref ▸ h.ips
  length_ip := hpref ▸ h.length_ip
  named := hnamed

theorem ZoneDb.PrefOk.of_sameRecords (h : db.PrefOk) (hsame : db.SameRecords db') :
    db'.PrefOk := by
  obtain ⟨hrecords, hpref⟩ := hsame
  refine h.of_records hpref (hrecords ▸ h.ids) ?_
  rw [ZoneDb.PrefNamed, hpref, hrecords]
  exact h.named

/-- A record under the next id is none the rows name. -/
theorem ZoneDb.PrefOk.append_record (h : db.PrefOk) {r : DnsRecord}
    (hid : r.id = nextId (db.records.map DnsRecord.id))
    (hrecords : db'.records = db.records ++ [r]) (hpref : db'.preferredA = db.preferredA) :
    db'.PrefOk := by
  refine h.of_records hpref ?_ ?_
  · rw [hrecords, List.map_append]
    refine h.ids.append (List.nodup_singleton _) fun i hi hi' => ?_
    exact absurd ((List.mem_singleton.mp hi').trans hid) (lt_nextId hi).ne
  · rw [ZoneDb.PrefNamed, hpref, hrecords]
    intro p hp
    obtain ⟨r', hr', hnamed⟩ := h.named p hp
    exact ⟨r', List.mem_append_left _ hr', hnamed⟩

/-- After a delete the rows still name their records iff it spared them. -/
theorem ZoneDb.PrefOk.filter_iff (h : db.PrefOk) {p : DnsRecord → Bool}
    (hrecords : db'.records = db.records.filter fun r => ¬p r)
    (hpref : db'.preferredA = db.preferredA) :
    db'.PrefNamed ↔ ∀ q ∈ db.preferredA, ∀ r ∈ db.records, r.id = q.recordId → ¬p r := by
  rw [ZoneDb.PrefNamed, hpref, hrecords]
  refine forall₂_congr fun q hq => ⟨?_, fun hspared => ?_⟩
  · rintro ⟨r', hr', hid', -⟩ r hr hid
    obtain ⟨hr', hkept⟩ := List.mem_filter.mp hr'
    obtain rfl := List.inj_on_of_nodup_map h.ids hr hr' (hid.trans hid'.symm)
    exact of_decide_eq_true hkept
  · obtain ⟨r, hr, hid, hnamed⟩ := h.named q hq
    exact ⟨r, List.mem_filter.mpr ⟨hr, decide_eq_true (hspared r hr hid)⟩, hid, hnamed⟩

/-- A row for an address without one, which names an `A` record of it. -/
theorem ZoneDb.PrefOk.insertPrefA (h : db.PrefOk) {p : PreferredA}
    (hfree : db.fqdnPrefAOnIp p.ip = []) (hlen : p.ip.length < hostLen)
    (hnamed : ∃ r ∈ db.records, r.id = p.recordId ∧ r.type = "A".toList ∧ r.destination = p.ip) :
    (db.insertPrefA p).PrefOk where
  ids := h.ids
  ips := by
    rw [ZoneDb.insertPrefA, List.map_append]
    refine h.ips.append (List.nodup_singleton _) fun ip hip hip' => ?_
    obtain ⟨q, hq, rfl⟩ := List.mem_map.mp hip
    rw [ZoneDb.fqdnPrefAOnIp, List.map_eq_nil_iff, List.filter_eq_nil_iff] at hfree
    exact hfree q hq (decide_eq_true (List.mem_singleton.mp hip'))
  length_ip := List.forall_mem_append.mpr ⟨h.length_ip, List.forall_mem_singleton.mpr hlen⟩
  named := List.forall_mem_append.mpr ⟨h.named, List.forall_mem_singleton.mpr hnamed⟩

theorem ZoneDb.PrefOk.deletePrefA (h : db.PrefOk) (ip : CStr) : (db.deletePrefA ip).PrefOk where
  ids := h.ids
  ips := h.ips.sublist (List.filter_sublist.map _)
  length_ip := fun p hp => h.length_ip p (List.mem_of_mem_filter hp)
  named := fun p hp => h.named p (List.mem_of_mem_filter hp)

end Steps

/-- A command that keeps its condition keeps the rows. -/
theorem PrefOp.step_prefOk (dc : Dc) {op : ZoneEnv × PrefOp} (h : w.db.PrefOk)
    (hop : KeepsNamed w op) : (step dc w op).db.PrefOk := by
  obtain ⟨env, cm | cm | cm | cm⟩ := op
  · obtain ⟨zone, record, r, hent, hr, hrecords, hpref⟩ | ⟨-, hsame⟩ :=
      addHost_outcome dc env cm w
    · obtain ⟨r', hr', hid, -⟩ := newRecord_populated hent.row dc.uid
        (nextId (w.db.records.map DnsRecord.id))
      obtain rfl := Option.some.inj (hr.symm.trans hr')
      exact h.append_record hid hrecords hpref
    · exact h.of_sameRecords hsame
  · obtain ⟨zone, record, hdel, hrecords, hpref⟩ | ⟨-, hsame⟩ := deleteRecord_outcome env cm w
    · refine h.of_records hpref ?_ ((h.filter_iff hrecords hpref).mpr (hop zone record hdel))
      change ((Cmdb.deleteRecord env cm w).2.db.records.map DnsRecord.id).Nodup
      rw [hrecords]
      exact h.ids.sublist (List.filter_sublist.map _)
    · exact h.of_sameRecords hsame
  · obtain ⟨id, hent, hrun⟩ | ⟨-, hrun⟩ := markPreferredARecord_outcome dc env cm w
    · obtain ⟨r, hr, hid, htype, hdest⟩ := hent.exists_record
      obtain ⟨q, hq⟩ := Option.isSome_iff_exists.mp hent.address
      have hlen : (arg cm.dest).length < hostLen := by
        rw [inetPton_eq_some_iff.mp hq]
        exact (List.length_take_le' _ _).trans_lt (q.length_text_lt.trans (by decide))
      change (markPreferredARecord dc env cm w).2.db.PrefOk
      rw [hrun]
      exact h.insertPrefA hent.free hlen ⟨r, hr, hid, htype.trans (hop id hent), hdest⟩
    · change (markPreferredARecord dc env cm w).2.db.PrefOk
      rw [hrun]
      exact h
  · change (Cmdb.deletePreferredA env cm w).2.db.PrefOk
    rw [Cmdb.deletePreferredA, statement_run]
    split_ifs
    · exact h.deletePrefA _
    · exact h

/-- The rows name their records after a command only if it meets its condition. -/
theorem PrefOp.keepsNamed_of_step (dc : Dc) {op : ZoneEnv × PrefOp} (h : w.db.PrefOk)
    (hnamed : (step dc w op).db.PrefNamed) : KeepsNamed w op := by
  obtain ⟨env, cm | cm | cm | cm⟩ := op
  · trivial
  · intro zone record hdel
    obtain ⟨zone', record', hdel', hrecords, hpref⟩ | ⟨hno, -⟩ := deleteRecord_outcome env cm w
    · obtain ⟨rfl, rfl⟩ := hdel.unique hdel'
      exact (h.filter_iff hrecords hpref).mp hnamed
    · exact absurd hdel (hno zone record)
  · intro id hent
    obtain ⟨id', hent', hrun⟩ | ⟨hno, -⟩ := markPreferredARecord_outcome dc env cm w
    · obtain ⟨r, hr, hid, htype, -⟩ := hent'.exists_record
      change (markPreferredARecord dc env cm w).2.db.PrefNamed at hnamed
      rw [hrun] at hnamed
      obtain ⟨r', hr', hid', htype', -⟩ := hnamed _ (List.mem_append_right _
        (List.mem_singleton_self _))
      obtain rfl := List.inj_on_of_nodup_map h.ids hr hr' (hid.trans hid'.symm)
      exact htype.symm.trans htype'
    · exact absurd hent (hno id)
  · trivial

theorem length_acom_le : "a.com".toList.length ≤ domainLen := by decide

/-- Two hosts of `a.com` get one address, and the first is marked as preferred. -/
def markFirst : List (ZoneEnv × PrefOp) :=
  [(noClock true, .addHost (recordCommLine "a.com" "www" "A" "10.0.2.5" length_acom_le)),
    (noClock true, .addHost (recordCommLine "a.com" "mail" "A" "10.0.2.5" length_acom_le)),
    (noClock true, .markPreferredA (recordCommLine "a.com" "www" "A" "10.0.2.5" length_acom_le))]

/-- The world after the first host is deleted again. -/
def firstDeleted : ZoneWorld :=
  History.run (PrefOp.step ⟨[], 0, fun _ _ => none⟩) parentAndChild (markFirst ++
    [(noClock true, .deleteRecord (recordCommLine "a.com" "www" "A" "" length_acom_le))])

end Cmdb
