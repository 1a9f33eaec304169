import Cmdb.ZoneCommits

/-!
# Commands as steps

Adding and deleting records, the `CNAME` in the parent domain, glue zones and the `A`
record of a build are edits : each reads the id of a zone of `zones`
(`exists_zone_of_check`), changes rows whose data list starts with that id
(`onlyTouches_insertRecord`, `onlyTouches_deleteRecords`, `exists_insertGlue`), and marks
the row of that id or of its name. A deleted glue zone is marked by the entry read before
the delete, which is enough because entries of one name are below one zone
(`ZoneDb.WellFormed.glue_unique`).
-/

namespace Cmdb

open CString SerialLog

variable {dc : Dc} {env : ZoneEnv} {w w' : ZoneWorld} {db db' : ZoneDb}

/-! ## Looking up a zone -/

theorem readOnly_cmdbCheckAddZoneId (env : ZoneEnv) (zone ztype : CStr) :
    Prog.ReadOnly (cmdbCheckAddZoneId env zone ztype) := by
  refine (readOnly_query _ _ _ _ _).bind fun ids => ?_
  split
  · exact Prog.ReadOnly.pure _
  · exact Prog.ReadOnly.fail _

theorem cmdbCheckAddZoneId_ok_iff {zone ztype : CStr} {id : ℕ} :
    (cmdbCheckAddZoneId env zone ztype w).1 = .ok id ↔
      env.sql .fwdZoneIdOnZoneName zone 0 = true ∧
        w.db.fwdZoneIds (arg zone) (arg ztype) = [id] := by
  rw [cmdbCheckAddZoneId]
  constructor
  · intro h
    obtain ⟨ids, hids, h⟩ := (readOnly_query _ _ _ _ _).bind_ok h
    obtain ⟨hq, hids⟩ := query_ok_iff.mp hids
    rcases ids with _ | ⟨id', _ | _⟩
    · cases h
    · cases h
      exact ⟨hq, hids⟩
    · cases h
  · rintro ⟨hq, hids⟩
    rw [(readOnly_query _ _ _ _ _).bind_run_of_ok (query_ok_iff.mpr ⟨hq, hids⟩)]
    rfl

theorem cmdbCheckAddZoneId_eq_ok (h : env.SqlOk) {zone ztype : CStr} {id : ℕ} :
    (cmdbCheckAddZoneId env zone ztype w).1 = .ok id ↔
      w.db.fwdZoneIds (arg zone) (arg ztype) = [id] := by
  rw [cmdbCheckAddZoneId_ok_iff, h]
  exact ⟨And.right, fun hid => ⟨rfl, hid⟩⟩

/-- The id found is that of a row of that name. -/
theorem exists_zone_of_check (h : env.SqlOk) {zone ztype : CStr} {id : ℕ}
    (hid : (cmdbCheckAddZoneId env zone ztype w).1 = .ok id) :
    ∃ z ∈ w.db.zones, z.id = id ∧ z.name = arg zone := by
  have hmem : id ∈ w.db.fwdZoneIds (arg zone) (arg ztype) := by
    rw [(cmdbCheckAddZoneId_eq_ok h).mp hid]
    exact List.mem_singleton_self id
  obtain ⟨z, hz, hzid⟩ := List.mem_map.mp hmem
  obtain ⟨hz, hname⟩ := List.mem_filter.mp hz
  exact ⟨z, hz, hzid, (of_decide_eq_true hname).1⟩

theorem ZoneDb.WellFormed.zone_unique (hw : db.WellFormed) {z y : Zone} (hz : z ∈ db.zones)
    (hy : y ∈ db.zones) (h : z.id = y.id) : z = y :=
  List.inj_on_of_nodup_map hw.zoneIds hz hy h

/-! ## Data lists of a zone -/

section DataLists

variable {pre list : List AilsaData} {k : ℕ}

theorem prefix_cmdbAddStringToList (h : pre <+: list) (s : CStr) :
    pre <+: cmdbAddStringToList s list := h.trans (List.prefix_append ..)

theorem prefix_cmdbAddNumberToList (h : pre <+: list) (n : ℕ) :
    pre <+: cmdbAddNumberToList n list := h.trans (List.prefix_append ..)

theorem prefix_cmdbPopulateCuserMuser (h : pre <+: list) (uid : ℕ) :
    pre <+: cmdbPopulateCuserMuser uid list :=
  prefix_cmdbAddNumberToList (prefix_cmdbAddNumberToList h uid) uid

theorem prefix_addStringToList (h : pre <+: list) {s : Option CStr} {list' : List AilsaData}
    (hs : addStringToList s list = .ok list') : pre <+: list' := by
  cases s with
  | none => cases hs
  | some s =>
    cases hs
    exact prefix_cmdbAddStringToList h s

/-- A populated list goes on after type, host and destination. -/
theorem prefix_base_dnsaPopulateRecord (cm : DnsaCommLine) {list' : List AilsaData}
    (hs : dnsaPopulateRecord cm list = .ok list') : cmdbAddStringToList cm.dest
      (cmdbAddStringToList cm.host (cmdbAddStringToList cm.rtype list)) <+: list' := by
  have hbase := List.prefix_refl (cmdbAddStringToList cm.dest
    (cmdbAddStringToList cm.host (cmdbAddStringToList cm.rtype list)))
  unfold dnsaPopulateRecord at hs
  extract_lets list1 list2 at hs
  have h2 : list1 <+: list2 := by
    dsimp only [list2]
    split_ifs
    · exact prefix_cmdbAddNumberToList hbase cm.pfx
    · exact hbase
  split_ifs at hs
  · obtain ⟨list3, h3, hs⟩ := bind_eq_ok.mp hs
    exact prefix_addStringToList (prefix_addStringToList h2 h3) hs
  · exact Except.ok.inj hs ▸ h2

theorem prefix_dnsaPopulateRecord (cm : DnsaCommLine) (h : pre <+: list)
    {list' : List AilsaData} (hs : dnsaPopulateRecord cm list = .ok list') : pre <+: list' :=
  (prefix_cmdbAddStringToList (prefix_cmdbAddStringToList
    (prefix_cmdbAddStringToList h cm.rtype) cm.host) cm.dest).trans
    (prefix_base_dnsaPopulateRecord cm hs)

theorem prefix_deleteRecordList (cm : DnsaCommLine) (id : ℕ) {list' : List AilsaData}
    (hs : deleteRecordList cm id = .ok list') : [.number id] <+: list' := by
  have hbase := prefix_cmdbAddStringToList (prefix_cmdbAddStringToList
    (List.prefix_refl [AilsaData.number id]) cm.rtype) cm.host
  unfold deleteRecordList at hs
  extract_lets list1 list2 at hs
  have h2 : [.number id] <+: list2 := by
    dsimp only [list2]
    split_ifs
    · exact prefix_cmdbAddNumberToList hbase cm.pfx
    · exact hbase
  split at hs
  · exact prefix_addStringToList (prefix_cmdbAddStringToList h2 _) hs
  · exact Except.ok.inj hs ▸ h2

theorem matchesRow_zone (h : [.number k] <+: list) {r : DnsRecord}
    (hr : matchesRow list r = true) : r.zone = k := by
  obtain ⟨t, rfl⟩ := h
  rw [List.singleton_append] at hr
  unfold matchesRow at hr
  split at hr <;> simp_all

theorem newRecord_zone (h : [.number k] <+: list) {id : ℕ} {r : DnsRecord}
    (hr : newRecord id list = some r) : r.zone = k := by
  obtain ⟨t, rfl⟩ := h
  rw [List.singleton_append] at hr
  unfold newRecord at hr
  split at hr <;> simp_all <;> rw [← hr]

/-- An inserted record is one of the zone its list starts with. -/
theorem onlyTouches_insertRecord (h : [.number k] <+: list) (db : ZoneDb) :
    OnlyTouches DnsRecord.zone k db.records (db.insertRecord list).records :=
  OnlyTouches.append fun _ hr => newRecord_zone h (Option.mem_toList.mp hr)

/-- A deleted record is one of the zone its list starts with. -/
theorem onlyTouches_deleteRecords (h : [.number k] <+: list) (db : ZoneDb) :
    OnlyTouches DnsRecord.zone k db.records (db.deleteRecords list).records := by
  refine OnlyTouches.filter fun r _ hr => matchesRow_zone h ?_
  simpa using hr

end DataLists

/-! ## Commands on records -/

theorem readOnly_cmdbCheckForFwdRecord (env : ZoneEnv) (record : List AilsaData) :
    Prog.ReadOnly (cmdbCheckForFwdRecord env record) :=
  (readOnly_ret _).bind fun _ => (readOnly_query _ _ _ _ _).bind fun _ => Prog.ReadOnly.pure _

/-- A query picked by the length of its list is there, and succeeds. -/
def QueryOk (env : ZoneEnv) (q : Except AilsaError Query) : Prop :=
  ∃ q', q = .ok q' ∧ env.sql q' [] 0 = true

theorem cmdbCheckForFwdRecord_ok_iff {record : List AilsaData} {n : ℕ} :
    (cmdbCheckForFwdRecord env record w).1 = .ok n ↔
      QueryOk env (fwdRecordQuery record.length) ∧ (w.db.recordIds record).length = n := by
  rw [cmdbCheckForFwdRecord]
  constructor
  · intro h
    obtain ⟨q, hq, h⟩ := (readOnly_ret _).bind_ok h
    obtain ⟨l, hl, h⟩ := (readOnly_query _ _ _ _ _).bind_ok h
    obtain ⟨hsql, rfl⟩ := query_ok_iff.mp hl
    exact ⟨⟨q, hq, hsql⟩, Except.ok.inj h⟩
  · rintro ⟨⟨q, hq, hsql⟩, hn⟩
    rw [hq, ret_ok_bind_run,
      (readOnly_query _ _ _ _ _).bind_run_of_ok (query_ok_iff.mpr ⟨hsql, rfl⟩)]
    exact congrArg Except.ok hn

theorem cmdbCheckForFwdRecord_base_iff {record : List AilsaData} {n : ℕ}
    (hlen : record.length = 4) : (cmdbCheckForFwdRecord env record w).1 = .ok n ↔
      env.sql .recordIdBase [] 0 = true ∧ (w.db.recordIds record).length = n := by
  rw [cmdbCheckForFwdRecord_ok_iff, hlen]
  refine and_congr_left fun _ => ⟨?_, fun h => ⟨_, rfl, h⟩⟩
  rintro ⟨q, hq, h⟩
  cases hq
  exact h

/-- A command that goes on with the zone of a name. -/
theorem runs_of_zone_check (dc : Dc) (h : env.SqlOk) {zone ztype : CStr} {f : ℕ → ZoneProg Unit}
    (hf : ∀ z ∈ w.db.zones, z.name = arg zone → Runs dc w (f z.id w).2) :
    Runs dc w ((cmdbCheckAddZoneId env zone ztype >>= f) w).2 := by
  refine (readOnly_cmdbCheckAddZoneId _ _ _).bind_run_snd (Runs.refl dc w) fun id hid => ?_
  obtain ⟨z, hz, rfl, hname⟩ := exists_zone_of_check h hid
  exact hf z hz hname

theorem moves_addHost (dc : Dc) (h : env.SqlOk) (cm : DnsaCommLine) :
    Prog.Moves (Runs dc) (addHost dc env cm) := by
  intro w
  have hrefl := Runs.refl dc w
  refine runs_of_zone_check dc h fun z hz hname => ?_
  refine (readOnly_ret _).bind_run_snd hrefl fun record hrec => ?_
  refine (readOnly_cmdbCheckForFwdRecord _ _).bind_run_snd hrefl fun n _ => ?_
  rw [Prog.ite_run]
  split_ifs with hn
  · exact hrefl
  refine (readOnly_ret _).bind_run_snd hrefl fun q _ => ?_
  rw [statement_eq h, setDbRowUpdatedOnName, statement_eq h]
  intro hw
  have hpre := prefix_dnsaPopulateRecord cm (List.prefix_refl _) hrec
  exact runs_editFwd (·.name = arg cm.domain) hw
    (onlyTouches_insertRecord (prefix_cmdbPopulateCuserMuser hpre dc.uid) w.db)
    (OnlyTouches.refl _ _ _) (fun y hy hid => hw.zone_unique hy hz hid ▸ hname) hw.glueParent rfl

theorem moves_deleteRecord (dc : Dc) (h : env.SqlOk) (cm : DnsaCommLine) :
    Prog.Moves (Runs dc) (deleteRecord env cm) := by
  intro w
  have hrefl := Runs.refl dc w
  refine runs_of_zone_check dc h fun z hz hname => ?_
  refine (readOnly_ret _).bind_run_snd hrefl fun record hrec => ?_
  refine (readOnly_ret _).bind_run_snd hrefl fun q _ => ?_
  refine (readOnly_query _ _ _ _ _).bind_run_snd hrefl fun list _ => ?_
  rw [Prog.ite_run]
  split_ifs
  · exact hrefl
  rw [statement_eq h, setDbRowUpdatedOnName, statement_eq h]
  intro hw
  exact runs_editFwd (·.name = arg cm.domain) hw
    (onlyTouches_deleteRecords (prefix_deleteRecordList cm z.id hrec) w.db)
    (OnlyTouches.refl _ _ _) (fun y hy hid => hw.zone_unique hy hz hid ▸ hname) hw.glueParent rfl

/-- The top level zone is looked up like any other. -/
theorem toplevelId_cases (env : ZoneEnv) (domain : CStr) (top : Option CStr) :
    toplevelId env domain top = Prog.fail .noTopLevelDomain ∨
      ∃ zone, toplevelId env domain top = cmdbCheckAddZoneId env zone "master".toList := by
  unfold toplevelId
  split
  · exact .inr ⟨_, rfl⟩
  · split
    · exact .inr ⟨_, rfl⟩
    · exact .inl rfl

theorem readOnly_toplevelId (env : ZoneEnv) (domain : CStr) (top : Option CStr) :
    Prog.ReadOnly (toplevelId env domain top) := by
  rcases toplevelId_cases env domain top with heq | ⟨zone, heq⟩
  · exact heq ▸ Prog.ReadOnly.fail _
  · exact heq ▸ readOnly_cmdbCheckAddZoneId _ _ _

theorem exists_zone_of_toplevelId (h : env.SqlOk) {domain : CStr} {top : Option CStr} {id : ℕ}
    (hid : (toplevelId env domain top w).1 = .ok id) : ∃ z ∈ w.db.zones, z.id = id := by
  rcases toplevelId_cases env domain top with heq | ⟨zone, heq⟩
  · rw [heq] at hid
    cases hid
  · rw [heq] at hid
    obtain ⟨z, hz, hzid, -⟩ := exists_zone_of_check h hid
    exact ⟨z, hz, hzid⟩

theorem readOnly_checkForZonesAndHosts (env : ZoneEnv) (dom : CStr) (top : Option CStr)
    (host : CStr) : Prog.ReadOnly (checkForZonesAndHosts env dom top host) :=
  (readOnly_cmdbCheckAddZoneId _ _ _).bind fun _ => (readOnly_toplevelId _ _ _).bind fun _ =>
    (readOnly_query _ _ _ _ _).bind fun _ => (Prog.ReadOnly.require _ _).bind fun _ =>
      (readOnly_query _ _ _ _ _).bind fun _ => Prog.ReadOnly.require _ _

/-- Marking the zone of an id that is not `0`. -/
theorem setDbRowUpdated_eq (h : env.SqlOk) {id : ℕ} (hid : id ≠ 0) : setDbRowUpdated env id =
    Prog.modify fun w => { w with db := w.db.setFwdUpdated id } := by
  rw [setDbRowUpdated, statement_eq h, decide_eq_true hid, Prog.require_true]
  rfl

theorem moves_addCnameToRootDomain (dc : Dc) (h : env.SqlOk) (cm : DnsaCommLine) :
    Prog.Moves (Runs dc) (addCnameToRootDomain dc env cm) := by
  intro w
  have hrefl := Runs.refl dc w
  refine (readOnly_checkForZonesAndHosts _ _ _ _).bind_run_snd hrefl fun _ _ => ?_
  refine (readOnly_toplevelId _ _ _).bind_run_snd hrefl fun id hid => ?_
  obtain ⟨z, hz, rfl⟩ := exists_zone_of_toplevelId h hid
  intro hw
  rw [statement_eq h, setDbRowUpdated_eq h (hw.zoneIdPos z hz)]
  refine runs_editFwd (·.id = z.id) hw (onlyTouches_insertRecord (k := z.id) ?_ w.db)
    (OnlyTouches.refl _ _ _) (fun _ _ hid => hid) hw.glueParent rfl
  exact ⟨_, rfl⟩

/-! ## Commands on glue zones -/

section GlueLists

variable {pre list list' : List AilsaData}

theorem prefix_dnsaSplitGlueNs (h : pre <+: list) {ns : Option CStr}
    (hs : dnsaSplitGlueNs ns list = .ok list') : pre <+: list' := by
  unfold dnsaSplitGlueNs at hs
  split at hs
  · cases hs
  · extract_lets tmp at hs
    split at hs <;> cases hs <;>
      exact prefix_cmdbAddStringToList (prefix_cmdbAddStringToList h _) _

theorem prefix_dnsaSplitGlueIp (h : pre <+: list) (ip : CStr) :
    pre <+: dnsaSplitGlueIp ip list := by
  unfold dnsaSplitGlueIp
  extract_lets tmp
  split <;> exact prefix_cmdbAddStringToList (prefix_cmdbAddStringToList h _) _

theorem prefix_dnsaGetIpForGlueNs (h : pre <+: list) {ip : Option CStr}
    (hs : dnsaGetIpForGlueNs env ip list = .ok list') : pre <+: list' := by
  unfold dnsaGetIpForGlueNs at hs
  split at hs
  · cases hs
    exact prefix_dnsaSplitGlueIp h _
  · split at hs
    · obtain ⟨a, -, hs⟩ := bind_eq_ok.mp hs
      have h1 := prefix_cmdbAddStringToList h a.ip
      split_ifs at hs
      · exact Except.ok.inj hs ▸ prefix_cmdbAddStringToList h1 _
      · obtain ⟨a', -, hs⟩ := bind_eq_ok.mp hs
        exact Except.ok.inj hs ▸ prefix_cmdbAddStringToList h1 _
    · cases hs

/-- The row of a glue zone starts with the id of the parent and the name. -/
theorem prefix_glueList {cm : DnsaCommLine} {id : ℕ} (hs : glueList dc env cm id = .ok list') :
    [.number id, .text (arg cm.domain)] <+: list' := by
  obtain ⟨l1, h1, hs⟩ := bind_eq_ok.mp hs
  obtain ⟨l2, h2, hs⟩ := bind_eq_ok.mp hs
  exact Except.ok.inj hs ▸ prefix_cmdbPopulateCuserMuser (prefix_dnsaGetIpForGlueNs
    (prefix_dnsaSplitGlueNs (List.prefix_refl _) h1) h2) _

end GlueLists

/-- An inserted glue entry has the parent and the name its list starts with. -/
theorem exists_insertGlue (db : ZoneDb) {id : ℕ} {name : CStr} {list : List AilsaData}
    (h : [.number id, .text name] <+: list) : ∃ new : List GlueZone,
      db.insertGlue list = { db with glueZones := db.glueZones ++ new } ∧
        ∀ g ∈ new, g.zoneId = id ∧ g.name = name := by
  obtain ⟨t, rfl⟩ := h
  rw [List.cons_append, List.singleton_append]
  unfold ZoneDb.insertGlue
  split
  next priNs secNs priDns secDns _ _ heq =>
    cases heq
    exact ⟨[_], rfl, fun g hg => by rw [List.mem_singleton.mp hg]; exact ⟨rfl, rfl⟩⟩
  next => exact ⟨[], by rw [List.append_nil], fun g hg => nomatch hg⟩

theorem moves_addGlueZone (dc : Dc) (h : env.SqlOk) (cm : DnsaCommLine) :
    Prog.Moves (Runs dc) (addGlueZone dc env cm) := by
  unfold addGlueZone
  split
  · exact Runs.refl dc
  next parent hparent =>
  intro w
  have hrefl := Runs.refl dc w
  refine runs_of_zone_check dc h fun z hz hname => ?_
  refine (readOnly_ret _).bind_run_snd hrefl fun list hlist => ?_
  rw [statement_eq h, setDbRowUpdatedOnName, statement_eq h]
  intro hw
  obtain ⟨new, hdb, hnew⟩ := exists_insertGlue w.db (prefix_glueList hlist)
  have hpl : parent.length ≤ configLen := by
    obtain ⟨p, -, rfl⟩ := Option.map_eq_some_iff.mp hparent
    rw [List.length_drop]
    exact (Nat.sub_le ..).trans cm.length_domain
  refine runs_editFwd (·.name = arg parent) hw (OnlyTouches.refl _ _ _)
    (OnlyTouches.append fun g hg => (hnew g hg).1)
    (fun y hy hid => hw.zone_unique hy hz hid ▸ hname) (fun g hg => ?_)
    (congrArg (fun db => ZoneWorld.mk (db.setFwdUpdatedOnName (arg parent)) w.files) hdb)
  rcases List.mem_append.mp hg with hg | hg
  · exact hw.glueParent g hg
  · obtain ⟨hgid, hgname⟩ := hnew g hg
    refine ⟨z, hz, hgid.symm, ?_⟩
    rw [hgname, arg_of_length_le cm.length_domain, hparent, hname, arg_of_length_le hpl]

/-- Glue entries of one name are below one zone. -/
theorem ZoneDb.WellFormed.glue_unique (hw : db.WellFormed) {g g' : GlueZone}
    (hg : g ∈ db.glueZones) (hg' : g' ∈ db.glueZones) (h : g.name = g'.name) :
    g.zoneId = g'.zoneId := by
  obtain ⟨z, hz, hid, hname⟩ := hw.glueParent g hg
  obtain ⟨z', hz', hid', hname'⟩ := hw.glueParent g' hg'
  rw [h, hname'] at hname
  rw [← hid, ← hid', List.inj_on_of_nodup_map hw.zoneNames hz' hz (Option.some.inj hname)]

theorem moves_deleteGlueZone (dc : Dc) (h : env.SqlOk) (cm : DnsaCommLine) :
    Prog.Moves (Runs dc) (deleteGlueZone env cm) := by
  intro w
  refine (readOnly_query _ _ _ _ _).bind_run_snd (Runs.refl dc w) fun i hi => ?_
  rw [query_run h] at hi
  cases hi
  rw [statement_eq h, Prog.modify_bind_run]
  intro hw
  rcases hf : w.db.glueZones.filter (·.name = arg cm.domain) with _ | ⟨g, rest⟩
  · -- nothing is deleted, and nothing marked
    have hdb : w.db.deleteGlue (arg cm.domain) = w.db := by
      rw [ZoneDb.deleteGlue, List.filter_eq_self.mpr]
      intro g hg
      simpa using List.filter_eq_nil_iff.mp hf g hg
    rw [hf, hdb]
    exact ⟨hw, .refl⟩
  · have hmem : g ∈ w.db.glueZones.filter (·.name = arg cm.domain) := by
      rw [hf]
      exact List.mem_cons_self ..
    obtain ⟨hg, hname⟩ := List.mem_filter.mp hmem
    obtain ⟨z, hz, hid, -⟩ := hw.glueParent g hg
    rw [hf, List.map_cons]
    dsimp only
    rw [setDbRowUpdated_eq h (hid ▸ hw.zoneIdPos z hz)]
    refine runs_editFwd (·.id = g.zoneId) hw (OnlyTouches.refl _ _ _)
      (OnlyTouches.filter fun g' hg' hdel => ?_) (fun _ _ hid => hid)
      (fun g' hg' => hw.glueParent g' (List.mem_of_mem_filter hg')) rfl
    exact hw.glue_unique hg' hg (by simpa [of_decide_eq_true hname] using hdel)

/-! ## The `A` record of a build -/

theorem moves_cbcAddHostToDns (dc : Dc) (h : env.SqlOk) (domain host : CStr) (ip : ℕ) :
    Prog.Moves (Runs dc) (cbcAddHostToDns dc env domain host ip) := by
  intro w
  have hrefl := Runs.refl dc w
  refine (Prog.ReadOnly.require _ _).bind_run_snd hrefl fun _ _ => ?_
  refine (readOnly_cmdbCheckAddZoneId _ _ _).bind_run_snd hrefl fun id hid => ?_
  obtain ⟨z, hz, rfl, -⟩ := exists_zone_of_check h hid
  refine (readOnly_cmdbCheckForFwdRecord _ _).bind_run_snd hrefl fun n _ => ?_
  rw [Prog.ite_run]
  split_ifs
  · exact hrefl
  rw [statement_eq h, Prog.modify_bind_run]
  -- the records are not what the second look reads
  have hids := (cmdbCheckAddZoneId_eq_ok h).mp hid
  have hagain : ∀ record, (cmdbCheckAddZoneId env domain "master".toList
      ⟨w.db.insertRecord record, w.files⟩).1 = .ok z.id := fun _ =>
    (cmdbCheckAddZoneId_eq_ok h).mpr hids
  rw [(readOnly_cmdbCheckAddZoneId _ _ _).bind_run_of_ok (hagain _), statement_eq h]
  intro hw
  refine runs_editFwd (·.id = z.id) hw (onlyTouches_insertRecord (k := z.id) ?_ w.db)
    (OnlyTouches.refl _ _ _) (fun _ _ hid => hid) hw.glueParent rfl
  exact ⟨_, rfl⟩

end Cmdb
