import Cmdb.CommitFailures

/-!
# Adding a forward zone

`add_forward_zone` enters the row of the zone, and then writes the zone file and the
configuration. A later call for the zone looks at the row alone. So a call either leaves
everything as it is, or it enters a row and goes on from there
(`addForwardZone_outcome`), and calls for one master zone are safe to repeat as long as
none stops between the insert and the end of the configuration
(`addForwardZone_retry_safe`).
-/

namespace Cmdb

open CString

variable {dc : DnsaCmdb} {env : DnsEnv} {domain : CStr} {type master : Option CStr} {w : DnsWorld}

/-! ## The row -/

/-- A zone of that name and type is stored. -/
def ZoneDb.HasZone (db : ZoneDb) (name type : CStr) : Prop :=
  ∃ z ∈ db.zones, z.name = name ∧ z.type = type

instance (db : ZoneDb) (name type : CStr) : Decidable (db.HasZone name type) :=
  inferInstanceAs (Decidable (∃ z ∈ db.zones, z.name = name ∧ z.type = type))

/-- The tables after the insert of `add_forward_zone`. -/
def ZoneDb.entered (db : ZoneDb) (slave : Bool) (zone : List AilsaData) : ZoneDb :=
  if slave then db.insertForwardSlaveZone zone else db.insertForwardZone zone

/-- The statement of the insert. -/
def insertFwdQuery (slave : Bool) : Query :=
  if slave then .insertForwardSlaveZone else .insertForwardZone

theorem insertFwdZone_run (env : ZoneEnv) (domain : CStr) (slave : Bool) (zone : List AilsaData)
    (w : ZoneWorld) : insertFwdZone env domain slave zone w =
      if env.sql (insertFwdQuery slave) domain 0 then
        (.ok (), { w with db := w.db.entered slave zone })
      else (.error .statementFail, w) := by
  cases slave
  · exact statement_run env .insertForwardZone domain 0 (fun db => db.insertForwardZone zone) w
  · exact statement_run env .insertForwardSlaveZone domain 0
      (fun db => db.insertForwardSlaveZone zone) w

theorem cmdbCheckForFwdZone_run (env : ZoneEnv) (zone : CStr) (type : Option CStr)
    (w : ZoneWorld) : cmdbCheckForFwdZone env zone type w =
      if env.sql .fwdZoneIdOnZoneName zone 0 then
        (.ok (w.db.fwdZoneIds (arg zone) (arg (type.getD "master".toList))).length, w)
      else (.error .minusOne, w) := by
  rw [cmdbCheckForFwdZone, Prog.bind_run, Prog.attempt_run]
  by_cases hsql : env.sql .fwdZoneIdOnZoneName zone 0 = true
  · rw [if_pos hsql, query_run_of_true hsql]
    rfl
  · rw [if_neg hsql, query_run_of_false hsql]
    rfl

theorem onZones_cmdbCheckForFwdZone_run (env : ZoneEnv) (zone : CStr) (type : Option CStr)
    (w : DnsWorld) : onZones (cmdbCheckForFwdZone env zone type) w =
      if env.sql .fwdZoneIdOnZoneName zone 0 then
        (.ok (w.zone.db.fwdZoneIds (arg zone) (arg (type.getD "master".toList))).length, w)
      else (.error .minusOne, w) := by
  rw [onZones, Prog.zoom_run, cmdbCheckForFwdZone_run]
  split_ifs <;> rfl

theorem onZones_insertFwdZone_run (env : ZoneEnv) (domain : CStr) (slave : Bool)
    (zone : List AilsaData) (w : DnsWorld) : onZones (insertFwdZone env domain slave zone) w =
      if env.sql (insertFwdQuery slave) domain 0 then
        (.ok (), { w with zone := { w.zone with db := w.zone.db.entered slave zone } })
      else (.error .statementFail, w) := by
  rw [onZones, Prog.zoom_run, insertFwdZone_run]
  split_ifs <;> rfl

theorem length_fwdZoneIds_pos_iff {db : ZoneDb} {name type : CStr} :
    0 < (db.fwdZoneIds name type).length ↔ db.HasZone name type := by
  rw [ZoneDb.fwdZoneIds, List.length_map, List.length_filter_pos_iff, ZoneDb.HasZone]
  simp only [decide_eq_true_eq]

/-- The type of the row : the one given only if a master is given too. -/
def enteredType : Option CStr → Option CStr → CStr
  | some type, some _ => arg type
  | _, _ => "master".toList

/-- The list of a zone without a master behind the type is one of a master zone. -/
theorem dnsaPopulateZone_ok {cbs : AilsaCmdb} {clock : Option Tm} {zone : List AilsaData}
    (h : dnsaPopulateZone cbs clock domain type master = .ok zone) {slave : Bool}
    (hslave : ¬(slave = true ∧ master = none)) (db : ZoneDb) :
    ∃ z, db.entered slave zone = { db with zones := db.zones ++ [z] } ∧ z.name = arg domain ∧
      z.type = enteredType type master ∧ z.updated = "yes".toList := by
  obtain ⟨list, hpri, h⟩ := bind_eq_ok.mp h
  rcases hp : cbs.prins with _ | pri
  · rw [hp] at hpri
    cases hpri
  rw [hp] at hpri
  cases hpri
  rcases master with _ | m
  · cases slave
    · cases h
      exact ⟨_, rfl, rfl, by cases type <;> rfl, rfl⟩
    · exact absurd ⟨rfl, rfl⟩ hslave
  · rcases type with _ | t
    · cases h
    · cases h
      cases slave <;> exact ⟨_, rfl, rfl, rfl, rfl⟩

/-- The call enters a row. -/
structure EntersZone (dc : DnsaCmdb) (env : DnsEnv) (domain : CStr) (type master : Option CStr)
    (db : ZoneDb) (zone : List AilsaData) : Prop where
  given : ¬(type.any isSlave = true ∧ master = none)
  query : env.sql .fwdZoneIdOnZoneName domain 0 = true
  new : ¬db.HasZone (arg domain) (arg (type.getD "master".toList))
  row : dnsaPopulateZone dc.toAilsaCmdb (env.clock (.fwd domain)) domain type master = .ok zone
  insert : env.sql (insertFwdQuery (type.any isSlave)) domain 0 = true

/-- What follows the insert. -/
def afterInsert (dc : DnsaCmdb) (env : DnsEnv) (domain : CStr) (type : Option CStr) :
    DnsProg Unit := do
  onZones (cmdbValidateFwdZone dc.toDc env.toZoneEnv domain (type.getD "master".toList))
  cmdbWriteFwdZoneConfig dc env
  reloadNameServer env

/-- A row is entered; or everything is left as it is, and if the call returns 0 the zone is
stored. -/
theorem addForwardZone_outcome (dc : DnsaCmdb) (env : DnsEnv) (domain : CStr)
    (type master : Option CStr) (w : DnsWorld) :
    (∃ zone, EntersZone dc env domain type master w.zone.db zone ∧
      addForwardZone dc env domain type master w = afterInsert dc env domain type
        { w with zone := { w.zone with db := w.zone.db.entered (type.any isSlave) zone } }) ∨
    (∀ zone, ¬EntersZone dc env domain type master w.zone.db zone) ∧
      ∃ r, addForwardZone dc env domain type master w = (r, w) ∧ (r = .ok () →
        w.zone.db.HasZone (arg domain) (arg (type.getD "master".toList))) := by
  rw [addForwardZone]
  dsimp only
  by_cases hmaster : ¬(type.any isSlave = true ∧ master = none)
  swap
  · exact .inr ⟨fun _ h => hmaster h.given, _, Prog.bind_run_error (by
      rw [Prog.require_run, if_neg fun h => hmaster (of_decide_eq_true h)]) _, nofun⟩
  rw [Prog.bind_run_ok (by rw [Prog.require_run, if_pos (decide_eq_true hmaster)])]
  have hcheck := onZones_cmdbCheckForFwdZone_run env.toZoneEnv domain type w
  by_cases hsql : env.sql .fwdZoneIdOnZoneName domain 0 = true
  swap
  · rw [if_neg hsql] at hcheck
    exact .inr ⟨fun _ h => hsql h.query, _, Prog.bind_run_error hcheck _, nofun⟩
  rw [if_pos hsql] at hcheck
  rw [Prog.bind_run_ok hcheck, Prog.ite_run]
  by_cases hpos : 0 < (w.zone.db.fwdZoneIds (arg domain)
      (arg (type.getD "master".toList))).length
  · rw [if_pos hpos]
    have hstored := length_fwdZoneIds_pos_iff.mp hpos
    exact .inr ⟨fun _ h => h.new hstored, _, rfl, fun _ => hstored⟩
  rw [if_neg hpos]
  rcases hrow : dnsaPopulateZone dc.toAilsaCmdb (env.clock (.fwd domain)) domain type master
    with e | zone
  · exact .inr ⟨fun _ h => (nomatch hrow.symm.trans h.row), .error e, rfl, nofun⟩
  rw [Prog.bind_run_ok (show (Prog.reads fun _ => .ok zone : DnsProg _) w = (.ok zone, w) from rfl)]
  have hinsert := onZones_insertFwdZone_run env.toZoneEnv domain (type.any isSlave) zone w
  by_cases hins : env.sql (insertFwdQuery (type.any isSlave)) domain 0 = true
  · rw [if_pos hins] at hinsert
    rw [Prog.bind_run_ok hinsert]
    exact .inl ⟨zone, ⟨hmaster, hsql, mt length_fwdZoneIds_pos_iff.mpr hpos, hrow, hins⟩, rfl⟩
  · rw [if_neg hins] at hinsert
    exact .inr ⟨fun _ h => hins h.insert, _, Prog.bind_run_error hinsert _, nofun⟩

/-! ## From the insert to the end of the configuration -/

/-- The verdict on the file of a master zone, as it is stored. -/
def fileVerdict (env : ZoneEnv) (zone : CStr) : CStr :=
  if env.chkz (.fwd zone) then "yes".toList else "no".toList

/-- From the tables after the insert, the file of a master zone is written, its verdict
stored, and the configuration written to the end. -/
structure AddFinishes (env : DnsEnv) (domain : CStr) (db : ZoneDb) : Prop where
  writable : FwdWritable env.toZoneEnv domain db
  validate : env.sql .fwdZoneValidate domain 0 = true
  conf : env.confOpen .fwd = true
  config : env.sql .fwdZoneConfig [] 0 = true
  lookups : ¬∃ p ∈ (db.setFwdValid (arg domain)
    (fileVerdict env.toZoneEnv domain)).fwdZoneConfig.zipIdx, LookupFails env.toZoneEnv p

theorem lookupFails_zipIdx_served (env : ZoneEnv) (l : List Zone) :
    (∃ p ∈ (l.map Zone.served).zipIdx, LookupFails env p) ↔ ∃ p ∈ l.zipIdx, LookupFails env p := by
  rw [List.zipIdx_map]
  simp only [List.mem_map, exists_exists_and_eq_and]
  rfl

theorem setFwdValid_served {db db' : ZoneDb} (name valid : CStr)
    (h : db'.zones.map Zone.served = db.zones.map Zone.served) :
    (db'.setFwdValid name valid).zones.map Zone.served =
      (db.setFwdValid name valid).zones.map Zone.served := by
  have hcomm : ∀ l : List Zone, (l.map fun z : Zone =>
      if z.name = name then { z with valid := valid } else z).map Zone.served =
        (l.map Zone.served).map fun z : Zone =>
          if z.name = name then { z with valid := valid } else z := by
    intro l
    rw [List.map_map, List.map_map]
    refine List.map_congr_left fun z _ => ?_
    rw [Function.comp_apply, Function.comp_apply]
    by_cases hz : z.name = name
    · rw [if_pos hz, if_pos (show z.served.name = name from hz)]
      rfl
    · rw [if_neg hz, if_neg (show ¬z.served.name = name from hz)]
  rw [ZoneDb.setFwdValid, hcomm, h, ← hcomm, ZoneDb.setFwdValid]

/-- The zone is added since `w₀` : its row is there, its file is on record, and the
configuration was written to the end, from the rows that are there. -/
structure Added (dc : DnsaCmdb) (domain : CStr) (w₀ w : DnsWorld) : Prop where
  row : w.zone.db.HasZone (arg domain) "master".toList
  file : Wrote w₀.zone w.zone (.fwd domain)
  config : w₀.fwd.writes < w.fwd.writes
  lines : ∃ env : ZoneEnv, w.fwd.lines = fwdLines dc.dir env w.zone.db.fwdZoneConfig.zipIdx

theorem hasZone_of_sameFwdRows {w w' : ZoneWorld} (h : SameFwdRows w w') {name type : CStr}
    (hz : w.db.HasZone name type) : w'.db.HasZone name type := by
  obtain ⟨z, hz, hname, htype⟩ := hz
  obtain ⟨z', hz', hkept⟩ := h.exists_mem hz
  exact ⟨z', hz', (congrArg Zone.name hkept :).trans hname,
    (congrArg Zone.type hkept :).trans htype⟩

/-- When nothing fails up to the end of the configuration, the zone is added, whatever
the reload returns. -/
theorem afterInsert_added (dc : DnsaCmdb) (type : Option CStr)
    (hs : ¬isSlave (type.getD "master".toList) = true)
    (h : AddFinishes env domain w.zone.db)
    (hrow : w.zone.db.HasZone (arg domain) "master".toList) :
    Added dc domain w (afterInsert dc env domain type w).2 := by
  obtain ⟨-, db', v, hserial, hfile, -, hrun⟩ | ⟨hno, -⟩ :=
    writeFwdZoneFile_run dc.toDc env.toZoneEnv domain w.zone
  swap
  · exact absurd h.writable hno
  have hvalid : cmdbValidateFwdZone dc.toDc env.toZoneEnv domain (type.getD "master".toList)
      w.zone = (.ok (), ⟨db'.setFwdValid (arg domain) (fileVerdict env.toZoneEnv domain),
        v :: w.zone.files⟩) := by
    rw [cmdbValidateFwdZone, if_neg hs, Prog.bind_run_ok hrun, statement_run, if_pos h.validate,
      fileVerdict]
  have hsame := (fwdSteps_sameFwdRows env.toZoneEnv domain).moves_cmdbValidateFwdZone dc.toDc
    (type.getD "master".toList) w.zone
  rw [hvalid] at hsame
  have hlookups : ¬∃ p ∈ (db'.setFwdValid (arg domain)
      (fileVerdict env.toZoneEnv domain)).fwdZoneConfig.zipIdx, LookupFails env.toZoneEnv p := by
    rw [ZoneDb.fwdZoneConfig, ← lookupFails_zipIdx_served, filter_valid_served
      (setFwdValid_served _ _ hserial.zones_served), lookupFails_zipIdx_served]
    exact h.lookups
  have hconf := cmdbWriteFwdZoneConfig_run dc env { w with zone :=
    ⟨db'.setFwdValid (arg domain) (fileVerdict env.toZoneEnv domain), v :: w.zone.files⟩ }
  rw [if_pos h.conf, if_pos h.config] at hconf
  dsimp only at hconf
  rw [if_neg hlookups] at hconf
  rw [afterInsert, Prog.bind_run_ok (by rw [onZones, Prog.zoom_run, hvalid]),
    Prog.bind_run_ok hconf, reloadNameServer_snd]
  exact ⟨hasZone_of_sameFwdRows hsame hrow, ⟨[v], rfl, v, List.mem_singleton_self v, hfile⟩,
    Nat.lt_succ_self _, env.toZoneEnv, rfl⟩

/-! ## Calls for one master zone -/

/-- A call that adds a zone as a master, with its outcomes. -/
structure AddCall where
  env : DnsEnv
  type : Option CStr
  master : Option CStr
  type_master : type.getD "master".toList = "master".toList

/-- The program of a call. -/
def AddCall.run (dc : DnsaCmdb) (domain : CStr) (c : AddCall) : DnsProg Unit :=
  addForwardZone dc c.env domain c.type c.master

/-- The world after calls for a zone, one after the other. -/
def runAdds (dc : DnsaCmdb) (domain : CStr) (w : DnsWorld) (calls : List AddCall) : DnsWorld :=
  calls.foldl (fun w c => (c.run dc domain w).2) w

/-- If the call enters the row, it does not fail before the configuration is written. -/
def AddCall.Completes (dc : DnsaCmdb) (domain : CStr) (c : AddCall) (w : DnsWorld) : Prop :=
  ∀ zone, EntersZone dc c.env domain c.type c.master w.zone.db zone →
    AddFinishes c.env domain (w.zone.db.entered false zone)

/-- No call of the run stops between the insert and the end of the configuration. -/
def AllComplete (dc : DnsaCmdb) (domain : CStr) : DnsWorld → List AddCall → Prop
  | _, [] => True
  | w, c :: calls => c.Completes dc domain w ∧ AllComplete dc domain (c.run dc domain w).2 calls

theorem AddCall.type_eq (c : AddCall) : c.type = none ∨ c.type = some "master".toList := by
  have hmaster := c.type_master
  rcases h : c.type with _ | t
  · exact .inl rfl
  · rw [h] at hmaster
    exact .inr (congrArg some hmaster)

theorem AddCall.any_isSlave (c : AddCall) : c.type.any isSlave = false := by
  rcases c.type_eq with h | h <;> rw [h] <;> decide

theorem AddCall.arg_type (c : AddCall) :
    arg (c.type.getD "master".toList) = "master".toList := by
  rw [c.type_master]
  rfl

theorem AddCall.enteredType (c : AddCall) : enteredType c.type c.master = "master".toList := by
  rcases c.type_eq with h | h <;> rw [h] <;> cases c.master <;> rfl

/-- Where the zone is stored, a call changes nothing. -/
theorem AddCall.run_of_hasZone (c : AddCall)
    (h : w.zone.db.HasZone (arg domain) "master".toList) : (c.run dc domain w).2 = w := by
  obtain ⟨zone, henters, -⟩ | ⟨-, r, hrun, -⟩ :=
    addForwardZone_outcome dc c.env domain c.type c.master w
  · have hnew := henters.new
    rw [c.arg_type] at hnew
    exact absurd h hnew
  · rw [AddCall.run, hrun]

/-- Where it is not, a call that completes changes nothing and fails, or adds it. -/
theorem AddCall.run_of_not_hasZone (c : AddCall) (hc : c.Completes dc domain w)
    (h : ¬w.zone.db.HasZone (arg domain) "master".toList) :
    ((c.run dc domain w).2 = w ∧ (c.run dc domain w).1 ≠ .ok ()) ∨
      Added dc domain w (c.run dc domain w).2 := by
  obtain ⟨zone, henters, hrun⟩ | ⟨-, r, hrun, hr⟩ :=
    addForwardZone_outcome dc c.env domain c.type c.master w
  · rw [c.any_isSlave] at hrun
    rw [AddCall.run, hrun]
    obtain ⟨z, hdb, hname, htype, -⟩ :=
      dnsaPopulateZone_ok henters.row (fun h : false = true ∧ _ => nomatch h.1) w.zone.db
    have hs : ¬isSlave (c.type.getD "master".toList) = true := isSlave_master c.type_master
    have hmem : z ∈ (w.zone.db.entered false zone).zones := by
      rw [hdb]
      exact List.mem_append_right _ (List.mem_singleton_self z)
    obtain ⟨hrow, hfile, hconfig, hlines⟩ := afterInsert_added dc c.type hs
      (w := { w with zone := { w.zone with db := w.zone.db.entered false zone } })
      (hc zone henters) ⟨z, hmem, hname, htype.trans c.enteredType⟩
    exact .inr ⟨hrow, hfile, hconfig, hlines⟩
  · rw [c.arg_type] at hr
    rw [AddCall.run, hrun]
    exact .inl ⟨rfl, fun hok => h (hr hok)⟩

/-- Before the row is entered the calls change nothing, and then the zone is added. -/
theorem runAdds_cases (dc : DnsaCmdb) (domain : CStr) {w₀ : DnsWorld}
    (hnew : ¬w₀.zone.db.HasZone (arg domain) "master".toList) : ∀ (calls : List AddCall)
    (w : DnsWorld), AllComplete dc domain w calls → w = w₀ ∨ Added dc domain w₀ w →
      runAdds dc domain w calls = w₀ ∨ Added dc domain w₀ (runAdds dc domain w calls)
  | [], _, _, hw => hw
  | c :: calls, w, ⟨hc, hcalls⟩, hw => by
    have hstep : (c.run dc domain w).2 = w₀ ∨ Added dc domain w₀ (c.run dc domain w).2 := by
      rcases hw with rfl | hw
      · obtain ⟨hsame, -⟩ | hadded := c.run_of_not_hasZone hc hnew
        · exact .inl hsame
        · exact .inr hadded
      · rw [c.run_of_hasZone hw.row]
        exact .inr hw
    exact runAdds_cases dc domain hnew calls _ hcalls hstep

theorem allComplete_append {dc : DnsaCmdb} {domain : CStr} : ∀ {calls calls' : List AddCall}
    {w : DnsWorld}, AllComplete dc domain w (calls ++ calls') → AllComplete dc domain w calls
  | [], _, _, _ => trivial
  | _ :: _, _, _, ⟨hc, hcalls⟩ => ⟨hc, allComplete_append hcalls⟩

/-- In a run of calls for one master zone, none of which stops between its insert and the
end of the configuration, a call returns 0 only if the zone is added, since each earlier
state without its row. -/
theorem addForwardZone_retry_safe (dc : DnsaCmdb) (domain : CStr) (w₀ : DnsWorld)
    (calls : List AddCall) (c : AddCall)
    (hnew : ¬w₀.zone.db.HasZone (arg domain) "master".toList)
    (hcalls : AllComplete dc domain w₀ calls)
    (hc : c.Completes dc domain (runAdds dc domain w₀ calls))
    (hok : (c.run dc domain (runAdds dc domain w₀ calls)).1 = .ok ()) :
    ∀ pre, pre <+: calls → ¬(runAdds dc domain w₀ pre).zone.db.HasZone (arg domain)
      "master".toList → Added dc domain (runAdds dc domain w₀ pre)
        (c.run dc domain (runAdds dc domain w₀ calls)).2 := by
  rintro pre ⟨post, rfl⟩ hpre
  obtain hstart | hadded :=
    runAdds_cases dc domain hnew pre w₀ (allComplete_append hcalls) (.inl rfl)
  swap
  · exact absurd hadded.row hpre
  rw [hstart]
  obtain hsame | hadded := runAdds_cases dc domain hnew (pre ++ post) w₀ hcalls (.inl rfl)
  · rw [hsame] at hc hok ⊢
    obtain ⟨-, hfail⟩ | hadded := c.run_of_not_hasZone hc hnew
    · exact absurd hok hfail
    · exact hadded
  · rw [c.run_of_hasZone hadded.row]
    exact hadded

/-- A call with outcomes. -/
def callWith (env : DnsEnv) : AddCall := ⟨env, none, none, rfl⟩

/-- The insert fails. -/
def noInsert : DnsEnv :=
  ⟨{ noClock true with sql := fun q _ _ => decide (q ≠ .insertForwardZone) }, fun _ => true, true⟩

/-- After a call whose insert failed, the next adds the zone. -/
theorem addForwardZone_retry_safe_noInsert :
    Added testCmdb "a.com".toList emptyDns ((callWith smooth).run testCmdb "a.com".toList
      (runAdds testCmdb "a.com".toList emptyDns [callWith noInsert])).2 := by
  have hstart : runAdds testCmdb "a.com".toList emptyDns [callWith noInsert] = emptyDns := by
    decide +kernel
  refine addForwardZone_retry_safe testCmdb "a.com".toList emptyDns [callWith noInsert]
    (callWith smooth) (by decide) ⟨fun zone h => ?_, trivial⟩ ?_ (by decide +kernel) []
    (List.nil_prefix) (by decide)
  · cases h.insert
  · rw [hstart]
    intro zone h
    cases h.row
    exact ⟨⟨rfl, rfl, ⟨_, rfl, fun _ => rfl⟩, rfl, rfl, rfl, rfl⟩, rfl, rfl, rfl, by decide +kernel⟩

/-- After a call that could not open the zone file, the next returns 0 : neither file nor
configuration are written. -/
theorem addForwardZone_not_retry_safe :
    let w := runAdds testCmdb "a.com".toList emptyDns [callWith opensFail]
    let w' := ((callWith smooth).run testCmdb "a.com".toList w).2
    ((callWith smooth).run testCmdb "a.com".toList w).1 = .ok () ∧
      ¬Wrote emptyDns.zone w'.zone (.fwd "a.com".toList) ∧ w'.fwd = emptyDns.fwd := by
  refine ⟨by decide +kernel, ?_, by decide +kernel⟩
  rintro ⟨new, hnew, v, hv, -⟩
  have hfiles : ((callWith smooth).run testCmdb "a.com".toList
      (runAdds testCmdb "a.com".toList emptyDns [callWith opensFail])).2.zone.files = [] := by
    decide +kernel
  rw [hfiles] at hnew
  rw [(List.append_eq_nil_iff.mp hnew.symm).1] at hv
  cases hv

end Cmdb
