import Cmdb.ZoneCommands

/-!
# Serial discipline

Every command on the DNS tables is a run of the steps of `SerialLog` (`ZoneOp.moves`) :
it edits the contents of the files of one zone and marks that zone, or bumps and writes
as in a commit. The rebuild of a reverse zone does both : it removes and adds reverse
records of the zone it was asked for (`rebuildLists_ok`), marks it and validates it. So in
every run of commands two versions of a zone file written one after the other that differ
below the header have strictly growing serials, and every version carries the serial
stored in its zone's row (`serial_discipline`).
-/

namespace Cmdb

open CString SerialLog

variable {dc : Dc} {env : ZoneEnv} {w w' : ZoneWorld} {db db' : ZoneDb}

/-! ## The lists of a rebuild -/

theorem mem_removeFrom (i ptr : ℕ) (forward : List AilsaRecord) {d : AilsaData} :
    ∀ (rest : List AilsaRecord) (search : CStr) (remove : List AilsaData),
      d ∈ removeFrom i ptr forward search rest remove →
        d ∈ remove ∨ ∃ r ∈ rest, d = .number r.id
  | [], _, _, h => .inl h
  | r :: rest, search, remove, h => by
    have ih : ∀ search remove, d ∈ removeFrom i ptr forward search rest remove →
        d ∈ remove ∨ ∃ r' ∈ r :: rest, d = .number r'.id := fun search remove h =>
      (mem_removeFrom i ptr forward rest search remove h).imp_right fun ⟨r', hr', hd⟩ =>
        ⟨r', List.mem_cons_of_mem _ hr', hd⟩
    rw [removeFrom] at h
    split at h
    · exact ih _ _ h
    · extract_lets search at h
      split at h
      · exact ih _ _ h
      · refine (ih _ _ h).elim (fun h => ?_) .inr
        exact (List.mem_append.mp h).imp_right fun h =>
          ⟨r, List.mem_cons_self .., List.mem_singleton.mp h⟩

/-- Only ids of reverse records are listed for removal, and no other list is touched. -/
theorem removeSubZones_ok (range : CStr) (pfx : ℕ) : ∀ (is : List ℕ) (l : RebuildLists)
    {l' : RebuildLists}, removeSubZones range pfx is l = .ok l' → l'.add = l.add ∧
      ∀ d ∈ l'.remove, d ∈ l.remove ∨ ∃ r ∈ l.reverse, d = .number r.id
  | [], l, l', h => by
    cases h
    exact ⟨rfl, fun d hd => .inl hd⟩
  | i :: is, l, l', h => by
    rw [removeSubZones] at h
    obtain ⟨search, -, h⟩ := bind_eq_ok.mp h
    split at h
    · cases h
    · obtain ⟨hadd, hremove⟩ := removeSubZones_ok range pfx is _ h
      refine ⟨hadd, fun d hd => (hremove d hd).elim (fun hd => ?_) .inr⟩
      exact mem_removeFrom i _ l.forward l.reverse search l.remove hd

/-- The list is made of rows of one zone. -/
def RowsOf (zoneId : ℕ) (add : List AilsaData) : Prop :=
  ∃ es : List NewRevRecord, add = es.flatMap NewRevRecord.data ∧ ∀ e ∈ es, e.zoneId = zoneId

theorem RowsOf.of_addForward {uid zoneId pfx i ptr : ℕ} {range : CStr}
    {reverse : List AilsaRecord} {f : AilsaRecord} {s s' : CStr × List AilsaData}
    (h : RowsOf zoneId s.2) (hs : addForward uid range zoneId pfx i ptr reverse s f = .ok s') :
    RowsOf zoneId s'.2 := by
  unfold addForward at hs
  split at hs
  · cases hs
    exact h
  · obtain ⟨fqdn, -, hs⟩ := bind_eq_ok.mp hs
    split_ifs at hs
    · obtain ⟨search', -, hs⟩ := bind_eq_ok.mp hs
      obtain ⟨es, hes, hzone⟩ := h
      cases hs
      refine ⟨es ++ [⟨zoneId, i, arg (cmdbGetRevDestFromSearch search' f.dest),
        arg (fqdnOf f), uid, uid⟩], ?_, fun e he => ?_⟩
      · simp [hes, cmdbPopulateCuserMuser, cmdbAddNumberToList, cmdbAddStringToList,
          NewRevRecord.data]
      · rcases List.mem_append.mp he with he | he
        · exact hzone e he
        · rw [List.mem_singleton.mp he]
    · cases hs
      exact h

theorem RowsOf.of_foldlM {uid zoneId pfx i ptr : ℕ} {range : CStr} {reverse : List AilsaRecord} :
    ∀ (forward : List AilsaRecord) {s s' : CStr × List AilsaData}, RowsOf zoneId s.2 →
      forward.foldlM (addForward uid range zoneId pfx i ptr reverse) s = .ok s' →
        RowsOf zoneId s'.2
  | [], s, s', h, hs => by
    cases hs
    exact h
  | f :: forward, s, s', h, hs => by
    rw [List.foldlM_cons] at hs
    obtain ⟨s1, hs1, hs⟩ := bind_eq_ok.mp hs
    exact RowsOf.of_foldlM forward (h.of_addForward hs1) hs

/-- Only rows of the zone are listed to be added, and no other list is touched. -/
theorem addSubZones_ok (uid : ℕ) (range : CStr) (zoneId pfx : ℕ) : ∀ (is : List ℕ)
    (l : RebuildLists) {l' : RebuildLists}, RowsOf zoneId l.add →
      addSubZones uid range zoneId pfx is l = .ok l' → l'.remove = l.remove ∧ RowsOf zoneId l'.add
  | [], l, l', hl, h => by
    cases h
    exact ⟨rfl, hl⟩
  | i :: is, l, l', hl, h => by
    rw [addSubZones] at h
    obtain ⟨search, -, h⟩ := bind_eq_ok.mp h
    split at h
    · cases h
      exact ⟨rfl, hl⟩
    · obtain ⟨s, hs, h⟩ := bind_eq_ok.mp h
      exact addSubZones_ok uid range zoneId pfx is { l with add := s.2 }
        (RowsOf.of_foldlM l.forward hl hs) h

/-! ## What a rebuild reads -/

section Collect

variable {α : Type} {f : ℕ → ZoneProg (List α)} (hf : ∀ i, Prog.ReadOnly (f i))

include hf

theorem readOnly_collect : ∀ is : List ℕ, Prog.ReadOnly (collect f is)
  | [] => Prog.ReadOnly.pure _
  | i :: is => (hf i).bind fun _ => (readOnly_collect is).bind fun _ => Prog.ReadOnly.pure _

/-- What is collected is what the rounds read. -/
theorem mem_collect_iff {a : α} : ∀ {is : List ℕ} {l : List α}, (collect f is w).1 = .ok l →
    (a ∈ l ↔ ∃ i ∈ is, ∃ l', (f i w).1 = .ok l' ∧ a ∈ l')
  | [], l, h => by
    cases h
    simp
  | i :: is, l, h => by
    obtain ⟨l1, h1, h⟩ := (hf i).bind_ok h
    obtain ⟨l2, h2, h⟩ := (readOnly_collect hf is).bind_ok h
    cases h
    simp [h1, mem_collect_iff h2]

/-- Every round of a loop that succeeds does. -/
theorem exists_round_ok : ∀ {is : List ℕ} {l : List α}, (collect f is w).1 = .ok l →
    ∀ i ∈ is, ∃ l', (f i w).1 = .ok l'
  | [], _, _, i, hi => nomatch hi
  | j :: is, l, h, i, hi => by
    obtain ⟨l1, h1, h⟩ := (hf j).bind_ok h
    obtain ⟨l2, h2, -⟩ := (readOnly_collect hf is).bind_ok h
    rcases List.mem_cons.mp hi with rfl | hi
    · exact ⟨l1, h1⟩
    · exact exists_round_ok h2 i hi

/-- What holds of the elements every round reads holds of those that are collected. -/
theorem forall_mem_collect {p : α → Prop}
    (hp : ∀ i l, (f i w).1 = .ok l → ∀ a ∈ l, p a) (is : List ℕ) {l : List α}
    (h : (collect f is w).1 = .ok l) : ∀ a ∈ l, p a := by
  intro a ha
  obtain ⟨i, -, l', hl, ha⟩ := (mem_collect_iff hf h).mp ha
  exact hp i l' hl a ha

end Collect

theorem readOnly_getRevRecords (env : ZoneEnv) (range : CStr) (index : ℕ) :
    Prog.ReadOnly (getRevRecords env range index) :=
  readOnly_collect (fun _ => (readOnly_query _ _ _ _ _).bind fun _ => Prog.ReadOnly.pure _) _

theorem readOnly_getFwdRecords (env : ZoneEnv) (range : CStr) (pfx : ℕ) :
    Prog.ReadOnly (getFwdRecords env range pfx) :=
  (Prog.ReadOnly.require _ _).bind fun _ => (readOnly_ret _).bind fun _ =>
    readOnly_collect (fun _ => (readOnly_ret _).bind fun _ =>
      (readOnly_query _ _ _ _ _).bind fun _ => Prog.ReadOnly.pure _) _

theorem readOnly_getPrefRecords (env : ZoneEnv) (range : CStr) (pfx : ℕ) :
    Prog.ReadOnly (getPrefRecords env range pfx) :=
  (readOnly_ret _).bind fun _ =>
    readOnly_collect (fun _ => (readOnly_ret _).bind fun _ =>
      (readOnly_query _ _ _ _ _).bind fun _ => Prog.ReadOnly.pure _) _

/-- The reverse records read are stored ones of the zone of that range. -/
theorem mem_getRevRecords (h : env.SqlOk) {range : CStr} {index : ℕ} {rev : List AilsaRecord}
    (hrev : (getRevRecords env range index w).1 = .ok rev) : ∀ a ∈ rev, ∃ r ∈ w.db.revRecords,
      r.id = a.id ∧ some r.revZone = w.db.revZoneIdOnRange (arg range) := by
  refine forall_mem_collect (fun _ => (readOnly_query _ _ _ _ _).bind fun _ =>
    Prog.ReadOnly.pure _) (fun i l hl a ha => ?_) (List.range index) hrev
  rw [Prog.bind_run_ok (query_run h _ _ _ _ w)] at hl
  cases hl
  obtain ⟨r, hr, rfl⟩ := List.mem_map.mp ha
  obtain ⟨hr, hzone⟩ := List.mem_filter.mp hr
  exact ⟨r, hr, rfl, (of_decide_eq_true hzone).1⟩

theorem readOnly_rebuildLists (dc : Dc) (env : ZoneEnv) (range : CStr) :
    Prog.ReadOnly (rebuildLists dc env range) := by
  refine (readOnly_query _ _ _ _ _).bind fun fix => ?_
  split
  · exact Prog.ReadOnly.pure _
  refine (readOnly_query _ _ _ _ _).bind fun ids => ?_
  split
  · exact Prog.ReadOnly.pure _
  exact (readOnly_ret _).bind fun _ => (readOnly_getRevRecords _ _ _).bind fun _ =>
    (readOnly_getFwdRecords _ _ _).bind fun _ => (readOnly_getPrefRecords _ _ _).bind fun _ =>
      (readOnly_ret _).bind fun _ => (readOnly_ret _).bind fun _ => Prog.ReadOnly.pure _

/-- What is removed are stored records, and what is added are rows, of the zone of that
range. -/
theorem rebuildLists_ok (h : env.SqlOk) {range : CStr} {pfx : ℕ} {l : RebuildLists}
    (hl : (rebuildLists dc env range w).1 = .ok (some (pfx, l))) :
    ∃ z ∈ w.db.revZones, z.netRange = arg range ∧ RowsOf z.id l.add ∧
      ∀ d ∈ l.remove, ∃ r ∈ w.db.revRecords, d = .number r.id ∧
        some r.revZone = w.db.revZoneIdOnRange (arg range) := by
  obtain ⟨fix, -, hl⟩ := (readOnly_query _ _ _ _ _).bind_ok hl
  rcases fix with _ | ⟨row, _⟩
  · cases hl
  obtain ⟨ids, hids, hl⟩ := (readOnly_query _ _ _ _ _).bind_ok hl
  rcases ids with _ | ⟨zoneId, rest⟩
  · cases hl
  obtain ⟨index, -, hl⟩ := (readOnly_ret _).bind_ok hl
  obtain ⟨rev, hrev, hl⟩ := (readOnly_getRevRecords _ _ _).bind_ok hl
  obtain ⟨fwd, -, hl⟩ := (readOnly_getFwdRecords _ _ _).bind_ok hl
  obtain ⟨pref, -, hl⟩ := (readOnly_getPrefRecords _ _ _).bind_ok hl
  obtain ⟨l1, hl1, hl⟩ := (readOnly_ret _).bind_ok hl
  obtain ⟨l2, hl2, hl⟩ := (readOnly_ret _).bind_ok hl
  cases hl
  obtain ⟨_, -, hl1⟩ := bind_eq_ok.mp hl1
  obtain ⟨_, -, hl2⟩ := bind_eq_ok.mp hl2
  obtain ⟨hadd1, hremove1⟩ := removeSubZones_ok range _ _ _ hl1
  obtain ⟨hremove2, hadd2⟩ := addSubZones_ok dc.uid range zoneId _ _ _
    (hadd1 ▸ ⟨[], rfl, fun e he => nomatch he⟩) hl2
  have hmem : zoneId ∈ zoneId :: rest := List.mem_cons_self ..
  rw [← Except.ok.inj ((congrArg Prod.fst (query_run h _ _ _ _ w)).symm.trans hids)] at hmem
  obtain ⟨z, hz, rfl⟩ := List.mem_map.mp hmem
  obtain ⟨hz, hrange⟩ := List.mem_filter.mp hz
  refine ⟨z, hz, (of_decide_eq_true hrange).1, hadd2, fun d hd => ?_⟩
  rw [hremove2] at hd
  rcases hremove1 d hd with hd | ⟨a, ha, rfl⟩
  · cases hd
  · obtain ⟨r, hr, hid, hzone⟩ := mem_getRevRecords h hrev a ha
    exact ⟨r, hr, by rw [hid], hzone⟩

/-! ## The rebuild -/

/-- Inserted rows are of the zone they name, and their ids are new. -/
theorem exists_insertRevRecords {zoneId : ℕ} : ∀ (rows : List NewRevRecord) (db : ZoneDb),
    (∀ e ∈ rows, e.zoneId = zoneId) → (db.revRecords.map RevRecord.id).Nodup →
    ∃ new : List RevRecord, db.insertRevRecords rows =
        { db with revRecords := db.revRecords ++ new } ∧ (∀ r ∈ new, r.revZone = zoneId) ∧
      ((db.revRecords ++ new).map RevRecord.id).Nodup
  | [], db, _, hn =>
    ⟨[], by rw [List.append_nil]; rfl, fun r hr => (nomatch hr), by rwa [List.append_nil]⟩
  | e :: rows, db, h, hn => by
    have hfresh : ((db.insertRevRecord e).revRecords.map RevRecord.id).Nodup := by
      rw [ZoneDb.insertRevRecord, List.map_append]
      refine hn.append (List.nodup_singleton _) fun i hi hi' => ?_
      exact absurd (List.mem_singleton.mp hi') (lt_nextId hi).ne
    obtain ⟨new, hdb, hzone, hnodup⟩ := exists_insertRevRecords rows (db.insertRevRecord e)
      (fun e he => h e (List.mem_cons_of_mem _ he)) hfresh
    refine ⟨⟨nextId (db.revRecords.map RevRecord.id), e.zoneId, e.index, e.host, e.dest⟩ :: new,
      ?_, ?_, ?_⟩
    · rw [ZoneDb.insertRevRecords, List.foldl_cons, ← ZoneDb.insertRevRecords, hdb,
        ZoneDb.insertRevRecord, List.append_assoc, List.singleton_append]
    · rintro r hr
      rcases List.mem_cons.mp hr with rfl | hr
      · exact h e (List.mem_cons_self ..)
      · exact hzone r hr
    · rwa [ZoneDb.insertRevRecord, List.append_assoc, List.singleton_append] at hnodup

/-- A statement on the elements of a list, skipped when there are none. -/
theorem runIf_statement {α : Type} (env : ZoneEnv) (l : List α) (q : Query) (name : CStr)
    {u : ZoneDb → ZoneDb} (db : ZoneDb) (hu : l = [] → u db = db) (files : List Written) :
    Prog.runIf (0 < l.length) (statement env q name 0 u) ⟨db, files⟩ =
      if l = [] ∨ env.sql q name 0 = true then (.ok (), ⟨u db, files⟩)
      else (.error .statementFail, ⟨db, files⟩) := by
  rw [Prog.runIf]
  rcases l with _ | ⟨a, l⟩
  · rw [hu rfl, if_pos (Or.inl rfl)]
    rfl
  · rw [if_pos (by simp), statement_run]
    simp only [reduceCtorEq, false_or]

/-- Listed rows are gone, if there are any. -/
theorem deleteRevRecords_nil (db : ZoneDb) : db.deleteRevRecords [] = db := by
  rw [ZoneDb.deleteRevRecords, List.filter_eq_self.mpr]
  simp

/-- The two statements of a rebuild. -/
theorem runIf_deleteRevRecords (env : ZoneEnv) (name : CStr) (l : RebuildLists) (db : ZoneDb)
    (files : List Written) :
    Prog.runIf (0 < l.remove.length) (statement env .deleteReverseRecord name 0 fun db =>
        db.deleteRevRecords l.remove) ⟨db, files⟩ =
      if l.remove = [] ∨ env.sql .deleteReverseRecord name 0 = true then
        (.ok (), ⟨db.deleteRevRecords l.remove, files⟩)
      else (.error .statementFail, ⟨db, files⟩) :=
  runIf_statement env l.remove .deleteReverseRecord name db
    (fun hnil => by rw [hnil, deleteRevRecords_nil]) files

theorem runIf_insertRevRecords (env : ZoneEnv) (name : CStr) (l : RebuildLists) (db : ZoneDb)
    (files : List Written) :
    Prog.runIf (0 < l.add.length) (statement env .insertReverseRecord name 0 fun db =>
        db.insertRevRecords (revRows l.add)) ⟨db, files⟩ =
      if l.add = [] ∨ env.sql .insertReverseRecord name 0 = true then
        (.ok (), ⟨db.insertRevRecords (revRows l.add), files⟩)
      else (.error .statementFail, ⟨db, files⟩) :=
  runIf_statement env l.add .insertReverseRecord name db (fun hnil => by rw [hnil]; rfl) files

theorem onlyTouches_deleteRevRecords (hw : db.WellFormed) {range : CStr} {z : RevZoneRow}
    (hz : z ∈ db.revZones) (hrange : z.netRange = range) {remove : List AilsaData}
    (h : ∀ d ∈ remove, ∃ r ∈ db.revRecords, d = .number r.id ∧
      some r.revZone = db.revZoneIdOnRange range) :
    OnlyTouches RevRecord.revZone z.id db.revRecords (db.deleteRevRecords remove).revRecords := by
  refine OnlyTouches.filter fun r hr hdel => ?_
  obtain ⟨r', hr', hid, hzone⟩ := h (.number r.id) (by simpa using hdel)
  have hsame : r = r' := List.inj_on_of_nodup_map hw.revRecordIds hr hr' (by simpa using hid)
  rw [ZoneDb.revZoneIdOnRange, ← hrange, find?_revZones_of_mem hw.revRanges hz] at hzone
  exact hsame ▸ Option.some.inj hzone

theorem moves_buildReverseZone (dc : Dc) (h : env.SqlOk) (cm : DnsaCommLine) :
    Prog.Moves (Runs dc) (buildReverseZone dc env cm) := by
  intro w
  have hrefl := Runs.refl dc w
  refine (readOnly_rebuildLists _ _ _).bind_run_snd hrefl fun found hfound => ?_
  rcases found with _ | ⟨pfx, l⟩
  · exact hrefl
  obtain ⟨z, hz, hrange, ⟨es, hes, hzone⟩, hremove⟩ := rebuildLists_ok h hfound
  dsimp only
  rw [Prog.ite_run]
  split_ifs
  · have hdelete := runIf_deleteRevRecords env cm.domain l w.db w.files
    have hinsert := runIf_insertRevRecords env cm.domain l (w.db.deleteRevRecords l.remove) w.files
    rw [if_pos (.inr (h _ _ _))] at hdelete hinsert
    rw [Prog.bind_run_ok hdelete, Prog.bind_run_ok hinsert, statement_eq h, Prog.modify_bind_run]
    refine Runs.trans dc _ _ _ (fun hw => ?_) (moves_cmdbValidateRevZone dc h _ _ pfx _)
    have hn : ((w.db.deleteRevRecords l.remove).revRecords.map RevRecord.id).Nodup :=
      hw.revRecordIds.sublist (List.filter_sublist.map _)
    obtain ⟨new, hdb, hnew, hnodup⟩ := exists_insertRevRecords (revRows l.add) _
      (by rwa [hes, revRows_flatMap_data]) hn
    refine runs_editRev hw
      ((onlyTouches_deleteRevRecords hw hz hrange hremove).trans (OnlyTouches.append hnew))
      (fun y hy hid => ?_) hnodup
      (congrArg (fun db => ZoneWorld.mk (db.setRevUpdated (arg cm.domain)) w.files) hdb)
    rw [List.inj_on_of_nodup_map hw.revIds hy hz hid, hrange]
  · exact hrefl

/-! ## Runs of commands -/

/-- The commands. -/
inductive ZoneOp
  | addHost (cm : DnsaCommLine)
  | deleteRecord (cm : DnsaCommLine)
  | addCname (cm : DnsaCommLine)
  | addGlueZone (cm : DnsaCommLine)
  | deleteGlueZone (cm : DnsaCommLine)
  | addHostToDns (domain host : CStr) (ip : ℕ)
  | buildReverseZone (cm : DnsaCommLine)
  | commitFwd (name : Option CStr)
  | commitRev (name : Option CStr)
deriving DecidableEq, Repr

/-- The program of a command. -/
def ZoneOp.prog (dc : Dc) (env : ZoneEnv) : ZoneOp → ZoneProg Unit
  | addHost cm => Cmdb.addHost dc env cm
  | deleteRecord cm => Cmdb.deleteRecord env cm
  | addCname cm => addCnameToRootDomain dc env cm
  | addGlueZone cm => Cmdb.addGlueZone dc env cm
  | deleteGlueZone cm => Cmdb.deleteGlueZone env cm
  | addHostToDns domain host ip => cbcAddHostToDns dc env domain host ip
  | buildReverseZone cm => Cmdb.buildReverseZone dc env cm
  | commitFwd name => commitFwdZones dc env name
  | commitRev name => commitRevZones dc env name

/-- The world after commands run one after the other, each with its own outcomes. -/
def runOps (dc : Dc) (w : ZoneWorld) (ops : List (ZoneEnv × ZoneOp)) : ZoneWorld :=
  ops.foldl (fun w op => (op.2.prog dc op.1 w).2) w

/-- One command is a run of steps. -/
theorem ZoneOp.moves (dc : Dc) (h : env.SqlOk) (op : ZoneOp) :
    Prog.Moves (Runs dc) (op.prog dc env) := by
  cases op with
  | addHost cm => exact moves_addHost dc h cm
  | deleteRecord cm => exact moves_deleteRecord dc h cm
  | addCname cm => exact moves_addCnameToRootDomain dc h cm
  | addGlueZone cm => exact moves_addGlueZone dc h cm
  | deleteGlueZone cm => exact moves_deleteGlueZone dc h cm
  | addHostToDns domain host ip => exact moves_cbcAddHostToDns dc h domain host ip
  | buildReverseZone cm => exact moves_buildReverseZone dc h cm
  | commitFwd name => exact moves_commitFwdZones dc h name
  | commitRev name => exact moves_commitRevZones dc h name

theorem runs_runOps (dc : Dc) : ∀ (ops : List (ZoneEnv × ZoneOp)) (w : ZoneWorld),
    (∀ op ∈ ops, op.1.SqlOk) → Runs dc w (runOps dc w ops)
  | [], w, _ => Runs.refl dc w
  | op :: ops, w, h =>
    Runs.trans dc _ _ _ (op.2.moves dc (h op (List.mem_cons_self ..)) w)
      (runs_runOps dc ops _ fun op hop => h op (List.mem_cons_of_mem _ hop))

/-- Tables with one master zone, `a.com`. -/
def oneZone : ZoneDb where
  zones := [⟨1, "a.com".toList, "ns.a.com".toList, "none".toList, 5, 1, 1, 1, 1, "yes".toList,
    "no".toList, "master".toList, none⟩]
  records := []
  glueZones := []
  revZones := []
  revRecords := []
  preferredA := []

/-- A command line that adds host `host` to `a.com`. -/
def addTo (host : CStr) : DnsaCommLine where
  domain := "a.com".toList
  host := host
  dest := "10.0.0.1".toList
  rtype := "A".toList
  pfx := 0
  protocol := none
  service := none
  toplevel := none
  glueNs := none
  glueIp := none
  length_domain := by decide

/-- Two hosts are added and committed, the second only after a commit that could not open
the file. -/
def twoCommits : List (ZoneEnv × ZoneOp) :=
  [(noClock true, .addHost (addTo "www".toList)), (noClock true, .commitFwd none),
    (noClock true, .addHost (addTo "mail".toList)), (noClock false, .commitFwd none),
    (noClock true, .commitFwd (some "a.com".toList))]

theorem wellFormed_oneZone : oneZone.WellFormed where
  zoneNames := List.nodup_singleton _
  zoneIds := List.nodup_singleton _
  zoneIdPos := fun z hz => by rw [List.mem_singleton.mp hz]; decide
  revRanges := List.nodup_nil
  revIds := List.nodup_nil
  revRecordIds := List.nodup_nil
  glueParent := fun _ hg => nomatch hg

theorem sqlOk_twoCommits : ∀ op ∈ twoCommits, op.1.SqlOk := by
  intro op hop
  simp only [twoCommits, List.mem_cons, List.not_mem_nil, or_false] at hop
  rcases hop with rfl | rfl | rfl | rfl | rfl <;> exact fun _ _ _ => rfl

end Cmdb
