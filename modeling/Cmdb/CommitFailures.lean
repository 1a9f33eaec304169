import Cmdb.ServedZones

/-!
# Which files a commit of all zones writes

The result of a validation is overwritten by that of the next zone, of the configuration
and of the reload, so a commit of all zones can return 0 although the file of a zone was
not written. A validation changes the mark of its own zone only, and clears it only where
the serial could be updated, so each zone is validated as in the state before the commit
(`fwdValidated_files`, `revValidated_files`). `commit_writes_all_iff` says when all files
are written.
-/

namespace Cmdb

open CString

variable {env : ZoneEnv} {zone : CStr} {db db' : ZoneDb}

/-! ## Files put on record -/

/-- The file is put on record between the two states. -/
def Wrote (w w' : ZoneWorld) (f : ZoneFile) : Prop :=
  ∃ new, w'.files = new ++ w.files ∧ ∃ v ∈ new, v.file = f

theorem Puts.wrote_iff {fs : List ZoneFile} {w w' : ZoneWorld} (h : Puts fs w w') (f : ZoneFile) :
    Wrote w w' f ↔ f ∈ fs := by
  obtain ⟨new, hfiles, hnew⟩ := h
  have hmem : f ∈ fs ↔ ∃ v ∈ new, v.file = f := by
    rw [← List.mem_reverse, ← hnew, List.mem_map]
  rw [hmem]
  constructor
  · rintro ⟨new', hfiles', hv⟩
    rw [hfiles, List.append_left_inj] at hfiles'
    rwa [hfiles']
  · exact fun hv => ⟨new, hfiles, hv⟩

/-- A step for each item, where no step changes what the others put on record. -/
theorem foldl_puts {α : Type} (step : α → ZoneWorld → ZoneWorld)
    (P : α → ZoneWorld → ZoneFile → Prop)
    (hputs : ∀ a w, ∃ fs, Puts fs w (step a w) ∧ ∀ f, f ∈ fs ↔ P a w f) : ∀ (l : List α)
    (w : ZoneWorld), (∀ a ∈ l, ∀ b ∈ l, ∀ w f, P b (step a w) f ↔ P b w f) →
      ∃ fs, Puts fs w (l.foldl (fun w a => step a w) w) ∧ ∀ f, f ∈ fs ↔ ∃ a ∈ l, P a w f
  | [], w, _ => ⟨[], Puts.refl w, by simp⟩
  | a :: l, w, hsame => by
    obtain ⟨fs, hfs, hmem⟩ := hputs a w
    obtain ⟨fs', hfs', hmem'⟩ := foldl_puts step P hputs l (step a w) fun a ha b hb =>
      hsame a (List.mem_cons_of_mem _ ha) b (List.mem_cons_of_mem _ hb)
    refine ⟨fs ++ fs', hfs.trans hfs', fun f => ?_⟩
    rw [List.mem_append, hmem, hmem', List.exists_mem_cons_iff]
    refine or_congr_right (exists_congr fun b => and_congr_right fun hb => ?_)
    exact hsame a (List.mem_cons_self ..) b (List.mem_cons_of_mem _ hb) w f

/-! ## Stored names -/

/-- Names and ranges are stored as they were bound. -/
structure ZoneDb.NamesFit (db : ZoneDb) : Prop where
  fwd : ∀ z ∈ db.zones, z.name.length ≤ configLen
  rev : ∀ z ∈ db.revZones, z.netRange.length ≤ configLen

/-! ## Forward zones -/

/-- The mark of the row that is read for a name. -/
def ZoneDb.fwdMark (db : ZoneDb) (name : CStr) : Option CStr :=
  (db.zones.find? (·.name = name)).map Zone.updated

theorem fwdRowOk_iff : FwdRowOk env zone db ↔ ∃ u, db.fwdMark (arg zone) = some u ∧
    (u = "yes".toList → env.sql .fwdZoneSerialUpdate zone 0 = true) := by
  constructor
  · rintro ⟨e, he, h⟩
    exact ⟨e.updated, by rw [ZoneDb.fwdMark, he, Option.map_some], h⟩
  · rintro ⟨u, hu, h⟩
    obtain ⟨e, he, rfl⟩ := Option.map_eq_some_iff.mp hu
    exact ⟨e, he, h⟩

theorem fwdMark_mapZones {g : Zone → Zone} (hg : KeepsZone g) (db : ZoneDb) (name : CStr) :
    (db.mapZones g).fwdMark name =
      (db.zones.find? (·.name = name)).map fun z => (g z).updated := by
  rw [ZoneDb.fwdMark, find?_mapZones hg, Option.map_map]
  rfl

theorem fwdMark_setFwdValid (db : ZoneDb) (name valid n : CStr) :
    (db.setFwdValid n valid).fwdMark name = db.fwdMark name := by
  have hkeep : KeepsZone fun z => if z.name = n then { z with valid := valid } else z :=
    keepsZone_ite fun _ => ⟨rfl, rfl⟩
  refine (fwdMark_mapZones hkeep db name).trans ?_
  refine Option.map_congr fun z _ => ?_
  split_ifs <;> rfl

theorem fwdMark_setFwdSerial (db : ZoneDb) (name n : CStr) (serial : ℕ) :
    (db.setFwdSerial n serial).fwdMark name =
      if name = n then (db.fwdMark name).map fun _ => "no".toList else db.fwdMark name := by
  have hkeep : KeepsZone fun z =>
      if z.name = n then { z with serial := serial, updated := "no".toList } else z :=
    keepsZone_ite fun _ => ⟨rfl, rfl⟩
  refine (fwdMark_mapZones hkeep db name).trans ?_
  rw [ZoneDb.fwdMark, Option.map_map]
  split_ifs with hn
  · refine Option.map_congr fun z hz => ?_
    rw [if_pos ((name_of_find? hz).trans hn)]
    rfl
  · refine Option.map_congr fun z hz => ?_
    rw [if_neg ((name_of_find? hz).trans_ne hn)]

/-- The rows allow what they allowed before. -/
def SameFwdOk (env : ZoneEnv) (w w' : ZoneWorld) : Prop :=
  ∀ name : CStr, name.length ≤ configLen → (FwdRowOk env name w'.db ↔ FwdRowOk env name w.db)

/-- A mark is cleared only where the serial can be updated. -/
theorem fwdSteps_sameFwdOk (env : ZoneEnv) (hfit : zone.length ≤ configLen) :
    FwdSteps env zone (SameFwdOk env) where
  refl _ _ _ := .rfl
  trans _ _ _ h h' name hname := (h' name hname).trans (h name hname)
  serial w e he hu hsql name hname := by
    simp only [fwdRowOk_iff, fwdMark_setFwdSerial, arg_of_length_le hname, arg_of_length_le hfit]
    rw [arg_of_length_le hfit] at he
    split_ifs with hn
    · subst hn
      rw [ZoneDb.fwdMark, he, Option.map_some, Option.map_some]
      refine iff_of_true ⟨_, rfl, fun h => absurd h (by decide)⟩ ⟨_, rfl, fun _ => hsql⟩
    · rfl
  file _ _ _ _ := .rfl
  valid w valid name _ := by
    rw [fwdRowOk_iff, fwdRowOk_iff, fwdMark_setFwdValid]

theorem fwdWritable_congr (h : FwdRowOk env zone db' ↔ FwdRowOk env zone db) :
    FwdWritable env zone db' ↔ FwdWritable env zone db :=
  ⟨fun hw => { hw with row := h.mp hw.row }, fun hw => { hw with row := h.mpr hw.row }⟩

/-- The file a validation of a forward zone puts on record. -/
theorem cmdbValidateFwdZone_files (dc : Dc) (env : ZoneEnv) (zone ztype : CStr) (w : ZoneWorld) :
    ∃ fs, Puts fs w (cmdbValidateFwdZone dc env zone ztype w).2 ∧
      ∀ f, f ∈ fs ↔ ¬isSlave ztype = true ∧ FwdWritable env zone w.db ∧ f = .fwd zone := by
  rw [cmdbValidateFwdZone]
  by_cases hs : isSlave ztype = true
  · rw [if_pos hs]
    exact ⟨[], puts_statement .., fun f => iff_of_false List.not_mem_nil fun h => h.1 hs⟩
  rw [if_neg hs]
  obtain ⟨hw, db', v, -, hfile, -, hrun⟩ | ⟨hw, db', e, -, hrun, -⟩ :=
    writeFwdZoneFile_run dc env zone w
  · rw [Prog.bind_run_ok hrun]
    have hput : Puts [.fwd zone] w ⟨db', v :: w.files⟩ :=
      ⟨[v], rfl, by rw [List.map_singleton, hfile, List.reverse_singleton]⟩
    refine ⟨_, hput.trans (puts_statement ..), fun f => ?_⟩
    rw [List.append_nil, List.mem_singleton]
    exact ⟨fun h => ⟨hs, hw, h⟩, fun h => h.2.2⟩
  · rw [Prog.bind_run_error hrun]
    exact ⟨[], ⟨[], rfl, rfl⟩, fun f => iff_of_false List.not_mem_nil fun h => hw h.2.1⟩

/-- The files the validations of all forward zones put on record. -/
theorem fwdValidated_files (dc : Dc) (env : ZoneEnv) {w : ZoneWorld} (hfit : w.db.NamesFit) :
    ∃ fs, Puts fs w (fwdValidated dc env w) ∧ ∀ f, f ∈ fs ↔ ∃ z ∈ w.db.zones,
      ¬isSlave z.type = true ∧ FwdWritable env z.name w.db ∧ f = .fwd z.name := by
  refine foldl_puts (fun (z : Zone) w => (cmdbValidateFwdZone dc env z.name z.type w).2)
    (fun z w f => ¬isSlave z.type = true ∧ FwdWritable env z.name w.db ∧ f = .fwd z.name)
    (fun z w => cmdbValidateFwdZone_files dc env z.name z.type w) _ w fun a ha b hb w f => ?_
  have hsame := (fwdSteps_sameFwdOk env (hfit.fwd a ha)).moves_cmdbValidateFwdZone dc a.type w
  rw [fwdWritable_congr (hsame b.name (hfit.fwd b hb))]

/-! ## Reverse zones -/

/-- The mark of the row that is read for a range. -/
def ZoneDb.revMark (db : ZoneDb) (range : CStr) : Option CStr :=
  (db.revZones.find? (·.netRange = range)).map RevZoneRow.updated

theorem revRowOk_iff {index : ℕ} : RevRowOk env zone index db ↔ ∃ u,
    db.revMark (arg zone) = some u ∧
      (u = "yes".toList → env.sql .revZoneSerialUpdate zone index = true) := by
  constructor
  · rintro ⟨e, he, h⟩
    exact ⟨e.updated, by rw [ZoneDb.revMark, he, Option.map_some], h⟩
  · rintro ⟨u, hu, h⟩
    obtain ⟨e, he, rfl⟩ := Option.map_eq_some_iff.mp hu
    exact ⟨e, he, h⟩

theorem revMark_mapRevZones {g : RevZoneRow → RevZoneRow} (hg : KeepsRevZone g) (db : ZoneDb)
    (range : CStr) : (db.mapRevZones g).revMark range =
      (db.revZones.find? (·.netRange = range)).map fun z => (g z).updated := by
  rw [ZoneDb.revMark, find?_mapRevZones hg, Option.map_map]
  rfl

theorem revMark_setRevValid (db : ZoneDb) (range valid r : CStr) :
    (db.setRevValid r valid).revMark range = db.revMark range := by
  have hkeep : KeepsRevZone fun z => if z.netRange = r then { z with valid := valid } else z :=
    keepsRevZone_ite fun _ => ⟨rfl, rfl⟩
  refine (revMark_mapRevZones hkeep db range).trans ?_
  refine Option.map_congr fun z _ => ?_
  split_ifs <;> rfl

theorem revMark_setRevSerial (db : ZoneDb) (range r : CStr) (serial : ℕ) :
    (db.setRevSerial r serial).revMark range =
      if range = r then (db.revMark range).map fun _ => "no".toList else db.revMark range := by
  have hkeep : KeepsRevZone fun z =>
      if z.netRange = r then { z with serial := serial, updated := "no".toList } else z :=
    keepsRevZone_ite fun _ => ⟨rfl, rfl⟩
  refine (revMark_mapRevZones hkeep db range).trans ?_
  rw [ZoneDb.revMark, Option.map_map]
  split_ifs with hr
  · refine Option.map_congr fun z hz => ?_
    rw [if_pos ((netRange_of_find? hz).trans hr)]
    rfl
  · refine Option.map_congr fun z hz => ?_
    rw [if_neg ((netRange_of_find? hz).trans_ne hr)]

/-- The row of another range is left as it is. -/
theorem revSteps_other (env : ZoneEnv) (zone : CStr) {range : CStr} (hne : range ≠ arg zone) :
    RevSteps env zone fun w w' => w'.db.revMark range = w.db.revMark range where
  refl _ := rfl
  trans _ _ _ h h' := h'.trans h
  serial _ _ _ _ _ _ := by rw [revMark_setRevSerial, if_neg hne]
  file _ _ := rfl
  valid _ _ := revMark_setRevValid ..

/-- A row that allows the first file goes on to do so. -/
theorem revSteps_rowOk (env : ZoneEnv) (zone : CStr) :
    RevSteps env zone fun w w' => RevRowOk env zone 0 w.db → RevRowOk env zone 0 w'.db where
  refl _ h := h
  trans _ _ _ h h' := h' ∘ h
  serial w e index he _ _ _ := by
    rw [revRowOk_iff, revMark_setRevSerial, if_pos rfl, ZoneDb.revMark, he, Option.map_some,
      Option.map_some]
    exact ⟨_, rfl, fun h => absurd h (by decide)⟩
  file _ _ h := h
  valid _ _ h := by
    rw [revRowOk_iff] at h ⊢
    rwa [revMark_setRevValid]

/-- Where the row does not allow the first file, a validation leaves the mark as it is. -/
theorem revMark_cmdbValidateRevZone (dc : Dc) (ztype : CStr) (pfx : ℕ) {w : ZoneWorld}
    (h : ¬RevRowOk env zone 0 w.db) (range : CStr) :
    (cmdbValidateRevZone dc env zone ztype pfx w).2.db.revMark range = w.db.revMark range := by
  rw [cmdbValidateRevZone]
  by_cases hs : isSlave ztype = true
  · rw [if_pos hs, statement_run]
    split_ifs
    · exact revMark_setRevValid ..
    · rfl
  rw [if_neg hs]
  rcases hn : getZoneIndex pfx with e | n
  · rfl
  obtain ⟨k, rfl⟩ := Nat.exists_eq_succ_of_ne_zero (getZoneIndex_pos hn).ne'
  rw [ret_ok_bind_run, List.range_succ_eq_map]
  obtain ⟨e, hrun⟩ := checkRevFiles_run_of_not_rowOk dc pfx ((List.range k).map Nat.succ) h
  rw [Prog.bind_run_error hrun]

/-- A validation of any reverse zone leaves what a row allows. -/
theorem revRowOk_cmdbValidateRevZone (dc : Dc) (env : ZoneEnv) (ztype : CStr) (pfx : ℕ)
    (w : ZoneWorld) {range : CStr} (hrange : range.length ≤ configLen)
    (hzone : zone.length ≤ configLen) :
    RevRowOk env range 0 (cmdbValidateRevZone dc env zone ztype pfx w).2.db ↔
      RevRowOk env range 0 w.db := by
  by_cases hne : range = zone
  · subst hne
    by_cases hrow : RevRowOk env range 0 w.db
    · exact iff_of_true ((revSteps_rowOk env range).moves_cmdbValidateRevZone dc ztype pfx w hrow)
        hrow
    · rw [revRowOk_iff, revMark_cmdbValidateRevZone dc ztype pfx hrow, revRowOk_iff]
  · have harg : arg range ≠ arg zone := by
      rwa [arg_of_length_le hrange, arg_of_length_le hzone]
    have hmark := (revSteps_other env zone harg).moves_cmdbValidateRevZone dc ztype pfx w
    rw [revRowOk_iff, hmark, revRowOk_iff]

theorem revReached_congr {pfx i : ℕ} (h : RevRowOk env zone 0 db' ↔ RevRowOk env zone 0 db) :
    RevReached env zone pfx i db' ↔ RevReached env zone pfx i db :=
  ⟨fun hr => { hr with row := h.mp hr.row }, fun hr => { hr with row := h.mpr hr.row }⟩

/-- The validation of the row reaches the file of sub-zone `i`. -/
def RevZoneRow.Reaches (env : ZoneEnv) (db : ZoneDb) (z : RevZoneRow) (i : ℕ) : Prop :=
  ¬isSlave z.type = true ∧ ∃ n, getZoneIndex (strtoul z.pfx) = .ok n ∧ i < n ∧
    RevReached env z.netRange (strtoul z.pfx) i db

/-- The files the validations of all reverse zones put on record. -/
theorem revValidated_files (dc : Dc) (env : ZoneEnv) {w : ZoneWorld} (hfit : w.db.NamesFit) :
    ∃ fs, Puts fs w (revValidated dc env w) ∧ ∀ f, f ∈ fs ↔ ∃ z ∈ w.db.revZones,
      ∃ i, z.Reaches env w.db i ∧ f = .rev z.netRange i := by
  refine foldl_puts (fun (z : RevZoneRow) w =>
      (cmdbValidateRevZone dc env z.netRange z.type (strtoul z.pfx) w).2)
    (fun z w f => ∃ i, z.Reaches env w.db i ∧ f = .rev z.netRange i)
    (fun z w => ?_) _ w fun a ha b hb w f => ?_
  · by_cases hs : isSlave z.type = true
    · refine ⟨[], ?_, fun f => iff_of_false List.not_mem_nil fun ⟨i, hi, _⟩ => hi.1 hs⟩
      rw [cmdbValidateRevZone, if_pos hs]
      exact puts_statement ..
    · obtain ⟨fs, hfs, hmem⟩ := cmdbValidateRevZone_files dc env z.netRange (strtoul z.pfx) w hs
      refine ⟨fs, hfs, fun f => (hmem f).trans ?_⟩
      constructor
      · rintro ⟨n, i, hn, hi, hr, hf⟩
        exact ⟨i, ⟨hs, n, hn, hi, hr⟩, hf⟩
      · rintro ⟨i, ⟨-, n, hn, hi, hr⟩, hf⟩
        exact ⟨n, i, hn, hi, hr, hf⟩
  · have hrow := revRowOk_cmdbValidateRevZone dc env a.type (strtoul a.pfx) w
      (hfit.rev b hb) (hfit.rev a ha)
    simp only [RevZoneRow.Reaches, revReached_congr hrow]

/-! ## The commits -/

/-- The file of every master zone is put on record. -/
def FwdAllWritten (w w' : ZoneWorld) : Prop :=
  ∀ z ∈ w.db.zones, z.type = "master".toList → Wrote w w' (.fwd z.name)

/-- The file of every sub-zone of every master zone is put on record. -/
def RevAllWritten (w w' : ZoneWorld) : Prop :=
  ∀ z ∈ w.db.revZones, z.type = "master".toList → ∀ n, getZoneIndex (strtoul z.pfx) = .ok n →
    ∀ i < n, Wrote w w' (.rev z.netRange i)

theorem isSlave_master {type : CStr} (h : type = "master".toList) : ¬isSlave type = true := by
  rw [h]
  decide

theorem commitFwdZones_writes_iff (dc : DnsaCmdb) (env : DnsEnv) {w : DnsWorld}
    (hfit : w.zone.db.NamesFit) (hok : (Dns.commitFwdZones dc env none w).1 = .ok ()) :
    FwdAllWritten w.zone (Dns.commitFwdZones dc env none w).2.zone ↔
      ∀ z ∈ w.zone.db.zones, z.type = "master".toList →
        FwdWritable env.toZoneEnv z.name w.zone.db := by
  obtain ⟨fs, hputs, hmem⟩ := fwdValidated_files dc.toDc env.toZoneEnv hfit
  rw [zone_commitFwdZones_of_ok hok, FwdAllWritten]
  refine forall_congr' fun z => forall₂_congr fun hz htype => ?_
  rw [hputs.wrote_iff, hmem]
  constructor
  · rintro ⟨y, -, -, hy, hname⟩
    rwa [ZoneFile.fwd.inj hname]
  · exact fun hw => ⟨z, hz, isSlave_master htype, hw, rfl⟩

theorem commitRevZones_writes_iff (dc : DnsaCmdb) (env : DnsEnv) {w : DnsWorld}
    (hfit : w.zone.db.NamesFit) (hok : (Dns.commitRevZones dc env none w).1 = .ok ()) :
    RevAllWritten w.zone (Dns.commitRevZones dc env none w).2.zone ↔
      ∀ z ∈ w.zone.db.revZones, z.type = "master".toList → ∀ n,
        getZoneIndex (strtoul z.pfx) = .ok n → ∀ i < n, ∃ y ∈ w.zone.db.revZones,
          y.netRange = z.netRange ∧ y.Reaches env.toZoneEnv w.zone.db i := by
  obtain ⟨fs, hputs, hmem⟩ := revValidated_files dc.toDc env.toZoneEnv hfit
  rw [zone_commitRevZones_of_ok hok, RevAllWritten]
  refine forall_congr' fun z => forall₂_congr fun hz htype => forall₂_congr fun n hn =>
    forall₂_congr fun i hi => ?_
  rw [hputs.wrote_iff, hmem]
  constructor
  · rintro ⟨y, hy, j, hreach, hfile⟩
    obtain ⟨hrange, rfl⟩ := ZoneFile.rev.inj hfile
    exact ⟨y, hy, hrange.symm, hreach⟩
  · rintro ⟨y, hy, hrange, hreach⟩
    exact ⟨y, hy, i, hreach, by rw [hrange]⟩

/-- When a commit of all zones returns 0, all files of master zones are written iff each
can be : for a forward zone `write_fwd_zone_file` goes through, for a sub-zone a
validation of its range reaches it. -/
theorem commit_writes_all_iff (dc : DnsaCmdb) (env : DnsEnv) (w : DnsWorld)
    (hfit : w.zone.db.NamesFit) :
    ((Dns.commitFwdZones dc env none w).1 = .ok () →
      (FwdAllWritten w.zone (Dns.commitFwdZones dc env none w).2.zone ↔
        ∀ z ∈ w.zone.db.zones, z.type = "master".toList →
          FwdWritable env.toZoneEnv z.name w.zone.db)) ∧
    ((Dns.commitRevZones dc env none w).1 = .ok () →
      (RevAllWritten w.zone (Dns.commitRevZones dc env none w).2.zone ↔
        ∀ z ∈ w.zone.db.revZones, z.type = "master".toList → ∀ n,
          getZoneIndex (strtoul z.pfx) = .ok n → ∀ i < n, ∃ y ∈ w.zone.db.revZones,
            y.netRange = z.netRange ∧ y.Reaches env.toZoneEnv w.zone.db i)) :=
  ⟨commitFwdZones_writes_iff dc env hfit, commitRevZones_writes_iff dc env hfit⟩

/-- No zone file can be opened. -/
def opensFail : DnsEnv := ⟨noClock false, fun _ => true, true⟩

theorem namesFit_masterWorld : masterWorld.zone.db.NamesFit := by
  constructor <;> decide

theorem commit_writes_all_iff_opensFail :
    (FwdAllWritten masterWorld.zone
        (Dns.commitFwdZones testCmdb opensFail none masterWorld).2.zone ↔
      ∀ z ∈ masterWorld.zone.db.zones, z.type = "master".toList →
        FwdWritable opensFail.toZoneEnv z.name masterWorld.zone.db) ∧
    (RevAllWritten masterWorld.zone
        (Dns.commitRevZones testCmdb opensFail none masterWorld).2.zone ↔
      ∀ z ∈ masterWorld.zone.db.revZones, z.type = "master".toList → ∀ n,
        getZoneIndex (strtoul z.pfx) = .ok n → ∀ i < n, ∃ y ∈ masterWorld.zone.db.revZones,
          y.netRange = z.netRange ∧ y.Reaches opensFail.toZoneEnv masterWorld.zone.db i) := by
  obtain ⟨hfwd, hrev⟩ := commit_writes_all_iff testCmdb opensFail masterWorld namesFit_masterWorld
  exact ⟨hfwd (by decide +kernel), hrev (by decide +kernel)⟩

/-- No file is written, and both commits return 0. -/
theorem commit_masterWorld_not_written :
    masterWorld.zone.db.NamesFit ∧
    ((Dns.commitFwdZones testCmdb opensFail none masterWorld).1 = .ok () ∧
      ¬FwdAllWritten masterWorld.zone
        (Dns.commitFwdZones testCmdb opensFail none masterWorld).2.zone) ∧
    ((Dns.commitRevZones testCmdb opensFail none masterWorld).1 = .ok () ∧
      ¬RevAllWritten masterWorld.zone
        (Dns.commitRevZones testCmdb opensFail none masterWorld).2.zone) := by
  have hnone : ∀ {w' : ZoneWorld} {f : ZoneFile}, w'.files = [] → ¬Wrote masterWorld.zone w' f := by
    rintro w' f hfiles ⟨new, hnew, v, hv, -⟩
    rw [hfiles] at hnew
    rw [(List.append_eq_nil_iff.mp hnew.symm).1] at hv
    cases hv
  refine ⟨namesFit_masterWorld, ⟨by decide +kernel, fun h => ?_⟩, by decide +kernel, fun h => ?_⟩
  · exact hnone (by decide +kernel) (h _ (List.mem_singleton_self _) rfl)
  · have hwrote := h _ (List.mem_singleton_self _) rfl 1 (by decide) 0 (by decide)
    exact hnone (by decide +kernel) hwrote

end Cmdb
