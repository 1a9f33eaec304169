import Cmdb.ZoneView

/-!
# Commits as steps

Writing a zone file is a bump, if the zone is marked, and then a write of a clean zone
(`moves_writeFwdZoneFile`, `moves_writeRevZoneFile`) : the mark is cleared before the file
is opened, so a file that cannot be opened costs a serial but never hides a change. A
validation of a zone and a commit of one or all zones are runs of these
(`moves_cmdbValidateRevZone`, `moves_commitFwdZones`, `moves_commitRevZones`).
-/

namespace Cmdb

open CString SerialLog

variable {dc : Dc} {env : ZoneEnv} {w w' : ZoneWorld} {db db' : ZoneDb}

/-! ## Bumps and writes -/

theorem bumpSerial_gt (clock : Option Tm) (serial : ℕ) : serial < bumpSerial clock serial := by
  unfold bumpSerial
  split_ifs <;> omega

theorem head?_zonesOnName (db : ZoneDb) (name : CStr) :
    (db.zonesOnName name).head? = db.zones.find? (·.name = name) := List.head?_filter ..

theorem head?_revZonesOnRange (db : ZoneDb) (range : CStr) :
    (db.revZonesOnRange range).head? = db.revZones.find? (·.netRange = range) :=
  List.head?_filter ..

/-- Putting the contents of a clean zone's file on record is a write. -/
theorem runs_writeFile {v : Written} (hclean : (view dc w).clean (ownerOf v.file))
    (hserial : v.serial = (view dc w).serial (ownerOf v.file)) (hstored : v.stored = v.serial)
    (hbody : v.body = (view dc w).body v.file) :
    Runs dc w { w with files := v :: w.files } := by
  refine fun hw => ⟨hw, .single (.write v.file hclean rfl rfl rfl ?_)⟩
  rw [← hserial, ← hbody]
  refine congrArg (· :: _) ?_
  dsimp only
  rw [← hstored]

theorem ailsaCheckForZoneUpdate_cons (env : ZoneEnv) (e : Zone) (rest : List Zone)
    (zone : CStr) (w : ZoneWorld) : ailsaCheckForZoneUpdate env (e :: rest) zone w =
      if e.updated = "yes".toList then
        if env.sql .fwdZoneSerialUpdate zone 0 = true then
          (.ok ({ e with serial := bumpSerial (env.clock (.fwd zone)) e.serial } :: rest),
            { w with db :=
                w.db.setFwdSerial (arg zone) (bumpSerial (env.clock (.fwd zone)) e.serial) })
        else (.error .statementFail, w)
      else (.ok (e :: rest), w) := by
  rw [ailsaCheckForZoneUpdate, Prog.ite_run]
  split_ifs with hu hsql
  · exact Prog.bind_run_ok ((statement_run ..).trans (if_pos hsql)) _
  · exact Prog.bind_run_error ((statement_run ..).trans (if_neg hsql)) _
  · rfl

theorem ailsaCheckForRevZoneUpdate_cons (env : ZoneEnv) (e : RevZoneRow)
    (rest : List RevZoneRow) (zone : CStr) (index : ℕ) (w : ZoneWorld) :
    ailsaCheckForRevZoneUpdate env (e :: rest) zone index w =
      if e.updated = "yes".toList then
        if env.sql .revZoneSerialUpdate zone index = true then
          (.ok ({ e with serial := bumpSerial (env.clock (.rev zone index)) e.serial } :: rest),
            { w with db :=
                w.db.setRevSerial (arg zone) (bumpSerial (env.clock (.rev zone index)) e.serial) })
        else (.error .statementFail, w)
      else (.ok (e :: rest), w) := by
  rw [ailsaCheckForRevZoneUpdate, Prog.ite_run]
  split_ifs with hu hsql
  · exact Prog.bind_run_ok ((statement_run ..).trans (if_pos hsql)) _
  · exact Prog.bind_run_error ((statement_run ..).trans (if_neg hsql)) _
  · rfl

/-- The check leaves a clean zone, with the stored serial at the head of the list. -/
theorem ailsaCheckForZoneUpdate_run (dc : Dc) (h : env.SqlOk) (zone : CStr) (w : ZoneWorld) :
    ailsaCheckForZoneUpdate env (w.db.zonesOnName (arg zone)) zone w = (.error .nullDeref, w) ∨
      ∃ l w', ailsaCheckForZoneUpdate env (w.db.zonesOnName (arg zone)) zone w = (.ok l, w') ∧
        Runs dc w w' ∧ FwdClean w'.db (arg zone) ∧
        (l.head?.map Zone.serial).getD 0 = fwdSerial w'.db (arg zone) := by
  have hhead := head?_zonesOnName w.db (arg zone)
  rcases hl : w.db.zonesOnName (arg zone) with _ | ⟨e, rest⟩
  · exact .inl rfl
  rw [hl, List.head?_cons] at hhead
  refine .inr ?_
  rw [ailsaCheckForZoneUpdate_cons, if_pos (h _ _ _)]
  by_cases hu : e.updated = "yes".toList
  · rw [if_pos hu]
    obtain ⟨h1, h2, h3⟩ := runs_setFwdSerial dc hhead.symm
      (bumpSerial_gt (env.clock (.fwd zone)) e.serial)
    exact ⟨_, _, rfl, h1, h2, h3.symm⟩
  · rw [if_neg hu]
    refine ⟨_, w, rfl, Runs.refl dc w, fun z hz => ?_, ?_⟩
    · rw [← hhead] at hz
      cases hz
      exact hu
    · rw [fwdSerial, ← hhead]
      rfl

theorem ailsaCheckForRevZoneUpdate_run (dc : Dc) (h : env.SqlOk) (zone : CStr) (index : ℕ)
    (w : ZoneWorld) :
    ailsaCheckForRevZoneUpdate env (w.db.revZonesOnRange (arg zone)) zone index w =
        (.error .nullDeref, w) ∨
      ∃ l w', ailsaCheckForRevZoneUpdate env (w.db.revZonesOnRange (arg zone)) zone index w =
          (.ok l, w') ∧
        Runs dc w w' ∧ RevClean w'.db (arg zone) ∧
        (l.head?.map RevZoneRow.serial).getD 0 = revSerial w'.db (arg zone) := by
  have hhead := head?_revZonesOnRange w.db (arg zone)
  rcases hl : w.db.revZonesOnRange (arg zone) with _ | ⟨e, rest⟩
  · exact .inl rfl
  rw [hl, List.head?_cons] at hhead
  refine .inr ?_
  rw [ailsaCheckForRevZoneUpdate_cons, if_pos (h _ _ _)]
  by_cases hu : e.updated = "yes".toList
  · rw [if_pos hu]
    obtain ⟨h1, h2, h3⟩ := runs_setRevSerial dc hhead.symm
      (bumpSerial_gt (env.clock (.rev zone index)) e.serial)
    exact ⟨_, _, rfl, h1, h2, h3.symm⟩
  · rw [if_neg hu]
    refine ⟨_, w, rfl, Runs.refl dc w, fun z hz => ?_, ?_⟩
    · rw [← hhead] at hz
      cases hz
      exact hu
    · rw [revSerial, ← hhead]
      rfl

theorem moves_writeFwdZoneFile (dc : Dc) (h : env.SqlOk) (zone : CStr) :
    Prog.Moves (Runs dc) (writeFwdZoneFile dc env zone) := by
  intro w
  rw [writeFwdZoneFile]
  simp only [query_eq h]
  show Runs dc w (((ailsaCheckForZoneUpdate env (w.db.zonesOnName (arg zone)) zone) >>= _) w).2
  rcases ailsaCheckForZoneUpdate_run dc h zone w with he | ⟨l, w', hok, hruns, hclean, hserial⟩
  · rw [Prog.bind_run_error he]
    exact Runs.refl dc w
  rw [Prog.bind_run_ok hok]
  refine Runs.trans dc _ _ _ hruns ?_
  show Runs dc w' ((Prog.require (env.openOk (.fwd zone)) AilsaError.fileError >>= _) w').2
  cases env.openOk (.fwd zone)
  · exact Runs.refl dc w'
  · exact runs_writeFile hclean hserial hserial.symm rfl

theorem moves_writeRevZoneFile (dc : Dc) (h : env.SqlOk) (zone : CStr) (pfx index : ℕ) :
    Prog.Moves (Runs dc) (writeRevZoneFile dc env zone pfx index) := by
  intro w
  rw [writeRevZoneFile]
  simp only [query_eq h]
  show Runs dc w
    (((ailsaCheckForRevZoneUpdate env (w.db.revZonesOnRange (arg zone)) zone index) >>= _) w).2
  rcases ailsaCheckForRevZoneUpdate_run dc h zone index w with
    he | ⟨l, w', hok, hruns, hclean, hserial⟩
  · rw [Prog.bind_run_error he]
    exact Runs.refl dc w
  rw [Prog.bind_run_ok hok]
  refine Runs.trans dc _ _ _ hruns ?_
  show Runs dc w' ((ret (getOffsetIp zone pfx index) >>= _) w').2
  refine (Prog.ReadOnly.reads _).bind_run_snd (Runs.refl dc w') fun _ _ => ?_
  cases env.openOk (.rev zone index)
  · exact Runs.refl dc w'
  · exact runs_writeFile hclean hserial hserial.symm rfl

/-! ## Validation and commits -/

theorem moves_ret {α : Type} (dc : Dc) (r : Except AilsaError α) :
    Prog.Moves (Runs dc) (ret r) := Runs.refl dc

theorem moves_query {α : Type} (dc : Dc) (h : env.SqlOk) (q : Query) (name : CStr) (index : ℕ)
    (g : ZoneDb → α) : Prog.Moves (Runs dc) (query env q name index g) := by
  rw [query_eq h]
  exact Runs.refl dc

theorem moves_fwdZoneValidate (dc : Dc) (h : env.SqlOk) (zone valid : CStr) :
    Prog.Moves (Runs dc) (statement env .fwdZoneValidate zone 0 fun db =>
      db.setFwdValid (arg zone) valid) := by
  rw [statement_eq h]
  exact Prog.Moves.modify fun _ => runs_setFwdValid _ _

theorem moves_revZoneValidate (dc : Dc) (h : env.SqlOk) (zone valid : CStr) :
    Prog.Moves (Runs dc) (statement env .revZoneValidate zone 0 fun db =>
      db.setRevValid (arg zone) valid) := by
  rw [statement_eq h]
  exact Prog.Moves.modify fun _ => runs_setRevValid _ _

theorem moves_cmdbValidateFwdZone (dc : Dc) (h : env.SqlOk) (zone ztype : CStr) :
    Prog.Moves (Runs dc) (cmdbValidateFwdZone dc env zone ztype) := by
  unfold cmdbValidateFwdZone
  by_cases hs : isSlave ztype = true
  · rw [if_pos hs]
    exact moves_fwdZoneValidate dc h zone _
  · rw [if_neg hs]
    exact (moves_writeFwdZoneFile dc h zone).bind (Runs.trans dc) fun _ =>
      moves_fwdZoneValidate dc h zone _

theorem moves_checkRevFiles (dc : Dc) (h : env.SqlOk) (zone : CStr) (pfx : ℕ) : ∀ is : List ℕ,
    Prog.Moves (Runs dc) (checkRevFiles dc env zone pfx is)
  | [] => Runs.refl dc
  | i :: is => by
    rw [checkRevFiles]
    refine (moves_ret dc _).bind (Runs.trans dc) fun _ => ?_
    refine (moves_writeRevZoneFile dc h zone pfx i).bind (Runs.trans dc) fun _ => ?_
    split_ifs
    · exact moves_checkRevFiles dc h zone pfx is
    · exact Runs.refl dc

theorem moves_cmdbValidateRevZone (dc : Dc) (h : env.SqlOk) (zone ztype : CStr) (pfx : ℕ) :
    Prog.Moves (Runs dc) (cmdbValidateRevZone dc env zone ztype pfx) := by
  unfold cmdbValidateRevZone
  by_cases hs : isSlave ztype = true
  · rw [if_pos hs]
    exact moves_revZoneValidate dc h zone _
  · rw [if_neg hs]
    refine (moves_ret dc _).bind (Runs.trans dc) fun index => ?_
    refine (moves_checkRevFiles dc h zone pfx _).bind (Runs.trans dc) fun ok => ?_
    exact moves_revZoneValidate dc h zone _

theorem moves_attempt {α : Type} {p : ZoneProg α} (hp : Prog.Moves (Runs dc) p) :
    Prog.Moves (Runs dc) (do let _ ← Prog.attempt p; return ()) :=
  hp.attempt.bind (Runs.trans dc) fun _ => Runs.refl dc

theorem moves_commitFwdZones (dc : Dc) (h : env.SqlOk) (name : Option CStr) :
    Prog.Moves (Runs dc) (commitFwdZones dc env name) := by
  cases name with
  | some zone =>
    refine (moves_query dc h _ zone 0 _).bind (Runs.trans dc) fun r => ?_
    cases r with
    | nil => exact Runs.refl dc
    | cons z _ => exact moves_cmdbValidateFwdZone dc h zone z.type
  | none =>
    refine (moves_query dc h _ [] 0 _).bind (Runs.trans dc) fun r => ?_
    exact Prog.Moves.forM (Runs.refl dc) (Runs.trans dc) fun z _ =>
      moves_attempt (moves_cmdbValidateFwdZone dc h z.name z.type)

theorem moves_commitRevZones (dc : Dc) (h : env.SqlOk) (name : Option CStr) :
    Prog.Moves (Runs dc) (commitRevZones dc env name) := by
  refine (moves_query dc h _ [] 0 _).bind (Runs.trans dc) fun l => ?_
  refine Prog.Moves.forM (Runs.refl dc) (Runs.trans dc) fun z _ => ?_
  have hz := moves_attempt (moves_cmdbValidateRevZone dc h z.netRange z.type (strtoul z.pfx))
  cases name with
  | none => exact hz
  | some name =>
    dsimp only
    split_ifs
    · exact hz
    · exact Runs.refl dc

end Cmdb
