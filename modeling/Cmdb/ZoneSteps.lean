import Cmdb.ZoneCommits

/-!
# The steps of a validation

A validation of a zone bumps the serial of a marked row, puts files on record and sets
the verdict. `FwdSteps R` and `RevSteps R` say that the preorder `R` allows each of these
steps, and then it bounds a validation, at whichever step it stops
(`FwdSteps.moves_cmdbValidateFwdZone`, `RevSteps.moves_cmdbValidateRevZone`). In this way
rows keep all but serial, mark and verdict (`SameFwdRows`, `SameRevRows`).
-/

namespace Cmdb

open CString

variable {dc : Dc} {env : ZoneEnv} {zone : CStr} {R : ZoneWorld → ZoneWorld → Prop}

/-! ## Steps -/

/-- `R` allows the steps of a validation of a forward zone. -/
structure FwdSteps (env : ZoneEnv) (zone : CStr) (R : ZoneWorld → ZoneWorld → Prop) : Prop where
  refl : ∀ w, R w w
  trans : ∀ w w' w'', R w w' → R w' w'' → R w w''
  serial : ∀ w e, w.db.zones.find? (·.name = arg zone) = some e → e.updated = "yes".toList →
    env.sql .fwdZoneSerialUpdate zone 0 = true →
    R w ⟨w.db.setFwdSerial (arg zone) (bumpSerial (env.clock (.fwd zone)) e.serial), w.files⟩
  file : ∀ w v, R w ⟨w.db, v :: w.files⟩
  valid : ∀ w valid, R w ⟨w.db.setFwdValid (arg zone) valid, w.files⟩

/-- `R` allows the steps of a validation of a reverse zone. -/
structure RevSteps (env : ZoneEnv) (zone : CStr) (R : ZoneWorld → ZoneWorld → Prop) : Prop where
  refl : ∀ w, R w w
  trans : ∀ w w' w'', R w w' → R w' w'' → R w w''
  serial : ∀ w e index, w.db.revZones.find? (·.netRange = arg zone) = some e →
    e.updated = "yes".toList → env.sql .revZoneSerialUpdate zone index = true →
    R w ⟨w.db.setRevSerial (arg zone) (bumpSerial (env.clock (.rev zone index)) e.serial),
      w.files⟩
  file : ∀ w v, R w ⟨w.db, v :: w.files⟩
  valid : ∀ w valid, R w ⟨w.db.setRevValid (arg zone) valid, w.files⟩

theorem FwdSteps.statement (h : FwdSteps env zone R) (valid : CStr) :
    Prog.Moves R (statement env .fwdZoneValidate zone 0 fun db =>
      db.setFwdValid (arg zone) valid) := by
  intro w
  rw [statement_run]
  split_ifs
  · exact h.valid w valid
  · exact h.refl w

theorem FwdSteps.moves_writeFwdZoneFile (h : FwdSteps env zone R) (dc : Dc) :
    Prog.Moves R (writeFwdZoneFile dc env zone) := by
  intro w
  refine (readOnly_query _ _ _ _ _).bind_run_snd (h.refl w) fun n _ => ?_
  refine (readOnly_query _ _ _ _ _).bind_run_snd (h.refl w) fun l hl => ?_
  obtain rfl := query_ok hl
  have hcheck : R w (ailsaCheckForZoneUpdate env (w.db.zonesOnName (arg zone)) zone w).2 := by
    have hhead := head?_zonesOnName w.db (arg zone)
    rcases hl : w.db.zonesOnName (arg zone) with _ | ⟨e, rest⟩
    · exact h.refl w
    rw [hl, List.head?_cons] at hhead
    rw [ailsaCheckForZoneUpdate_cons]
    split_ifs with hu hsql
    · exact h.serial w e hhead.symm hu hsql
    · exact h.refl w
    · exact h.refl w
  refine Prog.rel_bind h.trans hcheck fun _ w' => ?_
  refine (readOnly_query _ _ _ _ _).bind_run_snd (h.refl w') fun hr _ => ?_
  refine (readOnly_query _ _ _ _ _).bind_run_snd (h.refl w') fun r _ => ?_
  refine (readOnly_query _ _ _ _ _).bind_run_snd (h.refl w') fun g _ => ?_
  refine (Prog.ReadOnly.require _ _).bind_run_snd (h.refl w') fun _ _ => ?_
  exact h.file w' _

theorem FwdSteps.moves_cmdbValidateFwdZone (h : FwdSteps env zone R) (dc : Dc) (ztype : CStr) :
    Prog.Moves R (cmdbValidateFwdZone dc env zone ztype) := by
  unfold cmdbValidateFwdZone
  by_cases hs : isSlave ztype = true
  · rw [if_pos hs]
    exact h.statement _
  · rw [if_neg hs]
    exact (h.moves_writeFwdZoneFile dc).bind h.trans fun _ => h.statement _

theorem RevSteps.statement (h : RevSteps env zone R) (valid : CStr) :
    Prog.Moves R (statement env .revZoneValidate zone 0 fun db =>
      db.setRevValid (arg zone) valid) := by
  intro w
  rw [statement_run]
  split_ifs
  · exact h.valid w valid
  · exact h.refl w

theorem RevSteps.moves_writeRevZoneFile (h : RevSteps env zone R) (dc : Dc) (pfx index : ℕ) :
    Prog.Moves R (writeRevZoneFile dc env zone pfx index) := by
  intro w
  refine (readOnly_query _ _ _ _ _).bind_run_snd (h.refl w) fun l hl => ?_
  obtain rfl := query_ok hl
  have hcheck : R w
      (ailsaCheckForRevZoneUpdate env (w.db.revZonesOnRange (arg zone)) zone index w).2 := by
    have hhead := head?_revZonesOnRange w.db (arg zone)
    rcases hl : w.db.revZonesOnRange (arg zone) with _ | ⟨e, rest⟩
    · exact h.refl w
    rw [hl, List.head?_cons] at hhead
    rw [ailsaCheckForRevZoneUpdate_cons]
    split_ifs with hu hsql
    · exact h.serial w e index hhead.symm hu hsql
    · exact h.refl w
    · exact h.refl w
  refine Prog.rel_bind h.trans hcheck fun _ w' => ?_
  refine (readOnly_query _ _ _ _ _).bind_run_snd (h.refl w') fun r _ => ?_
  refine (readOnly_ret _).bind_run_snd (h.refl w') fun _ _ => ?_
  refine (Prog.ReadOnly.require _ _).bind_run_snd (h.refl w') fun _ _ => ?_
  exact h.file w' _

theorem RevSteps.moves_checkRevFiles (h : RevSteps env zone R) (dc : Dc) (pfx : ℕ) :
    ∀ is : List ℕ, Prog.Moves R (checkRevFiles dc env zone pfx is)
  | [] => h.refl
  | i :: is => by
    rw [checkRevFiles]
    refine ((readOnly_ret _).moves h.refl).bind h.trans fun _ => ?_
    refine (h.moves_writeRevZoneFile dc pfx i).bind h.trans fun _ => ?_
    split_ifs
    · exact h.moves_checkRevFiles dc pfx is
    · exact h.refl

theorem RevSteps.moves_cmdbValidateRevZone (h : RevSteps env zone R) (dc : Dc) (ztype : CStr)
    (pfx : ℕ) : Prog.Moves R (cmdbValidateRevZone dc env zone ztype pfx) := by
  unfold cmdbValidateRevZone
  by_cases hs : isSlave ztype = true
  · rw [if_pos hs]
    exact h.statement _
  · rw [if_neg hs]
    refine ((readOnly_ret _).moves h.refl).bind h.trans fun index => ?_
    exact (h.moves_checkRevFiles dc pfx _).bind h.trans fun ok => h.statement _

/-! ## What rows keep -/

/-- A row of `zones` without serial, mark and verdict. -/
def Zone.kept (z : Zone) : Zone := { z with serial := 0, updated := [], valid := [] }

/-- A row of `rev_zones` without serial, mark and verdict. -/
def RevZoneRow.kept (z : RevZoneRow) : RevZoneRow :=
  { z with serial := 0, updated := [], valid := [] }

/-- The rows of `zones` are those there were, up to serial, mark and verdict. -/
def SameFwdRows (w w' : ZoneWorld) : Prop :=
  w'.db.zones.map Zone.kept = w.db.zones.map Zone.kept

/-- The rows of `rev_zones` are those there were, up to serial, mark and verdict. -/
def SameRevRows (w w' : ZoneWorld) : Prop :=
  w'.db.revZones.map RevZoneRow.kept = w.db.revZones.map RevZoneRow.kept

theorem sameFwdRows_mapZones (w : ZoneWorld) (files : List Written) {g : Zone → Zone}
    (hg : ∀ z, (g z).kept = z.kept) : SameFwdRows w ⟨w.db.mapZones g, files⟩ := by
  rw [SameFwdRows, ZoneDb.mapZones, List.map_map]
  exact List.map_congr_left fun z _ => hg z

theorem sameRevRows_mapRevZones (w : ZoneWorld) (files : List Written)
    {g : RevZoneRow → RevZoneRow} (hg : ∀ z, (g z).kept = z.kept) :
    SameRevRows w ⟨w.db.mapRevZones g, files⟩ := by
  rw [SameRevRows, ZoneDb.mapRevZones, List.map_map]
  exact List.map_congr_left fun z _ => hg z

theorem fwdSteps_sameFwdRows (env : ZoneEnv) (zone : CStr) : FwdSteps env zone SameFwdRows where
  refl _ := rfl
  trans _ _ _ h h' := h'.trans h
  serial w _ _ _ _ := sameFwdRows_mapZones w _ fun z => by split_ifs <;> rfl
  file _ _ := rfl
  valid w _ := sameFwdRows_mapZones w _ fun z => by split_ifs <;> rfl

theorem revSteps_sameRevRows (env : ZoneEnv) (zone : CStr) : RevSteps env zone SameRevRows where
  refl _ := rfl
  trans _ _ _ h h' := h'.trans h
  serial w _ _ _ _ _ := sameRevRows_mapRevZones w _ fun z => by split_ifs <;> rfl
  file _ _ := rfl
  valid w _ := sameRevRows_mapRevZones w _ fun z => by split_ifs <;> rfl

theorem SameFwdRows.exists_mem {w w' : ZoneWorld} (h : SameFwdRows w w') {z : Zone}
    (hz : z ∈ w.db.zones) : ∃ z' ∈ w'.db.zones, z'.kept = z.kept := by
  have hmem := List.mem_map_of_mem (f := Zone.kept) hz
  rw [← h] at hmem
  exact List.mem_map.mp hmem

theorem SameRevRows.exists_mem {w w' : ZoneWorld} (h : SameRevRows w w') {z : RevZoneRow}
    (hz : z ∈ w.db.revZones) : ∃ z' ∈ w'.db.revZones, z'.kept = z.kept := by
  have hmem := List.mem_map_of_mem (f := RevZoneRow.kept) hz
  rw [← h] at hmem
  exact List.mem_map.mp hmem

end Cmdb
