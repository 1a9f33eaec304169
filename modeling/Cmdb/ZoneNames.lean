import Cmdb.AddForward
import Cmdb.History
import Cmdb.ZoneCommands

/-!
# The names of zones

`add_forward_zone` looks for a zone by name and type, but almost everything else reads
and writes rows by name alone, and the table has no unique constraint. So names stay
unique over a history of additions and deletions iff no row is entered under a name that
is stored with another type (`zoneNames_nodup_iff`). Names and ranges are cut where they
are bound, so the stored ones fit, whatever fails (`namesFit_runZones`).
-/

namespace Cmdb

open CString

variable {dc : DnsaCmdb} {env : DnsEnv} {w : DnsWorld} {db : ZoneDb}

/-! ## What follows a change of the tables -/

theorem zone_afterInsert (dc : DnsaCmdb) (env : DnsEnv) (domain : CStr) (type : Option CStr)
    (w : DnsWorld) : (afterInsert dc env domain type w).2.zone =
      (cmdbValidateFwdZone dc.toDc env.toZoneEnv domain (type.getD "master".toList) w.zone).2 :=
  zone_onZones_bind (zone_writeFwdConfig dc env) w

/-- A deletion takes rows out, or none. -/
theorem deleteFwdZone_zone (dc : DnsaCmdb) (env : DnsEnv) (domain : CStr) (ztype : Option CStr)
    (w : DnsWorld) : (deleteFwdZone dc env domain ztype w).2.zone = w.zone ∨ ∃ id,
      (deleteFwdZone dc env domain ztype w).2.zone =
        ⟨w.zone.db.deleteFwdZone id, w.zone.files⟩ := by
  refine (readOnly_onZones (readOnly_cmdbCheckAddZoneId _ _ _)).bind_run_snd
    (P := fun w' => w'.zone = w.zone ∨
      ∃ id, w'.zone = ⟨w.zone.db.deleteFwdZone id, w.zone.files⟩) (.inl rfl) fun id _ => ?_
  rw [zone_onZones_bind (zone_writeFwdConfig dc env), statement_run]
  split_ifs
  · exact .inr ⟨id, rfl⟩
  · exact .inl rfl

/-! ## Unique names -/

/-- The names in `zones`, with repetitions. -/
def ZoneDb.zoneNames (db : ZoneDb) : List CStr := db.zones.map Zone.name

theorem zoneNames_of_sameFwdRows {w w' : ZoneWorld} (h : SameFwdRows w w') :
    w'.db.zoneNames = w.db.zoneNames := by
  have hnames : ∀ db : ZoneDb, db.zoneNames = (db.zones.map Zone.kept).map Zone.name := by
    intro db
    rw [List.map_map]
    rfl
  rw [hnames, h, ← hnames]

/-- The commands on forward zones. -/
inductive FwdZoneOp
  | add (domain : CStr) (type master : Option CStr)
  | delete (domain : CStr) (ztype : Option CStr)
deriving DecidableEq, Repr

/-- The program of a command, to its end. -/
def FwdZoneOp.run (dc : DnsaCmdb) (env : DnsEnv) : FwdZoneOp → DnsProg Unit
  | add domain type master => addForwardZone dc env domain type master
  | delete domain ztype => deleteFwdZone dc env domain ztype

/-- The world after commands run one after the other, each with its own outcomes. -/
def runFwdZones (dc : DnsaCmdb) (w : DnsWorld) (ops : List (DnsEnv × FwdZoneOp)) : DnsWorld :=
  ops.foldl (fun w op => (op.2.run dc op.1 w).2) w

/-- Where the command enters a row, a zone of that name is not stored with another type. -/
def FwdZoneOp.OneType (dc : DnsaCmdb) (env : DnsEnv) (db : ZoneDb) : FwdZoneOp → Prop
  | add domain type master => ∀ zone, EntersZone dc env domain type master db zone →
    ∀ z ∈ db.zones, z.name = arg domain → z.type = arg (type.getD "master".toList)
  | delete _ _ => True

/-- No command of the history enters a row under a name stored with another type. -/
def AllOneType (dc : DnsaCmdb) : DnsWorld → List (DnsEnv × FwdZoneOp) → Prop
  | _, [] => True
  | w, op :: ops => op.2.OneType dc op.1 w.zone.db ∧ AllOneType dc (op.2.run dc op.1 w).2 ops

/-- The names after a command : a row is entered, or rows are taken out, or none. -/
theorem FwdZoneOp.zoneNames_run (dc : DnsaCmdb) (env : DnsEnv) (op : FwdZoneOp) (w : DnsWorld) :
    (∃ domain type master zone, op = .add domain type master ∧
      EntersZone dc env domain type master w.zone.db zone ∧
      (op.run dc env w).2.zone.db.zoneNames = w.zone.db.zoneNames ++ [arg domain]) ∨
    (op.OneType dc env w.zone.db ∧
      (op.run dc env w).2.zone.db.zoneNames.Sublist w.zone.db.zoneNames) := by
  cases op with
  | add domain type master =>
    obtain ⟨zone, henters, hrun⟩ | ⟨hno, r, hrun, -⟩ :=
      addForwardZone_outcome dc env domain type master w
    · refine .inl ⟨domain, type, master, zone, rfl, henters, ?_⟩
      obtain ⟨z, hdb, hname, -⟩ := dnsaPopulateZone_ok henters.row henters.given w.zone.db
      rw [FwdZoneOp.run, hrun, zone_afterInsert, zoneNames_of_sameFwdRows
        ((fwdSteps_sameFwdRows _ _).moves_cmdbValidateFwdZone _ _ _)]
      dsimp only
      rw [hdb, ZoneDb.zoneNames, List.map_append, List.map_singleton, hname]
      rfl
    · rw [FwdZoneOp.run, hrun]
      exact .inr ⟨fun zone h => absurd h (hno zone), .refl _⟩
  | delete domain ztype =>
    refine .inr ⟨trivial, ?_⟩
    obtain hzone | ⟨id, hzone⟩ := deleteFwdZone_zone dc env domain ztype w
    · rw [FwdZoneOp.run, hzone]
    · rw [FwdZoneOp.run, hzone]
      exact List.filter_sublist.map _

/-- A command that enters no row under a name with another type keeps names unique. -/
theorem FwdZoneOp.nodup_run (dc : DnsaCmdb) (env : DnsEnv) (op : FwdZoneOp) {w : DnsWorld}
    (h : op.OneType dc env w.zone.db) (hw : w.zone.db.zoneNames.Nodup) :
    (op.run dc env w).2.zone.db.zoneNames.Nodup := by
  obtain ⟨domain, type, master, zone, rfl, henters, hnames⟩ | ⟨-, hsub⟩ :=
    op.zoneNames_run dc env w
  · rw [hnames]
    refine List.nodup_append.mpr ⟨hw, List.nodup_singleton _, ?_⟩
    rintro name hname _ hnew rfl
    obtain ⟨z, hz, hzname⟩ := List.mem_map.mp hname
    rw [List.mem_singleton.mp hnew] at hzname
    exact henters.new ⟨z, hz, hzname, h zone henters z hz hzname⟩
  · exact hw.sublist hsub

/-- A command that enters one does not. -/
theorem FwdZoneOp.oneType_of_nodup_run (dc : DnsaCmdb) (env : DnsEnv) (op : FwdZoneOp)
    {w : DnsWorld} (hw : (op.run dc env w).2.zone.db.zoneNames.Nodup) :
    op.OneType dc env w.zone.db := by
  obtain ⟨domain, type, master, zone, rfl, -, hnames⟩ | ⟨h, -⟩ := op.zoneNames_run dc env w
  · rw [hnames] at hw
    obtain ⟨-, -, hne⟩ := List.nodup_append.mp hw
    intro _ _ z hz hname
    exact absurd hname (hne _ (List.mem_map_of_mem hz) _ (List.mem_singleton_self _))
  · exact h

theorem allOneType_iff_each (dc : DnsaCmdb) : ∀ (ops : List (DnsEnv × FwdZoneOp)) (w : DnsWorld),
    AllOneType dc w ops ↔ History.Each (fun w op => (op.2.run dc op.1 w).2)
      (fun w op => op.2.OneType dc op.1 w.zone.db) w ops
  | [], _ => Iff.rfl
  | _ :: ops, _ => and_congr_right fun _ => allOneType_iff_each dc ops _

/-- From unique names, the names are unique in every state of a history of additions and
deletions, with any types and with steps that may fail, iff no row is entered under a name
that is stored with another type. -/
theorem zoneNames_nodup_iff (dc : DnsaCmdb) : ∀ (ops : List (DnsEnv × FwdZoneOp)) (w : DnsWorld),
    w.zone.db.zoneNames.Nodup →
      ((∀ pre, pre <+: ops → (runFwdZones dc w pre).zone.db.zoneNames.Nodup) ↔
        AllOneType dc w ops) := by
  intro ops w hw
  have hrun := History.throughout_iff_each
    (J := fun w : DnsWorld => w.zone.db.zoneNames.Nodup) (fun _ h => h)
    (fun w op hw h => op.2.nodup_run dc op.1 h hw)
    (fun w op _ h => op.2.oneType_of_nodup_run dc op.1 h) ops w hw
  exact hrun.trans (allOneType_iff_each dc ops w).symm

/-- A master zone is added, deleted and added as a slave, and so is another name. -/
def slaveLater : List (DnsEnv × FwdZoneOp) :=
  [(smooth, .add "a.com".toList none none), (smooth, .delete "a.com".toList none),
    (smooth, .add "a.com".toList (some "slave".toList) (some "10.0.0.1".toList)),
    (smooth, .add "b.com".toList (some "slave".toList) (some "10.0.0.1".toList))]

theorem zoneNames_nodup_iff_slaveLater :
    (∀ pre, pre <+: slaveLater →
      (runFwdZones testCmdb emptyDns pre).zone.db.zoneNames.Nodup) ↔
        AllOneType testCmdb emptyDns slaveLater :=
  zoneNames_nodup_iff testCmdb slaveLater emptyDns List.nodup_nil

/-- A name is added as a master and then as a slave : it is stored twice. -/
theorem zoneNames_not_nodup :
    ¬(runFwdZones testCmdb emptyDns [(smooth, .add "a.com".toList none none),
      (smooth, .add "a.com".toList (some "slave".toList)
        (some "10.0.0.1".toList))]).zone.db.zoneNames.Nodup := by
  decide +kernel

/-! ## Stored names fit -/

theorem namesFit_mapZones {g : Zone → Zone} (hg : KeepsZone g) (h : db.NamesFit) :
    (db.mapZones g).NamesFit where
  fwd z hz := by
    obtain ⟨y, hy, rfl⟩ := List.mem_map.mp hz
    rw [(hg y).2]
    exact h.fwd y hy
  rev := h.rev

theorem namesFit_mapRevZones {g : RevZoneRow → RevZoneRow} (hg : KeepsRevZone g)
    (h : db.NamesFit) : (db.mapRevZones g).NamesFit where
  fwd := h.fwd
  rev z hz := by
    obtain ⟨y, hy, rfl⟩ := List.mem_map.mp hz
    rw [(hg y).2]
    exact h.rev y hy

theorem fwdSteps_namesFit (env : ZoneEnv) (zone : CStr) :
    FwdSteps env zone fun w w' => w.db.NamesFit → w'.db.NamesFit where
  refl _ h := h
  trans _ _ _ h h' := h' ∘ h
  serial _ _ _ _ _ := namesFit_mapZones fun z => by
    split_ifs <;> exact ⟨rfl, rfl⟩
  file _ _ h := h
  valid _ _ := namesFit_mapZones fun z => by
    split_ifs <;> exact ⟨rfl, rfl⟩

theorem revSteps_namesFit (env : ZoneEnv) (zone : CStr) :
    RevSteps env zone fun w w' => w.db.NamesFit → w'.db.NamesFit where
  refl _ h := h
  trans _ _ _ h h' := h' ∘ h
  serial _ _ _ _ _ _ := namesFit_mapRevZones fun z => by
    split_ifs <;> exact ⟨rfl, rfl⟩
  file _ _ h := h
  valid _ _ := namesFit_mapRevZones fun z => by
    split_ifs <;> exact ⟨rfl, rfl⟩

theorem FwdZoneOp.namesFit_run (dc : DnsaCmdb) (env : DnsEnv) (op : FwdZoneOp) {w : DnsWorld}
    (h : w.zone.db.NamesFit) : (op.run dc env w).2.zone.db.NamesFit := by
  cases op with
  | add domain type master =>
    rw [FwdZoneOp.run]
    obtain ⟨zone, henters, hrun⟩ | ⟨-, r, hrun, -⟩ :=
      addForwardZone_outcome dc env domain type master w
    · obtain ⟨z, hdb, hname, -⟩ := dnsaPopulateZone_ok henters.row henters.given w.zone.db
      rw [hrun, zone_afterInsert]
      refine (fwdSteps_namesFit _ _).moves_cmdbValidateFwdZone _ _ _ ?_
      dsimp only
      rw [hdb]
      refine ⟨fun y hy => ?_, h.rev⟩
      rcases List.mem_append.mp hy with hy | hy
      · exact h.fwd y hy
      · rw [List.mem_singleton.mp hy, hname]
        exact List.length_take_le _ _
    · rwa [hrun]
  | delete domain ztype =>
    rw [FwdZoneOp.run]
    obtain hzone | ⟨id, hzone⟩ := deleteFwdZone_zone dc env domain ztype w
    · rwa [hzone]
    · rw [hzone]
      exact ⟨fun y hy => h.fwd y (List.mem_of_mem_filter hy), h.rev⟩

theorem addReverseZone_namesFit (cbc : AilsaCmdb) (env : ZoneEnv) (range : CStr)
    (type master : Option CStr) (pfx : ℕ) {w : ZoneWorld} (h : w.db.NamesFit) :
    (addReverseZone cbc env range type master pfx w).2.db.NamesFit := by
  obtain ⟨e, hrun⟩ | ⟨q, finish, z, henters, hrange, -, -, -, -, hrun⟩ :=
    addReverseZone_cases cbc env range type master pfx w
  · rwa [hrun]
  rw [hrun]
  refine (revSteps_namesFit _ _).moves_cmdbValidateRevZone _ _ _ _ ⟨h.fwd, fun y hy => ?_⟩
  rcases List.mem_append.mp hy with hy | hy
  · exact h.rev y hy
  · rw [List.mem_singleton.mp hy, hrange]
    exact length_range_le_of_inetPton henters.parses

theorem deleteReverseZone_namesFit (env : ZoneEnv) (domain : CStr) (ztype : Option CStr)
    {w : ZoneWorld} (h : w.db.NamesFit) :
    (deleteReverseZone env domain ztype w).2.db.NamesFit := by
  refine (readOnly_cmdbCheckAddRevZoneId _ _ _).attempt.bind_run_snd
    (P := fun w : ZoneWorld => w.db.NamesFit) h fun found _ => ?_
  rcases found with e | id
  · exact h
  dsimp only
  rw [statement_run]
  split_ifs
  · exact ⟨h.fwd, fun y hy => h.rev y (List.mem_of_mem_filter hy)⟩
  · exact h

theorem RevZoneOp.namesFit_run (dc : DnsaCmdb) (env : DnsEnv) (op : RevZoneOp) {w : DnsWorld}
    (h : w.zone.db.NamesFit) : (op.run dc env w).2.zone.db.NamesFit := by
  rw [op.zone_run]
  cases op with
  | add range type master pfx =>
    exact addReverseZone_namesFit dc.toAilsaCmdb env.toZoneEnv range type master pfx h
  | delete domain ztype => exact deleteReverseZone_namesFit env.toZoneEnv domain ztype h

/-- The world after additions and deletions of zones of both sorts. -/
def runZones (dc : DnsaCmdb) (w : DnsWorld) (ops : List (DnsEnv × (FwdZoneOp ⊕ RevZoneOp))) :
    DnsWorld :=
  ops.foldl (fun w op => (op.2.elim (FwdZoneOp.run dc op.1) (RevZoneOp.run dc op.1) w).2) w

/-- In every history, whatever fails, the stored names and ranges fit. -/
theorem namesFit_runZones (dc : DnsaCmdb) : ∀ (ops : List (DnsEnv × (FwdZoneOp ⊕ RevZoneOp)))
    (w : DnsWorld), w.zone.db.NamesFit → (runZones dc w ops).zone.db.NamesFit
  | [], _, h => h
  | (env, .inl op) :: ops, _, h => namesFit_runZones dc ops _ (op.namesFit_run dc env h)
  | (env, .inr op) :: ops, _, h => namesFit_runZones dc ops _ (op.namesFit_run dc env h)

end Cmdb
