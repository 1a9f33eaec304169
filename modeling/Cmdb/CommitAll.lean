import Cmdb.FwdConfig
import Cmdb.FwdFile
import Cmdb.RevHistory

/-!
# A commit of all zones

`commit_fwd_zones` and `commit_rev_zones` validate the zones one after the other. An error
is logged and dropped, so unless the program goes through a `NULL` pointer the tables and
files are those the validations leave, one after the other (`commitFwdZones_run`,
`commitRevZones_run`), and the result is that of writing the configuration and of the
reload. On tables and zone files the commits, and the commands on reverse zones, are the
programs that stop before the configuration (`zone_commitFwdZones`, `zone_commitRevZones`,
`zone_runRevZones`).
-/

namespace Cmdb

open CString

variable {dc : DnsaCmdb} {env : DnsEnv} {w : DnsWorld}

/-! ## Loops that go on -/

theorem dropError_eq (r : Except AilsaError Unit) :
    Dns.dropError r = .ok () ∨ Dns.dropError r = .error .nullDeref := by
  unfold Dns.dropError
  split
  · exact .inr rfl
  · exact .inl rfl

theorem logged_run (p : ZoneProg Unit) (w : DnsWorld) : Dns.logged (onZones p) w =
    (Dns.dropError (p w.zone).1, { w with zone := (p w.zone).2 }) := rfl

/-- Every program is run, whatever the others return, or one goes through a `NULL`
pointer. -/
theorem forM_logged_run {α : Type} (p : α → ZoneProg Unit) : ∀ (l : List α) (w : DnsWorld),
    (forM l fun a => Dns.logged (onZones (p a))) w =
        (.ok (), { w with zone := l.foldl (fun w a => (p a w).2) w.zone }) ∨
      ∃ zone, (forM l fun a => Dns.logged (onZones (p a))) w =
        (.error .nullDeref, { w with zone := zone })
  | [], _ => .inl rfl
  | a :: l, w => by
    have hrun := logged_run (p a) w
    rw [List.forM_cons]
    rcases dropError_eq (p a w.zone).1 with h | h
    · rw [h] at hrun
      rw [Prog.bind_run_ok hrun]
      exact forM_logged_run p l { w with zone := (p a w.zone).2 }
    · rw [h] at hrun
      exact .inr ⟨_, Prog.bind_run_error hrun _⟩

/-! ## The commits -/

/-- Tables and files after the validations of all forward zones. -/
def fwdValidated (dc : Dc) (env : ZoneEnv) (w : ZoneWorld) : ZoneWorld :=
  w.db.zones.foldl (fun w z => (cmdbValidateFwdZone dc env z.name z.type w).2) w

/-- Tables and files after the validations of all reverse zones. -/
def revValidated (dc : Dc) (env : ZoneEnv) (w : ZoneWorld) : ZoneWorld :=
  w.db.revZones.foldl
    (fun w z => (cmdbValidateRevZone dc env z.netRange z.type (strtoul z.pfx) w).2) w

/-- A commit of all forward zones, when there are zones. -/
theorem commitFwdZones_run (dc : DnsaCmdb) (hsql : env.sql .zoneNameTypes [] 0 = true)
    (hne : w.zone.db.zones.length ≠ 0) :
    Dns.commitFwdZones dc env none w =
        (do cmdbWriteFwdZoneConfig dc env; reloadNameServer env)
          { w with zone := fwdValidated dc.toDc env.toZoneEnv w.zone } ∨
      ∃ zone, Dns.commitFwdZones dc env none w = (.error .nullDeref, { w with zone := zone }) := by
  rw [Dns.commitFwdZones]
  have hquery := query_run_of_true hsql ZoneDb.zones w.zone
  rw [Prog.bind_run_ok (by rw [onZones, Prog.zoom_run, hquery]), Prog.ite_run, if_neg hne]
  obtain hrun | ⟨zone, hrun⟩ := forM_logged_run
    (fun z : Zone => cmdbValidateFwdZone dc.toDc env.toZoneEnv z.name z.type) w.zone.db.zones w
  · exact .inl (Prog.bind_run_ok hrun _)
  · exact .inr ⟨zone, Prog.bind_run_error hrun _⟩

/-- A commit of all reverse zones, when there are zones. -/
theorem commitRevZones_run (dc : DnsaCmdb) (hsql : env.sql .revZonesNetRange [] 0 = true)
    (hne : w.zone.db.revZones.length ≠ 0) :
    Dns.commitRevZones dc env none w =
        (do cmdbWriteRevZoneConfig dc env; reloadNameServer env)
          { w with zone := revValidated dc.toDc env.toZoneEnv w.zone } ∨
      ∃ zone, Dns.commitRevZones dc env none w = (.error .nullDeref, { w with zone := zone }) := by
  rw [Dns.commitRevZones]
  have hquery := query_run_of_true hsql ZoneDb.revZones w.zone
  rw [Prog.bind_run_ok (by rw [onZones, Prog.zoom_run, hquery]), Prog.ite_run, if_neg hne]
  obtain hrun | ⟨zone, hrun⟩ := forM_logged_run (fun z : RevZoneRow =>
    cmdbValidateRevZone dc.toDc env.toZoneEnv z.netRange z.type (strtoul z.pfx))
    w.zone.db.revZones w
  · exact .inl (Prog.bind_run_ok hrun _)
  · exact .inr ⟨zone, Prog.bind_run_error hrun _⟩

theorem commitFwdZones_nil (dc : DnsaCmdb) (hsql : env.sql .zoneNameTypes [] 0 = true)
    (hnil : w.zone.db.zones.length = 0) : Dns.commitFwdZones dc env none w = (.ok (), w) := by
  rw [Dns.commitFwdZones]
  have hquery := query_run_of_true hsql ZoneDb.zones w.zone
  rw [Prog.bind_run_ok (by rw [onZones, Prog.zoom_run, hquery]), Prog.ite_run, if_pos hnil]
  rfl

theorem commitRevZones_nil (dc : DnsaCmdb) (hsql : env.sql .revZonesNetRange [] 0 = true)
    (hnil : w.zone.db.revZones.length = 0) : Dns.commitRevZones dc env none w = (.ok (), w) := by
  rw [Dns.commitRevZones]
  have hquery := query_run_of_true hsql ZoneDb.revZones w.zone
  rw [Prog.bind_run_ok (by rw [onZones, Prog.zoom_run, hquery]), Prog.ite_run, if_pos hnil]
  rfl

theorem zone_writeFwdConfig (dc : DnsaCmdb) (env : DnsEnv) (w : DnsWorld) :
    ((do cmdbWriteFwdZoneConfig dc env; reloadNameServer env : DnsProg Unit) w).2.zone =
      w.zone := by
  have hmoves : Prog.Moves (fun w w' : DnsWorld => w'.zone = w.zone)
      (cmdbWriteFwdZoneConfig dc env) := by
    intro w
    rw [cmdbWriteFwdZoneConfig_run]
    dsimp only
    split_ifs <;> rfl
  exact hmoves.bind (fun _ _ _ h h' => h'.trans h)
    (fun _ w => congrArg DnsWorld.zone (reloadNameServer_snd env w)) w

theorem zone_writeRevConfig (dc : DnsaCmdb) (env : DnsEnv) (w : DnsWorld) :
    ((do cmdbWriteRevZoneConfig dc env; reloadNameServer env : DnsProg Unit) w).2.zone =
      w.zone := by
  have hmoves : Prog.Moves (fun w w' : DnsWorld => w'.zone = w.zone)
      (cmdbWriteRevZoneConfig dc env) := by
    intro w
    rw [cmdbWriteRevZoneConfig_run]
    split_ifs
    · rfl
    · cases ailsaFillRevZoneList w.zone.db.revZones <;> rfl
    · cases ailsaFillRevZoneList w.zone.db.revZones <;> rfl
    · rfl
  exact hmoves.bind (fun _ _ _ h h' => h'.trans h)
    (fun _ w => congrArg DnsWorld.zone (reloadNameServer_snd env w)) w

theorem readOnly_onZones {α : Type} {p : ZoneProg α} (h : Prog.ReadOnly p) :
    Prog.ReadOnly (onZones p) := by
  intro w
  rw [onZones, Prog.zoom_run, h]

/-- Tables and zone files are as the program on them leaves them, if the rest touches
neither. -/
theorem zone_onZones_bind {p : ZoneProg Unit} {q : DnsProg Unit}
    (hq : ∀ w, (q w).2.zone = w.zone) (w : DnsWorld) :
    ((onZones p >>= fun _ => q) w).2.zone = (p w.zone).2 := by
  rcases h : p w.zone with ⟨e | u, z⟩
  · rw [Prog.bind_run_error (by rw [onZones, Prog.zoom_run, h])]
  · rw [Prog.bind_run_ok (by rw [onZones, Prog.zoom_run, h]), hq]

/-- Where the zones are read, all of them are validated. -/
theorem zone_commitFwdZones_of_sql (hsql : env.sql .zoneNameTypes [] 0 = true)
    (hnull : (Dns.commitFwdZones dc env none w).1 ≠ .error .nullDeref) :
    (Dns.commitFwdZones dc env none w).2.zone = fwdValidated dc.toDc env.toZoneEnv w.zone := by
  by_cases hne : w.zone.db.zones.length = 0
  · rw [commitFwdZones_nil dc hsql hne, fwdValidated, List.length_eq_zero_iff.mp hne]
    rfl
  obtain hrun | ⟨zone, hrun⟩ := commitFwdZones_run dc hsql hne
  · rw [hrun, zone_writeFwdConfig]
  · rw [hrun] at hnull
    exact absurd rfl hnull

theorem zone_commitFwdZones_of_ok (hok : (Dns.commitFwdZones dc env none w).1 = .ok ()) :
    (Dns.commitFwdZones dc env none w).2.zone = fwdValidated dc.toDc env.toZoneEnv w.zone := by
  by_cases hsql : env.sql .zoneNameTypes [] 0 = true
  swap
  · rw [Dns.commitFwdZones, Prog.bind_run_error (by
      rw [onZones, Prog.zoom_run, query_run_of_false hsql])] at hok
    cases hok
  refine zone_commitFwdZones_of_sql hsql ?_
  rw [hok]
  intro h
  cases h

theorem zone_commitRevZones_of_ok (hok : (Dns.commitRevZones dc env none w).1 = .ok ()) :
    (Dns.commitRevZones dc env none w).2.zone = revValidated dc.toDc env.toZoneEnv w.zone := by
  by_cases hsql : env.sql .revZonesNetRange [] 0 = true
  swap
  · rw [Dns.commitRevZones, Prog.bind_run_error (by
      rw [onZones, Prog.zoom_run, query_run_of_false hsql])] at hok
    cases hok
  by_cases hne : w.zone.db.revZones.length = 0
  · rw [commitRevZones_nil dc hsql hne, revValidated, List.length_eq_zero_iff.mp hne]
    rfl
  obtain hrun | ⟨zone, hrun⟩ := commitRevZones_run dc hsql hne
  · rw [hrun, zone_writeRevConfig]
  · rw [hrun] at hok
    cases hok

theorem sameRevRows_revValidated (dc : Dc) (env : ZoneEnv) (w : ZoneWorld) :
    SameRevRows w (revValidated dc env w) := by
  have hall : ∀ (l : List RevZoneRow) (w' : ZoneWorld), SameRevRows w w' → SameRevRows w
      (l.foldl (fun w z => (cmdbValidateRevZone dc env z.netRange z.type (strtoul z.pfx) w).2)
        w') := by
    intro l
    induction l with
    | nil => exact fun _ h => h
    | cons z l ih =>
      intro w' h
      refine ih _ ?_
      exact ((revSteps_sameRevRows env z.netRange).moves_cmdbValidateRevZone dc z.type _ w').trans h
  exact hall _ _ rfl

/-! ## The commits on tables and zone files alone -/

theorem forM_attempt_run {α : Type} (p : α → ZoneProg Unit) : ∀ (l : List α) (w : ZoneWorld),
    (forM l fun a => do
      let _ ← Prog.attempt (p a)
      return ()) w = (.ok (), l.foldl (fun w a => (p a w).2) w)
  | [], _ => rfl
  | a :: l, w => by
    rw [List.forM_cons]
    exact (Prog.bind_run_ok rfl _).trans (forM_attempt_run p l (p a w).2)

/-- Unless it ends in a `NULL` pointer, a commit does to tables and zone files what
`commitFwdZones` does on these alone. -/
theorem zone_commitFwdZones (dc : DnsaCmdb) (env : DnsEnv) (name : Option CStr) (w : DnsWorld)
    (hnull : (Dns.commitFwdZones dc env name w).1 ≠ .error .nullDeref) :
    (Dns.commitFwdZones dc env name w).2.zone =
      (commitFwdZones dc.toDc env.toZoneEnv name w.zone).2 := by
  cases name with
  | some zone =>
    rw [Dns.commitFwdZones, commitFwdZones]
    by_cases hsql : env.sql .zoneTypeOnName zone 0 = true
    swap
    · rw [Prog.bind_run_error (by rw [onZones, Prog.zoom_run, query_run_of_false hsql]),
        Prog.bind_run_error (query_run_of_false hsql _ w.zone)]
    rw [Prog.bind_run_ok (by rw [onZones, Prog.zoom_run, query_run_of_true hsql]),
      Prog.bind_run_ok (query_run_of_true hsql _ w.zone)]
    rcases w.zone.db.zonesOnName (arg zone) with _ | ⟨z, rest⟩
    · rfl
    · exact zone_onZones_bind (zone_writeFwdConfig dc env) w
  | none =>
    by_cases hsql : env.sql .zoneNameTypes [] 0 = true
    swap
    · rw [Dns.commitFwdZones, commitFwdZones,
        Prog.bind_run_error (by rw [onZones, Prog.zoom_run, query_run_of_false hsql]),
        Prog.bind_run_error (query_run_of_false hsql _ w.zone)]
    rw [zone_commitFwdZones_of_sql hsql hnull, commitFwdZones,
      Prog.bind_run_ok (query_run_of_true hsql _ w.zone), forM_attempt_run, fwdValidated]

/-- The validation a commit of reverse zones makes for one zone of the table. -/
def revValidation (dc : Dc) (env : ZoneEnv) (name : Option CStr) (z : RevZoneRow) :
    ZoneProg Unit :=
  if name.all fun name => StrncmpEq name z.netRange domainLen then
    cmdbValidateRevZone dc env z.netRange z.type (strtoul z.pfx)
  else return ()

theorem logged_revValidation (dc : Dc) (env : ZoneEnv) (name : Option CStr) (z : RevZoneRow) :
    (if name.all fun name => StrncmpEq name z.netRange domainLen then
      Dns.logged (onZones (cmdbValidateRevZone dc env z.netRange z.type (strtoul z.pfx)))
    else return ()) = Dns.logged (onZones (revValidation dc env name z)) := by
  unfold revValidation
  split_ifs
  · rfl
  · funext w
    exact (logged_run (pure ()) w).symm

theorem commitRevZones_eq (dc : Dc) (env : ZoneEnv) (name : Option CStr) :
    commitRevZones dc env name = (do
      let l ← query env .revZonesNetRange [] 0 ZoneDb.revZones
      forM l fun z => do
        let _ ← Prog.attempt (revValidation dc env name z)
        return ()) := by
  unfold commitRevZones
  refine congrArg _ (funext fun l => congrArg _ (funext fun z => ?_))
  unfold revValidation
  cases name with
  | none => rfl
  | some name =>
    simp only [Option.all_some, decide_eq_true_eq]
    split_ifs <;> rfl

/-- Unless it ends in a `NULL` pointer, a commit does to tables and zone files what
`commitRevZones` does on these alone. -/
theorem zone_commitRevZones (dc : DnsaCmdb) (env : DnsEnv) (name : Option CStr) (w : DnsWorld)
    (hnull : (Dns.commitRevZones dc env name w).1 ≠ .error .nullDeref) :
    (Dns.commitRevZones dc env name w).2.zone =
      (commitRevZones dc.toDc env.toZoneEnv name w.zone).2 := by
  rw [Dns.commitRevZones] at hnull ⊢
  rw [commitRevZones_eq]
  by_cases hsql : env.sql .revZonesNetRange [] 0 = true
  swap
  · rw [Prog.bind_run_error (by rw [onZones, Prog.zoom_run, query_run_of_false hsql]),
      Prog.bind_run_error (query_run_of_false hsql _ w.zone)]
  have hquery := query_run_of_true hsql ZoneDb.revZones w.zone
  have hquery' : onZones (query env.toZoneEnv .revZonesNetRange [] 0 ZoneDb.revZones) w =
      (.ok w.zone.db.revZones, w) := by rw [onZones, Prog.zoom_run, hquery]
  simp only [logged_revValidation] at hnull ⊢
  rw [Prog.bind_run_ok hquery'] at hnull ⊢
  rw [Prog.bind_run_ok hquery, forM_attempt_run]
  by_cases hne : w.zone.db.revZones.length = 0
  · rw [if_pos hne, List.length_eq_zero_iff.mp hne]
    rfl
  rw [if_neg hne] at hnull ⊢
  obtain hrun | ⟨zone, hrun⟩ := forM_logged_run (revValidation dc.toDc env.toZoneEnv name)
    w.zone.db.revZones w
  · rw [Prog.bind_run_ok hrun]
    exact zone_writeRevConfig dc env _
  · rw [Prog.bind_run_error hrun] at hnull
    exact absurd rfl hnull

/-! ## The commands on tables and zone files alone -/

/-- The rest of a command on a reverse zone is the configuration and the reload. -/
theorem RevZoneOp.zone_run (dc : DnsaCmdb) (env : DnsEnv) (op : RevZoneOp) (w : DnsWorld) :
    (op.run dc env w).2.zone = (op.prog dc.toAilsaCmdb env.toZoneEnv w.zone).2 := by
  cases op with
  | add range type master pfx => exact zone_onZones_bind (zone_writeRevConfig dc env) w
  | delete domain ztype =>
    rw [RevZoneOp.run, RevZoneOp.prog, Dns.deleteReverseZone, deleteReverseZone]
    have hro := readOnly_cmdbCheckAddRevZoneId env.toZoneEnv domain (ztype.getD "master".toList)
    rw [Prog.bind_run_ok (by rw [Prog.attempt_run, onZones, Prog.zoom_run, hro]),
      Prog.bind_run_ok (by rw [Prog.attempt_run, hro])]
    rcases (cmdbCheckAddRevZoneId env.toZoneEnv domain (ztype.getD "master".toList) w.zone).1
      with e | id
    · rfl
    · exact zone_onZones_bind (zone_writeRevConfig dc env) w

/-- A history of commands run to their end does to tables and zone files what the commands
do on these alone. -/
theorem zone_runRevZones (dc : DnsaCmdb) : ∀ (ops : List (DnsEnv × RevZoneOp)) (w : DnsWorld),
    (runRevZones dc w ops).zone = runRevZoneOps dc.toAilsaCmdb w.zone
      (ops.map fun op => (op.1.toZoneEnv, op.2))
  | [], _ => rfl
  | op :: ops, w => by
    have ih := zone_runRevZones dc ops (op.2.run dc op.1 w).2
    rw [op.2.zone_run] at ih
    exact ih

end Cmdb
