import Cmdb.History
import Cmdb.OptionChecks
import Cmdb.PackageInserts

/-!
# Partition schemes

`cbcpart` adds schemes and partitions and removes them. A partition gets a logical volume if its
scheme is one for LVM, and is only added to a scheme that has none at its mount point. What holds
of the tables after any run of the commands (`PartDb.Sound`) is kept by each of them
(`PartDb.Sound.cbcpart`).
-/

namespace Cmdb

open CString

/-! ## Tables -/

/-- A row of `seed_schemes`. -/
structure SchemeRow where
  id : ℕ
  schemeName : CStr
  lvm : ℕ
  cuser : ℕ
  muser : ℕ
deriving DecidableEq, Repr

/-- A row of `default_part`, but for its id. -/
structure NewPart where
  schemeId : ℕ
  minimum : ℕ
  maximum : ℕ
  priority : ℕ
  mountPoint : CStr
  filesystem : CStr
  logicalVolume : CStr
  cuser : ℕ
  muser : ℕ
deriving DecidableEq, Repr

/-- A row of `default_part`. -/
structure PartRow extends NewPart where
  id : ℕ
deriving DecidableEq, Repr

/-- The two tables. Their primary keys are unique, and a partition is of a scheme there is. -/
structure PartDb where
  schemes : List SchemeRow
  parts : List PartRow
  schemeIds : (schemes.map SchemeRow.id).Nodup
  partIds : (parts.map PartRow.id).Nodup
  schemeKnown : ∀ p ∈ parts, ∃ s ∈ schemes, s.id = p.schemeId

namespace PartDb

def empty : PartDb := ⟨[], [], List.nodup_nil, List.nodup_nil, nofun⟩

variable (db : PartDb)

/-- `INSERT_SEED_SCHEME` -/
def addScheme (name : CStr) (lvm uid : ℕ) : PartDb :=
  { db with
    schemes := db.schemes ++ [⟨nextId (db.schemes.map SchemeRow.id), name, lvm, uid, uid⟩]
    schemeIds := by
      rw [List.map_append, List.map_singleton]
      exact db.schemeIds.append (List.nodup_singleton _)
        (List.disjoint_singleton.mpr (nextId_not_mem _))
    schemeKnown := fun p hp =>
      let ⟨s, hs, hid⟩ := db.schemeKnown p hp
      ⟨s, List.mem_append_left _ hs, hid⟩ }

/-- `INSERT_PARTITION`, for a scheme there is. -/
def addPart (r : NewPart) (h : ∃ s ∈ db.schemes, s.id = r.schemeId) : PartDb :=
  { db with
    parts := db.parts ++ [⟨r, nextId (db.parts.map PartRow.id)⟩]
    partIds := by
      rw [List.map_append, List.map_singleton]
      exact db.partIds.append (List.nodup_singleton _)
        (List.disjoint_singleton.mpr (nextId_not_mem _))
    schemeKnown := fun p hp => (List.mem_append.mp hp).elim (db.schemeKnown p) fun hp => by
      obtain rfl := List.mem_singleton.mp hp
      exact h }

/-- `DELETE_PARTITION` -/
def deletePart (id : ℕ) : PartDb :=
  { db with
    parts := db.parts.filter fun p => p.id ≠ id
    partIds := db.partIds.sublist (List.filter_sublist.map _)
    schemeKnown := fun p hp => db.schemeKnown p (List.mem_of_mem_filter hp) }

/-- `DELETE_SCHEME_ON_NAME`, with the partitions of the scheme. -/
def deleteScheme (name : CStr) : PartDb where
  schemes := db.schemes.filter fun s => s.schemeName ≠ name
  parts := db.parts.filter fun p => ∃ s ∈ db.schemes, s.id = p.schemeId ∧ s.schemeName ≠ name
  schemeIds := db.schemeIds.sublist (List.filter_sublist.map _)
  partIds := db.partIds.sublist (List.filter_sublist.map _)
  schemeKnown := fun p hp => by
    obtain ⟨s, hs, hid, hname⟩ := of_decide_eq_true (List.mem_filter.mp hp).2
    exact ⟨s, List.mem_filter.mpr ⟨hs, decide_eq_true hname⟩, hid⟩

/-- `SET_PART_SCHEME_UPDATED` -/
def setUpdated (name : CStr) (uid : ℕ) : PartDb :=
  { db with
    schemes := db.schemes.map fun s => if s.schemeName = name then { s with muser := uid } else s
    schemeIds := by
      rw [List.map_map]
      refine (congrArg List.Nodup (List.map_congr_left fun s _ => ?_)).mpr db.schemeIds
      dsimp only [Function.comp]
      split <;> rfl
    schemeKnown := fun p hp => by
      obtain ⟨s, hs, hid⟩ := db.schemeKnown p hp
      refine ⟨_, List.mem_map_of_mem hs, ?_⟩
      split
      · exact hid
      · exact hid }

/-- The schemes of a name : there is one at most, but the tables do not say so. -/
def named (name : CStr) : List SchemeRow := db.schemes.filter fun s => s.schemeName = name

/-- The partitions of a scheme. -/
def partsOf (s : SchemeRow) : List PartRow := db.parts.filter fun p => p.schemeId = s.id

/-- `IDENTIFY_PARTITION` : a row for each partition of the scheme at the mount point. A scheme
without partitions has a `NULL` there. -/
def identifyPartition (name mountPoint : CStr) : List (ℕ × ℕ) :=
  (db.named name).flatMap fun s =>
    ((db.partsOf s).filter fun p => p.mountPoint = mountPoint).map fun p => (p.id, s.id)

/-- `PARTITION_ID_ON_SEED_MOUNT` -/
def partitionIds (name mountPoint : CStr) : List ℕ :=
  (db.parts.filter fun p => p.mountPoint = mountPoint ∧
    ∃ s ∈ db.schemes, s.id = p.schemeId ∧ s.schemeName = name).map PartRow.id

end PartDb

/-! ## Commands -/

inductive PartAction
  | add | rm
deriving DecidableEq, Repr

inductive PartType
  | partition | scheme
deriving DecidableEq, Repr

/-- `cbcpart_comm_line_s` for schemes and partitions. -/
structure PartCommand extends CbcpartCommLine where
  action : PartAction
  type : PartType
  min : ℕ
  max : ℕ
  pri : ℕ
  lvm : Bool
deriving DecidableEq, Repr

inductive PartCall
  | seedSchemeOnName | insertSeedScheme | schemeLvmInfo | schemeIdOnName | identifyPartition
  | insertPartition | setPartSchemeUpdated | partitionIdOnSeedMount | deletePartition
  | deleteSchemeOnName
deriving DecidableEq, Repr

/-- A program on the tables of the schemes. -/
abbrev PartProg (α : Type) := Prog PartDb (Option ℤ) α

/-- Which calls of a command the database serves, and the user. -/
abbrev PartEnv := CallEnv PartCall

namespace PartEnv

variable {α : Type} (env : PartEnv)

def ask (call : PartCall) (g : PartDb → α) : PartProg α :=
  Prog.reads fun db => if env.served call then .ok (g db) else .error (some ailsaStatementFail)

/-- A statement that changes the tables, or breaks one of their constraints. -/
def change (call : PartCall) (u : PartDb → Option PartDb) : PartProg Unit := fun db =>
  match if env.served call then u db else none with
  | some db' => (.ok (), db')
  | none => (.error (some ailsaStatementFail), db)

end PartEnv

/-- `cmdb_add_string_to_list` of a text that may be missing. -/
def givenText (s : Option CStr) : PartProg CStr :=
  Prog.reads fun _ => s.elim (.error (some ailsaNoData)) fun s => .ok (arg s)

/-- `AILSA_NO_SCHEME` -/
abbrev ailsaNoScheme : ℤ := 237

/-- A number as `data->data->small` reads it : the lower two bytes. -/
def smallOf (n : ℕ) : ℤ := (BitVec.ofNat 16 n).toInt

/-- `add_new_scheme` -/
def addNewScheme (env : PartEnv) (cpl : PartCommand) : PartProg Unit := do
  let name ← givenText cpl.scheme
  let r ← env.ask .seedSchemeOnName fun db => db.named name
  if r ≠ [] then return ()
  else env.change .insertSeedScheme fun db => some (db.addScheme name cpl.lvm.toNat env.uid)

/-- `cmdb_check_add_scheme_id_to_list` -/
def cmdbCheckAddSchemeId (env : PartEnv) (name : CStr) : PartProg ℕ := do
  let ids ← env.ask .schemeIdOnName fun db => (db.named name).map SchemeRow.id
  match ids with
  | [id] => return id
  | _ => Prog.fail (some ailsaNoScheme)

/-- `add_partition_to_scheme`. Without a scheme of the name a null pointer is read. -/
def addPartitionToScheme (env : PartEnv) (cpl : PartCommand) : PartProg Unit := do
  let name ← givenText cpl.scheme
  let l ← env.ask .schemeLvmInfo fun db => (db.named name).map SchemeRow.lvm
  match l with
  | [] => Prog.fail none
  | lvm :: _ =>
    if 0 < smallOf lvm ∧ cpl.logVol = none then return ()
    else if smallOf lvm = 0 ∧ cpl.logVol ≠ none then return ()
    else
      let logVol := cpl.logVol.getD "none".toList
      let id ← cmdbCheckAddSchemeId env name
      let partition ← givenText cpl.partition
      let l ← env.ask .identifyPartition fun db => db.identifyPartition name partition
      if l ≠ [] then return ()
      else
        let fs ← givenText cpl.fs
        let logVol ← givenText (some logVol)
        env.change .insertPartition fun db =>
          if h : ∃ s ∈ db.schemes, s.id = id then
            some (db.addPart ⟨id, cpl.min, cpl.max, cpl.pri, partition, fs, logVol, env.uid,
              env.uid⟩ h)
          else none
        env.change .setPartSchemeUpdated fun db => some (db.setUpdated name env.uid)

/-- `remove_partition_from_scheme`. The first of the partitions is deleted. -/
def removePartitionFromScheme (env : PartEnv) (cpl : PartCommand) : PartProg Unit := do
  let name ← givenText cpl.scheme
  let partition ← givenText cpl.partition
  let list ← env.ask .partitionIdOnSeedMount fun db => db.partitionIds name partition
  match list with
  | [] => Prog.fail (some ailsaWrongListLenght)
  | id :: _ => env.change .deletePartition fun db => some (db.deletePart id)

/-- `remove_scheme` -/
def removeScheme (env : PartEnv) (cpl : PartCommand) : PartProg Unit := do
  let name ← givenText cpl.scheme
  env.change .deleteSchemeOnName fun db => some (db.deleteScheme name)

/-- `add_scheme_part` and `remove_scheme_part` -/
def cbcpart (env : PartEnv) (cpl : PartCommand) : PartProg Unit :=
  match cpl.action, cpl.type with
  | .add, .partition => addPartitionToScheme env cpl
  | .add, .scheme => addNewScheme env cpl
  | .rm, .partition => removePartitionFromScheme env cpl
  | .rm, .scheme => removeScheme env cpl

/-- The tables after one command. -/
def PartDb.step (db : PartDb) (c : PartEnv × PartCommand) : PartDb := (cbcpart c.1 c.2 db).2

/-! ## What holds of the tables -/

/-- The command asks for the partition, with a volume iff the scheme is one for LVM. -/
structure PartCommand.Gives (cpl : PartCommand) (s : SchemeRow) (r : NewPart) : Prop where
  action : cpl.action = .add
  type : cpl.type = .partition
  scheme : cpl.scheme.map arg = some s.schemeName
  partition : cpl.partition.map arg = some r.mountPoint
  volume : r.logicalVolume = arg (cpl.logVol.getD "none".toList)
  given : cpl.logVol.isSome ↔ s.lvm ≠ 0

/-- After the commands no scheme has two partitions at a mount point, and each partition is one
that was asked for. -/
structure PartDb.Sound (cmds : List PartCommand) (db : PartDb) : Prop where
  lvm : ∀ s ∈ db.schemes, s.lvm ≤ 1
  mounts : (db.parts.map fun p => (p.schemeId, p.mountPoint)).Nodup
  given : ∀ p ∈ db.parts, ∀ s ∈ db.schemes, s.id = p.schemeId →
    ∃ cpl ∈ cmds, cpl.Gives s p.toNewPart

namespace PartDb.Sound

variable {cmds cmds' : List PartCommand} {db : PartDb}

theorem empty : Sound cmds .empty := ⟨nofun, List.nodup_nil, nofun⟩

theorem mono (h : db.Sound cmds) (hsub : cmds ⊆ cmds') : db.Sound cmds' where
  lvm := h.lvm
  mounts := h.mounts
  given p hp s hs hid :=
    let ⟨cpl, hcpl, hgives⟩ := h.given p hp s hs hid
    ⟨cpl, hsub hcpl, hgives⟩

/-- A new scheme has no partitions. -/
theorem addScheme (h : db.Sound cmds) (name : CStr) (lvm : Bool) (uid : ℕ) :
    (db.addScheme name lvm.toNat uid).Sound cmds where
  lvm s hs := by
    obtain hs | hs := List.mem_append.mp hs
    · exact h.lvm s hs
    · obtain rfl := List.mem_singleton.mp hs
      exact lvm.toNat_le
  mounts := h.mounts
  given p hp s hs hid := by
    obtain hs | hs := List.mem_append.mp hs
    · exact h.given p hp s hs hid
    · obtain rfl := List.mem_singleton.mp hs
      obtain ⟨s', hs', hid'⟩ := db.schemeKnown p hp
      have hmem : p.schemeId ∈ db.schemes.map SchemeRow.id := hid' ▸ List.mem_map_of_mem hs'
      exact absurd (hid ▸ hmem) (nextId_not_mem _)

/-- A partition that was asked for is added at a mount point its scheme has none at. -/
theorem addPart (h : db.Sound cmds) {s : SchemeRow} (hs : s ∈ db.schemes) {r : NewPart}
    (hid : s.id = r.schemeId) (hnew : ∀ p ∈ db.partsOf s, p.mountPoint ≠ r.mountPoint)
    (hgives : ∃ cpl ∈ cmds, cpl.Gives s r) (hknown : ∃ s ∈ db.schemes, s.id = r.schemeId) :
    (db.addPart r hknown).Sound cmds where
  lvm := h.lvm
  mounts := by
    rw [PartDb.addPart, List.map_append, List.map_singleton]
    refine h.mounts.append (List.nodup_singleton _) (List.disjoint_singleton.mpr fun hmem => ?_)
    obtain ⟨p, hp, hkey⟩ := List.mem_map.mp hmem
    obtain ⟨hscheme, hmount⟩ := Prod.mk.inj hkey
    exact hnew p (List.mem_filter.mpr ⟨hp, decide_eq_true (hscheme.trans hid.symm)⟩) hmount
  given p hp s' hs' hid' := by
    obtain hp | hp := List.mem_append.mp hp
    · exact h.given p hp s' hs' hid'
    · obtain rfl := List.mem_singleton.mp hp
      obtain rfl : s' = s := List.inj_on_of_nodup_map db.schemeIds hs' hs (hid'.trans hid.symm)
      exact hgives

/-- Fewer partitions, and fewer schemes. -/
theorem sublist (h : db.Sound cmds) {db' : PartDb} (hparts : db'.parts.Sublist db.parts)
    (hschemes : db'.schemes ⊆ db.schemes) : db'.Sound cmds where
  lvm s hs := h.lvm s (hschemes hs)
  mounts := h.mounts.sublist (hparts.map _)
  given p hp s hs hid := h.given p (hparts.subset hp) s (hschemes hs) hid

theorem setUpdated (h : db.Sound cmds) (name : CStr) (uid : ℕ) :
    (db.setUpdated name uid).Sound cmds := by
  -- only `muser` is set
  have hrow : ∀ s ∈ (db.setUpdated name uid).schemes, ∃ s' ∈ db.schemes,
      s'.id = s.id ∧ s'.schemeName = s.schemeName ∧ s'.lvm = s.lvm := by
    intro s hs
    obtain ⟨s', hs', rfl⟩ := List.mem_map.mp hs
    refine ⟨s', hs', ?_⟩
    split <;> exact ⟨rfl, rfl, rfl⟩
  refine ⟨fun s hs => ?_, h.mounts, fun p hp s hs hid => ?_⟩
  · obtain ⟨s', hs', -, -, hlvm⟩ := hrow s hs
    exact hlvm ▸ h.lvm s' hs'
  · obtain ⟨s', hs', hid', hname, hlvm⟩ := hrow s hs
    obtain ⟨cpl, hcpl, hgives⟩ := h.given p hp s' hs' (hid'.trans hid)
    exact ⟨cpl, hcpl, { hgives with scheme := hname ▸ hgives.scheme, given := hlvm ▸ hgives.given }⟩

end PartDb.Sound

/-! ## What the commands keep -/

section Keep

variable {α β : Type} {env : PartEnv} {call : PartCall} {db : PartDb} {P : PartDb → Prop}

theorem readOnly_ask (g : PartDb → α) : Prog.ReadOnly (env.ask call g) := Prog.ReadOnly.reads _

theorem readOnly_givenText (s : Option CStr) : Prog.ReadOnly (givenText s) :=
  Prog.ReadOnly.reads _

theorem ask_ok {g : PartDb → α} {a : α} (h : (env.ask call g db).1 = .ok a) : g db = a := by
  rw [PartEnv.ask, Prog.reads_run] at h
  split at h
  · exact Except.ok.inj h
  · cases h

theorem givenText_ok {s : Option CStr} {t : CStr} (h : (givenText s db).1 = .ok t) :
    s.map arg = some t := by
  cases s with
  | none => cases h
  | some s => exact congrArg some (Except.ok.inj h)

/-- A statement fails, or makes its change. -/
theorem change_cases (env : PartEnv) (call : PartCall) (u : PartDb → Option PartDb) (db : PartDb) :
    env.change call u db = (.error (some ailsaStatementFail), db) ∨
      ∃ db', u db = some db' ∧ env.change call u db = (.ok (), db') := by
  cases hchange : (if env.served call then u db else none) with
  | none => exact .inl (by rw [PartEnv.change, hchange])
  | some db' =>
    refine .inr ⟨db', ?_, by rw [PartEnv.change, hchange]⟩
    split_ifs at hchange
    exact hchange

/-- What holds before a statement, and after it if it changes the tables. -/
theorem change_snd {u : PartDb → Option PartDb} (hdb : P db)
    (hu : ∀ db', u db = some db' → P db') : P (env.change call u db).2 := by
  obtain hrun | ⟨db', hdb', hrun⟩ := change_cases env call u db
  · rwa [hrun]
  · rw [hrun]
    exact hu db' hdb'

theorem change_bind_snd {u : PartDb → Option PartDb} {f : Unit → PartProg β} (hdb : P db)
    (hu : ∀ db', u db = some db' → P (f () db').2) : P ((env.change call u >>= f) db).2 := by
  obtain hrun | ⟨db', hdb', hrun⟩ := change_cases env call u db
  · rwa [Prog.bind_run_error hrun]
  · rw [Prog.bind_run_ok hrun]
    exact hu db' hdb'

theorem readOnly_cmdbCheckAddSchemeId (env : PartEnv) (name : CStr) :
    Prog.ReadOnly (cmdbCheckAddSchemeId env name) := by
  refine (readOnly_ask _).bind fun ids => ?_
  split
  · exact Prog.ReadOnly.pure _
  · exact Prog.ReadOnly.fail _

theorem cmdbCheckAddSchemeId_ok {name : CStr} {id : ℕ}
    (h : (cmdbCheckAddSchemeId env name db).1 = .ok id) :
    ∃ s, db.named name = [s] ∧ s.id = id := by
  obtain ⟨ids, hids, h⟩ := (readOnly_ask _).bind_ok h
  split at h
  · obtain ⟨s, hs, hid⟩ := List.map_eq_singleton_iff.mp (ask_ok hids)
    exact ⟨s, hs, hid.trans (Except.ok.inj h)⟩
  · cases h

end Keep

namespace PartDb.Sound

variable {cmds : List PartCommand} {db : PartDb} {cpl : PartCommand}

theorem addNewScheme (h : db.Sound cmds) (env : PartEnv) :
    (addNewScheme env cpl db).2.Sound cmds := by
  refine (readOnly_givenText _).bind_run_snd h fun name _ => ?_
  refine (readOnly_ask _).bind_run_snd h fun r _ => ?_
  rw [Prog.ite_run]
  split
  · exact h
  · refine change_snd h fun db' hdb' => ?_
    obtain rfl := Option.some.inj hdb'
    exact h.addScheme name cpl.lvm env.uid

theorem removeScheme (h : db.Sound cmds) (env : PartEnv) :
    (removeScheme env cpl db).2.Sound cmds := by
  refine (readOnly_givenText _).bind_run_snd h fun name _ => change_snd h fun db' hdb' => ?_
  obtain rfl := Option.some.inj hdb'
  exact h.sublist List.filter_sublist List.filter_sublist.subset

theorem removePartitionFromScheme (h : db.Sound cmds) (env : PartEnv) :
    (removePartitionFromScheme env cpl db).2.Sound cmds := by
  refine (readOnly_givenText _).bind_run_snd h fun name _ => ?_
  refine (readOnly_givenText _).bind_run_snd h fun partition _ => ?_
  refine (readOnly_ask _).bind_run_snd h fun list _ => ?_
  split
  · exact h
  · refine change_snd h fun db' hdb' => ?_
    obtain rfl := Option.some.inj hdb'
    exact h.sublist List.filter_sublist (List.Subset.refl _)

/-- What the flag of a scheme and the logical volume must be for a partition to be added. -/
theorem given_iff {lvm : ℕ} (hlvm : lvm ≤ 1) {logVol : Option CStr}
    (hneed : ¬(0 < smallOf lvm ∧ logVol = none)) (hnone : ¬(smallOf lvm = 0 ∧ logVol ≠ none)) :
    logVol.isSome ↔ lvm ≠ 0 := by
  obtain rfl | rfl := Nat.le_one_iff_eq_zero_or_eq_one.mp hlvm
  · have hlog : logVol = none := not_not.mp fun h => hnone ⟨by decide, h⟩
    rw [hlog]
    exact iff_of_false nofun fun h => h rfl
  · have hlog : logVol ≠ none := fun h => hneed ⟨by decide, h⟩
    exact iff_of_true (Option.isSome_iff_ne_none.mpr hlog) one_ne_zero

theorem addPartitionToScheme (h : db.Sound cmds) (hcpl : cpl ∈ cmds) (hadd : cpl.action = .add)
    (htype : cpl.type = .partition) (env : PartEnv) :
    (addPartitionToScheme env cpl db).2.Sound cmds := by
  refine (readOnly_givenText _).bind_run_snd h fun name hname => ?_
  refine (readOnly_ask _).bind_run_snd h fun l hl => ?_
  have hl := ask_ok hl
  split
  · exact h
  rename_i lvm lvms
  rw [Prog.ite_run, Prog.ite_run]
  split_ifs with hneed hnone
  · exact h
  · exact h
  refine (readOnly_cmdbCheckAddSchemeId env name).bind_run_snd h fun id hid => ?_
  refine (readOnly_givenText _).bind_run_snd h fun partition hpart => ?_
  refine (readOnly_ask _).bind_run_snd h fun found hfound => ?_
  rw [Prog.ite_run]
  split_ifs with hmount
  · exact h
  refine (readOnly_givenText _).bind_run_snd h fun fs _ => ?_
  refine (readOnly_givenText _).bind_run_snd h fun logVol hvol => ?_
  refine change_bind_snd h fun db' hdb' => ?_
  have hsound : db'.Sound cmds := by
    obtain ⟨s, hnamed, rfl⟩ := cmdbCheckAddSchemeId_ok hid
    have hs : s ∈ db.named name := hnamed ▸ List.mem_singleton.mpr rfl
    obtain ⟨hmem, hsname⟩ := List.mem_filter.mp hs
    rw [hnamed] at hl
    obtain ⟨rfl, -⟩ := List.cons.inj hl
    split_ifs at hdb' with hknown
    obtain rfl := Option.some.inj hdb'
    refine h.addPart hmem rfl (fun p hp hmountp => hmount ?_) ⟨cpl, hcpl, ?_⟩ hknown
    · have hpair : (p.id, s.id) ∈ db.identifyPartition name partition :=
        List.mem_flatMap.mpr ⟨s, hs, List.mem_map.mpr
          ⟨p, List.mem_filter.mpr ⟨hp, decide_eq_true hmountp⟩, rfl⟩⟩
      rw [ask_ok hfound] at hpair
      exact List.ne_nil_of_mem hpair
    · exact ⟨hadd, htype, of_decide_eq_true hsname ▸ givenText_ok hname, givenText_ok hpart,
        (Option.some.inj (givenText_ok hvol)).symm, given_iff (h.lvm s hmem) hneed hnone⟩
  refine change_snd hsound fun db'' hdb'' => ?_
  obtain rfl := Option.some.inj hdb''
  exact hsound.setUpdated name env.uid

/-- One command. -/
theorem step (h : db.Sound cmds) (c : PartEnv × PartCommand) :
    (db.step c).Sound (cmds ++ [c.2]) := by
  have hsub := h.mono (List.subset_append_left cmds [c.2])
  have hmem : c.2 ∈ cmds ++ [c.2] := List.mem_append_right _ (List.mem_singleton.mpr rfl)
  rw [PartDb.step, cbcpart]
  cases haction : c.2.action <;> cases htype : c.2.type
  · exact hsub.addPartitionToScheme hmem haction htype c.1
  · exact hsub.addNewScheme c.1
  · exact hsub.removePartitionFromScheme c.1
  · exact hsub.removeScheme c.1

/-- A run of commands. -/
theorem run (h : db.Sound cmds) : ∀ cs : List (PartEnv × PartCommand),
    (History.run PartDb.step db cs).Sound (cmds ++ cs.map Prod.snd) := by
  intro cs
  induction cs generalizing cmds db with
  | nil => rwa [List.map_nil, List.append_nil]
  | cons c cs ih =>
    rw [List.map_cons, List.append_cons]
    exact ih (h.step c)

end PartDb.Sound

/-- After any run no scheme has two partitions at a mount point, a partition of a scheme for LVM
has the logical volume it was given, and one of another scheme the volume `none`. -/
theorem partitionSchemes_sound (cs : List (PartEnv × PartCommand)) :
    (∀ s ∈ (History.run PartDb.step .empty cs).schemes,
      (((History.run PartDb.step .empty cs).partsOf s).map fun p => p.mountPoint).Nodup) ∧
    ∀ s ∈ (History.run PartDb.step .empty cs).schemes,
      ∀ p ∈ (History.run PartDb.step .empty cs).partsOf s,
        (s.lvm ≠ 0 → ∃ c ∈ cs, ∃ vol, c.2.Gives s p.toNewPart ∧ c.2.logVol = some vol ∧
          p.logicalVolume = arg vol) ∧
        (s.lvm = 0 → p.logicalVolume = "none".toList) := by
  have hempty : PartDb.Sound [] .empty := .empty
  have h := hempty.run cs
  refine ⟨fun s hs => ?_, fun s hs p hp => ?_⟩
  · have hnodup := h.mounts.sublist
      ((List.filter_sublist (p := fun p : PartRow => decide (p.schemeId = s.id))).map _)
    have hkey : ((History.run PartDb.step .empty cs).partsOf s).map
        (fun p => (p.schemeId, p.mountPoint)) =
        (((History.run PartDb.step .empty cs).partsOf s).map fun p => p.mountPoint).map
          fun m => (s.id, m) := by
      rw [List.map_map]
      exact List.map_congr_left fun p hp =>
        congrArg (·, p.mountPoint) (of_decide_eq_true (List.mem_filter.mp hp).2)
    exact List.Nodup.of_map _ (hkey ▸ hnodup)
  · obtain ⟨hmem, hid⟩ := List.mem_filter.mp hp
    obtain ⟨cpl, hcpl, hgives⟩ := h.given p hmem s hs (of_decide_eq_true hid).symm
    rw [List.nil_append] at hcpl
    obtain ⟨c, hc, rfl⟩ := List.mem_map.mp hcpl
    refine ⟨fun hlvm => ?_, fun hlvm => ?_⟩
    · obtain ⟨vol, hvol⟩ := Option.isSome_iff_exists.mp (hgives.given.mpr hlvm)
      refine ⟨c, hc, vol, hgives, hvol, ?_⟩
      rw [hgives.volume, hvol, Option.getD_some]
    · have hnone : c.2.logVol = none :=
        Option.not_isSome_iff_eq_none.mp fun hsome => hgives.given.mp hsome hlvm
      rw [hgives.volume, hnone]
      rfl

end Cmdb
