import Cmdb.DataLists
import Cmdb.ListSequence
import Cmdb.PackageInserts
import Mathlib.Data.List.TakeDrop

/-!
# The packages of a new OS

`cbcos_create_os_profile` gives a new OS the packages of the OS before it.
`cbcos_insert_os_id_user_into_list` makes their list one for `INSERT_BUILD_PACKAGE` : it goes from
varient to varient, and puts three elements behind each (`insertOsIdLoop_run`).
`cbcosCreateOsProfile_inherits` is what the new OS has then.
-/

namespace Cmdb

open CString DoublyLinked Prog
open Sql (Value)

/-! ## The list in memory -/

namespace Mem

variable {A : Type} [DecidableEq A] (al : Allocator A (Option AilsaData)) (uid : ℕ)

/-- The loop of `ailsa_insert_cuser_muser`, behind `p`. -/
def insertUids : ℕ → Option A → ListProg A AilsaData ℤ
  | 0, _ => pure 0
  | n + 1, p => do
    let new ← calloc al
    let retval ← ailsaListInsNext new p (some (.number uid))
    if retval = 0 then
      let e ← deref p
      insertUids n e.next
    else
      return retval

def ailsaInsertCuserMuser (elem : Option A) : ListProg A AilsaData ℤ :=
  if elem = none then pure ailsaNoData else insertUids al uid 2 elem

/-- The loop of `cbcos_insert_os_id_user_into_list`, with `n` turns to go, where `p` is the
varient of a package. -/
def insertOsIdLoop (id : ℕ) : ℕ → Option A → ListProg A AilsaData ℤ
  | 0, _ => pure 0
  | n + 1, p => do
    let new ← calloc al
    let retval ← ailsaListInsNext new p (some (.number id))
    if retval = 0 then
      let e ← deref p
      let p := e.next
      let retval ← ailsaInsertCuserMuser al uid p
      if retval = 0 then
        let osId ← deref p
        let cuser ← deref osId.next
        let muser ← deref cuser.next
        match muser.next with
        | none => insertOsIdLoop id n p
        | some next =>
          let package ← deref (some next)
          insertOsIdLoop id n package.next
      else
        return retval
    else
      return retval

def cbcosInsertOsIdUserIntoList (id : ℕ) : ListProg A AilsaData ℤ := do
  if id = 0 then
    return ailsaNoData
  let pack ← getList
  let p ← deref pack.head
  insertOsIdLoop al uid id (pack.total / 2) p.next

end Mem

/-! ## The command -/

/-- `OS_FROM_BUILD_TYPE_AND_ARCH` -/
def osFromBuildTypeAndArch : AilsaSqlQuery where
  query := ("SELECT os_id FROM build_os WHERE bt_id = ? AND arch = ? ORDER BY ctime DESC " ++
    "LIMIT 2").toList
  number := 2
  fields := [.lint, .text]

/-- `PACKAGE_DETAIL_ON_OS_ID` -/
def packageDetailOnOsId : AilsaSqlQuery where
  query := "SELECT package, varient_id FROM packages WHERE os_id = ?".toList
  number := 1
  fields := [.lint]

inductive ProfileCall
  | osFromBuildTypeAndArch
  | packageDetailOnOsId
  | insert
deriving DecidableEq, Repr

/-- A value of an answer on a data list. The data of a `NULL` is all zeros. -/
def valueData : Value → AilsaData
  | .null => .number 0
  | .int n => .number n.toNat
  | .text s => .text s

/-- The list `Mem.cbcosInsertOsIdUserIntoList` leaves, for an id that is not `0`. -/
def insertOsIdUser (id uid : ℕ) : List AilsaData → List AilsaData
  | package :: varientId :: pack =>
    package :: varientId :: .number id :: .number uid :: .number uid ::
      insertOsIdUser id uid pack
  | pack => pack

/-- `cbcos_insert_os_id_user_into_list` -/
def cbcosInsertOsIdUserIntoList (id uid : ℕ) (pack : List AilsaData) :
    Except (Option ℤ) (List AilsaData) :=
  if id = 0 then .error (some ailsaNoData) else .ok (insertOsIdUser id uid pack)

/-- `cbcos_create_os_profile`. An OS without another one of its kind, or after one without
packages, is left as it is. -/
def cbcosCreateOsProfile (env : CallEnv ProfileCall) (os : List AilsaData) :
    PackageProg Unit := do
  match os with
  | [_, _, _, _, .text arch, .number btId, _, _] =>
    let list := cmdbAddStringToList arch (cmdbAddNumberToList btId [])
    let results ← env.query .osFromBuildTypeAndArch fun db =>
      db.argumentQuery osFromBuildTypeAndArch list
    match results.flatten.map valueData with
    | .number newOsId :: old :: results =>
      let pack ← env.query .packageDetailOnOsId fun db =>
        db.argumentQuery packageDetailOnOsId (old :: results)
      if pack.flatten ≠ [] then
        let pack ← Prog.reads fun _ =>
          cbcosInsertOsIdUserIntoList newOsId env.uid (pack.flatten.map valueData)
        let _ ← env.query .insert fun _ => .ok ()
        PackageDb.insertPackages pack
    | _ => return ()
  | _ => Prog.fail (if os.length ≠ 8 then some ailsaWrongListLenght else none)

/-! ## The walk in memory -/

/-- A package and its varient on a list in memory. -/
structure ProfileCells (A : Type) where
  package : A
  varientId : A
  name : CStr
  vid : ℕ

namespace ProfileCells

variable {A : Type} (g : ProfileCells A)

def cells : List (A × Option AilsaData) :=
  [(g.package, some (.text g.name)), (g.varientId, some (.number g.vid))]

/-- The package for an OS. -/
def forOs (id uid : ℕ) : NewPackage := ⟨g.name, g.vid, id, uid, uid⟩

end ProfileCells

section Walk

variable {A : Type} [DecidableEq A] {m : ListMem A AilsaData}
  {l₁ l₂ : List (A × Option AilsaData)} {ls : List (List (A × Option AilsaData))}
  {c : A × Option AilsaData}

omit [DecidableEq A] in
theorem ListMem.Has.node (h : m.Has (l₁ ++ c :: l₂) ls) :
    m.heap c.1 = some ⟨last none l₁, first l₂ none, c.2⟩ :=
  (segment_append.mp h.holds.segment).2.1

/-- A new element behind one of the list. -/
theorem ListMem.Has.insNext (h : m.Has (l₁ ++ c :: l₂) ls) (al : Allocator A (Option AilsaData))
    (d : AilsaData) :
    ∃ m', ailsaListInsNext (al.calloc m.heap) (some c.1) (some d) m = (.ok 0, m') ∧
      m'.Has (l₁ ++ c :: (al.calloc m.heap, some d) :: l₂) ls := by
  have hnew := h.fresh al
  refine ⟨_, ailsaListInsNext_member h.holds hnew, ?_⟩
  have hlinked := (List.append_cons l₁ c l₂ ▸ h).linked hnew (some d)
  rwa [← List.append_cons] at hlinked

/-- The users behind an element. -/
theorem insertUids_run (al : Allocator A (Option AilsaData)) (uid : ℕ) :
    ∀ (n : ℕ) {m : ListMem A AilsaData} {l₁ : List (A × Option AilsaData)}
      {c : A × Option AilsaData}, m.Has (l₁ ++ c :: l₂) ls →
      ∃ m' us, Mem.insertUids al uid n (some c.1) m = (.ok 0, m') ∧
        us.map Prod.snd = List.replicate n (some (.number uid)) ∧
        m'.Has (l₁ ++ c :: (us ++ l₂)) ls
  | 0, m, l₁, c, h => ⟨m, [], rfl, rfl, h⟩
  | n + 1, m, l₁, c, h => by
    obtain ⟨m₁, hins, h₁⟩ := h.insNext al (.number uid)
    have happ := List.append_cons l₁ c ((al.calloc m.heap, some (.number uid)) :: l₂)
    obtain ⟨m', us, hrun, hus, hm'⟩ := insertUids_run al uid n (happ ▸ h₁)
    refine ⟨m', (al.calloc m.heap, some (.number uid)) :: us, ?_, ?_, ?_⟩
    · rw [Mem.insertUids, calloc_bind, bind_run_ok hins, if_pos rfl, deref_bind h₁.node]
      exact hrun
    · rw [List.map_cons, hus]
      rfl
    · rw [List.append_cons]
      exact hm'

/-- One turn of the loop puts three elements behind the varient. -/
theorem insertOsId_run (al : Allocator A (Option AilsaData)) (id uid : ℕ)
    (h : m.Has (l₁ ++ c :: l₂) ls) :
    ∃ m' osId cuser muser,
      m'.Has (l₁ ++ c :: (osId, some (.number id)) :: (cuser, some (.number uid)) ::
        (muser, some (.number uid)) :: l₂) ls ∧
      ∀ n, Mem.insertOsIdLoop al uid id (n + 1) (some c.1) m =
        (match first l₂ none with
        | none => Mem.insertOsIdLoop al uid id n (some osId)
        | some next => do
          let package ← deref (some next)
          Mem.insertOsIdLoop al uid id n package.next) m' := by
  obtain ⟨m₁, hins, h₁⟩ := h.insNext al (.number id)
  have happ := List.append_cons l₁ c ((al.calloc m.heap, some (.number id)) :: l₂)
  obtain ⟨m', us, huids, hus, h'⟩ := insertUids_run al uid 2 (happ ▸ h₁)
  obtain ⟨⟨cuser, _⟩, us, rfl, rfl, hus₁⟩ := List.map_eq_cons_iff.mp hus
  obtain ⟨⟨muser, _⟩, us, rfl, rfl, hus₂⟩ := List.map_eq_cons_iff.mp hus₁
  obtain rfl := List.map_eq_nil_iff.mp hus₂
  refine ⟨m', al.calloc m.heap, cuser, muser, (List.append_cons ..).symm ▸ h', fun n => ?_⟩
  obtain ⟨-, hos, hcu, hmu, -⟩ := segment_append.mp h'.holds.segment
  have hcuser : m'.heap (al.calloc m.heap) =
    some ⟨last none (l₁ ++ [c]), some cuser, some (.number id)⟩ := hos
  have hmuser : m'.heap cuser =
    some ⟨some (al.calloc m.heap), some muser, some (.number uid)⟩ := hcu
  have hnext : m'.heap muser = some ⟨some cuser, first l₂ none, some (.number uid)⟩ := hmu
  rw [Mem.insertOsIdLoop, calloc_bind, bind_run_ok hins, if_pos rfl, deref_bind h₁.node]
  dsimp only [first_cons]
  rw [Mem.ailsaInsertCuserMuser, if_neg (Option.some_ne_none _), bind_run_ok huids, if_pos rfl,
    deref_bind hcuser, deref_bind hmuser, deref_bind hnext]

/-- The loop from the varient of `g` on. -/
theorem insertOsIdLoop_run (al : Allocator A (Option AilsaData)) (id uid : ℕ) :
    ∀ {gs : List (ProfileCells A)} {g : ProfileCells A} {l₁ : List (A × Option AilsaData)}
      {m : ListMem A AilsaData}, m.Has (l₁ ++ (g :: gs).flatMap ProfileCells.cells) ls →
      ∃ m' l, Mem.insertOsIdLoop al uid id (g :: gs).length (some g.varientId) m = (.ok 0, m') ∧
        m'.Has (l₁ ++ l) ls ∧ ((g :: gs).flatMap ProfileCells.cells).Sublist l ∧
        l.map Prod.snd =
          ((g :: gs).flatMap fun g => (g.forOs id uid).data).map some
  | gs, g, l₁, m, h => by
    have happ : ∀ l₂ : List (A × Option AilsaData), l₁ ++ (g.cells ++ l₂) =
        (l₁ ++ [(g.package, some (.text g.name))]) ++
          (g.varientId, some (.number g.vid)) :: l₂ := fun l₂ => List.append_cons ..
    rw [List.flatMap_cons, happ] at h
    obtain ⟨m₁, osId, cuser, muser, h₁, hturn⟩ := insertOsId_run al id uid h
    let new : List (A × Option AilsaData) := [(osId, some (.number id)),
      (cuser, some (.number uid)), (muser, some (.number uid))]
    have h₁ : m₁.Has (l₁ ++ (g.cells ++ (new ++ gs.flatMap ProfileCells.cells))) ls :=
      happ _ ▸ h₁
    cases gs with
    | nil =>
      refine ⟨m₁, g.cells ++ new, hturn 0, ?_, ?_, rfl⟩
      · rwa [List.flatMap_nil, List.append_nil] at h₁
      · exact List.sublist_append_left ..
    | cons g' gs =>
      have happ' : l₁ ++ (g.cells ++ (new ++ (g' :: gs).flatMap ProfileCells.cells)) =
          (l₁ ++ (g.cells ++ new)) ++ (g' :: gs).flatMap ProfileCells.cells := by
        simp only [List.append_assoc]
      rw [happ'] at h₁
      obtain ⟨m', l, hrun, hm', hsub, hdata⟩ := insertOsIdLoop_run al id uid h₁
      refine ⟨m', g.cells ++ new ++ l, ?_, ?_, ?_, ?_⟩
      · rw [List.length_cons, hturn, List.flatMap_cons]
        have hnode : m₁.heap g'.package = some ⟨last none (l₁ ++ (g.cells ++ new)),
          some g'.varientId, some (.text g'.name)⟩ := h₁.node
        exact (deref_bind hnode _).trans hrun
      · rwa [List.append_assoc] at hm'
      · rw [List.flatMap_cons, List.append_assoc]
        exact (List.Sublist.refl _).append (hsub.trans (List.sublist_append_right ..))
      · rw [List.map_append, hdata, List.flatMap_cons, List.map_append]
        rfl

omit [DecidableEq A] in
theorem length_flatMap_cells : ∀ gs : List (ProfileCells A),
    (gs.flatMap ProfileCells.cells).length = gs.length * 2
  | [] => rfl
  | _ :: gs => by
    rw [List.flatMap_cons, List.length_append, length_flatMap_cells gs, List.length_cons,
      Nat.succ_mul, Nat.add_comm]
    rfl

/-- A list of packages and their varients becomes one of five elements a package. -/
theorem cbcosInsertOsIdUserIntoList_run (al : Allocator A (Option AilsaData)) {id : ℕ} (uid : ℕ)
    {gs : List (ProfileCells A)} (hid : id ≠ 0) (hgs : gs ≠ [])
    (h : m.Has (gs.flatMap ProfileCells.cells) ls) :
    ∃ m' l, Mem.cbcosInsertOsIdUserIntoList al uid id m = (.ok 0, m') ∧ m'.Has l ls ∧
      (gs.flatMap ProfileCells.cells).Sublist l ∧
      l.map Prod.snd = (gs.flatMap fun g => (g.forOs id uid).data).map some := by
  obtain ⟨g, gs, rfl⟩ := List.exists_cons_of_ne_nil hgs
  have hnil : m.Has ([] ++ (g :: gs).flatMap ProfileCells.cells) ls := h
  obtain ⟨m', l, hrun, hm', hsub, hdata⟩ := insertOsIdLoop_run al id uid hnil
  have hnode : m.heap g.package = some ⟨none, some g.varientId, some (.text g.name)⟩ := hnil.node
  have htotal : m.list.total / 2 = (g :: gs).length := by
    rw [h.list, ailListOf, length_flatMap_cells, Nat.mul_div_cancel _ (by decide)]
  have hhead : m.list.head = some g.package := by
    rw [h.list]
    rfl
  refine ⟨m', l, ?_, hm', hsub, hdata⟩
  rw [Mem.cbcosInsertOsIdUserIntoList, if_neg hid, getList_bind, hhead, deref_bind hnode, htotal]
  exact hrun

end Walk

/-! ## The command on the tables -/

/-- The list in memory is the one the command goes on with. -/
theorem insertOsIdUser_flatMap {A : Type} (id uid : ℕ) : ∀ gs : List (ProfileCells A),
    insertOsIdUser id uid ((gs.flatMap ProfileCells.cells).filterMap Prod.snd) =
      gs.flatMap fun g => (g.forOs id uid).data
  | [] => rfl
  | _ :: gs => congrArg (_ :: _ :: _ :: _ :: _ :: ·) (insertOsIdUser_flatMap id uid gs)

/-- A package as it is read, for another OS. -/
def PackageRow.forOs (p : PackageRow) (id uid : ℕ) : NewPackage :=
  ⟨p.package.take sqlTextMax, p.varientId, id, uid, uid⟩

/-- A row of the answer. -/
def profileValues (p : PackageRow) : List Value :=
  [storeBasic (.text p.package), storeBasic (.int p.varientId)]

theorem insertOsIdUser_packages (id uid : ℕ) : ∀ ps : List PackageRow,
    insertOsIdUser id uid ((ps.map profileValues).flatten.map valueData) =
      (ps.map fun p => p.forOs id uid).flatMap NewPackage.data
  | [] => rfl
  | _ :: ps => congrArg (_ :: _ :: _ :: _ :: _ :: ·) (insertOsIdUser_packages id uid ps)

theorem packageDetailOnOsId_eq (db : PackageDb) (id : ℕ) :
    db.argumentQuery packageDetailOnOsId [.number id] =
      .ok ((db.packages.filter fun p => p.osId = id).map profileValues) := by
  have hprep : Sql.prepare db.tables packageDetailOnOsId.query =
      some (.select ⟨[⟨none, "package".toList⟩, ⟨none, "varient_id".toList⟩],
        .table "packages".toList, .param ⟨none, "os_id".toList⟩ 0, [], false, none⟩) :=
    Sql.prepare_eq_some (by decide +kernel) rfl
  have hquery : db.argumentQuery packageDetailOnOsId [.number id] = _ :=
    PackageDb.argumentQuery_table hprep rfl rfl rfl le_rfl (show 1 < 2 ^ 31 by decide)
  refine hquery.trans ?_
  refine congrArg (fun ps : List PackageRow => Except.ok (ps.map profileValues)) ?_
  refine List.filter_congr fun p _ => decide_eq_decide.mpr ?_
  exact Sql.Value.nat_equals_nat

/-- The OSes of a build type and an architecture, the latest first. -/
def PackageDb.osesOfKind (db : PackageDb) (btId : ℕ) (arch : CStr) : List OsRow :=
  (db.buildOs.filter fun o => o.btId = some btId ∧ o.arch = some arch).mergeSort
    fun o o' => o'.ctime ≤ o.ctime

/-- `osFromBuildTypeAndArch` as it is read. -/
def osFromSelect : Sql.Select :=
  ⟨[⟨none, "os_id".toList⟩], .table "build_os".toList,
    .and (.param ⟨none, "bt_id".toList⟩ 0) (.param ⟨none, "arch".toList⟩ 1),
    [⟨none, "ctime".toList⟩], true, some 2⟩

def OsRow.values (o : OsRow) : Sql.Row := Sql.ofTable (Sql.valueOf OsRow.columns o)

/-- The answer is sorted by `ctime`. -/
theorem before_osFromSelect (o o' : OsRow) :
    osFromSelect.before o.values o'.values = decide (o'.ctime ≤ o.ctime) := by
  have hbefore : osFromSelect.before o.values o'.values =
      if Value.int o'.ctime = .int o.ctime then true else decide ((o'.ctime : ℤ) ≤ o.ctime) := rfl
  rw [hbefore]
  simp only [Value.int.injEq, Nat.cast_inj, Nat.cast_le]
  split
  · next heq => exact (decide_eq_true heq.le).symm
  · rfl

@[simp] theorem numberOrNull_equals {n : Option ℕ} {k : ℕ} :
    (numberOrNull n).Equals (.int k) ↔ n = some k := by
  cases n <;> simp [numberOrNull]

theorem osFromBuildTypeAndArch_eq (db : PackageDb) (btId : ℕ) {arch : CStr}
    (h : arch.length ≤ configLen) :
    db.argumentQuery osFromBuildTypeAndArch
        (cmdbAddStringToList arch (cmdbAddNumberToList btId [])) =
      .ok (((db.osesOfKind btId arch).take 2).map fun o => [.int o.id]) := by
  have hprep : Sql.prepare db.tables osFromBuildTypeAndArch.query = some (.select osFromSelect) :=
    Sql.prepare_eq_some (by decide +kernel) rfl
  have hlist : cmdbAddStringToList arch (cmdbAddNumberToList btId []) =
      [.number btId, .text arch] ++ [] := by
    rw [cmdbAddStringToList, arg_of_length_le h]
    rfl
  have hrows : db.argumentRows osFromBuildTypeAndArch ([.number btId, .text arch] ++ []) = _ :=
    PackageDb.argumentRows_eq [] hprep rfl rfl le_rfl (show 2 < 2 ^ 31 by decide)
  have hfound : osFromSelect.found db.tables (boundValue (dataCalls 0 [.number btId, .text arch])) =
      (db.buildOs.filter fun o => o.btId = some btId ∧ o.arch = some arch).map OsRow.values := by
    have hsource : db.tables "build_os".toList = some (.ofColumns OsRow.columns db.buildOs) := rfl
    rw [Sql.Select.found_map (Sql.Source.rows_table hsource)]
    refine congrArg (List.map OsRow.values) (List.filter_congr fun o _ => decide_eq_decide.mpr ?_)
    exact numberOrNull_equals.and textOrNull_equals
  rw [hlist, PackageDb.argumentQuery, hrows]
  refine congrArg Except.ok ?_
  have hanswer : osFromSelect.rows db.tables
      (boundValue (dataCalls 0 [.number btId, .text arch])) =
      ((db.osesOfKind btId arch).take 2).map OsRow.values := by
    rw [Sql.Select.rows, hfound, ← List.map_mergeSort (r := fun o o' => decide (o'.ctime ≤ o.ctime))
      fun o _ o' _ => (before_osFromSelect o o').symm]
    exact List.map_take.symm
  rw [hanswer, List.map_map]
  rfl

/-! ## A new OS -/

/-- What is inserted into `build_os`. -/
structure NewOs where
  os : CStr
  osVersion : CStr
  osAlias : CStr
  verAlias : CStr
  arch : CStr
  btId : ℕ
  arch_length : arch.length ≤ configLen

namespace NewOs

variable (o : NewOs)

/-- The elements of a list. -/
def data (uid : ℕ) : List AilsaData :=
  [.text o.os, .text o.osVersion, .text o.osAlias, .text o.verAlias, .text o.arch,
    .number o.btId, .number uid, .number uid]

def row (id ctime : ℕ) : OsRow :=
  ⟨id, o.os, some o.osVersion, some o.osAlias, o.verAlias, some o.arch, some o.btId, ctime⟩

end NewOs

namespace PackageDb

variable (db : PackageDb)

/-- The OS is appended. -/
def addOs (o : OsRow) (h : o.id ∉ db.buildOs.map OsRow.id) : PackageDb :=
  { db with
    buildOs := db.buildOs ++ [o]
    osIds := by
      rw [List.map_append, List.map_singleton]
      exact db.osIds.append (List.nodup_singleton _) (List.disjoint_singleton.mpr h)
    osKnown := fun p hp =>
      let ⟨o', ho', hid⟩ := db.osKnown p hp
      ⟨o', List.mem_append_left _ ho', hid⟩ }

/-- The packages of an OS. -/
def packagesOf (id : ℕ) : List PackageRow := db.packages.filter fun p => p.osId = id

variable {db} {btId : ℕ} {arch : CStr}

theorem pairwise_osesOfKind (db : PackageDb) (btId : ℕ) (arch : CStr) :
    (db.osesOfKind btId arch).Pairwise fun o o' => o'.ctime ≤ o.ctime := by
  refine (List.pairwise_mergeSort ?_ ?_ _).imp of_decide_eq_true
  · intro a b c hab hbc
    rw [decide_eq_true_eq] at hab hbc ⊢
    exact hbc.trans hab
  · intro a b
    rw [Bool.or_eq_true, decide_eq_true_eq, decide_eq_true_eq]
    exact le_total b.ctime a.ctime

theorem osesOfKind_addOs_perm {new : OsRow} (h : new.id ∉ db.buildOs.map OsRow.id)
    (hbt : new.btId = some btId) (harch : new.arch = some arch) :
    ((db.addOs new h).osesOfKind btId arch).Perm
      (new :: db.buildOs.filter fun o => o.btId = some btId ∧ o.arch = some arch) := by
  rw [osesOfKind, addOs, List.filter_append, List.filter_cons_of_pos (by simp [hbt, harch]),
    List.filter_nil]
  exact (List.mergeSort_perm _ _).trans (List.perm_append_singleton new _)

/-- What is later than all others comes first in a list with the latest first. -/
theorem exists_cons_of_latest {α : Type} {time : α → ℕ} {a : α} {s l : List α}
    (hperm : l.Perm (a :: s)) (hsorted : l.Pairwise fun x y => time y ≤ time x)
    (hlate : ∀ x ∈ s, time x < time a) : ∃ rest, l = a :: rest ∧ rest.Perm s := by
  cases l with
  | nil => exact absurd hperm.length_eq.symm (Nat.succ_ne_zero _)
  | cons x rest =>
    obtain rfl : x = a := by
      by_contra hne
      have hx := (List.mem_cons.mp (hperm.subset (List.mem_cons_self ..))).resolve_left hne
      have ha := (List.mem_cons.mp (hperm.symm.subset (List.mem_cons_self ..))).resolve_left
        (Ne.symm hne)
      exact absurd ((List.pairwise_cons.mp hsorted).1 a ha) (Nat.not_le_of_lt (hlate x hx))
    exact ⟨rest, rfl, hperm.cons_inv⟩

/-- The latest OS comes first, and the latest of those before it second. -/
theorem exists_osesOfKind {new : OsRow} (h : new.id ∉ db.buildOs.map OsRow.id)
    (hbt : new.btId = some btId) (harch : new.arch = some arch)
    (hlate : ∀ o ∈ db.buildOs, o.ctime < new.ctime)
    (hold : ∃ o ∈ db.buildOs, o.btId = some btId ∧ o.arch = some arch) :
    ∃ old ∈ db.buildOs, (old.btId = some btId ∧ old.arch = some arch) ∧
      (∀ o ∈ db.buildOs, o.btId = some btId → o.arch = some arch → o.ctime ≤ old.ctime) ∧
      ((db.addOs new h).osesOfKind btId arch).take 2 = [new, old] := by
  have hmem {o : OsRow} : (o ∈ db.buildOs.filter fun o => o.btId = some btId ∧ o.arch = some arch) ↔
      o ∈ db.buildOs ∧ o.btId = some btId ∧ o.arch = some arch := by
    rw [List.mem_filter, decide_eq_true_iff]
  have hsorted := pairwise_osesOfKind (db.addOs new h) btId arch
  obtain ⟨rest, heq, hrest⟩ := exists_cons_of_latest (osesOfKind_addOs_perm h hbt harch) hsorted
    fun o ho => hlate o (hmem.mp ho).1
  rw [heq] at hsorted ⊢
  obtain ⟨o, ho, hkind⟩ := hold
  cases rest with
  | nil => exact absurd (hrest.symm.subset (hmem.mpr ⟨ho, hkind⟩)) List.not_mem_nil
  | cons old rest =>
    obtain ⟨hdb, hold⟩ := hmem.mp (hrest.subset (List.mem_cons_self ..))
    refine ⟨old, hdb, hold, fun o ho hbt harch => ?_, rfl⟩
    obtain rfl | ho' := List.mem_cons.mp (hrest.symm.subset (hmem.mpr ⟨ho, hbt, harch⟩))
    · exact le_rfl
    · exact (List.pairwise_cons.mp (List.pairwise_cons.mp hsorted).2).1 o ho'

end PackageDb

section Profile

variable {env : CallEnv ProfileCall} {db : PackageDb}

/-- The command on the tables, once the two OSes are found. -/
theorem cbcosCreateOsProfile_run {o : NewOs} {uid : ℕ} {new old : OsRow}
    (hserved : ∀ call, env.served call = true) (hid : new.id ≠ 0)
    (hos : (db.osesOfKind o.btId o.arch).take 2 = [new, old]) :
    cbcosCreateOsProfile env (o.data uid) db =
      if db.packagesOf old.id = [] then (.ok (), db)
      else PackageDb.insertPackages
        (((db.packagesOf old.id).map fun p => p.forOs new.id env.uid).flatMap NewPackage.data)
        db := by
  have hresults := osFromBuildTypeAndArch_eq db o.btId o.arch_length
  rw [hos] at hresults
  have hpack : db.argumentQuery packageDetailOnOsId [.number old.id] =
      .ok ((db.packagesOf old.id).map profileValues) := packageDetailOnOsId_eq db old.id
  simp only [cbcosCreateOsProfile, NewOs.data]
  rw [CallEnv.query_bind_ok (g := fun db => db.argumentQuery osFromBuildTypeAndArch _)
    (hserved _) hresults]
  simp only [List.map_cons, List.map_nil, List.flatten_cons, List.flatten_nil, valueData,
    List.append_nil, List.singleton_append, Int.toNat_natCast]
  rw [CallEnv.query_bind_ok (g := fun db => db.argumentQuery packageDetailOnOsId _)
    (hserved _) hpack]
  rw [Prog.ite_run]
  have hempty : ((db.packagesOf old.id).map profileValues).flatten ≠ [] ↔
      db.packagesOf old.id ≠ [] := by
    cases db.packagesOf old.id <;> simp [profileValues]
  by_cases hnil : db.packagesOf old.id = []
  · rw [if_neg (hempty.not.mpr (not_not.mpr hnil)), if_pos hnil]
    rfl
  · rw [if_pos (hempty.mpr hnil), if_neg hnil, cbcosInsertOsIdUserIntoList, if_neg hid,
      insertOsIdUser_packages]
    generalize ((db.packagesOf old.id).map fun p =>
      p.forOs new.id env.uid).flatMap NewPackage.data = pack
    have hreads : (Prog.reads fun _ => .ok pack : PackageProg (List AilsaData)) db =
      (.ok pack, db) := rfl
    rw [Prog.bind_run_ok hreads]
    exact CallEnv.query_bind_ok (g := fun _ => .ok ()) (hserved _) rfl

/-- The packages of the OSes, with their varients. -/
def PackageRow.profile (p : PackageRow) : CStr × ℕ := (p.package, p.varientId)

/-- No package has an OS that is not there. -/
theorem PackageDb.packagesOf_eq_nil {id : ℕ} (h : id ∉ db.buildOs.map OsRow.id) :
    db.packagesOf id = [] := by
  refine List.filter_eq_nil_iff.mpr fun p hp hid => h ?_
  obtain ⟨o, ho, hoid⟩ := db.osKnown p hp
  exact List.mem_map.mpr ⟨o, ho, hoid.trans (of_decide_eq_true hid)⟩

/-- What a new OS has once the packages of another one are inserted for it. -/
theorem PackageDb.packagesOf_addPackages {id uid : ℕ} {ps : List PackageRow}
    (h : db.packagesOf id = []) (hknown : ∀ r ∈ ps.map fun p => p.forOs id uid, db.Known r) :
    ((db.addPackages (ps.map fun p => p.forOs id uid) hknown).packagesOf id).map
        PackageRow.profile =
      ps.map fun p => (p.package.take sqlTextMax, p.varientId) := by
  have hall : ∀ p ∈ numberRows (nextId (db.packages.map PackageRow.id))
      (ps.map fun p => p.forOs id uid), decide (p.osId = id) = true := by
    intro p hp
    obtain ⟨r, hr, i, rfl⟩ := exists_of_mem_numberRows hp
    obtain ⟨q, -, rfl⟩ := List.mem_map.mp hr
    exact decide_eq_true rfl
  have hold : (db.packages.filter fun p => p.osId = id) = [] := h
  rw [packagesOf, addPackages, List.filter_append, hold, List.nil_append,
    List.filter_eq_self.mpr hall,
    map_numberRows (g := fun r => (r.package, r.varientId)) fun _ _ => rfl, List.map_map]
  rfl

/-- A new OS gets the packages of the latest OS before it of its build type and architecture. -/
theorem cbcosCreateOsProfile_packages {o : NewOs} {id ctime : ℕ}
    (hserved : ∀ call, env.served call = true) (hid : id ≠ 0)
    (hnew : id ∉ db.buildOs.map OsRow.id) (hlate : ∀ o' ∈ db.buildOs, o'.ctime < ctime)
    (hold : ∃ o' ∈ db.buildOs, o'.btId = some o.btId ∧ o'.arch = some o.arch) :
    ∃ old ∈ db.buildOs, (old.btId = some o.btId ∧ old.arch = some o.arch) ∧
      (∀ o' ∈ db.buildOs, o'.btId = some o.btId → o'.arch = some o.arch → o'.ctime ≤ old.ctime) ∧
      (5 * (db.packagesOf old.id).length < 2 ^ 31 →
        ∃ db', cbcosCreateOsProfile env (o.data env.uid) (db.addOs (o.row id ctime) hnew) =
            (.ok (), db') ∧
          (db'.packagesOf id).map PackageRow.profile =
            (db.packagesOf old.id).map fun p => (p.package.take sqlTextMax, p.varientId)) := by
  have hrow : (o.row id ctime).id ∉ db.buildOs.map OsRow.id := hnew
  obtain ⟨old, hmem, hkind, hlatest, hos⟩ := PackageDb.exists_osesOfKind hrow rfl rfl hlate hold
  refine ⟨old, hmem, hkind, hlatest, fun hlt => ?_⟩
  have hrun : cbcosCreateOsProfile env (o.data env.uid) _ = _ :=
    cbcosCreateOsProfile_run hserved hid hos
  have hsame : (db.addOs (o.row id ctime) hnew).packagesOf old.id = db.packagesOf old.id := rfl
  have hnil : (db.addOs (o.row id ctime) hnew).packagesOf id = [] :=
    db.packagesOf_eq_nil hnew
  rw [hsame] at hrun
  by_cases hempty : db.packagesOf old.id = []
  · refine ⟨_, hrun.trans (if_pos hempty), ?_⟩
    rw [hnil, hempty]
    rfl
  · have hknown : ∀ r ∈ (db.packagesOf old.id).map fun p => p.forOs id env.uid,
        (db.addOs (o.row id ctime) hnew).Known r := by
      intro r hr
      obtain ⟨p, hp, rfl⟩ := List.mem_map.mp hr
      exact ⟨db.varientKnown p (List.mem_of_mem_filter hp), o.row id ctime,
        List.mem_append_right _ (List.mem_singleton.mpr rfl), rfl⟩
    refine ⟨_, (hrun.trans (if_neg hempty)).trans (insertPackages_eq ?_ ?_ hknown), ?_⟩
    · exact fun h => hempty (List.map_eq_nil_iff.mp h)
    · rwa [List.length_map]
    · exact PackageDb.packagesOf_addPackages hnil hknown

end Profile

/-- The list becomes groups of five elements, the old ones as they were. -/
def InsertsOsId {A : Type} [DecidableEq A] (al : Allocator A (Option AilsaData))
    (gs : List (ProfileCells A)) (m : ListMem A AilsaData)
    (ls : List (List (A × Option AilsaData))) (id uid : ℕ) : Prop :=
  ∃ m' l, Mem.cbcosInsertOsIdUserIntoList al uid id m = (.ok 0, m') ∧ m'.Has l ls ∧
    (gs.flatMap ProfileCells.cells).Sublist l ∧
    l.map Prod.snd = (gs.flatMap fun g => [.text g.name, .number g.vid, .number id,
      .number uid, .number uid]).map some

/-- A new OS has the packages of the latest one of its kind before it. -/
theorem cbcosCreateOsProfile_inherits {A : Type} [DecidableEq A]
    (al : Allocator A (Option AilsaData)) :
    (∀ (gs : List (ProfileCells A)) (m : ListMem A AilsaData)
        (ls : List (List (A × Option AilsaData))) (id uid : ℕ), gs ≠ [] → id ≠ 0 →
      m.Has (gs.flatMap ProfileCells.cells) ls → InsertsOsId al gs m ls id uid) ∧
    ∀ (env : CallEnv ProfileCall) (db : PackageDb) (o : NewOs) (id ctime : ℕ)
      (hnew : id ∉ db.buildOs.map OsRow.id), (∀ call, env.served call = true) → id ≠ 0 →
      (∀ o' ∈ db.buildOs, o'.ctime < ctime) →
      (∃ o' ∈ db.buildOs, o'.btId = some o.btId ∧ o'.arch = some o.arch) →
      ∃ old ∈ db.buildOs, (old.btId = some o.btId ∧ old.arch = some o.arch) ∧
        (∀ o' ∈ db.buildOs, o'.btId = some o.btId → o'.arch = some o.arch →
          o'.ctime ≤ old.ctime) ∧
        (5 * (db.packagesOf old.id).length < 2 ^ 31 →
          ∃ db', cbcosCreateOsProfile env (o.data env.uid) (db.addOs (o.row id ctime) hnew) =
              (.ok (), db') ∧
            (db'.packagesOf id).map PackageRow.profile =
              (db.packagesOf old.id).map fun p => (p.package.take sqlTextMax, p.varientId)) :=
  ⟨fun _ _ _ _ uid hgs hid h => cbcosInsertOsIdUserIntoList_run al uid hid hgs h,
    fun _ _ _ _ _ hnew hserved hid hlate hold =>
      cbcosCreateOsProfile_packages hserved hid hnew hlate hold⟩

/-- One package on a list, and its varient. -/
def vimCells : List (ProfileCells ℕ) := [⟨1, 2, "vim".toList, 1⟩]

def vimMem : ListMem ℕ AilsaData :=
  ⟨heapOf none (vimCells.flatMap ProfileCells.cells),
    ailListOf (vimCells.flatMap ProfileCells.cells), []⟩

theorem has_vimMem : vimMem.Has (vimCells.flatMap ProfileCells.cells) [] :=
  ⟨rfl, apart_heapOf (by decide)⟩

/-- `cbcos -a -n debian -o 8 -s deb -e jessie -t x86_64` -/
def jessie : NewOs :=
  ⟨"debian".toList, "8".toList, "deb".toList, "jessie".toList, "x86_64".toList, 1, by decide⟩

theorem cbcosCreateOsProfile_inherits_jessie :
    InsertsOsId freeAddress vimCells vimMem [] 3 0 ∧
    ∃ db', cbcosCreateOsProfile ⟨fun _ => true, 0⟩ (jessie.data 0)
        (twoArchs.addOs (jessie.row 3 3) (by decide)) = (.ok (), db') ∧
      (db'.packagesOf 3).map PackageRow.profile = [("vim".toList, 1)] := by
  obtain ⟨hmem, hdb⟩ := cbcosCreateOsProfile_inherits (A := ℕ) freeAddress
  refine ⟨hmem vimCells vimMem [] 3 0 (by decide) (by decide) has_vimMem, ?_⟩
  obtain ⟨old, hold, ⟨-, harch⟩, -, h⟩ := hdb ⟨fun _ => true, 0⟩ twoArchs jessie 3 3 (by decide)
    (fun _ => rfl) (by decide) (by decide) (by decide)
  -- the other OS is of another architecture
  obtain rfl : old = ⟨1, "debian".toList, some "7.10".toList, some "deb".toList,
      "wheezy".toList, some "x86_64".toList, some 1, 1⟩ := by
    obtain hold | hold := List.mem_cons.mp hold
    · exact hold
    · obtain rfl := List.mem_singleton.mp hold
      exact absurd harch (by decide)
  exact h (by decide)

/-- An id `0` is refused. -/
theorem not_insertsOsId : ¬InsertsOsId freeAddress vimCells vimMem [] 0 0 := by
  rintro ⟨m', l, hrun, -⟩
  rw [Mem.cbcosInsertOsIdUserIntoList, if_pos rfl] at hrun
  cases (Prod.mk.inj hrun).1

end Cmdb
