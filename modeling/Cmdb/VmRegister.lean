import Cmdb.History
import Cmdb.Inventory
import Mathlib.Data.List.Nodup

/-!
# Registering a virtual machine again

`mkvm_add_to_cmdb` enters the server and then its hardware, and asks only whether the server
is there. A call that stops between the two leaves a server that every later call takes for
registered. `mkvmAddToCmdb_registered_iff` says when `0` is returned for a machine with its
four rows of hardware only.
-/

namespace Cmdb

open CString History

/-! ## Machines with their hardware -/

/-- The class of a type of hardware. -/
def InventoryDb.classOf (db : InventoryDb) (id : ℕ) : Option CStr :=
  (db.hardTypes.find? (·.id = id)).map HardType.hclass

/-- The hardware of a server, by class and device. -/
def InventoryDb.hardwareOf (db : InventoryDb) (serverId : ℕ) : List (Option CStr × CStr) :=
  (db.hardware.filter (·.serverId = serverId)).map fun h => (db.classOf h.hardTypeId, h.device)

/-- The pieces of a virtual machine. -/
def AilsaMkvm.parts (vm : AilsaMkvm) : List VmPart := [vm.network, vm.disk, vm.cpu, vm.memory]

/-- One server has the name, and its hardware is a network card, a hard disk, a CPU and RAM,
each once. -/
def Registered (db : InventoryDb) (name : CStr) : Prop :=
  ∃ s, db.servers.filter (·.name = arg name) = [s] ∧
    (db.hardwareOf s.id).Perm
      [(some "Network Card".toList, "eth0".toList), (some "Hard Disk".toList, "vda".toList),
        (some "Virtual CPU".toList, "cpu".toList), (some "Virtual RAM".toList, "ram".toList)]

/-- Hardware belongs to a server, and the ids of its types are unique. -/
structure InventoryDb.KeysOk (db : InventoryDb) : Prop where
  servers : ∀ h ∈ db.hardware, h.serverId ∈ db.servers.map ServerRow.id
  types : (db.hardTypes.map HardType.id).Nodup

/-! ## Conditions -/

namespace MkvmCall

variable (c : MkvmCall) (db : InventoryDb)

/-- The call gets to the insert of a new server, and it succeeds. -/
structure EntersServer (name : CStr) : Prop where
  query : c.env.sql .serverIdOnName 0 = true
  new : db.serverIds (arg name) = []
  uuid : c.vm.uuid ≠ none
  customer : ∃ id, (cmdbCheckAddCustId c.env c.vm.coid db.cust).1 = .ok id
  host : ∃ host, c.host = some host ∧ c.env.sql .vmServerIdOnName 0 = true ∧
    (db.vmServerIds (arg host)).length ≤ 1
  insert : c.env.sql .insertServer 0 = true

/-- The list of the hardware is made. -/
structure ListsHardware : Prop where
  query : c.env.sql .serverIdOnName 1 = true
  mac : c.vm.mac ≠ none
  types : ∀ call < 4, c.env.sql .hardwareTypeIdOnClass call = true

/-- The number of types found for the pieces. -/
def typesFound : ℕ := (c.vm.parts.map fun p => (db.hardTypeIds (arg p.hclass)).length).sum

/-- The list is made, its pieces are of one type each, and it is inserted. -/
structure EntersHardware : Prop where
  lists : c.ListsHardware
  types : ∀ p ∈ c.vm.parts, (db.hardTypeIds (arg p.hclass)).length = 1
  insert : c.env.sql .insertHardware 0 = true

/-- The list is made, but it is of no length for rows. -/
structure SkipsHardware : Prop where
  lists : c.ListsHardware
  types : (20 + c.typesFound db) % 6 ≠ 0

end MkvmCall

/-- A call that enters the server enters the hardware too; or it ends with an error, and
every later look-up of the server fails. -/
def AllEnter (name : CStr) : InventoryDb → List MkvmCall → Prop
  | _, [] => True
  | db, c :: calls =>
    (c.EntersServer db name → c.EntersHardware db ∨
      ¬c.SkipsHardware db ∧ ∀ c' ∈ calls, c'.env.sql .serverIdOnName 0 = false) ∧
    AllEnter name (mkvmAddToCmdb c db).2 calls

/-- `0` is returned only if the machine is registered. -/
def ReturnsRegistered (name : CStr) (db : InventoryDb) (c : MkvmCall) : Prop :=
  (mkvmAddToCmdb c db).1 = .ok () → Registered (mkvmAddToCmdb c db).2 name

/-- The inventory after a call. -/
def mkvmStep (db : InventoryDb) (c : MkvmCall) : InventoryDb := (mkvmAddToCmdb c db).2

/-! ## The list of the hardware -/

variable {c : MkvmCall} {db : InventoryDb} {name : CStr} {serverId call : ℕ}
  {p : VmPart} {l : List AilsaData}

/-- What a piece adds to the list. -/
def partData (uid serverId : ℕ) (ids : List ℕ) (p : VmPart) : List AilsaData :=
  .number serverId :: ids.map .number ++
    [.text (arg (p.detail.getD [])), .text (arg p.device), .number uid, .number uid]

theorem readOnly_addVmPart (c : MkvmCall) (call serverId : ℕ) (p : VmPart) (l : List AilsaData) :
    Prog.ReadOnly (addVmPart c call serverId p l) :=
  (readOnly_dbQuery _ _).bind fun _ => (readOnly_dbRet _).bind fun _ =>
    (readOnly_dbRet _).bind fun _ => Prog.ReadOnly.pure _

theorem addVmPart_ok_iff {l' : List AilsaData} : (addVmPart c call serverId p l db).1 = .ok l' ↔
    c.env.sql .hardwareTypeIdOnClass call = true ∧ p.detail ≠ none ∧
      l' = l ++ partData c.uid serverId (db.hardTypeIds (arg p.hclass)) p := by
  rw [addVmPart, (readOnly_dbQuery _ _).bind_ok_iff]
  simp only [(readOnly_dbRet _).bind_ok_iff, dbQuery_ok_iff]
  rcases hdetail : p.detail with _ | detail
  · refine iff_of_false ?_ fun h => h.2.1 rfl
    rintro ⟨_, _, _, h, -⟩
    cases h
  · constructor
    · rintro ⟨_, ⟨hquery, rfl⟩, _, h₁, _, h₂, h₃⟩
      cases h₁
      cases h₂
      cases h₃
      refine ⟨hquery, Option.some_ne_none _, ?_⟩
      simp [partData, hdetail, cmdbAddStringToList, cmdbAddNumberToList, cmdbPopulateCuserMuser]
    · rintro ⟨hquery, -, rfl⟩
      refine ⟨_, ⟨hquery, rfl⟩, _, rfl, _, rfl, ?_⟩
      simp [partData, hdetail, cmdbAddStringToList, cmdbAddNumberToList, cmdbPopulateCuserMuser]

/-- The list of all pieces. -/
def vmHardwareData (c : MkvmCall) (db : InventoryDb) (serverId : ℕ) (ps : List VmPart) :
    List AilsaData :=
  ps.flatMap fun p => partData c.uid serverId (db.hardTypeIds (arg p.hclass)) p

theorem readOnly_vmHardwareList (c : MkvmCall) (serverId : ℕ) :
    Prog.ReadOnly (vmHardwareList c serverId) :=
  (readOnly_addVmPart _ _ _ _ _).bind fun _ => (readOnly_addVmPart _ _ _ _ _).bind fun _ =>
    (readOnly_addVmPart _ _ _ _ _).bind fun _ => readOnly_addVmPart _ _ _ _ _

theorem vmHardwareList_ok_iff : (vmHardwareList c serverId db).1 = .ok l ↔
    (∀ call < 4, c.env.sql .hardwareTypeIdOnClass call = true) ∧ c.vm.mac ≠ none ∧
      l = vmHardwareData c db serverId c.vm.parts := by
  rw [vmHardwareList]
  simp only [(readOnly_addVmPart _ _ _ _ _).bind_ok_iff, addVmPart_ok_iff]
  constructor
  · rintro ⟨_, ⟨h₀, hmac, rfl⟩, _, ⟨h₁, -, rfl⟩, _, ⟨h₂, -, rfl⟩, h₃, -, rfl⟩
    refine ⟨fun call hcall => ?_, hmac, ?_⟩
    · interval_cases call
      · exact h₀
      · exact h₁
      · exact h₂
      · exact h₃
    · simp [vmHardwareData, AilsaMkvm.parts]
  · rintro ⟨h, hmac, rfl⟩
    refine ⟨_, ⟨h 0 (by decide), hmac, rfl⟩, _, ⟨h 1 (by decide), nofun, rfl⟩, _,
      ⟨h 2 (by decide), nofun, rfl⟩, h 3 (by decide), nofun, ?_⟩
    simp [vmHardwareData, AilsaMkvm.parts]

theorem length_vmHardwareData (c : MkvmCall) (db : InventoryDb) (serverId : ℕ) :
    (vmHardwareData c db serverId c.vm.parts).length = 20 + c.typesFound db := by
  simp [vmHardwareData, MkvmCall.typesFound, AilsaMkvm.parts, partData]
  omega

/-- A piece makes a row if one type is found for it, and no rows can be made otherwise. -/
theorem newHardware_partData (uid serverId : ℕ) (ids : List ℕ) (p : VmPart)
    (rest : List AilsaData) : newHardware (partData uid serverId ids p ++ rest) =
      match ids with
      | [id] => (newHardware rest).map
          (⟨serverId, id, arg (p.detail.getD []), arg p.device⟩ :: ·)
      | _ => none := by
  rcases ids with _ | ⟨id, _ | ⟨id', ids⟩⟩ <;> rfl

/-- The row of a piece. -/
def vmHardwareRow (db : InventoryDb) (serverId : ℕ) (p : VmPart) : HardwareRow :=
  ⟨serverId, (db.hardTypeIds (arg p.hclass)).headD 0, arg (p.detail.getD []), arg p.device⟩

/-- Rows are made if every piece has one type. -/
theorem newHardware_vmHardwareData (c : MkvmCall) (db : InventoryDb) (serverId : ℕ) :
    ∀ ps : List VmPart, newHardware (vmHardwareData c db serverId ps) =
      if ∀ p ∈ ps, (db.hardTypeIds (arg p.hclass)).length = 1 then
        some (ps.map (vmHardwareRow db serverId))
      else none
  | [] => rfl
  | p :: ps => by
    rw [vmHardwareData, List.flatMap_cons, newHardware_partData, ← vmHardwareData,
      newHardware_vmHardwareData c db serverId ps]
    simp only [List.forall_mem_cons, List.map_cons, vmHardwareRow]
    rcases db.hardTypeIds (arg p.hclass) with _ | ⟨id, _ | ⟨id', ids⟩⟩
    · exact (if_neg fun h => nomatch h.1).symm
    · simp only [List.length_singleton, true_and]
      split_ifs <;> rfl
    · exact (if_neg fun h => nomatch h.1).symm

theorem typesFound_of_one (h : ∀ p ∈ c.vm.parts, (db.hardTypeIds (arg p.hclass)).length = 1) :
    c.typesFound db = 4 := by
  rw [MkvmCall.typesFound, List.map_congr_left h]
  rfl

/-! ## Entering the hardware -/

theorem readOnly_checkAddServerId (env : CbcEnv) (call : ℕ) (name : CStr) :
    Prog.ReadOnly (checkAddServerId env call name) := by
  refine (readOnly_dbQuery _ _).bind fun ids => ?_
  split
  · exact Prog.ReadOnly.pure _
  · exact Prog.ReadOnly.fail _

theorem checkAddServerId_ok_iff {env : CbcEnv} (hid : db.serverIds (arg name) = [serverId])
    {id : ℕ} : (checkAddServerId env call name db).1 = .ok id ↔
      env.sql .serverIdOnName call = true ∧ id = serverId := by
  rw [checkAddServerId, (readOnly_dbQuery _ _).bind_ok_iff]
  simp only [dbQuery_ok_iff]
  constructor
  · rintro ⟨_, ⟨hquery, rfl⟩, h⟩
    rw [hid] at h
    exact ⟨hquery, (Except.ok.inj h).symm⟩
  · rintro ⟨hquery, rfl⟩
    refine ⟨_, ⟨hquery, rfl⟩, ?_⟩
    rw [hid]
    rfl

/-- For a server that is there the four rows are entered, or nothing is : then `0` is returned
for a list of a wrong length only. -/
theorem cmdbAddHardwareToNewVm_outcome (hname : c.vm.name = some name)
    (hid : db.serverIds (arg name) = [serverId]) :
    (c.EntersHardware db ∧ cmdbAddHardwareToNewVm c db =
      (.ok (), db.insertHardware (c.vm.parts.map (vmHardwareRow db serverId)))) ∨
    ¬c.EntersHardware db ∧ (cmdbAddHardwareToNewVm c db).2 = db ∧
      ((cmdbAddHardwareToNewVm c db).1 = .ok () ↔ c.SkipsHardware db) := by
  rw [cmdbAddHardwareToNewVm, hname, Option.elim_some, (readOnly_dbRet _).bind_run_of_ok rfl]
  -- without the list there is an error
  have hstop : ∀ {e : AilsaError}, ¬c.ListsHardware → ¬c.EntersHardware db ∧ db = db ∧
      ((.error e : Except AilsaError Unit) = .ok () ↔ c.SkipsHardware db) := fun h =>
    ⟨fun h' => h h'.lists, rfl, iff_of_false nofun fun h' => h h'.lists⟩
  obtain ⟨e, he, hrun⟩ | ⟨id, hid', hrun⟩ := (readOnly_checkAddServerId _ _ _).bind_cases _ db
  · rw [hrun]
    refine .inr (hstop fun h => ?_)
    exact nomatch he.symm.trans ((checkAddServerId_ok_iff hid).mpr ⟨h.query, rfl⟩)
  obtain ⟨hquery, rfl⟩ := (checkAddServerId_ok_iff hid).mp hid'
  rw [hrun]
  obtain ⟨e, he, hrun⟩ | ⟨l, hl, hrun⟩ := (readOnly_vmHardwareList _ _).bind_cases _ db
  · rw [hrun]
    refine .inr (hstop fun h => ?_)
    exact nomatch he.symm.trans (vmHardwareList_ok_iff.mpr ⟨h.types, h.mac, rfl⟩)
  obtain ⟨htypes, hmac, rfl⟩ := vmHardwareList_ok_iff.mp hl
  have hlists : c.ListsHardware := ⟨hquery, hmac, htypes⟩
  rw [hrun, Prog.ite_run, length_vmHardwareData]
  split_ifs with hskip
  · refine .inr ⟨fun h => hskip ?_, rfl, iff_of_true rfl ⟨hlists, hskip⟩⟩
    rw [typesFound_of_one h.types]
  rw [newHardware_vmHardwareData]
  by_cases hone : ∀ p ∈ c.vm.parts, (db.hardTypeIds (arg p.hclass)).length = 1
  swap
  · rw [if_neg hone]
    exact .inr ⟨fun h => hone h.types, rfl, iff_of_false nofun fun h => hskip h.types⟩
  rw [if_pos hone, Option.elim_some, (readOnly_dbRet _).bind_run_of_ok rfl, dbStatement_run]
  by_cases hinsert : c.env.sql .insertHardware 0 = true
  · rw [if_pos hinsert]
    exact .inl ⟨⟨hlists, hone, hinsert⟩, rfl⟩
  · rw [if_neg hinsert]
    exact .inr ⟨fun h => hinsert h.insert, rfl, iff_of_false nofun fun h => hskip h.types⟩

/-! ## Entering the server -/

theorem readOnly_mkvmFillServerList (c : MkvmCall) (l : List AilsaData) :
    Prog.ReadOnly (mkvmFillServerList c l) := by
  refine (readOnly_dbRet _).bind fun l => ?_
  refine ((readOnly_cmdbCheckAddCustId _ _).zoom fun _ => rfl).bind fun id => ?_
  dsimp only
  split_ifs
  · exact Prog.ReadOnly.pure _
  · exact (readOnly_dbRet _).bind fun _ => (readOnly_dbQuery _ _).bind fun _ =>
      (Prog.ReadOnly.require _ _).bind fun _ => Prog.ReadOnly.pure _

/-- Several hosts of one name make the list too long. -/
theorem length_addVmHost_iff {uid : ℕ} {ids : List ℕ} (hl : l.length = 6) :
    (addVmHost uid ids l).length = 9 ↔ ids.length ≤ 1 := by
  rcases ids with _ | ⟨id, _ | ⟨id', ids⟩⟩
  · simp [addVmHost, cmdbPopulateCuserMuser, cmdbAddNumberToList, hl]
  · simp [addVmHost, cmdbPopulateCuserMuser, cmdbAddNumberToList, hl]
  · refine iff_of_false ?_ (by simp)
    simp only [addVmHost, cmdbPopulateCuserMuser, cmdbAddNumberToList]
    split_ifs <;> simp [hl] <;> omega

theorem addVmHost_eq {uid : ℕ} {ids : List ℕ} (hl : l.length = 6) (hids : ids.length ≤ 1) :
    addVmHost uid ids l = l ++ [.number (ids.headD 0), .number uid, .number uid] := by
  rcases ids with _ | ⟨id, _ | ⟨id', ids⟩⟩
  · simp [addVmHost, cmdbPopulateCuserMuser, cmdbAddNumberToList, hl]
  · simp [addVmHost, cmdbPopulateCuserMuser, cmdbAddNumberToList, hl]
  · exact absurd hids (by simp)

/-- The list of a new server. -/
def serverData (uid : ℕ) (name uuid : CStr) (custId vmServerId : ℕ) : List AilsaData :=
  [.text name, .text "Virtual Machine".toList, .text "x86_64".toList, .text "KVM".toList,
    .text (arg uuid), .number custId, .number vmServerId, .number uid, .number uid]

theorem mkvmFillServerList_ok_iff : (mkvmFillServerList c [.text name] db).1 = .ok l ↔
    ∃ uuid id host, c.vm.uuid = some uuid ∧
      (cmdbCheckAddCustId c.env c.vm.coid db.cust).1 = .ok id ∧ c.host = some host ∧
      c.env.sql .vmServerIdOnName 0 = true ∧ (db.vmServerIds (arg host)).length ≤ 1 ∧
      l = serverData c.uid name uuid id ((db.vmServerIds (arg host)).headD 0) := by
  have hcust : Prog.ReadOnly (onCustomers (cmdbCheckAddCustId c.env c.vm.coid)) :=
    (readOnly_cmdbCheckAddCustId _ _).zoom fun _ => rfl
  rw [mkvmFillServerList, (readOnly_dbRet _).bind_ok_iff]
  simp only [hcust.bind_ok_iff]
  rcases huuid : c.vm.uuid with _ | uuid
  · refine iff_of_false ?_ ?_
    · rintro ⟨_, h, -⟩
      cases h
    · rintro ⟨_, _, _, h, -⟩
      cases h
  constructor
  · rintro ⟨_, h, id, hid, h'⟩
    cases h
    generalize hserver : cmdbAddNumberToList id _ = server at h'
    have hsix : server.length = 6 := by
      rw [← hserver]
      rfl
    rw [Prog.ite_run, if_neg (not_not.mpr hsix)] at h'
    obtain ⟨host, hhost, h'⟩ := (readOnly_dbRet _).bind_ok h'
    obtain ⟨ids, hids, h'⟩ := (readOnly_dbQuery _ _).bind_ok h'
    obtain ⟨_, hlen, h'⟩ := (Prog.ReadOnly.require _ _).bind_ok h'
    obtain ⟨hquery, rfl⟩ := dbQuery_ok_iff.mp hids
    have hlen := (length_addVmHost_iff hsix).mp (of_decide_eq_true (Prog.require_ok hlen))
    rw [addVmHost_eq hsix hlen, ← hserver] at h'
    cases h'
    refine ⟨uuid, id, host, rfl, hid, ?_, hquery, hlen, rfl⟩
    rcases hsome : c.host with _ | host'
    · rw [hsome] at hhost
      cases hhost
    · rw [hsome] at hhost
      cases hhost
      rfl
  · rintro ⟨_, id, host, h, hid, hhost, hquery, hlen, rfl⟩
    cases h
    refine ⟨_, rfl, id, hid, ?_⟩
    generalize hserver : cmdbAddNumberToList id _ = server
    have hsix : server.length = 6 := by
      rw [← hserver]
      rfl
    rw [Prog.ite_run, if_neg (not_not.mpr hsix), hhost, Option.elim_some,
      (readOnly_dbRet _).bind_run_of_ok rfl,
      (readOnly_dbQuery _ _).bind_run_of_ok (dbQuery_ok_iff.mpr ⟨hquery, rfl⟩),
      decide_eq_true ((length_addVmHost_iff hsix).mpr hlen), addVmHost_eq hsix hlen, ← hserver]
    rfl

/-! ## A call -/

/-- A server is added to the table. -/
def InventoryDb.withServer (db : InventoryDb) (s : ServerRow) : InventoryDb :=
  { db with servers := db.servers ++ [s] }

/-- Where the server is there, `0` is returned if the look-up succeeds, and nothing is done. -/
theorem mkvmAddToCmdb_of_exists (hname : c.vm.name = some name)
    (hex : db.serverIds (arg name) ≠ []) : mkvmAddToCmdb c db =
      (if c.env.sql .serverIdOnName 0 then .ok () else .error .statementFail, db) := by
  rw [mkvmAddToCmdb, hname, Option.elim_some, (readOnly_dbRet _).bind_run_of_ok rfl]
  by_cases hquery : c.env.sql .serverIdOnName 0 = true
  · rw [(readOnly_dbQuery _ _).bind_run_of_ok (dbQuery_ok_iff.mpr ⟨hquery, rfl⟩), Prog.ite_run,
      if_pos (List.length_pos_iff.mpr hex), if_pos hquery]
    rfl
  · rw [if_neg hquery, dbQuery, Bool.eq_false_iff.mpr hquery]
    rfl

/-- Where it is not, it is entered and what follows runs on the new table, or nothing is done
and there is an error. -/
theorem mkvmAddToCmdb_outcome (hname : c.vm.name = some name)
    (hnew : db.serverIds (arg name) = []) :
    (c.EntersServer db name ∧ ∃ s : ServerRow, s.id = nextId (db.servers.map ServerRow.id) ∧
      s.name = arg name ∧ mkvmAddToCmdb c db = cmdbAddHardwareToNewVm c (db.withServer s)) ∨
    ¬c.EntersServer db name ∧ (mkvmAddToCmdb c db).1 ≠ .ok () ∧ (mkvmAddToCmdb c db).2 = db := by
  rw [mkvmAddToCmdb, hname, Option.elim_some, (readOnly_dbRet _).bind_run_of_ok rfl]
  by_cases hquery : c.env.sql .serverIdOnName 0 = true
  swap
  · refine .inr ⟨fun h => hquery h.query, ?_⟩
    rw [dbQuery, Bool.eq_false_iff.mpr hquery]
    exact ⟨nofun, rfl⟩
  rw [(readOnly_dbQuery _ _).bind_run_of_ok (dbQuery_ok_iff.mpr ⟨hquery, rfl⟩), Prog.ite_run,
    if_neg (by simp [hnew])]
  obtain ⟨e, he, hrun⟩ | ⟨l, hl, hrun⟩ := (readOnly_mkvmFillServerList _ _).bind_cases _ db
  · rw [hrun]
    refine .inr ⟨fun h => ?_, nofun, rfl⟩
    obtain ⟨uuid, huuid⟩ := Option.ne_none_iff_exists'.mp h.uuid
    obtain ⟨id, hid⟩ := h.customer
    obtain ⟨host, hhost, hq, hlen⟩ := h.host
    exact nomatch he.symm.trans
      (mkvmFillServerList_ok_iff.mpr ⟨uuid, id, host, huuid, hid, hhost, hq, hlen, rfl⟩)
  obtain ⟨uuid, id, host, huuid, hid, hhost, hq, hlen, rfl⟩ := mkvmFillServerList_ok_iff.mp hl
  rw [hrun, Prog.bind_run, dbStatement_run]
  by_cases hinsert : c.env.sql .insertServer 0 = true
  · rw [if_pos hinsert]
    exact .inl ⟨⟨hquery, hnew, huuid ▸ Option.some_ne_none _, ⟨id, hid⟩,
      ⟨host, hhost, hq, hlen⟩, hinsert⟩, _, rfl, rfl, rfl⟩
  · rw [if_neg hinsert]
    exact .inr ⟨fun h => hinsert h.insert, nofun, rfl⟩

/-- The new server is the only one of its name. -/
theorem filter_withServer {s : ServerRow} (hnew : db.serverIds (arg name) = [])
    (hs : s.name = arg name) : (db.withServer s).servers.filter (·.name = arg name) = [s] := by
  rw [InventoryDb.withServer, List.filter_append, List.map_eq_nil_iff.mp hnew, List.nil_append,
    List.filter_cons, if_pos (decide_eq_true hs), List.filter_nil]

theorem find?_of_nodup {α : Type} {ident : α → ℕ} {rows : List α} {a : α}
    (hrows : (rows.map ident).Nodup) (ha : a ∈ rows) :
    rows.find? (ident · = ident a) = some a := by
  obtain ⟨b, hb⟩ : ∃ b, rows.find? (ident · = ident a) = some b :=
    Option.isSome_iff_exists.mp (List.find?_isSome.mpr ⟨a, ha, by simp⟩)
  have heq : ident b = ident a := by simpa using List.find?_some hb
  rw [hb, List.inj_on_of_nodup_map hrows (List.mem_of_find?_eq_some hb) ha heq]

/-- The class of the one type found for a class. -/
theorem classOf_hardTypeIds (hdb : db.KeysOk) {hclass : CStr}
    (h : (db.hardTypeIds hclass).length = 1) :
    db.classOf ((db.hardTypeIds hclass).headD 0) = some hclass := by
  obtain ⟨id, hid⟩ := List.length_eq_one_iff.mp h
  have hmem : id ∈ db.hardTypeIds hclass := hid ▸ List.mem_singleton_self id
  obtain ⟨t, ht, rfl⟩ := List.mem_map.mp hmem
  obtain ⟨ht, hclass⟩ := List.mem_filter.mp ht
  rw [hid, List.headD_cons, InventoryDb.classOf]
  rw [find?_of_nodup hdb.types ht]
  exact congrArg some (of_decide_eq_true hclass)

/-- No hardware belongs to a new server. -/
theorem filter_hardware_new (hdb : db.KeysOk) {s : ServerRow}
    (hid : s.id = nextId (db.servers.map ServerRow.id)) :
    db.hardware.filter (·.serverId = s.id) = [] := by
  refine List.filter_eq_nil_iff.mpr fun h hh heq =>
    nextId_not_mem (db.servers.map ServerRow.id) ?_
  rw [← hid, ← of_decide_eq_true heq]
  exact hdb.servers h hh

/-- Without hardware the new server is not registered. -/
theorem not_registered_withServer (hdb : db.KeysOk) (hnew : db.serverIds (arg name) = [])
    {s : ServerRow} (hid : s.id = nextId (db.servers.map ServerRow.id)) (hs : s.name = arg name) :
    ¬Registered (db.withServer s) name := by
  rintro ⟨s', hs', hperm⟩
  obtain rfl : s = s' := List.singleton_inj.mp ((filter_withServer hnew hs).symm.trans hs')
  have hnone : (db.withServer s).hardwareOf s.id = [] :=
    List.map_eq_nil_iff.mpr (filter_hardware_new hdb hid)
  rw [hnone] at hperm
  exact absurd hperm.length_eq (by decide)

/-- With its hardware the new server is registered. -/
theorem registered_insertHardware (hdb : db.KeysOk) (hnew : db.serverIds (arg name) = [])
    {s : ServerRow} (hid : s.id = nextId (db.servers.map ServerRow.id)) (hs : s.name = arg name)
    (hone : ∀ p ∈ c.vm.parts, (db.hardTypeIds (arg p.hclass)).length = 1) :
    Registered ((db.withServer s).insertHardware (c.vm.parts.map (vmHardwareRow db s.id)))
      name := by
  refine ⟨s, filter_withServer hnew hs, ?_⟩
  have hall : (c.vm.parts.map (vmHardwareRow db s.id)).filter (·.serverId = s.id) =
      c.vm.parts.map (vmHardwareRow db s.id) := by
    refine List.filter_eq_self.mpr fun h hh => ?_
    obtain ⟨p, -, rfl⟩ := List.mem_map.mp hh
    exact decide_eq_true rfl
  have hclass : ∀ p ∈ c.vm.parts, db.classOf (vmHardwareRow db s.id p).hardTypeId =
      some (arg p.hclass) := fun p hp => classOf_hardTypeIds hdb (hone p hp)
  have hrows : ((db.withServer s).insertHardware
      (c.vm.parts.map (vmHardwareRow db s.id))).hardwareOf s.id =
        c.vm.parts.map fun p => (some (arg p.hclass), arg p.device) := by
    rw [InventoryDb.hardwareOf, InventoryDb.insertHardware, InventoryDb.withServer,
      List.filter_append, filter_hardware_new hdb hid, hall, List.nil_append, List.map_map]
    exact List.map_congr_left fun p hp => congrArg (·, arg p.device) (hclass p hp)
  rw [hrows]
  exact List.Perm.refl _

/-! ## Runs -/

/-- While the server is there, a run is right iff it is registered, or never found. -/
theorem each_registered_of_exists (hex : db.serverIds (arg name) ≠ []) : ∀ {calls : List MkvmCall},
    (∀ c ∈ calls, c.vm.name = some name) →
      (Each mkvmStep (ReturnsRegistered name) db calls ↔
        Registered db name ∨ ∀ c ∈ calls, c.env.sql .serverIdOnName 0 = false)
  | [], _ => iff_of_true trivial (.inr nofun)
  | c :: calls, hnames => by
    obtain ⟨hname, hnames⟩ := List.forall_mem_cons.mp hnames
    have hrun := mkvmAddToCmdb_of_exists hname hex
    have hstep : mkvmStep db c = db := congrArg Prod.snd hrun
    have hreturns : ReturnsRegistered name db c ↔
        (c.env.sql .serverIdOnName 0 = true → Registered db name) := by
      rw [ReturnsRegistered, hrun]
      cases c.env.sql .serverIdOnName 0
      · exact iff_of_true nofun nofun
      · exact ⟨fun h _ => h rfl, fun h _ => h rfl⟩
    rw [Each, hstep, each_registered_of_exists hex hnames, hreturns, List.forall_mem_cons]
    by_cases hreg : Registered db name
    · exact iff_of_true ⟨fun _ => hreg, .inl hreg⟩ (.inl hreg)
    · rw [or_iff_right hreg, or_iff_right hreg]
      exact and_congr_left fun _ => ⟨fun h => Bool.eq_false_iff.mpr fun hq => hreg (h hq),
        fun h hq => absurd (h.symm.trans hq) (by decide)⟩

/-- Where the server is there, no call enters it. -/
theorem allEnter_of_exists (hex : db.serverIds (arg name) ≠ []) : ∀ {calls : List MkvmCall},
    (∀ c ∈ calls, c.vm.name = some name) → AllEnter name db calls
  | [], _ => trivial
  | c :: calls, hnames => by
    obtain ⟨hname, hnames⟩ := List.forall_mem_cons.mp hnames
    refine ⟨fun h => absurd h.new hex, ?_⟩
    rw [mkvmAddToCmdb_of_exists hname hex]
    exact allEnter_of_exists hex hnames

/-- In every run of calls for one machine that is not there, `0` is returned for a registered
machine only iff no call leaves the server without its hardware for a later one to find. -/
theorem mkvmAddToCmdb_registered_iff (name : CStr) : ∀ (db : InventoryDb)
    (calls : List MkvmCall), db.KeysOk → db.serverIds (arg name) = [] →
      (∀ c ∈ calls, c.vm.name = some name) →
      (Each mkvmStep (ReturnsRegistered name) db calls ↔ AllEnter name db calls)
  | _, [], _, _, _ => Iff.rfl
  | db, c :: calls, hdb, hnew, hnames => by
    obtain ⟨hname, hnames⟩ := List.forall_mem_cons.mp hnames
    rw [Each, AllEnter, mkvmStep, ReturnsRegistered]
    obtain ⟨henters, s, hid, hs, hrun⟩ | ⟨hno, hret, hsame⟩ := mkvmAddToCmdb_outcome hname hnew
    swap
    · rw [hsame, mkvmAddToCmdb_registered_iff name db calls hdb hnew hnames]
      exact and_congr_left fun _ => iff_of_true (fun h => absurd h hret) fun h => absurd h hno
    have hfilter := filter_withServer hnew hs
    have hids : (db.withServer s).serverIds (arg name) = [s.id] := congrArg (List.map _) hfilter
    have hex : (db.withServer s).serverIds (arg name) ≠ [] := by
      rw [hids]
      exact List.cons_ne_nil _ _
    rw [hrun]
    obtain ⟨hhard, hrun⟩ | ⟨hhard, hsame, hret⟩ := cmdbAddHardwareToNewVm_outcome hname hids
    · have hreg := registered_insertHardware (c := c) hdb hnew hid hs hhard.types
      have hex' : ((db.withServer s).insertHardware
          (c.vm.parts.map (vmHardwareRow db s.id))).serverIds (arg name) ≠ [] := hex
      rw [hrun]
      refine iff_of_true ⟨fun _ => hreg, ?_⟩ ⟨fun _ => .inl ⟨hhard.lists, hhard.types,
        hhard.insert⟩, allEnter_of_exists hex' hnames⟩
      exact (each_registered_of_exists hex' hnames).mpr (.inl hreg)
    · -- the types are those of the table before
      have hnot := not_registered_withServer hdb hnew hid hs
      have hhard : ¬c.EntersHardware db := fun h => hhard ⟨h.lists, h.types, h.insert⟩
      have hskips : c.SkipsHardware (db.withServer s) ↔ c.SkipsHardware db :=
        ⟨fun h => ⟨h.lists, h.types⟩, fun h => ⟨h.lists, h.types⟩⟩
      rw [hsame, hret, hskips, each_registered_of_exists hex hnames, or_iff_right hnot]
      constructor
      · rintro ⟨hskip, hlater⟩
        exact ⟨fun _ => .inr ⟨fun h => hnot (hskip h), hlater⟩, allEnter_of_exists hex hnames⟩
      · rintro ⟨h, -⟩
        obtain ⟨hskip, hlater⟩ := (h henters).resolve_left hhard
        exact ⟨fun h => absurd h hskip, hlater⟩

/-- The types of hardware as they are set up, and a default customer. -/
def newInventory : InventoryDb where
  servers := []
  hardware := []
  hardTypes := [⟨1, "network".toList, "Network Card".toList⟩,
    ⟨2, "storage".toList, "Hard Disk".toList⟩, ⟨3, "cpu".toList, "Virtual CPU".toList⟩,
    ⟨4, "ram".toList, "Virtual RAM".toList⟩]
  vmServerHosts := []
  cust := ⟨[⟨1, "Example".toList, [], [], [], [], "EX01".toList⟩], [1]⟩

theorem newInventory_keysOk : newInventory.KeysOk := ⟨nofun, by decide⟩

/-- A call for the machine `web`, where one statement fails. -/
def callWithout (fails : Option CbcQuery) : MkvmCall where
  env := { allOk with sql := fun q _ => decide (some q ≠ fails) }
  host := some "kvm01".toList
  uid := 0
  vm := ⟨some "web".toList, some "52:54:00:00:00:01".toList, some "u".toList, none, 20, 1024, 1⟩

/-- After a call that could not enter the server, the next registers the machine. -/
theorem mkvmAddToCmdb_registered_iff_noServer :
    Each mkvmStep (ReturnsRegistered "web".toList) newInventory
      [callWithout (some .insertServer), callWithout none] := by
  have hsame : (mkvmAddToCmdb (callWithout (some .insertServer)) newInventory).2 =
      newInventory := by
    decide
  refine (mkvmAddToCmdb_registered_iff "web".toList newInventory _ newInventory_keysOk rfl
    (by decide)).mpr ⟨fun h => absurd h.insert (by decide), ?_⟩
  rw [hsame]
  exact ⟨fun _ => .inl ⟨⟨rfl, nofun, fun _ _ => rfl⟩, by decide, rfl⟩, trivial⟩

/-- After a call that could not enter the hardware, the next returns `0`. -/
theorem noHardware_not_registered :
    ¬Each mkvmStep (ReturnsRegistered "web".toList) newInventory
      [callWithout (some .insertHardware), callWithout none] := by
  rintro ⟨-, h, -⟩
  obtain ⟨s, -, hperm⟩ := h (by decide)
  have hnone : (mkvmAddToCmdb (callWithout none) (mkvmStep newInventory
      (callWithout (some .insertHardware)))).2.hardware = [] := by
    decide
  rw [InventoryDb.hardwareOf, hnone] at hperm
  cases hperm.length_eq

end Cmdb
