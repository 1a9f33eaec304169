import Cmdb.CustomerDb

/-!
# Servers and their hardware

The tables of the inventory, and what `mkvm` enters there for a virtual machine : a server,
and four rows of hardware in one statement.
-/

namespace Cmdb

open CString

/-! ## Tables -/

/-- A row of `server`, with all its columns. -/
structure ServerRow where
  id : ℕ
  name : CStr
  make : CStr
  model : CStr
  vendor : CStr
  uuid : CStr
  custId : ℕ
  vmServerId : ℕ
deriving DecidableEq, Repr

/-- A row of `hardware`, less its own id. -/
structure HardwareRow where
  serverId : ℕ
  hardTypeId : ℕ
  detail : CStr
  device : CStr
deriving DecidableEq, Repr

/-- A row of `hard_type`. -/
structure HardType where
  id : ℕ
  type : CStr
  hclass : CStr
deriving DecidableEq, Repr

/-- A row of `vm_server_hosts`. -/
structure VmServerHost where
  id : ℕ
  vmServer : CStr
deriving DecidableEq, Repr

/-- The tables of the inventory. -/
structure InventoryDb where
  servers : List ServerRow
  hardware : List HardwareRow
  hardTypes : List HardType
  vmServerHosts : List VmServerHost
  cust : CustomerDb
deriving DecidableEq, Repr

/-- A command on the inventory. -/
abbrev InventoryProg (α : Type) := Prog InventoryDb AilsaError α

/-! ## Statements -/

/-- The row an insert list stands for. -/
def newServer (id : ℕ) (l : List AilsaData) : Option ServerRow :=
  match l with
  | .text name :: .text make :: .text model :: .text vendor :: .text uuid :: .number custId ::
      .number vmServerId :: _ => some ⟨id, name, make, model, vendor, uuid, custId, vmServerId⟩
  | _ => none

/-- The rows of a list for `INSERT_HARDWARE`, six elements each. A number where a text is
bound is read as a pointer, and a text bound as an id refers to no row. -/
def newHardware : List AilsaData → Option (List HardwareRow)
  | [] => some []
  | .number serverId :: .number hardTypeId :: .text detail :: .text device :: .number _ ::
      .number _ :: rest => (newHardware rest).map (⟨serverId, hardTypeId, detail, device⟩ :: ·)
  | _ => none

namespace InventoryDb

variable (db : InventoryDb)

/-- `SERVER_ID_ON_NAME`. -/
def serverIds (name : CStr) : List ℕ := (db.servers.filter (·.name = name)).map ServerRow.id

/-- `HARDWARE_TYPE_ID_ON_CLASS`. -/
def hardTypeIds (hclass : CStr) : List ℕ :=
  (db.hardTypes.filter (·.hclass = hclass)).map HardType.id

/-- `VM_SERVER_ID_ON_NAME`. -/
def vmServerIds (name : CStr) : List ℕ :=
  (db.vmServerHosts.filter (·.vmServer = name)).map VmServerHost.id

/-- `INSERT_SERVER`. -/
def insertServer (l : List AilsaData) : InventoryDb :=
  { db with servers := db.servers ++
      (newServer (nextId (db.servers.map ServerRow.id)) l).toList }

/-- `INSERT_HARDWARE` on several rows. -/
def insertHardware (rows : List HardwareRow) : InventoryDb :=
  { db with hardware := db.hardware ++ rows }

end InventoryDb

/-! ## Commands -/

/-- A virtual machine (`ailsa_mkvm_s`), as far as it is entered. -/
structure AilsaMkvm where
  name : Option CStr
  mac : Option CStr
  uuid : Option CStr
  coid : Option CStr
  size : ℕ
  ram : ℕ
  cpus : ℕ
deriving DecidableEq, Repr

/-- A call : its outcomes, what `gethostname` finds, the user and the machine. -/
structure MkvmCall where
  env : CbcEnv
  host : Option CStr
  uid : ℕ
  vm : AilsaMkvm

/-- A command on the customers. -/
def onCustomers {α : Type} (p : CustomerProg α) : InventoryProg α :=
  Prog.zoom InventoryDb.cust (fun db cust => { db with cust := cust }) p

/-- The end of `mkvm_fill_server_list` : the ids of the host, `0` if there is not one. -/
def addVmHost (uid : ℕ) (ids : List ℕ) (server : List AilsaData) : List AilsaData :=
  let server := server ++ ids.map .number
  let server := if server.length ≠ 7 then cmdbAddNumberToList 0 server else server
  cmdbPopulateCuserMuser uid server

/-- `mkvm_fill_server_list`. -/
def mkvmFillServerList (c : MkvmCall) (server : List AilsaData) :
    InventoryProg (List AilsaData) := do
  let server ← dbRet do
    let l ← addStringToList (some "Virtual Machine".toList) server
    let l ← addStringToList (some "x86_64".toList) l
    let l ← addStringToList (some "KVM".toList) l
    addStringToList c.vm.uuid l
  let id ← onCustomers (cmdbCheckAddCustId c.env c.vm.coid)
  let server := cmdbAddNumberToList id server
  if server.length ≠ 6 then return server
  else
    let vmServer ← dbRet (c.host.elim (.error .minusOne) .ok)
    let ids ← dbQuery (c.env.sql .vmServerIdOnName 0) fun db : InventoryDb =>
      db.vmServerIds (arg vmServer)
    Prog.require ((addVmHost c.uid ids server).length = 9) .minusOne
    return addVmHost c.uid ids server

/-- `cmdb_check_add_server_id_to_list`, on the inventory. -/
def checkAddServerId (env : CbcEnv) (call : ℕ) (name : CStr) : InventoryProg ℕ := do
  let ids ← dbQuery (env.sql .serverIdOnName call) fun db : InventoryDb => db.serverIds (arg name)
  match ids with
  | [id] => return id
  | _ => Prog.fail .serverNotFound

/-- One piece of the hardware of a virtual machine. -/
structure VmPart where
  hclass : CStr
  detail : Option CStr
  device : CStr
deriving DecidableEq, Repr

/-- A number and its unit, in a buffer of `MAC_LEN`. -/
def withUnit (n : ℕ) (unit : String) : CStr :=
  snprintf macLen (Nat.toDigits 10 n ++ ' ' :: unit.toList)

def AilsaMkvm.network (vm : AilsaMkvm) : VmPart :=
  ⟨"Network Card".toList, vm.mac, "eth0".toList⟩

def AilsaMkvm.disk (vm : AilsaMkvm) : VmPart :=
  ⟨"Hard Disk".toList, some (withUnit vm.size "GB"), "vda".toList⟩

def AilsaMkvm.cpu (vm : AilsaMkvm) : VmPart :=
  ⟨"Virtual CPU".toList, some (withUnit vm.cpus "vCPU"), "cpu".toList⟩

def AilsaMkvm.memory (vm : AilsaMkvm) : VmPart :=
  ⟨"Virtual RAM".toList, some (withUnit vm.ram "RAM"), "ram".toList⟩

/-- One of the four stretches of `cmdb_add_hardware_to_new_vm` : the server, the type of the
hardware, its detail and device, and the user. -/
def addVmPart (c : MkvmCall) (call serverId : ℕ) (p : VmPart) (l : List AilsaData) :
    InventoryProg (List AilsaData) := do
  let l := cmdbAddNumberToList serverId l
  let ids ← dbQuery (c.env.sql .hardwareTypeIdOnClass call) fun db : InventoryDb =>
    db.hardTypeIds (arg p.hclass)
  let l := l ++ ids.map .number
  let l ← dbRet (addStringToList p.detail l)
  let l ← dbRet (addStringToList (some p.device) l)
  return cmdbPopulateCuserMuser c.uid l

/-- The list `cmdb_add_hardware_to_new_vm` makes. -/
def vmHardwareList (c : MkvmCall) (serverId : ℕ) : InventoryProg (List AilsaData) := do
  let l ← addVmPart c 0 serverId c.vm.network []
  let l ← addVmPart c 1 serverId c.vm.disk l
  let l ← addVmPart c 2 serverId c.vm.cpu l
  addVmPart c 3 serverId c.vm.memory l

/-- `cmdb_add_hardware_to_new_vm`. A list of the wrong length is no error. -/
def cmdbAddHardwareToNewVm (c : MkvmCall) : InventoryProg Unit := do
  let name ← dbRet (c.vm.name.elim (.error .noData) .ok)
  let serverId ← checkAddServerId c.env 1 name
  let l ← vmHardwareList c serverId
  if l.length % 6 ≠ 0 then return ()
  else
    let rows ← dbRet ((newHardware l).elim (.error .nullDeref) .ok)
    dbStatement (c.env.sql .insertHardware 0) fun db : InventoryDb => db.insertHardware rows

/-- `mkvm_add_to_cmdb`. A server that exists is no error. -/
def mkvmAddToCmdb (c : MkvmCall) : InventoryProg Unit := do
  let name ← dbRet (c.vm.name.elim (.error .noData) .ok)
  let res ← dbQuery (c.env.sql .serverIdOnName 0) fun db : InventoryDb => db.serverIds (arg name)
  if 0 < res.length then return ()
  else
    let server ← mkvmFillServerList c [.text (arg name)]
    dbStatement (c.env.sql .insertServer 0) fun db : InventoryDb => db.insertServer server
    cmdbAddHardwareToNewVm c

end Cmdb
