import Cmdb.CreateBuild
import Cmdb.DataLists

/-!
# The modification of a build

`ailsa_get_modified_build` on the list of the details of a build : each option that is given
looks a value up in the tables, on a list of its own, and puts a copy of the element it finds
in the place of one of the list. The tables are not changed by it.
-/

namespace Cmdb

open CString DoublyLinked Prog

/-- A return code. -/
abbrev Code := Except AilsaError Unit

/-- `BUILD_DETAILS_ON_SERVER_NAME` for one build. -/
def buildDetails (b : Build) : List AilsaData :=
  [.number b.varientId, .number b.osId, .number b.ipId, .number b.localeId, .number b.defSchemeId,
    .text b.macAddr, .text b.netInstInt]

/-- `BUILD_OS_DETAILS_ON_OS_ID`. -/
def BuildDb.osDetails (db : BuildDb) (id : ℕ) : List BuildOs := db.buildOs.filter (·.id = id)

/-- The array `os` of the name, the version and the architecture. -/
structure OsNames where
  os : Option CStr
  version : Option CStr
  arch : Option CStr

def OsNames.Partial (os : OsNames) : Prop := os.os = none ∨ os.version = none ∨ os.arch = none

instance (os : OsNames) : Decidable os.Partial :=
  inferInstanceAs (Decidable (os.os = none ∨ os.version = none ∨ os.arch = none))

variable {A : Type} [DecidableEq A] (al : Allocator A (Option AilsaData)) (env : CbcEnv)
  (db : BuildDb)

/-! ## Lookups -/

/-- `ailsa_argument_query`, which puts the values of the rows on the list. -/
def ailsaArgumentQuery (q : CbcQuery) (rows : List AilsaData) : ListProg A AilsaData Code := do
  if env.sql q 0 then
    insertAll al rows
    return .ok ()
  return .error .statementFail

/-- The ids of a lookup are put on the list. -/
def addIdsToList (l : Lookup) : ListProg A AilsaData Code :=
  match l with
  | none => pure (.error .noData)
  | some (q, g) => ailsaArgumentQuery al env q ((g db).map .number)

/-- A check that the list gets one element longer. -/
def checkOneMore (notFound : AilsaError) (add : ListProg A AilsaData Code) :
    ListProg A AilsaData Code := do
  let list ← getList
  let retval ← add
  match retval with
  | .error e => return .error e
  | .ok () =>
    let list' ← getList
    if list'.total ≠ list.total + 1 then
      return .error notFound
    return .ok ()

def cmdbCheckAddVarientIdToList (varient : CStr) : ListProg A AilsaData Code :=
  checkOneMore .varientNotFound (addIdsToList al env db (varientLookup (some varient)))

def cmdbCheckAddServerIdToList (server : CStr) : ListProg A AilsaData Code :=
  checkOneMore .serverNotFound
    (ailsaArgumentQuery al env .serverIdOnName ((db.serverIds (arg server)).map .number))

/-- `cmdb_get_full_os` : what is missing is that of the OS with the id. -/
def cmdbGetFullOs (os : OsNames) (osId : ℕ) : Except AilsaError OsNames :=
  if osId = 0 then .error .noData
  else if env.sql .buildOsDetailsOnOsId 0 then
    match db.osDetails osId with
    | [] => .error .noOs
    | b :: _ => .ok
      ⟨some (os.os.getD (b.os.take macLen)), some (os.version.getD (b.osVersion.take macLen)),
        some (os.arch.getD (b.arch.take macLen))⟩
  else .error .statementFail

/-! ## Options -/

/-- `cmdb_replace_data_element`, and the code `fail` for a failure. -/
def replaceElement (fail : AilsaError) (e : Option A) (position : ℕ) :
    ListProg A AilsaData Code := do
  let retval ← cmdbReplaceDataElement al e position
  if retval ≠ 0 then
    return .error fail
  return .ok ()

/-- An element is replaced by the first of `l`, if there is one. -/
def replaceFound (fail : AilsaError) (l : AilList A) (position : ℕ) :
    ListProg A AilsaData Code := do
  if 0 < l.total then
    replaceElement al fail l.head position
  else
    return .ok ()

/-- Go on unless there was an error. -/
def orFail (retval : Code) (next : ListProg A AilsaData Code) : ListProg A AilsaData Code :=
  match retval with
  | .error e => pure (.error e)
  | .ok () => next

def ailsaModifyBuildVarient (varient : CStr) : ListProg A AilsaData Code := do
  let (retval, l) ← onList (ailsaListInit true) (cmdbCheckAddVarientIdToList al env db varient)
  let retval ← orFail retval (replaceElement al .varientReplaceFail l.head 0)
  let _ ← onList l ailsaListClean
  return retval

/-- The option for one id, which may be missing in the tables. -/
def modifyBuildId (lookup : Lookup) (fail : AilsaError) (position : ℕ) :
    ListProg A AilsaData Code := do
  let (retval, l) ← onList (ailsaListInit true) (addIdsToList al env db lookup)
  let retval ← orFail retval (replaceFound al fail l position)
  let _ ← onList l ailsaListClean
  return retval

def ailsaModifyBuildPartitionScheme (partition : CStr) : ListProg A AilsaData Code :=
  modifyBuildId al env db (schemeLookup (some partition)) .partitionReplaceFail 4

def ailsaModifyBuildLocale (locale : CStr) : ListProg A AilsaData Code :=
  modifyBuildId al env db (localeLookup (some locale)) .localeReplaceFail 3

/-- The server and the device are put on a list. -/
def addServerAndDevice (netdev server : CStr) : ListProg A AilsaData Code := do
  let retval ← cmdbCheckAddServerIdToList al env db server
  orFail retval do
    insertAll al [.text (arg netdev)]
    return .ok ()

/-- The list `l` of the server and the device is that of the arguments of the query, and its
tail is the element for the device. -/
def ailsaModifyBuildNetcard (netdev server : CStr) : ListProg A AilsaData Code := do
  let (retval, l) ← onList (ailsaListInit true) (addServerAndDevice al env db netdev server)
  let (retval, m) ← onList (ailsaListInit true) (orFail retval do
    let args ← dataFrom 2 l.head
    ailsaArgumentQuery al env .macAddressForBuild ((db.macAddresses args).map .text))
  let retval ← orFail retval do
    if 0 < m.total then
      let retval ← replaceElement al .noData l.tail 6
      orFail retval (replaceElement al .noData m.head 5)
    else
      return .ok ()
  let _ ← onList l ailsaListClean
  let _ ← onList m ailsaListClean
  return retval

/-- `d->data->number`, which is not read of a text. -/
def numberOf : AilsaData → ListProg A AilsaData ℕ
  | .number n => pure n
  | .text _ => fail .badPointer

/-- The id of the OS of the build is in the second element of the list. -/
def ailsaModifyBuildOs (os : OsNames) : ListProg A AilsaData Code := do
  let list ← getList
  let head ← deref list.head
  let e ← deref head.next
  let full ← (
    if os.Partial then do
      let d ← dataOf e.data
      let osId ← numberOf d
      return cmdbGetFullOs env db os osId
    else
      return .ok os : ListProg A AilsaData (Except AilsaError OsNames))
  match full with
  | .error e => return .error e
  | .ok os => modifyBuildId al env db (osLookup os.os os.version os.arch) .osReplaceFail 1

/-- The names of the options for the OS, as the array `os` keeps them. -/
def osOption (cml : CbcCommLine) : Option OsNames :=
  if cml.os = none ∧ cml.osVersion = none ∧ cml.arch = none then none
  else some ⟨cml.os.map (·.take macLen), cml.osVersion.map (·.take serviceLen),
    cml.arch.map (·.take serviceLen)⟩

/-- `if (option) if ((retval = f(option)) != 0) goto cleanup;`, and then `rest`. -/
def onOption {α : Type} (option : Option α) (f : α → ListProg A AilsaData Code) (retval : Code)
    (rest : Code → ListProg A AilsaData Code) : ListProg A AilsaData Code :=
  match option with
  | none => rest retval
  | some a => do
    let retval ← f a
    orFail retval (rest (.ok ()))

def ailsaGetModifiedBuild (cml : CbcCommLine) : ListProg A AilsaData Code :=
  onOption cml.varient (ailsaModifyBuildVarient al env db) (.error .minusOne) fun retval =>
  onOption cml.partition (ailsaModifyBuildPartitionScheme al env db) retval fun retval =>
  onOption cml.locale (ailsaModifyBuildLocale al env db) retval fun retval =>
  onOption cml.netcard (fun netdev => ailsaModifyBuildNetcard al env db netdev cml.name) retval
    fun retval =>
  onOption (osOption cml) (ailsaModifyBuildOs al env db) retval pure

end Cmdb
