import Cmdb.Ailsa

/-!
# Command lines

The options of `cmdb` and `cbcvarient` once they are read, and the checks that decide
whether the programs go on with them.
-/

namespace Cmdb

open CString

/-- What a program is to do. -/
inductive CmdbAction
  | none | add | display | list | rm | mod | write | default | query | viewDefault | cbcServer
  | version
deriving DecidableEq, Repr

/-- The codes the checks return. -/
inductive UsageError
  | displayUsage | version | noAction | noType | noName | noCoid | noNameOrId | noContactName
  | noEmailAddress | noPhoneNumber | noDetail | noService | noClass | noVhostType | noDevice
  | noIdOrClass | noServiceUrl | noFullname | wrongTypeDisplay | wrongType | noDeviceDetail
  | noVarient | noPackage | wrongAction | noOs
  | vmhostInvalid | vendorInvalid | makeInvalid | modelInvalid | uuidInputInvalid
  | serverNameInvalid | customerNameInvalid | addressInvalid | cityInvalid | emailAddressInvalid
  | detailInvalid | hclassInvalid | urlInvalid | deviceInvalid | phoneNumberInvalid
  | postcodeInvalid | countyInvalid | coidInvalid | serviceInputInvalid | typeInvalid
deriving DecidableEq, Repr

/-! ## `cmdb` -/

/-- What a command of `cmdb` is about. -/
inductive CmdbType
  | none | server | customer | contact | service | serviceType | hardware | hardwareType | vmHost
deriving DecidableEq, Repr

/-- The command line of `cmdb` (`cmdb_comm_line_s`), as far as its options are checked. -/
structure CmdbCommLine where
  action : CmdbAction
  type : CmdbType
  force : ℕ
  sid : ℕ
  vmhost : Option CStr
  name : Option CStr
  id : Option CStr
  coid : Option CStr
  vendor : Option CStr
  make : Option CStr
  model : Option CStr
  uuid : Option CStr
  fullname : Option CStr
  address : Option CStr
  city : Option CStr
  county : Option CStr
  postcode : Option CStr
  email : Option CStr
  phone : Option CStr
  detail : Option CStr
  hclass : Option CStr
  url : Option CStr
  device : Option CStr
  service : Option CStr
  shtype : Option CStr
deriving DecidableEq, Repr

/-- The text itself, or `none`. -/
def orNone (s : Option CStr) : Option CStr := s <|> some "none".toList

/-- The part of `check_cmdb_comm_options` for a listing. -/
def checkList (comp : CmdbCommLine) : Except UsageError CmdbCommLine :=
  match comp.type with
  | .contact => if comp.id = none ∧ comp.coid = none then .error .noCoid else .ok comp
  | .service => if comp.id = none ∧ comp.name = none then .error .noNameOrId else .ok comp
  | .hardware => if comp.id = none ∧ comp.name = none then .error .noNameOrId else .ok comp
  | _ => .ok comp

/-- The part for an addition, with the UUID made up for a server. Of what a customer may
lack, only the first is filled in. -/
def checkAdd (uuid : CStr) (comp : CmdbCommLine) : Except UsageError CmdbCommLine :=
  match comp.type with
  | .contact =>
    if comp.fullname = none then .error .noContactName
    else if comp.email = none then .error .noEmailAddress
    else if comp.phone = none then .error .noPhoneNumber
    else .ok comp
  | .server =>
    if comp.name = none then .error .noName
    else .ok { comp with
      make := orNone comp.make
      model := orNone comp.model
      vendor := orNone comp.vendor
      uuid := comp.uuid <|> some uuid }
  | .serviceType =>
    if comp.detail = none then .error .noDetail
    else if comp.service = none then .error .noService
    else .ok comp
  | .hardwareType =>
    if comp.hclass = none then .error .noClass
    else if comp.shtype = none then .error .noType
    else .ok comp
  | .vmHost =>
    if comp.name = none then .error .noName
    else if comp.shtype = none then .error .noVhostType
    else .ok comp
  | .hardware =>
    if comp.name = none then .error .noName
    else if comp.detail = none then .error .noDetail
    else if comp.device = none then .error .noDevice
    else if comp.hclass = none ∧ comp.sid = 0 then .error .noIdOrClass
    else .ok comp
  | .service =>
    if comp.name = none then .error .noName
    else if comp.detail = none then .error .noDetail
    else if comp.url = none then .error .noServiceUrl
    else if comp.service = none then .error .noService
    else .ok comp
  | .customer =>
    if comp.fullname = none then .error .noFullname
    else if comp.coid = none then .error .noCoid
    else if comp.county = none then .ok { comp with county := orNone comp.county }
    else if comp.address = none then .ok { comp with address := orNone comp.address }
    else if comp.city = none then .ok { comp with city := orNone comp.city }
    else if comp.postcode = none then .ok { comp with postcode := orNone comp.postcode }
    else .ok comp
  | .none => .ok comp

/-- The part for a display. -/
def checkDisplay (comp : CmdbCommLine) : Except UsageError CmdbCommLine :=
  if comp.type ≠ .server ∧ comp.type ≠ .customer ∧ comp.type ≠ .vmHost then
    .error .wrongTypeDisplay
  else if comp.type = .customer then
    if comp.coid = none then .error .noCoid else .ok comp
  else if comp.name = none then .error .noName
  else .ok comp

/-- The part for a removal. -/
def checkRm (comp : CmdbCommLine) : Except UsageError CmdbCommLine :=
  match comp.type with
  | .service =>
    if comp.id = none ∧ comp.coid = none ∧ comp.name = none then .error .noNameOrId
    else if comp.service = none ∧ comp.url = none ∧ comp.force ≠ 1 then .error .noServiceUrl
    else .ok comp
  | .server => if comp.name = none then .error .noName else .ok comp
  | .hardware =>
    if comp.name = none then .error .noName
    else if comp.device = none ∧ comp.detail = none then .error .noDeviceDetail
    else .ok comp
  | _ => .ok comp

/-- `check_cmdb_comm_options`. -/
def checkCmdbCommOptions (uuid : CStr) (comp : CmdbCommLine) : Except UsageError CmdbCommLine :=
  if comp.name = none ∧ comp.id = none ∧ comp.type = .none ∧ comp.action = .none then
    .error .displayUsage
  else if comp.action = .version then .error .version
  else if comp.action = .none then .error .noAction
  else if comp.type = .none then .error .noType
  else if comp.action = .list then checkList comp
  else if comp.action = .add then checkAdd uuid comp
  else if comp.action = .display then checkDisplay comp
  else if comp.action = .viewDefault then
    if comp.type ≠ .customer then .error .wrongType else .ok comp
  else if comp.action = .default then
    if comp.coid = none then .error .noCoid
    else if comp.type ≠ .customer then .error .wrongType
    else .ok comp
  else if comp.name = none ∧ comp.id = none ∧ (comp.type ≠ .none ∨ comp.action ≠ .none) ∧
      (comp.type ≠ .contact ∧ comp.type ≠ .customer) then
    .error .noNameOrId
  else if comp.action = .rm then checkRm comp
  else .ok comp

/-- The expressions an input is matched with. -/
inductive Regex
  | domain | name | customer | uuid | address | email | mac | url | dev | phone | postcode | coid
deriving DecidableEq, Repr

/-- An input that is given matches one of the expressions. -/
def validInput (valid : Regex → CStr → Bool) (rs : List Regex) (e : UsageError)
    (input : Option CStr) : Except UsageError Unit :=
  match input with
  | none => .ok ()
  | some s => if rs.any (valid · s) then .ok () else .error e

/-- `validate_cmdb_comm_line`, over what `ailsa_validate_input` answers. -/
def validateCmdbCommLine (valid : Regex → CStr → Bool) (comp : CmdbCommLine) :
    Except UsageError Unit := do
  validInput valid [.domain, .name] .vmhostInvalid comp.vmhost
  validInput valid [.customer] .vendorInvalid comp.vendor
  validInput valid [.customer] .makeInvalid comp.make
  validInput valid [.customer] .modelInvalid comp.model
  validInput valid [.uuid] .uuidInputInvalid comp.uuid
  validInput valid [.name] .serverNameInvalid comp.name
  validInput valid [.customer] .customerNameInvalid comp.fullname
  validInput valid [.address] .addressInvalid comp.address
  validInput valid [.address] .cityInvalid comp.city
  validInput valid [.email] .emailAddressInvalid comp.email
  validInput valid [.mac, .address, .customer] .detailInvalid comp.detail
  validInput valid [.customer] .hclassInvalid comp.hclass
  validInput valid [.url] .urlInvalid comp.url
  validInput valid [.dev] .deviceInvalid comp.device
  validInput valid [.phone] .phoneNumberInvalid comp.phone
  validInput valid [.postcode] .postcodeInvalid comp.postcode
  validInput valid [.address] .countyInvalid comp.county
  validInput valid [.coid] .coidInvalid comp.coid
  validInput valid [.name] .serviceInputInvalid comp.service
  validInput valid [.address] .typeInvalid comp.shtype

/-- The end of `parse_cmdb_comm_line` : the options are checked, then their inputs. -/
def acceptCmdb (uuid : CStr) (valid : Regex → CStr → Bool) (comp : CmdbCommLine) :
    Except UsageError CmdbCommLine := do
  let comp ← checkCmdbCommOptions uuid comp
  validateCmdbCommLine valid comp
  return comp

/-! ## `cbcvarient` -/

/-- What a command of `cbcvarient` is about. -/
inductive CbcvariType
  | none | varient | package
deriving DecidableEq, Repr

/-- The command line of `cbcvarient` (`cbcvari_comm_line_s`). -/
structure CbcvariCommLine where
  action : CmdbAction
  type : CbcvariType
  varient : Option CStr
  valias : Option CStr
  new : Option CStr
  os : Option CStr
  osAlias : Option CStr
  version : Option CStr
  verAlias : Option CStr
  arch : Option CStr
  package : Option CStr
deriving DecidableEq, Repr

/-- The end of `parse_cbcvarient_comm_line`, after `argc` words. -/
def acceptCbcvarient (argc : ℕ) (cvl : CbcvariCommLine) : Except UsageError CbcvariCommLine :=
  if argc = 1 then .error .displayUsage
  else if cvl.action = .version then .error .version
  else if cvl.action = .none then .error .noAction
  else
    let cvl := if cvl.action = .default then { cvl with type := .varient } else cvl
    if cvl.type = .none ∧
        (cvl.action ≠ .list ∧ cvl.action ≠ .cbcServer ∧ cvl.action ≠ .mod) then
      .error .noType
    else if cvl.action ≠ .list ∧ cvl.varient = none ∧ cvl.valias = none then .error .noVarient
    else if (cvl.action = .add ∨ cvl.action = .mod) ∧ cvl.type = .varient ∧
        (cvl.varient = none ∨ cvl.valias = none) then
      .error .displayUsage
    else if cvl.type = .package then
      if cvl.package = none then .error .noPackage
      else if cvl.action ≠ .add ∧ cvl.action ≠ .rm then .error .wrongAction
      else if cvl.os = none ∧ cvl.osAlias = none then .error .noOs
      else .ok cvl
    else .ok cvl

/-! ## What the checks leave open -/

/-- A removal of a customer passes whether a customer is named or not. -/
theorem checkCmdbCommOptions_rm_customer (uuid : CStr) {comp : CmdbCommLine}
    (haction : comp.action = .rm) (htype : comp.type = .customer) :
    checkCmdbCommOptions uuid comp = .ok comp := by
  simp [checkCmdbCommOptions, checkRm, haction, htype]

/-- An update of a varient that is not marked as one needs a name or an alias only. -/
theorem acceptCbcvarient_mod_iff {argc : ℕ} (hargc : argc ≠ 1) {cvl : CbcvariCommLine}
    (haction : cvl.action = .mod) : acceptCbcvarient argc cvl = .ok cvl ↔
      (cvl.type = .none ∧ (cvl.varient ≠ none ∨ cvl.valias ≠ none)) ∨
      (cvl.type = .varient ∧ cvl.varient ≠ none ∧ cvl.valias ≠ none) := by
  unfold acceptCbcvarient
  rw [if_neg hargc]
  rcases htype : cvl.type <;> rcases hv : cvl.varient <;> rcases ha : cvl.valias <;>
    rcases hp : cvl.package <;> simp [haction, htype, hv, ha, hp]

end Cmdb
