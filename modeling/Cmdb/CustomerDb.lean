import Cmdb.CommLine
import Cmdb.CreateBuild
import Cmdb.Statements

/-!
# Customers

The rows of `customer` and `default_customer`, and the commands of `cmdb` on them. A row of
`default_customer` goes with its customer.
-/

namespace Cmdb

open CString

/-- A row of `customer`. -/
structure Customer where
  id : ℕ
  name : CStr
  address : CStr
  city : CStr
  county : CStr
  postcode : CStr
  coid : CStr
deriving DecidableEq, Repr

/-- The tables of the customers; `default_customer` holds one column of ids. -/
structure CustomerDb where
  customers : List Customer
  defaultCustomer : List ℕ
deriving DecidableEq, Repr

/-- A command on the customers. -/
abbrev CustomerProg (α : Type) := Prog CustomerDb AilsaError α

/-! ## Statements -/

/-- The row an insert list stands for. -/
def newCustomer (id : ℕ) (l : List AilsaData) : Option Customer :=
  match l with
  | .text name :: .text address :: .text city :: .text county :: .text postcode :: .text coid ::
      _ => some ⟨id, name, address, city, county, postcode, coid⟩
  | _ => none

namespace CustomerDb

variable (db : CustomerDb)

/-- `CUST_ID_ON_COID`. -/
def custIds (coid : CStr) : List ℕ := (db.customers.filter (·.coid = coid)).map Customer.id

/-- `INSERT_CUSTOMER`. -/
def insertCustomer (l : List AilsaData) : CustomerDb :=
  { db with customers := db.customers ++
      (newCustomer (nextId (db.customers.map Customer.id)) l).toList }

/-- `DELETE_CUSTOMER`. -/
def deleteCustomer (id : ℕ) : CustomerDb where
  customers := db.customers.filter (·.id ≠ id)
  defaultCustomer := db.defaultCustomer.filter (· ≠ id)

/-- `INSERT_DEFAULT_CUSTOMER`. -/
def insertDefault (id : ℕ) : CustomerDb :=
  { db with defaultCustomer := db.defaultCustomer ++ [id] }

/-- `UPDATE_DEFAULT_CUSTOMER`, on every row. -/
def updateDefault (id : ℕ) : CustomerDb :=
  { db with defaultCustomer := db.defaultCustomer.map fun _ => id }

end CustomerDb

/-! ## Commands -/

/-- `cmdb_add_cust_id_to_list` : the default customer if no `coid` is given. -/
def cmdbAddCustId (env : CbcEnv) (coid : Option CStr) : CustomerProg (List ℕ) :=
  match coid with
  | none => dbQuery (env.sql .defaultCustomer 0) CustomerDb.defaultCustomer
  | some coid => dbQuery (env.sql .custIdOnCoid 0) fun db => db.custIds (arg coid)

/-- `cmdb_check_add_cust_id_to_list`. -/
def cmdbCheckAddCustId (env : CbcEnv) (coid : Option CStr) : CustomerProg ℕ := do
  let ids ← cmdbAddCustId env coid
  match ids with
  | [id] => return id
  | _ => Prog.fail .customerNotFound

/-- `cmdb_populate_customer_details`. -/
def cmdbPopulateCustomerDetails (uid : ℕ) (cm : CmdbCommLine) :
    Except AilsaError (List AilsaData) := do
  let l ← addStringToList cm.fullname []
  let l ← addStringToList cm.address l
  let l ← addStringToList cm.city l
  let l ← addStringToList cm.county l
  let l ← addStringToList cm.postcode l
  let l ← addStringToList cm.coid l
  return cmdbPopulateCuserMuser uid l

/-- `cmdb_add_customer_to_database`. -/
def cmdbAddCustomerToDatabase (dc : Dc) (env : CbcEnv) (cm : CmdbCommLine) :
    CustomerProg Unit :=
  match cm.coid with
  | none => Prog.fail .noData
  | some coid => do
    let ids ← dbQuery (env.sql .custIdOnCoid 0) fun db : CustomerDb => db.custIds (arg coid)
    if 0 < ids.length then return ()
    else
      let customer ← dbRet (cmdbPopulateCustomerDetails dc.uid cm)
      dbStatement (env.sql .insertCustomer 0) fun db => db.insertCustomer customer

/-- `cmdb_set_default_customer`. -/
def cmdbSetDefaultCustomer (env : CbcEnv) (cm : CmdbCommLine) : CustomerProg Unit := do
  Prog.require cm.coid.isSome .noData
  let id ← cmdbCheckAddCustId env cm.coid
  let defaults ← dbQuery (env.sql .defaultCustomer 0) CustomerDb.defaultCustomer
  if defaults.length = 0 then
    dbStatement (env.sql .insertDefaultCustomer 0) fun db => db.insertDefault id
  else
    dbStatement (env.sql .updateDefaultCustomer 0) fun db => db.updateDefault id

/-- `cmdb_remove_customer_from_database`. -/
def cmdbRemoveCustomerFromDatabase (env : CbcEnv) (cm : CmdbCommLine) : CustomerProg Unit := do
  let id ← cmdbCheckAddCustId env cm.coid
  dbStatement (env.sql .deleteCustomer 0) fun db => db.deleteCustomer id

/-! ## Looking up a customer -/

variable {env : CbcEnv} {db : CustomerDb}

theorem readOnly_cmdbAddCustId (env : CbcEnv) (coid : Option CStr) :
    Prog.ReadOnly (cmdbAddCustId env coid) := by
  rcases coid with _ | coid
  · exact readOnly_dbQuery _ _
  · exact readOnly_dbQuery _ _

theorem readOnly_cmdbCheckAddCustId (env : CbcEnv) (coid : Option CStr) :
    Prog.ReadOnly (cmdbCheckAddCustId env coid) := by
  refine (readOnly_cmdbAddCustId _ _).bind fun ids => ?_
  split
  · exact Prog.ReadOnly.pure _
  · exact Prog.ReadOnly.fail _

/-- The one id found. -/
theorem cmdbCheckAddCustId_ok_iff {coid : Option CStr} {id : ℕ} :
    (cmdbCheckAddCustId env coid db).1 = .ok id ↔ (cmdbAddCustId env coid db).1 = .ok [id] := by
  rw [cmdbCheckAddCustId]
  constructor
  · intro h
    obtain ⟨ids, hids, h⟩ := (readOnly_cmdbAddCustId _ _).bind_ok h
    rcases ids with _ | ⟨id', _ | _⟩
    · cases h
    · cases h
      exact hids
    · cases h
  · intro h
    rw [(readOnly_cmdbAddCustId _ _).bind_run_of_ok h]
    rfl

theorem cmdbCheckAddCustId_none_iff {id : ℕ} : (cmdbCheckAddCustId env none db).1 = .ok id ↔
    env.sql .defaultCustomer 0 = true ∧ db.defaultCustomer = [id] := by
  rw [cmdbCheckAddCustId_ok_iff]
  exact dbQuery_ok_iff

theorem cmdbCheckAddCustId_some_iff {coid : CStr} {id : ℕ} :
    (cmdbCheckAddCustId env (some coid) db).1 = .ok id ↔
      env.sql .custIdOnCoid 0 = true ∧ db.custIds (arg coid) = [id] := by
  rw [cmdbCheckAddCustId_ok_iff]
  exact dbQuery_ok_iff

end Cmdb
