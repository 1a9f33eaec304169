import Cmdb.BuildOutcome
import Cmdb.CustomerDb

/-!
# Removing a customer, updating a varient

Both commands look up an id with a helper that takes the default where no name is given.
The checks of their command lines let a removal of a customer through without a `coid`, and
an update of a varient with a new name only. So a row is touched that the command line does
not name : `namedOnly_iff` says when.
-/

namespace Cmdb

open CString

/-! ## The commands -/

/-- `UPDATE_VARIENT_NAME`. -/
def BuildDb.updateVarientName (db : BuildDb) (varient valias : CStr) (id : ℕ) : BuildDb :=
  { db with varients := db.varients.map fun v =>
      if v.id = id then { v with varient := varient, valias := valias } else v }

/-- `update_cbcvarient`. -/
def updateCbcvarient (env : CbcEnv) (cvl : CbcvariCommLine) : CbcProg Unit := do
  let varient ← cbcRet (cvl.varient.elim (.error .noData) .ok)
  let new ← cbcRet (cvl.new.elim (.error .noData) .ok)
  let id ← cmdbCheckAddVarientId env cvl.valias
  cbcStatement env .updateVarientName 0 fun db =>
    db.updateVarientName (arg varient) (arg new) id

/-- The build tables and the customers. -/
structure CmdbWorld where
  cbc : CbcWorld
  cust : CustomerDb
deriving DecidableEq, Repr

/-- The commands that touch one row. -/
inductive NamedCommand
  | removeCustomer (cm : CmdbCommLine)
  | updateVarient (cvl : CbcvariCommLine)
deriving DecidableEq, Repr

namespace NamedCommand

/-- The world after a command. -/
def run (env : CbcEnv) (w : CmdbWorld) : NamedCommand → CmdbWorld
  | removeCustomer cm => { w with cust := (cmdbRemoveCustomerFromDatabase env cm w.cust).2 }
  | updateVarient cvl => { w with cbc := (updateCbcvarient env cvl w.cbc).2 }

/-- The customer whose `coid` is given. -/
def NamesCustomer : NamedCommand → Customer → Prop
  | removeCustomer cm, c => ∃ coid, cm.coid = some coid ∧ c.coid = arg coid
  | updateVarient _, _ => False

/-- A varient with a name or an alias that is given as one. -/
def NamesVarient : NamedCommand → Varient → Prop
  | removeCustomer _, _ => False
  | updateVarient cvl, v => ∃ s, (cvl.varient = some s ∨ cvl.valias = some s) ∧
      (v.varient = arg s ∨ v.valias = arg s)

/-- All rows that are not named are still there. -/
structure NamedOnly (cmd : NamedCommand) (w w' : CmdbWorld) : Prop where
  customers : ∀ c ∈ w.cust.customers, ¬cmd.NamesCustomer c → c ∈ w'.cust.customers
  varients : ∀ v ∈ w.cbc.build.varients, ¬cmd.NamesVarient v → v ∈ w'.cbc.build.varients

/-- Where no name to look for is given and the command gets to its statement, the default is
no row, or one the command line names. -/
def SparesDefault (env : CbcEnv) (w : CmdbWorld) : NamedCommand → Prop
  | removeCustomer cm => cm.coid = none → ∀ id, env.sql .defaultCustomer 0 = true →
      w.cust.defaultCustomer = [id] → env.sql .deleteCustomer 0 = true →
      ∀ c ∈ w.cust.customers, c.id ≠ id
  | updateVarient cvl => cvl.valias = none → ∀ varient new id, cvl.varient = some varient →
      cvl.new = some new → env.sql .defaultVarient 0 = true →
      w.cbc.build.defaultVarient = [id] → env.sql .updateVarientName 0 = true →
      ∀ v ∈ w.cbc.build.varients, v.id = id → v.varient = arg varient ∨ v.valias = arg varient

end NamedCommand

/-- Ids are unique. -/
structure CmdbWorld.KeysUnique (w : CmdbWorld) : Prop where
  customers : (w.cust.customers.map Customer.id).Nodup
  varients : (w.cbc.build.varients.map Varient.id).Nodup

/-! ## What they touch -/

variable {env : CbcEnv} {w : CmdbWorld}

/-- The row with the id found is deleted, or nothing is. -/
theorem cmdbRemoveCustomerFromDatabase_outcome (env : CbcEnv) (cm : CmdbCommLine)
    (db : CustomerDb) :
    (∃ id, (cmdbCheckAddCustId env cm.coid db).1 = .ok id ∧ env.sql .deleteCustomer 0 = true ∧
      (cmdbRemoveCustomerFromDatabase env cm db).2 = db.deleteCustomer id) ∨
    (∀ id, (cmdbCheckAddCustId env cm.coid db).1 = .ok id → env.sql .deleteCustomer 0 ≠ true) ∧
      (cmdbRemoveCustomerFromDatabase env cm db).2 = db := by
  obtain ⟨e, he, hrun⟩ | ⟨id, hid, hrun⟩ :=
    (readOnly_cmdbCheckAddCustId env cm.coid).bind_cases _ db
  · rw [cmdbRemoveCustomerFromDatabase, hrun]
    exact .inr ⟨fun id hid => (nomatch he.symm.trans hid), rfl⟩
  rw [cmdbRemoveCustomerFromDatabase, hrun, dbStatement_run]
  by_cases hdel : env.sql .deleteCustomer 0 = true
  · rw [if_pos hdel]
    exact .inl ⟨id, hid, hdel, rfl⟩
  · rw [if_neg hdel]
    exact .inr ⟨fun _ _ => hdel, rfl⟩

/-- An update goes through to the row of that id. -/
structure UpdatesVarient (env : CbcEnv) (cvl : CbcvariCommLine) (db : BuildDb)
    (varient new : CStr) (id : ℕ) : Prop where
  varient : cvl.varient = some varient
  new : cvl.new = some new
  lookup : Finds env db (varientLookup cvl.valias) id
  update : env.sql .updateVarientName 0 = true

/-- The row with the id found is updated, or nothing is. -/
theorem updateCbcvarient_outcome (env : CbcEnv) (cvl : CbcvariCommLine) (w : CbcWorld) :
    (∃ varient new id, UpdatesVarient env cvl w.build varient new id ∧
      (updateCbcvarient env cvl w).2 =
        { w with build := w.build.updateVarientName (arg varient) (arg new) id }) ∨
    (∀ varient new id, ¬UpdatesVarient env cvl w.build varient new id) ∧
      (updateCbcvarient env cvl w).2 = w := by
  rw [updateCbcvarient]
  rcases hv : cvl.varient with _ | varient
  · exact .inr ⟨fun _ _ _ h => (nomatch hv.symm.trans h.varient), rfl⟩
  rcases hn : cvl.new with _ | new
  · exact .inr ⟨fun _ _ _ h => (nomatch hn.symm.trans h.new), rfl⟩
  rw [Option.elim_some, (readOnly_cbcRet _).bind_run_of_ok rfl, Option.elim_some,
    (readOnly_cbcRet _).bind_run_of_ok rfl]
  obtain ⟨e, he, hrun⟩ | ⟨id, hid, hrun⟩ :=
    (readOnly_cmdbCheckAddVarientId env cvl.valias).bind_cases _ w
  · rw [hrun]
    refine .inr ⟨fun _ _ id h => ?_, rfl⟩
    exact nomatch he.symm.trans (cmdbCheckAddVarientId_ok_iff.mpr h.lookup)
  rw [hrun, cbcStatement_run]
  by_cases hupd : env.sql .updateVarientName 0 = true
  · rw [if_pos hupd]
    exact .inl ⟨varient, new, id, ⟨hv, hn, cmdbCheckAddVarientId_ok_iff.mp hid, hupd⟩, rfl⟩
  · rw [if_neg hupd]
    exact .inr ⟨fun _ _ _ h => hupd h.update, rfl⟩

/-- The id found by a `coid` is that of the customer with it only. -/
theorem coid_of_custIds (hw : w.KeysUnique) {coid : CStr} {id : ℕ}
    (h : w.cust.custIds coid = [id]) {c : Customer} (hc : c ∈ w.cust.customers)
    (hid : c.id = id) : c.coid = coid := by
  have hmem : id ∈ w.cust.custIds coid := h ▸ List.mem_singleton_self id
  obtain ⟨c', hc', hid'⟩ := List.mem_map.mp hmem
  obtain ⟨hc', hcoid⟩ := List.mem_filter.mp hc'
  obtain rfl := List.inj_on_of_nodup_map hw.customers hc hc' (hid.trans hid'.symm)
  exact of_decide_eq_true hcoid

theorem removeCustomer_namedOnly_iff (env : CbcEnv) (hw : w.KeysUnique) (cm : CmdbCommLine) :
    (NamedCommand.removeCustomer cm).NamedOnly w ((NamedCommand.removeCustomer cm).run env w) ↔
      (NamedCommand.removeCustomer cm).SparesDefault env w := by
  obtain ⟨id, hid, hdel, hrun⟩ | ⟨hno, hrun⟩ :=
    cmdbRemoveCustomerFromDatabase_outcome env cm w.cust
  swap
  · -- nothing is deleted
    rw [NamedCommand.run, hrun]
    refine iff_of_true ⟨fun _ hc _ => hc, fun _ hv _ => hv⟩ fun hnone id hq hdefault hdel => ?_
    refine absurd hdel (hno id ?_)
    rw [hnone]
    exact cmdbCheckAddCustId_none_iff.mpr ⟨hq, hdefault⟩
  rw [NamedCommand.run, hrun]
  rcases hcoid : cm.coid with _ | coid
  · rw [hcoid] at hid
    obtain ⟨hq, hdefault⟩ := cmdbCheckAddCustId_none_iff.mp hid
    constructor
    · intro h _ id' _ hdefault' _ c hc
      obtain rfl := List.singleton_inj.mp (hdefault.symm.trans hdefault')
      have hkept := h.customers c hc (by rintro ⟨_, h, -⟩; exact nomatch hcoid.symm.trans h)
      exact of_decide_eq_true (List.mem_filter.mp hkept).2
    · intro h
      refine ⟨fun c hc _ => List.mem_filter.mpr ⟨hc, decide_eq_true ?_⟩, fun _ hv _ => hv⟩
      exact h hcoid id hq hdefault hdel c hc
  · rw [hcoid] at hid
    obtain ⟨-, hids⟩ := cmdbCheckAddCustId_some_iff.mp hid
    refine iff_of_true ⟨fun c hc hname => List.mem_filter.mpr ⟨hc, decide_eq_true fun hcid => ?_⟩,
      fun _ hv _ => hv⟩ fun hnone => nomatch hcoid.symm.trans hnone
    exact hname ⟨coid, hcoid, coid_of_custIds hw hids hc hcid⟩

/-- The id found by a name or an alias is that of the varient with it only. -/
theorem name_of_varientIds (hw : w.KeysUnique) {name : CStr} {id : ℕ}
    (h : w.cbc.build.varientIds name = [id]) {v : Varient} (hv : v ∈ w.cbc.build.varients)
    (hid : v.id = id) : v.varient = name ∨ v.valias = name := by
  have hmem : id ∈ w.cbc.build.varientIds name := h ▸ List.mem_singleton_self id
  obtain ⟨v', hv', hid'⟩ := List.mem_map.mp hmem
  obtain ⟨hv', hname⟩ := List.mem_filter.mp hv'
  obtain rfl := List.inj_on_of_nodup_map hw.varients hv hv' (hid.trans hid'.symm)
  exact of_decide_eq_true hname

/-- An update leaves the rows of other ids. -/
theorem mem_updateVarientName_of_ne {db : BuildDb} {varient valias : CStr} {id : ℕ} {v : Varient}
    (hv : v ∈ db.varients) (hid : v.id ≠ id) :
    v ∈ (db.updateVarientName varient valias id).varients :=
  List.mem_map.mpr ⟨v, hv, if_neg hid⟩

/-- A row of the id has the new name. -/
theorem name_of_mem_updateVarientName {db : BuildDb} {varient valias : CStr} {id : ℕ}
    {v : Varient} (hv : v ∈ (db.updateVarientName varient valias id).varients)
    (hid : v.id = id) : v.varient = varient := by
  obtain ⟨v', -, rfl⟩ := List.mem_map.mp hv
  split_ifs at hid ⊢ with h
  · rfl
  · exact absurd hid h

theorem updateVarient_namedOnly_iff (env : CbcEnv) (hw : w.KeysUnique) (cvl : CbcvariCommLine) :
    (NamedCommand.updateVarient cvl).NamedOnly w ((NamedCommand.updateVarient cvl).run env w) ↔
      (NamedCommand.updateVarient cvl).SparesDefault env w := by
  obtain ⟨varient, new, id, hupd, hrun⟩ | ⟨hno, hrun⟩ := updateCbcvarient_outcome env cvl w.cbc
  swap
  · -- nothing is updated
    rw [NamedCommand.run, hrun]
    refine iff_of_true ⟨fun _ hc _ => hc, fun _ hv _ => hv⟩
      fun hnone varient new id hvar hnew hq hdefault hupd => ?_
    refine absurd ⟨hvar, hnew, ?_, hupd⟩ (hno varient new id)
    rw [hnone]
    exact ⟨_, _, rfl, hq, hdefault⟩
  rw [NamedCommand.run, hrun]
  obtain ⟨q, g, hlookup, hq, hfound⟩ := hupd.lookup
  rcases hvalias : cvl.valias with _ | valias
  · rw [hvalias] at hlookup
    cases hlookup
    constructor
    · intro h _ varient' new' id' hvar' _ _ hdefault' _ v hv hid
      obtain rfl := Option.some.inj (hupd.varient.symm.trans hvar')
      obtain rfl := List.singleton_inj.mp (hfound.symm.trans hdefault')
      by_cases hname : (NamedCommand.updateVarient cvl).NamesVarient v
      · obtain ⟨s, hs | hs, hvs⟩ := hname
        · rwa [← Option.some.inj (hupd.varient.symm.trans hs)] at hvs
        · exact nomatch hvalias.symm.trans hs
      · exact .inl (name_of_mem_updateVarientName (h.varients v hv hname) hid)
    · intro h
      refine ⟨fun _ hc _ => hc, fun v hv hname => mem_updateVarientName_of_ne hv fun hid => ?_⟩
      exact hname ⟨varient, .inl hupd.varient,
        h hvalias varient new id hupd.varient hupd.new hq hfound hupd.update v hv hid⟩
  · rw [hvalias] at hlookup
    cases hlookup
    refine iff_of_true ⟨fun _ hc _ => hc, fun v hv hname => mem_updateVarientName_of_ne hv
      fun hid => ?_⟩ fun hnone => nomatch hvalias.symm.trans hnone
    exact hname ⟨valias, .inr hvalias, name_of_varientIds hw hfound hv hid⟩

/-- For every database with unique ids, outcomes and command line, accepted or not, the
command leaves the rows that are not named iff it spares the default. -/
theorem namedOnly_iff (env : CbcEnv) (w : CmdbWorld) (hw : w.KeysUnique) (cmd : NamedCommand) :
    cmd.NamedOnly w (cmd.run env w) ↔ cmd.SparesDefault env w := by
  cases cmd with
  | removeCustomer cm => exact removeCustomer_namedOnly_iff env hw cm
  | updateVarient cvl => exact updateVarient_namedOnly_iff env hw cvl

/-- One customer and one varient, each the default. -/
def defaultsSet : CmdbWorld where
  cbc := { emptyWorld with
    build := { emptyWorld.build with
      varients := [⟨1, "base".toList, "b".toList⟩]
      defaultVarient := [1] } }
  cust := ⟨[⟨1, "Example".toList, [], [], [], [], "EX01".toList⟩], [1]⟩

/-- `cmdb -r -u`. -/
def removeNobody : CmdbCommLine :=
  ⟨.rm, .customer, 0, 0, none, none, none, none, none, none, none, none, none, none, none, none,
    none, none, none, none, none, none, none, none, none⟩

/-- `cbcvarient -m -x web -w www`. -/
def renameNothing : CbcvariCommLine :=
  ⟨.mod, .none, some "web".toList, none, some "www".toList, none, none, none, none, none, none⟩

theorem namedOnly_iff_defaultsSet :
    (NamedCommand.removeCustomer removeNobody).NamedOnly defaultsSet
      ((NamedCommand.removeCustomer removeNobody).run allOk defaultsSet) ↔
    (NamedCommand.removeCustomer removeNobody).SparesDefault allOk defaultsSet :=
  namedOnly_iff allOk defaultsSet ⟨by decide, by decide⟩ (.removeCustomer removeNobody)

/-- Both command lines are accepted, and the defaults deleted and renamed. -/
theorem defaultsSet_not_namedOnly :
    (∀ (uuid : CStr) (valid : Regex → CStr → Bool),
      acceptCmdb uuid valid removeNobody = .ok removeNobody) ∧
    acceptCbcvarient 6 renameNothing = .ok renameNothing ∧
    ¬(NamedCommand.removeCustomer removeNobody).NamedOnly defaultsSet
      ((NamedCommand.removeCustomer removeNobody).run allOk defaultsSet) ∧
    ¬(NamedCommand.updateVarient renameNothing).NamedOnly defaultsSet
      ((NamedCommand.updateVarient renameNothing).run allOk defaultsSet) := by
  refine ⟨fun _ _ => rfl, rfl, fun h => ?_, fun h => ?_⟩
  · have hgone := h.customers ⟨1, "Example".toList, [], [], [], [], "EX01".toList⟩
      (List.mem_singleton_self _) (by rintro ⟨_, h, -⟩; exact nomatch h)
    exact absurd hgone (by decide)
  · have hgone := h.varients ⟨1, "base".toList, "b".toList⟩ (List.mem_singleton_self _)
      (by rintro ⟨s, hs | hs, hname⟩ <;> cases hs; exact absurd hname (by decide))
    exact absurd hgone (by decide)

end Cmdb
