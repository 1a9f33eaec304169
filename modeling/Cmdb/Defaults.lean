import Cmdb.BuildDomains
import Cmdb.History
import Cmdb.Locales
import Cmdb.NamedOnly
import Cmdb.PointedTable

/-!
# Setting a default

Locales, customers and build domains each have a table with at most one row, the reference
to the default, which goes with what it refers to. The commands that set the default
customer and the default domain insert the row where there is none. `set_default_locale`
only updates it, and so has no effect on an empty table : `takesEffect_iff` says that every
other default that is set in a history is the one looked up.
-/

namespace Cmdb

open CString History

/-! ## The default domain -/

namespace BuildDb

variable (db : BuildDb)

/-- `INSERT_DEFAULT_DOMAIN`. -/
def insertDefaultDomain (id : ℕ) : BuildDb := { db with defaultDomain := db.defaultDomain ++ [id] }

/-- `UPDATE_DEFAULT_DOMAIN`, on every row. -/
def updateDefaultDomain (id : ℕ) : BuildDb :=
  { db with defaultDomain := db.defaultDomain.map fun _ => id }

end BuildDb

/-- `set_default_cbc_build_domain`. A domain that does not exist is no error. -/
def setDefaultCbcBuildDomain (env : CbcEnv) (cdl : CbcdomainCommLine) : CbcProg Unit := do
  let domain ← cbcQuery env .buildDomainIdOnDomain 0 fun db => db.buildDomainIds (arg cdl.domain)
  match domain with
  | [] => return ()
  | id :: _ =>
    let d ← cbcQuery env .defaultDomain 0 BuildDb.defaultDomain
    if d.length = 0 then
      cbcStatement env .insertDefaultDomain 0 fun db => db.insertDefaultDomain id
    else cbcStatement env .updateDefaultDomain 0 fun db => db.updateDefaultDomain id

/-! ## Commands -/

/-- The commands on what has a default. -/
inductive DefaultsCommand
  | addLocale (cl : LocaleCommLine)
  | removeLocale (cl : LocaleCommLine)
  | defaultLocale (cl : LocaleCommLine)
  | addCustomer (cm : CmdbCommLine)
  | removeCustomer (cm : CmdbCommLine)
  | defaultCustomer (cm : CmdbCommLine)
  | addDomain (cdl : CbcdomainCommLine)
  | removeDomain (cdl : CbcdomainCommLine)
  | defaultDomain (cdl : CbcdomainCommLine)
deriving DecidableEq, Repr

/-- A command on the build tables. -/
def onCbc {α : Type} (p : CbcProg α) : Prog CmdbWorld AilsaError α :=
  Prog.zoom CmdbWorld.cbc (fun w cbc => { w with cbc := cbc }) p

/-- A command on the customers. -/
def onCust {α : Type} (p : CustomerProg α) : Prog CmdbWorld AilsaError α :=
  Prog.zoom CmdbWorld.cust (fun w cust => { w with cust := cust }) p

/-- What has a default. -/
inductive DefaultKind
  | locale | customer | domain
deriving DecidableEq, Repr

namespace DefaultsCommand

/-- The program of a command. -/
def prog (dc : Dc) (env : CbcEnv) : DefaultsCommand → Prog CmdbWorld AilsaError Unit
  | addLocale cl => onCbc (Cmdb.addLocale dc env cl)
  | removeLocale cl => onCbc (Cmdb.removeLocale env cl)
  | defaultLocale cl => onCbc (setDefaultLocale env cl)
  | addCustomer cm => onCust (cmdbAddCustomerToDatabase dc env cm)
  | removeCustomer cm => onCust (cmdbRemoveCustomerFromDatabase env cm)
  | defaultCustomer cm => onCust (cmdbSetDefaultCustomer env cm)
  | addDomain cdl => onCbc (addCbcBuildDomain env cdl)
  | removeDomain cdl => onCbc (removeCbcBuildDomain env cdl)
  | defaultDomain cdl => onCbc (setDefaultCbcBuildDomain env cdl)

/-- What is to be the default, by its name or `coid`. -/
def sets : DefaultsCommand → Option (DefaultKind × CStr)
  | defaultLocale cl => cl.name.map fun name => (.locale, arg name)
  | defaultCustomer cm => cm.coid.map fun coid => (.customer, arg coid)
  | defaultDomain cdl => some (.domain, arg cdl.domain)
  | _ => none

/-- A default locale that is set and exists finds a row to update. -/
def RowToUpdate (w : CmdbWorld) (op : CbcEnv × DefaultsCommand) : Prop :=
  match op with
  | (env, defaultLocale cl) => ∀ name, cl.name = some name →
      (∃ l ∈ w.cbc.build.locales, l.name = arg name) → env.sql .setDefaultLocale 0 = true →
      w.cbc.build.defaultLocale ≠ []
  | _ => True

end DefaultsCommand

/-! ## Tables with a default -/

/-- The locales, by name. -/
def BuildDb.localeTable (db : BuildDb) : PointedTable CStr :=
  .of Locale.id Locale.name db.locales db.defaultLocale

/-- The build domains, by name. -/
def BuildDb.domainTable (db : BuildDb) : PointedTable CStr :=
  .of BuildDomain.id BuildDomain.domain db.buildDomains db.defaultDomain

/-- The customers, by `coid`. -/
def CustomerDb.table (db : CustomerDb) : PointedTable CStr :=
  .of Customer.id Customer.coid db.customers db.defaultCustomer

/-- The table of a kind. -/
def CmdbWorld.table (w : CmdbWorld) : DefaultKind → PointedTable CStr
  | .locale => w.cbc.build.localeTable
  | .customer => w.cust.table
  | .domain => w.cbc.build.domainTable

/-- Ids and names are unique, and each default is that of a row. -/
def CmdbWorld.DefaultsOk (w : CmdbWorld) : Prop := ∀ kind, (w.table kind).Ok

/-- The look-up of the default, where it does not fail, yields that id. -/
def DefaultKind.Yields (env : CbcEnv) (w : CmdbWorld) (id : ℕ) : DefaultKind → Prop
  | locale => env.sql .defaultLocale 0 = true → (getDefaultLocale env w.cbc).1 = .ok id
  | customer => env.sql .defaultCustomer 0 = true →
      (dbQuery (env.sql .defaultCustomer 0) CustomerDb.defaultCustomer w.cust).1 = .ok [id]
  | domain => env.sql .defaultDomain 0 = true →
      (cbcQuery env .defaultDomain 0 BuildDb.defaultDomain w.cbc).1 = .ok [id]

/-- The world after a command. -/
def defaultsStep (dc : Dc) (w : CmdbWorld) (op : CbcEnv × DefaultsCommand) : CmdbWorld :=
  (op.2.prog dc op.1 w).2

/-- A default that is set returns `0` only if every look-up after it yields the row of that
name, provided there is one. -/
def TakesEffect (dc : Dc) (w : CmdbWorld) (op : CbcEnv × DefaultsCommand) : Prop :=
  ∀ kind key id, op.2.sets = some (kind, key) → (id, key) ∈ (w.table kind).rows →
    (op.2.prog dc op.1 w).1 = .ok () → ∀ env, kind.Yields env (defaultsStep dc w op) id

/-! ## What the commands do to them -/

variable {dc : Dc} {env : CbcEnv}

/-- No row has a name that is not found. -/
theorem not_mem_of_lookup_nil {α : Type} {ident : α → ℕ} {name : α → CStr} {rows : List α}
    {key : CStr} (h : (rows.filter (name · = key)).map ident = []) : key ∉ rows.map name := by
  intro hmem
  obtain ⟨a, ha, hkey⟩ := List.mem_map.mp hmem
  have hfound : ident a ∈ (rows.filter (name · = key)).map ident :=
    List.mem_map_of_mem (List.mem_filter.mpr ⟨ha, decide_eq_true hkey⟩)
  rw [h] at hfound
  cases hfound

/-- An id that is found is that of a row. -/
theorem mem_ids_of_lookup {α : Type} {ident : α → ℕ} {name : α → CStr} {rows : List α}
    {key : CStr} {id : ℕ} (h : id ∈ (rows.filter (name · = key)).map ident) :
    id ∈ rows.map ident :=
  (List.filter_sublist.map ident).subset h

/-- The steps on the tables of a build database. -/
structure BuildDb.StepsTo (db db' : BuildDb) : Prop where
  locales : db.localeTable.Step db'.localeTable
  domains : db.domainTable.Step db'.domainTable

theorem BuildDb.StepsTo.refl (db : BuildDb) : db.StepsTo db := ⟨.same, .same⟩

/-- A statement of a build program that steps, or fails. -/
theorem stepsTo_cbcStatement {q : CbcQuery} {u : BuildDb → BuildDb} {w : CbcWorld}
    (h : w.build.StepsTo (u w.build)) : w.build.StepsTo (cbcStatement env q 0 u w).2.build := by
  rw [cbcStatement_run]
  split_ifs
  · exact h
  · exact .refl _

/-- A question before a build program that steps. -/
theorem stepsTo_ask {α β : Type} {p : CbcProg α} {f : α → CbcProg β} {w : CbcWorld}
    (hp : Prog.ReadOnly p) (hf : ∀ a, (p w).1 = .ok a → w.build.StepsTo (f a w).2.build) :
    w.build.StepsTo ((p >>= f) w).2.build :=
  hp.bind_run_snd (P := fun w' => w.build.StepsTo w'.build) (.refl _) hf

theorem addLocale_stepsTo (dc : Dc) (env : CbcEnv) (cl : LocaleCommLine) (w : CbcWorld) :
    w.build.StepsTo (addLocale dc env cl w).2.build := by
  refine stepsTo_ask (readOnly_cbcRet _) fun name hname => ?_
  refine stepsTo_ask (readOnly_cbcQuery _ _ _ _) fun r hr => ?_
  rw [Prog.ite_run]
  split_ifs with hfound
  · exact .refl _
  refine stepsTo_ask (readOnly_cbcRet _) fun l hl => stepsTo_cbcStatement ⟨?_, .same⟩
  obtain ⟨name', hname', hrow⟩ :=
    newLocale_of_populateLocale hl (nextId (w.build.locales.map Locale.id))
  have hnil : w.build.localeIds (arg name) = [] := by
    rw [← (cbcQuery_ok hr).2]
    exact List.length_eq_zero_iff.mp (Nat.eq_zero_of_not_pos hfound)
  obtain rfl : name' = name := by
    rw [hname'] at hname
    exact Except.ok.inj hname
  rw [BuildDb.insertLocale, hrow]
  exact PointedTable.step_of_append (nextId_pos _) (nextId_not_mem _) (not_mem_of_lookup_nil hnil)

theorem removeLocale_stepsTo (env : CbcEnv) (cl : LocaleCommLine) (w : CbcWorld)
    (hok : w.build.localeTable.Ok) : w.build.StepsTo (removeLocale env cl w).2.build := by
  refine stepsTo_ask (readOnly_cbcRet _) fun name hname => stepsTo_cbcStatement ⟨?_, .same⟩
  refine PointedTable.step_of_filter hok fun l hl hkept => ?_
  refine decide_eq_true fun hnamed => of_decide_eq_true hkept ?_
  exact List.mem_map_of_mem (List.mem_filter.mpr ⟨hl, decide_eq_true hnamed⟩)

theorem setDefaultLocale_stepsTo (env : CbcEnv) (cl : LocaleCommLine) (w : CbcWorld) :
    w.build.StepsTo (setDefaultLocale env cl w).2.build := by
  refine stepsTo_ask (readOnly_cbcRet _) fun name hname => ?_
  refine stepsTo_ask (readOnly_cbcQuery _ _ _ _) fun r hr => ?_
  refine stepsTo_ask (readOnly_cbcRet _) fun db hdb => ?_
  obtain rfl := (cbcQuery_ok hr).2
  have hdb : w.build.setDefaultLocale (arg name) = .ok db := hdb
  rw [Prog.modify_run]
  by_cases hnil : w.build.localeIds (arg name) = []
  · rw [BuildDb.setDefaultLocale, hnil] at hdb
    rcases hrows : w.build.defaultLocale with _ | ⟨i, rows⟩
    · rw [hrows] at hdb
      cases hdb
      exact .refl _
    · rw [hrows] at hdb
      cases hdb
  · obtain ⟨id, hid, hset⟩ := exists_setDefaultLocale hnil
    cases hset.symm.trans hdb
    exact ⟨.move (by rw [BuildDb.localeTable, PointedTable.of_ids]; exact mem_ids_of_lookup hid),
      .same⟩

theorem addCbcBuildDomain_stepsTo (env : CbcEnv) (cdl : CbcdomainCommLine) (w : CbcWorld) :
    w.build.StepsTo (addCbcBuildDomain env cdl w).2.build := by
  rw [addCbcBuildDomain_snd]
  split_ifs with href
  · exact .refl _
  have hnil : w.build.buildDomainIds (arg cdl.domain) = [] := by
    by_contra hne
    exact href (.inr (.inl hne))
  exact ⟨.same, PointedTable.step_of_append (nextId_pos _) (nextId_not_mem _)
    (not_mem_of_lookup_nil hnil)⟩

theorem removeCbcBuildDomain_stepsTo (env : CbcEnv) (cdl : CbcdomainCommLine) (w : CbcWorld)
    (hok : w.build.domainTable.Ok) :
    w.build.StepsTo (removeCbcBuildDomain env cdl w).2.build := by
  refine stepsTo_cbcStatement ⟨.same, PointedTable.step_of_filter hok fun d hd hkept => ?_⟩
  refine decide_eq_true fun hnamed => of_decide_eq_true hkept ?_
  exact List.mem_map_of_mem (List.mem_filter.mpr ⟨hd, decide_eq_true hnamed⟩)

theorem setDefaultCbcBuildDomain_stepsTo (env : CbcEnv) (cdl : CbcdomainCommLine)
    (w : CbcWorld) : w.build.StepsTo (setDefaultCbcBuildDomain env cdl w).2.build := by
  refine stepsTo_ask (readOnly_cbcQuery _ _ _ _) fun domain hdomain => ?_
  have hdomain := (cbcQuery_ok hdomain).2
  rcases domain with _ | ⟨id, rest⟩
  · exact .refl _
  have hid : id ∈ w.build.domainTable.ids := by
    rw [BuildDb.domainTable, PointedTable.of_ids]
    exact mem_ids_of_lookup (hdomain ▸ List.mem_cons_self ..)
  refine stepsTo_ask (readOnly_cbcQuery _ _ _ _) fun d hd => ?_
  rw [Prog.ite_run]
  split_ifs with hempty
  · rw [(cbcQuery_ok hd).2] at hempty
    exact stepsTo_cbcStatement ⟨.same, .point hid (List.length_eq_zero_iff.mp hempty)⟩
  · exact stepsTo_cbcStatement ⟨.same, .move hid⟩

/-- A statement on the customers that steps, or fails. -/
theorem step_dbStatement {ok : Bool} {u : CustomerDb → CustomerDb} {db : CustomerDb}
    (h : db.table.Step (u db).table) : db.table.Step (dbStatement ok u db).2.table := by
  rw [dbStatement_run]
  split_ifs
  · exact h
  · exact .same

/-- A question before a program on the customers that steps. -/
theorem step_ask {α β : Type} {p : CustomerProg α} {f : α → CustomerProg β} {db : CustomerDb}
    (hp : Prog.ReadOnly p) (hf : ∀ a, (p db).1 = .ok a → db.table.Step (f a db).2.table) :
    db.table.Step ((p >>= f) db).2.table :=
  hp.bind_run_snd (P := fun db' : CustomerDb => db.table.Step db'.table) .same hf

/-- The listed row has the `coid` of the command line. -/
theorem newCustomer_of_populate {uid : ℕ} {cm : CmdbCommLine} {l : List AilsaData}
    (h : cmdbPopulateCustomerDetails uid cm = .ok l) (id : ℕ) :
    ∃ coid c, cm.coid = some coid ∧ newCustomer id l = some c ∧ c.id = id ∧ c.coid = arg coid := by
  rw [cmdbPopulateCustomerDetails] at h
  obtain ⟨fullname, -, h⟩ := addStringToList_bind_ok h
  obtain ⟨address, -, h⟩ := addStringToList_bind_ok h
  obtain ⟨city, -, h⟩ := addStringToList_bind_ok h
  obtain ⟨county, -, h⟩ := addStringToList_bind_ok h
  obtain ⟨postcode, -, h⟩ := addStringToList_bind_ok h
  obtain ⟨coid, hcoid, h⟩ := addStringToList_bind_ok h
  cases h
  exact ⟨coid, _, hcoid, rfl, rfl, rfl⟩

theorem cmdbAddCustomerToDatabase_step (dc : Dc) (env : CbcEnv) (cm : CmdbCommLine)
    (db : CustomerDb) :
    db.table.Step (cmdbAddCustomerToDatabase dc env cm db).2.table := by
  rw [cmdbAddCustomerToDatabase]
  rcases hcoid : cm.coid with _ | coid
  · exact .same
  refine step_ask (readOnly_dbQuery _ _) fun ids hids => ?_
  rw [Prog.ite_run]
  split_ifs with hfound
  · exact .same
  refine step_ask (readOnly_dbRet _) fun l hl => step_dbStatement ?_
  obtain ⟨coid', c, hcoid', hrow, hid, hkey⟩ :=
    newCustomer_of_populate hl (nextId (db.customers.map Customer.id))
  obtain rfl := Option.some.inj (hcoid.symm.trans hcoid')
  have hnil : db.custIds (arg coid) = [] := by
    rw [(dbQuery_ok_iff.mp hids).2]
    exact List.length_eq_zero_iff.mp (Nat.eq_zero_of_not_pos hfound)
  rw [CustomerDb.insertCustomer, hrow]
  refine PointedTable.step_of_append ?_ ?_ ?_
  · rw [hid]
    exact nextId_pos _
  · rw [hid]
    exact nextId_not_mem _
  · rw [hkey]
    exact not_mem_of_lookup_nil hnil

theorem cmdbRemoveCustomerFromDatabase_step (env : CbcEnv) (cm : CmdbCommLine)
    (db : CustomerDb) (hok : db.table.Ok) :
    db.table.Step (cmdbRemoveCustomerFromDatabase env cm db).2.table := by
  refine step_ask (readOnly_cmdbCheckAddCustId _ _) fun id hid => step_dbStatement ?_
  exact PointedTable.step_of_filter hok fun c hc hkept => hkept

theorem mem_custIds_of_checkAddCustId {env : CbcEnv} {coid : CStr} {id : ℕ} {db : CustomerDb}
    (h : (cmdbCheckAddCustId env (some coid) db).1 = .ok id) : id ∈ db.custIds (arg coid) := by
  rw [(cmdbCheckAddCustId_some_iff.mp h).2]
  exact List.mem_singleton_self id

theorem cmdbSetDefaultCustomer_step (env : CbcEnv) (cm : CmdbCommLine) (db : CustomerDb) :
    db.table.Step (cmdbSetDefaultCustomer env cm db).2.table := by
  refine step_ask (Prog.ReadOnly.require _ _) fun _ hcoid => ?_
  obtain ⟨coid, hcoid⟩ := Option.isSome_iff_exists.mp (Prog.require_ok hcoid)
  refine step_ask (readOnly_cmdbCheckAddCustId _ _) fun id hid => ?_
  rw [hcoid] at hid
  have hmem := mem_custIds_of_checkAddCustId hid
  have hid : id ∈ db.table.ids := by
    rw [CustomerDb.table, PointedTable.of_ids]
    exact mem_ids_of_lookup hmem
  refine step_ask (readOnly_dbQuery _ _) fun d hd => ?_
  rw [Prog.ite_run]
  split_ifs with hempty
  · rw [← (dbQuery_ok_iff.mp hd).2] at hempty
    exact step_dbStatement (.point hid (List.length_eq_zero_iff.mp hempty))
  · exact step_dbStatement (.move hid)

/-- What every command does to every table with a default is one of the steps. -/
theorem step_table {w : CmdbWorld} (hw : w.DefaultsOk) (op : CbcEnv × DefaultsCommand)
    (kind : DefaultKind) : (w.table kind).Step ((defaultsStep dc w op).table kind) := by
  have hbuild : ∀ {p : CbcProg Unit}, w.cbc.build.StepsTo (p w.cbc).2.build →
      (w.table kind).Step ((onCbc p w).2.table kind) := by
    intro p h
    cases kind with
    | locale => exact h.locales
    | customer => exact .same
    | domain => exact h.domains
  have hcust : ∀ {p : CustomerProg Unit}, w.cust.table.Step (p w.cust).2.table →
      (w.table kind).Step ((onCust p w).2.table kind) := by
    intro p h
    cases kind with
    | locale => exact .same
    | customer => exact h
    | domain => exact .same
  obtain ⟨env, cmd⟩ := op
  cases cmd with
  | addLocale cl => exact hbuild (addLocale_stepsTo dc env cl w.cbc)
  | removeLocale cl => exact hbuild (removeLocale_stepsTo env cl w.cbc (hw .locale))
  | defaultLocale cl => exact hbuild (setDefaultLocale_stepsTo env cl w.cbc)
  | addCustomer cm => exact hcust (cmdbAddCustomerToDatabase_step dc env cm w.cust)
  | removeCustomer cm =>
    exact hcust (cmdbRemoveCustomerFromDatabase_step env cm w.cust (hw .customer))
  | defaultCustomer cm => exact hcust (cmdbSetDefaultCustomer_step env cm w.cust)
  | addDomain cdl => exact hbuild (addCbcBuildDomain_stepsTo env cdl w.cbc)
  | removeDomain cdl => exact hbuild (removeCbcBuildDomain_stepsTo env cdl w.cbc (hw .domain))
  | defaultDomain cdl => exact hbuild (setDefaultCbcBuildDomain_stepsTo env cdl w.cbc)

theorem defaultsOk_step {w : CmdbWorld} (hw : w.DefaultsOk) (op : CbcEnv × DefaultsCommand) :
    (defaultsStep dc w op).DefaultsOk :=
  fun kind => (step_table hw op kind).ok (hw kind)

/-! ## What is looked up afterwards -/

/-- The id found by a name is that of the row of that name. -/
theorem lookup_eq {α : Type} {ident : α → ℕ} {name : α → CStr} {rows : List α} {ref : List ℕ}
    {key : CStr} {id id' : ℕ} (hok : (PointedTable.of ident name rows ref).Ok)
    (hrow : (id, key) ∈ (PointedTable.of ident name rows ref).rows)
    (h : id' ∈ (rows.filter (name · = key)).map ident) : id' = id := by
  obtain ⟨a, ha, rfl⟩ := List.mem_map.mp h
  obtain ⟨ha, hkey⟩ := List.mem_filter.mp ha
  exact hok.id_unique (PointedTable.mem_of_rows.mpr ⟨a, ha, rfl, of_decide_eq_true hkey⟩) hrow

theorem lookup_ne_nil {α : Type} {ident : α → ℕ} {name : α → CStr} {rows : List α}
    {ref : List ℕ} {key : CStr} {id : ℕ}
    (hrow : (id, key) ∈ (PointedTable.of ident name rows ref).rows) :
    (rows.filter (name · = key)).map ident ≠ [] := by
  intro hnil
  obtain ⟨a, ha, -, hkey⟩ := PointedTable.mem_of_rows.mp hrow
  exact not_mem_of_lookup_nil hnil (hkey ▸ List.mem_map_of_mem ha)

/-- A default that exists is set on every row of `default_locale`. -/
theorem setDefaultLocale_run (env : CbcEnv) {w : CbcWorld} {cl : LocaleCommLine} {name : CStr}
    {id : ℕ} (hok : w.build.localeTable.Ok) (hname : cl.name = some name)
    (hrow : (id, arg name) ∈ w.build.localeTable.rows) : setDefaultLocale env cl w =
      if env.sql .setDefaultLocale 0 then
        (.ok (), { w with build :=
          { w.build with defaultLocale := w.build.defaultLocale.map fun _ => id } })
      else (.error .statementFail, w) := by
  obtain ⟨id', hid', hset⟩ := exists_setDefaultLocale (lookup_ne_nil hrow)
  obtain rfl := lookup_eq hok hrow hid'
  rw [setDefaultLocale, hname, Option.elim_some, (readOnly_cbcRet _).bind_run_of_ok rfl,
    Prog.bind_run, cbcQuery_run]
  split_ifs
  · dsimp only
    rw [hset]
    rfl
  · rfl

theorem defaultLocale_takesEffect_iff {w : CmdbWorld} (hw : w.DefaultsOk) (cl : LocaleCommLine) :
    TakesEffect dc w (env, .defaultLocale cl) ↔
      DefaultsCommand.RowToUpdate w (env, .defaultLocale cl) := by
  have hok := hw .locale
  constructor
  · rintro h name hname ⟨l, hl, hkey⟩ hsql hempty
    have hrow : (l.id, arg name) ∈ w.cbc.build.localeTable.rows :=
      PointedTable.mem_of_rows.mpr ⟨l, hl, rfl, hkey⟩
    have hrun := setDefaultLocale_run env hok hname hrow
    rw [if_pos hsql, hempty] at hrun
    -- nothing is looked up, and the code is `0`
    have hyields := h .locale (arg name) l.id (congrArg (Option.map _) hname) hrow
      (congrArg Prod.fst hrun) allOk rfl
    have hget := getDefaultLocale_run (setDefaultLocale env cl w.cbc).2
      (rfl : allOk.sql .defaultLocale 0 = true)
    rw [hrun] at hget
    have hpos : 0 < l.id := hok.pos l.id (List.mem_map_of_mem (f := Prod.fst) hrow)
    rw [defaultsStep, DefaultsCommand.prog, onCbc, Prog.zoom_run, hrun] at hyields
    exact hpos.ne (Except.ok.inj (hget.symm.trans hyields))
  · intro h kind key id hsets hrow hret env'
    obtain ⟨name, hname, hkind⟩ := Option.map_eq_some_iff.mp hsets
    cases hkind
    intro henv'
    have hrun := setDefaultLocale_run env hok hname hrow
    by_cases hsql : env.sql .setDefaultLocale 0 = true
    · rw [if_pos hsql] at hrun
      obtain ⟨l, hl, -, hkey⟩ := PointedTable.mem_of_rows.mp hrow
      have hmove : (w.cbc.build.defaultLocale.map fun _ => id) = [id] :=
        hok.move_eq (h name hname ⟨l, hl, hkey⟩ hsql)
      have hpos : 0 < id := hok.pos id (List.mem_map_of_mem (f := Prod.fst) hrow)
      have hrows : (setDefaultLocale env cl w.cbc).2.build.defaultLocale = [id] := by
        rw [hrun]
        exact hmove
      change (getDefaultLocale env' (setDefaultLocale env cl w.cbc).2).1 = .ok id
      rw [getDefaultLocale_run _ henv', BuildDb.defaultLocaleIds, hrows]
      simp [hpos]
    · rw [if_neg hsql] at hrun
      exact nomatch (congrArg Prod.fst hrun).symm.trans hret

/-- A statement that returns `0` has been carried out. -/
theorem dbStatement_ok {σ : Type} {ok : Bool} {u : σ → σ} {db : σ} {a : Unit}
    (h : (dbStatement ok u db).1 = .ok a) : (dbStatement ok u db).2 = u db := by
  rw [dbStatement_run] at h ⊢
  split_ifs at h ⊢
  rfl

theorem defaultCustomer_takesEffect {w : CmdbWorld} (hw : w.DefaultsOk) (cm : CmdbCommLine) :
    TakesEffect dc w (env, .defaultCustomer cm) := by
  have hok := hw .customer
  intro kind key id hsets hrow hret env'
  obtain ⟨coid, hcoid, hkind⟩ := Option.map_eq_some_iff.mp hsets
  cases hkind
  intro henv'
  refine dbQuery_ok_iff.mpr ⟨henv', ?_⟩
  rw [defaultsStep]
  change ((cmdbSetDefaultCustomer env cm w.cust).1 = .ok ()) at hret
  change (cmdbSetDefaultCustomer env cm w.cust).2.defaultCustomer = [id]
  have hsome : ((Prog.require cm.coid.isSome .noData : CustomerProg Unit) w.cust).1 = .ok () := by
    rw [hcoid]
    rfl
  rw [cmdbSetDefaultCustomer, (Prog.ReadOnly.require _ _).bind_run_of_ok hsome] at hret ⊢
  obtain ⟨id', hid', -⟩ := (readOnly_cmdbCheckAddCustId _ _).bind_ok hret
  rw [(readOnly_cmdbCheckAddCustId _ _).bind_run_of_ok hid'] at hret ⊢
  rw [hcoid] at hid'
  have hmem := mem_custIds_of_checkAddCustId hid'
  obtain rfl : id' = id := lookup_eq hok hrow hmem
  obtain ⟨d, hd, -⟩ := (readOnly_dbQuery _ _).bind_ok hret
  rw [(readOnly_dbQuery _ _).bind_run_of_ok hd, Prog.ite_run] at hret ⊢
  rw [← (dbQuery_ok_iff.mp hd).2] at hret ⊢
  split_ifs at hret ⊢ with hempty
  · rw [dbStatement_ok hret, CustomerDb.insertDefault, List.length_eq_zero_iff.mp hempty]
    rfl
  · rw [dbStatement_ok hret]
    exact hok.move_eq fun h => hempty (congrArg List.length h)

/-- A statement that returns `0` has been carried out. -/
theorem cbcStatement_ok {q : CbcQuery} {u : BuildDb → BuildDb} {w : CbcWorld} {a : Unit}
    (h : (cbcStatement env q 0 u w).1 = .ok a) :
    (cbcStatement env q 0 u w).2.build = u w.build := by
  rw [cbcStatement_run] at h ⊢
  split_ifs at h ⊢
  rfl

theorem defaultDomain_takesEffect {w : CmdbWorld} (hw : w.DefaultsOk) (cdl : CbcdomainCommLine) :
    TakesEffect dc w (env, .defaultDomain cdl) := by
  have hok := hw .domain
  intro kind key id hsets hrow hret env'
  cases hsets
  intro henv'
  suffices hdefault : (setDefaultCbcBuildDomain env cdl w.cbc).2.build.defaultDomain = [id] by
    rw [cbcQuery_run, if_pos henv']
    exact congrArg Except.ok hdefault
  change ((setDefaultCbcBuildDomain env cdl w.cbc).1 = .ok ()) at hret
  rw [setDefaultCbcBuildDomain] at hret ⊢
  obtain ⟨domain, hdomain, -⟩ := (readOnly_cbcQuery _ _ _ _).bind_ok hret
  rw [(readOnly_cbcQuery _ _ _ _).bind_run_of_ok hdomain] at hret ⊢
  have hdomain := (cbcQuery_ok hdomain).2
  rcases domain with _ | ⟨id', rest⟩
  · exact absurd hdomain.symm (lookup_ne_nil hrow)
  have hmem : id' ∈ w.cbc.build.buildDomainIds (arg cdl.domain) :=
    hdomain ▸ List.mem_cons_self ..
  obtain rfl : id' = id := lookup_eq hok hrow hmem
  dsimp only at hret ⊢
  obtain ⟨d, hd, -⟩ := (readOnly_cbcQuery _ _ _ _).bind_ok hret
  rw [(readOnly_cbcQuery _ _ _ _).bind_run_of_ok hd, Prog.ite_run] at hret ⊢
  rw [(cbcQuery_ok hd).2] at hret ⊢
  split_ifs at hret ⊢ with hempty
  · rw [cbcStatement_ok hret, BuildDb.insertDefaultDomain, List.length_eq_zero_iff.mp hempty]
    rfl
  · rw [cbcStatement_ok hret]
    exact hok.move_eq fun h => hempty (congrArg List.length h)

/-! ## Histories -/

theorem takesEffect_step_iff {w : CmdbWorld} (hw : w.DefaultsOk)
    (op : CbcEnv × DefaultsCommand) :
    TakesEffect dc w op ↔ DefaultsCommand.RowToUpdate w op := by
  obtain ⟨env, cmd⟩ := op
  cases cmd with
  | defaultLocale cl => exact defaultLocale_takesEffect_iff hw cl
  | defaultCustomer cm => exact iff_of_true (defaultCustomer_takesEffect hw cm) trivial
  | defaultDomain cdl => exact iff_of_true (defaultDomain_takesEffect hw cdl) trivial
  | _ => exact iff_of_true (fun kind key id hsets => nomatch hsets) trivial

/-- In every history, every default that is set takes effect iff a default locale is never
set while `default_locale` is empty. -/
theorem takesEffect_iff (dc : Dc) (w : CmdbWorld) (hw : w.DefaultsOk)
    (ops : List (CbcEnv × DefaultsCommand)) :
    Each (defaultsStep dc) (TakesEffect dc) w ops ↔
      Each (defaultsStep dc) DefaultsCommand.RowToUpdate w ops :=
  each_iff_each (J := CmdbWorld.DefaultsOk) (fun _ op h => defaultsOk_step h op)
    (fun _ op h => takesEffect_step_iff h op) ops w hw

/-- The tables as they are set up : `english`, by default. -/
def initialWorld : CmdbWorld where
  cbc := { emptyWorld with
    build := { emptyWorld.build with
      locales := [⟨1, "english".toList⟩]
      defaultLocale := [1] } }
  cust := ⟨[], []⟩

theorem initialWorld_defaultsOk : initialWorld.DefaultsOk := by
  rintro (_ | _ | _)
  · exact ⟨by decide, by decide, by decide, by decide, by decide⟩
  · exact PointedTable.ok_empty
  · exact PointedTable.ok_empty

/-- A command line for the locale of that name. -/
def localeNamed (name : String) : LocaleCommLine where
  country := some "FR".toList
  keymap := some "fr".toList
  language := some "fr".toList
  locale := some "fr_FR".toList
  name := some name.toList
  timezone := some "Europe/Paris".toList

/-- `french` is added and becomes the default. -/
def frenchAdded : List (CbcEnv × DefaultsCommand) :=
  [(allOk, .addLocale (localeNamed "french")), (allOk, .defaultLocale (localeNamed "french"))]

theorem takesEffect_iff_frenchAdded :
    Each (defaultsStep ⟨[], 0, fun _ _ => none⟩) (TakesEffect ⟨[], 0, fun _ _ => none⟩)
      initialWorld frenchAdded := by
  refine (takesEffect_iff _ initialWorld initialWorld_defaultsOk frenchAdded).mpr ?_
  refine ⟨trivial, fun _ _ _ _ => ?_, trivial⟩
  decide

/-- Before that `english` is removed, and the default with it : nothing is set. -/
theorem englishRemoved_no_effect :
    ¬Each (defaultsStep ⟨[], 0, fun _ _ => none⟩) (TakesEffect ⟨[], 0, fun _ _ => none⟩)
      initialWorld ((allOk, .removeLocale (localeNamed "english")) :: frenchAdded) := by
  rintro ⟨-, -, h, -⟩
  have hyields := h .locale "french".toList 1 rfl (by decide) (by decide) allOk rfl
  exact absurd hyields (by decide)

end Cmdb
