import Cmdb.CreateBuild

/-!
# Locales

The commands of `cbclocale` on the tables `locale` and `default_locale`.
-/

namespace Cmdb

open CString

/-- The command line of `cbclocale` (`locale_comm_line_s`). -/
structure LocaleCommLine where
  country : Option CStr
  keymap : Option CStr
  language : Option CStr
  locale : Option CStr
  name : Option CStr
  timezone : Option CStr
deriving DecidableEq, Repr

/-! ## Statements -/

/-- The row an insert list stands for. -/
def newLocale (id : ℕ) (l : List AilsaData) : Option Locale :=
  match l with
  | .text _ :: .text _ :: .text _ :: .text _ :: .text _ :: .text name :: _ => some ⟨id, name⟩
  | _ => none

namespace BuildDb

variable (db : BuildDb)

/-- `INSERT_LOCALE`. -/
def insertLocale (l : List AilsaData) : BuildDb :=
  { db with locales := db.locales ++ (newLocale (nextId (db.locales.map Locale.id)) l).toList }

/-- `DELETE_LOCALE`. The default and the builds go with the locale. -/
def deleteLocale (name : CStr) : BuildDb :=
  { db with
    locales := db.locales.filter (·.name ≠ name)
    builds := db.builds.filter (·.localeId ∉ db.localeIds name)
    defaultLocale := db.defaultLocale.filter (· ∉ db.localeIds name) }

/-- `SET_DEFAULT_LOCALE`, on every row. The column takes no `NULL`. -/
def setDefaultLocale (name : CStr) : Except AilsaError BuildDb :=
  match db.localeIds name, db.defaultLocale with
  | id :: _, rows => .ok { db with defaultLocale := rows.map fun _ => id }
  | [], [] => .ok db
  | [], _ :: _ => .error .statementFail

end BuildDb

/-! ## Commands -/

/-- What `add_locale` lists. -/
def populateLocale (uid : ℕ) (cl : LocaleCommLine) : Except AilsaError (List AilsaData) := do
  let l ← addStringToList cl.locale []
  let l ← addStringToList cl.country l
  let l ← addStringToList cl.language l
  let l ← addStringToList cl.keymap l
  let l ← addStringToList cl.timezone l
  let l ← addStringToList cl.name l
  return cmdbPopulateCuserMuser uid l

/-- `add_locale`. A locale that exists is no error. -/
def addLocale (dc : Dc) (env : CbcEnv) (cl : LocaleCommLine) : CbcProg Unit := do
  let name ← cbcRet (cl.name.elim (.error .noData) .ok)
  let r ← cbcQuery env .localeOnName 0 fun db => db.localeIds (arg name)
  if 0 < r.length then return ()
  else
    let l ← cbcRet (populateLocale dc.uid cl)
    cbcStatement env .insertLocale 0 fun db => db.insertLocale l

/-- `remove_locale`. -/
def removeLocale (env : CbcEnv) (cl : LocaleCommLine) : CbcProg Unit := do
  let name ← cbcRet (cl.name.elim (.error .noData) .ok)
  cbcStatement env .deleteLocale 0 fun db => db.deleteLocale (arg name)

/-- `set_default_locale`. -/
def setDefaultLocale (env : CbcEnv) (cl : LocaleCommLine) : CbcProg Unit := do
  let name ← cbcRet (cl.name.elim (.error .noData) .ok)
  let db ← cbcQuery env .setDefaultLocale 0 fun db => db.setDefaultLocale (arg name)
  let db ← cbcRet db
  Prog.modify fun w => { w with build := db }

/-- `get_default_locale`, `0` if there is none. -/
def getDefaultLocale (env : CbcEnv) : CbcProg ℕ := do
  let d ← cbcQuery env .defaultLocale 0 BuildDb.defaultLocaleIds
  return d.headD 0

/-! ## What they do -/

variable {env : CbcEnv} {cl : LocaleCommLine}

/-- The listed row has the name of the command line. -/
theorem newLocale_of_populateLocale {uid : ℕ} {l : List AilsaData}
    (h : populateLocale uid cl = .ok l) (id : ℕ) :
    ∃ name, cl.name = some name ∧ newLocale id l = some ⟨id, arg name⟩ := by
  rw [populateLocale] at h
  obtain ⟨locale, -, h⟩ := addStringToList_bind_ok h
  obtain ⟨country, -, h⟩ := addStringToList_bind_ok h
  obtain ⟨language, -, h⟩ := addStringToList_bind_ok h
  obtain ⟨keymap, -, h⟩ := addStringToList_bind_ok h
  obtain ⟨timezone, -, h⟩ := addStringToList_bind_ok h
  obtain ⟨name, hname, h⟩ := addStringToList_bind_ok h
  cases h
  exact ⟨name, hname, rfl⟩

/-- The scalar of the update, where there is a locale of that name. -/
theorem exists_setDefaultLocale {db : BuildDb} {name : CStr} (h : db.localeIds name ≠ []) :
    ∃ id ∈ db.localeIds name,
      db.setDefaultLocale name = .ok { db with defaultLocale := db.defaultLocale.map fun _ => id }
      := by
  obtain ⟨id, rest, hids⟩ := List.exists_cons_of_ne_nil h
  refine ⟨id, hids ▸ List.mem_cons_self .., ?_⟩
  rw [BuildDb.setDefaultLocale, hids]

theorem getDefaultLocale_run (w : CbcWorld) (h : env.sql .defaultLocale 0 = true) :
    (getDefaultLocale env w).1 = .ok (w.build.defaultLocaleIds.headD 0) := by
  rw [getDefaultLocale, Prog.bind_run_ok (by rw [cbcQuery_run, if_pos h])]
  rfl

end Cmdb
