import Cmdb.BuildDb
import Cmdb.CommLine
import Cmdb.Getopt
import Cmdb.MultiStatements
import Cmdb.VarientNames
import Cmdb.Sql

/-!
# The packages of the operating systems

The rows of `packages`, of `build_os` and of `varient` with the columns that may be `NULL`, and
the statements of SQLite on them, from their text and the list of their arguments. The keys of
the tables are part of them (`PackageDb`). What `cbcvarient` is asked of an OS is an `OsFilter`.
-/

namespace Cmdb

open CString
open Sql (Value)

/-! ## Tables -/

/-- A row of `build_os`. -/
structure OsRow where
  id : ℕ
  os : CStr
  osVersion : Option CStr
  osAlias : Option CStr
  verAlias : CStr
  arch : Option CStr
  btId : Option ℕ
  ctime : ℕ
deriving DecidableEq, Repr

/-- A row of `packages`. -/
structure PackageRow where
  id : ℕ
  package : CStr
  varientId : ℕ
  osId : ℕ
  cuser : ℕ
  muser : ℕ
deriving DecidableEq, Repr

def textOrNull (s : Option CStr) : Value := s.elim .null .text

def numberOrNull (n : Option ℕ) : Value := n.elim .null fun n => .int n

def OsRow.columns : List (Sql.Name × (OsRow → Value)) :=
  [("os_id".toList, fun o => .int o.id), ("os".toList, fun o => .text o.os),
    ("os_version".toList, fun o => textOrNull o.osVersion),
    ("alias".toList, fun o => textOrNull o.osAlias),
    ("ver_alias".toList, fun o => .text o.verAlias),
    ("arch".toList, fun o => textOrNull o.arch), ("bt_id".toList, fun o => numberOrNull o.btId),
    ("ctime".toList, fun o => .int o.ctime)]

def PackageRow.columns : List (Sql.Name × (PackageRow → Value)) :=
  [("pack_id".toList, fun p => .int p.id), ("package".toList, fun p => .text p.package),
    ("varient_id".toList, fun p => .int p.varientId), ("os_id".toList, fun p => .int p.osId),
    ("cuser".toList, fun p => .int p.cuser), ("muser".toList, fun p => .int p.muser)]

def Varient.columns : List (Sql.Name × (Varient → Value)) :=
  [("varient_id".toList, fun v => .int v.id), ("varient".toList, fun v => .text v.varient),
    ("valias".toList, fun v => .text v.valias)]

/-- The three tables. Their primary keys are unique, and a package is for an OS and a varient
there are. -/
structure PackageDb where
  varients : List Varient
  buildOs : List OsRow
  packages : List PackageRow
  varientIds : (varients.map Varient.id).Nodup
  osIds : (buildOs.map OsRow.id).Nodup
  packIds : (packages.map PackageRow.id).Nodup
  osKnown : ∀ p ∈ packages, ∃ o ∈ buildOs, o.id = p.osId
  varientKnown : ∀ p ∈ packages, ∃ v ∈ varients, v.id = p.varientId

namespace PackageDb

variable (db : PackageDb)

def tables : Sql.Tables := fun t =>
  if t = "packages".toList then some (.ofColumns PackageRow.columns db.packages)
  else if t = "build_os".toList then some (.ofColumns OsRow.columns db.buildOs)
  else if t = "varient".toList then some (.ofColumns Varient.columns db.varients)
  else none

/-- Only the packages that satisfy `P` are left. -/
def keepPackages (P : PackageRow → Prop) [DecidablePred P] : PackageDb :=
  { db with
    packages := db.packages.filter P
    packIds := db.packIds.sublist (List.filter_sublist.map _)
    osKnown := fun p hp => db.osKnown p (List.mem_of_mem_filter hp)
    varientKnown := fun p hp => db.varientKnown p (List.mem_of_mem_filter hp) }

end PackageDb

/-! ## Statements -/

def dataValue : AilsaData → Value
  | .number n => .int n
  | .text s => .text s

/-- What the placeholders are worth after the calls : one that is not bound is `NULL`. -/
def boundValue (calls : List BindCall) (i : ℕ) : Value :=
  (calls.find? fun call => call.position = i + 1).elim .null fun call => dataValue call.data

/-- `SQLITE_RANGE` -/
abbrev sqliteRange : ℤ := 25

/-- A statement of the query tables as it is run : its meaning, and the values bound to its
placeholders. The error is a code, or `none` for a bad pointer. -/
def setupStatement (tables : Sql.Tables) (q : AilsaSqlQuery) (args : List AilsaData) :
    Except (Option ℤ) (Sql.Statement × List BindCall) :=
  match Sql.prepare tables q.query with
  | none => .error (some ailsaStatementFail)
  | some s => do
    let calls ← bindCalls q.fields 0 q.number args
    if s.cond.params.length < calls.length then .error (some sqliteRange)
    else return (s, calls)

/-- `SQL_TEXT_MAX` -/
abbrev sqlTextMax : ℕ := 4096

/-- `ailsa_store_basic_sqlite` : a text is cut. -/
def storeBasic : Value → Value
  | .text s => .text (s.take sqlTextMax)
  | v => v

/-- A program on the tables. -/
abbrev PackageProg (α : Type) := Prog PackageDb (Option ℤ) α

namespace PackageDb

variable (db : PackageDb)

/-- The rows of the answer of `ailsa_argument_query_sqlite`, and the columns it consists of. -/
def argumentRows (q : AilsaSqlQuery) (args : List AilsaData) :
    Except (Option ℤ) (List Sql.Column × List Sql.Row) := do
  match ← setupStatement db.tables q args with
  | (.select s, calls) => return (s.columns, s.rows db.tables (boundValue calls))
  | (.delete _ _, _) => .error (some ailsaStatementFail)

/-- `ailsa_argument_query_sqlite` : the answer as it is stored, row after row. -/
def argumentQuery (q : AilsaSqlQuery) (args : List AilsaData) :
    Except (Option ℤ) (List (List Value)) := do
  let (columns, rows) ← db.argumentRows q args
  return rows.map fun r => columns.map fun c => storeBasic (r c)

/-- `ailsa_delete_query_sqlite` for a statement on `packages`. -/
def deleteQuery (q : AilsaSqlQuery) (args : List AilsaData) : PackageProg Unit := fun db =>
  match setupStatement db.tables q args with
  | .error e => (.error e, db)
  | .ok (.delete t w, calls) =>
    if t = "packages".toList then
      (.ok (), db.keepPackages fun p =>
        ¬w.Holds db.tables (boundValue calls) (Sql.ofTable (Sql.valueOf PackageRow.columns p)))
    else (.error (some ailsaStatementFail), db)
  | .ok (.select _, _) => (.error (some ailsaStatementFail), db)

end PackageDb

/-! ## Binding the right types -/

/-- The type a value is bound at. -/
def fieldOf : AilsaData → DbType
  | .number _ => .lint
  | .text _ => .text

/-- The calls that bind the data, from the `i`-th placeholder on. -/
def dataCalls : ℕ → List AilsaData → List BindCall
  | _, [] => []
  | i, d :: ds => ⟨i + 1, fieldOf d, d⟩ :: dataCalls (i + 1) ds

theorem bindCall_fieldOf (i : ℕ) (d : AilsaData) :
    bindCall i d (fieldOf d) = .ok ⟨i + 1, fieldOf d, d⟩ := by
  cases d <;> rfl

theorem length_dataCalls : ∀ (i : ℕ) (ds : List AilsaData), (dataCalls i ds).length = ds.length
  | _, [] => rfl
  | i, _ :: ds => congrArg (· + 1) (length_dataCalls (i + 1) ds)

/-- The data is bound at its types, and what is behind it on the list is not. -/
theorem bindCalls_eq_dataCalls {f : List DbType} {rest : List AilsaData} :
    ∀ {ds : List AilsaData} {i : ℕ}, f.drop i = ds.map fieldOf → i + ds.length < 2 ^ 31 →
      bindCalls f i ds.length (ds ++ rest) = .ok (dataCalls i ds)
  | [], _, _, _ => rfl
  | d :: ds, i, hf, hlt => by
    rw [List.length_cons] at hlt
    have hfield : f.getD i .null = fieldOf d := by
      rw [List.getD_eq_getElem?_getD, ← List.head?_drop, hf]
      rfl
    have hrest : f.drop (i + 1) = ds.map fieldOf := by
      rw [← List.tail_drop, hf]
      rfl
    rw [List.length_cons, List.cons_append, bindCalls, if_neg (by omega), hfield,
      bindCall_fieldOf, bindCalls_eq_dataCalls hrest (by omega)]
    rfl

theorem find?_dataCalls : ∀ (i j : ℕ) (ds : List AilsaData),
    ((dataCalls i ds).find? fun call => call.position = i + j + 1).map BindCall.data = ds[j]?
  | _, _, [] => rfl
  | i, 0, d :: ds => by
    rw [dataCalls, List.find?_cons_of_pos (by simp)]
    rfl
  | i, j + 1, d :: ds => by
    rw [dataCalls, List.find?_cons_of_neg (by simp), List.getElem?_cons_succ,
      ← find?_dataCalls (i + 1) j ds]
    simp only [show i + (j + 1) + 1 = i + 1 + j + 1 by omega]

/-- The `i`-th placeholder has the `i`-th of the data. -/
theorem boundValue_dataCalls (ds : List AilsaData) (i : ℕ) :
    boundValue (dataCalls 0 ds) i = ds[i]?.elim .null dataValue := by
  rw [← find?_dataCalls 0 i ds, boundValue, Option.elim_map]
  simp only [Nat.zero_add]
  rfl

/-- Texts as the values of placeholders. -/
def textArgs (ss : List CStr) (i : ℕ) : Value := ss[i]?.elim .null .text

theorem boundValue_texts (ss : List CStr) :
    boundValue (dataCalls 0 (ss.map .text)) = textArgs ss := by
  funext i
  rw [boundValue_dataCalls, List.getElem?_map, Option.elim_map]
  rfl

/-- A statement that is run on data of its types. -/
theorem setupStatement_eq_ok {tables : Sql.Tables} {q : AilsaSqlQuery} {s : Sql.Statement}
    {ds : List AilsaData} (rest : List AilsaData) (hs : Sql.prepare tables q.query = some s)
    (hf : q.fields = ds.map fieldOf) (hn : q.number = ds.length)
    (hle : ds.length ≤ s.cond.params.length) (hlt : s.cond.params.length < 2 ^ 31) :
    setupStatement tables q (ds ++ rest) = .ok (s, dataCalls 0 ds) := by
  have hbind : bindCalls q.fields 0 q.number (ds ++ rest) = .ok (dataCalls 0 ds) := by
    rw [hn]
    exact bindCalls_eq_dataCalls hf (by omega)
  rw [setupStatement, hs]
  dsimp only
  rw [hbind]
  refine if_neg ?_
  rw [length_dataCalls]
  omega

/-! ## Texts of queries -/

/-- The characters of a text in pieces. Evaluation of `toList` on a long text is slow, and
`String.toList_ofList` gives the characters of each piece at once. -/
theorem toList_append_eq {s t : String} {l k : List Char} (hs : s.toList = l)
    (ht : t.toList = k) : (s ++ t).toList = l ++ k := by
  rw [String.toList_append, hs, ht]

/-- What is read of a query of the tables. -/
theorem parse_of_query {qs : List AilsaSqlQuery} {i : ℕ} {text : List Char}
    {r : Option Sql.Statement} (hq : (qs[i]?).map AilsaSqlQuery.query = some text)
    (h : ∃ l, text = l ∧ Sql.parse l = r) :
    (qs[i]?).bind (fun q => Sql.parse q.query) = r := by
  obtain ⟨q, hi, hquery⟩ := Option.map_eq_some_iff.mp hq
  obtain ⟨l, htext, hparse⟩ := h
  rw [hi, Option.bind_some, hquery, htext, hparse]

/-! ## Lists of arguments -/

/-- `cmdb_add_string_to_list` of a pointer that may be `NULL`. -/
def addStringOrNull (str : Option CStr) (list : List AilsaData) :
    Except (Option ℤ) (List AilsaData) :=
  match str with
  | none => .error (some ailsaNoData)
  | some s => .ok (cmdbAddStringToList s list)

/-- `cmdb_add_os_name_or_alias_to_list` -/
def cmdbAddOsNameOrAliasToList (os osAlias : Option CStr) (list : List AilsaData) :
    List AilsaData :=
  match os <|> osAlias with
  | none => list
  | some name => list ++ [.text (name.take macLen), .text (name.take macLen)]

/-- `cmdb_add_os_version_or_alias_to_list` -/
def cmdbAddOsVersionOrAliasToList (ver valias : Option CStr) (list : List AilsaData) :
    List AilsaData :=
  match ver <|> valias with
  | none => list
  | some version => list ++ [.text (version.take serviceLen), .text (version.take serviceLen)]

/-- `get_build_os_query` : the list, and the number of the query behind
`BUILD_OS_ON_NAME_OR_ALIAS`. -/
def getBuildOsQuery (list : List AilsaData) (os vers arch : Option CStr) :
    Except (Option ℤ) (List AilsaData × ℕ) := do
  if os = none then .error (some ailsaNoData)
  let list ← addStringOrNull os list
  let list ← addStringOrNull os list
  let list ← if vers.isSome then addStringOrNull vers list >>= addStringOrNull vers else .ok list
  let list ← if arch.isSome then addStringOrNull arch list else .ok list
  return (list, (if vers.isSome then 1 else 0) ||| if arch.isSome then 2 else 0)

/-! ## Conditions on an OS -/

/-- One of two columns is equal to its placeholder. -/
def eitherParam (q : Option Sql.Name) (c d : String) (i : ℕ) : Sql.Cond :=
  .or (.param ⟨q, c.toList⟩ i) (.param ⟨q, d.toList⟩ (i + 1))

def andIf (b : Bool) (v w : Sql.Cond) : Sql.Cond := if b then .and v w else v

section

variable {tables : Sql.Tables} {args : ℕ → Value} {r : Sql.Row} {v w : Sql.Cond}

theorem holds_eitherParam {q : Option Sql.Name} {c d : String} {i : ℕ} :
    (eitherParam q c d i).Holds tables args r ↔
      (r ⟨q, c.toList⟩).Equals (args i) ∨ (r ⟨q, d.toList⟩).Equals (args (i + 1)) := Iff.rfl

theorem holds_andIf {b : Bool} : (andIf b v w).Holds tables args r ↔
    v.Holds tables args r ∧ (b = true → w.Holds tables args r) := by
  cases b
  · exact ⟨fun h => ⟨h, nofun⟩, And.left⟩
  · exact ⟨fun h => ⟨h.1, fun _ => h.2⟩, fun h => ⟨h.1, h.2 rfl⟩⟩

@[simp] theorem textOrNull_equals {s : Option CStr} {t : CStr} :
    (textOrNull s).Equals (.text t) ↔ s = some t := by
  cases s <;> simp [textOrNull]

end

/-! ## Varients -/

/-- `VARIENT_ID_ON_VARIANT_OR_VALIAS` -/
def varientIdOnVariantOrValias : AilsaSqlQuery where
  query := "SELECT varient_id FROM varient WHERE varient = ? OR valias = ?".toList
  number := 2
  fields := [.text, .text]

/-- A number of the answer as it is read from a list. -/
def valueNumber : Value → ℕ
  | .int n => n.toNat
  | _ => 0

/-- `AILSA_VARIENT_NOT_FOUND` -/
abbrev ailsaVarientNotFound : ℤ := 704

/-- `cmdb_check_add_varient_id_to_list`, for a varient that is given. -/
def PackageDb.checkVarientId (db : PackageDb) (varient : CStr) : Except (Option ℤ) ℕ := do
  let list := cmdbAddStringToList varient (cmdbAddStringToList varient [])
  let rows ← db.argumentQuery varientIdOnVariantOrValias list
  match rows.flatten with
  | [v] => return valueNumber v
  | _ => .error (some ailsaVarientNotFound)

section

variable {db : PackageDb} {q : AilsaSqlQuery} {s : Sql.Select}

/-- A query that is run on data of its types. -/
theorem PackageDb.argumentRows_eq {ds : List AilsaData} (rest : List AilsaData)
    (hs : Sql.prepare db.tables q.query = some (.select s)) (hf : q.fields = ds.map fieldOf)
    (hn : q.number = ds.length) (hle : ds.length ≤ s.cond.params.length)
    (hlt : s.cond.params.length < 2 ^ 31) : db.argumentRows q (ds ++ rest) =
      .ok (s.columns, s.rows db.tables (boundValue (dataCalls 0 ds))) := by
  rw [PackageDb.argumentRows, setupStatement_eq_ok rest hs hf hn hle hlt]
  rfl

/-- A query of one table in the order of the table. -/
theorem PackageDb.argumentQuery_table {R : Type} {cs : List Sql.Column} {t : Sql.Name}
    {w : Sql.Cond} {columns : List (Sql.Name × (R → Value))} {rs : List R} {ds : List AilsaData}
    (hs : Sql.prepare db.tables q.query = some (.select ⟨cs, .table t, w, [], false, none⟩))
    (ht : db.tables t = some (.ofColumns columns rs)) (hf : q.fields = ds.map fieldOf)
    (hn : q.number = ds.length) (hle : ds.length ≤ w.params.length)
    (hlt : w.params.length < 2 ^ 31) : db.argumentQuery q ds =
      .ok ((rs.filter fun x => w.Holds db.tables (boundValue (dataCalls 0 ds))
        (Sql.ofTable (Sql.valueOf columns x))).map fun x =>
          cs.map fun c => storeBasic (Sql.valueOf columns x c.name)) := by
  have hrows := PackageDb.argumentRows_eq [] hs hf hn hle hlt
  rw [List.append_nil, Sql.Select.rows_eq_found rfl rfl,
    Sql.Select.found_map (Sql.Source.rows_table ht)] at hrows
  rw [PackageDb.argumentQuery, hrows]
  refine congrArg Except.ok ?_
  rw [List.map_map]
  rfl

/-- The query finds the varients that go by the name. -/
theorem PackageDb.checkVarientId_eq (db : PackageDb) {varient : CStr}
    (h : varient.length ≤ configLen) : db.checkVarientId varient =
      match (db.varients.filter fun v => v.Carries varient).map Varient.id with
      | [id] => .ok id
      | _ => .error (some ailsaVarientNotFound) := by
  have hprep : Sql.prepare db.tables varientIdOnVariantOrValias.query =
      some (.select ⟨[⟨none, "varient_id".toList⟩], .table "varient".toList,
        eitherParam none "varient" "valias" 0, [], false, none⟩) :=
    Sql.prepare_eq_some (by decide +kernel) rfl
  have hquery : db.argumentQuery varientIdOnVariantOrValias ([varient, varient].map .text) = _ :=
    PackageDb.argumentQuery_table hprep rfl rfl rfl le_rfl (by decide)
  have hfilter : (db.varients.filter fun v => (eitherParam none "varient" "valias" 0).Holds
      db.tables (textArgs [varient, varient]) (Sql.ofTable (Sql.valueOf Varient.columns v))) =
      db.varients.filter fun v => v.Carries varient :=
    List.filter_congr fun v _ => decide_eq_decide.mpr
      (or_congr Sql.Value.text_equals_text Sql.Value.text_equals_text)
  have hlist : cmdbAddStringToList varient (cmdbAddStringToList varient []) =
      [varient, varient].map .text := by
    rw [cmdbAddStringToList, cmdbAddStringToList, arg_of_length_le h]
    rfl
  rw [boundValue_texts, hfilter] at hquery
  rw [PackageDb.checkVarientId, hlist, hquery]
  generalize List.filter _ db.varients = vs
  rcases vs with _ | ⟨v, _ | ⟨v', vs⟩⟩ <;> rfl

end

/-! ## Command lines -/

/-- The options of `cbcvarient`. -/
inductive CbcvarientOption
  | add | display | list | cbcServer | rm | mod | default | version | package | varient | usage
  | verAlias (optarg : CStr)
  | valias (optarg : CStr)
  | osName (optarg : CStr)
  | osVersion (optarg : CStr)
  | packageName (optarg : CStr)
  | osAlias (optarg : CStr)
  | arch (optarg : CStr)
  | varientName (optarg : CStr)
  | new (optarg : CStr)
deriving DecidableEq, Repr

/-- The `switch` of `parse_cbcvarient_comm_line`. -/
def cbcvarientOption (cvl : CbcvariCommLine) : CbcvarientOption → Except UsageError CbcvariCommLine
  | .add => .ok { cvl with action := .add }
  | .display => .ok { cvl with action := .display, type := .varient }
  | .list => .ok { cvl with action := .list }
  | .cbcServer => .ok { cvl with action := .cbcServer }
  | .rm => .ok { cvl with action := .rm }
  | .mod => .ok { cvl with action := .mod }
  | .default => .ok { cvl with action := .default }
  | .version => .ok { cvl with action := .version }
  | .usage => .error .displayUsage
  | .package => .ok { cvl with type := .package }
  | .varient => .ok { cvl with type := .varient }
  | .verAlias optarg => .ok { cvl with verAlias := some (optarg.take macLen) }
  | .valias optarg => .ok { cvl with valias := some (optarg.take macLen) }
  | .osName optarg => .ok { cvl with os := some (optarg.take macLen) }
  | .osVersion optarg => .ok { cvl with version := some (optarg.take macLen) }
  | .packageName optarg => .ok { cvl with package := some (optarg.take hostLen) }
  | .osAlias optarg => .ok { cvl with osAlias := some (optarg.take macLen) }
  | .arch optarg => .ok { cvl with arch := some (optarg.take serviceLen) }
  | .varientName optarg => .ok { cvl with varient := some (optarg.take hostLen) }
  | .new optarg => .ok { cvl with new := some optarg }

/-- Nothing is given. -/
def CbcvariCommLine.blank : CbcvariCommLine :=
  ⟨.none, .none, none, none, none, none, none, none, none, none, none⟩

/-- `parse_cbcvarient_comm_line`, where every word is an option or the argument of one. -/
def parseCbcvarientCommLine (opts : List CbcvarientOption) : Except UsageError CbcvariCommLine := do
  let cvl ← opts.foldlM cbcvarientOption .blank
  acceptCbcvarient (opts.length + 1) cvl

/-- The texts of a command line are what `strndup` leaves of the arguments. -/
structure CbcvariCommLine.Copied (cvl : CbcvariCommLine) : Prop where
  varient : ∀ s ∈ cvl.varient, s.length ≤ hostLen
  valias : ∀ s ∈ cvl.valias, s.length ≤ macLen
  os : ∀ s ∈ cvl.os, s.length ≤ macLen
  osAlias : ∀ s ∈ cvl.osAlias, s.length ≤ macLen
  version : ∀ s ∈ cvl.version, s.length ≤ macLen
  verAlias : ∀ s ∈ cvl.verAlias, s.length ≤ macLen
  arch : ∀ s ∈ cvl.arch, s.length ≤ serviceLen
  package : ∀ s ∈ cvl.package, s.length ≤ hostLen

/-- A command line of `cbcvarient` with the texts as they are copied. -/
structure CbcvarientLine extends CbcvariCommLine where
  copied : toCbcvariCommLine.Copied

theorem length_take_le_of_mem {optarg s : CStr} {n : ℕ} (h : s ∈ some (optarg.take n)) :
    s.length ≤ n := by
  obtain rfl := Option.some.inj h
  exact List.length_take_le n optarg

theorem copied_blank : CbcvariCommLine.blank.Copied :=
  ⟨nofun, nofun, nofun, nofun, nofun, nofun, nofun, nofun⟩

theorem CbcvariCommLine.Copied.cbcvarientOption {cvl cvl' : CbcvariCommLine} (h : cvl.Copied)
    {o : CbcvarientOption} (ho : cbcvarientOption cvl o = .ok cvl') : cvl'.Copied := by
  cases o with
  | usage => cases ho
  | verAlias optarg =>
    cases ho
    exact { h with verAlias := fun _ => length_take_le_of_mem }
  | valias optarg =>
    cases ho
    exact { h with valias := fun _ => length_take_le_of_mem }
  | osName optarg =>
    cases ho
    exact { h with os := fun _ => length_take_le_of_mem }
  | osVersion optarg =>
    cases ho
    exact { h with version := fun _ => length_take_le_of_mem }
  | packageName optarg =>
    cases ho
    exact { h with package := fun _ => length_take_le_of_mem }
  | osAlias optarg =>
    cases ho
    exact { h with osAlias := fun _ => length_take_le_of_mem }
  | arch optarg =>
    cases ho
    exact { h with arch := fun _ => length_take_le_of_mem }
  | varientName optarg =>
    cases ho
    exact { h with varient := fun _ => length_take_le_of_mem }
  | _ =>
    cases ho
    exact ⟨h.varient, h.valias, h.os, h.osAlias, h.version, h.verAlias, h.arch, h.package⟩

/-- What is accepted is the command line, with its type set for the default. -/
theorem acceptCbcvarient_eq {argc : ℕ} {cvl cvl' : CbcvariCommLine}
    (h : acceptCbcvarient argc cvl = .ok cvl') : cvl' = { cvl with type := cvl'.type } := by
  dsimp only [acceptCbcvarient] at h
  generalize hset : (if cvl.action = .default then { cvl with type := .varient } else cvl) = cvl₁
    at h
  have heq : cvl₁ = { cvl with type := cvl₁.type } := by
    rw [← hset]
    split_ifs <;> rfl
  rw [Getopt.check_eq_ok_iff, Getopt.check_eq_ok_iff, Getopt.check_eq_ok_iff,
    Getopt.check_eq_ok_iff, Getopt.check_eq_ok_iff, Getopt.check_eq_ok_iff] at h
  obtain ⟨-, -, -, -, -, -, h⟩ := h
  by_cases htype : cvl₁.type = .package
  · rw [if_pos htype, Getopt.check_eq_ok_iff, Getopt.check_eq_ok_iff,
      Getopt.check_eq_ok_iff] at h
    obtain ⟨-, -, -, h⟩ := h
    cases h
    exact heq
  · rw [if_neg htype] at h
    cases h
    exact heq

/-- The command lines that are read are as they are copied. -/
theorem copied_of_parse {opts : List CbcvarientOption} {cvl : CbcvariCommLine}
    (h : parseCbcvarientCommLine opts = .ok cvl) : cvl.Copied := by
  unfold parseCbcvarientCommLine at h
  cases hrun : opts.foldlM cbcvarientOption .blank with
  | error e =>
    rw [hrun] at h
    cases h
  | ok cvl₁ =>
    rw [hrun] at h
    have hcopied := Getopt.foldlM_invariant (fun _ _ _ hcvl ho => hcvl.cbcvarientOption ho)
      copied_blank hrun
    rw [acceptCbcvarient_eq h]
    exact ⟨hcopied.varient, hcopied.valias, hcopied.os, hcopied.osAlias, hcopied.version,
      hcopied.verAlias, hcopied.arch, hcopied.package⟩

theorem forall_mem_orElse {P : CStr → Prop} {s t : Option CStr} (hs : ∀ u ∈ s, P u)
    (ht : ∀ u ∈ t, P u) : ∀ u ∈ (s <|> t), P u := by
  cases s with
  | none => exact ht
  | some _ => exact hs

/-- What a command line asks of an OS : to be met by the name or the alias, the version or its
alias, and the architecture that are given. -/
structure OsFilter where
  os : Option CStr
  version : Option CStr
  arch : Option CStr
deriving DecidableEq, Repr

def OsRow.Meets (o : OsRow) (f : OsFilter) : Prop :=
  (∀ s ∈ f.os, o.os = s ∨ o.osAlias = some s) ∧
    (∀ s ∈ f.version, o.osVersion = some s ∨ o.verAlias = s) ∧ ∀ s ∈ f.arch, o.arch = some s

instance (o : OsRow) (f : OsFilter) : Decidable (o.Meets f) :=
  inferInstanceAs (Decidable (_ ∧ _ ∧ _))

/-- The columns of an OS, under the name `q` of its table. -/
structure OsRow.ReadBy (o : OsRow) (q : Option Sql.Name) (r : Sql.Row) : Prop where
  os : r ⟨q, "os".toList⟩ = .text o.os
  osAlias : r ⟨q, "alias".toList⟩ = textOrNull o.osAlias
  osVersion : r ⟨q, "os_version".toList⟩ = textOrNull o.osVersion
  verAlias : r ⟨q, "ver_alias".toList⟩ = .text o.verAlias
  arch : r ⟨q, "arch".toList⟩ = textOrNull o.arch

theorem OsRow.readBy_ofTable (o : OsRow) :
    o.ReadBy none (Sql.ofTable (Sql.valueOf OsRow.columns o)) :=
  ⟨rfl, rfl, rfl, rfl, rfl⟩

namespace OsRow.ReadBy

variable {o : OsRow} {q : Option Sql.Name} {r : Sql.Row} {tables : Sql.Tables} {args : ℕ → Value}
  {i : ℕ} {s : CStr}

theorem name_iff (h : o.ReadBy q r) (hi : args i = .text s) (hi' : args (i + 1) = .text s) :
    (eitherParam q "os" "alias" i).Holds tables args r ↔ o.os = s ∨ o.osAlias = some s := by
  rw [holds_eitherParam, hi, hi', h.os, h.osAlias, Sql.Value.text_equals_text, textOrNull_equals]

theorem alias_iff (h : o.ReadBy q r) (hi : args i = .text s) (hi' : args (i + 1) = .text s) :
    (eitherParam q "alias" "os" i).Holds tables args r ↔ o.os = s ∨ o.osAlias = some s := by
  rw [holds_eitherParam, hi, hi', h.os, h.osAlias, Sql.Value.text_equals_text, textOrNull_equals,
    or_comm]

theorem version_iff (h : o.ReadBy q r) (hi : args i = .text s) (hi' : args (i + 1) = .text s) :
    (eitherParam q "os_version" "ver_alias" i).Holds tables args r ↔
      o.osVersion = some s ∨ o.verAlias = s := by
  rw [holds_eitherParam, hi, hi', h.osVersion, h.verAlias, Sql.Value.text_equals_text,
    textOrNull_equals]

theorem arch_iff (h : o.ReadBy q r) (hi : args i = .text s) :
    (Sql.Cond.param ⟨q, "arch".toList⟩ i).Holds tables args r ↔ o.arch = some s := by
  rw [Sql.Cond.Holds, hi, h.arch, textOrNull_equals]

end OsRow.ReadBy

/-- A condition that is part of the statement if a text is given. -/
theorem ifGiven_iff {P : CStr → Prop} {Q : Prop} {s : Option CStr}
    (h : ∀ t, s = some t → (Q ↔ P t)) : (s.isSome = true → Q) ↔ ∀ t ∈ s, P t := by
  cases s with
  | none => exact iff_of_true nofun nofun
  | some t =>
    constructor
    · rintro hQ _ ⟨⟩
      exact (h t rfl).mp (hQ rfl)
    · exact fun hP _ => (h t rfl).mpr (hP t rfl)

/-- A condition on the name, with one on the version and one on the architecture if they are
given, is that of the filters. -/
theorem OsRow.ReadBy.meets_iff {o : OsRow} {q : Option Sql.Name} {r : Sql.Row}
    {tables : Sql.Tables} {args : ℕ → Value} {v : Sql.Cond} {i j : ℕ} {os : CStr}
    {vers arch : Option CStr} (h : o.ReadBy q r)
    (hname : v.Holds tables args r ↔ o.os = os ∨ o.osAlias = some os)
    (hvers : ∀ s, vers = some s → args i = .text s ∧ args (i + 1) = .text s)
    (harch : ∀ s, arch = some s → args j = .text s) :
    (andIf arch.isSome (andIf vers.isSome v (eitherParam q "os_version" "ver_alias" i))
      (.param ⟨q, "arch".toList⟩ j)).Holds tables args r ↔ o.Meets ⟨some os, vers, arch⟩ := by
  rw [holds_andIf, holds_andIf, and_assoc]
  refine and_congr ?_ (and_congr ?_ ?_)
  · refine hname.trans ⟨?_, fun hall => hall os rfl⟩
    rintro hos _ ⟨⟩
    exact hos
  · exact ifGiven_iff fun s hs => h.version_iff (hvers s hs).1 (hvers s hs).2
  · exact ifGiven_iff fun s hs => h.arch_iff (harch s hs)

/-- A name is taken before an alias. -/
def CbcvariCommLine.osFilter (cvl : CbcvariCommLine) : OsFilter :=
  ⟨cvl.os <|> cvl.osAlias, cvl.version <|> cvl.verAlias, cvl.arch⟩

namespace CbcvarientLine

variable (cvl : CbcvarientLine)

theorem length_os_le : ∀ s ∈ cvl.osFilter.os, s.length ≤ macLen :=
  forall_mem_orElse cvl.copied.os cvl.copied.osAlias

theorem length_version_le : ∀ s ∈ cvl.osFilter.version, s.length ≤ macLen :=
  forall_mem_orElse cvl.copied.version cvl.copied.verAlias

theorem length_varient_le : ∀ s ∈ (cvl.varient <|> cvl.valias), s.length ≤ hostLen :=
  forall_mem_orElse cvl.copied.varient fun s hs => (cvl.copied.valias s hs).trans (by decide)

end CbcvarientLine

/-- The packages `vim`, of an OS with two architectures. -/
def twoArchs : PackageDb where
  varients := [⟨1, "Base".toList, "base".toList⟩]
  buildOs := [⟨1, "debian".toList, some "7.10".toList, some "deb".toList, "wheezy".toList,
      some "x86_64".toList, some 1, 1⟩,
    ⟨2, "debian".toList, some "7.10".toList, some "deb".toList, "wheezy".toList,
      some "i386".toList, some 1, 2⟩]
  packages := [⟨1, "vim".toList, 1, 1, 0, 0⟩, ⟨2, "vim".toList, 1, 2, 0, 0⟩]
  varientIds := by decide
  osIds := by decide
  packIds := by decide
  osKnown := by decide
  varientKnown := by decide

end Cmdb
