import Mathlib.Algebra.Group.Int.Defs
import Mathlib.Algebra.Group.Nat.Defs
import Mathlib.Data.Int.Basic
import Cmdb.Ailsa

/-!
# Two database backends

A statement that changes the tables goes through the client library of MySQL or of SQLite.
The caller only sees a return code, so it must be `0` exactly for a statement that was
executed. The SQLite path keeps to that (`ailsaQuerySqlite_reported`), which is what the
rest of this development takes a statement to be. On MySQL the errors of
`ailsa_run_mysql_stmt` are positive, and its callers take only a negative number for a
failure : `backends_alike_iff` says which outcomes of the library they report.

The outcomes of the library are parameters : what each call returns.
-/

namespace Cmdb

open CString

/-! ## Statements and client libraries -/

/-- The types of the parameters of a statement (`AILSA_DB_`). -/
inductive DbType
  | null | text | lint | sint | tiny | float | time
deriving DecidableEq, Repr

/-- A statement of the query tables (`ailsa_sql_query_s`); a type that is not given is `0`. -/
structure AilsaSqlQuery where
  query : CStr
  number : ℕ
  fields : List DbType
deriving DecidableEq, Repr

/-- A statement on several rows (`ailsa_sql_multi_s`). -/
structure AilsaSqlMulti where
  query : CStr
  number : ℕ
  total : ℕ
  fields : List DbType
deriving DecidableEq, Repr

abbrev ailsaWrongListLenght : ℤ := 226
abbrev ailsaInvalidDbtype : ℤ := 302
abbrev ailsaNoParameters : ℤ := 303
abbrev ailsaQueryFail : ℤ := 306
abbrev ailsaStatementFail : ℤ := 308
abbrev ailsaSqlFileInitFail : ℤ := 309
abbrev ailsaSqlBindFail : ℤ := 310
abbrev ailsaWrongDbtype : ℤ := 311
abbrev ailsaMyConnFail : ℤ := 312
abbrev ailsaMyInitFail : ℤ := 313

/-- `SQLITE_DONE`. -/
abbrev sqliteDone : ℕ := 101

/-- What the calls of the MySQL library return : a statement is bound twice, and the number
of rows it changed is read after it was executed. -/
structure MysqlClient where
  init : Bool
  connect : Bool
  stmtInit : Bool
  prepare : CStr → ℤ
  paramCount : CStr → ℕ
  bindParam : ℕ → ℤ
  execute : ℤ
  affectedRows : ℕ

/-- What the calls of the SQLite library return. Only a step is ever done. -/
structure SqliteClient where
  openV2 : ℕ
  prepare : CStr → ℕ
  bind : ℕ → ℕ
  step : ℕ
  bind_ne_done : ∀ i, bind i ≠ sqliteDone

/-- Both libraries. -/
structure SqlClients where
  mysql : MysqlClient
  sqlite : SqliteClient

/-- How a statement went : the code returned, `none` where the program goes through a bad
pointer, and whether the library executed it. -/
structure StmtRun where
  code : Option ℤ
  executed : Bool
deriving DecidableEq, Repr

namespace StmtRun

/-- A code is returned before the statement is executed. -/
def stop (code : ℤ) : StmtRun := ⟨some code, false⟩

/-- The program goes through a bad pointer before the statement is executed. -/
def crash : StmtRun := ⟨none, false⟩

/-- `0` is returned exactly for a statement that was executed. -/
def Reported (r : StmtRun) : Prop := r.code = some 0 ↔ r.executed = true

instance (r : StmtRun) : Decidable r.Reported := inferInstanceAs (Decidable (_ ↔ _))

theorem reported_crash : crash.Reported := iff_of_false nofun nofun

theorem reported_stop_iff {code : ℤ} : (stop code).Reported ↔ code ≠ 0 := by
  simp [Reported, stop]

end StmtRun

/-! ## MySQL -/

/-- `ailsa_mysql_init`. -/
def ailsaMysqlInit (cl : MysqlClient) : ℤ :=
  if cl.init = false then ailsaMyInitFail
  else if cl.connect = false then ailsaMyConnFail
  else 0

/-- `ailsa_set_bind_mysql`. The text is read for its length; where a number stands it is no
text, but for `0` an empty one is made. -/
def ailsaSetBindMysql (data : AilsaData) (field : DbType) : Option ℤ :=
  match field, data with
  | .text, .text _ => some 0
  | .text, .number n => if n = 0 then some 0 else none
  | .lint, _ => some 0
  | .sint, _ => some 0
  | .time, _ => some 0
  | _, _ => some ailsaInvalidDbtype

/-- The loop over `n` parameters : a list that is too short ends in a `NULL` pointer. -/
def setBindsMysql : ℕ → List AilsaData → List DbType → Option ℤ
  | 0, _, _ => some 0
  | _ + 1, [], _ => none
  | n + 1, data :: args, fields =>
    let retval := ailsaSetBindMysql data (fields.headD .null)
    if retval = some 0 then setBindsMysql n args fields.tail else retval

/-- `ailsa_bind_params_mysql`. -/
def ailsaBindParamsMysql (cl : MysqlClient) (argument : AilsaSqlQuery) (args : List AilsaData) :
    Option ℤ :=
  let params := cl.paramCount argument.query
  if params = 0 then some ailsaNoParameters
  else
    let retval := setBindsMysql params args argument.fields
    if retval = some 0 then some (cl.bindParam 0) else retval

/-- A count as an `int`. -/
def castInt (n : ℕ) : ℤ := (n : ℤ).bmod (2 ^ 32)

/-- `ailsa_run_mysql_stmt` : an error of the program, or the number of rows changed as an
`int`. -/
def ailsaRunMysqlStmt (cl : MysqlClient) (argu : AilsaSqlQuery) (args : List AilsaData) :
    StmtRun :=
  if cl.stmtInit = false then .stop ailsaStatementFail
  else if cl.prepare argu.query ≠ 0 then .stop ailsaStatementFail
  else
    match ailsaBindParamsMysql cl argu args with
    | none => .crash
    | some retval =>
      if retval ≠ 0 then .stop ailsaSqlBindFail
      else if cl.bindParam 1 ≠ 0 then .stop ailsaSqlBindFail
      else if cl.execute ≠ 0 then .stop ailsaStatementFail
      else ⟨some (castInt cl.affectedRows), true⟩

/-- `ailsa_delete_query_mysql`. -/
def ailsaDeleteQueryMysql (cl : MysqlClient) (delete : AilsaSqlQuery) (list : List AilsaData) :
    StmtRun :=
  if ailsaMysqlInit cl ≠ 0 then .stop (ailsaMysqlInit cl)
  else
    let r := ailsaRunMysqlStmt cl delete list
    { r with code := r.code.map fun retval => if retval < 0 then retval else 0 }

/-- `ailsa_insert_query_mysql` : what the statement returns is only logged. -/
def ailsaInsertQueryMysql (cl : MysqlClient) (insert : AilsaSqlQuery) (list : List AilsaData) :
    StmtRun :=
  if ailsaMysqlInit cl ≠ 0 then .stop (ailsaMysqlInit cl)
  else
    let r := ailsaRunMysqlStmt cl insert list
    { r with code := r.code.map fun _ => 0 }

/-- `ailsa_bind_parameters_mysql`. -/
def ailsaBindParametersMysql (cl : MysqlClient) (list : List AilsaData) (total : ℕ)
    (f : List DbType) : Option ℤ :=
  if total = 0 then some ailsaNoData
  else
    let retval := setBindsMysql total list f
    if retval ≠ some 0 then retval
    else if cl.bindParam 0 ≠ 0 then some ailsaSqlBindFail
    else some 0

/-- `ailsa_multiple_query_mysql`. Without a statement it goes to the end with the `0` of the
connection; a wrong number of rows is only logged. -/
def ailsaMultipleQueryMysql (cl : MysqlClient) (insert : AilsaSqlMulti) (list : List AilsaData) :
    StmtRun :=
  if ailsaMysqlInit cl ≠ 0 then .stop (ailsaMysqlInit cl)
  else if cl.stmtInit = false then .stop 0
  else if cl.prepare insert.query ≠ 0 then .stop (cl.prepare insert.query)
  else
    match ailsaBindParametersMysql cl list insert.total insert.fields with
    | none => .crash
    | some retval =>
      if retval ≠ 0 then .stop retval
      else if cl.execute ≠ 0 then .stop cl.execute
      else ⟨some 0, true⟩

/-! ## SQLite -/

/-- `ailsa_setup_rw_sqlite`. -/
def ailsaSetupRwSqlite (cl : SqliteClient) (query : CStr) : ℤ :=
  if 0 < cl.openV2 then ailsaSqlFileInitFail
  else if 0 < cl.prepare query then ailsaStatementFail
  else 0

/-- The `switch` of `ailsa_bind_arguments_sqlite`, at the `i`-th parameter. -/
def bindArgumentSqlite (cl : SqliteClient) (i : ℕ) (data : AilsaData) (field : DbType) :
    Option ℤ :=
  match field, data with
  | .text, .text _ => some (cl.bind i)
  | .text, .number _ => none
  | .lint, _ => some (cl.bind i)
  | .float, _ => some (cl.bind i)
  | .sint, _ => some (cl.bind i)
  | _, _ => some ailsaInvalidDbtype

/-- `ailsa_bind_arguments_sqlite`, from the `i`-th parameter on. -/
def ailsaBindArgumentsSqlite (cl : SqliteClient) (i : ℕ) :
    ℕ → List AilsaData → List DbType → Option ℤ
  | 0, _, _ => some 0
  | _ + 1, [], _ => some ailsaWrongListLenght
  | n + 1, data :: args, fields =>
    let retval := bindArgumentSqlite cl i data (fields.headD .null)
    if retval = some 0 then ailsaBindArgumentsSqlite cl (i + 1) n args fields.tail else retval

/-- What the three paths below have in common. -/
def ailsaQuerySqlite (cl : SqliteClient) (query : CStr) (t : ℕ) (f : List DbType)
    (list : List AilsaData) : StmtRun :=
  if ailsaSetupRwSqlite cl query ≠ 0 then .stop (ailsaSetupRwSqlite cl query)
  else
    match ailsaBindArgumentsSqlite cl 0 t list f with
    | none => .crash
    | some retval =>
      if retval ≠ 0 then .stop (if retval = sqliteDone then 0 else retval)
      else if cl.step ≠ sqliteDone then .stop ailsaStatementFail
      else ⟨some 0, true⟩

/-- `ailsa_delete_query_sqlite`. -/
def ailsaDeleteQuerySqlite (cl : SqliteClient) (query : AilsaSqlQuery)
    (delete : List AilsaData) : StmtRun :=
  ailsaQuerySqlite cl query.query query.number query.fields delete

/-- `ailsa_insert_query_sqlite`. -/
def ailsaInsertQuerySqlite (cl : SqliteClient) (query : AilsaSqlQuery)
    (insert : List AilsaData) : StmtRun :=
  ailsaQuerySqlite cl query.query query.number query.fields insert

/-- `ailsa_multiple_query_sqlite`. -/
def ailsaMultipleQuerySqlite (cl : SqliteClient) (sql : AilsaSqlMulti)
    (insert : List AilsaData) : StmtRun :=
  ailsaQuerySqlite cl sql.query sql.total sql.fields insert

/-! ## Statements on several rows -/

/-- `cmdb_create_value_string` : one more row of `count` parameters. -/
def cmdbCreateValueString (query : AilsaSqlQuery) : CStr :=
  let value := ", (".toList ++ (List.replicate query.number "?, ".toList).flatten
  value.take (value.length - 2) ++ ")".toList

/-- `cmdb_insert_fields_array` : the types of a row over and over, and `0` behind the last
full row. -/
def cmdbInsertFieldsArray (n tot : ℕ) (f : List DbType) : List DbType :=
  (List.replicate (tot / n) ((List.range n).map fun j => f.getD j .null)).flatten ++
    List.replicate (tot - tot / n * n) .null

/-- `cmdb_create_multi` : a statement without parameters divides by `0`. -/
def cmdbCreateMulti (query : AilsaSqlQuery) (total : ℕ) : Option (Except ℤ AilsaSqlMulti) :=
  if total = 0 then some (.error ailsaNoData)
  else if query.number = 0 then none
  else some (.ok
    { query := query.query ++
        (List.replicate (total / query.number - 1) (cmdbCreateValueString query)).flatten
      number := query.number
      total := total
      fields := cmdbInsertFieldsArray query.number total query.fields })

/-- `cmdb_create_delete_multi` : the last `= ?` becomes an `IN` with all arguments. -/
def cmdbCreateDeleteMulti (query : AilsaSqlQuery) (total : ℕ) : Except ℤ AilsaSqlMulti :=
  if total = 0 then .error ailsaNoData
  else if query.number ≠ 1 then .error ailsaWrongListLenght
  else
    match strrchr query.query '=' with
    | none => .error ailsaQueryFail
    | some p =>
      let q := cut query.query p ++ "IN (".toList ++ (List.replicate total "?, ".toList).flatten
      .ok
        { query := q.take (q.length - 2) ++ ")".toList
          number := query.number
          total := total
          fields := List.replicate total (query.fields.headD .null) }

/-! ## The calls of the programs -/

/-- The path of the database configured. -/
def backend (dbtype : CStr) (mysql sqlite : StmtRun) : StmtRun :=
  if StrncmpEq dbtype "none".toList serviceLen then .stop ailsaWrongDbtype
  else if StrncmpEq dbtype "mysql".toList serviceLen then mysql
  else if StrncmpEq dbtype "sqlite".toList serviceLen then sqlite
  else .stop ailsaWrongDbtype

/-- `ailsa_delete_query`. -/
def ailsaDeleteQuery (dbtype : CStr) (cl : SqlClients) (query : AilsaSqlQuery)
    (delete : List AilsaData) : StmtRun :=
  backend dbtype (ailsaDeleteQueryMysql cl.mysql query delete)
    (ailsaDeleteQuerySqlite cl.sqlite query delete)

/-- `ailsa_update_query`, on the paths of a delete. -/
def ailsaUpdateQuery (dbtype : CStr) (cl : SqlClients) (query : AilsaSqlQuery)
    (update : List AilsaData) : StmtRun :=
  backend dbtype (ailsaDeleteQueryMysql cl.mysql query update)
    (ailsaDeleteQuerySqlite cl.sqlite query update)

/-- `ailsa_insert_query`. -/
def ailsaInsertQuery (dbtype : CStr) (cl : SqlClients) (query : AilsaSqlQuery)
    (insert : List AilsaData) : StmtRun :=
  backend dbtype (ailsaInsertQueryMysql cl.mysql query insert)
    (ailsaInsertQuerySqlite cl.sqlite query insert)

/-- `ailsa_multiple_query`. -/
def ailsaMultipleQuery (dbtype : CStr) (cl : SqlClients) (query : AilsaSqlQuery)
    (insert : List AilsaData) : StmtRun :=
  match cmdbCreateMulti query insert.length with
  | none => .crash
  | some (.error retval) => .stop retval
  | some (.ok sql) => backend dbtype (ailsaMultipleQueryMysql cl.mysql sql insert)
      (ailsaMultipleQuerySqlite cl.sqlite sql insert)

/-- `ailsa_multiple_delete`. -/
def ailsaMultipleDelete (dbtype : CStr) (cl : SqlClients) (query : AilsaSqlQuery)
    (del : List AilsaData) : StmtRun :=
  match cmdbCreateDeleteMulti query del.length with
  | .error retval => .stop retval
  | .ok sql => backend dbtype (ailsaMultipleQueryMysql cl.mysql sql del)
      (ailsaMultipleQuerySqlite cl.sqlite sql del)

/-! ## What is reported -/

variable {cl : MysqlClient} {lite : SqliteClient} {q : AilsaSqlQuery} {list : List AilsaData}

/-- No call of the program binds with the code of a step that is done. -/
theorem ailsaBindArgumentsSqlite_ne_done : ∀ {n i : ℕ} {args : List AilsaData}
    {fields : List DbType}, ailsaBindArgumentsSqlite lite i n args fields ≠ some (sqliteDone : ℤ)
  | 0, _, _, _ => fun h => absurd (Option.some.inj h) (by decide)
  | _ + 1, _, [], _ => fun h => absurd (Option.some.inj h) (by decide)
  | n + 1, i, data :: args, fields => by
    have hbind : (lite.bind i : ℤ) ≠ (sqliteDone : ℤ) :=
      fun h => lite.bind_ne_done i (Int.ofNat_inj.mp h)
    rw [ailsaBindArgumentsSqlite]
    split_ifs
    · exact ailsaBindArgumentsSqlite_ne_done
    · unfold bindArgumentSqlite
      split
      · exact fun h => hbind (Option.some.inj h)
      · nofun
      · exact fun h => hbind (Option.some.inj h)
      · exact fun h => hbind (Option.some.inj h)
      · exact fun h => hbind (Option.some.inj h)
      · decide

/-- On SQLite the code tells. -/
theorem ailsaQuerySqlite_reported (lite : SqliteClient) (query : CStr) (t : ℕ) (f : List DbType)
    (list : List AilsaData) : (ailsaQuerySqlite lite query t f list).Reported := by
  rw [ailsaQuerySqlite]
  by_cases hsetup : ailsaSetupRwSqlite lite query = 0
  swap
  · rw [if_pos hsetup]
    exact StmtRun.reported_stop_iff.mpr hsetup
  have hdone : ailsaBindArgumentsSqlite lite 0 t list f ≠ some (sqliteDone : ℤ) :=
    ailsaBindArgumentsSqlite_ne_done
  rw [if_neg (not_not.mpr hsetup)]
  split
  · exact StmtRun.reported_crash
  next retval hbind =>
    rw [hbind, ne_eq, Option.some_inj] at hdone
    rw [if_neg hdone]
    split_ifs with hretval
    · exact StmtRun.reported_stop_iff.mpr hretval
    · exact StmtRun.reported_stop_iff.mpr (by decide)
    · exact iff_of_true rfl rfl

/-- The program is connected to the server. -/
def MysqlClient.Connects (cl : MysqlClient) : Prop := cl.init = true ∧ cl.connect = true

/-- All steps of the statement succeed. -/
structure StepsOk (cl : MysqlClient) (q : AilsaSqlQuery) (list : List AilsaData) : Prop where
  stmtInit : cl.stmtInit = true
  prepare : cl.prepare q.query = 0
  bind : ailsaBindParamsMysql cl q list = some 0
  bindParam : cl.bindParam 1 = 0
  execute : cl.execute = 0

/-- The program goes through a bad pointer : the list ends before the parameters, or a
number stands where a text is read. -/
structure Crashes (cl : MysqlClient) (q : AilsaSqlQuery) (list : List AilsaData) : Prop where
  stmtInit : cl.stmtInit = true
  prepare : cl.prepare q.query = 0
  bind : ailsaBindParamsMysql cl q list = none

theorem ailsaMysqlInit_eq_zero_iff : ailsaMysqlInit cl = 0 ↔ cl.Connects := by
  rw [ailsaMysqlInit, MysqlClient.Connects]
  cases cl.init <;> cases cl.connect <;> decide

/-- What is not connected is reported, so only a run that is connected counts. -/
theorem reported_connected_iff {run : StmtRun} :
    (if ailsaMysqlInit cl ≠ 0 then .stop (ailsaMysqlInit cl) else run).Reported ↔
      (cl.Connects → run.Reported) := by
  rw [← ailsaMysqlInit_eq_zero_iff]
  by_cases hconn : ailsaMysqlInit cl = 0
  · rw [if_neg (not_not.mpr hconn), forall_prop_of_true hconn]
  · rw [if_pos hconn]
    exact iff_of_true (StmtRun.reported_stop_iff.mpr hconn) fun h => absurd h hconn

/-- A statement is executed, stopped by a bad pointer, or stopped by an error, which is
positive. -/
theorem ailsaRunMysqlStmt_cases (cl : MysqlClient) (q : AilsaSqlQuery) (list : List AilsaData) :
    StepsOk cl q list ∧ ailsaRunMysqlStmt cl q list =
      ⟨some (castInt cl.affectedRows), true⟩ ∨
    Crashes cl q list ∧ ailsaRunMysqlStmt cl q list = .crash ∨
    ¬StepsOk cl q list ∧ ¬Crashes cl q list ∧
      ∃ e, 0 < e ∧ ailsaRunMysqlStmt cl q list = .stop e := by
  rw [ailsaRunMysqlStmt]
  by_cases hinit : cl.stmtInit = false
  · rw [if_pos hinit]
    exact .inr (.inr ⟨fun h => (nomatch h.stmtInit.symm.trans hinit),
      fun h => (nomatch h.stmtInit.symm.trans hinit), _, by decide, rfl⟩)
  by_cases hprep : cl.prepare q.query = 0
  swap
  · rw [if_neg hinit, if_pos hprep]
    exact .inr (.inr ⟨fun h => hprep h.prepare, fun h => hprep h.prepare, _, by decide, rfl⟩)
  rw [if_neg hinit, if_neg (not_not.mpr hprep)]
  rw [Bool.not_eq_false] at hinit
  split
  next hbind => exact .inr (.inl ⟨⟨hinit, hprep, hbind⟩, rfl⟩)
  next retval hbind =>
    have hcrash : ¬Crashes cl q list := fun h => nomatch hbind.symm.trans h.bind
    split_ifs with hretval hparam hexec
    · refine .inr (.inr ⟨fun h => hretval ?_, hcrash, _, by decide, rfl⟩)
      exact Option.some.inj (hbind.symm.trans h.bind)
    · exact .inr (.inr ⟨fun h => hparam h.bindParam, hcrash, _, by decide, rfl⟩)
    · exact .inr (.inr ⟨fun h => hexec h.execute, hcrash, _, by decide, rfl⟩)
    · rw [not_not] at hretval hparam hexec
      exact .inl ⟨⟨hinit, hprep, hretval ▸ hbind, hparam, hexec⟩, rfl⟩

/-- An insert is reported unless it is cut short by an error of its statement. -/
theorem ailsaInsertQueryMysql_reported_iff : (ailsaInsertQueryMysql cl q list).Reported ↔
    (cl.Connects → StepsOk cl q list ∨ Crashes cl q list) := by
  rw [ailsaInsertQueryMysql, reported_connected_iff]
  refine imp_congr_right fun _ => ?_
  obtain ⟨hok, hrun⟩ | ⟨hcrash, hrun⟩ | ⟨hok, hcrash, e, he, hrun⟩ :=
    ailsaRunMysqlStmt_cases cl q list
  · rw [hrun]
    exact iff_of_true (iff_of_true rfl rfl) (.inl hok)
  · rw [hrun]
    exact iff_of_true StmtRun.reported_crash (.inr hcrash)
  · rw [hrun]
    exact iff_of_false (StmtRun.reported_stop_iff.not.mpr (not_not.mpr rfl))
      (not_or.mpr ⟨hok, hcrash⟩)

/-- A delete or an update is reported so too, if the rows it changed fit an `int`. -/
theorem ailsaDeleteQueryMysql_reported_iff : (ailsaDeleteQueryMysql cl q list).Reported ↔
    (cl.Connects → StepsOk cl q list ∧ 0 ≤ castInt cl.affectedRows ∨
      Crashes cl q list) := by
  rw [ailsaDeleteQueryMysql, reported_connected_iff]
  refine imp_congr_right fun _ => ?_
  obtain ⟨hok, hrun⟩ | ⟨hcrash, hrun⟩ | ⟨hok, hcrash, e, he, hrun⟩ :=
    ailsaRunMysqlStmt_cases cl q list
  · have hcrash : ¬Crashes cl q list := fun h => nomatch hok.bind.symm.trans h.bind
    rw [hrun]
    by_cases hrows : 0 ≤ castInt cl.affectedRows
    · refine iff_of_true (iff_of_true ?_ rfl) (.inl ⟨hok, hrows⟩)
      exact congrArg some (if_neg (Int.not_lt.mpr hrows))
    · refine iff_of_false (fun h => hrows ?_) (not_or.mpr ⟨fun h => hrows h.2, hcrash⟩)
      have hcode : (if castInt cl.affectedRows < 0 then castInt cl.affectedRows else 0) = 0 :=
        Option.some.inj (h.mpr rfl)
      rw [if_pos (Int.not_le.mp hrows)] at hcode
      exact Int.le_of_eq hcode.symm
  · rw [hrun]
    exact iff_of_true StmtRun.reported_crash (.inr hcrash)
  · rw [hrun]
    refine iff_of_false (fun h => ?_) (not_or.mpr ⟨fun h => hok h.1, hcrash⟩)
    exact nomatch h.mp (congrArg some (if_neg (Int.not_lt.mpr (Int.le_of_lt he))))

/-- A statement on several rows is reported if there is one. -/
theorem ailsaMultipleQueryMysql_reported_iff {sql : AilsaSqlMulti} :
    (ailsaMultipleQueryMysql cl sql list).Reported ↔ (cl.Connects → cl.stmtInit = true) := by
  rw [ailsaMultipleQueryMysql, reported_connected_iff]
  refine imp_congr_right fun _ => ?_
  by_cases hinit : cl.stmtInit = false
  · rw [if_pos hinit]
    exact iff_of_false (StmtRun.reported_stop_iff.not.mpr (not_not.mpr rfl))
      (Bool.not_eq_true _ ▸ hinit)
  rw [if_neg hinit]
  refine iff_of_true ?_ (Bool.not_eq_false _ ▸ hinit)
  by_cases hprep : cl.prepare sql.query = 0
  swap
  · rw [if_pos hprep]
    exact StmtRun.reported_stop_iff.mpr hprep
  rw [if_neg (not_not.mpr hprep)]
  split
  · exact StmtRun.reported_crash
  next retval _ =>
    split_ifs with hretval hexec
    · exact StmtRun.reported_stop_iff.mpr hretval
    · exact StmtRun.reported_stop_iff.mpr hexec
    · exact iff_of_true rfl rfl

/-! ## Both backends -/

/-- A statement that changes the tables. -/
inductive SqlStmt
  | insert (q : AilsaSqlQuery)
  | update (q : AilsaSqlQuery)
  | delete (q : AilsaSqlQuery)
  | multiple (q : AilsaSqlQuery)
  | multipleDelete (q : AilsaSqlQuery)
deriving DecidableEq, Repr

namespace SqlStmt

/-- The call for a statement, on the database configured. -/
def run (dbtype : CStr) (cl : SqlClients) (list : List AilsaData) : SqlStmt → StmtRun
  | insert q => ailsaInsertQuery dbtype cl q list
  | update q => ailsaUpdateQuery dbtype cl q list
  | delete q => ailsaDeleteQuery dbtype cl q list
  | multiple q => ailsaMultipleQuery dbtype cl q list
  | multipleDelete q => ailsaMultipleDelete dbtype cl q list

/-- Once connected, all steps of a single statement succeed, or a bad pointer ends it, and
a statement on several rows gets its statement. -/
def Told (cl : MysqlClient) (list : List AilsaData) : SqlStmt → Prop
  | insert q => cl.Connects → StepsOk cl q list ∨ Crashes cl q list
  | update q | delete q =>
    cl.Connects → StepsOk cl q list ∧ 0 ≤ castInt cl.affectedRows ∨ Crashes cl q list
  | multiple q => (∃ sql, cmdbCreateMulti q list.length = some (.ok sql)) →
    cl.Connects → cl.stmtInit = true
  | multipleDelete q => (∃ sql, cmdbCreateDeleteMulti q list.length = .ok sql) →
    cl.Connects → cl.stmtInit = true

end SqlStmt

theorem cmdbCreateMulti_error {total : ℕ} {e : ℤ} (h : cmdbCreateMulti q total = some (.error e)) :
    e ≠ 0 := by
  rw [cmdbCreateMulti] at h
  split_ifs at h
  · cases h
    decide
  · cases h

theorem cmdbCreateDeleteMulti_error {total : ℕ} {e : ℤ}
    (h : cmdbCreateDeleteMulti q total = .error e) : e ≠ 0 := by
  rw [cmdbCreateDeleteMulti] at h
  split_ifs at h
  · cases h
    decide
  · cases h
    decide
  · split at h
    · cases h
      decide
    · cases h

/-- On SQLite every statement is reported. -/
theorem SqlStmt.run_sqlite_reported (cl : SqlClients) (list : List AilsaData) (stmt : SqlStmt) :
    (stmt.run "sqlite".toList cl list).Reported := by
  cases stmt with
  | insert q => exact ailsaQuerySqlite_reported ..
  | update q => exact ailsaQuerySqlite_reported ..
  | delete q => exact ailsaQuerySqlite_reported ..
  | multiple q =>
    rw [run, ailsaMultipleQuery]
    split
    · exact StmtRun.reported_crash
    next h => exact StmtRun.reported_stop_iff.mpr (cmdbCreateMulti_error h)
    · exact ailsaQuerySqlite_reported ..
  | multipleDelete q =>
    rw [run, ailsaMultipleDelete]
    split
    next h => exact StmtRun.reported_stop_iff.mpr (cmdbCreateDeleteMulti_error h)
    · exact ailsaQuerySqlite_reported ..

/-- On MySQL a statement is reported iff it is told. -/
theorem SqlStmt.run_mysql_reported_iff (cl : SqlClients) (list : List AilsaData)
    (stmt : SqlStmt) : (stmt.run "mysql".toList cl list).Reported ↔ stmt.Told cl.mysql list := by
  cases stmt with
  | insert q => exact ailsaInsertQueryMysql_reported_iff
  | update q => exact ailsaDeleteQueryMysql_reported_iff
  | delete q => exact ailsaDeleteQueryMysql_reported_iff
  | multiple q =>
    rw [run, ailsaMultipleQuery, Told]
    rcases h : cmdbCreateMulti q list.length with _ | e | sql
    · exact iff_of_true StmtRun.reported_crash nofun
    · exact iff_of_true (StmtRun.reported_stop_iff.mpr (cmdbCreateMulti_error h)) nofun
    · rw [forall_prop_of_true ⟨sql, rfl⟩]
      exact ailsaMultipleQueryMysql_reported_iff
  | multipleDelete q =>
    rw [run, ailsaMultipleDelete, Told]
    rcases h : cmdbCreateDeleteMulti q list.length with e | sql
    · exact iff_of_true (StmtRun.reported_stop_iff.mpr (cmdbCreateDeleteMulti_error h)) nofun
    · rw [forall_prop_of_true ⟨sql, rfl⟩]
      exact ailsaMultipleQueryMysql_reported_iff

/-- For every statement, list and outcomes of both libraries, both paths return `0` exactly
for a statement that was executed iff the MySQL path is told of its failures. -/
theorem backends_alike_iff (cl : SqlClients) (list : List AilsaData) (stmt : SqlStmt) :
    ((stmt.run "mysql".toList cl list).Reported ∧ (stmt.run "sqlite".toList cl list).Reported) ↔
      stmt.Told cl.mysql list := by
  rw [SqlStmt.run_mysql_reported_iff]
  exact and_iff_left (SqlStmt.run_sqlite_reported cl list stmt)

/-- Libraries in which only the execution fails, with the code of a broken constraint. -/
def constraintBroken : SqlClients where
  mysql := ⟨true, true, true, fun _ => 0, fun _ => 1, fun _ => 0, 1, 0⟩
  sqlite := ⟨0, fun _ => 0, fun _ => 0, 19, fun _ => by decide⟩

/-- A failed insert and a failed delete return `0` on MySQL, and an error on SQLite. -/
theorem constraintBroken_not_reported :
    let insert : SqlStmt := .insert ⟨"INSERT INTO locale (locale) VALUES (?)".toList, 1, [.text]⟩
    let delete : SqlStmt := .delete ⟨"DELETE FROM preferred_a WHERE ip = ?".toList, 1, [.text]⟩
    insert.run "mysql".toList constraintBroken [.text "en_GB".toList] = ⟨some 0, false⟩ ∧
    delete.run "mysql".toList constraintBroken [.text "10.0.0.1".toList] = ⟨some 0, false⟩ ∧
    insert.run "sqlite".toList constraintBroken [.text "en_GB".toList] =
      ⟨some ailsaStatementFail, false⟩ ∧
    ¬(insert.run "mysql".toList constraintBroken [.text "en_GB".toList]).Reported := by
  decide

end Cmdb
