import Mathlib.Data.List.Nodup
import Cmdb.Ailsa
import Cmdb.ZoneDb

/-!
# Arguments of the system scripts

An argument of a script has a number, its place on the command line of the script for a
build domain and a build type. `cbc_script_add_script_arg` asks whether the argument is in
the table with its text, and not whether its place is taken. Two texts with one number are
then both entered (`add_unique_iff`), and a run keeps the places apart exactly if no add
finds its place taken by another text (`uniquePlaces_iff_runOk`).
-/

namespace Cmdb

open CString

/-! ## The table and the commands -/

/-- The columns that `SYSTEM_SCRIPT_ARG_ID` compares. -/
structure ScriptArgKey where
  arg : CStr
  no : ℕ
  systscrId : ℕ
  bdId : ℕ
  btId : ℕ
deriving DecidableEq, Repr

/-- A row of `system_scripts_args`. -/
structure ScriptArgRow extends ScriptArgKey where
  systscrArgId : ℕ
deriving DecidableEq, Repr

/-- The place of an argument : the script, the build domain, the build type and the number. -/
def ScriptArgKey.place (k : ScriptArgKey) : ℕ × ℕ × ℕ × ℕ := (k.systscrId, k.bdId, k.btId, k.no)

/-- The command line of `cbcscript` for an argument (`cbc_syss_s`). -/
structure CbcSyss where
  name : CStr
  domain : CStr
  type : CStr
  arg : CStr
  no : ℕ
deriving DecidableEq, Repr

/-- What a command meets : the ids that are found for a name, unless the query fails, and
whether the statements on the table of arguments work. -/
structure ScriptEnv where
  scriptIds : CStr → Option (List ℕ)
  domainIds : CStr → Option (List ℕ)
  typeIds : CStr → Option (List ℕ)
  argIdQuery : Bool
  insertArgs : Bool
  deleteArg : Bool

/-- The ids that a query puts on the list. -/
def idData : Option (List ℕ) → Except AilsaError (List AilsaData)
  | none => .error .statementFail
  | some ids => .ok (ids.map .number)

/-- The list that `cbc_script_add_script_arg` and `cbc_script_rm_arg` make. -/
def scriptArgList (env : ScriptEnv) (scr : CbcSyss) : Except AilsaError (List AilsaData) := do
  let l := cmdbAddNumberToList scr.no (cmdbAddStringToList scr.arg [])
  let script ← idData (env.scriptIds (arg scr.name))
  let domain ← idData (env.domainIds (arg scr.domain))
  let type ← idData (env.typeIds (arg scr.type))
  return l ++ script ++ domain ++ type

/-- The elements of the list that are bound. A list that ends too soon is an error. -/
def boundScriptArg : List AilsaData → Except AilsaError ScriptArgKey
  | .text arg :: .number no :: .number s :: .number d :: .number t :: _ =>
    .ok { arg := arg, no := no, systscrId := s, bdId := d, btId := t }
  | _ => .error .wrongListLenght

/-- `SYSTEM_SCRIPT_ARG_ID`. -/
def systemScriptArgIds (rows : List ScriptArgRow) (k : ScriptArgKey) : List ℕ :=
  (rows.filter (·.toScriptArgKey = k)).map ScriptArgRow.systscrArgId

/-- The query of both commands : what was bound, and the ids that were found. -/
def findScriptArg (env : ScriptEnv) (scr : CbcSyss) (rows : List ScriptArgRow) :
    Except AilsaError (ScriptArgKey × List ℕ) := do
  let l ← scriptArgList env scr
  if env.argIdQuery then
    let k ← boundScriptArg l
    return (k, systemScriptArgIds rows k)
  else .error .statementFail

/-- `cbc_script_add_script_arg`. An argument that is in the table is no error. -/
def cbcScriptAddScriptArg (env : ScriptEnv) (scr : CbcSyss) (rows : List ScriptArgRow) :
    Except AilsaError Unit × List ScriptArgRow :=
  match findScriptArg env scr rows with
  | .error e => (.error e, rows)
  | .ok (k, res) =>
    if 0 < res.length then (.ok (), rows)
    else if env.insertArgs then
      (.ok (), rows ++ [{ k with systscrArgId := nextId (rows.map ScriptArgRow.systscrArgId) }])
    else (.error .statementFail, rows)

/-- `cbc_script_rm_arg` : the first id that was found is bound. -/
def cbcScriptRmArg (env : ScriptEnv) (scr : CbcSyss) (rows : List ScriptArgRow) :
    Except AilsaError Unit × List ScriptArgRow :=
  match findScriptArg env scr rows with
  | .error e => (.error e, rows)
  | .ok (_, []) => (.ok (), rows)
  | .ok (_, id :: _) =>
    if env.deleteArg then (.ok (), rows.filter (·.systscrArgId ≠ id))
    else (.error .statementFail, rows)

/-! ## One command -/

/-- No two rows have one place. -/
def UniquePlaces (rows : List ScriptArgRow) : Prop :=
  (rows.map fun r => r.place).Nodup

instance (rows : List ScriptArgRow) : Decidable (UniquePlaces rows) :=
  inferInstanceAs (Decidable (List.Nodup _))

/-- The argument that an add would enter, if no statement fails. -/
def addedKey (env : ScriptEnv) (scr : CbcSyss) : Except AilsaError ScriptArgKey := do
  let l ← scriptArgList env scr
  if env.argIdQuery && env.insertArgs then boundScriptArg l else .error .statementFail

/-- The place of the argument is not taken by another text, or the add fails. -/
def PlaceFree (env : ScriptEnv) (scr : CbcSyss) (rows : List ScriptArgRow) : Prop :=
  ∀ k, addedKey env scr = .ok k → ∀ r ∈ rows, r.place = k.place → r.arg = k.arg

variable {env : ScriptEnv} {scr : CbcSyss} {rows : List ScriptArgRow} {k : ScriptArgKey}

theorem ScriptArgKey.ext_place {k k' : ScriptArgKey} (hplace : k.place = k'.place)
    (harg : k.arg = k'.arg) : k = k' := by
  cases k
  cases k'
  simp only [place, Prod.mk.injEq] at hplace
  obtain ⟨rfl, rfl, rfl, rfl⟩ := hplace
  cases harg
  rfl

theorem systemScriptArgIds_eq_nil : systemScriptArgIds rows k = [] ↔
    ∀ r ∈ rows, r.toScriptArgKey ≠ k := by
  rw [systemScriptArgIds, List.map_eq_nil_iff, List.filter_eq_nil_iff]
  simp

/-- The table after an add : the argument is entered if it is not there with its text. -/
theorem cbcScriptAddScriptArg_rows (env : ScriptEnv) (scr : CbcSyss) (rows : List ScriptArgRow) :
    (cbcScriptAddScriptArg env scr rows).2 =
      match addedKey env scr with
      | .error _ => rows
      | .ok k => if ∀ r ∈ rows, r.toScriptArgKey ≠ k then
          rows ++ [{ k with systscrArgId := nextId (rows.map ScriptArgRow.systscrArgId) }]
        else rows := by
  unfold cbcScriptAddScriptArg findScriptArg addedKey
  rcases scriptArgList env scr with e | l
  · rfl
  rw [ok_bind, ok_bind]
  cases hq : env.argIdQuery
  · rfl
  cases hi : env.insertArgs
  · rcases boundScriptArg l with e | k
    · rfl
    · by_cases hres : 0 < (systemScriptArgIds rows k).length <;> simp [hres]
  · rcases boundScriptArg l with e | k
    · rfl
    · have hres : (∀ r ∈ rows, r.toScriptArgKey ≠ k) ↔ ¬0 < (systemScriptArgIds rows k).length := by
        rw [← systemScriptArgIds_eq_nil, List.length_pos_iff, not_not]
      simp only [if_true, ok_bind, Bool.and_true, pure_eq_ok]
      by_cases hpos : 0 < (systemScriptArgIds rows k).length
      · rw [if_pos hpos, if_neg (by rw [hres]; exact not_not.mpr hpos)]
      · rw [if_neg hpos, if_pos (hres.mpr hpos)]

/-- An add keeps the places apart exactly if it finds its place free. -/
theorem add_unique_iff (h : UniquePlaces rows) :
    UniquePlaces (cbcScriptAddScriptArg env scr rows).2 ↔ PlaceFree env scr rows := by
  rw [cbcScriptAddScriptArg_rows]
  rcases hk : addedKey env scr with e | k
  · refine iff_of_true h fun k hk' => ?_
    rw [hk] at hk'
    cases hk'
  have hfree : PlaceFree env scr rows ↔ ∀ r ∈ rows, r.place = k.place → r.arg = k.arg := by
    rw [PlaceFree, hk]
    exact ⟨fun h => h k rfl, fun h k' hk' => by cases hk'; exact h⟩
  rw [hfree]
  dsimp only
  split_ifs with hnew
  · rw [UniquePlaces, List.map_append, List.nodup_append]
    constructor
    · rintro ⟨-, -, hdisj⟩ r hr hplace
      exact absurd hplace (hdisj _ (List.mem_map_of_mem hr) _ (List.mem_singleton.mpr rfl))
    · refine fun hall => ⟨h, List.nodup_singleton _, fun p hp p' hp' heq => ?_⟩
      obtain ⟨r, hr, rfl⟩ := List.mem_map.mp hp
      rw [List.mem_singleton.mp hp'] at heq
      exact hnew r hr (ScriptArgKey.ext_place heq (hall r hr heq))
  · push Not at hnew
    obtain ⟨r, hr, rfl⟩ := hnew
    refine iff_of_true h fun r' hr' hplace => ?_
    rw [List.inj_on_of_nodup_map h hr' hr hplace]

theorem rm_unique (h : UniquePlaces rows) : UniquePlaces (cbcScriptRmArg env scr rows).2 := by
  unfold cbcScriptRmArg
  split
  · exact h
  · exact h
  · split
    · exact h.sublist ((List.filter_sublist (p := _)).map _)
    · exact h

/-! ## Runs -/

/-- Adding and removing arguments. -/
inductive ScriptArgOp
  | add (scr : CbcSyss)
  | remove (scr : CbcSyss)
deriving DecidableEq, Repr

/-- The table after a command. -/
def ScriptArgOp.run (env : ScriptEnv) (rows : List ScriptArgRow) : ScriptArgOp → List ScriptArgRow
  | add scr => (cbcScriptAddScriptArg env scr rows).2
  | remove scr => (cbcScriptRmArg env scr rows).2

/-- An add finds its place free. -/
def ScriptArgOp.Ok (env : ScriptEnv) (rows : List ScriptArgRow) : ScriptArgOp → Prop
  | add scr => PlaceFree env scr rows
  | remove _ => True

/-- In every table of the run the places are apart. -/
def AllUniquePlaces : List (ScriptEnv × ScriptArgOp) → List ScriptArgRow → Prop
  | [], rows => UniquePlaces rows
  | op :: ops, rows => UniquePlaces rows ∧ AllUniquePlaces ops (op.2.run op.1 rows)

/-- Every command of the run is `Ok` on the table it meets. -/
def ScriptArgsOk : List (ScriptEnv × ScriptArgOp) → List ScriptArgRow → Prop
  | [], _ => True
  | op :: ops, rows => op.2.Ok op.1 rows ∧ ScriptArgsOk ops (op.2.run op.1 rows)

theorem ScriptArgOp.unique_iff (op : ScriptArgOp) (h : UniquePlaces rows) :
    UniquePlaces (op.run env rows) ↔ op.Ok env rows := by
  cases op with
  | add scr => exact add_unique_iff h
  | remove scr => exact iff_of_true (rm_unique h) trivial

theorem AllUniquePlaces.head : ∀ {ops : List (ScriptEnv × ScriptArgOp)} {rows},
    AllUniquePlaces ops rows → UniquePlaces rows
  | [], _, h => h
  | _ :: _, _, h => h.1

theorem allUniquePlaces_iff : ∀ (ops : List (ScriptEnv × ScriptArgOp)) (rows),
    UniquePlaces rows → (AllUniquePlaces ops rows ↔ ScriptArgsOk ops rows)
  | [], rows, h => iff_of_true h trivial
  | op :: ops, rows, h => by
    constructor
    · rintro ⟨-, hrun⟩
      exact ⟨(op.2.unique_iff h).mp hrun.head, (allUniquePlaces_iff ops _ hrun.head).mp hrun⟩
    · rintro ⟨hok, hrun⟩
      exact ⟨h, (allUniquePlaces_iff ops _ ((op.2.unique_iff h).mpr hok)).mpr hrun⟩

/-- In a run from the empty table no two arguments ever have one place exactly if no add finds
its place taken by another text. -/
theorem uniquePlaces_iff_runOk (ops : List (ScriptEnv × ScriptArgOp)) :
    AllUniquePlaces ops [] ↔ ScriptArgsOk ops [] :=
  allUniquePlaces_iff ops [] List.nodup_nil

/-- One script, one build domain and one build type, and statements that work. -/
def oneScript : ScriptEnv :=
  { scriptIds := fun _ => some [1], domainIds := fun _ => some [1], typeIds := fun _ => some [1]
    argIdQuery := true, insertArgs := true, deleteArg := true }

theorem not_allUniquePlaces : ¬∀ ops : List (ScriptEnv × ScriptArgOp), AllUniquePlaces ops [] := by
  intro h
  let scr (arg : String) : CbcSyss :=
    { name := "setup.sh".toList, domain := "lab".toList, type := "debian".toList
      arg := arg.toList, no := 1 }
  have hrun := h [(oneScript, .add (scr "web")), (oneScript, .add (scr "db"))]
  exact absurd (AllUniquePlaces.head hrun.2.2) (by decide)

end Cmdb
