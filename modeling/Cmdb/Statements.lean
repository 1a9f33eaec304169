import Cmdb.Ailsa
import Cmdb.Prog

/-!
# Statements on any tables

A query and a change of tables `σ`, each with whether it succeeds, for the commands that
have tables of their own.
-/

namespace Cmdb

variable {σ α : Type}

/-- A query. -/
def dbQuery (ok : Bool) (g : σ → α) : Prog σ AilsaError α := do
  Prog.require ok .statementFail
  Prog.reads fun s => .ok (g s)

/-- An insert, an update or a delete. -/
def dbStatement (ok : Bool) (u : σ → σ) : Prog σ AilsaError Unit := do
  Prog.require ok .statementFail
  Prog.modify u

/-- A result computed without the tables. -/
def dbRet (r : Except AilsaError α) : Prog σ AilsaError α := Prog.reads fun _ => r

variable {ok : Bool} {s : σ} {a : α}

theorem readOnly_dbQuery (ok : Bool) (g : σ → α) : Prog.ReadOnly (dbQuery ok g) :=
  (Prog.ReadOnly.require _ _).bind fun _ => Prog.ReadOnly.reads _

theorem readOnly_dbRet (r : Except AilsaError α) : Prog.ReadOnly (dbRet r : Prog σ AilsaError α) :=
  Prog.ReadOnly.reads _

theorem dbQuery_ok_iff {g : σ → α} : (dbQuery ok g s).1 = .ok a ↔ ok = true ∧ g s = a := by
  cases ok
  · exact iff_of_false nofun nofun
  · exact ⟨fun h => ⟨rfl, Except.ok.inj h⟩, fun h => congrArg Except.ok h.2⟩

theorem dbStatement_run (ok : Bool) (u : σ → σ) (s : σ) : dbStatement ok u s =
    if ok then (.ok (), u s) else (.error .statementFail, s) := by
  cases ok <;> rfl

end Cmdb
