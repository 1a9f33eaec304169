import Mathlib.Data.List.Basic
import Mathlib.Logic.Relation

/-!
# Serials that follow content

Zones `Z` carry a serial and a mark, files `F` belong to a zone and have a content `B`.
An edit may change contents, but marks the zone of every file whose content changes. A
bump gives a zone a larger serial and may clear its mark. A write is of a file whose
zone is not marked, and puts a version with the zone's serial and the file's content in
the log.

`disciplined_of_steps` : in every run of such steps, two versions of a file written one
after the other that differ in content have strictly growing serials, and every version
carries the serial its zone had then. The invariant (`Ahead`) compares the last version
of a file with its zone : its serial is not above the zone's, and on a zone that is not
marked, equal serials mean equal contents.
-/

namespace SerialLog

/-- A version of a file : the serial in it, the serial of its zone when it was written,
and its content. -/
structure Version (F B : Type) where
  file : F
  serial : ℕ
  stored : ℕ
  body : B

/-- What the discipline is about : serial and mark of the zones, content of the files,
and the versions written, the last one first. -/
structure View (Z F B : Type) where
  serial : Z → ℕ
  clean : Z → Prop
  body : F → B
  log : List (Version F B)

variable {Z F B : Type} [DecidableEq F]

/-- The last version of a file. -/
def last (log : List (Version F B)) (f : F) : Option (Version F B) := log.find? (·.file = f)

/-- Versions of one file written one after the other have growing serials when they
differ, and each carries the serial of its zone. -/
def Disciplined : List (Version F B) → Prop
  | [] => True
  | v :: log => v.serial = v.stored ∧
    (∀ u, last log v.file = some u → u.body ≠ v.body → u.serial < v.serial) ∧ Disciplined log

/-- The steps of the discipline. -/
inductive Step (owner : F → Z) (v v' : View Z F B) : Prop
  | edit (hlog : v'.log = v.log) (hserial : v'.serial = v.serial)
      (hclean : ∀ z, v'.clean z → v.clean z ∧ ∀ f, owner f = z → v'.body f = v.body f)
  | bump (z : Z) (hlog : v'.log = v.log) (hbody : v'.body = v.body)
      (hlt : v.serial z < v'.serial z)
      (hother : ∀ y, y ≠ z → v'.serial y = v.serial y ∧ (v'.clean y → v.clean y))
  | write (f : F) (hclean : v.clean (owner f)) (hserial : v'.serial = v.serial)
      (hmark : v'.clean = v.clean) (hbody : v'.body = v.body)
      (hlog : v'.log = ⟨f, v.serial (owner f), v.serial (owner f), v.body f⟩ :: v.log)

/-- The last version of every file is behind its zone, or agrees with it. -/
def Ahead (owner : F → Z) (v : View Z F B) : Prop :=
  ∀ f u, last v.log f = some u → u.serial ≤ v.serial (owner f) ∧
    (v.clean (owner f) → u.serial = v.serial (owner f) → u.body = v.body f)

variable {owner : F → Z} {v v' : View Z F B}

theorem last_cons (u : Version F B) (log : List (Version F B)) (f : F) :
    last (u :: log) f = if u.file = f then some u else last log f := by
  rw [last, List.find?_cons]
  by_cases h : u.file = f <;> simp [h, last]

/-- One step keeps the last versions behind their zones. -/
theorem Step.ahead (h : Step owner v v') (ha : Ahead owner v) : Ahead owner v' := by
  intro f u hu
  cases h with
  | edit hlog hserial hclean =>
    rw [hlog] at hu
    obtain ⟨hle, heq⟩ := ha f u hu
    rw [hserial]
    refine ⟨hle, fun hc hs => ?_⟩
    obtain ⟨hc', hb⟩ := hclean _ hc
    rw [hb f rfl]
    exact heq hc' hs
  | bump z hlog hbody hlt hother =>
    rw [hlog] at hu
    obtain ⟨hle, heq⟩ := ha f u hu
    by_cases hz : owner f = z
    · rw [hz] at hle ⊢
      exact ⟨by omega, fun _ hs => by omega⟩
    · obtain ⟨hs, hc⟩ := hother _ hz
      rw [hs, hbody]
      exact ⟨hle, fun h => heq (hc h)⟩
  | write g hclean hserial hmark hbody hlog =>
    rw [hlog, last_cons] at hu
    rw [hserial, hmark, hbody]
    split at hu
    next hg =>
      cases hu
      subst hg
      exact ⟨Nat.le_refl _, fun _ _ => rfl⟩
    next => exact ha f u hu

/-- One step keeps the log disciplined. -/
theorem Step.disciplined (h : Step owner v v') (ha : Ahead owner v) (hd : Disciplined v.log) :
    Disciplined v'.log := by
  cases h with
  | edit hlog => rwa [hlog]
  | bump z hlog => rwa [hlog]
  | write f hclean hserial hmark hbody hlog =>
    rw [hlog]
    refine ⟨rfl, fun u hu hne => ?_, hd⟩
    obtain ⟨hle, heq⟩ := ha f u hu
    exact Nat.lt_of_le_of_ne hle fun hs => hne (heq hclean hs)

/-- In every run the log is disciplined. -/
theorem disciplined_of_steps (h : Relation.ReflTransGen (Step owner) v v') (ha : Ahead owner v)
    (hd : Disciplined v.log) : Ahead owner v' ∧ Disciplined v'.log := by
  induction h with
  | refl => exact ⟨ha, hd⟩
  | tail _ hstep ih => exact ⟨hstep.ahead ih.1, hstep.disciplined ih.1 ih.2⟩

theorem ahead_of_log_eq_nil (h : v.log = []) : Ahead owner v := by
  intro f u hu
  rw [h] at hu
  cases hu

end SerialLog
