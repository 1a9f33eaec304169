import Cmdb.History
import Cmdb.NamedOnly
import Mathlib.Data.List.Pairwise

/-!
# The names of varients

A varient is looked up by one string, its name or its alias. `add_cbc_build_varient` asks
for a row of the new name or of the new alias, but not for an alias that is the new name or
a name that is the new alias, and `update_cbcvarient` asks for nothing.
`varientNames_iff` says when every string still finds at most one varient.
-/

namespace Cmdb

open CString History

/-! ## Packages -/

/-- A row of `packages`. -/
structure Package where
  package : CStr
  varientId : ℕ
  osId : ℕ
deriving DecidableEq, Repr

/-- The build tables and the packages. -/
structure VarientWorld where
  cbc : CbcWorld
  packages : List Package
deriving DecidableEq, Repr

/-- A command on the varients and their packages. -/
abbrev VarientProg (α : Type) := Prog VarientWorld AilsaError α

/-- A string that is looked up finds the varient. -/
def Varient.Carries (v : Varient) (s : CStr) : Prop := v.varient = s ∨ v.valias = s

instance (v : Varient) (s : CStr) : Decidable (v.Carries s) := inferInstanceAs (Decidable (_ ∨ _))

/-! ## Statements -/

/-- `VARIENT_ID_ON_VARIANT_OR_VALIAS` on its two parameters. -/
def BuildDb.varientIdsOn (db : BuildDb) (varient valias : CStr) : List ℕ :=
  (db.varients.filter fun v => v.varient = varient ∨ v.valias = valias).map Varient.id

/-- `INSERT_VARIENT`. -/
def BuildDb.insertVarient (db : BuildDb) (varient valias : CStr) : BuildDb :=
  { db with varients := db.varients ++
      [⟨nextId (db.varients.map Varient.id), varient, valias⟩] }

namespace VarientWorld

variable (w : VarientWorld)

/-- `BASE_VARIENT_PACKAGES` : the packages, with the OS each is for. -/
def baseVarientPackages : List (CStr × ℕ) :=
  w.packages.flatMap fun p => (w.cbc.build.varients.filter fun v =>
    v.id = p.varientId ∧ v.Carries "base".toList).map fun _ => (p.package, p.osId)

/-- `INSERT_BUILD_PACKAGE` on several rows. -/
def insertBuildPackages (pack : List Package) : VarientWorld :=
  { w with packages := w.packages ++ pack }

/-- `DELETE_VARIENT`. The packages, the builds and the default go with the varient. -/
def deleteVarient (varient valias : CStr) : VarientWorld :=
  let ids := w.cbc.build.varientIdsOn varient valias
  { cbc := { w.cbc with
      build := { w.cbc.build with
        varients := w.cbc.build.varients.filter fun v => ¬(v.varient = varient ∨ v.valias = valias)
        builds := w.cbc.build.builds.filter (·.varientId ∉ ids)
        defaultVarient := w.cbc.build.defaultVarient.filter (· ∉ ids) } }
    packages := w.packages.filter (·.varientId ∉ ids) }

end VarientWorld

/-! ## Commands -/

/-- A command on the build tables only. -/
def onVarients {α : Type} (p : CbcProg α) : VarientProg α :=
  Prog.zoom VarientWorld.cbc (fun w cbc => { w with cbc := cbc }) p

/-- The end of `add_cbc_build_varient` : the packages of `base`, for the new varient. -/
def addBasePackages (env : CbcEnv) (vid : ℕ) : VarientProg Unit := do
  let base ← dbQuery (env.sql .baseVarientPackages 0) VarientWorld.baseVarientPackages
  if base.length = 0 then return ()
  else
    let pack := base.map fun (package, os) => (⟨arg package, vid, os⟩ : Package)
    dbStatement (env.sql .insertBuildPackage 0) fun w => w.insertBuildPackages pack

/-- `add_cbc_build_varient`. A varient that exists is no error. -/
def addCbcBuildVarient (env : CbcEnv) (cvl : CbcvariCommLine) : VarientProg Unit := do
  let varient ← dbRet (cvl.varient.elim (.error .noData) .ok)
  let valias ← dbRet (cvl.valias.elim (.error .noData) .ok)
  let r ← dbQuery (env.sql .varientIdOnVariantOrValias 0) fun w : VarientWorld =>
    w.cbc.build.varientIdsOn (arg varient) (arg valias)
  if 0 < r.length then return ()
  else
    onVarients (cbcStatement env .insertVarient 0 fun db =>
      db.insertVarient (arg varient) (arg valias))
    let r ← dbQuery (env.sql .varientIdOnVariantOrValias 1) fun w : VarientWorld =>
      w.cbc.build.varientIdsOn (arg varient) (arg valias)
    let vid ← dbRet (r.head?.elim (.error .nullDeref) .ok)
    addBasePackages env vid

/-- `remove_cbc_build_varient`. -/
def removeCbcBuildVarient (env : CbcEnv) (cvl : CbcvariCommLine) : VarientProg Unit := do
  let varient ← dbRet ((cvl.varient <|> cvl.valias).elim (.error .noData) .ok)
  dbStatement (env.sql .deleteVarient 0) fun w => w.deleteVarient (arg varient) (arg varient)

/-- The commands on varients. -/
inductive VarientCommand
  | add (cvl : CbcvariCommLine)
  | update (cvl : CbcvariCommLine)
  | remove (cvl : CbcvariCommLine)
deriving DecidableEq, Repr

/-- The world after a command. -/
def VarientCommand.step (w : VarientWorld) (op : CbcEnv × VarientCommand) : VarientWorld :=
  match op with
  | (env, add cvl) => (addCbcBuildVarient env cvl w).2
  | (env, update cvl) => (onVarients (updateCbcvarient env cvl) w).2
  | (env, remove cvl) => (removeCbcBuildVarient env cvl w).2

/-! ## Unique names -/

/-- Every string finds at most one varient. -/
def BuildDb.VarientNamesUnique (db : BuildDb) : Prop := ∀ s, (db.varientIds s).length ≤ 1

/-- The new row is entered. -/
structure EntersVarient (env : CbcEnv) (cvl : CbcvariCommLine) (db : BuildDb)
    (varient valias : CStr) : Prop where
  hasName : cvl.varient = some varient
  hasAlias : cvl.valias = some valias
  query : env.sql .varientIdOnVariantOrValias 0 = true
  new : db.varientIdsOn (arg varient) (arg valias) = []
  insert : env.sql .insertVarient 0 = true

/-- A row that is entered has a name that is no alias and an alias that is no name, and the
names of one that is updated are those of no other row. -/
def VarientCommand.KeepsNames (w : VarientWorld) (op : CbcEnv × VarientCommand) : Prop :=
  match op with
  | (env, add cvl) => ∀ varient valias, EntersVarient env cvl w.cbc.build varient valias →
      ∀ v ∈ w.cbc.build.varients, v.valias ≠ arg varient ∧ v.varient ≠ arg valias
  | (env, update cvl) => ∀ varient new id, UpdatesVarient env cvl w.cbc.build varient new id →
      (∃ u ∈ w.cbc.build.varients, u.id = id) → ∀ v ∈ w.cbc.build.varients, v.id ≠ id →
        ¬v.Carries (arg varient) ∧ ¬v.Carries (arg new)
  | (_, remove _) => True

/-! ## Strings that find at most one row -/

/-- Every string finds at most one element iff no two are found by the same. -/
theorem forall_filter_length_le_one_iff {α κ : Type} {P : κ → α → Prop}
    [∀ s a, Decidable (P s a)] : ∀ {l : List α},
    (∀ s, (l.filter (P s ·)).length ≤ 1) ↔ l.Pairwise fun a b => ∀ s, P s a → ¬P s b
  | [] => iff_of_true (fun _ => Nat.zero_le _) .nil
  | a :: l => by
    rw [List.pairwise_cons, ← forall_filter_length_le_one_iff]
    have hnil : ∀ s, (∀ b ∈ l, ¬P s b) ↔ (l.filter (P s ·)).length = 0 := by
      intro s
      rw [List.length_eq_zero_iff, List.filter_eq_nil_iff]
      simp only [decide_eq_true_eq]
    have hcons : ∀ s, ((a :: l).filter (P s ·)).length ≤ 1 ↔
        (P s a → ∀ b ∈ l, ¬P s b) ∧ (l.filter (P s ·)).length ≤ 1 := by
      intro s
      rw [hnil]
      by_cases ha : P s a
      · rw [List.filter_cons, if_pos (decide_eq_true ha), List.length_cons]
        constructor
        · intro h
          exact ⟨fun _ => by omega, by omega⟩
        · rintro ⟨h, -⟩
          rw [h ha]
      · rw [List.filter_cons, if_neg (by simpa using ha)]
        exact ⟨fun h => ⟨fun ha' => absurd ha' ha, h⟩, And.right⟩
    simp only [hcons, forall_and]
    exact and_congr_left fun _ => ⟨fun h b hb s ha => h s ha b hb, fun h s ha b hb => h b hb s ha⟩

/-- No string finds both rows. -/
def Varient.Apart (u v : Varient) : Prop := ∀ s, u.Carries s → ¬v.Carries s

theorem Varient.Apart.symm {u v : Varient} (h : u.Apart v) : v.Apart u :=
  fun s hv hu => h s hu hv

instance : Std.Symm Varient.Apart := ⟨fun _ _ => Varient.Apart.symm⟩

theorem varientNamesUnique_iff_pairwise {db : BuildDb} :
    db.VarientNamesUnique ↔ db.varients.Pairwise Varient.Apart := by
  refine Iff.trans ?_ (forall_filter_length_le_one_iff (P := fun s v => Varient.Carries v s))
  simp only [BuildDb.VarientNamesUnique, BuildDb.varientIds, List.length_map]
  rfl

/-! ## What the statements do to the names -/

variable {db : BuildDb} {varient valias : CStr} {id : ℕ}

/-- Given what the check finds, a new row is apart from one that it does not share a string
with across the columns. -/
theorem apart_new_iff {v : Varient} (hname : v.varient ≠ varient) (halias : v.valias ≠ valias) :
    v.Apart ⟨id, varient, valias⟩ ↔ v.valias ≠ varient ∧ v.varient ≠ valias := by
  constructor
  · intro h
    exact ⟨fun heq => h _ (.inr heq) (.inl rfl), fun heq => h _ (.inl heq) (.inr rfl)⟩
  · rintro ⟨h1, h2⟩ s (rfl | rfl) (hs | hs)
    · exact hname hs.symm
    · exact h2 hs.symm
    · exact h1 hs.symm
    · exact halias hs.symm

theorem insertVarient_unique_iff (huniq : db.VarientNamesUnique)
    (hnew : db.varientIdsOn varient valias = []) :
    (db.insertVarient varient valias).VarientNamesUnique ↔
      ∀ v ∈ db.varients, v.valias ≠ varient ∧ v.varient ≠ valias := by
  have hfree : ∀ v ∈ db.varients, v.varient ≠ varient ∧ v.valias ≠ valias := by
    intro v hv
    rw [BuildDb.varientIdsOn, List.map_eq_nil_iff, List.filter_eq_nil_iff] at hnew
    exact not_or.mp fun h => hnew v hv (decide_eq_true h)
  rw [varientNamesUnique_iff_pairwise] at huniq ⊢
  rw [BuildDb.insertVarient, List.pairwise_append]
  constructor
  · rintro ⟨-, -, h⟩ v hv
    exact (apart_new_iff (hfree v hv).1 (hfree v hv).2).mp (h v hv _ (List.mem_singleton_self _))
  · intro h
    refine ⟨huniq, List.pairwise_singleton _ _, fun v hv u hu => ?_⟩
    rw [List.mem_singleton.mp hu]
    exact (apart_new_iff (hfree v hv).1 (hfree v hv).2).mpr (h v hv)

theorem apart_renamed_iff {u v : Varient} : ({ u with varient := varient, valias := valias } :
    Varient).Apart v ↔ ¬v.Carries varient ∧ ¬v.Carries valias := by
  constructor
  · intro h
    exact ⟨h _ (.inl rfl), h _ (.inr rfl)⟩
  · rintro ⟨h1, h2⟩ s (rfl | rfl)
    · exact h1
    · exact h2

theorem updateVarientName_unique_iff (huniq : db.VarientNamesUnique)
    (hids : (db.varients.map Varient.id).Nodup) :
    (db.updateVarientName varient valias id).VarientNamesUnique ↔
      ((∃ u ∈ db.varients, u.id = id) → ∀ v ∈ db.varients, v.id ≠ id →
        ¬v.Carries varient ∧ ¬v.Carries valias) := by
  rw [varientNamesUnique_iff_pairwise] at huniq ⊢
  constructor
  · rintro h ⟨u, hu, rfl⟩ v hv hid
    have hu' : { u with varient := varient, valias := valias } ∈
        (db.updateVarientName varient valias u.id).varients :=
      List.mem_map.mpr ⟨u, hu, if_pos rfl⟩
    have hv' : v ∈ (db.updateVarientName varient valias u.id).varients :=
      mem_updateVarientName_of_ne hv hid
    exact apart_renamed_iff.mp (h.forall hu' hv' fun heq => hid (congrArg Varient.id heq).symm)
  · intro h
    rw [BuildDb.updateVarientName, List.pairwise_map]
    refine (huniq.and (List.pairwise_map.mp hids)).imp_of_mem fun {u v} hu hv ⟨hapart, hne⟩ => ?_
    split_ifs with hu' hv' hv'
    · exact absurd (hu'.trans hv'.symm) hne
    · exact apart_renamed_iff.mpr (h ⟨u, hu, hu'⟩ v hv hv')
    · exact (apart_renamed_iff.mpr (h ⟨v, hv, hv'⟩ u hu hu')).symm
    · exact hapart

/-! ## What the commands do to the varients -/

variable {env : CbcEnv} {w : VarientWorld} {cvl : CbcvariCommLine}

theorem cbc_addBasePackages (env : CbcEnv) (vid : ℕ) (w : VarientWorld) :
    (addBasePackages env vid w).2.cbc = w.cbc := by
  refine (readOnly_dbQuery _ _).bind_run_snd (P := fun w' : VarientWorld => w'.cbc = w.cbc) rfl
    fun base _ => ?_
  rw [Prog.ite_run]
  split_ifs
  · rfl
  · rw [dbStatement_run]
    split_ifs <;> rfl

/-- The new row is entered, or the build tables are as they were. -/
theorem addCbcBuildVarient_outcome (env : CbcEnv) (cvl : CbcvariCommLine) (w : VarientWorld) :
    (∃ varient valias, EntersVarient env cvl w.cbc.build varient valias ∧
      (addCbcBuildVarient env cvl w).2.cbc.build =
        w.cbc.build.insertVarient (arg varient) (arg valias)) ∨
    (∀ varient valias, ¬EntersVarient env cvl w.cbc.build varient valias) ∧
      (addCbcBuildVarient env cvl w).2.cbc.build = w.cbc.build := by
  rw [addCbcBuildVarient]
  rcases hv : cvl.varient with _ | varient
  · exact .inr ⟨fun _ _ h => (nomatch hv.symm.trans h.hasName), rfl⟩
  rcases ha : cvl.valias with _ | valias
  · exact .inr ⟨fun _ _ h => (nomatch ha.symm.trans h.hasAlias), rfl⟩
  rw [Option.elim_some, (readOnly_dbRet _).bind_run_of_ok rfl, Option.elim_some,
    (readOnly_dbRet _).bind_run_of_ok rfl]
  obtain ⟨e, he, hrun⟩ | ⟨r, hr, hrun⟩ := (readOnly_dbQuery _ _).bind_cases _ w
  · rw [hrun]
    refine .inr ⟨fun _ _ h => ?_, rfl⟩
    exact nomatch he.symm.trans (dbQuery_ok_iff.mpr ⟨h.query, rfl⟩)
  rw [hrun, Prog.ite_run]
  obtain ⟨hquery, rfl⟩ := dbQuery_ok_iff.mp hr
  by_cases hnew : w.cbc.build.varientIdsOn (arg varient) (arg valias) = []
  swap
  · rw [if_pos (List.length_pos_iff.mpr hnew)]
    refine .inr ⟨fun varient' valias' h => hnew ?_, rfl⟩
    rw [Option.some.inj (hv.symm.trans h.hasName), Option.some.inj (ha.symm.trans h.hasAlias)]
    exact h.new
  rw [if_neg (by simp [hnew]), Prog.bind_run, onVarients, Prog.zoom_run, cbcStatement_run]
  by_cases hinsert : env.sql .insertVarient 0 = true
  swap
  · rw [if_neg hinsert]
    exact .inr ⟨fun _ _ h => hinsert h.insert, rfl⟩
  rw [if_pos hinsert]
  refine .inl ⟨varient, valias, ⟨hv, ha, hquery, hnew, hinsert⟩, ?_⟩
  dsimp only
  -- what follows touches the packages only
  refine (readOnly_dbQuery _ _).bind_run_snd (P := fun w' : VarientWorld =>
    w'.cbc.build = w.cbc.build.insertVarient (arg varient) (arg valias)) rfl fun r _ => ?_
  refine (readOnly_dbRet _).bind_run_snd (P := fun w' : VarientWorld =>
    w'.cbc.build = w.cbc.build.insertVarient (arg varient) (arg valias)) rfl fun vid _ => ?_
  rw [cbc_addBasePackages]

theorem removeCbcBuildVarient_outcome (env : CbcEnv) (cvl : CbcvariCommLine) (w : VarientWorld) :
    (removeCbcBuildVarient env cvl w).2.cbc.build.varients.Sublist w.cbc.build.varients := by
  refine (readOnly_dbRet _).bind_run_snd
    (P := fun w' : VarientWorld => w'.cbc.build.varients.Sublist w.cbc.build.varients)
    (List.Sublist.refl _) fun varient _ => ?_
  rw [dbStatement_run]
  split_ifs
  · exact List.filter_sublist
  · exact List.Sublist.refl _

/-! ## Histories -/

/-- Ids are unique, and every string finds at most one varient. -/
structure BuildDb.VarientsOk (db : BuildDb) : Prop where
  ids : (db.varients.map Varient.id).Nodup
  names : db.VarientNamesUnique

/-- A command keeps the ids unique. -/
theorem nodup_varientIds_step (hids : (w.cbc.build.varients.map Varient.id).Nodup)
    (op : CbcEnv × VarientCommand) :
    ((VarientCommand.step w op).cbc.build.varients.map Varient.id).Nodup := by
  obtain ⟨env, cmd⟩ := op
  cases cmd with
  | add cvl =>
    obtain ⟨varient, valias, -, hrun⟩ | ⟨-, hrun⟩ := addCbcBuildVarient_outcome env cvl w
    · rw [VarientCommand.step, hrun, BuildDb.insertVarient, List.map_append]
      exact List.nodup_append_comm.mp (List.nodup_cons.mpr ⟨nextId_not_mem _, hids⟩)
    · rwa [VarientCommand.step, hrun]
  | update cvl =>
    obtain ⟨varient, new, id, -, hrun⟩ | ⟨-, hrun⟩ := updateCbcvarient_outcome env cvl w.cbc
    · rw [VarientCommand.step, onVarients, Prog.zoom_run, hrun, BuildDb.updateVarientName,
        List.map_map]
      rwa [List.map_congr_left fun v _ => show _ = v.id from ?_]
      rw [Function.comp_apply]
      split_ifs <;> rfl
    · rwa [VarientCommand.step, onVarients, Prog.zoom_run, hrun]
  | remove cvl => exact hids.sublist ((removeCbcBuildVarient_outcome env cvl w).map Varient.id)

/-- A command keeps the names unique iff it meets the condition. -/
theorem varientNames_step_iff (hw : w.cbc.build.VarientsOk) (op : CbcEnv × VarientCommand) :
    (VarientCommand.step w op).cbc.build.VarientNamesUnique ↔ VarientCommand.KeepsNames w op := by
  obtain ⟨env, cmd⟩ := op
  cases cmd with
  | add cvl =>
    obtain ⟨varient, valias, henter, hrun⟩ | ⟨hno, hrun⟩ := addCbcBuildVarient_outcome env cvl w
    · rw [VarientCommand.step, hrun, insertVarient_unique_iff hw.names henter.new]
      constructor
      · intro h varient' valias' henter'
        rw [← Option.some.inj (henter.hasName.symm.trans henter'.hasName),
          ← Option.some.inj (henter.hasAlias.symm.trans henter'.hasAlias)]
        exact h
      · exact fun h => h varient valias henter
    · rw [VarientCommand.step, hrun]
      exact iff_of_true hw.names fun _ _ h => absurd h (hno _ _)
  | update cvl =>
    obtain ⟨varient, new, id, hupd, hrun⟩ | ⟨hno, hrun⟩ := updateCbcvarient_outcome env cvl w.cbc
    · rw [VarientCommand.step, onVarients, Prog.zoom_run, hrun,
        updateVarientName_unique_iff hw.names hw.ids]
      constructor
      · intro h varient' new' id' hupd'
        rw [← Option.some.inj (hupd.varient.symm.trans hupd'.varient),
          ← Option.some.inj (hupd.new.symm.trans hupd'.new), ← hupd.lookup.unique hupd'.lookup]
        exact h
      · exact fun h => h varient new id hupd
    · rw [VarientCommand.step, onVarients, Prog.zoom_run, hrun]
      exact iff_of_true hw.names fun _ _ _ h => absurd h (hno _ _ _)
  | remove cvl =>
    refine iff_of_true ?_ trivial
    rw [varientNamesUnique_iff_pairwise]
    exact (varientNamesUnique_iff_pairwise.mp hw.names).sublist
      (removeCbcBuildVarient_outcome env cvl w)

/-- In every history from unique ids and names, names stay unique iff every varient that is
entered or updated keeps them so. -/
theorem varientNames_iff (w : VarientWorld) (hw : w.cbc.build.VarientsOk)
    (ops : List (CbcEnv × VarientCommand)) :
    Throughout VarientCommand.step (fun w => w.cbc.build.VarientNamesUnique) w ops ↔
      Each VarientCommand.step VarientCommand.KeepsNames w ops :=
  throughout_iff_each (J := fun w : VarientWorld => w.cbc.build.VarientsOk) (fun _ h => h.names)
    (fun _ op h hkeep => ⟨nodup_varientIds_step h.ids op, (varientNames_step_iff h op).mpr hkeep⟩)
    (fun _ op h hnames => (varientNames_step_iff h op).mp hnames) ops w hw

/-- `cbcvarient -a -x name -k alias`. -/
def varientNamed (name valias : String) : CbcvariCommLine :=
  ⟨.add, .varient, some name.toList, some valias.toList, none, none, none, none, none, none, none⟩

theorem varientsOk_empty : emptyWorld.build.VarientsOk :=
  ⟨List.nodup_nil, fun _ => Nat.zero_le _⟩

theorem varientNames_iff_webMail :
    Throughout VarientCommand.step (fun w => w.cbc.build.VarientNamesUnique) ⟨emptyWorld, []⟩
      [(allOk, .add (varientNamed "Web Server" "web")),
        (allOk, .add (varientNamed "Mail Server" "mail"))] := by
  refine (varientNames_iff _ varientsOk_empty _).mpr ⟨fun _ _ _ => nofun, ?_, trivial⟩
  intro varient valias henter
  cases henter.hasName
  cases henter.hasAlias
  decide

/-- The alias of the first varient is the name of the second. -/
theorem aliasReused_names_ambiguous :
    ¬Throughout VarientCommand.step (fun w => w.cbc.build.VarientNamesUnique) ⟨emptyWorld, []⟩
      [(allOk, .add (varientNamed "Web Server" "web")), (allOk, .add (varientNamed "web" "www"))] :=
  fun h => absurd (h _ (List.prefix_refl _) "web".toList) (by decide)

end Cmdb
