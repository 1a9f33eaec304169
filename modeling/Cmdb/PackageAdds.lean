import Cmdb.PackageInserts
import Cmdb.ListSequence

/-!
# Adding packages

`add_cbc_package` lists a package for each OS that meets the filters. `check_package_list` takes
the packages that are stored out of the list, five elements at a time, and the rest is inserted.

* `checkLoop_run` : the walk over the list in memory, which is past a package when it is removed;
* `addCbcPackage_cases` : what a run does, or where it stops;
* `addCbcPackage_union` : the packages are added as to a set, once for any number of runs.
-/

namespace Cmdb

open CString DoublyLinked
open Sql (Value)

/-! ## Queries -/

/-- `PACKAGE_FULL` -/
def packageFull : AilsaSqlQuery where
  query := "SELECT pack_id FROM packages WHERE package = ? AND varient_id = ? and os_id = ?".toList
  number := 3
  fields := [.text, .lint, .lint]

/-- The queries from `BUILD_OS_ON_NAME_OR_ALIAS` on. -/
def buildOsQueries : List AilsaSqlQuery :=
  [ { query := "SELECT os_id FROM build_os WHERE (os = ? OR alias = ?)".toList
      number := 2
      fields := [.text, .text] },
    -- `BUILD_OS_ON_NAME_VERSION`
    { query := ("SELECT os_id FROM build_os WHERE (os = ? OR alias = ?) AND " ++
        "(os_version = ? OR ver_alias = ?)").toList
      number := 4
      fields := [.text, .text, .text, .text] },
    -- `BUILD_OS_ON_NAME_ARCH`
    { query := "SELECT os_id FROM build_os WHERE (os = ? OR ALIAS = ?) AND arch = ?".toList
      number := 3
      fields := [.text, .text, .text] },
    -- `BUILD_OS_ON_ALL`
    { query := ("SELECT os_id FROM build_os WHERE (os = ? OR alias = ?) AND " ++
        "(os_version = ? OR ver_alias = ?) AND arch = ?").toList
      number := 5
      fields := [.text, .text, .text, .text, .text] } ]

/-- The calls of a run to the database, one of them for each package of the list. -/
inductive PackageCall
  | varientId
  | buildOs
  | packageFull (i : ℕ)
  | insert
deriving DecidableEq, Repr

abbrev AddEnv := CallEnv PackageCall

/-- The number of elements the `i`-th query of `check_package_list` finds. -/
def AddEnv.stored (env : AddEnv) (db : PackageDb) (i : ℕ) (pack : List AilsaData) :
    Except (Option ℤ) ℕ :=
  if env.served (.packageFull i) then
    (db.argumentQuery packageFull pack).map fun results => results.flatten.length
  else .error (some ailsaStatementFail)

/-! ## The list in memory -/

/-- The list `pack` of `check_package_list`. -/
def packageArgs (package : CStr) (varientId osId : ℕ) : List AilsaData :=
  cmdbAddNumberToList osId (cmdbAddNumberToList varientId (cmdbAddStringToList package []))

namespace Mem

variable {A : Type} [DecidableEq A]

/-- `data->data->text` -/
def textOf : Option AilsaData → ListProg A AilsaData CStr
  | some (.text s) => pure s
  | _ => Prog.fail .badPointer

/-- `data->data->number` -/
def dataNumber : Option AilsaData → ListProg A AilsaData ℕ
  | some (.number n) => pure n
  | _ => Prog.fail .badPointer

/-- The loop of `check_package_list` from `elem` on, the `i`-th package of the list. -/
def checkLoop (stored : ℕ → List AilsaData → Except (Option ℤ) ℕ) :
    ℕ → ℕ → Option A → ListProg A AilsaData ℤ
  | 0, _, _ => Prog.fail .noTurns
  | _ + 1, _, none => pure 0
  | turns + 1, i, some head => do
    let elem ← deref (some head)
    let package ← textOf elem.data
    let elem ← deref elem.next
    let varientId ← dataNumber elem.data
    let elem ← deref elem.next
    let osId ← dataNumber elem.data
    let elem ← deref elem.next
    let elem ← deref elem.next
    match stored i (packageArgs package varientId osId) with
    | .error none => Prog.fail .badPointer
    | .error (some retval) => return retval
    | .ok total =>
      if 0 < total then
        let retval ← ailsaListRemoveElements (some head) 5
        if retval = 0 then
          checkLoop stored turns (i + 1) elem.next
        else
          return retval
      else
        checkLoop stored turns (i + 1) elem.next

def checkPackageList (env : AddEnv) (db : PackageDb) (turns : ℕ) : ListProg A AilsaData ℤ := do
  let list ← getList
  checkLoop (env.stored db) turns 0 list.head

end Mem

/-! ## The command -/

/-- `build_package_list` -/
def buildPackageList (env : AddEnv) (pack : Option CStr) (vari os : CStr)
    (vers arch : Option CStr) : PackageProg (List AilsaData) := do
  match pack with
  | none => Prog.fail (some ailsaNoData)
  | some pack =>
    let vid ← env.query .varientId fun db => db.checkVarientId vari
    let (scratch, queryNo) ← Prog.reads fun _ => getBuildOsQuery [] (some os) vers arch
    match buildOsQueries[queryNo]? with
    | none => Prog.fail none
    | some q =>
      let buildOs ← env.query .buildOs fun db => db.argumentQuery q scratch
      return buildOs.flatten.foldl (fun list e => cmdbPopulateCuserMuser env.uid
        (cmdbAddNumberToList (valueNumber e) (cmdbAddNumberToList vid
          (cmdbAddStringToList pack list)))) []

/-- `check_package_list` from the `i`-th package on, as `Mem.checkPackageList` does it in
memory. -/
def checkPackageList (env : AddEnv) : ℕ → List AilsaData → PackageProg (List AilsaData)
  | _, [] => pure []
  | i, .text package :: .number varientId :: .number osId :: cuser :: muser :: list => do
    let total ← Prog.reads fun db => env.stored db i (packageArgs package varientId osId)
    let kept ← checkPackageList env (i + 1) list
    return if 0 < total then kept
      else .text package :: .number varientId :: .number osId :: cuser :: muser :: kept
  | _, _ => Prog.fail none

/-- `add_cbc_package` -/
def addCbcPackage (env : AddEnv) (cvl : CbcvariCommLine) : PackageProg Unit := do
  match cvl.valias <|> cvl.varient, cvl.os <|> cvl.osAlias with
  | some varient, some os =>
    let list ← buildPackageList env cvl.package varient os (cvl.version <|> cvl.verAlias) cvl.arch
    let list ← checkPackageList env 0 list
    if 0 < list.length then
      let _ ← env.query .insert fun _ => .ok ()
      PackageDb.insertPackages list
  | _, _ => Prog.fail (some ailsaNoData)

/-! ## The walk in memory -/

section Walk

variable {A : Type} [DecidableEq A] {stored : ℕ → List AilsaData → Except (Option ℤ) ℕ}
  {l₁ : List (A × Option AilsaData)}

/-- What the query of a package is asked. -/
def NewPackage.args (r : NewPackage) : List AilsaData := packageArgs r.package r.varientId r.osId

omit [DecidableEq A] in
theorem first_cells (g : PackageCells A) (l₂ : List (A × Option AilsaData)) :
    first (g.cells ++ l₂) none = some g.package := rfl

/-- One turn of the walk : it is past the package when it asks for it. -/
theorem checkLoop_succ {g : PackageCells A} {l₂ : List (A × Option AilsaData)}
    {m : ListMem A AilsaData} (hm : m.Holds (l₁ ++ (g.cells ++ l₂))) {turns i n : ℕ}
    (hn : stored i g.new.args = .ok n) :
    Mem.checkLoop stored (turns + 1) i (some g.package) m =
      if 0 < n then (ailsaListRemoveElements (some g.package) 5 >>= fun retval =>
        if retval = 0 then Mem.checkLoop stored turns (i + 1) (first l₂ none)
        else pure retval) m
      else Mem.checkLoop stored turns (i + 1) (first l₂ none) m := by
  obtain ⟨-, h₁, h₂, h₃, h₄, h₅, -⟩ := segment_append.mp hm.segment
  have hpackage : m.heap g.package =
    some ⟨last none l₁, some g.varientId, some (.text g.new.package)⟩ := h₁
  have hvarient : m.heap g.varientId =
    some ⟨some g.package, some g.osId, some (.number g.new.varientId)⟩ := h₂
  have hos : m.heap g.osId = some ⟨some g.varientId, some g.cuser, some (.number g.new.osId)⟩ := h₃
  have hcuser : m.heap g.cuser =
    some ⟨some g.osId, some g.muser, some (.number g.new.cuser)⟩ := h₄
  have hmuser : m.heap g.muser =
    some ⟨some g.cuser, first l₂ none, some (.number g.new.muser)⟩ := h₅
  rw [Mem.checkLoop, deref_bind hpackage]
  dsimp only [Mem.textOf]
  rw [Prog.pure_bind_run, deref_bind hvarient]
  dsimp only [Mem.dataNumber]
  rw [Prog.pure_bind_run, deref_bind hos]
  dsimp only
  rw [Prog.pure_bind_run, deref_bind hcuser, deref_bind hmuser]
  have hn : stored i (packageArgs g.new.package g.new.varientId g.new.osId) = .ok n := hn
  rw [hn]
  exact Prog.ite_run ..

/-- The walk over the packages behind `l₁` leaves those of which nothing is found. -/
theorem checkLoop_run {found : NewPackage → ℕ}
    (hfound : ∀ i (r : NewPackage), stored i r.args = .ok (found r)) :
    ∀ {gs : List (PackageCells A)} {l₁ : List (A × Option AilsaData)} {m : ListMem A AilsaData}
      {i : ℕ}, m.Holds (l₁ ++ gs.flatMap PackageCells.cells) → m.list.destroy = true →
      ∃ m', (∀ turns, gs.length < turns → Mem.checkLoop stored turns i
          (first (gs.flatMap PackageCells.cells) none) m = (.ok 0, m')) ∧
        m'.Holds (l₁ ++ (gs.filter fun g => found g.new = 0).flatMap PackageCells.cells)
  | [], l₁, m, _, hm, _ => by
    refine ⟨m, fun turns hturns => ?_, hm⟩
    obtain ⟨turns, rfl⟩ := Nat.exists_eq_succ_of_ne_zero hturns.ne'
    rfl
  | g :: gs, l₁, m, i, hm, hdestroy => by
    rw [List.flatMap_cons] at hm
    by_cases hzero : found g.new = 0
    · -- the package joins what is in front
      have happ : l₁ ++ (g.cells ++ gs.flatMap PackageCells.cells) =
          (l₁ ++ g.cells) ++ gs.flatMap PackageCells.cells := (List.append_assoc ..).symm
      obtain ⟨m', hrun, hm'⟩ := checkLoop_run hfound (i := i + 1) (happ ▸ hm) hdestroy
      refine ⟨m', fun turns hturns => ?_, ?_⟩
      · obtain ⟨turns, rfl⟩ := Nat.exists_eq_succ_of_ne_zero (Nat.zero_lt_of_lt hturns).ne'
        rw [List.flatMap_cons, first_cells, checkLoop_succ hm (hfound i g.new),
          if_neg (by omega)]
        exact hrun turns (Nat.lt_of_succ_lt_succ hturns)
      · rw [List.filter_cons_of_pos (by simpa using hzero), List.flatMap_cons, ← List.append_assoc]
        exact hm'
    · obtain ⟨m₁, hremove, hm₁, hdestroy₁⟩ :=
        ailsaListRemoveElements_run hm (first_cells g _) hdestroy
      have hfive : ailsaListRemoveElements (some g.package) 5 m = (.ok 0, m₁) := hremove
      obtain ⟨m', hrun, hm'⟩ := checkLoop_run hfound (i := i + 1) hm₁ hdestroy₁
      refine ⟨m', fun turns hturns => ?_, ?_⟩
      · obtain ⟨turns, rfl⟩ := Nat.exists_eq_succ_of_ne_zero (Nat.zero_lt_of_lt hturns).ne'
        rw [List.flatMap_cons, first_cells, checkLoop_succ hm (hfound i g.new),
          if_pos (by omega), Prog.bind_run_ok hfive, if_pos rfl]
        exact hrun turns (Nat.lt_of_succ_lt_succ hturns)
      · rw [List.filter_cons_of_neg (by simpa using hzero)]
        exact hm'

end Walk

/-! ## What the queries find -/

section Queries

variable {db : PackageDb} {env : AddEnv}

theorem flatten_map_singleton {α β : Type} (f : α → β) (l : List α) :
    (l.map fun a => [f a]).flatten = l.map f :=
  (List.flatMap_def ..).symm.trans List.map_eq_flatMap.symm

/-- The packages of the key, their number. -/
def PackageDb.countOf (db : PackageDb) (r : NewPackage) : ℕ :=
  (db.packages.filter fun p => p.key = (arg r.package, r.varientId, r.osId)).length

theorem countOf_eq_zero_iff {r : NewPackage} (h : r.package.length ≤ configLen) :
    db.countOf r = 0 ↔ ¬db.Stored r := by
  rw [PackageDb.countOf, arg_of_length_le h, List.length_eq_zero_iff, List.filter_eq_nil_iff,
    PackageDb.Stored, List.mem_map]
  simp only [decide_eq_true_eq, not_exists, not_and]
  rfl

theorem packageFull_eq (db : PackageDb) (r : NewPackage) : db.argumentQuery packageFull r.args =
    .ok ((db.packages.filter fun p => p.key = (arg r.package, r.varientId, r.osId)).map
      fun p => [.int p.id]) := by
  have hprep : Sql.prepare db.tables packageFull.query =
      some (.select ⟨[⟨none, "pack_id".toList⟩], .table "packages".toList,
        .and (.and (.param ⟨none, "package".toList⟩ 0) (.param ⟨none, "varient_id".toList⟩ 1))
          (.param ⟨none, "os_id".toList⟩ 2), [], false, none⟩) :=
    Sql.prepare_eq_some (by decide +kernel) rfl
  have hquery : db.argumentQuery packageFull r.args = _ :=
    PackageDb.argumentQuery_table hprep rfl rfl rfl le_rfl (show 3 < 2 ^ 31 by decide)
  refine hquery.trans ?_
  refine congrArg (fun ps : List PackageRow => Except.ok (ps.map fun p => [Value.int p.id])) ?_
  refine List.filter_congr fun p _ => decide_eq_decide.mpr ?_
  have hint : ∀ {m n : ℕ}, (Value.int m).Equals (.int n) ↔ m = n :=
    Sql.Value.nat_equals_nat
  refine ((Sql.Value.text_equals_text.and hint).and hint).trans ?_
  rw [and_assoc, PackageRow.key, Prod.mk.injEq, Prod.mk.injEq]

theorem stored_eq (db : PackageDb) {i : ℕ} (h : env.served (.packageFull i) = true)
    (r : NewPackage) : env.stored db i r.args = .ok (db.countOf r) := by
  rw [AddEnv.stored, if_pos h, packageFull_eq]
  refine congrArg Except.ok ?_
  dsimp only
  rw [flatten_map_singleton, List.length_map, PackageDb.countOf]

/-- The condition of a query for OSes. -/
def buildOsCond (vers arch : Bool) : Sql.Cond :=
  andIf arch (andIf vers (eitherParam none "os" "alias" 0)
    (eitherParam none "os_version" "ver_alias" 2))
    (.param ⟨none, "arch".toList⟩ (if vers then 4 else 2))

/-- The number of the query. -/
def buildOsIndex (vers arch : Bool) : ℕ := (if vers then 1 else 0) ||| if arch then 2 else 0

set_option maxRecDepth 2000 in
theorem parse_buildOsQueries : ∀ vers arch : Bool,
    (buildOsQueries[buildOsIndex vers arch]?).bind (fun q => Sql.parse q.query) =
      some (.select ⟨[⟨none, "os_id".toList⟩], .table "build_os".toList, buildOsCond vers arch, [],
        false, none⟩) := by
  rintro (_ | _) (_ | _)
  all_goals
    apply parse_of_query rfl
    apply Exists.intro
    apply And.intro
    · repeat' with_reducible apply toList_append_eq
      all_goals exact String.toList_ofList
    · decide +kernel

/-- The number of its placeholders. -/
def buildOsNumber (vers arch : Bool) : ℕ := 2 + (if vers then 2 else 0) + if arch then 1 else 0

theorem buildOsNumber_lt : ∀ vers arch : Bool, buildOsNumber vers arch < 2 ^ 31 := by decide

theorem length_params_buildOsCond : ∀ vers arch : Bool,
    (buildOsCond vers arch).params.length = buildOsNumber vers arch := by decide

theorem fields_buildOsQueries : ∀ vers arch : Bool,
    (buildOsQueries[buildOsIndex vers arch]?).map (fun q => (q.number, q.fields)) =
      some (buildOsNumber vers arch, List.replicate (buildOsNumber vers arch) .text) := by decide

/-- The texts on the list. -/
def buildOsTexts (os : CStr) (vers arch : Option CStr) : List CStr :=
  os :: os :: (vers.elim [] (fun s => [s, s]) ++ arch.elim [] fun s => [s])

theorem length_buildOsTexts (os : CStr) (vers arch : Option CStr) :
    (buildOsTexts os vers arch).length = buildOsNumber vers.isSome arch.isSome := by
  cases vers <;> cases arch <;> rfl

theorem getBuildOsQuery_eq {os : CStr} {vers arch : Option CStr} (hos : os.length ≤ configLen)
    (hvers : ∀ s ∈ vers, s.length ≤ configLen) (harch : ∀ s ∈ arch, s.length ≤ configLen) :
    getBuildOsQuery [] (some os) vers arch =
      .ok ((buildOsTexts os vers arch).map .text, buildOsIndex vers.isSome arch.isSome) := by
  have hall : getBuildOsQuery [] (some os) vers arch =
      .ok ((buildOsTexts (arg os) (vers.map arg) (arch.map arg)).map .text,
        buildOsIndex vers.isSome arch.isSome) := by
    cases vers <;> cases arch <;> rfl
  rw [hall, arg_of_length_le hos, map_arg_of_length_le hvers, map_arg_of_length_le harch]

/-- The condition is that of the filters. -/
theorem holds_buildOsCond {os : CStr} {vers arch : Option CStr} {o : OsRow} :
    (buildOsCond vers.isSome arch.isSome).Holds db.tables (textArgs (buildOsTexts os vers arch))
        (Sql.ofTable (Sql.valueOf OsRow.columns o)) ↔ o.Meets ⟨some os, vers, arch⟩ := by
  have h := o.readBy_ofTable
  refine h.meets_iff (h.name_iff rfl rfl) ?_ ?_
  · rintro v rfl
    exact ⟨rfl, rfl⟩
  · rintro a rfl
    cases vers <;> rfl

/-- The query for the filters finds the OSes that meet them. -/
theorem exists_buildOsQuery (db : PackageDb) (os : CStr) (vers arch : Option CStr) :
    ∃ q, buildOsQueries[buildOsIndex vers.isSome arch.isSome]? = some q ∧
      db.argumentQuery q ((buildOsTexts os vers arch).map .text) =
        .ok ((db.buildOs.filter fun o => o.Meets ⟨some os, vers, arch⟩).map
          fun o => [.int o.id]) := by
  obtain ⟨q, hq, hparse⟩ := Option.bind_eq_some_iff.mp
    (parse_buildOsQueries vers.isSome arch.isSome)
  have hresolves : (Sql.Statement.select ⟨[⟨none, "os_id".toList⟩], .table "build_os".toList,
      buildOsCond vers.isSome arch.isSome, [], false, none⟩).resolves db.tables = true := by
    cases vers <;> cases arch <;> rfl
  have hfields := fields_buildOsQueries vers.isSome arch.isSome
  rw [hq] at hfields
  obtain ⟨hn, hf⟩ := Prod.mk.inj (Option.some.inj hfields)
  have hlen : ((buildOsTexts os vers arch).map AilsaData.text).length =
      buildOsNumber vers.isSome arch.isSome := by
    rw [List.length_map, length_buildOsTexts]
  have hf' : q.fields = ((buildOsTexts os vers arch).map AilsaData.text).map fieldOf := by
    rw [hf]
    cases vers <;> cases arch <;> rfl
  have hle := (hlen.trans (length_params_buildOsCond ..).symm).le
  have hlt := (length_params_buildOsCond ..).trans_lt (buildOsNumber_lt vers.isSome arch.isSome)
  refine ⟨q, hq, ?_⟩
  rw [PackageDb.argumentQuery_table (Sql.prepare_eq_some hparse hresolves) rfl hf'
    (hn.trans hlen.symm) hle hlt, boundValue_texts]
  refine congrArg (fun os : List OsRow => Except.ok (os.map fun o => [Value.int o.id])) ?_
  exact List.filter_congr fun o _ => decide_eq_decide.mpr holds_buildOsCond

end Queries

/-! ## What a run does -/

namespace PackageDb

variable (db : PackageDb) (uid : ℕ) (cvl : CbcvariCommLine)

/-- The packages a run is asked to add : one for each OS that meets the filters. -/
def candidates : List NewPackage :=
  match cvl.package, cvl.valias <|> cvl.varient, cvl.osFilter.os with
  | some pack, some s, some _ =>
    match (db.varients.filter fun v => v.Carries s).map Varient.id with
    | [vid] => (db.buildOs.filter fun o => o.Meets cvl.osFilter).map
        fun o => ⟨pack, vid, o.id, uid, uid⟩
    | _ => []
  | _, _, _ => []

/-- Those of them that are not stored. -/
def missing : List NewPackage := (db.candidates uid cvl).filter fun r => ¬db.Stored r

variable {db uid cvl}

theorem candidates_eq {pack s os : CStr} {vid : ℕ} (hpack : cvl.package = some pack)
    (hs : (cvl.valias <|> cvl.varient) = some s) (hos : cvl.osFilter.os = some os)
    (hvid : (db.varients.filter fun v => v.Carries s).map Varient.id = [vid]) :
    db.candidates uid cvl = (db.buildOs.filter fun o => o.Meets cvl.osFilter).map
      fun o => ⟨pack, vid, o.id, uid, uid⟩ := by
  rw [candidates, hpack, hs, hos]
  dsimp only
  rw [hvid]

/-- The packages there are candidates for. -/
theorem exists_of_candidates {r : NewPackage} (h : r ∈ db.candidates uid cvl) :
    ∃ pack s os vid, cvl.package = some pack ∧ (cvl.valias <|> cvl.varient) = some s ∧
      cvl.osFilter.os = some os ∧
      (db.varients.filter fun v => v.Carries s).map Varient.id = [vid] := by
  unfold candidates at h
  split at h
  · next pack s os hpack hs hos =>
    split at h
    · next vid hvid => exact ⟨pack, s, os, vid, hpack, hs, hos, hvid⟩
    · cases h
  · cases h

theorem known_of_candidates {r : NewPackage} (h : r ∈ db.candidates uid cvl) : db.Known r := by
  obtain ⟨pack, s, os, vid, hpack, hs, hos, hvid⟩ := exists_of_candidates h
  rw [candidates_eq hpack hs hos hvid] at h
  obtain ⟨o, ho, rfl⟩ := List.mem_map.mp h
  obtain ⟨v, hv, hid⟩ := List.mem_map.mp (hvid ▸ List.mem_singleton_self vid)
  exact ⟨⟨v, List.mem_of_mem_filter hv, hid⟩, o, List.mem_of_mem_filter ho, rfl⟩

/-- Each package is asked for once. -/
theorem nodup_candidates (db : PackageDb) (uid : ℕ) (cvl : CbcvariCommLine) :
    ((db.candidates uid cvl).map NewPackage.key).Nodup := by
  by_cases hnil : db.candidates uid cvl = []
  · rw [hnil]
    exact List.nodup_nil
  · obtain ⟨r, hr⟩ := List.exists_mem_of_ne_nil _ hnil
    obtain ⟨pack, s, os, vid, hpack, hs, hos, hvid⟩ := exists_of_candidates hr
    rw [candidates_eq hpack hs hos hvid, List.map_map]
    have hids : ((db.buildOs.filter fun o => o.Meets cvl.osFilter).map OsRow.id).Nodup :=
      db.osIds.sublist (List.filter_sublist.map _)
    have hkey : (NewPackage.key ∘ fun o : OsRow => (⟨pack, vid, o.id, uid, uid⟩ : NewPackage)) =
        (fun i : ℕ => ((pack, vid, i) : PackageKey)) ∘ OsRow.id := rfl
    rw [hkey, ← List.map_map]
    refine hids.map fun i j hij => ?_
    exact (Prod.mk.inj (Prod.mk.inj hij).2).2

end PackageDb

section Runs

variable {env : AddEnv} {db : PackageDb} {cvl : CbcvarientLine}

/-- The elements `build_package_list` adds for the ids of OSes. -/
theorem foldl_addPackage (pack : CStr) (vid uid : ℕ) (os : List OsRow)
    (hpack : pack.length ≤ configLen) :
    (os.map fun o => [Value.int o.id]).flatten.foldl (fun list e => cmdbPopulateCuserMuser uid
        (cmdbAddNumberToList (valueNumber e) (cmdbAddNumberToList vid
          (cmdbAddStringToList pack list)))) [] =
      (os.map fun o => (⟨pack, vid, o.id, uid, uid⟩ : NewPackage)).flatMap NewPackage.data := by
  rw [flatten_map_singleton, List.foldl_map, List.flatMap_map, List.flatMap_eq_foldl]
  refine congrArg (fun f => List.foldl f [] os) (funext fun list => funext fun o => ?_)
  simp [cmdbPopulateCuserMuser, cmdbAddNumberToList, cmdbAddStringToList, arg_of_length_le hpack,
    NewPackage.data, valueNumber]

/-- Without a package, or one varient by its name, there is nothing to add. -/
theorem candidates_eq_nil {uid : ℕ} {s : CStr} (hs : (cvl.valias <|> cvl.varient) = some s)
    (h : ∀ pack vid, cvl.package = some pack →
      (db.varients.filter fun v => v.Carries s).map Varient.id ≠ [vid]) :
    db.candidates uid cvl.toCbcvariCommLine = [] := by
  refine List.eq_nil_iff_forall_not_mem.mpr fun r hr => ?_
  obtain ⟨pack, s', _, vid, hpack, hs', -, hvid⟩ := PackageDb.exists_of_candidates hr
  obtain rfl := Option.some.inj (hs.symm.trans hs')
  exact h pack vid hpack hvid

/-- The list of the candidates, once the varient is found. -/
theorem buildPackageList_found {s os pack : CStr} {vid : ℕ} (hpack : cvl.package = some pack)
    (hs : (cvl.valias <|> cvl.varient) = some s) (hos : cvl.osFilter.os = some os)
    (hvid : (db.varients.filter fun v => v.Carries s).map Varient.id = [vid])
    (hcheck : db.checkVarientId s = .ok vid) (hserved : env.served .varientId = true) :
    buildPackageList env (some pack) s os (cvl.version <|> cvl.verAlias) cvl.arch db =
      if env.served .buildOs = true then
        (.ok ((db.candidates env.uid cvl.toCbcvariCommLine).flatMap NewPackage.data), db)
      else (.error (some ailsaStatementFail), db) := by
  have hmac : macLen ≤ configLen := by decide
  have hservice : serviceLen ≤ configLen := by decide
  have hlen : pack.length ≤ configLen := (cvl.copied.package pack hpack).trans (by decide)
  have hfilter : cvl.osFilter = ⟨some os, (cvl.version <|> cvl.verAlias), cvl.arch⟩ := by
    rw [← hos]
    rfl
  have hlist : getBuildOsQuery [] (some os) (cvl.version <|> cvl.verAlias) cvl.arch = _ :=
    getBuildOsQuery_eq ((cvl.length_os_le os hos).trans hmac)
      (fun t ht => (cvl.length_version_le t ht).trans hmac)
      (fun t ht => (cvl.copied.arch t ht).trans hservice)
  have hread : (Prog.reads fun _ => getBuildOsQuery [] (some os)
      (cvl.version <|> cvl.verAlias) cvl.arch : PackageProg _) db =
        (.ok ((buildOsTexts os (cvl.version <|> cvl.verAlias) cvl.arch).map .text,
          buildOsIndex (cvl.version <|> cvl.verAlias).isSome cvl.arch.isSome), db) := by
    rw [Prog.reads_run, hlist]
  obtain ⟨q, hq, hanswer⟩ := exists_buildOsQuery db os (cvl.version <|> cvl.verAlias) cvl.arch
  rw [buildPackageList]
  dsimp only
  rw [CallEnv.query_bind_ok (g := fun db => db.checkVarientId s) hserved hcheck,
    Prog.bind_run_ok hread]
  dsimp only
  rw [hq]
  dsimp only
  cases hserved' : env.served .buildOs with
  | false =>
    rw [if_neg Bool.false_ne_true]
    exact CallEnv.query_bind_fail hserved'
  | true =>
    rw [if_pos rfl, CallEnv.query_bind_ok (g := fun db => db.argumentQuery q _) hserved' hanswer,
      Prog.pure_run, foldl_addPackage pack vid env.uid _ hlen, ← hfilter,
      PackageDb.candidates_eq hpack hs hos hvid]

/-- The list of the candidates, or the run stops. -/
theorem buildPackageList_cases (env : AddEnv) (db : PackageDb) {s os : CStr}
    (hs : (cvl.valias <|> cvl.varient) = some s) (hos : cvl.osFilter.os = some os) :
    buildPackageList env cvl.package s os (cvl.version <|> cvl.verAlias) cvl.arch db =
        (.ok ((db.candidates env.uid cvl.toCbcvariCommLine).flatMap NewPackage.data), db) ∨
      ∃ e, buildPackageList env cvl.package s os (cvl.version <|> cvl.verAlias) cvl.arch db =
        (.error e, db) ∧ ((e = some ailsaStatementFail ∧ env.Fails) ∨
          db.candidates env.uid cvl.toCbcvariCommLine = []) := by
  have hlen : s.length ≤ configLen := (forall_mem_orElse (fun t ht => (cvl.copied.valias t ht).trans
    (by decide)) cvl.copied.varient s hs).trans (show hostLen ≤ configLen by decide)
  cases hpack : cvl.package with
  | none =>
    refine .inr ⟨some ailsaNoData, rfl, .inr (candidates_eq_nil hs fun pack vid hpack' => ?_)⟩
    rw [hpack] at hpack'
    cases hpack'
  | some pack =>
    cases hserved : env.served .varientId with
    | false => exact .inr ⟨_, CallEnv.query_bind_fail hserved, .inl ⟨rfl, _, hserved⟩⟩
    | true =>
      have hcheck := db.checkVarientId_eq hlen
      split at hcheck
      · next vid hvid =>
        have hrun := buildPackageList_found hpack hs hos hvid hcheck hserved
        split_ifs at hrun with hserved'
        · exact .inl hrun
        · exact .inr ⟨_, hrun, .inl ⟨rfl, _, Bool.eq_false_of_not_eq_true hserved'⟩⟩
      · next hvid =>
        exact .inr ⟨_, CallEnv.query_bind_error (g := fun db => db.checkVarientId s) hserved hcheck,
          .inr (candidates_eq_nil hs fun _ vid _ hvid' => hvid vid hvid')⟩

/-- The list of the packages that are not stored, or the run stops. -/
theorem checkPackageList_cases : ∀ {rs : List NewPackage} {i : ℕ},
    (∀ r ∈ rs, r.package.length ≤ configLen) →
    checkPackageList env i (rs.flatMap NewPackage.data) db =
        (.ok ((rs.filter fun r => ¬db.Stored r).flatMap NewPackage.data), db) ∨
      (checkPackageList env i (rs.flatMap NewPackage.data) db =
        (.error (some ailsaStatementFail), db) ∧ ∃ i, env.served (.packageFull i) = false)
  | [], _, _ => .inl rfl
  | r :: rs, i, h => by
    obtain ⟨hr, hrs⟩ := List.forall_mem_cons.mp h
    have hstep : checkPackageList env i ((r :: rs).flatMap NewPackage.data) =
        (Prog.reads (fun db => env.stored db i r.args) >>= fun total =>
          checkPackageList env (i + 1) (rs.flatMap NewPackage.data) >>= fun kept =>
            pure (if 0 < total then kept else r.data ++ kept)) := rfl
    rw [hstep]
    cases hserved : env.served (.packageFull i) with
    | false =>
      refine .inr ⟨Prog.bind_run_error ?_ _, _, hserved⟩
      rw [Prog.reads_run, AddEnv.stored, hserved]
      rfl
    | true =>
      have hstored := stored_eq db hserved r
      have hread : Prog.reads (fun db => env.stored db i r.args) db = (.ok (db.countOf r), db) := by
        rw [Prog.reads_run, hstored]
      rw [Prog.bind_run_ok hread]
      obtain hrun | ⟨hrun, hfails⟩ := checkPackageList_cases (i := i + 1) hrs
      · refine .inl ((Prog.bind_run_ok hrun _).trans ?_)
        rw [Prog.pure_run]
        by_cases hzero : db.countOf r = 0
        · have hr' := (countOf_eq_zero_iff hr).mp hzero
          rw [if_neg (by omega), List.filter_cons_of_pos (by simpa using hr'), List.flatMap_cons]
        · have hr' := (countOf_eq_zero_iff hr).not_left.mp hzero
          rw [if_pos (by omega), List.filter_cons_of_neg (by simpa using hr')]
      · exact .inr ⟨Prog.bind_run_error hrun _, hfails⟩

theorem length_of_candidates {uid : ℕ} :
    ∀ r ∈ db.candidates uid cvl.toCbcvariCommLine, r.package.length ≤ configLen := by
  intro r hr
  obtain ⟨pack, s, os, vid, hpack, hs, hos, hvid⟩ := PackageDb.exists_of_candidates hr
  rw [PackageDb.candidates_eq hpack hs hos hvid] at hr
  obtain ⟨o, -, rfl⟩ := List.mem_map.mp hr
  exact (cvl.copied.package pack hpack).trans (by decide)

theorem known_of_missing {uid : ℕ} :
    ∀ r ∈ db.missing uid cvl.toCbcvariCommLine, db.Known r :=
  fun _ hr => PackageDb.known_of_candidates (List.mem_of_mem_filter hr)

/-- The end of a run, with the list of the packages that are missing. -/
theorem insertMissing_cases {rs : List NewPackage} (hknown : ∀ r ∈ rs, db.Known r) :
    (5 * rs.length < 2 ^ 31 ∧ (if 0 < (rs.flatMap NewPackage.data).length then
        (env.query .insert (fun _ => .ok ()) >>= fun _ =>
          PackageDb.insertPackages (rs.flatMap NewPackage.data))
        else pure ()) db = (.ok (), db.addPackages rs hknown)) ∨
    ∃ e, (if 0 < (rs.flatMap NewPackage.data).length then
        (env.query .insert (fun _ => .ok ()) >>= fun _ =>
          PackageDb.insertPackages (rs.flatMap NewPackage.data))
        else pure ()) db = (.error e, db) ∧
      ((e = some ailsaStatementFail ∧ env.Fails) ∨ rs = [] ∨ 2 ^ 31 ≤ 5 * rs.length) := by
  rw [length_flatMap_data]
  by_cases hnil : rs = []
  · subst hnil
    exact .inl ⟨by decide, congrArg (Prod.mk _) (db.addPackages_nil hknown).symm⟩
  have hpos := List.length_pos_iff.mpr hnil
  rw [if_pos (by omega)]
  cases hserved : env.served .insert with
  | false => exact .inr ⟨_, CallEnv.query_bind_fail hserved, .inl ⟨rfl, _, hserved⟩⟩
  | true =>
    rw [CallEnv.query_bind_ok (g := fun _ => .ok ()) hserved rfl]
    by_cases hlt : 5 * rs.length < 2 ^ 31
    · exact .inl ⟨hlt, insertPackages_eq hnil hlt hknown⟩
    · obtain ⟨e, he⟩ := insertPackages_of_le db (Nat.le_of_not_lt hlt)
      exact .inr ⟨e, he, .inr (.inr (Nat.le_of_not_lt hlt))⟩

/-- The packages that are missing are added, or nothing is, because a statement fails, there is
nothing to add, or too much. -/
theorem addCbcPackage_cases (env : AddEnv) (cvl : CbcvarientLine) (db : PackageDb) :
    (5 * (db.missing env.uid cvl.toCbcvariCommLine).length < 2 ^ 31 ∧
      addCbcPackage env cvl.toCbcvariCommLine db =
        (.ok (), db.addPackages (db.missing env.uid cvl.toCbcvariCommLine) known_of_missing)) ∨
    ∃ e, addCbcPackage env cvl.toCbcvariCommLine db = (.error e, db) ∧
      ((e = some ailsaStatementFail ∧ env.Fails) ∨
        db.missing env.uid cvl.toCbcvariCommLine = [] ∨
        2 ^ 31 ≤ 5 * (db.missing env.uid cvl.toCbcvariCommLine).length) := by
  have hempty (h : db.candidates env.uid cvl.toCbcvariCommLine = []) :
      db.missing env.uid cvl.toCbcvariCommLine = [] := by
    rw [PackageDb.missing, h, List.filter_nil]
  unfold addCbcPackage
  cases hs : cvl.valias <|> cvl.varient with
  | none =>
    refine .inr ⟨some ailsaNoData, rfl, .inr (.inl (hempty ?_))⟩
    refine List.eq_nil_iff_forall_not_mem.mpr fun r hr => ?_
    obtain ⟨_, s, _, _, _, hs', -⟩ := PackageDb.exists_of_candidates hr
    cases hs.symm.trans hs'
  | some s =>
    cases hos : cvl.os <|> cvl.osAlias with
    | none =>
      refine .inr ⟨some ailsaNoData, rfl, .inr (.inl (hempty ?_))⟩
      refine List.eq_nil_iff_forall_not_mem.mpr fun r hr => ?_
      obtain ⟨_, _, os, _, _, _, hos', -⟩ := PackageDb.exists_of_candidates hr
      cases hos.symm.trans hos'
    | some os =>
      dsimp only
      obtain hbuild | ⟨e, hbuild, he⟩ := buildPackageList_cases env db hs hos
      · rw [Prog.bind_run_ok hbuild]
        obtain hcheck | ⟨hcheck, _, hfails⟩ := checkPackageList_cases (i := 0) length_of_candidates
        · rw [Prog.bind_run_ok hcheck]
          exact insertMissing_cases known_of_missing
        · exact .inr ⟨_, Prog.bind_run_error hcheck _, .inl ⟨rfl, _, hfails⟩⟩
      · exact .inr ⟨e, Prog.bind_run_error hbuild _, he.imp_right fun h => .inl (hempty h)⟩

end Runs

/-! ## Any number of runs -/

namespace PackageDb

variable {db : PackageDb} {uid : ℕ} {cvl : CbcvariCommLine} {rs : List NewPackage}

theorem map_key_addPackages (h : ∀ r ∈ rs, db.Known r) :
    (db.addPackages rs h).packages.map PackageRow.key =
      db.packages.map PackageRow.key ++ rs.map NewPackage.key := by
  have hkey : ∀ (r : NewPackage) (id : ℕ), (r.row id).key = r.key := fun _ _ => rfl
  rw [addPackages, List.map_append, map_numberRows hkey]

theorem stored_addPackages_iff (h : ∀ r ∈ rs, db.Known r) {r : NewPackage} :
    (db.addPackages rs h).Stored r ↔ db.Stored r ∨ r.key ∈ rs.map NewPackage.key := by
  rw [Stored, map_key_addPackages, List.mem_append, Stored]

/-- Another user is asked to add the same packages. -/
theorem missing_eq_map (db : PackageDb) (uid uid' : ℕ) (cvl : CbcvariCommLine) :
    db.missing uid' cvl =
      (db.missing uid cvl).map fun r => { r with cuser := uid', muser := uid' } := by
  have hcandidates : db.candidates uid' cvl =
      (db.candidates uid cvl).map fun r => { r with cuser := uid', muser := uid' } := by
    unfold candidates
    split
    · split
      · rw [List.map_map]
        rfl
      · rfl
    · rfl
  rw [missing, hcandidates, List.filter_map]
  rfl

/-- Nothing is missing once the missing packages are added. -/
theorem missing_addPackages (uid' : ℕ) (h : ∀ r ∈ db.missing uid cvl, db.Known r) :
    (db.addPackages (db.missing uid cvl) h).missing uid' cvl = [] := by
  rw [missing_eq_map _ uid, List.map_eq_nil_iff, missing, List.filter_eq_nil_iff]
  intro r hr
  have hr : r ∈ db.candidates uid cvl := hr
  simp only [decide_eq_true_eq, not_not]
  refine (stored_addPackages_iff h).mpr ?_
  by_cases hstored : db.Stored r
  · exact .inl hstored
  · exact .inr (List.mem_map_of_mem (List.mem_filter.mpr ⟨hr, by simpa using hstored⟩))

end PackageDb

section AnyRuns

variable {env : AddEnv} {db : PackageDb} {cvl : CbcvarientLine}

/-- A run that no statement stops leaves nothing for another one with the same arguments. -/
theorem addCbcPackage_again (env' : AddEnv)
    (h : (addCbcPackage env cvl.toCbcvariCommLine db).1 ≠ .error (some ailsaStatementFail)) :
    (addCbcPackage env' cvl.toCbcvariCommLine (addCbcPackage env cvl.toCbcvariCommLine db).2).2 =
      (addCbcPackage env cvl.toCbcvariCommLine db).2 := by
  obtain ⟨-, hrun⟩ | ⟨e, hrun, he⟩ := addCbcPackage_cases env cvl db
  · rw [hrun]
    obtain ⟨-, hrun'⟩ | ⟨e, hrun', -⟩ := addCbcPackage_cases env' cvl
      (db.addPackages (db.missing env.uid cvl.toCbcvariCommLine) known_of_missing)
    · rw [hrun']
      simp only [PackageDb.missing_addPackages, PackageDb.addPackages_nil]
    · rw [hrun']
  · have he : db.missing env.uid cvl.toCbcvariCommLine = [] ∨
        2 ^ 31 ≤ 5 * (db.missing env.uid cvl.toCbcvariCommLine).length := by
      refine he.resolve_left fun h' => h ?_
      rw [hrun, h'.1]
    rw [hrun]
    obtain ⟨hlt, hrun'⟩ | ⟨e, hrun', -⟩ := addCbcPackage_cases env' cvl db
    · have hmap := db.missing_eq_map env.uid env'.uid cvl.toCbcvariCommLine
      rw [hmap, List.length_map] at hlt
      have hnil := he.resolve_right (Nat.not_le_of_lt hlt)
      rw [hnil, List.map_nil] at hmap
      rw [hrun']
      simp only [hmap, PackageDb.addPackages_nil]
    · rw [hrun']

/-- The packages a run adds are not there before, and no two of them are the same. -/
theorem exists_created (env : AddEnv) (cvl : CbcvarientLine) (db : PackageDb) :
    ∃ created, (addCbcPackage env cvl.toCbcvariCommLine db).2.packages = db.packages ++ created ∧
      (created.map PackageRow.key).Nodup ∧
      ∀ key ∈ created.map PackageRow.key, key ∉ db.packages.map PackageRow.key := by
  obtain ⟨-, hrun⟩ | ⟨e, hrun, -⟩ := addCbcPackage_cases env cvl db
  · have hkey : ∀ (r : NewPackage) (id : ℕ), (r.row id).key = r.key := fun _ _ => rfl
    rw [hrun]
    refine ⟨_, rfl, ?_, ?_⟩
    · rw [map_numberRows hkey]
      exact (db.nodup_candidates _ _).sublist (List.filter_sublist.map _)
    · rw [map_numberRows hkey]
      intro key hmem
      obtain ⟨r, hr, rfl⟩ := List.mem_map.mp hmem
      exact of_decide_eq_true (List.mem_filter.mp hr).2
  · rw [hrun]
    exact ⟨[], (List.append_nil _).symm, List.nodup_nil, nofun⟩

end AnyRuns

/-- A run of the program, with its command line. -/
structure AddRun where
  env : AddEnv
  line : CbcvarientLine

/-- One run after the other. -/
def addRuns (runs : List AddRun) (db : PackageDb) : PackageDb :=
  runs.foldl (fun db run => (addCbcPackage run.env run.line.toCbcvariCommLine db).2) db

/-- The packages that any number of runs add are not there before, and no two of them are the
same. -/
theorem addRuns_created : ∀ (runs : List AddRun) (db : PackageDb),
    ∃ created, (addRuns runs db).packages = db.packages ++ created ∧
      (created.map PackageRow.key).Nodup ∧
      ∀ key ∈ created.map PackageRow.key, key ∉ db.packages.map PackageRow.key
  | [], db => ⟨[], (List.append_nil _).symm, List.nodup_nil, nofun⟩
  | run :: runs, db => by
    obtain ⟨first, hfirst, hnodup, hnew⟩ := exists_created run.env run.line db
    obtain ⟨rest, hrest, hnodup', hnew'⟩ := addRuns_created runs
      (addCbcPackage run.env run.line.toCbcvariCommLine db).2
    rw [hfirst, List.map_append] at hnew'
    refine ⟨first ++ rest, ?_, ?_, ?_⟩
    · rw [← List.append_assoc, ← hfirst]
      exact hrest
    · rw [List.map_append]
      refine List.nodup_append.mpr ⟨hnodup, hnodup', ?_⟩
      rintro key hkey _ hkey' rfl
      exact hnew' key hkey' (List.mem_append_right _ hkey)
    · rw [List.map_append]
      intro key hkey hold
      obtain hkey | hkey := List.mem_append.mp hkey
      · exact hnew key hkey hold
      · exact hnew' key hkey (List.mem_append_left _ hold)

/-! ## Adding to a set -/

section Set

variable {env : AddEnv} {db : PackageDb}

/-- The packages that are stored are taken out of a list in memory. -/
theorem checkPackageList_keeps {A : Type} [DecidableEq A] {gs : List (PackageCells A)}
    {m : ListMem A AilsaData} (hserved : ∀ i, env.served (.packageFull i) = true)
    (hlen : ∀ g ∈ gs, g.new.package.length ≤ configLen)
    (hm : m.Holds (gs.flatMap PackageCells.cells)) (hdestroy : m.list.destroy = true) :
    ∃ m', (∀ turns, gs.length < turns →
        Mem.checkPackageList env db turns m = (.ok 0, m')) ∧
      m'.WellFormed ((gs.filter fun g => ¬db.Stored g.new).flatMap PackageCells.cells) := by
  have hnil : m.Holds ([] ++ gs.flatMap PackageCells.cells) := hm
  obtain ⟨m', hrun, hm'⟩ := checkLoop_run (i := 0) (fun i r => stored_eq db (hserved i) r)
    hnil hdestroy
  have hfilter : (gs.filter fun g => db.countOf g.new = 0) = gs.filter fun g => ¬db.Stored g.new :=
    List.filter_congr fun g hg => decide_eq_decide.mpr (countOf_eq_zero_iff (hlen g hg))
  refine ⟨m', fun turns hturns => ?_, ?_⟩
  · rw [Mem.checkPackageList, getList_bind, hm.head_eq]
    exact hrun turns hturns
  · rw [← hfilter]
    exact hm'.wellFormed

/-- What is left in memory is the list the command goes on with. -/
theorem checkPackageList_refines {A : Type} [DecidableEq A] {gs : List (PackageCells A)}
    {m : ListMem A AilsaData} (hserved : ∀ i, env.served (.packageFull i) = true)
    (hlen : ∀ g ∈ gs, g.new.package.length ≤ configLen)
    (hm : m.Holds (gs.flatMap PackageCells.cells)) (hdestroy : m.list.destroy = true) :
    ∃ m' l, (∀ turns, gs.length < turns → Mem.checkPackageList env db turns m = (.ok 0, m')) ∧
      m'.WellFormed l ∧ checkPackageList env 0 (gs.flatMap fun g => g.new.data) db =
        (.ok (l.filterMap Prod.snd), db) := by
  obtain ⟨m', hrun, hm'⟩ := checkPackageList_keeps hserved hlen hm hdestroy
  refine ⟨m', _, hrun, hm', ?_⟩
  have hdata : (gs.flatMap fun g => g.new.data) =
      (gs.map PackageCells.new).flatMap NewPackage.data := (List.flatMap_map ..).symm
  have hkept : ((gs.filter fun g => ¬db.Stored g.new).flatMap PackageCells.cells).filterMap
      Prod.snd = ((gs.map PackageCells.new).filter fun r => ¬db.Stored r).flatMap
        NewPackage.data := by
    rw [List.filter_map, List.flatMap_map, List.filterMap_flatMap]
    rfl
  rw [hdata, hkept]
  refine (checkPackageList_cases (List.forall_mem_map.mpr hlen)).resolve_right ?_
  rintro ⟨-, i, hi⟩
  rw [hserved i] at hi
  cases hi

/-- After a run that returns `0` the packages are those there were and those that are asked
for. -/
theorem stored_addCbcPackage_iff {cvl : CbcvarientLine}
    (h : (addCbcPackage env cvl.toCbcvariCommLine db).1 = .ok ()) (r : NewPackage) :
    (addCbcPackage env cvl.toCbcvariCommLine db).2.Stored r ↔
      db.Stored r ∨ r.key ∈ (db.candidates env.uid cvl.toCbcvariCommLine).map NewPackage.key := by
  obtain ⟨-, hrun⟩ | ⟨e, hrun, -⟩ := addCbcPackage_cases env cvl db
  · rw [hrun, PackageDb.stored_addPackages_iff]
    refine or_congr_right' fun hr => ?_
    have hsub : db.missing env.uid cvl.toCbcvariCommLine ⊆
      db.candidates env.uid cvl.toCbcvariCommLine := fun _ => List.mem_of_mem_filter
    refine ⟨fun hmem => List.map_subset _ hsub hmem, fun hmem => ?_⟩
    obtain ⟨r', hr', hkey⟩ := List.mem_map.mp hmem
    have hnew : ¬db.Stored r' := by
      rw [PackageDb.Stored, hkey]
      exact hr
    exact List.mem_map.mpr ⟨r', List.mem_filter.mpr ⟨hr', decide_eq_true hnew⟩, hkey⟩
  · rw [hrun] at h
    cases h

end Set

/-- Packages are added as to a set. `check_package_list` leaves the packages of the list that are
not stored, in order; after a run the packages are those there were and those that are asked for;
another run with the same arguments adds nothing; and any number of runs add no package twice. -/
theorem addCbcPackage_union {A : Type} [DecidableEq A] :
    (∀ (env : AddEnv) (db : PackageDb) (gs : List (PackageCells A)) (m : ListMem A AilsaData),
      (∀ i, env.served (.packageFull i) = true) →
      (∀ g ∈ gs, g.new.package.length ≤ configLen) → m.Holds (gs.flatMap PackageCells.cells) →
      m.list.destroy = true →
      ∃ m', (∀ turns, gs.length < turns → Mem.checkPackageList env db turns m = (.ok 0, m')) ∧
        m'.WellFormed ((gs.filter fun g => ¬db.Stored g.new).flatMap PackageCells.cells)) ∧
    (∀ (env : AddEnv) (cvl : CbcvarientLine) (db : PackageDb),
      (addCbcPackage env cvl.toCbcvariCommLine db).1 = .ok () →
      ∀ r, (addCbcPackage env cvl.toCbcvariCommLine db).2.Stored r ↔ db.Stored r ∨
        r.key ∈ (db.candidates env.uid cvl.toCbcvariCommLine).map NewPackage.key) ∧
    (∀ (env env' : AddEnv) (cvl : CbcvarientLine) (db : PackageDb),
      (addCbcPackage env cvl.toCbcvariCommLine db).1 ≠ .error (some ailsaStatementFail) →
      (addCbcPackage env' cvl.toCbcvariCommLine
        (addCbcPackage env cvl.toCbcvariCommLine db).2).2 =
          (addCbcPackage env cvl.toCbcvariCommLine db).2) ∧
    ∀ (runs : List AddRun) (db : PackageDb), ∃ created,
      (addRuns runs db).packages = db.packages ++ created ∧
      (created.map PackageRow.key).Nodup :=
  ⟨fun _ _ _ _ hserved hlen hm hdestroy => checkPackageList_keeps hserved hlen hm hdestroy,
    fun _ _ _ h r => stored_addCbcPackage_iff h r, fun _ env' _ _ h => addCbcPackage_again env' h,
    fun runs db =>
      let ⟨created, hcreated, hnodup, _⟩ := addRuns_created runs db
      ⟨created, hcreated, hnodup⟩⟩

/-- The packages `vim` and `emacs` for the first OS, one behind the other. -/
def twoPackages : List (PackageCells ℕ) :=
  [⟨1, 2, 3, 4, 5, ⟨"vim".toList, 1, 1, 0, 0⟩⟩, ⟨6, 7, 8, 9, 10, ⟨"emacs".toList, 1, 1, 0, 0⟩⟩]

def packageSample : ListMem ℕ AilsaData where
  heap
    | 1 => some ⟨none, some 2, some (.text "vim".toList)⟩
    | 2 => some ⟨some 1, some 3, some (.number 1)⟩
    | 3 => some ⟨some 2, some 4, some (.number 1)⟩
    | 4 => some ⟨some 3, some 5, some (.number 0)⟩
    | 5 => some ⟨some 4, some 6, some (.number 0)⟩
    | 6 => some ⟨some 5, some 7, some (.text "emacs".toList)⟩
    | 7 => some ⟨some 6, some 8, some (.number 1)⟩
    | 8 => some ⟨some 7, some 9, some (.number 1)⟩
    | 9 => some ⟨some 8, some 10, some (.number 0)⟩
    | 10 => some ⟨some 9, none, some (.number 0)⟩
    | _ => none
  list := ⟨10, some 1, some 10, true⟩
  destroyed := []

/-- Every statement is run. -/
def allServed : AddEnv := ⟨fun _ => true, 0⟩

/-- `cbcvarient -a -g -p emacs -n debian -x base` -/
def addEmacs : List CbcvarientOption :=
  [.add, .package, .packageName "emacs".toList, .osName "debian".toList,
    .varientName "base".toList]

def addEmacsLine : CbcvariCommLine :=
  ⟨.add, .package, some "base".toList, none, none, some "debian".toList, none, none, none, none,
    some "emacs".toList⟩

theorem parse_addEmacs : parseCbcvarientCommLine addEmacs = .ok addEmacsLine := rfl

/-- `vim` is taken out of the list, and a second run adds nothing. -/
theorem addCbcPackage_union_emacs :
    (∃ m', (∀ turns, 2 < turns →
        Mem.checkPackageList allServed twoArchs turns packageSample = (.ok 0, m')) ∧
      m'.WellFormed [(6, some (.text "emacs".toList)), (7, some (.number 1)),
        (8, some (.number 1)), (9, some (.number 0)), (10, some (.number 0))]) ∧
    (addCbcPackage allServed addEmacsLine (addCbcPackage allServed addEmacsLine twoArchs).2).2 =
      (addCbcPackage allServed addEmacsLine twoArchs).2 := by
  have hm : packageSample.Holds (twoPackages.flatMap PackageCells.cells) :=
    ⟨by decide, ⟨rfl, rfl, rfl, rfl, rfl, rfl, rfl, rfl, rfl, rfl, trivial⟩, rfl, rfl, rfl⟩
  have hkept : (twoPackages.filter fun g => ¬twoArchs.Stored g.new).flatMap PackageCells.cells =
      [(6, some (.text "emacs".toList)), (7, some (.number 1)), (8, some (.number 1)),
        (9, some (.number 0)), (10, some (.number 0))] := by decide +kernel
  have htwo : (twoArchs.missing allServed.uid addEmacsLine).length = 2 := by decide +kernel
  have hrun : (addCbcPackage allServed addEmacsLine twoArchs).1 ≠
      .error (some ailsaStatementFail) := by
    obtain ⟨-, hrun⟩ | ⟨e, -, ⟨-, _, hfails⟩ | hnil | hle⟩ := addCbcPackage_cases allServed
      ⟨addEmacsLine, copied_of_parse parse_addEmacs⟩ twoArchs
    · rw [hrun]
      nofun
    · cases hfails
    · cases htwo.symm.trans (congrArg List.length hnil)
    · have hle : 2 ^ 31 ≤ 5 * (twoArchs.missing allServed.uid addEmacsLine).length := hle
      omega
  obtain ⟨hcheck, -, hagain, -⟩ := addCbcPackage_union (A := ℕ)
  have h := hcheck allServed twoArchs twoPackages packageSample (fun _ => rfl) (by decide) hm rfl
  rw [hkept] at h
  exact ⟨h, hagain allServed allServed ⟨addEmacsLine, copied_of_parse parse_addEmacs⟩ twoArchs hrun⟩

end Cmdb
