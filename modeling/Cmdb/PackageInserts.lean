import Cmdb.OsPackages
import Cmdb.AilList

/-!
# Inserting packages

`INSERT_BUILD_PACKAGE` runs on a list of five elements a package. `insertPackages_eq` says that
the packages of such a list become the last rows of the table, in order, as long as the number of
elements is an `int`; from there on nothing is inserted (`insertPackages_of_le`).
-/

namespace Cmdb

open CString Except

/-! ## Packages on a list -/

/-- What is inserted into `packages`. -/
structure NewPackage where
  package : CStr
  varientId : ℕ
  osId : ℕ
  cuser : ℕ
  muser : ℕ
deriving DecidableEq, Repr

/-- The package, its varient and its OS. -/
abbrev PackageKey := CStr × ℕ × ℕ

def PackageRow.key (p : PackageRow) : PackageKey := (p.package, p.varientId, p.osId)

namespace NewPackage

variable (r : NewPackage)

def key : PackageKey := (r.package, r.varientId, r.osId)

/-- The elements of a list. -/
def data : List AilsaData :=
  [.text r.package, .number r.varientId, .number r.osId, .number r.cuser, .number r.muser]

def row (id : ℕ) : PackageRow := ⟨id, r.package, r.varientId, r.osId, r.cuser, r.muser⟩

end NewPackage

/-- A package on a list in memory, its elements at five addresses. -/
structure PackageCells (A : Type) where
  package : A
  varientId : A
  osId : A
  cuser : A
  muser : A
  new : NewPackage

def PackageCells.cells {A : Type} (g : PackageCells A) : List (A × Option AilsaData) :=
  [(g.package, some (.text g.new.package)), (g.varientId, some (.number g.new.varientId)),
    (g.osId, some (.number g.new.osId)), (g.cuser, some (.number g.new.cuser)),
    (g.muser, some (.number g.new.muser))]

/-- The rows with their ids, from `id` on. -/
def numberRows : ℕ → List NewPackage → List PackageRow
  | _, [] => []
  | id, r :: rs => r.row id :: numberRows (id + 1) rs

theorem map_id_numberRows : ∀ (id : ℕ) (rs : List NewPackage),
    (numberRows id rs).map PackageRow.id = List.range' id rs.length
  | _, [] => rfl
  | id, _ :: rs => congrArg (id :: ·) (map_id_numberRows (id + 1) rs)

/-- A column of the rows that is not their id. -/
theorem map_numberRows {α : Type} {f : PackageRow → α} {g : NewPackage → α}
    (h : ∀ r id, f (r.row id) = g r) : ∀ (id : ℕ) (rs : List NewPackage),
    (numberRows id rs).map f = rs.map g
  | _, [] => rfl
  | id, r :: rs => congrArg₂ _ (h r id) (map_numberRows h (id + 1) rs)

theorem exists_of_mem_numberRows : ∀ {id : ℕ} {rs : List NewPackage} {p : PackageRow},
    p ∈ numberRows id rs → ∃ r ∈ rs, ∃ i, p = r.row i
  | id, r :: rs, p, hp => by
    obtain rfl | hp := List.mem_cons.mp hp
    · exact ⟨r, List.mem_cons_self .., id, rfl⟩
    · obtain ⟨r', hr', i, rfl⟩ := exists_of_mem_numberRows hp
      exact ⟨r', List.mem_cons_of_mem _ hr', i, rfl⟩

namespace PackageDb

variable (db : PackageDb)

/-- The varient and the OS of the package are there. -/
def Known (r : NewPackage) : Prop :=
  (∃ v ∈ db.varients, v.id = r.varientId) ∧ ∃ o ∈ db.buildOs, o.id = r.osId

instance (r : NewPackage) : Decidable (db.Known r) := inferInstanceAs (Decidable (_ ∧ _))

/-- The package is there, for the varient and the OS. -/
def Stored (r : NewPackage) : Prop := r.key ∈ db.packages.map PackageRow.key

instance (r : NewPackage) : Decidable (db.Stored r) := inferInstanceAs (Decidable (_ ∈ _))

theorem nodup_append_numberRows (rs : List NewPackage) :
    ((db.packages ++ numberRows (nextId (db.packages.map PackageRow.id)) rs).map
      PackageRow.id).Nodup := by
  rw [List.map_append, map_id_numberRows]
  refine List.nodup_append.mpr ⟨db.packIds, List.nodup_range', fun i hi j hj hij => ?_⟩
  have hlt := lt_nextId hi
  have hle := (List.mem_range'_1.mp hj).1
  omega

/-- The packages are appended, each with the next id. -/
def addPackages (rs : List NewPackage) (h : ∀ r ∈ rs, db.Known r) : PackageDb :=
  { db with
    packages := db.packages ++ numberRows (nextId (db.packages.map PackageRow.id)) rs
    packIds := db.nodup_append_numberRows rs
    osKnown := fun p hp => (List.mem_append.mp hp).elim (db.osKnown p) fun hp => by
      obtain ⟨r, hr, i, rfl⟩ := exists_of_mem_numberRows hp
      exact (h r hr).2
    varientKnown := fun p hp => (List.mem_append.mp hp).elim (db.varientKnown p) fun hp => by
      obtain ⟨r, hr, i, rfl⟩ := exists_of_mem_numberRows hp
      exact (h r hr).1 }

theorem addPackages_nil (h : ∀ r ∈ ([] : List NewPackage), db.Known r) :
    db.addPackages [] h = db := by
  cases db
  simp [addPackages, numberRows]

end PackageDb

/-! ## The statement -/

/-- `INSERT_BUILD_PACKAGE` -/
def insertBuildPackage : AilsaSqlQuery where
  query := ("INSERT INTO packages (package, varient_id, os_id, cuser, muser) " ++
    "VALUES (?, ?, ?, ?, ?)").toList
  number := 5
  fields := [.text, .lint, .lint, .lint, .lint]

/-- `ailsa_multiple_query` before the statement is run : what is bound to the placeholders, group
after group. -/
def boundGroups (q : AilsaSqlQuery) (insert : List AilsaData) :
    Except (Option ℤ) (List (List BindCall)) :=
  match Mem.cmdbCreateMulti q insert.length with
  | none => .error none
  | some (.error e) => .error (some e)
  | some (.ok sql) => do
    let calls ← bindCalls sql.fields 0 sql.total insert
    return splitParams (q.query :: List.replicate (insert.length / q.number - 1)
      (rowGroup q.number)) calls

/-- The row of a group, which has no `NULL`. -/
def newPackage : List BindCall → Option NewPackage
  | [⟨_, _, .text package⟩, ⟨_, _, .number varientId⟩, ⟨_, _, .number osId⟩,
      ⟨_, _, .number cuser⟩, ⟨_, _, .number muser⟩] =>
    some ⟨package, varientId, osId, cuser, muser⟩
  | _ => none

/-- `ailsa_multiple_query` of `INSERT_BUILD_PACKAGE` : all rows are inserted, or none. -/
def PackageDb.insertPackages (insert : List AilsaData) : PackageProg Unit := fun db =>
  match boundGroups insertBuildPackage insert with
  | .error e => (.error e, db)
  | .ok groups =>
    match groups.mapM newPackage with
    | none => (.error (some ailsaStatementFail), db)
    | some rs =>
      if h : ∀ r ∈ rs, db.Known r then (.ok (), db.addPackages rs h)
      else (.error (some ailsaStatementFail), db)

/-! ## Calls to the database -/

/-- Which calls of a program the database serves, and the user. -/
structure CallEnv (C : Type) where
  served : C → Bool
  uid : ℕ

namespace CallEnv

variable {C α β : Type} (env : CallEnv C)

/-- A statement fails. -/
def Fails : Prop := ∃ call, env.served call = false

def query (call : C) (g : PackageDb → Except (Option ℤ) α) : PackageProg α :=
  Prog.reads fun db => if env.served call then g db else .error (some ailsaStatementFail)

variable {env} {db : PackageDb} {call : C} {g : PackageDb → Except (Option ℤ) α}
  {f : α → PackageProg β}

theorem query_bind_ok (hcall : env.served call = true) {a : α} (ha : g db = .ok a) :
    (env.query call g >>= f) db = f a db := by
  refine Prog.bind_run_ok ?_ f
  rw [query, Prog.reads_run, if_pos hcall, ha]

theorem query_bind_error (hcall : env.served call = true) {e : Option ℤ}
    (he : g db = .error e) : (env.query call g >>= f) db = (.error e, db) := by
  refine Prog.bind_run_error ?_ f
  rw [query, Prog.reads_run, if_pos hcall, he]

theorem query_bind_fail (hcall : env.served call = false) :
    (env.query call g >>= f) db = (.error (some ailsaStatementFail), db) := by
  refine Prog.bind_run_error ?_ f
  rw [query, Prog.reads_run, hcall]
  rfl

end CallEnv

/-! ## What is inserted -/

variable {rs : List NewPackage}

theorem length_flatMap_data : ∀ rs : List NewPackage,
    (rs.flatMap NewPackage.data).length = 5 * rs.length
  | [] => rfl
  | r :: rs => by
    rw [List.flatMap_cons, List.length_append, length_flatMap_data rs, List.length_cons,
      Nat.mul_succ, Nat.add_comm]
    rfl

/-- The elements of the `j`-th package. -/
theorem dataRow_flatMap_data : ∀ (rs : List NewPackage) (j : ℕ),
    dataRow 5 (rs.flatMap NewPackage.data) j = rs[j]?.elim [] NewPackage.data
  | [], j => by
    rw [dataRow, List.flatMap_nil, List.drop_nil, List.take_nil]
    rfl
  | r :: rs, 0 => rfl
  | r :: rs, j + 1 => by
    have hdrop : ((r :: rs).flatMap NewPackage.data).drop (5 * (j + 1)) =
        (rs.flatMap NewPackage.data).drop (5 * j) := by
      rw [Nat.mul_succ, Nat.add_comm, ← List.drop_drop]
      rfl
    rw [List.getElem?_cons_succ, ← dataRow_flatMap_data rs j, dataRow, hdrop, dataRow]

theorem bindCalls_data (r : NewPackage) :
    bindCalls insertBuildPackage.fields 0 5 r.data = .ok (dataCalls 0 r.data) := by
  have h : bindCalls insertBuildPackage.fields 0 r.data.length (r.data ++ []) =
      .ok (dataCalls 0 r.data) :=
    bindCalls_eq_dataCalls rfl (show 0 + 5 < 2 ^ 31 by decide)
  rw [List.append_nil] at h
  exact h

theorem singleInserts_data (rs : List NewPackage) :
    singleInserts insertBuildPackage (rs.flatMap NewPackage.data) rs.length =
      .ok (rs.map fun r => dataCalls 0 r.data) := by
  refine mapM_eq_ok_iff.mpr (List.forall₂_iff_get.mpr ⟨?_, fun j hj hj' => ?_⟩)
  · rw [List.length_range, List.length_map]
  · have hlt : j < rs.length := by rwa [List.length_range] at hj
    rw [List.get_eq_getElem, List.get_eq_getElem, List.getElem_range, List.getElem_map]
    have hrow := dataRow_flatMap_data rs j
    rw [List.getElem?_eq_getElem hlt] at hrow
    exact (congrArg (bindCalls insertBuildPackage.fields 0 5) hrow).trans (bindCalls_data rs[j])

theorem newPackage_shift (d : ℕ) (calls : List BindCall) :
    newPackage (calls.map (BindCall.shift d)) = newPackage calls := by
  rcases calls with _ | ⟨⟨_, _, _ | _⟩, _ | ⟨⟨_, _, _ | _⟩, _ | ⟨⟨_, _, _ | _⟩,
    _ | ⟨⟨_, _, _ | _⟩, _ | ⟨⟨_, _, _ | _⟩, _ | ⟨_, _⟩⟩⟩⟩⟩⟩ <;> rfl

theorem length_of_newPackage {calls : List BindCall} {r : NewPackage}
    (h : newPackage calls = some r) : calls.length = 5 := by
  unfold newPackage at h
  split at h
  · rfl
  · cases h

/-- The groups are the packages wherever they stand. -/
theorem mapM_newPackage_groupRows (rs : List NewPackage) :
    (groupRows 5 (rs.map fun r => dataCalls 0 r.data)).mapM newPackage = some rs := by
  rw [groupRows, List.mapIdx_eq_zipIdx_map, List.mapM_map]
  have hshift : (newPackage ∘ fun x : List BindCall × ℕ => x.1.map (BindCall.shift (5 * x.2))) =
      newPackage ∘ Prod.fst := funext fun x => newPackage_shift (5 * x.2) x.1
  have hdata : (newPackage ∘ fun r : NewPackage => dataCalls 0 r.data) = fun r => pure r := rfl
  rw [hshift, ← List.mapM_map, List.zipIdx_map_fst, List.mapM_map, hdata, List.mapM_pure,
    List.map_id']
  rfl

/-- What is bound for the packages, as long as there are not too many. -/
theorem boundGroups_eq (hrs : rs ≠ []) (hlt : 5 * rs.length < 2 ^ 31) :
    boundGroups insertBuildPackage (rs.flatMap NewPackage.data) =
      .ok (groupRows 5 (rs.map fun r => dataCalls 0 r.data)) := by
  have hpos : 0 < rs.length := List.length_pos_iff.mpr hrs
  have hdata : (rs.flatMap NewPackage.data).length = insertBuildPackage.number * rs.length :=
    length_flatMap_data rs
  obtain ⟨sql, hsql, h⟩ := exists_insertsRows (by decide) hpos hdata (by decide +kernel)
    (singleInserts_data rs) (hdata ▸ hlt)
  obtain ⟨calls, hcalls, hsplit⟩ := h.bound
  have hk : (rs.flatMap NewPackage.data).length / insertBuildPackage.number = rs.length := by
    rw [hdata, Nat.mul_div_cancel_left _ (by decide)]
  rw [boundGroups, hsql]
  dsimp only
  rw [hcalls, hk]
  exact congrArg Except.ok hsplit

/-- The packages of the list become the last rows of the table. -/
theorem insertPackages_eq {db : PackageDb} (hrs : rs ≠ []) (hlt : 5 * rs.length < 2 ^ 31)
    (hknown : ∀ r ∈ rs, db.Known r) :
    PackageDb.insertPackages (rs.flatMap NewPackage.data) db =
      (.ok (), db.addPackages rs hknown) := by
  rw [PackageDb.insertPackages, boundGroups_eq hrs hlt]
  dsimp only
  rw [mapM_newPackage_groupRows]
  exact dif_pos hknown

theorem length_splitParams {α : Type} : ∀ (parts : List CStr) (params : List α),
    (splitParams parts params).length = parts.length
  | [], _ => rfl
  | _ :: parts, _ => congrArg (· + 1) (length_splitParams parts _)

theorem mapM_eq_none {α β : Type} {f : α → Option β} : ∀ {l : List α},
    (∃ a ∈ l, f a = none) → l.mapM f = none
  | [], ⟨a, ha, _⟩ => nomatch ha
  | b :: l, ⟨a, ha, hf⟩ => by
    rw [List.mapM_cons]
    obtain rfl | ha := List.mem_cons.mp ha
    · rw [hf]
      rfl
    · rw [mapM_eq_none ⟨a, ha, hf⟩]
      cases f b <;> rfl

/-- The placeholders of full groups have `int` positions. -/
theorem lt_of_boundGroups {q : AilsaSqlQuery} {insert : List AilsaData} {k : ℕ}
    {groups : List (List BindCall)} (hn : 0 < q.number) (hk : 0 < k)
    (hinsert : insert.length = q.number * k) (h : boundGroups q insert = .ok groups)
    (hfull : ∀ group ∈ groups, group.length = q.number) : insert.length < 2 ^ 31 := by
  have hle : q.number ≤ insert.length := hinsert ▸ Nat.le_mul_of_pos_right _ hk
  rw [boundGroups, Mem.cmdbCreateMulti_eq hn hle] at h
  obtain ⟨calls, hcalls, h⟩ := bind_eq_ok.mp h
  obtain ⟨hcount, hint⟩ := bindCalls_ok hcalls
  obtain rfl := Except.ok.inj h
  have hall := length_flatten_splitParams_le (q.query ::
    List.replicate (insert.length / q.number - 1) (rowGroup q.number)) calls
  have hdiv : insert.length / q.number = k := by rw [hinsert, Nat.mul_div_cancel_left _ hn]
  rw [length_flatten_of_forall hfull, length_splitParams, List.length_cons, List.length_replicate,
    hdiv, Nat.sub_add_cancel hk, ← hinsert, hcount] at hall
  have hmod := Nat.mod_le insert.length (2 ^ 32)
  have := hint (by omega)
  omega

/-- Of too many packages none is inserted. -/
theorem insertPackages_of_le (db : PackageDb) (hle : 2 ^ 31 ≤ 5 * rs.length) :
    ∃ e, PackageDb.insertPackages (rs.flatMap NewPackage.data) db = (.error e, db) := by
  rw [PackageDb.insertPackages]
  have hdata : (rs.flatMap NewPackage.data).length = insertBuildPackage.number * rs.length :=
    length_flatMap_data rs
  cases hgroups : boundGroups insertBuildPackage (rs.flatMap NewPackage.data) with
  | error e => exact ⟨e, rfl⟩
  | ok groups =>
    have hnone : groups.mapM newPackage = none := by
      refine mapM_eq_none ?_
      by_contra! hfull
      have hlt := lt_of_boundGroups (by decide) (by omega) hdata hgroups fun group hgroup =>
        length_of_newPackage (Option.ne_none_iff_exists'.mp (hfull group hgroup)).choose_spec
      rw [length_flatMap_data] at hlt
      omega
    dsimp only
    rw [hnone]
    exact ⟨_, rfl⟩

end Cmdb
