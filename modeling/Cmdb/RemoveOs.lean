import Cmdb.BuildOutcome

/-!
# The removal of a build OS

`remove_cbc_build_os` looks up the rows a request matches, asks whether servers are built
with the first of them, and deletes all of them. The builds of a deleted row go with it.
`removeCbcBuildOs_kept_iff` says when no row in use is deleted.
-/

namespace Cmdb

open CString

variable {env : CbcEnv} {w : CbcWorld} {db : BuildDb}

/-- The command line of `cbcos` (`cbcos_comm_line_s`), as far as a removal reads it. -/
structure CbcosCommLine where
  os : Option CStr
  osAlias : Option CStr
  version : Option CStr
  verAlias : Option CStr
  arch : Option CStr
  force : ℕ
deriving DecidableEq, Repr

namespace BuildDb

variable (db : BuildDb)

/-- `SERVERS_WITH_BUILDS_ON_OS_ID`. -/
def serversOnOsId (id : ℕ) : List CStr :=
  db.servers.flatMap fun s => (db.builds.filter (·.serverId = s.id)).flatMap fun b =>
    (db.buildOs.filter fun o => o.id = b.osId ∧ o.id = id).map fun _ => s.name

/-- `DELETE_BUILD_OS` on several ids, with the builds and the default that refer to them. -/
def deleteBuildOs (ids : List ℕ) : BuildDb :=
  { db with
    buildOs := db.buildOs.filter (·.id ∉ ids)
    builds := db.builds.filter (·.osId ∉ ids)
    defaultOs := db.defaultOs.filter (· ∉ ids) }

end BuildDb

/-- `get_cbcos_id_list` : the ids of the rows with that name or alias and version or version
alias, of any architecture if none is given. -/
def getCbcosIdList (env : CbcEnv) (cl : CbcosCommLine) : CbcProg (List ℕ) := do
  let os ← cbcRet ((cl.os <|> cl.osAlias).elim (.error .noOs) .ok)
  let version ← cbcRet ((cl.version <|> cl.verAlias).elim (.error .noOsVersion) .ok)
  let list ← cmdbAddOsId env (some os) (some version) cl.arch
  Prog.require (list.length ≠ 0) .osNotFound
  return list

/-- `check_builds_for_os_id` : the servers with a build on that OS. -/
def checkBuildsForOsId (env : CbcEnv) (id : ℕ) : CbcProg (List CStr) := do
  Prog.require (id ≠ 0) .noData
  cbcQuery env .serversWithBuildsOnOsId 0 fun db => db.serversOnOsId id

/-- `remove_cbc_build_os`. -/
def removeCbcBuildOs (env : CbcEnv) (col : CbcosCommLine) : CbcProg Unit := do
  let list ← getCbcosIdList env col
  match list with
  | [] => Prog.fail .nullDeref
  | id :: _ =>
    let build ← checkBuildsForOsId env id
    if 0 < build.length ∧ col.force = 0 then Prog.fail .buildOsInUse
    else cbcStatement env .deleteBuildOs 0 fun db => db.deleteBuildOs list

/-! ## What is deleted -/

/-- The request matches these rows, and gets to deleting them. -/
structure RemovesOs (env : CbcEnv) (col : CbcosCommLine) (db : BuildDb) (ids : List ℕ) : Prop where
  found : ∃ os version q g, (col.os <|> col.osAlias) = some os ∧
    (col.version <|> col.verAlias) = some version ∧
    osLookup (some os) (some version) col.arch = some (q, g) ∧ env.sql q 0 = true ∧ g db = ids
  check : ∃ id rest, ids = id :: rest ∧ id ≠ 0 ∧ env.sql .serversWithBuildsOnOsId 0 = true ∧
    (db.serversOnOsId id = [] ∨ col.force ≠ 0)
  delete : env.sql .deleteBuildOs 0 = true

theorem readOnly_getCbcosIdList (env : CbcEnv) (cl : CbcosCommLine) :
    Prog.ReadOnly (getCbcosIdList env cl) :=
  (readOnly_cbcRet _).bind fun _ => (readOnly_cbcRet _).bind fun _ =>
    (readOnly_cbcLookup _ _).bind fun _ => (Prog.ReadOnly.require _ _).bind fun _ =>
      Prog.ReadOnly.pure _

theorem readOnly_checkBuildsForOsId (env : CbcEnv) (id : ℕ) :
    Prog.ReadOnly (checkBuildsForOsId env id) :=
  (Prog.ReadOnly.require _ _).bind fun _ => readOnly_cbcQuery _ _ _ _

theorem cbcLookup_ok_iff {l : Lookup} {ids : List ℕ} : (cbcLookup env l w).1 = .ok ids ↔
    ∃ q g, l = some (q, g) ∧ env.sql q 0 = true ∧ g w.build = ids := by
  rcases l with _ | ⟨q, g⟩
  · exact iff_of_false nofun nofun
  · rw [cbcLookup, cbcQuery_run]
    constructor
    · intro h
      split_ifs at h with hq
      exact ⟨q, g, rfl, hq, Except.ok.inj h⟩
    · rintro ⟨_, _, h, hq, rfl⟩
      cases h
      rw [if_pos hq]

theorem getCbcosIdList_ok_iff {cl : CbcosCommLine} {ids : List ℕ} :
    (getCbcosIdList env cl w).1 = .ok ids ↔ ids ≠ [] ∧ ∃ os version q g,
      (cl.os <|> cl.osAlias) = some os ∧ (cl.version <|> cl.verAlias) = some version ∧
      osLookup (some os) (some version) cl.arch = some (q, g) ∧ env.sql q 0 = true ∧
      g w.build = ids := by
  rw [getCbcosIdList]
  constructor
  · intro h
    obtain ⟨os, hos, h⟩ := (readOnly_cbcRet _).bind_ok h
    obtain ⟨version, hversion, h⟩ := (readOnly_cbcRet _).bind_ok h
    obtain ⟨list, hlist, h⟩ := (readOnly_cbcLookup _ _).bind_ok h
    obtain ⟨_, hne, h⟩ := (Prog.ReadOnly.require _ _).bind_ok h
    obtain ⟨q, g, hl, hq, hg⟩ := cbcLookup_ok_iff.mp hlist
    obtain rfl := Except.ok.inj h
    have hlen := of_decide_eq_true (Prog.require_ok hne)
    rcases hos' : (cl.os <|> cl.osAlias) with _ | os'
    · rw [hos'] at hos
      cases hos
    rcases hver' : (cl.version <|> cl.verAlias) with _ | version'
    · rw [hver'] at hversion
      cases hversion
    rw [hos'] at hos
    rw [hver'] at hversion
    cases hos
    cases hversion
    exact ⟨List.length_eq_zero_iff.not.mp hlen, os, version, q, g, rfl, rfl, hl, hq, hg⟩
  · rintro ⟨hne, os, version, q, g, hos, hversion, hl, hq, hg⟩
    rw [hos, hversion, Option.elim_some, (readOnly_cbcRet _).bind_run_of_ok rfl,
      Option.elim_some, (readOnly_cbcRet _).bind_run_of_ok rfl, cmdbAddOsId,
      (readOnly_cbcLookup _ _).bind_run_of_ok (cbcLookup_ok_iff.mpr ⟨q, g, hl, hq, hg⟩),
      decide_eq_true (List.length_eq_zero_iff.not.mpr hne), Prog.require_true]
    rfl

theorem checkBuildsForOsId_ok_iff {id : ℕ} {build : List CStr} :
    (checkBuildsForOsId env id w).1 = .ok build ↔
      id ≠ 0 ∧ env.sql .serversWithBuildsOnOsId 0 = true ∧ w.build.serversOnOsId id = build := by
  rw [checkBuildsForOsId]
  constructor
  · intro h
    obtain ⟨_, hid, h⟩ := (Prog.ReadOnly.require _ _).bind_ok h
    obtain ⟨hq, rfl⟩ := cbcQuery_ok h
    exact ⟨of_decide_eq_true (Prog.require_ok hid), hq, rfl⟩
  · rintro ⟨hid, hq, rfl⟩
    rw [decide_eq_true hid, Prog.require_true, Prog.pure_bind_run, cbcQuery_run, if_pos hq]

/-- Rows that are removed are all the request matches. -/
theorem RemovesOs.run {col : CbcosCommLine} {ids : List ℕ} (h : RemovesOs env col w.build ids) :
    removeCbcBuildOs env col w = (.ok (), { w with build := w.build.deleteBuildOs ids }) := by
  obtain ⟨id, rest, rfl, hid, hq, huse⟩ := h.check
  have hlist : (getCbcosIdList env col w).1 = .ok (id :: rest) :=
    getCbcosIdList_ok_iff.mpr ⟨List.cons_ne_nil _ _, h.found⟩
  have hunused : ¬(0 < (w.build.serversOnOsId id).length ∧ col.force = 0) := by
    rintro ⟨hlen, hforce⟩
    rcases huse with hnone | hforce'
    · rw [hnone] at hlen
      exact absurd hlen (by decide)
    · exact hforce' hforce
  rw [removeCbcBuildOs, (readOnly_getCbcosIdList _ _).bind_run_of_ok hlist]
  dsimp only
  rw [(readOnly_checkBuildsForOsId _ _).bind_run_of_ok
      (checkBuildsForOsId_ok_iff.mpr ⟨hid, hq, rfl⟩), if_neg hunused, cbcStatement_run,
    if_pos h.delete]

/-- A matching id is that of a row. -/
theorem RemovesOs.exists_row {col : CbcosCommLine} {ids : List ℕ} (h : RemovesOs env col db ids)
    {id : ℕ} (hid : id ∈ ids) : ∃ o ∈ db.buildOs, o.id = id := by
  obtain ⟨os, version, q, g, -, -, hl, -, rfl⟩ := h.found
  rcases harch : col.arch with _ | arch
  · rw [harch] at hl
    cases hl
    obtain ⟨o, ho, rfl⟩ := List.mem_map.mp hid
    exact ⟨o, List.mem_of_mem_filter ho, rfl⟩
  · rw [harch] at hl
    cases hl
    obtain ⟨o, ho, rfl⟩ := List.mem_map.mp hid
    exact ⟨o, List.mem_of_mem_filter ho, rfl⟩

theorem exists_removesOs {col : CbcosCommLine} {u : Unit}
    (h : (removeCbcBuildOs env col w).1 = .ok u) : ∃ ids, RemovesOs env col w.build ids := by
  obtain ⟨ids, hids, h⟩ := (readOnly_getCbcosIdList _ _).bind_ok h
  obtain ⟨hne, hfound⟩ := getCbcosIdList_ok_iff.mp hids
  rcases ids with _ | ⟨id, rest⟩
  · exact absurd rfl hne
  obtain ⟨build, hbuild, h⟩ := (readOnly_checkBuildsForOsId _ _).bind_ok h
  obtain ⟨hid, hq, rfl⟩ := checkBuildsForOsId_ok_iff.mp hbuild
  rw [Prog.ite_run] at h
  split_ifs at h with huse
  · cases h
  rw [cbcStatement_run] at h
  split_ifs at h with hdelete
  refine ⟨id :: rest, hfound, ⟨id, rest, rfl, hid, hq, ?_⟩, hdelete⟩
  rw [not_and_or, not_lt, Nat.le_zero, List.length_eq_zero_iff] at huse
  exact huse

theorem failsUnchanged_removeCbcBuildOs (env : CbcEnv) (col : CbcosCommLine) :
    Prog.FailsUnchanged (removeCbcBuildOs env col) := by
  refine (readOnly_getCbcosIdList _ _).bind_failsUnchanged fun list => ?_
  split
  · exact (Prog.ReadOnly.fail _).failsUnchanged
  refine (readOnly_checkBuildsForOsId _ _).bind_failsUnchanged fun build => ?_
  split_ifs
  · exact (Prog.ReadOnly.fail _).failsUnchanged
  · exact failsUnchanged_cbcStatement _ _ _ _

/-! ## What is kept -/

/-- No row a build refers to is deleted, and a removal that fails leaves everything. -/
def OsKept (w : CbcWorld) (r : Except AilsaError Unit × CbcWorld) : Prop :=
  (∀ o ∈ w.build.buildOs, o ∉ r.2.build.buildOs → ∀ b ∈ w.build.builds, b.osId ≠ o.id) ∧
    ∀ e, r.1 = .error e → r.2 = w

/-- A removal keeps the rows in use iff, where it gets to deleting, no build refers to a row
the request matches. -/
theorem removeCbcBuildOs_kept_iff (env : CbcEnv) (col : CbcosCommLine) (w : CbcWorld) :
    OsKept w (removeCbcBuildOs env col w) ↔
      ∀ ids, RemovesOs env col w.build ids → ∀ b ∈ w.build.builds, b.osId ∉ ids := by
  constructor
  · rintro ⟨hkept, -⟩ ids h b hb hmem
    obtain ⟨o, ho, hid⟩ := h.exists_row hmem
    refine hkept o ho (fun hleft => ?_) b hb hid.symm
    rw [h.run] at hleft
    exact of_decide_eq_true (List.mem_filter.mp hleft).2 (hid.symm ▸ hmem)
  · intro h
    refine ⟨fun o ho hgone b hb hid => ?_, failsUnchanged_removeCbcBuildOs env col w⟩
    by_cases hex : ∃ ids, RemovesOs env col w.build ids
    · obtain ⟨ids, hids⟩ := hex
      rw [hids.run] at hgone
      refine hgone (List.mem_filter.mpr ⟨ho, decide_eq_true ?_⟩)
      exact hid ▸ h ids hids b hb
    · rcases hrun : (removeCbcBuildOs env col w).1 with e | u
      · rw [failsUnchanged_removeCbcBuildOs env col w e hrun] at hgone
        exact hgone ho
      · exact hex (exists_removesOs hrun)

/-- Where every build is of a server, a request that matches one row keeps it if in use. -/
theorem removeCbcBuildOs_kept_of_single (hone : ∀ ids, RemovesOs env col w.build ids →
    ids.length = 1 ∧ col.force = 0)
    (hserver : ∀ b ∈ w.build.builds, ∃ s ∈ w.build.servers, s.id = b.serverId) :
    OsKept w (removeCbcBuildOs env col w) := by
  refine (removeCbcBuildOs_kept_iff env col w).mpr fun ids h b hb hmem => ?_
  obtain ⟨id, rest, rfl, -, -, huse⟩ := h.check
  obtain ⟨hlen, hnoforce⟩ := hone _ h
  obtain rfl := List.length_eq_zero_iff.mp (Nat.succ.inj hlen)
  obtain ⟨o, ho, hoid⟩ := h.exists_row hmem
  obtain rfl := List.mem_singleton.mp hmem
  obtain ⟨s, hs, hsid⟩ := hserver b hb
  rcases huse with hnone | hf
  · have hin : s.name ∈ w.build.serversOnOsId b.osId := by
      refine List.mem_flatMap.mpr ⟨s, hs, List.mem_flatMap.mpr ⟨b, ?_, ?_⟩⟩
      · exact List.mem_filter.mpr ⟨hb, decide_eq_true hsid.symm⟩
      · exact List.mem_map.mpr
          ⟨o, List.mem_filter.mpr ⟨ho, decide_eq_true ⟨hoid, hoid⟩⟩, rfl⟩
    rw [hnone] at hin
    cases hin
  · exact hf hnoforce

/-- Debian 12 for two architectures, and a server built with the second. -/
def twoArchitectures : CbcWorld :=
  { emptyWorld with
    build := { emptyWorld.build with
      servers := [⟨1, "web01".toList⟩]
      buildOs := [⟨1, "debian".toList, "deb".toList, "12".toList, "bookworm".toList,
          "i386".toList⟩,
        ⟨2, "debian".toList, "deb".toList, "12".toList, "bookworm".toList, "x86_64".toList⟩]
      builds := [⟨1, 1, "eth0".toList, "00:11:22:33:44:55".toList, 1, 2, 1, 1, 1⟩] } }

/-- `cbcos -r -n debian -o 12`. -/
def removeDebian : CbcosCommLine := ⟨some "debian".toList, none, some "12".toList, none, none, 0⟩

/-- The row in use is deleted, and the build with it. -/
theorem removeDebian_not_kept :
    (removeCbcBuildOs allOk removeDebian twoArchitectures).1 = .ok () ∧
    (removeCbcBuildOs allOk removeDebian twoArchitectures).2.build.builds = [] ∧
    ¬OsKept twoArchitectures (removeCbcBuildOs allOk removeDebian twoArchitectures) := by
  refine ⟨by decide, by decide, fun h => ?_⟩
  exact absurd h.1 (by decide)

end Cmdb
