import Cmdb.OsDetails
import Mathlib.Data.List.TakeWhile

/-!
# The servers of an OS

`display_servers_with_build_os` goes over the OSes that match, and asks for the details of each of
them with one list of arguments. The list grows, and the statement binds the head of it : all the
details are those of the first OS (`serversLoop_run`). `displayServers_iff` says when that is
right all the same.
-/

namespace Cmdb

open CString Prog
open Sql (Value)

/-! ## The command -/

/-- What is printed of an OS. -/
structure OsReport where
  name : CStr
  version : CStr
  arch : CStr
  servers : List CStr
deriving DecidableEq, Repr

/-- A command on the tables that prints reports. -/
abbrev ReportProg (α : Type) := Prog (CbcWorld × List OsReport) AilsaError α

/-- A command that prints nothing. -/
def silent {α : Type} (p : CbcProg α) : ReportProg α :=
  Prog.zoom Prod.fst (fun t w => (w, t.2)) p

def printReport (r : OsReport) : ReportProg Unit := Prog.modify fun t => (t.1, t.2 ++ [r])

/-- `BUILD_OS_DETAILS_ON_OS_ID` -/
def buildOsDetailsOnOsId : AilsaSqlQuery where
  query := "SELECT os, os_version, arch FROM build_os WHERE os_id = ?".toList
  number := 1
  fields := [.lint]

/-- The answer to `buildOsDetailsOnOsId` with a list of arguments. -/
def BuildDb.boundOsDetails (db : BuildDb) (args : List AilsaData) : Except AilsaError (List CStr) :=
  match bindCalls buildOsDetailsOnOsId.fields 0 buildOsDetailsOnOsId.number args with
  | .error _ => .error .statementFail
  | .ok calls =>
    let rows := db.buildOs.filter fun o => (Value.int o.id).Equals (boundValue calls 0)
    .ok (rows.flatMap fun o => [o.os, o.osVersion, o.arch])

/-- The outcomes of the calls behind the first `k` of each statement. -/
def CbcEnv.later (env : CbcEnv) (k : ℕ) : CbcEnv :=
  { env with sql := fun q call => env.sql q (k + call) }

/-- The loop of `display_servers_with_build_os` from the `k`-th OS on, with the ids that are left
and the list of the arguments. -/
def serversLoop (env : CbcEnv) : ℕ → List ℕ → List AilsaData → ReportProg Unit
  | _, [], _ => pure ()
  | k, id :: os, osId => do
    let osId := cmdbAddNumberToList id osId
    let details ← silent (cbcQuery env .buildOsDetailsOnOsId k fun db => db.boundOsDetails osId)
    let details ← silent (cbcRet details)
    match details with
    | name :: version :: arch :: _ =>
      if details.length % 3 ≠ 0 then return ()
      else
        let server ← silent (checkBuildsForOsId (env.later k) id)
        printReport ⟨name, version, arch, server⟩
        serversLoop env (k + 1) os osId
    | _ => return ()

/-- `display_servers_with_build_os` -/
def displayServersWithBuildOs (env : CbcEnv) (col : CbcosCommLine) : ReportProg Unit := do
  let os ← silent (getCbcosIdList env col)
  serversLoop env 0 os []

/-! ## What it is for -/

/-- The rows a request matches. -/
def BuildDb.matchingOs (db : BuildDb) (os version : CStr) (arch : Option CStr) : List BuildOs :=
  db.buildOs.filter fun o => (o.os = os ∨ o.osAlias = os) ∧
    (o.osVersion = version ∨ o.verAlias = version) ∧ (arch = none ∨ arch = some o.arch)

/-- A report has the details of the OS, and the servers whose build uses it. -/
structure OsReport.Of (db : BuildDb) (o : BuildOs) (r : OsReport) : Prop where
  name : r.name = o.os
  version : r.version = o.osVersion
  arch : r.arch = o.arch
  servers : ∀ name, name ∈ r.servers ↔
    ∃ s ∈ db.servers, s.name = name ∧ ∃ b ∈ db.builds, b.serverId = s.id ∧ b.osId = o.id

/-- The OSes that match are reported, each of them once. -/
def ReportsServers (env : CbcEnv) (col : CbcosCommLine) (w : CbcWorld) (os version : CStr) : Prop :=
  ∃ ms, ms.Perm (w.build.matchingOs os version col.arch) ∧
    List.Forall₂ (OsReport.Of w.build) ms (displayServersWithBuildOs env col (w, [])).2.2

/-- The request matches OSes of one name, version and architecture. -/
def SameDetails (ms : List BuildOs) : Prop :=
  ∀ o ∈ ms, o.id ≠ 0 ∧ ∀ first ∈ ms.head?,
    o.os = first.os ∧ o.osVersion = first.osVersion ∧ o.arch = first.arch

/-! ## The loop -/

theorem filter_eq_singleton {α β : Type} [DecidableEq β] {f : α → β} {a : α} : ∀ {l : List α},
    (l.map f).Nodup → a ∈ l → l.filter (fun x => f x = f a) = [a]
  | [], _, ha => nomatch ha
  | b :: l, hl, ha => by
    obtain ⟨hb, hl⟩ := List.nodup_cons.mp hl
    obtain rfl | ha := List.mem_cons.mp ha
    · rw [List.filter_cons_of_pos (by simp)]
      refine congrArg _ (List.filter_eq_nil_iff.mpr fun x hx hxa => hb ?_)
      exact of_decide_eq_true hxa ▸ List.mem_map_of_mem hx
    · rw [List.filter_cons_of_neg, filter_eq_singleton hl ha]
      exact fun hba => hb (of_decide_eq_true hba ▸ List.mem_map_of_mem ha)

variable {w : CbcWorld} {db : BuildDb} {env : CbcEnv}

theorem silent_bind {α β : Type} {p : CbcProg α} {a : α} (h : p w = (.ok a, w))
    (f : α → ReportProg β) (out : List OsReport) :
    (silent p >>= f) (w, out) = f a (w, out) := by
  refine bind_run_ok ?_ f
  rw [silent, zoom_run, h]

/-- The id at the head of the list is the one that is asked for. -/
theorem boundOsDetails_eq {o : BuildOs} (hids : (db.buildOs.map BuildOs.id).Nodup)
    (ho : o ∈ db.buildOs) (args : List AilsaData) :
    db.boundOsDetails (.number o.id :: args) = .ok [o.os, o.osVersion, o.arch] := by
  have hrows : (db.buildOs.filter fun o' => (Value.int o'.id).Equals (.int o.id)) = [o] := by
    rw [← filter_eq_singleton hids ho]
    exact List.filter_congr fun o' _ =>
      decide_eq_decide.mpr Sql.Value.nat_equals_nat
  have hdetails : db.boundOsDetails (.number o.id :: args) =
      .ok ((db.buildOs.filter fun o' => (Value.int o'.id).Equals (.int o.id)).flatMap
        fun o => [o.os, o.osVersion, o.arch]) := rfl
  rw [hdetails, hrows]
  rfl

/-- Every report has the details of the first OS. The loop ends at an id `0`. -/
theorem serversLoop_run (hserved : ∀ q call, env.sql q call = true)
    (hids : (w.build.buildOs.map BuildOs.id).Nodup) {first : BuildOs}
    (hfirst : first ∈ w.build.buildOs) : ∀ (ms : List BuildOs) (k : ℕ) (osId : List AilsaData)
      (out : List OsReport), (osId ++ ms.map fun o => AilsaData.number o.id).head? =
        some (.number first.id) →
      (serversLoop env k (ms.map BuildOs.id) osId (w, out)).2 =
        (w, out ++ (ms.takeWhile fun o => o.id ≠ 0).map fun o =>
          ⟨first.os, first.osVersion, first.arch, w.build.serversOnOsId o.id⟩)
  | [], _, _, out, _ => congrArg (w, ·) (List.append_nil out).symm
  | o :: ms, k, osId, out, hhead => by
    rw [List.map_cons, List.append_cons] at hhead
    obtain ⟨args, hargs⟩ : ∃ args, cmdbAddNumberToList o.id osId = .number first.id :: args := by
      rw [cmdbAddNumberToList]
      cases osId with
      | nil => exact ⟨[], congrArg (fun a => [a]) (Option.some.inj hhead)⟩
      | cons a osId =>
        obtain rfl := Option.some.inj hhead
        exact ⟨osId ++ [.number o.id], rfl⟩
    have hquery : cbcQuery env .buildOsDetailsOnOsId k
        (fun db => db.boundOsDetails (cmdbAddNumberToList o.id osId)) w =
        (.ok (.ok [first.os, first.osVersion, first.arch]), w) := by
      rw [cbcQuery_run, if_pos (hserved _ _), hargs, boundOsDetails_eq hids hfirst]
    have hret : cbcRet (.ok [first.os, first.osVersion, first.arch]) w =
      (.ok [first.os, first.osVersion, first.arch], w) := rfl
    have hlen : ¬[first.os, first.osVersion, first.arch].length % 3 ≠ 0 := by simp
    rw [List.map_cons, serversLoop, silent_bind hquery, silent_bind hret]
    change ((if [first.os, first.osVersion, first.arch].length % 3 ≠ 0 then pure () else
      silent (checkBuildsForOsId (env.later k) o.id) >>= _ : ReportProg Unit) (w, out)).2 = _
    rw [if_neg hlen]
    by_cases hid : o.id = 0
    · rw [List.takeWhile_cons_of_neg (by simpa using hid), List.map_nil, List.append_nil]
      have hfail : silent (checkBuildsForOsId (env.later k) o.id) (w, out) =
          (.error .noData, w, out) := by
        rw [hid]
        rfl
      rw [bind_run_error hfail]
    · have hservers : checkBuildsForOsId (env.later k) o.id w =
          (.ok (w.build.serversOnOsId o.id), w) := by
        have hlater : (env.later k).sql .serversWithBuildsOnOsId 0 = true := hserved _ _
        rw [(readOnly_checkBuildsForOsId _ _).run_eq,
          checkBuildsForOsId_ok_iff.mpr ⟨hid, hlater, rfl⟩]
      rw [silent_bind hservers, List.takeWhile_cons_of_pos (by simpa using hid), List.map_cons,
        List.append_cons]
      exact serversLoop_run hserved hids hfirst ms (k + 1) _ _ hhead

/-! ## What is reported -/

theorem mem_serversOnOsId {o : BuildOs} (ho : o ∈ db.buildOs) {name : CStr} :
    name ∈ db.serversOnOsId o.id ↔
      ∃ s ∈ db.servers, s.name = name ∧ ∃ b ∈ db.builds, b.serverId = s.id ∧ b.osId = o.id := by
  simp only [BuildDb.serversOnOsId, List.mem_flatMap, List.mem_filter, List.mem_map,
    decide_eq_true_eq]
  constructor
  · rintro ⟨s, hs, b, ⟨hb, hserver⟩, o', ⟨-, hid, hid'⟩, rfl⟩
    exact ⟨s, hs, rfl, b, hb, hserver, hid.symm.trans hid'⟩
  · rintro ⟨s, hs, rfl, b, hb, hserver, hos⟩
    exact ⟨s, hs, b, ⟨hb, hserver⟩, o, ⟨ho, hos.symm, rfl⟩, rfl⟩

variable {col : CbcosCommLine} {os version : CStr}

/-- The ids a request finds. -/
theorem getCbcosIdList_run (hserved : ∀ q call, env.sql q call = true) (hcol : col.Copied)
    (hos : (col.os <|> col.osAlias) = some os)
    (hversion : (col.version <|> col.verAlias) = some version) :
    getCbcosIdList env col w =
      match w.build.matchingOs os version col.arch with
      | [] => (.error .osNotFound, w)
      | ms => (.ok (ms.map BuildOs.id), w) := by
  have hmac : macLen ≤ configLen := by decide
  have hservice : serviceLen ≤ configLen := by decide
  have harg : arg os = os := arg_of_length_le
    ((forall_mem_orElse hcol.os hcol.osAlias os hos).trans hmac)
  have harg' : arg version = version := arg_of_length_le
    ((forall_mem_orElse hcol.version hcol.verAlias version hversion).trans hmac)
  have hlookup : cmdbAddOsId env (some os) (some version) col.arch w =
      (.ok ((w.build.matchingOs os version col.arch).map BuildOs.id), w) := by
    cases harch : col.arch with
    | none =>
      rw [cmdbAddOsId, osLookup, cbcLookup, cbcQuery_run, if_pos (hserved _ _), harg, harg']
      rfl
    | some arch =>
      rw [cmdbAddOsId, osLookup, cbcLookup, cbcQuery_run, if_pos (hserved _ _), harg, harg',
        arg_of_length_le ((hcol.arch arch harch).trans hservice)]
      rfl
  rw [getCbcosIdList, hos, hversion, Option.elim_some, (readOnly_cbcRet _).bind_run_of_ok rfl,
    Option.elim_some, (readOnly_cbcRet _).bind_run_of_ok rfl, bind_run_ok hlookup]
  cases w.build.matchingOs os version col.arch <;> rfl

/-- What is reported of the OSes that match. -/
theorem displayServers_run (hserved : ∀ q call, env.sql q call = true)
    (hids : (w.build.buildOs.map BuildOs.id).Nodup) (hcol : col.Copied)
    (hos : (col.os <|> col.osAlias) = some os)
    (hversion : (col.version <|> col.verAlias) = some version) :
    (displayServersWithBuildOs env col (w, [])).2.2 =
      match w.build.matchingOs os version col.arch with
      | [] => []
      | first :: ms => ((first :: ms).takeWhile fun o => o.id ≠ 0).map fun o =>
          ⟨first.os, first.osVersion, first.arch, w.build.serversOnOsId o.id⟩ := by
  have hlist := getCbcosIdList_run hserved hcol hos hversion (w := w)
  rw [displayServersWithBuildOs]
  rcases hms : w.build.matchingOs os version col.arch with _ | ⟨first, ms⟩
  · rw [hms] at hlist
    have hfail : silent (getCbcosIdList env col) (w, []) = (.error .osNotFound, w, []) := by
      rw [silent, zoom_run, hlist]
    rw [bind_run_error hfail]
  · rw [hms] at hlist
    have hfirst : first ∈ w.build.buildOs := by
      refine List.mem_of_mem_filter (p := _) (?_ : first ∈ w.build.matchingOs os version col.arch)
      rw [hms]
      exact List.mem_cons_self ..
    rw [silent_bind hlist, serversLoop_run hserved hids hfirst (first :: ms) 0 [] [] rfl,
      List.nil_append]

theorem exists_of_forall₂ {α β : Type} {R : α → β → Prop} : ∀ {as : List α} {bs : List β},
    List.Forall₂ R as bs → ∀ a ∈ as, ∃ b ∈ bs, R a b
  | _, _, .cons hab h, a, ha => by
    obtain rfl | ha := List.mem_cons.mp ha
    · exact ⟨_, List.mem_cons_self .., hab⟩
    · obtain ⟨b, hb, hab⟩ := exists_of_forall₂ h a ha
      exact ⟨b, List.mem_cons_of_mem _ hb, hab⟩

/-- The reports are right iff the OSes that match have the same details. -/
theorem displayServers_iff (hserved : ∀ q call, env.sql q call = true)
    (hids : (w.build.buildOs.map BuildOs.id).Nodup) (hcol : col.Copied)
    (hos : (col.os <|> col.osAlias) = some os)
    (hversion : (col.version <|> col.verAlias) = some version) :
    ReportsServers env col w os version ↔
      SameDetails (w.build.matchingOs os version col.arch) := by
  have hrun := displayServers_run hserved hids hcol hos hversion
  rw [ReportsServers, hrun]
  rcases hms : w.build.matchingOs os version col.arch with _ | ⟨first, ms⟩
  · exact iff_of_true ⟨[], .nil, .nil⟩ nofun
  dsimp only
  constructor
  · rintro ⟨os', hperm, hall⟩
    have hlen := hall.length_eq
    rw [List.length_map, hperm.length_eq] at hlen
    have hself := (List.takeWhile_sublist _).eq_of_length hlen.symm
    intro o ho
    refine ⟨of_decide_eq_true (List.takeWhile_eq_self_iff.mp hself o ho), ?_⟩
    rintro _ ⟨⟩
    obtain ⟨r, hr, hof⟩ := exists_of_forall₂ hall o (hperm.symm.subset ho)
    obtain ⟨_, _, rfl⟩ := List.mem_map.mp hr
    exact ⟨hof.name.symm, hof.version.symm, hof.arch.symm⟩
  · intro h
    rw [List.takeWhile_eq_self_iff.mpr fun o ho => decide_eq_true (h o ho).1]
    refine ⟨first :: ms, .refl _, List.forall₂_map_right_iff.mpr (List.forall₂_same.mpr ?_)⟩
    intro o ho
    obtain ⟨hname, hver, harch⟩ := (h o ho).2 first rfl
    have hmem : o ∈ w.build.matchingOs os version col.arch := hms ▸ ho
    exact ⟨hname.symm, hver.symm, harch.symm,
      fun _ => mem_serversOnOsId (List.mem_of_mem_filter hmem)⟩

/-- `cbcos -q -n debian -o 12 -t x86_64` matches one OS. -/
theorem displayServers_iff_x86 : ReportsServers allOk
    { removeDebian with arch := some "x86_64".toList } twoArchitectures "debian".toList
    "12".toList := by
  have hcol : { removeDebian with arch := some "x86_64".toList }.Copied :=
    ⟨by decide, by decide, by decide, by decide, by decide⟩
  refine (displayServers_iff (fun _ _ => rfl) (by decide) hcol rfl rfl).mpr ?_
  have hmatching : twoArchitectures.build.matchingOs "debian".toList "12".toList
      (some "x86_64".toList) = [⟨2, "debian".toList, "deb".toList, "12".toList,
        "bookworm".toList, "x86_64".toList⟩] := by decide
  rw [hmatching]
  intro o ho
  obtain rfl := List.mem_singleton.mp ho
  exact ⟨by decide, by decide⟩

/-- Without the architecture both match, and `web01` is reported with the one it does not have. -/
theorem not_reportsServers : ¬ReportsServers allOk removeDebian twoArchitectures "debian".toList
    "12".toList := by
  rintro ⟨ms, hperm, hall⟩
  have hout : (displayServersWithBuildOs allOk removeDebian (twoArchitectures, [])).2.2 =
      [⟨"debian".toList, "12".toList, "i386".toList, []⟩,
        ⟨"debian".toList, "12".toList, "i386".toList, ["web01".toList]⟩] := by decide +kernel
  rw [hout] at hall
  have hmem : (⟨2, "debian".toList, "deb".toList, "12".toList, "bookworm".toList,
      "x86_64".toList⟩ : BuildOs) ∈ ms := hperm.symm.subset (by decide)
  obtain ⟨r, hr, hof⟩ := exists_of_forall₂ hall _ hmem
  have harch : r.arch = "i386".toList := by
    rcases List.mem_cons.mp hr with rfl | hr
    · rfl
    · rw [List.mem_singleton.mp hr]
  exact absurd (harch.symm.trans hof.arch) (by decide)

end Cmdb
