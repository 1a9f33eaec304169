import Cmdb.BuildDb
import Cmdb.IntervalTable

/-!
# The table of build domains

`add_cbc_build_domain` asks whether the addresses of the new domain overlap those of a
domain in the table, but not, as `check_for_rev_zone_overlap` does, whether the last comes
before the first. A domain of reversed addresses that passes the other checks is entered
as it is (`addCbcBuildDomain_reversed`), and then the table is no table of intervals.

`separated_iff_runOk` says when that happens : in a run from the empty table every table
is `Separated` exactly if every domain that is added with reversed addresses is refused
by one of the other checks (`AddRefused`).
-/

namespace Cmdb

open CString DottedQuad IntervalTable

/-! ## The commands -/

/-- The command line of `cbcdomain` (`cbcdomain_comm_line_s`). -/
structure CbcdomainCommLine where
  domain : CStr
  ntpserver : Option CStr
  confntp : ℕ
  startIp : ℕ
  endIp : ℕ
  netmask : ℕ
  gateway : ℕ
  ns : ℕ
deriving DecidableEq, Repr

/-- The loop of `split_network_args` : `n` addresses, each closed by a comma, and the
rest. `IP_REGEX` accepts what `inet_pton` does, so one test stands for both. -/
def splitIps : ℕ → CStr → Except AilsaError (List ℕ × CStr)
  | 0, ip => .ok ([], ip)
  | n + 1, ip =>
    match strchr ip ',' with
    | none => .error .networkInvalid
    | some p =>
      match inetPton (cut ip p) with
      | none => .error .networkInvalid
      | some q => do
        let (ips, rest) ← splitIps n (ip.drop (p + 1))
        return (q.toNat :: ips, rest)

/-- `split_network_args` : the command line with the addresses that were read, and the
code. The parser of the command line overwrites this code with that of a later check. -/
def splitNetworkArgs (cdl : CbcdomainCommLine) (netinfo : CStr) :
    CbcdomainCommLine × Except AilsaError Unit :=
  match splitIps 4 netinfo with
  | .ok ([start, last, gateway, netmask], rest) =>
    let cdl := { cdl with startIp := start, endIp := last, gateway := gateway, netmask := netmask }
    match inetPton rest with
    | some q => ({ cdl with ns := q.toNat }, .ok ())
    | none => (cdl, .error .networkInvalid)
  | _ => (cdl, .error .networkInvalid)

/-- The command line of an add or a remove : without `-k` the addresses are `0`. -/
def parseCbcdomain (domain : CStr) (netinfo ntpserver : Option CStr) : CbcdomainCommLine :=
  let cdl : CbcdomainCommLine :=
    { domain := domain, ntpserver := ntpserver, confntp := if ntpserver.isSome then 1 else 0
      startIp := 0, endIp := 0, netmask := 0, gateway := 0, ns := 0 }
  match netinfo with
  | some netinfo => (splitNetworkArgs cdl netinfo).1
  | none => cdl

/-- The array `ips` of `add_cbc_build_domain`, with its closing `0`. -/
def overlapIps (cdl : CbcdomainCommLine) : List ℕ :=
  [cdl.startIp, cdl.endIp, cdl.startIp, cdl.startIp, cdl.endIp, cdl.endIp, 0]

/-- `check_for_build_domain_overlap` : the numbers up to the first `0` are bound. -/
def checkForBuildDomainOverlap (env : CbcEnv) (ips : List ℕ) : CbcProg Unit :=
  match ips.takeWhile (· ≠ 0) with
  | a :: b :: c :: d :: e :: f :: _ => do
    let r ← cbcQuery env .buildDomainOverlap 0 fun db => db.buildDomainOverlap a b c d e f
    Prog.require (r.length = 0) .buildDomainOverlap
  | _ => Prog.fail .wrongListLenght

/-- The row `INSERT_BUILD_DOMAIN` and `INSERT_BUILD_DOMAIN_NO_NTP` make of what
`cbc_populate_domain` lists. -/
def BuildDb.insertBuildDomain (db : BuildDb) (cdl : CbcdomainCommLine) : BuildDb :=
  { db with buildDomains := db.buildDomains ++
      [{ id := nextId (db.buildDomains.map BuildDomain.id)
         startIp := cdl.startIp
         endIp := cdl.endIp
         netmask := cdl.netmask
         gateway := cdl.gateway
         ns := cdl.ns
         domain := arg cdl.domain
         ntpServer := arg (cdl.ntpserver.getD "none".toList)
         configNtp := cdl.confntp }] }

/-- `DELETE_BUILD_DOMAIN_ON_NAME`. The default, the addresses and their builds go with the
domain. -/
def BuildDb.deleteBuildDomain (db : BuildDb) (domain : CStr) : BuildDb :=
  let ids := db.buildDomainIds domain
  let ips := (db.buildIps.filter (·.bdId ∈ ids)).map BuildIp.id
  { db with
    buildDomains := db.buildDomains.filter (·.domain ≠ domain)
    buildIps := db.buildIps.filter (·.bdId ∉ ids)
    builds := db.builds.filter (·.ipId ∉ ips)
    defaultDomain := db.defaultDomain.filter (· ∉ ids) }

/-- `add_cbc_build_domain`, up to the DHCP networks and the forward zone, which do not
touch the table. A domain that exists is no error. -/
def addCbcBuildDomain (env : CbcEnv) (cdl : CbcdomainCommLine) : CbcProg Unit := do
  let d ← cbcQuery env .buildDomainIdOnDomain 0 fun db => db.buildDomainIds (arg cdl.domain)
  if 0 < d.length then return ()
  else
    checkForBuildDomainOverlap env (overlapIps cdl)
    cbcStatement env .insertBuildDomain 0 fun db => db.insertBuildDomain cdl

/-- `remove_cbc_build_domain`, up to the DHCP networks. -/
def removeCbcBuildDomain (env : CbcEnv) (cdl : CbcdomainCommLine) : CbcProg Unit :=
  cbcStatement env .deleteBuildDomainOnName 0 fun db => db.deleteBuildDomain (arg cdl.domain)

/-! ## What an add does -/

variable {env : CbcEnv} {w : CbcWorld} {cdl : CbcdomainCommLine}

/-- The table holds intervals that are pairwise disjoint. -/
def BuildDb.DomainsSeparated (db : BuildDb) : Prop :=
  Separated BuildDomain.startIp BuildDomain.endIp db.buildDomains

/-- Some check other than the order of the addresses refuses the domain : a statement
fails, the name is taken, an address is `0`, or a domain overlaps. -/
def AddRefused (env : CbcEnv) (db : BuildDb) (cdl : CbcdomainCommLine) : Prop :=
  env.sql .buildDomainIdOnDomain 0 = false ∨ db.buildDomainIds (arg cdl.domain) ≠ [] ∨
    cdl.startIp = 0 ∨ cdl.endIp = 0 ∨ env.sql .buildDomainOverlap 0 = false ∨
    (∃ z ∈ db.buildDomains, Overlaps z.startIp z.endIp cdl.startIp cdl.endIp) ∨
    env.sql .insertBuildDomain 0 = false

instance (env : CbcEnv) (db : BuildDb) (cdl : CbcdomainCommLine) :
    Decidable (AddRefused env db cdl) :=
  inferInstanceAs (Decidable (_ ∨ _))

theorem overlapIps_takeWhile (h0 : cdl.startIp ≠ 0) (h1 : cdl.endIp ≠ 0) :
    (overlapIps cdl).takeWhile (· ≠ 0) =
      [cdl.startIp, cdl.endIp, cdl.startIp, cdl.startIp, cdl.endIp, cdl.endIp] := by
  simp [overlapIps, List.takeWhile, h0, h1]

/-- With an address `0` the list is too short for the query. -/
theorem checkForBuildDomainOverlap_of_zero (h : cdl.startIp = 0 ∨ cdl.endIp = 0) :
    checkForBuildDomainOverlap env (overlapIps cdl) = Prog.fail .wrongListLenght := by
  rw [checkForBuildDomainOverlap]
  by_cases h0 : cdl.startIp = 0
  · simp [overlapIps, h0]
  · simp [overlapIps, List.takeWhile, h0, h.resolve_left h0]

/-- The query finds the rows that overlap. -/
theorem length_buildDomainOverlap_eq_zero (db : BuildDb) (cdl : CbcdomainCommLine) :
    (db.buildDomainOverlap cdl.startIp cdl.endIp cdl.startIp cdl.startIp cdl.endIp
      cdl.endIp).length = 0 ↔
      ¬∃ z ∈ db.buildDomains, Overlaps z.startIp z.endIp cdl.startIp cdl.endIp := by
  rw [BuildDb.buildDomainOverlap, List.length_map, List.length_eq_zero_iff,
    List.filter_eq_nil_iff]
  simp only [decide_eq_true_eq, not_exists, not_and, Overlaps]

theorem checkForBuildDomainOverlap_run (h0 : cdl.startIp ≠ 0) (h1 : cdl.endIp ≠ 0) :
    checkForBuildDomainOverlap env (overlapIps cdl) w =
      if env.sql .buildDomainOverlap 0 then
        if ∃ z ∈ w.build.buildDomains, Overlaps z.startIp z.endIp cdl.startIp cdl.endIp then
          (.error .buildDomainOverlap, w)
        else (.ok (), w)
      else (.error .statementFail, w) := by
  rw [checkForBuildDomainOverlap, overlapIps_takeWhile h0 h1]
  dsimp only
  rw [Prog.bind_run, cbcQuery_run]
  by_cases hsql : env.sql .buildDomainOverlap 0
  · rw [if_pos hsql, if_pos hsql]
    dsimp only
    rw [Prog.require_run]
    have hov := length_buildDomainOverlap_eq_zero w.build cdl
    by_cases h : ∃ z ∈ w.build.buildDomains, Overlaps z.startIp z.endIp cdl.startIp cdl.endIp
    · rw [if_pos h, if_neg (by simpa [hov] using h)]
    · rw [if_neg h, if_pos (by simpa [hov] using h)]
  · rw [if_neg hsql, if_neg hsql]

/-- An add enters the domain unless it is refused. -/
theorem addCbcBuildDomain_snd : (addCbcBuildDomain env cdl w).2 =
    if AddRefused env w.build cdl then w
    else { w with build := w.build.insertBuildDomain cdl } := by
  rw [addCbcBuildDomain, Prog.bind_run, cbcQuery_run]
  by_cases hname : env.sql .buildDomainIdOnDomain 0
  swap
  · rw [if_neg hname, if_pos (.inl (by simpa using hname))]
  rw [if_pos hname]
  dsimp only
  rw [Prog.ite_run]
  by_cases hids : w.build.buildDomainIds (arg cdl.domain) = []
  swap
  · rw [if_pos (List.length_pos_iff.mpr hids), if_pos (.inr (.inl hids))]
    rfl
  rw [if_neg (by simp [hids])]
  by_cases hzero : cdl.startIp = 0 ∨ cdl.endIp = 0
  · rw [checkForBuildDomainOverlap_of_zero hzero, if_pos (.inr (.inr (by tauto)))]
    rfl
  obtain ⟨h0, h1⟩ := not_or.mp hzero
  rw [Prog.bind_run, checkForBuildDomainOverlap_run h0 h1]
  by_cases hsql : env.sql .buildDomainOverlap 0
  swap
  · rw [if_neg hsql, if_pos (by unfold AddRefused; simp [hsql])]
  by_cases hov : ∃ z ∈ w.build.buildDomains, Overlaps z.startIp z.endIp cdl.startIp cdl.endIp
  · rw [if_pos hsql, if_pos hov, if_pos (.inr (.inr (.inr (.inr (.inr (.inl hov))))))]
  rw [if_pos hsql, if_neg hov]
  dsimp only
  rw [cbcStatement_run]
  by_cases hins : env.sql .insertBuildDomain 0
  · rw [if_pos hins, if_neg (by unfold AddRefused; simp_all)]
  · rw [if_neg hins, if_pos (by unfold AddRefused; simp [hins])]

theorem AddRefused.not_overlaps {db : BuildDb} (h : ¬AddRefused env db cdl) :
    ∀ z ∈ db.buildDomains, ¬Overlaps z.startIp z.endIp cdl.startIp cdl.endIp := by
  intro z hz hov
  exact h (.inr (.inr (.inr (.inr (.inr (.inl ⟨z, hz, hov⟩))))))

/-- A domain that is not reversed, or is refused, keeps the table. -/
theorem addCbcBuildDomain_separated (hw : w.build.DomainsSeparated)
    (h : cdl.startIp ≤ cdl.endIp ∨ AddRefused env w.build cdl) :
    (addCbcBuildDomain env cdl w).2.build.DomainsSeparated := by
  rw [addCbcBuildDomain_snd]
  split_ifs with hr
  · exact hw
  · exact hw.concat (h.resolve_right hr) (AddRefused.not_overlaps hr)

/-- A reversed domain that is not refused is entered. -/
theorem addCbcBuildDomain_reversed (hlt : cdl.endIp < cdl.startIp)
    (hr : ¬AddRefused env w.build cdl) :
    ¬(addCbcBuildDomain env cdl w).2.build.DomainsSeparated := by
  rw [addCbcBuildDomain_snd, if_neg hr]
  intro h
  exact absurd (h.le _ (List.mem_append_right _ (List.mem_singleton_self _))) (by simpa using hlt)

theorem removeCbcBuildDomain_separated (hw : w.build.DomainsSeparated) :
    (removeCbcBuildDomain env cdl w).2.build.DomainsSeparated := by
  rw [removeCbcBuildDomain, cbcStatement_run]
  split_ifs
  · exact hw.sublist List.filter_sublist
  · exact hw

/-! ## Runs -/

/-- Adding and removing build domains, by what is given on the command line. -/
inductive BuildDomainOp
  | add (domain : CStr) (netinfo ntpserver : Option CStr)
  | remove (domain : CStr)
deriving DecidableEq, Repr

/-- The program of a command. -/
def BuildDomainOp.prog (env : CbcEnv) : BuildDomainOp → CbcProg Unit
  | add domain netinfo ntpserver => addCbcBuildDomain env (parseCbcdomain domain netinfo ntpserver)
  | remove domain => removeCbcBuildDomain env (parseCbcdomain domain none none)

/-- The addresses are not reversed, or another check refuses the domain. -/
def BuildDomainOp.Ok (env : CbcEnv) (db : BuildDb) : BuildDomainOp → Prop
  | add domain netinfo ntpserver =>
    (parseCbcdomain domain netinfo ntpserver).startIp ≤
        (parseCbcdomain domain netinfo ntpserver).endIp ∨
      AddRefused env db (parseCbcdomain domain netinfo ntpserver)
  | remove _ => True

/-- Every table of the run is separated. -/
def AllSeparated : List (CbcEnv × BuildDomainOp) → CbcWorld → Prop
  | [], w => w.build.DomainsSeparated
  | op :: ops, w => w.build.DomainsSeparated ∧ AllSeparated ops (op.2.prog op.1 w).2

/-- Every command of the run is `Ok` on the table it meets. -/
def RunOk : List (CbcEnv × BuildDomainOp) → CbcWorld → Prop
  | [], _ => True
  | op :: ops, w => op.2.Ok op.1 w.build ∧ RunOk ops (op.2.prog op.1 w).2

/-- One command keeps the table exactly if it is `Ok`. -/
theorem BuildDomainOp.separated_iff (op : BuildDomainOp) (hw : w.build.DomainsSeparated) :
    (op.prog env w).2.build.DomainsSeparated ↔ op.Ok env w.build := by
  cases op with
  | add domain netinfo ntpserver =>
    refine ⟨fun h => ?_, addCbcBuildDomain_separated hw⟩
    by_contra hno
    obtain ⟨hlt, hr⟩ := not_or.mp hno
    exact addCbcBuildDomain_reversed (Nat.lt_of_not_le hlt) hr h
  | remove domain => exact ⟨fun _ => trivial, fun _ => removeCbcBuildDomain_separated hw⟩

theorem AllSeparated.head : ∀ {ops : List (CbcEnv × BuildDomainOp)} {w : CbcWorld},
    AllSeparated ops w → w.build.DomainsSeparated
  | [], _, h => h
  | _ :: _, _, h => h.1

theorem allSeparated_iff : ∀ (ops : List (CbcEnv × BuildDomainOp)) (w : CbcWorld),
    w.build.DomainsSeparated → (AllSeparated ops w ↔ RunOk ops w)
  | [], w, hw => ⟨fun _ => trivial, fun _ => hw⟩
  | op :: ops, w, hw => by
    constructor
    · rintro ⟨-, h⟩
      exact ⟨(op.2.separated_iff hw).mp h.head, (allSeparated_iff ops _ h.head).mp h⟩
    · rintro ⟨hok, h⟩
      exact ⟨hw, (allSeparated_iff ops _ ((op.2.separated_iff hw).mpr hok)).mpr h⟩

/-- In a run from the empty table, all tables are made of intervals in order that are
pairwise disjoint, exactly if every add of reversed addresses is refused by another
check. -/
theorem separated_iff_runOk (w : CbcWorld) (ops : List (CbcEnv × BuildDomainOp))
    (hw : w.build.buildDomains = []) : AllSeparated ops w ↔ RunOk ops w := by
  refine allSeparated_iff ops w ?_
  rw [BuildDb.DomainsSeparated, hw]
  exact separated_nil

/-- A domain from `10.0.0.10` to `10.0.0.20` is added and removed. -/
def orderedRun : List (CbcEnv × BuildDomainOp) :=
  [(allOk, .add "a.com".toList
      (some "10.0.0.10,10.0.0.20,10.0.0.1,255.255.255.0,10.0.0.1".toList) none),
    (allOk, .remove "a.com".toList)]

theorem separated_iff_runOk_orderedRun : AllSeparated orderedRun emptyWorld := by
  refine (separated_iff_runOk emptyWorld orderedRun rfl).mpr ⟨?_, trivial, trivial⟩
  unfold BuildDomainOp.Ok
  decide

/-- A domain from `10.0.0.20` back to `10.0.0.10`. -/
def reversedAdd : BuildDomainOp :=
  .add "a.com".toList
    (some "10.0.0.20,10.0.0.10,10.0.0.1,255.255.255.0,10.0.0.1".toList) none

/-- A reversed domain is entered in the empty table. -/
theorem reversedAdd_not_allSeparated : ¬AllSeparated [(allOk, reversedAdd)] emptyWorld := by
  rw [allSeparated_iff _ emptyWorld separated_nil]
  rintro ⟨h, -⟩
  revert h
  unfold reversedAdd BuildDomainOp.Ok
  decide

end Cmdb
