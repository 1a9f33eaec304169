import Cmdb.BuildIp

/-!
# The search for a build address

`cbc_calculate_build_ip` takes the first address that no build of the domain uses and
that `cbc_check_ip_in_dns` passes (`buildIpLoop_ok_iff`). But the loop runs over the used
addresses, so that with none in use it takes the first address without a look into DNS.

`handsOutLowest_iff_searchRight` says when the address entered is the lowest one that is
free : with none in use if DNS does not hold the first address for another host, and else
if the check agrees with DNS on the addresses tried. It does so on an address with at
most one record (`dnsPasses_iff_dnsFree`).
-/

namespace Cmdb

open CString DottedQuad Search

variable {dc : Dc} {env : CbcEnv} {cml : CbcCommLine} {w : CbcWorld}
variable {domain host : CStr} {used : List ℕ} {lip a : ℕ}

/-! ## The loop -/

/-- `cbc_check_ip_in_dns` makes code `0` of the records with that address. -/
def DnsPasses (db : ZoneDb) (domain host : CStr) (ip : ℕ) : Prop :=
  ip ≠ 0 ∧ dnsCode domain host (db.aRecordsWithIp (inetNtop ip)) = none

instance (db : ZoneDb) (domain host : CStr) (ip : ℕ) :
    Decidable (DnsPasses db domain host ip) :=
  inferInstanceAs (Decidable (_ ∧ _))

/-- The query for the records succeeds for the addresses from `start` to `ip` that are
not used. -/
def AllAsked (env : CbcEnv) (used : List ℕ) (start ip : ℕ) : Prop :=
  ∀ b, start ≤ b → b ≤ ip → b ∉ used → b ≠ 0 → env.sql .aRecordsWithIp b = true

theorem allAsked_succ {ip : ℕ} (h : ip ∈ used ∨ ip = 0 ∨ env.sql .aRecordsWithIp ip = true) :
    AllAsked env used ip a ↔ AllAsked env used (ip + 1) a := by
  refine ⟨fun hall b hb => hall b (by omega), fun hall b hb hba hused h0 => ?_⟩
  rcases Nat.eq_or_lt_of_le hb with rfl | hlt
  · exact (h.resolve_left hused).resolve_left h0
  · exact hall b hlt hba hused h0

/-- One address : compared with the used addresses, then looked up. -/
theorem buildIpLoop_scan {ip : ℕ} (hle : ip ≤ lip) (retval : Option AilsaError) :
    ∀ {e : List ℕ}, e ≠ [] → buildIpLoop env domain host used lip ip e retval =
      if ip ∈ e then buildIpLoop env domain host used lip (ip + 1) used retval
      else do
        let retval ← cbcCheckIpInDns env domain host ip
        match retval with
        | some code => buildIpLoop env domain host used lip (ip + 1) used (some code)
        | none => pure (some ip)
  | [], h => absurd rfl h
  | [bip], _ => by
    rw [buildIpLoop, if_neg (by omega)]
    by_cases hbip : bip = ip
    · rw [if_pos hbip, if_pos (by simp [hbip])]
    · rw [if_neg hbip, if_pos rfl, if_neg (by simpa using Ne.symm hbip)]
      congr 1
      funext retval
      cases retval with
      | some code => rfl
      | none => dsimp only; rw [buildIpLoop]
  | bip :: bip' :: e, _ => by
    rw [buildIpLoop, if_neg (by omega)]
    by_cases hbip : bip = ip
    · rw [if_pos hbip, if_pos (by simp [hbip])]
    · rw [if_neg hbip, if_neg (List.cons_ne_nil _ _), buildIpLoop_scan hle retval
        (List.cons_ne_nil bip' e)]
      simp [Ne.symm hbip]

theorem readOnly_noMoreIps (retval : Option AilsaError) : Prog.ReadOnly (noMoreIps retval) := by
  cases retval with
  | none => exact Prog.ReadOnly.pure _
  | some code => exact Prog.ReadOnly.fail _

theorem noMoreIps_ne (retval : Option AilsaError) : (noMoreIps retval w).1 ≠ .ok (some a) := by
  cases retval with
  | none => exact nofun
  | some code => exact nofun

theorem readOnly_buildIpLoop (hused : used ≠ []) (ip : ℕ) (retval : Option AilsaError) :
    Prog.ReadOnly (buildIpLoop env domain host used lip ip used retval) := by
  by_cases hle : ip ≤ lip
  · rw [buildIpLoop_scan hle retval hused]
    split
    · exact readOnly_buildIpLoop hused (ip + 1) retval
    · refine (readOnly_cbcCheckIpInDns _ _ _ _).bind fun retval => ?_
      cases retval with
      | none => exact Prog.ReadOnly.pure _
      | some code => exact readOnly_buildIpLoop hused (ip + 1) (some code)
  · obtain ⟨bip, e, he⟩ := List.exists_cons_of_ne_nil hused
    nth_rewrite 2 [he]
    rw [buildIpLoop, if_pos (by omega)]
    exact readOnly_noMoreIps retval
termination_by lip + 1 - ip

/-- The first hit from `ip`, when `ip` is none, is that from the next address. -/
theorem firstHit_allAsked_succ {ip : ℕ} {test : ℕ → Prop} (hskip : ip ∈ used ∨ ¬test ip)
    (hasked : ip ∈ used ∨ ip = 0 ∨ env.sql .aRecordsWithIp ip = true) :
    FirstHit (· ∈ used) ip lip test a ∧ AllAsked env used ip a ↔
      FirstHit (· ∈ used) (ip + 1) lip test a ∧ AllAsked env used (ip + 1) a := by
  rw [allAsked_succ hasked, firstHit_iff_of_skip (Nat.le_succ ip)]
  intro b hb hlt
  rwa [show b = ip by omega]

/-- The loop returns the first address that is not used and that DNS passes. -/
theorem buildIpLoop_ok_iff (hused : used ≠ []) (ip : ℕ) (retval : Option AilsaError) :
    (buildIpLoop env domain host used lip ip used retval w).1 = .ok (some a) ↔
      FirstHit (· ∈ used) ip lip (DnsPasses w.zone.db domain host) a ∧
        AllAsked env used ip a := by
  by_cases hle : ip ≤ lip
  · rw [buildIpLoop_scan hle retval hused]
    by_cases hmem : ip ∈ used
    · rw [if_pos hmem, buildIpLoop_ok_iff hused (ip + 1) retval]
      exact (firstHit_allAsked_succ (.inl hmem) (.inl hmem)).symm
    rw [if_neg hmem]
    by_cases h0 : ip = 0
    · rw [Prog.bind_run_ok (by rw [cbcCheckIpInDns_run, if_pos h0])]
      refine (buildIpLoop_ok_iff hused (ip + 1) (some .noData)).trans ?_
      exact (firstHit_allAsked_succ (.inr fun h => h.1 h0) (.inr (.inl h0))).symm
    by_cases hq : env.sql .aRecordsWithIp ip
    · rw [Prog.bind_run_ok (by rw [cbcCheckIpInDns_run, if_neg h0, if_pos hq])]
      cases hc : dnsCode domain host (w.zone.db.aRecordsWithIp (inetNtop ip)) with
      | none =>
        rw [firstHit_iff_eq_start hle hmem ⟨h0, hc⟩]
        constructor
        · intro h
          obtain rfl : ip = a := Option.some.inj (Except.ok.inj h)
          exact ⟨rfl, fun b hb hba _ _ => by rwa [show b = ip by omega]⟩
        · rintro ⟨rfl, -⟩
          rfl
      | some code =>
        refine (buildIpLoop_ok_iff hused (ip + 1) (some code)).trans ?_
        exact (firstHit_allAsked_succ (.inr fun h => by simp [h.2] at hc) (.inr (.inr hq))).symm
    · rw [Prog.bind_run_error (by rw [cbcCheckIpInDns_run, if_neg h0, if_neg hq])]
      refine iff_of_false nofun fun ⟨hfirst, hall⟩ => hq ?_
      exact hall ip le_rfl hfirst.start_le hmem h0
  · obtain ⟨bip, e, he⟩ := List.exists_cons_of_ne_nil hused
    nth_rewrite 2 [he]
    rw [buildIpLoop, if_pos (by omega)]
    refine iff_of_false (noMoreIps_ne retval) fun h => hle ?_
    exact h.1.start_le.trans h.1.le_last
termination_by lip + 1 - ip

/-! ## The entry -/

/-- The queries of `cbc_calculate_build_ip` before the search succeed, and find the build
domain. -/
def SearchReady (env : CbcEnv) (db : BuildDb) (cml : CbcCommLine) : Prop :=
  env.sql (buildDomainQuery cml.buildDomain) 0 = true ∧ db.domainIds cml.buildDomain ≠ [] ∧
    env.sql .buildIpOnBuildDomainId 0 = true ∧ TextsAsked env cml.buildDomain 0 ∧
    db.domainTexts cml.buildDomain ≠ []

/-- The addresses in use in the build domain. -/
def BuildDb.usedIps (db : BuildDb) (cml : CbcCommLine) : List ℕ :=
  db.buildIpsOn ((db.domainIds cml.buildDomain).headD 0)

/-- The name of the build domain. -/
def BuildDb.domainName (db : BuildDb) (cml : CbcCommLine) : CStr :=
  (db.domainTexts cml.buildDomain).headD []

/-- The search of `cbc_calculate_build_ip`. -/
def searchIp (env : CbcEnv) (db : BuildDb) (cml : CbcCommLine) (start last : ℕ) :
    CbcProg (Option ℕ) :=
  buildIpLoop env (db.domainName cml) cml.name (db.usedIps cml) last start (db.usedIps cml) none

/-- What `cbc_calculate_build_ip` does with the address found. -/
def enterIp (dc : Dc) (env : CbcEnv) (db : BuildDb) (cml : CbcCommLine) (ip : ℕ) :
    CbcProg Unit := do
  cbcAddIpToBuild dc env cml ip
  let _ ← cmdbAddIpId env cml.name 1
  onZone (cbcAddHostToDns dc env.zone (db.domainName cml) cml.name ip)

variable {start last : ℕ}

theorem readOnly_searchIp (env : CbcEnv) (db : BuildDb) (cml : CbcCommLine) (start last : ℕ) :
    Prog.ReadOnly (searchIp env db cml start last) := by
  rw [searchIp]
  by_cases hused : db.usedIps cml = []
  · rw [hused, buildIpLoop]
    exact Prog.ReadOnly.pure _
  · exact readOnly_buildIpLoop hused start none

theorem cbcCalculateBuildIp_run (h : SearchReady env w.build cml) :
    cbcCalculateBuildIp dc env cml start last w =
      match (searchIp env w.build cml start last w).1 with
      | .ok (some ip) => enterIp dc env w.build cml ip w
      | .ok none => (.ok (), w)
      | .error e => (.error e, w) := by
  obtain ⟨hquery, hids, hip, htext, hm⟩ := h
  obtain ⟨bdId, ids, hids⟩ := List.exists_cons_of_ne_nil hids
  obtain ⟨domain, m, hm⟩ := List.exists_cons_of_ne_nil hm
  have hsearch : buildIpLoop env domain cml.name (w.build.buildIpsOn bdId) last start
      (w.build.buildIpsOn bdId) none = searchIp env w.build cml start last := by
    simp [searchIp, BuildDb.usedIps, BuildDb.domainName, hids, hm]
  have hdomain : w.build.domainName cml = domain := by simp [BuildDb.domainName, hm]
  have hrun := (readOnly_searchIp env w.build cml start last).run_eq w
  rw [cbcCalculateBuildIp,
    Prog.bind_run_ok (by rw [cmdbAddBuildDomainId, cbcQuery_run, if_pos hquery]), hids]
  dsimp only
  rw [Prog.bind_run_ok (by rw [cbcQuery_run, if_pos hip]),
    Prog.bind_run_ok (by rw [cbcDomainTexts_run, if_pos htext]), hm]
  dsimp only
  rw [hsearch]
  rcases hfound : (searchIp env w.build cml start last w).1 with e | _ | ip
  · rw [Prog.bind_run_error (by rw [hrun, hfound])]
  · rw [Prog.bind_run_ok (by rw [hrun, hfound])]
    rfl
  · rw [Prog.bind_run_ok (by rw [hrun, hfound])]
    dsimp only
    rw [enterIp, hdomain]

theorem cbcCalculateBuildIp_refuses (dc : Dc) (start last : ℕ)
    (h : ¬SearchReady env w.build cml) :
    Prog.Refuses (cbcCalculateBuildIp dc env cml start last) w := by
  rw [cbcCalculateBuildIp]
  refine (readOnly_cbcQuery _ _ _ _).refuses_bind fun ids hids => ?_
  obtain ⟨hquery, hids⟩ := cbcQuery_ok hids
  rcases ids with _ | ⟨bdId, ids⟩
  · exact Prog.refuses_fail _ _
  refine (readOnly_cbcQuery _ _ _ _).refuses_bind fun r hr => ?_
  refine (readOnly_cbcDomainTexts _ _ _).refuses_bind fun m hm => ?_
  obtain ⟨hip, -⟩ := cbcQuery_ok hr
  obtain ⟨htext, hm⟩ := cbcDomainTexts_ok hm
  rcases m with _ | ⟨domain, m⟩
  · exact Prog.refuses_fail _ _
  refine absurd ⟨hquery, ?_, hip, htext, ?_⟩ h
  · rw [← hids]
    exact List.cons_ne_nil _ _
  · rw [← hm]
    exact List.cons_ne_nil _ _

/-- The search ends at `ip` : the first address if none is in use, else the first that
is not used and that DNS passes. -/
def FoundIp (env : CbcEnv) (w : CbcWorld) (cml : CbcCommLine) (start last ip : ℕ) : Prop :=
  (w.build.usedIps cml = [] ∧ ip = start) ∨
    (w.build.usedIps cml ≠ [] ∧ FirstHit (· ∈ w.build.usedIps cml) start last
      (DnsPasses w.zone.db (w.build.domainName cml) cml.name) ip ∧
        AllAsked env (w.build.usedIps cml) start ip)

theorem searchIp_ok_iff {ip : ℕ} : (searchIp env w.build cml start last w).1 = .ok (some ip) ↔
    FoundIp env w cml start last ip := by
  rw [searchIp, FoundIp]
  by_cases hused : w.build.usedIps cml = []
  · rw [hused, buildIpLoop]
    simp [eq_comm]
  · rw [buildIpLoop_ok_iff hused]
    simp [hused]

/-- `cbc_calculate_build_ip` enters `ip`. -/
def Enters (env : CbcEnv) (w : CbcWorld) (cml : CbcCommLine) (start last ip : ℕ) : Prop :=
  SearchReady env w.build cml ∧ EntryReady env w.build cml ∧ ip ≠ 0 ∧
    FoundIp env w cml start last ip

/-- The address is entered, looked up and added to DNS. -/
theorem cbcCalculateBuildIp_enters_run {ip : ℕ} (h : Enters env w cml start last ip) :
    cbcCalculateBuildIp dc env cml start last w =
      if env.sql .ipIdOnServerName 1 then
        onZone (cbcAddHostToDns dc env.zone (w.build.domainName cml) cml.name ip)
          { w with build := w.build.insertBuildIp (w.build.entryRow cml ip) }
      else (.error .statementFail,
        { w with build := w.build.insertBuildIp (w.build.entryRow cml ip) }) := by
  obtain ⟨hsearch, hentry, hip, hfound⟩ := h
  rw [cbcCalculateBuildIp_run hsearch, searchIp_ok_iff.mpr hfound]
  dsimp only
  rw [enterIp, Prog.bind_run_ok (cbcAddIpToBuild_run hip hentry), Prog.bind_run, cmdbAddIpId,
    cbcQuery_run]
  cases env.sql .ipIdOnServerName 1 <;> rfl

theorem cbcCalculateBuildIp_of_enters {ip : ℕ} (h : Enters env w cml start last ip) :
    (cbcCalculateBuildIp dc env cml start last w).2.build =
      w.build.insertBuildIp (w.build.entryRow cml ip) := by
  rw [cbcCalculateBuildIp_enters_run h]
  cases env.sql .ipIdOnServerName 1 <;> rfl

theorem cbcCalculateBuildIp_of_not_enters (dc : Dc)
    (h : ∀ ip, ¬Enters env w cml start last ip) :
    (cbcCalculateBuildIp dc env cml start last w).2 = w := by
  by_cases hsearch : SearchReady env w.build cml
  · rw [cbcCalculateBuildIp_run hsearch]
    rcases hfound : (searchIp env w.build cml start last w).1 with e | _ | ip
    · rfl
    · rfl
    · have hrefused : ip = 0 ∨ ¬EntryReady env w.build cml := by
        by_contra hnot
        rw [not_or, not_not] at hnot
        exact h ip ⟨hsearch, hnot.2, hnot.1, searchIp_ok_iff.mp hfound⟩
      obtain ⟨e, he⟩ := cbcAddIpToBuild_refuses dc hrefused
      dsimp only
      rw [enterIp, Prog.bind_run_error he]
  · obtain ⟨e, he⟩ := cbcCalculateBuildIp_refuses dc start last hsearch
    rw [he]

/-! ## The lowest free address -/

/-- DNS holds no `A` record with that address, or only of this host and domain. -/
def DnsFree (db : ZoneDb) (domain host : CStr) (ip : ℕ) : Prop :=
  ∀ r ∈ db.records, r.type = "A".toList → r.destination = inetNtop ip →
    r.host = host ∧ (db.zones.find? (·.id = r.zone)).map Zone.name = some domain

instance (db : ZoneDb) (domain host : CStr) (ip : ℕ) :
    Decidable (DnsFree db domain host ip) :=
  inferInstanceAs (Decidable (∀ _ ∈ _, _))

/-- The check is right on an address with at most one record, an `A` record of a zone. -/
theorem dnsPasses_iff_dnsFree {db : ZoneDb} {ip : ℕ} (h0 : ip ≠ 0) (hhost : host.length < hostLen)
    (hdomain : domain.length < domainLen)
    (hrec : ∀ r ∈ db.records, r.destination = inetNtop ip →
      r.type = "A".toList ∧ ∃ z ∈ db.zones, z.id = r.zone)
    (hone : (db.records.filter (·.destination = inetNtop ip)).length ≤ 1) :
    DnsPasses db domain host ip ↔ DnsFree db domain host ip := by
  rw [DnsPasses, ZoneDb.aRecordsWithIp, DnsFree]
  have hmem : ∀ r, r ∈ db.records.filter (·.destination = inetNtop ip) ↔
      r ∈ db.records ∧ r.destination = inetNtop ip := fun r => by simp
  generalize db.records.filter (·.destination = inetNtop ip) = rows at hmem hone ⊢
  rcases rows with _ | ⟨r, _ | ⟨r', rows⟩⟩
  · refine iff_of_true ⟨h0, rfl⟩ fun r hr _ hdest => ?_
    exact absurd ((hmem r).mpr ⟨hr, hdest⟩) List.not_mem_nil
  · obtain ⟨hr, hdest⟩ := (hmem r).mp (List.mem_singleton_self r)
    obtain ⟨htype, z, hz, hzone⟩ := hrec r hr hdest
    obtain ⟨z', hz'⟩ : ∃ z', db.zones.find? (·.id = r.zone) = some z' :=
      Option.isSome_iff_exists.mp (List.find?_isSome.mpr ⟨z, hz, by simpa using hzone⟩)
    have hcode : dnsCode domain host [(r.host, z'.name)] = none ↔
        host = r.host ∧ domain = z'.name := by
      simp [dnsCode, strncmpEq_iff hhost, strncmpEq_iff hdomain]
    simp only [List.map_cons, List.map_nil, hz', Option.map_some, Option.getD_some, hcode]
    constructor
    · rintro ⟨-, hh, hd⟩ s hs - hsdest
      obtain rfl := List.mem_singleton.mp ((hmem s).mpr ⟨hs, hsdest⟩)
      exact ⟨hh.symm, by rw [hz', hd, Option.map_some]⟩
    · intro hfree
      obtain ⟨hh, hd⟩ := hfree r hr htype hdest
      rw [hz', Option.map_some] at hd
      exact ⟨h0, hh.symm, (Option.some.inj hd).symm⟩
  · simp at hone

/-- From `w` to `w'` no address is entered, or the lowest one from `start` to `last` that
no build of the domain uses and that is free in DNS. -/
def HandsOutLowest (cml : CbcCommLine) (start last : ℕ) (w w' : CbcWorld) : Prop :=
  w'.build.buildIps = w.build.buildIps ∨
    ∃ row, w'.build.buildIps = w.build.buildIps ++ [row] ∧
      IsLeast (Unused (· ∈ w.build.usedIps cml) start last
        (DnsFree w.zone.db (w.build.domainName cml) cml.name)) row.ip

/-- If an address is entered, then the check in DNS was made, and is right, where it
matters : for the first address if none is in use, and else for the addresses up to
the one entered. -/
def SearchRight (env : CbcEnv) (w : CbcWorld) (cml : CbcCommLine) (start last : ℕ) : Prop :=
  ∀ ip, Enters env w cml start last ip →
    (w.build.usedIps cml = [] ∧ DnsFree w.zone.db (w.build.domainName cml) cml.name start) ∨
    (w.build.usedIps cml ≠ [] ∧ ∀ b, start ≤ b → b ≤ ip → b ∉ w.build.usedIps cml →
      (DnsPasses w.zone.db (w.build.domainName cml) cml.name b ↔
        DnsFree w.zone.db (w.build.domainName cml) cml.name b))

/-- The address entered is the lowest one that is free. -/
theorem Enters.isLeast_iff {ip : ℕ} (h : Enters env w cml start last ip) (hle : start ≤ last) :
    IsLeast (Unused (· ∈ w.build.usedIps cml) start last
      (DnsFree w.zone.db (w.build.domainName cml) cml.name)) ip ↔
    (w.build.usedIps cml = [] ∧ DnsFree w.zone.db (w.build.domainName cml) cml.name start) ∨
    (w.build.usedIps cml ≠ [] ∧ ∀ b, start ≤ b → b ≤ ip → b ∉ w.build.usedIps cml →
      (DnsPasses w.zone.db (w.build.domainName cml) cml.name b ↔
        DnsFree w.zone.db (w.build.domainName cml) cml.name b)) := by
  obtain ⟨-, -, -, ⟨hused, rfl⟩ | ⟨hused, hfirst, -⟩⟩ := h
  · constructor
    · exact fun hleast => .inl ⟨hused, hleast.1.2.2.2⟩
    · rintro (⟨-, hfree⟩ | ⟨hne, -⟩)
      · refine ⟨⟨le_rfl, hle, ?_, hfree⟩, fun b hb => hb.1⟩
        rw [hused]
        exact List.not_mem_nil
      · exact absurd hused hne
  · rw [hfirst.isLeast_iff]
    simp [hused]

theorem Enters.unique {ip ip' : ℕ} (h : Enters env w cml start last ip)
    (h' : Enters env w cml start last ip') : ip = ip' := by
  have hfound := searchIp_ok_iff.mpr h.2.2.2
  rw [searchIp_ok_iff.mpr h'.2.2.2] at hfound
  exact (Option.some.inj (Except.ok.inj hfound)).symm

theorem Enters.handsOutLowest_iff {ip : ℕ} (h : Enters env w cml start last ip) :
    HandsOutLowest cml start last w (cbcCalculateBuildIp dc env cml start last w).2 ↔
      IsLeast (Unused (· ∈ w.build.usedIps cml) start last
        (DnsFree w.zone.db (w.build.domainName cml) cml.name)) ip := by
  rw [HandsOutLowest, cbcCalculateBuildIp_of_enters h, BuildDb.insertBuildIp]
  constructor
  · rintro (hsame | ⟨row, hrow, hleast⟩)
    · simp at hsame
    · obtain rfl := List.singleton_inj.mp (List.append_cancel_left hrow)
      exact hleast
  · exact fun hleast => .inr ⟨_, rfl, hleast⟩

/-- The address handed out is the lowest free one exactly if the search is right. -/
theorem handsOutLowest_iff_searchRight (dc : Dc) (env : CbcEnv) (cml : CbcCommLine) (w : CbcWorld)
    {start last : ℕ} (hle : start ≤ last) :
    HandsOutLowest cml start last w (cbcCalculateBuildIp dc env cml start last w).2 ↔
      SearchRight env w cml start last := by
  by_cases henters : ∃ ip, Enters env w cml start last ip
  · obtain ⟨ip, hip⟩ := henters
    rw [hip.handsOutLowest_iff, hip.isLeast_iff hle]
    constructor
    · intro h ip' hip'
      rwa [← hip.unique hip']
    · exact fun h => h ip hip
  · rw [not_exists] at henters
    rw [cbcCalculateBuildIp_of_not_enters dc henters]
    exact iff_of_true (.inl rfl) fun ip hip => absurd hip (henters ip)

/-- A build of `web.a.com` in the build domain `a.com`. -/
def webBuild : CbcCommLine where
  name := "web".toList
  partition := none
  varient := none
  os := none
  osVersion := none
  buildDomain := some "a.com".toList
  arch := none
  netcard := some "eth0".toList
  harddisk := "vda".toList
  locale := none

/-- The build domain `a.com` from `10.0.0.1` to `10.0.0.5` with a server `web` and the
addresses `ips` in use, and a host `mail.a.com` with address `dest`. -/
def webWorld (ips : List BuildIp) (dest : CStr) : CbcWorld :=
  { build := { emptyWorld.build with
      servers := [⟨1, "web".toList⟩]
      buildDomains := [⟨1, 167772161, 167772165, 4294967040, 167772161, 167772161,
        "a.com".toList, "none".toList, 0⟩]
      buildIps := ips }
    zone := ⟨{ emptyWorld.zone.db with
      zones := [⟨1, "a.com".toList, "ns.a.com".toList, "none".toList, 5, 1, 1, 1, 1, "yes".toList,
        "no".toList, "master".toList, none⟩]
      records := [⟨1, 1, "mail".toList, "A".toList, none, none, 0, dest⟩] }, []⟩ }

/-- `10.0.0.1` is in use and `10.0.0.2` in DNS. -/
def usedWorld : CbcWorld :=
  webWorld [⟨1, 167772161, "db".toList, "a.com".toList, 1, 2⟩] "10.0.0.2".toList

theorem handsOutLowest_iff_searchRight_usedWorld :
    HandsOutLowest webBuild 167772161 167772165 usedWorld
      (cbcCalculateBuildIp ⟨[], 0, fun _ _ => none⟩ allOk webBuild 167772161 167772165
        usedWorld).2 := by
  have hused : usedWorld.build.usedIps webBuild = [167772161] := List.mergeSort_singleton _
  refine (handsOutLowest_iff_searchRight _ allOk webBuild usedWorld (by decide)).mpr ?_
  rintro ip ⟨-, -, -, ⟨hnil, -⟩ | ⟨-, hfirst, -⟩⟩
  · simp [hused] at hnil
  refine .inr ⟨by simp [hused], fun b hb hba _ => ?_⟩
  have hlast := hba.trans hfirst.le_last
  interval_cases b <;> decide

/-- `mail.a.com` has the first address, and no build has one. -/
theorem webWorld_not_handsOutLowest :
    ¬HandsOutLowest webBuild 167772161 167772165 (webWorld [] "10.0.0.1".toList)
      (cbcCalculateBuildIp ⟨[], 0, fun _ _ => none⟩ allOk webBuild 167772161 167772165
        (webWorld [] "10.0.0.1".toList)).2 := by
  have hused : (webWorld [] "10.0.0.1".toList).build.usedIps webBuild = [] := List.mergeSort_nil
  have henters : Enters allOk (webWorld [] "10.0.0.1".toList) webBuild 167772161 167772165
      167772161 :=
    ⟨⟨rfl, by decide, rfl, by decide, by decide⟩,
      ⟨by decide, rfl, rfl, by decide, rfl, rfl, rfl⟩, by decide, .inl ⟨hused, rfl⟩⟩
  rw [henters.handsOutLowest_iff]
  intro hleast
  exact absurd hleast.1.2.2.2 (by decide)

end Cmdb
