import Cmdb.CreateBuild
import Cmdb.ZoneCommands

/-!
# What the creation of a build leaves

`create_build_config` searches first (`Searched`), but the disk, the address and the build
are entered by three steps with searches of their own in between : the build domain is
looked up, and an address searched for, when the disk is already there, and an address is
entered before its `A` record and the build. Nothing takes a row back.

`createBuildConfig_allOrNothing_iff` says when the creation is all or nothing : the disk is
refused, or the server has a disk and nothing is entered, or every step succeeds with an
address inside the domain (`CreateSafe`). `addressAndBuild_of_enters` describes the runs
that enter an address, `addressAndBuild_of_not_enters` those that enter none.
-/

namespace Cmdb

open CString DottedQuad

variable {dc : Dc} {env : CbcEnv} {cml : CbcCommLine} {w : CbcWorld}

/-! ## The searches -/

/-- The parts of a build that `create_build_config` looks up. -/
structure BuildParts where
  serverId : ℕ
  netcard : CStr
  mac : CStr
  varientId : ℕ
  osId : ℕ
  localeId : ℕ
  schemeId : ℕ

/-- The list `b`, with seven elements. -/
def BuildParts.list (p : BuildParts) : List AilsaData :=
  [.number p.serverId, .text p.netcard, .text p.mac, .number p.varientId, .number p.osId,
    .number p.localeId, .number p.schemeId]

/-- The lookup succeeds with one id. -/
def Finds (env : CbcEnv) (db : BuildDb) (l : Lookup) (id : ℕ) : Prop :=
  ∃ q g, l = some (q, g) ∧ env.sql q 0 = true ∧ g db = [id]

/-- All searches succeed, with one row each, for a server without a build. -/
structure Searched (env : CbcEnv) (db : BuildDb) (cml : CbcCommLine) (p : BuildParts) : Prop where
  build : env.sql .buildIdOnServerName 0 = true ∧ db.buildIds (arg cml.name) = []
  server : env.sql .serverIdOnName 0 = true ∧ db.serverIds (arg cml.name) = [p.serverId]
  netcard : ∃ netcard, cml.netcard = some netcard ∧ arg netcard = p.netcard
  mac : env.sql .macAddressForBuild 0 = true ∧ ∃ mac macs,
    db.macAddresses [.number p.serverId, .text p.netcard] = mac :: macs ∧ arg mac = p.mac
  varient : Finds env db (varientLookup cml.varient) p.varientId
  os : Finds env db (osLookup cml.os cml.osVersion cml.arch) p.osId
  locale : Finds env db (localeLookup cml.locale) p.localeId
  scheme : Finds env db (schemeLookup cml.partition) p.schemeId

theorem readOnly_cbcLookup (env : CbcEnv) (l : Lookup) : Prog.ReadOnly (cbcLookup env l) := by
  rcases l with _ | ⟨q, g⟩
  · exact Prog.ReadOnly.fail _
  · exact readOnly_cbcQuery _ _ _ _

theorem cbcLookup_singleton_iff {l : Lookup} {id : ℕ} :
    (cbcLookup env l w).1 = .ok [id] ↔ Finds env w.build l id := by
  rcases l with _ | ⟨q, g⟩
  · exact iff_of_false nofun (by rintro ⟨_, _, h, _⟩; cases h)
  · constructor
    · intro h
      obtain ⟨hq, hid⟩ := cbcQuery_ok h
      exact ⟨q, g, rfl, hq, hid.symm⟩
    · rintro ⟨q, g, h, hq, hid⟩
      cases h
      rw [cbcLookup, cbcQuery_run, if_pos hq, hid]

theorem Finds.run {l : Lookup} {id : ℕ} (h : Finds env w.build l id) :
    cbcLookup env l w = (.ok [id], w) := by
  rw [(readOnly_cbcLookup env l).run_eq w, cbcLookup_singleton_iff.mpr h]

theorem Finds.unique {db : BuildDb} {l : Lookup} {id id' : ℕ} (h : Finds env db l id)
    (h' : Finds env db l id') : id = id' := by
  obtain ⟨q, g, rfl, -, hid⟩ := h
  obtain ⟨_, _, hl, -, hid'⟩ := h'
  cases hl
  exact List.singleton_inj.mp (hid.symm.trans hid')

theorem readOnly_cmdbCheckAddVarientId (env : CbcEnv) (varient : Option CStr) :
    Prog.ReadOnly (cmdbCheckAddVarientId env varient) := by
  refine (readOnly_cbcLookup _ _).bind fun ids => ?_
  split
  · exact Prog.ReadOnly.pure _
  · exact Prog.ReadOnly.fail _

theorem cmdbCheckAddVarientId_ok_iff {varient : Option CStr} {id : ℕ} :
    (cmdbCheckAddVarientId env varient w).1 = .ok id ↔
      Finds env w.build (varientLookup varient) id := by
  rw [← cbcLookup_singleton_iff, cmdbCheckAddVarientId]
  constructor
  · intro h
    obtain ⟨ids, hids, h⟩ := (readOnly_cbcLookup _ _).bind_ok h
    rcases ids with _ | ⟨id', _ | _⟩
    · cases h
    · cases h
      exact hids
    · cases h
  · intro h
    rw [(readOnly_cbcLookup _ _).bind_run_of_ok h]
    rfl

theorem readOnly_cbcGetNetworkInfo (env : CbcEnv) (cml : CbcCommLine) (build : List AilsaData) :
    Prog.ReadOnly (cbcGetNetworkInfo env cml build) := by
  rw [cbcGetNetworkInfo]
  split
  · exact Prog.ReadOnly.fail _
  · refine (readOnly_cbcQuery _ _ _ _).bind fun l => ?_
    split
    · exact Prog.ReadOnly.fail _
    · exact Prog.ReadOnly.pure _

theorem cbcGetNetworkInfo_ok {id : ℕ} {b : List AilsaData}
    (h : (cbcGetNetworkInfo env cml [.number id] w).1 = .ok b) :
    ∃ netcard mac macs, cml.netcard = some netcard ∧ env.sql .macAddressForBuild 0 = true ∧
      w.build.macAddresses [.number id, .text (arg netcard)] = mac :: macs ∧
      b = [.number id, .text (arg netcard), .text (arg mac)] := by
  rw [cbcGetNetworkInfo] at h
  rcases hcard : cml.netcard with _ | netcard
  · rw [hcard] at h
    cases h
  · rw [hcard] at h
    obtain ⟨l, hl, h⟩ := (readOnly_cbcQuery _ _ _ _).bind_ok h
    obtain ⟨hq, hl⟩ := cbcQuery_ok hl
    rcases l with _ | ⟨mac, macs⟩
    · cases h
    · cases h
      exact ⟨netcard, mac, macs, rfl, hq, hl.symm, rfl⟩

theorem readOnly_createBuildSearch (env : CbcEnv) (cml : CbcCommLine) :
    Prog.ReadOnly (createBuildSearch env cml) := by
  rw [createBuildSearch]
  refine (readOnly_cbcQuery _ _ _ _).bind fun l => ?_
  split
  · exact Prog.ReadOnly.pure _
  refine (readOnly_cmdbCheckAddServerId _ _ _).bind fun id => ?_
  refine (readOnly_cbcGetNetworkInfo _ _ _).bind fun b => ?_
  split
  · exact Prog.ReadOnly.pure _
  refine (readOnly_cmdbCheckAddVarientId _ _).bind fun id => ?_
  refine (readOnly_cbcLookup _ _).bind fun ids => ?_
  dsimp only
  split
  · exact Prog.ReadOnly.pure _
  refine (readOnly_cbcLookup _ _).bind fun ids => ?_
  split
  · exact Prog.ReadOnly.pure _
  refine (readOnly_cbcLookup _ _).bind fun ids => ?_
  split
  · exact Prog.ReadOnly.pure _
  · exact Prog.ReadOnly.pure _

theorem createBuildSearch_of_searched {p : BuildParts} (h : Searched env w.build cml p) :
    createBuildSearch env cml w = (.ok (some p.list), w) := by
  obtain ⟨netcard, hcard, hnet⟩ := h.netcard
  obtain ⟨hq, mac, macs, hmac, hmac'⟩ := h.mac
  have hinfo : cbcGetNetworkInfo env cml [.number p.serverId] w =
      (.ok [.number p.serverId, .text p.netcard, .text p.mac], w) := by
    rw [cbcGetNetworkInfo, hcard]
    dsimp only
    rw [Prog.bind_run_ok (by rw [cbcQuery_run, if_pos hq])]
    simp [cmdbAddStringToList, hnet, hmac, hmac']
  rw [createBuildSearch, Prog.bind_run_ok (by rw [cbcQuery_run, if_pos h.build.1]), h.build.2,
    if_neg (by simp), Prog.bind_run_ok (by rw [cmdbCheckAddServerId_run, if_pos h.server.1,
      h.server.2]), Prog.bind_run_ok hinfo, if_neg (by simp),
    (readOnly_cmdbCheckAddVarientId _ _).bind_run_of_ok
      (cmdbCheckAddVarientId_ok_iff.mpr h.varient),
    cmdbAddOsId, Prog.bind_run_ok h.os.run, Prog.ite_run, if_neg (by simp [cmdbAddNumberToList]),
    cmdbAddLocaleId, Prog.bind_run_ok h.locale.run, Prog.ite_run,
    if_neg (by simp [cmdbAddNumberToList]), cmdbAddSchemeId, Prog.bind_run_ok h.scheme.run,
    Prog.ite_run, if_neg (by simp [cmdbAddNumberToList])]
  rfl

/-- The search goes on behind a lookup only if one id is found. -/
theorem finds_of_lookup {l : Lookup} {b b' : List AilsaData} {n : ℕ} (hn : n = b.length + 1)
    {f : List ℕ → CbcProg (Option (List AilsaData))}
    (h : ((cbcLookup env l >>= fun ids =>
      if (b ++ ids.map AilsaData.number).length ≠ n then pure none else f ids) w).1 =
        .ok (some b')) :
    ∃ id, Finds env w.build l id ∧ (f [id] w).1 = .ok (some b') := by
  obtain ⟨ids, hids, h⟩ := (readOnly_cbcLookup _ _).bind_ok h
  rw [Prog.ite_run] at h
  split_ifs at h with hlen
  · cases h
  rw [not_not, List.length_append, List.length_map, hn, Nat.add_left_cancel_iff] at hlen
  obtain ⟨id, rfl⟩ := List.length_eq_one_iff.mp hlen
  exact ⟨id, cbcLookup_singleton_iff.mp hids, h⟩

theorem searched_of_createBuildSearch {b : List AilsaData}
    (h : (createBuildSearch env cml w).1 = .ok (some b)) :
    ∃ p, Searched env w.build cml p ∧ b = p.list := by
  rw [createBuildSearch] at h
  obtain ⟨l, hl, h⟩ := (readOnly_cbcQuery _ _ _ _).bind_ok h
  obtain ⟨hbuild, hl⟩ := cbcQuery_ok hl
  rw [Prog.ite_run] at h
  split_ifs at h with hnone
  · cases h
  obtain ⟨sid, hsid, h⟩ := (readOnly_cmdbCheckAddServerId _ _ _).bind_ok h
  obtain ⟨b, hb, h⟩ := (readOnly_cbcGetNetworkInfo _ _ _).bind_ok h
  obtain ⟨netcard, mac, macs, hcard, hmacq, hmac, rfl⟩ := cbcGetNetworkInfo_ok hb
  rw [Prog.ite_run, if_neg (by simp)] at h
  obtain ⟨v, hv, h⟩ := (readOnly_cmdbCheckAddVarientId _ _).bind_ok h
  obtain ⟨os, hos, h⟩ := finds_of_lookup rfl h
  obtain ⟨locale, hlocale, h⟩ := finds_of_lookup rfl h
  obtain ⟨scheme, hscheme, h⟩ := finds_of_lookup rfl h
  obtain ⟨hserver, hsid⟩ := cmdbCheckAddServerId_ok hsid
  refine ⟨⟨sid, arg netcard, arg mac, v, os, locale, scheme⟩, ?_, ?_⟩
  · exact
      { build := ⟨hbuild, by simpa [← hl] using hnone⟩
        server := ⟨hserver, hsid⟩
        netcard := ⟨netcard, hcard, rfl⟩
        mac := ⟨hmacq, mac, macs, hmac, rfl⟩
        varient := cmdbCheckAddVarientId_ok_iff.mp hv
        os := hos
        locale := hlocale
        scheme := hscheme }
  · exact (Option.some.inj (Except.ok.inj h)).symm

/-! ## The disk -/

/-- The statements of `cbc_add_disk` succeed, and find the scheme. -/
def DiskReady (env : CbcEnv) (db : BuildDb) (p : BuildParts) : Prop :=
  env.sql .serverIdOnName 2 = true ∧ env.sql .seedSchemeLvmOnId 0 = true ∧
    db.lvmOnId p.schemeId ≠ [] ∧ env.sql .insertDiskDev 0 = true

/-- `cbc_add_disk` returns an error. -/
def DiskRefused (env : CbcEnv) (db : BuildDb) (cml : CbcCommLine) (p : BuildParts) : Prop :=
  env.sql .diskIdOnServerName 0 = false ∨
    (db.diskIds (arg cml.name) = [] ∧ ¬DiskReady env db p)

/-- The tables with other disks. -/
def CbcWorld.withDisks (w : CbcWorld) (disks : List DiskDev) : CbcWorld :=
  { w with build := { w.build with diskDevs := disks } }

theorem serverIdOnName_of_serverIds {db : BuildDb} {name : CStr} {id : ℕ}
    (h : db.serverIds name = [id]) : db.serverIdOnName name = some id := by
  rw [BuildDb.serverIdOnName, ← List.head?_filter, ← List.head?_map]
  exact congrArg List.head? h

theorem tailNumber_list (p : BuildParts) : tailNumber p.list = .ok p.schemeId := rfl

theorem newDiskDev_eq (sid : ℕ) (disk : CStr) (lvm : List ℕ) :
    newDiskDev (cmdbAddStringToList disk [.number sid] ++ lvm.map .number) =
      match lvm with
      | [] => .error .wrongListLenght
      | l :: _ => .ok fun id => ⟨id, sid, arg disk, l⟩ := by
  cases lvm <;> rfl

theorem cbcAddDisk_refuses {p : BuildParts} (h : DiskRefused env w.build cml p) :
    Prog.Refuses (cbcAddDisk env cml p.list) w := by
  rw [cbcAddDisk]
  refine (readOnly_cbcQuery _ _ _ _).refuses_bind fun list hlist => ?_
  obtain ⟨hq, rfl⟩ := cbcQuery_ok hlist
  obtain ⟨hnone, hready⟩ := h.resolve_left (by simp [hq])
  rw [hnone, Prog.Refuses, Prog.ite_run, if_neg (by simp)]
  refine (readOnly_cmdbCheckAddServerId _ _ _).refuses_bind fun sid hsid => ?_
  refine (readOnly_cbcRet _).refuses_bind fun scheme hscheme => ?_
  refine (readOnly_cbcQuery _ _ _ _).refuses_bind fun lvm hlvm => ?_
  refine (readOnly_cbcRet _).refuses_bind fun row hrow => ?_
  obtain ⟨hserver, -⟩ := cmdbCheckAddServerId_ok hsid
  obtain ⟨hlvmq, hlvm⟩ := cbcQuery_ok hlvm
  obtain rfl : p.schemeId = scheme := Except.ok.inj hscheme
  rw [cbcRet, Prog.reads_run, newDiskDev_eq] at hrow
  rcases lvm with _ | ⟨l, lvm⟩
  · cases hrow
  refine ⟨.statementFail, ?_⟩
  rw [cbcStatement_run, if_neg]
  intro hins
  exact hready ⟨hserver, hlvmq, by rw [← hlvm]; exact List.cons_ne_nil _ _, hins⟩

/-- The server has a disk then, and it is a new one exactly if it had none. -/
theorem cbcAddDisk_run {p : BuildParts} (h : ¬DiskRefused env w.build cml p)
    (hsearched : Searched env w.build cml p) :
    ∃ disks, cbcAddDisk env cml p.list w = (.ok (), w.withDisks disks) ∧
      (disks = w.build.diskDevs ↔ w.build.diskIds (arg cml.name) ≠ []) ∧
      (w.withDisks disks).build.diskIds (arg cml.name) ≠ [] := by
  rw [DiskRefused, not_or, Bool.not_eq_false, not_and, not_not] at h
  obtain ⟨hq, hready⟩ := h
  by_cases hnone : w.build.diskIds (arg cml.name) = []
  · obtain ⟨hserver, hlvmq, hlvm, hins⟩ := hready hnone
    obtain ⟨l, lvm, hlvm⟩ := List.exists_cons_of_ne_nil hlvm
    refine ⟨w.build.diskDevs ++ [⟨nextId (w.build.diskDevs.map DiskDev.id), p.serverId,
      arg (snprintf hostLen ("/dev/".toList ++ cml.harddisk)), l⟩], ?_, by simp [hnone], ?_⟩
    · rw [cbcAddDisk, Prog.bind_run_ok (by rw [cbcQuery_run, if_pos hq]), hnone, if_neg (by simp),
        Prog.bind_run_ok (by rw [cmdbCheckAddServerId_run, if_pos hserver, hsearched.server.2]),
        Prog.bind_run_ok (by rw [cbcRet, Prog.reads_run, tailNumber_list]),
        Prog.bind_run_ok (by rw [cbcQuery_run, if_pos hlvmq]),
        Prog.bind_run_ok (by rw [cbcRet, Prog.reads_run, hlvm, newDiskDev_eq]),
        cbcStatement_run, if_pos hins]
      rfl
    · change List.map _ (List.filter (fun d : DiskDev => some d.serverId =
        w.build.serverIdOnName (arg cml.name)) (_ ++ [_])) ≠ []
      rw [serverIdOnName_of_serverIds hsearched.server.2]
      simp
  · refine ⟨w.build.diskDevs, ?_, by simp [hnone], hnone⟩
    rw [cbcAddDisk, Prog.bind_run_ok (by rw [cbcQuery_run, if_pos hq]),
      if_pos (List.length_pos_iff.mpr hnone)]
    rfl

/-! ## The address -/

/-- The build domain asked for. -/
def BuildDb.chosenDomain (db : BuildDb) (cml : CbcCommLine) : Option BuildDomain :=
  (db.domainTexts (cml.buildDomain.map arg)).head?.bind fun name => (db.netInfo name).head?

/-- The queries for the build domain succeed and find `d`, and `ip` of `d` is entered. -/
def EntersIp (env : CbcEnv) (w : CbcWorld) (cml : CbcCommLine) (d : BuildDomain) (ip : ℕ) : Prop :=
  TextsAsked env cml.buildDomain 2 ∧ env.sql .buildDomainNetInfo 0 = true ∧
    w.build.chosenDomain cml = some d ∧ Enters env w cml d.startIp d.endIp ip

theorem readOnly_cbcGetBuildDomInfo (env : CbcEnv) (cml : CbcCommLine) :
    Prog.ReadOnly (cbcGetBuildDomInfo env cml) := by
  refine (readOnly_cbcDomainTexts _ _ _).bind fun list => ?_
  split
  · exact Prog.ReadOnly.fail _
  · refine (readOnly_cbcQuery _ _ _ _).bind fun bdom => ?_
    split
    · exact Prog.ReadOnly.fail _
    · exact Prog.ReadOnly.pure _

theorem cbcGetBuildDomInfo_ok_iff {ips : ℕ × ℕ} : (cbcGetBuildDomInfo env cml w).1 = .ok ips ↔
    TextsAsked env cml.buildDomain 2 ∧ env.sql .buildDomainNetInfo 0 = true ∧
      ∃ d, w.build.chosenDomain cml = some d ∧ ips = (d.startIp, d.endIp) := by
  rw [cbcGetBuildDomInfo, BuildDb.chosenDomain]
  constructor
  · intro h
    obtain ⟨list, hlist, h⟩ := (readOnly_cbcDomainTexts _ _ _).bind_ok h
    obtain ⟨htext, hlist⟩ := cbcDomainTexts_ok hlist
    rcases list with _ | ⟨name, list⟩
    · cases h
    obtain ⟨bdom, hbdom, h⟩ := (readOnly_cbcQuery _ _ _ _).bind_ok h
    obtain ⟨hq, hbdom⟩ := cbcQuery_ok hbdom
    rcases bdom with _ | ⟨d, bdom⟩
    · cases h
    · refine ⟨(textsAsked_map ..).mp htext, hq, d, ?_, (Except.ok.inj h).symm⟩
      rw [← hlist, List.head?_cons, Option.bind_some, ← hbdom, List.head?_cons]
  · rintro ⟨htext, hq, d, hd, rfl⟩
    obtain ⟨name, hname, hd⟩ := Option.bind_eq_some_iff.mp hd
    obtain ⟨list, hlist⟩ := List.head?_eq_some_iff.mp hname
    obtain ⟨bdom, hbdom⟩ := List.head?_eq_some_iff.mp hd
    rw [Prog.bind_run_ok (by rw [cbcDomainTexts_run, if_pos ((textsAsked_map ..).mpr htext)]),
      hlist]
    dsimp only
    rw [Prog.bind_run_ok (by rw [cbcQuery_run, if_pos hq]), hbdom]
    rfl

/-! ## The address and the build -/

/-- The steps of `create_build_config` after the disk. -/
def addressAndBuild (dc : Dc) (env : CbcEnv) (cml : CbcCommLine) (b : List AilsaData) :
    CbcProg Unit := do
  let b ← cbcGetIpInfo dc env cml b
  createBuildInsert dc env b

/-- The row of the build with an address. -/
def BuildParts.row (p : BuildParts) (ipId id : ℕ) : Build :=
  ⟨id, p.serverId, p.netcard, p.mac, p.varientId, p.osId, p.localeId, p.schemeId, ipId⟩

theorem createBuildInsert_run (dc : Dc) (env : CbcEnv) (p : BuildParts) (ipId : ℕ) (w : CbcWorld) :
    createBuildInsert dc env (p.list ++ [.number ipId]) w =
      if env.sql .insertBuild 0 then (.ok (), { w with build := w.build.insertBuild (p.row ipId) })
      else (.error .statementFail, w) := by
  have hrow : newBuild (cmdbPopulateCuserMuser dc.uid (p.list ++ [.number ipId])) =
      .ok (p.row ipId) := rfl
  rw [createBuildInsert, if_neg (by simp [BuildParts.list]),
    Prog.bind_run_ok (by rw [cbcRet, Prog.reads_run, hrow]), cbcStatement_run]

theorem createBuildInsert_list (dc : Dc) (env : CbcEnv) (p : BuildParts) (w : CbcWorld) :
    createBuildInsert dc env p.list w = (.ok (), w) := by
  rw [createBuildInsert, if_pos (by simp [BuildParts.list])]
  rfl

theorem addressAndBuild_refuses {b : List AilsaData} (h : env.sql .ipIdOnServerName 0 = false) :
    addressAndBuild dc env cml b w = (.error .statementFail, w) := by
  refine Prog.bind_run_error ?_ _
  rw [cbcGetIpInfo]
  refine Prog.bind_run_error ?_ _
  rw [cmdbAddIpId, cbcQuery_run, h]
  rfl

/-- A server with an address gets the build at once. -/
theorem addressAndBuild_of_ipIds (dc : Dc) (p : BuildParts)
    (hq : env.sql .ipIdOnServerName 0 = true) {id : ℕ} {ids : List ℕ}
    (hids : w.build.ipIds (arg cml.name) = id :: ids) :
    addressAndBuild dc env cml p.list w =
      if env.sql .insertBuild 0 then (.ok (), { w with build := w.build.insertBuild (p.row id) })
      else (.error .statementFail, w) := by
  have hinfo : cbcGetIpInfo dc env cml p.list w = (.ok (p.list ++ [.number id]), w) := by
    rw [cbcGetIpInfo, Prog.bind_run_ok (by rw [cmdbAddIpId, cbcQuery_run, if_pos hq]), hids]
    rfl
  rw [addressAndBuild, Prog.bind_run_ok hinfo, createBuildInsert_run]

/-- The steps for a server without an address, after the domain is found. -/
theorem addressAndBuild_of_domain {p : BuildParts} (hq : env.sql .ipIdOnServerName 0 = true)
    (hids : w.build.ipIds (arg cml.name) = []) {d : BuildDomain}
    (htext : TextsAsked env cml.buildDomain 2) (hnet : env.sql .buildDomainNetInfo 0 = true)
    (hd : w.build.chosenDomain cml = some d) :
    addressAndBuild dc env cml p.list w = (do
      cbcCalculateBuildIp dc env cml d.startIp d.endIp
      let ids ← cmdbAddIpId env cml.name 2
      createBuildInsert dc env (p.list ++ ids.map AilsaData.number)) w := by
  have hinfo := cbcGetBuildDomInfo_ok_iff.mpr ⟨htext, hnet, d, hd, rfl⟩
  rw [addressAndBuild, Prog.bind_run, cbcGetIpInfo,
    Prog.bind_run_ok (by rw [cmdbAddIpId, cbcQuery_run, if_pos hq]), hids]
  dsimp only
  rw [(readOnly_cbcGetBuildDomInfo _ _).bind_run_of_ok hinfo, Prog.bind_run, Prog.bind_run]
  rcases cbcCalculateBuildIp dc env cml d.startIp d.endIp w with ⟨e | u, w'⟩
  · rfl
  · dsimp only
    rw [Prog.bind_run, Prog.bind_run]
    rcases cmdbAddIpId env cml.name 2 w' with ⟨e | ids, w''⟩ <;> rfl

/-- Where no address is entered, nothing is. -/
theorem addressAndBuild_of_not_enters (dc : Dc) (p : BuildParts)
    (hids : w.build.ipIds (arg cml.name) = []) (h : ∀ d ip, ¬EntersIp env w cml d ip) :
    (addressAndBuild dc env cml p.list w).2 = w := by
  cases hq : env.sql .ipIdOnServerName 0 with
  | false => rw [addressAndBuild_refuses hq]
  | true =>
    rcases hinfo : (cbcGetBuildDomInfo env cml w).1 with e | ips
    · have hrun : cbcGetIpInfo dc env cml p.list w = (.error e, w) := by
        rw [cbcGetIpInfo, Prog.bind_run_ok (by rw [cmdbAddIpId, cbcQuery_run, if_pos hq]), hids]
        exact Prog.bind_run_error (by rw [(readOnly_cbcGetBuildDomInfo _ _).run_eq, hinfo]) _
      rw [addressAndBuild, Prog.bind_run_error hrun]
    · obtain ⟨htext, hnet, d, hd, rfl⟩ := cbcGetBuildDomInfo_ok_iff.mp hinfo
      have hsame := cbcCalculateBuildIp_of_not_enters dc fun ip hip =>
        h d ip ⟨htext, hnet, hd, hip⟩
      rw [addressAndBuild_of_domain hq hids htext hnet hd, Prog.bind_run]
      rcases hcalc : cbcCalculateBuildIp dc env cml d.startIp d.endIp w with ⟨e | u, w'⟩
      · rw [hcalc] at hsame
        exact hsame
      · rw [hcalc] at hsame
        obtain rfl : w' = w := hsame
        dsimp only
        by_cases hq2 : env.sql .ipIdOnServerName 2
        · rw [Prog.bind_run_ok (by rw [cmdbAddIpId, cbcQuery_run, if_pos hq2]), hids, List.map_nil,
            List.append_nil, createBuildInsert_list]
        · rw [Prog.bind_run_error (by rw [cmdbAddIpId, cbcQuery_run, if_neg hq2])]

/-- The `A` record of a host. -/
def hostRecord (id : ℕ) (host : CStr) (ip : ℕ) : List AilsaData :=
  [.number id, .text "A".toList, .text (arg host), .text (inetNtop ip)]

theorem hostRecord_eq (id : ℕ) (host : CStr) (ip : ℕ) :
    cmdbAddStringToList (inetNtop ip) (cmdbAddStringToList host
      (cmdbAddStringToList "A".toList [.number id])) = hostRecord id host ip := by
  have hip : arg (inetNtop ip) = inetNtop ip :=
    arg_of_length_le ((Quad.length_text_lt _).le.trans (by decide))
  simp only [cmdbAddStringToList, hip]
  rfl

/-- The statements of `cbc_add_host_to_dns` succeed, and find one master zone. -/
def DnsReady (env : ZoneEnv) (db : ZoneDb) (domain host : CStr) (ip : ℕ) : Prop :=
  ip ≠ 0 ∧ env.sql .fwdZoneIdOnZoneName domain 0 = true ∧ env.sql .recordIdBase [] 0 = true ∧
    ∃ id, db.fwdZoneIds (arg domain) (arg "master".toList) = [id] ∧
      (db.recordIds (hostRecord id host ip) ≠ [] ∨
        env.sql .insertRecordBase [] 0 = true ∧ env.sql .setFwdZoneUpdated [] id = true)

theorem cbcAddHostToDns_ok_iff (dc : Dc) {env : ZoneEnv} {w : ZoneWorld} {domain host : CStr}
    {ip : ℕ} :
    (cbcAddHostToDns dc env domain host ip w).1 = .ok () ↔ DnsReady env w.db domain host ip := by
  rw [cbcAddHostToDns, DnsReady]
  simp only [hostRecord_eq]
  constructor
  · intro h
    obtain ⟨_, hip, h⟩ := (Prog.ReadOnly.require _ _).bind_ok h
    obtain ⟨id, hid, h⟩ := (readOnly_cmdbCheckAddZoneId _ _ _).bind_ok h
    obtain ⟨n, hn, h⟩ := (readOnly_cmdbCheckForFwdRecord _ _).bind_ok h
    obtain ⟨hzone, hid⟩ := cmdbCheckAddZoneId_ok_iff.mp hid
    obtain ⟨hrec, hn⟩ := (cmdbCheckForFwdRecord_base_iff rfl).mp hn
    refine ⟨by simpa using Prog.require_ok hip, hzone, hrec, id, hid, ?_⟩
    rw [Prog.ite_run, ← hn] at h
    split at h
    · rename_i hpos
      exact .inl (List.length_pos_iff.mp hpos)
    · rw [Prog.bind_run, statement_run] at h
      cases hins : env.sql .insertRecordBase [] 0 with
      | false =>
        rw [hins] at h
        cases h
      | true =>
        rw [hins] at h
        obtain ⟨id', hid', h⟩ := (readOnly_cmdbCheckAddZoneId _ _ _).bind_ok h
        obtain rfl : id = id' := by
          have hsame := (cmdbCheckAddZoneId_ok_iff.mp hid').2
          exact List.singleton_inj.mp (hid.symm.trans hsame)
        refine .inr ⟨rfl, ?_⟩
        by_contra hset
        rw [statement_run, if_neg hset] at h
        cases h
  · rintro ⟨hip, hzone, hrec, id, hid, h⟩
    rw [(Prog.ReadOnly.require _ _).bind_run_of_ok
        (by rw [Prog.require_run, if_pos (by simpa using hip)]),
      (readOnly_cmdbCheckAddZoneId _ _ _).bind_run_of_ok
        (cmdbCheckAddZoneId_ok_iff.mpr ⟨hzone, hid⟩),
      (readOnly_cmdbCheckForFwdRecord _ _).bind_run_of_ok
        ((cmdbCheckForFwdRecord_base_iff rfl).mpr ⟨hrec, rfl⟩), Prog.ite_run]
    rcases h with hfound | ⟨hins, hset⟩
    · exact congrArg Prod.fst (if_pos (List.length_pos_iff.mpr hfound))
    · split
      · rfl
      · -- the insert leaves the zones as they are
        have hagain : (cmdbCheckAddZoneId env domain "master".toList
            ⟨w.db.insertRecord (cmdbPopulateCuserMuser dc.uid (hostRecord id host ip)),
              w.files⟩).1 = .ok id := cmdbCheckAddZoneId_ok_iff.mpr ⟨hzone, hid⟩
        rw [Prog.bind_run_ok (by rw [statement_run, if_pos hins]),
          (readOnly_cmdbCheckAddZoneId _ _ _).bind_run_of_ok hagain, statement_run, if_pos hset]

/-- The server of the row of an address. With two build domains of the name it is another
one, as the second id stands where that of the server belongs. -/
def BuildDb.entryServer (db : BuildDb) (cml : CbcCommLine) : ℕ :=
  ((db.domainIds cml.buildDomain ++ db.serverIds (arg cml.name))[1]?).getD 0

/-- Every step after the address succeeds, and the row of the address is the server's. -/
def EntryCompletes (env : CbcEnv) (w : CbcWorld) (cml : CbcCommLine) (p : BuildParts) (ip : ℕ) :
    Prop :=
  w.build.entryServer cml = p.serverId ∧ env.sql .ipIdOnServerName 1 = true ∧
    DnsReady env.zone w.zone.db (w.build.domainName cml) cml.name ip ∧
    env.sql .ipIdOnServerName 2 = true ∧ env.sql .insertBuild 0 = true

theorem ipIds_insertBuildIp {db : BuildDb} {name : CStr} {sid owner : ℕ}
    (hsid : db.serverIds name = [sid]) (hids : db.ipIds name = []) {row : ℕ → BuildIp}
    (hrow : ∀ id, (row id).serverId = owner) :
    (db.insertBuildIp row).ipIds name =
      if owner = sid then [(row (nextId (db.buildIps.map BuildIp.id))).id] else [] := by
  have happend : (db.insertBuildIp row).ipIds name = db.ipIds name ++
      (([row (nextId (db.buildIps.map BuildIp.id))].filter fun b =>
        some b.serverId = db.serverIdOnName name).map BuildIp.id) := by
    rw [BuildDb.ipIds, BuildDb.ipIds, ← List.map_append, ← List.filter_append]
    rfl
  rw [happend, hids, serverIdOnName_of_serverIds hsid, List.nil_append]
  split_ifs with h <;> simp [hrow, h]

/-- With a new address the build follows, or the tables keep the address without it. -/
theorem addressAndBuild_of_enters (dc : Dc) {p : BuildParts}
    (hsid : w.build.serverIds (arg cml.name) = [p.serverId])
    (hq : env.sql .ipIdOnServerName 0 = true) (hids : w.build.ipIds (arg cml.name) = [])
    {d : BuildDomain} {ip : ℕ} (h : EntersIp env w cml d ip) :
    ∃ r bs z, addressAndBuild dc env cml p.list w =
        (r, ⟨{ w.build.insertBuildIp (w.build.entryRow cml ip) with builds := bs }, z⟩) ∧
      (EntryCompletes env w cml p ip ∧ r = .ok () ∧
          (∃ row, bs = w.build.builds ++ [row] ∧ row.serverId = p.serverId) ∨
        ¬EntryCompletes env w cml p ip ∧ (r ≠ .ok () ∨ bs = w.build.builds)) := by
  obtain ⟨htext, hnet, hd, henters⟩ := h
  have howner : ∀ id, (w.build.entryRow cml ip id).serverId = w.build.entryServer cml :=
    fun _ => rfl
  have hagain := ipIds_insertBuildIp hsid hids howner
  rw [addressAndBuild_of_domain hq hids htext hnet hd, Prog.bind_run,
    cbcCalculateBuildIp_enters_run henters]
  by_cases hq1 : env.sql .ipIdOnServerName 1
  swap
  · rw [if_neg hq1]
    exact ⟨_, w.build.builds, w.zone, rfl, .inr ⟨fun hc => hq1 hc.2.1, .inr rfl⟩⟩
  rw [if_pos hq1, onZone]
  rcases hdns : cbcAddHostToDns dc env.zone (w.build.domainName cml) cml.name ip w.zone with
    ⟨e | u, z⟩
  · refine ⟨.error e, w.build.builds, z, rfl, .inr ⟨fun hc => ?_, .inr rfl⟩⟩
    have hok := (cbcAddHostToDns_ok_iff dc).mpr hc.2.2.1
    rw [hdns] at hok
    cases hok
  have hready : DnsReady env.zone w.zone.db (w.build.domainName cml) cml.name ip :=
    (cbcAddHostToDns_ok_iff dc).mp (by rw [hdns])
  dsimp only
  by_cases hq2 : env.sql .ipIdOnServerName 2
  swap
  · rw [Prog.bind_run_error (by rw [cmdbAddIpId, cbcQuery_run, if_neg hq2])]
    exact ⟨_, w.build.builds, z, rfl, .inr ⟨fun hc => hq2 hc.2.2.2.1, .inr rfl⟩⟩
  rw [Prog.bind_run_ok (by rw [cmdbAddIpId, cbcQuery_run, if_pos hq2]),
    hagain]
  by_cases hown : w.build.entryServer cml = p.serverId
  swap
  · rw [if_neg hown, List.map_nil, List.append_nil, createBuildInsert_list]
    exact ⟨_, w.build.builds, z, rfl, .inr ⟨fun hc => hown hc.1, .inr rfl⟩⟩
  rw [if_pos hown, List.map_singleton, createBuildInsert_run]
  by_cases hins : env.sql .insertBuild 0
  · rw [if_pos hins]
    exact ⟨_, _, z, rfl, .inl ⟨⟨hown, hq1, hready, hq2, hins⟩, rfl, _, rfl, rfl⟩⟩
  · rw [if_neg hins]
    exact ⟨_, w.build.builds, z, rfl, .inr ⟨fun hc => hins hc.2.2.2.2, .inr rfl⟩⟩

/-! ## All or nothing -/

/-- The server has an address inside the build domain asked for. -/
def HasAddress (db : BuildDb) (cml : CbcCommLine) : Prop :=
  ∃ d, db.chosenDomain cml = some d ∧ ∃ b ∈ db.buildIps,
    some b.serverId = db.serverIdOnName (arg cml.name) ∧ d.startIp ≤ b.ip ∧ b.ip ≤ d.endIp

/-- The server has a build, a disk, and an address inside the build domain asked for. -/
def BuildComplete (db : BuildDb) (cml : CbcCommLine) : Prop :=
  db.buildIds (arg cml.name) ≠ [] ∧ db.diskIds (arg cml.name) ≠ [] ∧ HasAddress db cml

/-- Builds, disks, addresses and DNS records are the same. -/
def SameTables (w w' : CbcWorld) : Prop :=
  w'.build.builds = w.build.builds ∧ w'.build.diskDevs = w.build.diskDevs ∧
    w'.build.buildIps = w.build.buildIps ∧ w'.zone.db.records = w.zone.db.records

/-- Code `0` and a complete build, or no change. -/
def AllOrNothing (cml : CbcCommLine) (w : CbcWorld) (r : Except AilsaError Unit × CbcWorld) :
    Prop :=
  (r.1 = .ok () ∧ BuildComplete r.2.build cml) ∨ SameTables w r.2

/-- After the disk nothing is entered. -/
def NothingEntered (env : CbcEnv) (w : CbcWorld) (cml : CbcCommLine) : Prop :=
  env.sql .ipIdOnServerName 0 = false ∨
    (w.build.ipIds (arg cml.name) ≠ [] ∧ env.sql .insertBuild 0 = false) ∨
    (w.build.ipIds (arg cml.name) = [] ∧ ∀ d ip, ¬EntersIp env w cml d ip)

/-- After the disk everything is entered, with an address inside the domain. -/
def AllEntered (env : CbcEnv) (w : CbcWorld) (cml : CbcCommLine) (p : BuildParts) : Prop :=
  env.sql .ipIdOnServerName 0 = true ∧
    ((w.build.ipIds (arg cml.name) ≠ [] ∧ env.sql .insertBuild 0 = true ∧
        HasAddress w.build cml) ∨
      (w.build.ipIds (arg cml.name) = [] ∧ ∃ d ip, EntersIp env w cml d ip ∧ d.startIp ≤ ip ∧
        ip ≤ d.endIp ∧ EntryCompletes env w cml p ip))

/-- `cbc_add_disk` refuses, or the server has a disk and nothing is entered, or everything
is. -/
def CreateSafe (env : CbcEnv) (w : CbcWorld) (cml : CbcCommLine) (p : BuildParts) : Prop :=
  DiskRefused env w.build cml p ∨
    (w.build.diskIds (arg cml.name) ≠ [] ∧ NothingEntered env w cml) ∨ AllEntered env w cml p

theorem Searched.unique {p p' : BuildParts} (h : Searched env w.build cml p)
    (h' : Searched env w.build cml p') : p = p' := by
  have hrun := createBuildSearch_of_searched h
  rw [createBuildSearch_of_searched h'] at hrun
  have hlist : p'.list = p.list :=
    Option.some.inj (Except.ok.inj (congrArg Prod.fst hrun))
  cases p
  cases p'
  simpa [BuildParts.list, eq_comm] using hlist

/-- Without a new build nothing must have changed. -/
theorem allOrNothing_of_withDisks {r : Except AilsaError Unit × CbcWorld} {disks : List DiskDev}
    (hr : r.2 = w.withDisks disks) (hnone : w.build.buildIds (arg cml.name) = []) :
    AllOrNothing cml w r ↔ disks = w.build.diskDevs := by
  rw [AllOrNothing, hr]
  constructor
  · rintro (⟨-, hbuild, -⟩ | hsame)
    · exact absurd hnone hbuild
    · exact hsame.2.1
  · exact fun h => .inr ⟨rfl, h, rfl, rfl⟩

theorem buildIds_append {db : BuildDb} {name : CStr} {sid : ℕ} (hsid : db.serverIds name = [sid])
    {row : Build} (hrow : row.serverId = sid) :
    ({ db with builds := db.builds ++ [row] } : BuildDb).buildIds name ≠ [] := by
  change List.map _ (List.filter (fun b : Build => some b.serverId = db.serverIdOnName name)
    (_ ++ [_])) ≠ []
  rw [serverIdOnName_of_serverIds hsid]
  simp [hrow]

/-- A new address is the only one of its server. -/
theorem hasAddress_insertBuildIp {db : BuildDb} {sid : ℕ} (ip : ℕ) {d : BuildDomain}
    (hsid : db.serverIds (arg cml.name) = [sid]) (hids : db.ipIds (arg cml.name) = [])
    (hd : db.chosenDomain cml = some d) (hown : db.entryServer cml = sid) :
    HasAddress (db.insertBuildIp (db.entryRow cml ip)) cml ↔ d.startIp ≤ ip ∧ ip ≤ d.endIp := by
  have hid := serverIdOnName_of_serverIds hsid
  constructor
  · rintro ⟨d', hd', b, hb, hserver, hrange⟩
    obtain rfl : d = d' := Option.some.inj (hd.symm.trans hd')
    rcases List.mem_append.mp hb with hb | hb
    · have hmem : b.id ∈ db.ipIds (arg cml.name) :=
        List.mem_map_of_mem (List.mem_filter.mpr ⟨hb, decide_eq_true hserver⟩)
      rw [hids] at hmem
      exact absurd hmem List.not_mem_nil
    · rw [List.mem_singleton.mp hb] at hrange
      exact hrange
  · intro hrange
    refine ⟨d, hd, _, List.mem_append_right _ (List.mem_singleton_self _), ?_, hrange⟩
    exact (congrArg some hown).trans hid.symm

section Steps

variable {p : BuildParts} {disks : List DiskDev}

/-- The steps after the disk, for a server with an address. -/
theorem addressAndBuild_allOrNothing_of_ipIds (dc : Dc) (hs : Searched env w.build cml p)
    (hdisk : (w.withDisks disks).build.diskIds (arg cml.name) ≠ [])
    (hq : env.sql .ipIdOnServerName 0 = true) (hids : w.build.ipIds (arg cml.name) ≠ []) :
    AllOrNothing cml w (addressAndBuild dc env cml p.list (w.withDisks disks)) ↔
      (disks = w.build.diskDevs ∧ env.sql .insertBuild 0 = false) ∨
        (env.sql .insertBuild 0 = true ∧ HasAddress w.build cml) := by
  obtain ⟨id, ids, hids⟩ := List.exists_cons_of_ne_nil hids
  have hrun := addressAndBuild_of_ipIds dc p (w := w.withDisks disks) hq hids
  cases hins : env.sql .insertBuild 0 with
  | false =>
    have hsame : AllOrNothing cml w (.error .statementFail, w.withDisks disks) ↔
        disks = w.build.diskDevs := allOrNothing_of_withDisks rfl hs.build.2
    rw [hrun, hins, if_neg (by simp), hsame]
    simp
  | true =>
    rw [hrun, hins, if_pos rfl]
    constructor
    · rintro (⟨-, -, -, haddress⟩ | hsame)
      · exact .inr ⟨rfl, haddress⟩
      · exact absurd hsame.1 (by simp [BuildDb.insertBuild, CbcWorld.withDisks])
    · rintro (⟨-, h⟩ | ⟨-, haddress⟩)
      · cases h
      · exact .inl ⟨rfl, buildIds_append hs.server.2 rfl, hdisk, haddress⟩

/-- The steps after the disk, for a server without an address. -/
theorem addressAndBuild_allOrNothing_of_enters (dc : Dc) (hs : Searched env w.build cml p)
    (hdisk : (w.withDisks disks).build.diskIds (arg cml.name) ≠ [])
    (hq : env.sql .ipIdOnServerName 0 = true) (hids : w.build.ipIds (arg cml.name) = [])
    {d : BuildDomain} {ip : ℕ} (h : EntersIp env w cml d ip) :
    AllOrNothing cml w (addressAndBuild dc env cml p.list (w.withDisks disks)) ↔
      d.startIp ≤ ip ∧ ip ≤ d.endIp ∧ EntryCompletes env w cml p ip := by
  obtain ⟨r, bs, z, hrun, houtcome⟩ := addressAndBuild_of_enters dc (w := w.withDisks disks)
    hs.server.2 hq hids h
  have hchanged : ¬SameTables w (addressAndBuild dc env cml p.list (w.withDisks disks)).2 := by
    rw [hrun]
    rintro ⟨-, -, hips, -⟩
    exact absurd hips (by simp [BuildDb.insertBuildIp, CbcWorld.withDisks])
  rw [AllOrNothing, or_iff_left hchanged, hrun]
  rcases houtcome with ⟨hc, rfl, row, rfl, hrow⟩ | ⟨hc, hfail⟩
  · have haddress := hasAddress_insertBuildIp ip hs.server.2 hids h.2.2.1 hc.1
    constructor
    · rintro ⟨-, -, -, haddr⟩
      have hrange := haddress.mp haddr
      exact ⟨hrange.1, hrange.2, hc⟩
    · rintro ⟨hstart, hend, -⟩
      exact ⟨rfl, buildIds_append hs.server.2 hrow, hdisk, haddress.mpr ⟨hstart, hend⟩⟩
  · refine iff_of_false ?_ fun hall => hc hall.2.2
    rintro ⟨hok, hbuild, -⟩
    rcases hfail with hfail | rfl
    · exact hfail hok
    · exact hbuild hs.build.2

/-- The steps after the disk. -/
theorem addressAndBuild_allOrNothing_iff (dc : Dc) (hs : Searched env w.build cml p)
    (hdisk : (w.withDisks disks).build.diskIds (arg cml.name) ≠ []) :
    AllOrNothing cml w (addressAndBuild dc env cml p.list (w.withDisks disks)) ↔
      (disks = w.build.diskDevs ∧ NothingEntered env w cml) ∨ AllEntered env w cml p := by
  rw [NothingEntered, AllEntered]
  cases hq : env.sql .ipIdOnServerName 0 with
  | false =>
    have hsame : AllOrNothing cml w (.error .statementFail, w.withDisks disks) ↔
        disks = w.build.diskDevs := allOrNothing_of_withDisks rfl hs.build.2
    rw [addressAndBuild_refuses hq, hsame]
    simp
  | true =>
    by_cases hids : w.build.ipIds (arg cml.name) = []
    · by_cases henters : ∃ d ip, EntersIp env w cml d ip
      · obtain ⟨d, ip, h⟩ := henters
        rw [addressAndBuild_allOrNothing_of_enters dc hs hdisk hq hids h]
        constructor
        · exact fun hc => .inr ⟨rfl, .inr ⟨hids, d, ip, h, hc⟩⟩
        · rintro (⟨-, hnone | ⟨hne, -⟩ | ⟨-, hnone⟩⟩ | ⟨-, ⟨hne, -⟩ | ⟨-, d', ip', h', hc⟩⟩)
          · cases hnone
          · exact absurd hids hne
          · exact absurd h (hnone d ip)
          · exact absurd hids hne
          · obtain rfl : d = d' := Option.some.inj (h.2.2.1.symm.trans h'.2.2.1)
            obtain rfl : ip = ip' := h.2.2.2.unique h'.2.2.2
            exact hc
      · have hnone : ∀ d ip, ¬EntersIp env w cml d ip := fun d ip h => henters ⟨d, ip, h⟩
        have hsame := addressAndBuild_of_not_enters dc p (w := w.withDisks disks)
          hids hnone
        rw [allOrNothing_of_withDisks hsame hs.build.2]
        simp [hids, hnone]
    · rw [addressAndBuild_allOrNothing_of_ipIds dc hs hdisk hq hids]
      simp [hids]

end Steps

/-- The creation is all or nothing exactly if, with the searches passed, it is safe. -/
theorem createBuildConfig_allOrNothing_iff (dc : Dc) (env : CbcEnv) (cml : CbcCommLine)
    (w : CbcWorld) : AllOrNothing cml w (createBuildConfig dc env cml w) ↔
      ∀ p, Searched env w.build cml p → CreateSafe env w cml p := by
  by_cases hs : ∃ p, Searched env w.build cml p
  · obtain ⟨p, hs⟩ := hs
    have hiff : (∀ p, Searched env w.build cml p → CreateSafe env w cml p) ↔
        CreateSafe env w cml p :=
      ⟨fun h => h p hs, fun h p' hs' => hs.unique hs' ▸ h⟩
    rw [hiff, createBuildConfig, Prog.bind_run_ok (createBuildSearch_of_searched hs), CreateSafe]
    by_cases hrefused : DiskRefused env w.build cml p
    · obtain ⟨e, he⟩ := cbcAddDisk_refuses hrefused
      dsimp only
      rw [Prog.bind_run_error he]
      exact iff_of_true (.inr ⟨rfl, rfl, rfl, rfl⟩) (.inl hrefused)
    · obtain ⟨disks, hrun, hnew, hdisk⟩ := cbcAddDisk_run hrefused hs
      dsimp only
      rw [Prog.bind_run_ok hrun, or_iff_right hrefused, ← hnew]
      exact addressAndBuild_allOrNothing_iff dc hs hdisk
  · refine iff_of_true (.inr ?_) fun p hp => absurd ⟨p, hp⟩ hs
    rw [createBuildConfig]
    refine (readOnly_createBuildSearch env cml).bind_run_snd ⟨rfl, rfl, rfl, rfl⟩ fun b hb => ?_
    rcases b with _ | b
    · exact ⟨rfl, rfl, rfl, rfl⟩
    · obtain ⟨p, hp, -⟩ := searched_of_createBuildSearch hb
      exact absurd ⟨p, hp⟩ hs

/-- Every part of a build of `web` but the build domain. -/
def noDomainWorld : CbcWorld :=
  { emptyWorld with
    build := { emptyWorld.build with
      servers := [⟨1, "web".toList⟩]
      hardware := [⟨1, "eth0".toList, "00:11:22:33:44:55".toList⟩]
      seedSchemes := [⟨1, "full".toList, 0⟩]
      defaultVarient := [1]
      defaultOs := [1]
      defaultLocale := [1]
      defaultScheme := [1] } }

/-- The disk of a build without a build domain stays. -/
theorem noDomainWorld_not_allOrNothing : ¬AllOrNothing webBuild noDomainWorld
    (createBuildConfig ⟨[], 0, fun _ _ => none⟩ allOk webBuild noDomainWorld) := by
  have hcode : (createBuildConfig ⟨[], 0, fun _ _ => none⟩ allOk webBuild noDomainWorld).1 =
      .error .noBuildDomain := rfl
  have hdisk : (createBuildConfig ⟨[], 0, fun _ _ => none⟩ allOk webBuild
      noDomainWorld).2.build.diskDevs = [⟨1, 1, "/dev/vda".toList, 0⟩] := rfl
  rintro (⟨hok, -⟩ | ⟨-, hsame, -⟩)
  · rw [hcode] at hok
    cases hok
  · rw [hdisk] at hsame
    cases hsame

end Cmdb
