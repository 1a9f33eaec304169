import Cmdb.BuildDb
import Cmdb.FirstHit

/-!
# The address of a build

`cbc_calculate_build_ip` walks from the first address of a build domain, over the
addresses in use, to the first one `cbc_check_ip_in_dns` passes, and enters it.
-/

namespace Cmdb

open CString DottedQuad

/-! ## Lookups -/

/-- The command line of `cbc` (`cbc_comm_line_s`), as far as a build is created from it. -/
structure CbcCommLine where
  name : CStr
  partition : Option CStr
  varient : Option CStr
  os : Option CStr
  osVersion : Option CStr
  buildDomain : Option CStr
  arch : Option CStr
  netcard : Option CStr
  harddisk : CStr
  locale : Option CStr
deriving DecidableEq, Repr

namespace BuildDb

variable (db : BuildDb)

/-- `DEFAULT_DOMAIN_DETAILS`. -/
def defaultDomainDetails : List CStr :=
  (db.buildDomains.filter fun d => some d.id = db.defaultDomain.head?).map BuildDomain.domain

/-- The ids of the build domain : of that name, or of the default. -/
def domainIds (domain : Option CStr) : List ℕ :=
  match domain with
  | some domain => db.buildDomainIds (arg domain)
  | none => db.defaultDomain

/-- `BUILD_IP_ON_BUILD_DOMAIN_ID`. -/
def buildIpsOn (bdId : ℕ) : List ℕ :=
  ((db.buildIps.filter (·.bdId = bdId)).map BuildIp.ip).mergeSort

end BuildDb

/-- `A_RECORDS_WITH_IP` : host and zone of the records with that destination. The zone of
a record may be missing. -/
def ZoneDb.aRecordsWithIp (db : ZoneDb) (ip : CStr) : List (CStr × CStr) :=
  (db.records.filter (·.destination = ip)).map fun r =>
    (r.host, ((db.zones.find? (·.id = r.zone)).map Zone.name).getD [])

/-- The query for the ids of the build domain. -/
def buildDomainQuery (domain : Option CStr) : CbcQuery :=
  if domain.isSome then .buildDomainIdOnDomain else .defaultDomain

/-- `cmdb_add_build_domain_id_to_list`. -/
def cmdbAddBuildDomainId (env : CbcEnv) (domain : Option CStr) (call : ℕ) : CbcProg (List ℕ) :=
  cbcQuery env (buildDomainQuery domain) call fun db => db.domainIds domain

/-- The name of the build domain, or of the default. -/
def cbcDomainTexts (env : CbcEnv) (domain : Option CStr) (call : ℕ) : CbcProg (List CStr) :=
  match domain with
  | some domain => pure [domain]
  | none => cbcQuery env .defaultDomainDetails call BuildDb.defaultDomainDetails

/-- `cmdb_check_add_server_id_to_list`. -/
def cmdbCheckAddServerId (env : CbcEnv) (server : CStr) (call : ℕ) : CbcProg ℕ := do
  let ids ← cbcQuery env .serverIdOnName call fun db => db.serverIds (arg server)
  match ids with
  | [id] => return id
  | _ => Prog.fail .serverNotFound

/-- `cmdb_add_ip_id_to_list`. -/
def cmdbAddIpId (env : CbcEnv) (server : CStr) (call : ℕ) : CbcProg (List ℕ) :=
  cbcQuery env .ipIdOnServerName call fun db => db.ipIds (arg server)

/-! ## Entering an address -/

/-- The row an insert list stands for, under a new id. -/
def newBuildIp (l : List AilsaData) : Except AilsaError (ℕ → BuildIp) :=
  match l with
  | .number ip :: .text hostname :: .text domainname :: .number bdId :: .number serverId ::
      _ :: _ :: _ => .ok fun id => ⟨id, ip, hostname, domainname, bdId, serverId⟩
  | _ => .error .wrongListLenght

/-- `INSERT_BUILD_IP`. -/
def BuildDb.insertBuildIp (db : BuildDb) (row : ℕ → BuildIp) : BuildDb :=
  { db with buildIps := db.buildIps ++ [row (nextId (db.buildIps.map BuildIp.id))] }

/-- `cbc_add_ip_to_build`, with its second calls of the domain queries. -/
def cbcAddIpToBuild (dc : Dc) (env : CbcEnv) (cml : CbcCommLine) (ip : ℕ) : CbcProg Unit := do
  Prog.require (ip ≠ 0) .noData
  let l := cmdbAddStringToList cml.name (cmdbAddNumberToList ip [])
  let m ← cbcDomainTexts env (cml.buildDomain.map arg) 1
  let ids ← cmdbAddBuildDomainId env cml.buildDomain 1
  let id ← cmdbCheckAddServerId env cml.name 1
  let l := l ++ m.map .text ++ ids.map .number ++ [.number id]
  let row ← cbcRet (newBuildIp (cmdbPopulateCuserMuser dc.uid l))
  cbcStatement env .insertBuildIp 0 fun db => db.insertBuildIp row

/-! ## The search -/

/-- The code `cbc_check_ip_in_dns` makes of the rows it finds : `none` is code `0`,
`some` a code above it, the number of list elements, two for each record. -/
def dnsCode (domain host : CStr) (r : List (CStr × CStr)) : Option AilsaError :=
  match r with
  | [] => none
  | [d] =>
    if StrncmpEq host d.1 hostLen ∧ StrncmpEq domain d.2 domainLen then none
    else some (.rowCount 2)
  | r => some (.rowCount (2 * r.length))

/-- `cbc_check_ip_in_dns` : a negative code is an error. -/
def cbcCheckIpInDns (env : CbcEnv) (domain host : CStr) (ip : ℕ) :
    CbcProg (Option AilsaError) :=
  if ip = 0 then return some .noData
  else do
    Prog.require (env.sql .aRecordsWithIp ip) .minusOne
    Prog.reads fun w => .ok (dnsCode domain host (w.zone.db.aRecordsWithIp (inetNtop ip)))

/-- `No more build IP's in domain` : the last code is that of the function. -/
def noMoreIps (retval : Option AilsaError) : CbcProg (Option ℕ) :=
  match retval with
  | none => pure none
  | some code => Prog.fail code

/-- The loop of `cbc_calculate_build_ip` at address `ip`, with the rest `e` of the used
addresses to compare with and the last code. -/
def buildIpLoop (env : CbcEnv) (domain host : CStr) (used : List ℕ) (lip : ℕ) :
    ℕ → List ℕ → Option AilsaError → CbcProg (Option ℕ)
  | ip, [], _ => return some ip
  | ip, bip :: e, retval =>
    if lip < ip then noMoreIps retval
    else if bip = ip then buildIpLoop env domain host used lip (ip + 1) used retval
    else if e = [] then do
      let retval ← cbcCheckIpInDns env domain host ip
      match retval with
      | some code => buildIpLoop env domain host used lip (ip + 1) used (some code)
      | none => buildIpLoop env domain host used lip ip e none
    else buildIpLoop env domain host used lip ip e retval
termination_by ip e => (lip + 1 - ip, e.length)

/-- `cbc_calculate_build_ip` on the first and last address of the domain. -/
def cbcCalculateBuildIp (dc : Dc) (env : CbcEnv) (cml : CbcCommLine) (start last : ℕ) :
    CbcProg Unit := do
  let l ← cmdbAddBuildDomainId env cml.buildDomain 0
  match l with
  | [] => Prog.fail .wrongListLenght
  | bdId :: _ =>
    let r ← cbcQuery env .buildIpOnBuildDomainId 0 fun db => db.buildIpsOn bdId
    let m ← cbcDomainTexts env cml.buildDomain 0
    match m with
    | [] => Prog.fail .nullDeref
    | domain :: _ =>
      let found ← buildIpLoop env domain cml.name r last start r none
      match found with
      | none => return ()
      | some ip =>
        cbcAddIpToBuild dc env cml ip
        let _ ← cmdbAddIpId env cml.name 1
        onZone (cbcAddHostToDns dc env.zone domain cml.name ip)

/-! ## The lookups -/

variable {dc : Dc} {env : CbcEnv} {cml : CbcCommLine} {w : CbcWorld}

/-- The names `cbc_calculate_build_ip` finds for the build domain. -/
def BuildDb.domainTexts (db : BuildDb) (domain : Option CStr) : List CStr :=
  match domain with
  | some domain => [domain]
  | none => db.defaultDomainDetails

/-- The query for the name of the default domain succeeds, if it is made. -/
def TextsAsked (env : CbcEnv) (domain : Option CStr) (call : ℕ) : Prop :=
  domain = none → env.sql .defaultDomainDetails call = true

instance (env : CbcEnv) (domain : Option CStr) (call : ℕ) :
    Decidable (TextsAsked env domain call) :=
  inferInstanceAs (Decidable (_ → _))

theorem readOnly_cbcDomainTexts (env : CbcEnv) (domain : Option CStr) (call : ℕ) :
    Prog.ReadOnly (cbcDomainTexts env domain call) := by
  cases domain with
  | none => exact readOnly_cbcQuery _ _ _ _
  | some domain => exact Prog.ReadOnly.pure _

theorem readOnly_cmdbCheckAddServerId (env : CbcEnv) (server : CStr) (call : ℕ) :
    Prog.ReadOnly (cmdbCheckAddServerId env server call) := by
  refine (readOnly_cbcQuery _ _ _ _).bind fun ids => ?_
  split
  · exact Prog.ReadOnly.pure _
  · exact Prog.ReadOnly.fail _

theorem readOnly_cbcCheckIpInDns (env : CbcEnv) (domain host : CStr) (ip : ℕ) :
    Prog.ReadOnly (cbcCheckIpInDns env domain host ip) := by
  rw [cbcCheckIpInDns]
  split
  · exact Prog.ReadOnly.pure _
  · exact (Prog.ReadOnly.require _ _).bind fun _ => Prog.ReadOnly.reads _

theorem cbcDomainTexts_run (env : CbcEnv) (domain : Option CStr) (call : ℕ) (w : CbcWorld) :
    cbcDomainTexts env domain call w =
      if TextsAsked env domain call then (.ok (w.build.domainTexts domain), w)
      else (.error .statementFail, w) := by
  cases domain with
  | none => simp [cbcDomainTexts, cbcQuery_run, TextsAsked, BuildDb.domainTexts]
  | some domain => simp [cbcDomainTexts, TextsAsked, BuildDb.domainTexts]

theorem cmdbCheckAddServerId_run (env : CbcEnv) (server : CStr) (call : ℕ) (w : CbcWorld) :
    cmdbCheckAddServerId env server call w =
      if env.sql .serverIdOnName call then
        match w.build.serverIds (arg server) with
        | [id] => (.ok id, w)
        | _ => (.error .serverNotFound, w)
      else (.error .statementFail, w) := by
  by_cases h : env.sql .serverIdOnName call
  · rw [cmdbCheckAddServerId, Prog.bind_run_ok (by rw [cbcQuery_run, if_pos h]), if_pos h]
    generalize w.build.serverIds (arg server) = ids
    rcases ids with _ | ⟨id, _ | _⟩ <;> rfl
  · rw [cmdbCheckAddServerId, Prog.bind_run_error (by rw [cbcQuery_run, if_neg h]), if_neg h]

theorem cbcDomainTexts_ok {domain : Option CStr} {call : ℕ} {m : List CStr}
    (h : (cbcDomainTexts env domain call w).1 = .ok m) :
    TextsAsked env domain call ∧ m = w.build.domainTexts domain := by
  rw [cbcDomainTexts_run] at h
  split at h
  · rename_i hasked
    exact ⟨hasked, (Except.ok.inj h).symm⟩
  · cases h

theorem cmdbCheckAddServerId_ok {server : CStr} {call id : ℕ}
    (h : (cmdbCheckAddServerId env server call w).1 = .ok id) :
    env.sql .serverIdOnName call = true ∧ w.build.serverIds (arg server) = [id] := by
  rw [cmdbCheckAddServerId] at h
  obtain ⟨ids, hids, h⟩ := (readOnly_cbcQuery _ _ _ _).bind_ok h
  obtain ⟨hq, hids⟩ := cbcQuery_ok hids
  rcases ids with _ | ⟨id', _ | _⟩
  · cases h
  · cases h
    exact ⟨hq, hids.symm⟩
  · cases h

theorem cbcCheckIpInDns_run (env : CbcEnv) (domain host : CStr) (ip : ℕ) (w : CbcWorld) :
    cbcCheckIpInDns env domain host ip w =
      if ip = 0 then (.ok (some .noData), w)
      else if env.sql .aRecordsWithIp ip then
        (.ok (dnsCode domain host (w.zone.db.aRecordsWithIp (inetNtop ip))), w)
      else (.error .minusOne, w) := by
  rw [cbcCheckIpInDns, Prog.ite_run]
  split
  · rfl
  · rw [Prog.bind_run, Prog.require_run]
    cases env.sql .aRecordsWithIp ip <;> rfl

/-! ## The entry -/

/-- The statements of `cbc_add_ip_to_build` succeed, with one name for the domain, an id
for it and one id for the server. -/
def EntryReady (env : CbcEnv) (db : BuildDb) (cml : CbcCommLine) : Prop :=
  TextsAsked env cml.buildDomain 1 ∧ (db.domainTexts cml.buildDomain).length = 1 ∧
    env.sql (buildDomainQuery cml.buildDomain) 1 = true ∧ db.domainIds cml.buildDomain ≠ [] ∧
    env.sql .serverIdOnName 1 = true ∧ (db.serverIds (arg cml.name)).length = 1 ∧
    env.sql .insertBuildIp 0 = true

/-- The row `cbc_add_ip_to_build` enters. A second id for the domain would stand where the
id of the server belongs. -/
def BuildDb.entryRow (db : BuildDb) (cml : CbcCommLine) (ip id : ℕ) : BuildIp :=
  { id := id
    ip := ip
    hostname := arg cml.name
    domainname := (db.domainTexts (cml.buildDomain.map arg)).headD []
    bdId := (db.domainIds cml.buildDomain).headD 0
    serverId := ((db.domainIds cml.buildDomain ++ db.serverIds (arg cml.name))[1]?).getD 0 }

theorem length_domainTexts_map (db : BuildDb) (domain : Option CStr) (f : CStr → CStr) :
    (db.domainTexts (domain.map f)).length = (db.domainTexts domain).length := by
  cases domain <;> rfl

theorem textsAsked_map (domain : Option CStr) (f : CStr → CStr) (call : ℕ) :
    TextsAsked env (domain.map f) call ↔ TextsAsked env domain call := by
  simp [TextsAsked]

/-- What `cbc_add_ip_to_build` lists is a row exactly if there is one name for the domain,
and an id. -/
theorem newBuildIp_eq (m : List CStr) (ids : List ℕ) (ip sid : ℕ) (name : CStr) (uid : ℕ) :
    newBuildIp (cmdbPopulateCuserMuser uid (cmdbAddStringToList name (cmdbAddNumberToList ip []) ++
        m.map .text ++ ids.map .number ++ [.number sid])) =
      match m, ids with
      | [domain], bdId :: rest =>
        .ok fun id => ⟨id, ip, arg name, domain, bdId, (rest ++ [sid]).headD 0⟩
      | _, _ => .error .wrongListLenght := by
  rcases m with _ | ⟨domain, _ | ⟨d, m⟩⟩ <;>
    rcases ids with _ | ⟨a, _ | ⟨b, _ | ⟨c, _ | ⟨e, ids⟩⟩⟩⟩ <;>
    simp [newBuildIp, cmdbPopulateCuserMuser, cmdbAddStringToList, cmdbAddNumberToList]

theorem cbcAddIpToBuild_run {ip : ℕ} (hip : ip ≠ 0) (h : EntryReady env w.build cml) :
    cbcAddIpToBuild dc env cml ip w =
      (.ok (), { w with build := w.build.insertBuildIp (w.build.entryRow cml ip) }) := by
  obtain ⟨htext, hm, hquery, hids, hserver, hid, hins⟩ := h
  obtain ⟨domain, hm⟩ := List.length_eq_one_iff.mp
    ((length_domainTexts_map w.build cml.buildDomain arg).trans hm)
  obtain ⟨bdId, rest, hids⟩ := List.exists_cons_of_ne_nil hids
  obtain ⟨sid, hid⟩ := List.length_eq_one_iff.mp hid
  rw [cbcAddIpToBuild, Prog.bind_run_ok (by rw [Prog.require_run, if_pos (by simpa using hip)]),
    Prog.bind_run_ok (by rw [cbcDomainTexts_run, if_pos ((textsAsked_map ..).mpr htext)]),
    Prog.bind_run_ok (by rw [cmdbAddBuildDomainId, cbcQuery_run, if_pos hquery]),
    Prog.bind_run_ok (by rw [cmdbCheckAddServerId_run, if_pos hserver, hid]),
    Prog.bind_run_ok (by rw [cbcRet, Prog.reads_run, newBuildIp_eq, hm, hids]),
    cbcStatement_run, if_pos hins]
  have hrow : w.build.entryRow cml ip =
      fun id => ⟨id, ip, arg cml.name, domain, bdId, (rest ++ [sid]).headD 0⟩ := by
    funext id
    cases rest <;> simp [BuildDb.entryRow, hm, hids, hid]
  rw [hrow]

theorem cbcAddIpToBuild_refuses (dc : Dc) {ip : ℕ} (h : ip = 0 ∨ ¬EntryReady env w.build cml) :
    Prog.Refuses (cbcAddIpToBuild dc env cml ip) w := by
  rw [cbcAddIpToBuild]
  refine (Prog.ReadOnly.require _ _).refuses_bind fun _ hip => ?_
  refine (readOnly_cbcDomainTexts _ _ _).refuses_bind fun m hm => ?_
  refine (readOnly_cbcQuery _ _ _ _).refuses_bind fun ids hids => ?_
  refine (readOnly_cmdbCheckAddServerId _ _ _).refuses_bind fun sid hsid => ?_
  refine (readOnly_cbcRet _).refuses_bind fun row hrow => ?_
  obtain ⟨htext, rfl⟩ := cbcDomainTexts_ok hm
  obtain ⟨hquery, rfl⟩ := cbcQuery_ok hids
  obtain ⟨hserver, hsid⟩ := cmdbCheckAddServerId_ok hsid
  rw [cbcRet, Prog.reads_run, newBuildIp_eq] at hrow
  split at hrow
  · rename_i domain bdId rest hm hids
    refine ⟨.statementFail, ?_⟩
    rw [cbcStatement_run, if_neg]
    intro hins
    refine (h.resolve_left (by simpa using Prog.require_ok hip)) ⟨(textsAsked_map ..).mp htext,
      ?_, hquery, ?_, hserver, ?_, hins⟩
    · rw [← length_domainTexts_map _ _ arg, hm, List.length_singleton]
    · rw [hids]
      exact List.cons_ne_nil _ _
    · rw [hsid, List.length_singleton]
  · cases hrow

end Cmdb
