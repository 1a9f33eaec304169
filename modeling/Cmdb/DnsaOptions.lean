import Cmdb.Getopt
import Cmdb.ZoneOps

/-!
# The command line of `dnsa`

The options in the order they are given, and the checks that decide whether `dnsa` goes on
with them. Each option overwrites what an earlier one has set, but a service also names the
host, where none is set yet (`parseOptions_host`, `parseOptions_service`).
-/

namespace Cmdb

open CString

/-! ## What is parsed -/

/-- What `dnsa` is to do. -/
inductive DnsaAction
  | none | addHost | buildRev | display | addMulti | deletePreferredA | list | cname
  | deleteRecord | displayMulti | commit | deleteZone | addZone | version
deriving DecidableEq, Repr

/-- What a command of `dnsa` is about. -/
inductive DnsaType
  | none | forward | reverse | glue | test
deriving DecidableEq, Repr

/-- The command line of `dnsa` (`dnsa_comm_line_s`) while it is parsed. -/
structure DnsaOptions where
  action : DnsaAction
  type : DnsaType
  pfx : ℕ
  rtype : Option CStr
  ztype : Option CStr
  service : Option CStr
  protocol : Option CStr
  domain : Option CStr
  toplevel : Option CStr
  host : Option CStr
  dest : Option CStr
  master : Option CStr
  glueIp : Option CStr
  glueNs : Option CStr
deriving DecidableEq, Repr

/-- An option, with its argument. -/
inductive DnsaOption
  | add | build | display | addPreferredA | deletePreferredA | list | addCname | deleteRecord
  | displayMultiA | commit | deleteZone | addZone | forwardZone | reverseZone | glueZone | test
  | slaveZone | version | unknown
  | masterIp (optarg : CStr)
  | nameServerIp (optarg : CStr)
  | nameServers (optarg : CStr)
  | host (optarg : CStr)
  | destination (optarg : CStr)
  | topLevel (optarg : CStr)
  | zoneName (optarg : CStr)
  | protocol (optarg : CStr)
  | priority (optarg : CStr)
  | service (optarg : CStr)
  | recordType (optarg : CStr)
deriving DecidableEq, Repr

/-- The codes of the command line. -/
inductive DnsaUsage
  | displayUsage | version | noAction | noType | noDomainName | domainAndIpGiven | noIpAddress
  | noHostName | noRecordType | noPrefix | noGlueNs | noMaster | prefixOutOfRange
  | protocolInvalid | rtypeInputInvalid | domainInputInvalid | hostInputInvalid
  | destInputInvalid | serviceInputInvalid | glueIpInputInvalid | glueNsInputInvalid | noPriority
  | noService | noProtocol | unknownZoneType | nullDeref
deriving DecidableEq, Repr

/-- Before any option. -/
def DnsaOptions.init : DnsaOptions where
  action := .none
  type := .none
  pfx := 0
  rtype := none
  ztype := none
  service := none
  protocol := none
  domain := none
  toplevel := none
  host := none
  dest := none
  master := none
  glueIp := none
  glueNs := none

/-- `strndup(optarg, n)`. -/
def strndup (optarg : CStr) (n : ℕ) : Option CStr := some (optarg.take n)

/-- One option of `parse_dnsa_command_line`. The `switch` has no case for the top level
domain. -/
def parseOption (comp : DnsaOptions) : DnsaOption → Except DnsaUsage DnsaOptions
  | .add => .ok { comp with action := .addHost, type := .forward }
  | .build => .ok { comp with action := .buildRev, type := .reverse }
  | .display => .ok { comp with action := .display }
  | .addPreferredA =>
    .ok { comp with action := .addMulti, type := .reverse, rtype := some "A".toList }
  | .deletePreferredA => .ok { comp with action := .deletePreferredA, type := .reverse }
  | .list => .ok { comp with action := .list }
  | .addCname => .ok { comp with action := .cname, type := .forward }
  | .deleteRecord => .ok { comp with action := .deleteRecord, type := .forward }
  | .displayMultiA => .ok { comp with action := .displayMulti, type := .reverse }
  | .commit => .ok { comp with action := .commit }
  | .deleteZone => .ok { comp with action := .deleteZone }
  | .addZone => .ok { comp with action := .addZone }
  | .forwardZone => .ok { comp with type := .forward }
  | .reverseZone => .ok { comp with type := .reverse }
  | .glueZone => .ok { comp with type := .glue }
  | .test => .ok { comp with type := .test }
  | .slaveZone => .ok { comp with ztype := some "slave".toList }
  | .masterIp optarg => .ok { comp with master := strndup optarg domainLen }
  | .nameServerIp optarg => .ok { comp with glueIp := strndup optarg macLen }
  | .nameServers optarg => .ok { comp with glueNs := strndup optarg fileLen }
  | .host optarg => .ok { comp with host := strndup optarg domainLen }
  | .destination optarg => .ok { comp with dest := strndup optarg domainLen }
  | .zoneName optarg => .ok { comp with domain := strndup optarg domainLen }
  | .protocol optarg => .ok { comp with protocol := strndup optarg serviceLen }
  | .priority optarg => .ok { comp with pfx := strtoul optarg }
  | .service optarg =>
    .ok { comp with
      service := strndup optarg serviceLen
      host := comp.host <|> strndup optarg serviceLen }
  | .recordType optarg => .ok { comp with rtype := strndup optarg serviceLen }
  | .version => .ok { comp with action := .version }
  | .topLevel _ => .error .displayUsage
  | .unknown => .error .displayUsage

/-- The loop over the options. -/
def parseOptions (comp : DnsaOptions) (opts : List DnsaOption) : Except DnsaUsage DnsaOptions :=
  opts.foldlM parseOption comp

/-! ## Defaults and checks -/

/-- `strncmp(s, t, BYTE_LEN) == 0`. -/
def sameText (s : CStr) (t : String) : Bool := decide (StrncmpEq s t.toList byteLen)

/-- The priority of a record that is given none. -/
def defaultPriority (comp : DnsaOptions) : DnsaOptions :=
  if comp.pfx = 0 then { comp with pfx := 100 } else comp

/-- The protocol of an `SRV` record. -/
def srvProtocol (comp : DnsaOptions) : Except DnsaUsage DnsaOptions :=
  match comp.protocol with
  | none => .ok { comp with protocol := some "tcp".toList }
  | some protocol =>
    if sameText protocol "tcp" ∨ sameText protocol "udp" then .ok comp
    else .error .protocolInvalid

/-- The defaults of an `SRV` record. The destination may be given as the host. -/
def srvDefaults (comp : DnsaOptions) : Except DnsaUsage DnsaOptions :=
  (srvProtocol { comp with dest := comp.dest <|> comp.host.map (List.take domainLen) }).map
    defaultPriority

/-- The defaults of a record to add. -/
def recordDefaults (comp : DnsaOptions) : Except DnsaUsage DnsaOptions :=
  match comp.rtype with
  | none => .ok comp
  | some rtype =>
    if comp.action = .addHost then
      (if sameText rtype "SRV" then srvDefaults comp else .ok comp).map fun comp =>
        if sameText rtype "MX" then defaultPriority comp else comp
    else .ok comp

/-- The code of the checks on the combination of options, `none` for `0`. A later check
overwrites a missing master. -/
def combinationCode (comp : DnsaOptions) : Option DnsaUsage :=
  if comp.action = .none ∧ comp.type = .none ∧ comp.domain = none then some .displayUsage
  else if comp.action = .version then some .version
  else if comp.action = .none then some .noAction
  else if comp.type = .none then some .noType
  else if comp.domain = none ∧ comp.action ≠ .list ∧ comp.action ≠ .displayMulti ∧
      comp.action ≠ .deletePreferredA ∧ comp.action ≠ .commit then some .noDomainName
  else if comp.action = .displayMulti ∧ comp.domain = none ∧ comp.dest = none then
    some .noDomainName
  else if comp.action = .displayMulti ∧ comp.domain ≠ none ∧ comp.dest ≠ none then
    some .domainAndIpGiven
  else if comp.action = .addHost ∧ comp.dest = none then some .noIpAddress
  else if (comp.action = .addHost ∨ comp.action = .deleteRecord ∨ comp.action = .cname) ∧
      comp.host = none then some .noHostName
  else if comp.action = .addHost ∧ comp.rtype = none then some .noRecordType
  else if comp.action = .addZone ∧ comp.type = .reverse ∧ comp.pfx = 0 then some .noPrefix
  else if comp.type = .glue ∧ comp.glueNs = none ∧ comp.action = .addZone then some .noGlueNs
  else if comp.ztype ≠ none ∧ comp.master = none ∧ comp.action ≠ .deleteZone then some .noMaster
  else none

/-- The regular expressions of the checks. -/
inductive Regexp
  | name | ip | domain | txtrr | resourceType
deriving DecidableEq, Repr

/-- The regular expression library : whether a text matches one, or two with a comma. -/
structure Validator where
  input : Regexp → CStr → Bool
  pair : Regexp → CStr → Bool

/-- Stop with `e` unless the text matches one of the expressions; a text that is not there
is read all the same. -/
def requireMatch (v : Validator) (rs : List Regexp) (s : Option CStr) (e : DnsaUsage) :
    Except DnsaUsage Unit :=
  match s with
  | none => .error .nullDeref
  | some s => if rs.any (v.input · s) then .ok () else .error e

/-- The same, for a text that may be missing. -/
def requireMatchIf (v : Validator) (rs : List Regexp) (s : Option CStr) (e : DnsaUsage) :
    Except DnsaUsage Unit :=
  match s with
  | none => .ok ()
  | some _ => requireMatch v rs s e

/-- `validate_glue_comm_line`. -/
def validateGlueCommLine (v : Validator) (comm : DnsaOptions) : Except DnsaUsage Unit := do
  match comm.glueIp with
  | none => pure ()
  | some glueIp =>
    if (strchr glueIp ',').isSome then
      if v.pair .ip glueIp then pure () else .error .glueIpInputInvalid
    else if comm.action ≠ .deleteZone then
      requireMatch v [.ip] comm.glueIp .glueIpInputInvalid
    else pure ()
  match comm.glueNs with
  | none => pure ()
  | some glueNs =>
    if (strchr glueNs ',').isSome then
      if v.pair .domain glueNs then pure () else .error .glueNsInputInvalid
    else requireMatch v [.domain] comm.glueNs .glueNsInputInvalid

/-- The checks of `validate_fwd_comm_line` on a record of type `rtype`. -/
def validateRecord (v : Validator) (comm : DnsaOptions) (rtype : CStr) : Except DnsaUsage Unit :=
  if sameText rtype "A" then do
    requireMatchIf v [.ip] comm.dest .destInputInvalid
    match comm.host with
    | none => .error .nullDeref
    | some host =>
      if sameText host "@" then requireMatch v [.name, .domain] comm.dest .destInputInvalid
      else requireMatch v [.name, .domain] comm.host .hostInputInvalid
  else if sameText rtype "NS" ∨ sameText rtype "MX" then do
    requireMatchIf v [.domain] comm.dest .destInputInvalid
    match comm.host with
    | none => .error .nullDeref
    | some host =>
      if sameText host "NULL" ∨ sameText host "@" then pure ()
      else requireMatch v [.name] comm.host .hostInputInvalid
  else if sameText rtype "SRV" then do
    requireMatchIf v [.domain, .name] comm.dest .destInputInvalid
    requireMatchIf v [.name] comm.service .serviceInputInvalid
  else if sameText rtype "CNAME" then do
    requireMatchIf v [.domain, .name] comm.dest .destInputInvalid
    requireMatch v [.domain, .name] comm.host .hostInputInvalid
  else .ok ()

/-- What `validate_fwd_comm_line` asks for when a record is deleted. -/
def validateDelete (comm : DnsaOptions) : Except DnsaUsage Unit :=
  if comm.action ≠ .deleteRecord then .ok ()
  else if comm.protocol ≠ none then
    if comm.pfx = 0 then .error .noPriority
    else if comm.service = none then .error .noService
    else .ok ()
  else if comm.service ≠ none then
    if comm.pfx = 0 then .error .noPriority else .error .noProtocol
  else .ok ()

/-- The checks of `validate_fwd_comm_line` on a `CNAME` for a host, or on a text. -/
def validateName (v : Validator) (comm : DnsaOptions) : Except DnsaUsage Unit :=
  if comm.action = .cname then do
    requireMatch v [.domain] comm.domain .domainInputInvalid
    requireMatch v [.name] comm.host .hostInputInvalid
    requireMatchIf v [.domain] comm.toplevel .domainInputInvalid
  else
    match comm.rtype, comm.host with
    | some rtype, some host =>
      if sameText rtype "TXT" then do
        let name := if host.head? = some '_' then host.tail else host
        requireMatch v [.name] (some name) .hostInputInvalid
        requireMatchIf v [.txtrr] comm.dest .destInputInvalid
      else .ok ()
    | _, _ => .ok ()

/-- `validate_fwd_comm_line`. -/
def validateFwdCommLine (v : Validator) (comm : DnsaOptions) : Except DnsaUsage Unit := do
  requireMatchIf v [.resourceType] comm.rtype .rtypeInputInvalid
  requireMatchIf v [.domain] comm.domain .domainInputInvalid
  match comm.rtype with
  | some rtype => validateRecord v comm rtype
  | none => pure ()
  validateDelete comm
  validateName v comm
  requireMatchIf v [.name] comm.service .serviceInputInvalid
  if comm.type = .glue ∧ comm.action ≠ .display then validateGlueCommLine v comm else pure ()

/-- `validate_rev_comm_line`. -/
def validateRevCommLine (v : Validator) (comm : DnsaOptions) : Except DnsaUsage Unit := do
  if comm.action ≠ .addMulti ∧ comm.action ≠ .deletePreferredA then
    requireMatchIf v [.ip] comm.domain .domainInputInvalid
  else pure ()
  if comm.action = .addMulti then do
    requireMatch v [.domain] comm.domain .domainInputInvalid
    requireMatch v [.ip] comm.dest .destInputInvalid
    requireMatch v [.name] comm.host .hostInputInvalid
  else pure ()
  requireMatchIf v [.ip] comm.dest .destInputInvalid

/-- `validate_comm_line`. -/
def validateCommLine (v : Validator) (comm : DnsaOptions) : Except DnsaUsage Unit :=
  if comm.action = .list ∨ comm.action = .commit then .ok ()
  else
    match comm.type with
    | .forward => validateFwdCommLine v comm
    | .glue => validateFwdCommLine v comm
    | .reverse => validateRevCommLine v comm
    | _ => .error .unknownZoneType

/-- What becomes of the code of the combination : missing name servers of a glue zone get
their default. -/
def combinationChecked (comp : DnsaOptions) : Except DnsaUsage DnsaOptions :=
  match combinationCode comp with
  | none => .ok comp
  | some .noGlueNs => .ok { comp with glueNs := some "ns1,ns2".toList }
  | some e => .error e

/-- `parse_dnsa_command_line`. -/
def parseDnsaCommandLine (v : Validator) (opts : List DnsaOption) :
    Except DnsaUsage DnsaOptions := do
  let comp ← parseOptions .init opts
  let comp ← recordDefaults comp
  let comp ← combinationChecked comp
  if 0 < comp.pfx ∧ comp.action = .addZone ∧ comp.pfx < 8 ∧ 24 < comp.pfx then
    .error .prefixOutOfRange
  else (validateCommLine v comp).map fun _ => comp

/-! ## The host and the service -/

/-- The arguments of the host options. -/
def hostArgs (opts : List DnsaOption) : List CStr :=
  opts.filterMap fun
    | .host optarg => some (optarg.take domainLen)
    | _ => none

/-- The arguments of the service options. -/
def serviceArgs (opts : List DnsaOption) : List CStr :=
  opts.filterMap fun
    | .service optarg => some (optarg.take serviceLen)
    | _ => none

/-- The host the options name : the last host, or the first service. -/
def hostGiven (opts : List DnsaOption) : Option CStr :=
  (hostArgs opts).getLast? <|> (serviceArgs opts).head?

/-- The service the options name : the last one. -/
def serviceGiven (opts : List DnsaOption) : Option CStr := (serviceArgs opts).getLast?

section

variable {comp comp' : DnsaOptions} {opts : List DnsaOption} {v : Validator}

theorem getLast?_cons_eq {α : Type} (a : α) (l : List α) :
    (a :: l).getLast? = (l.getLast? <|> some a) := by
  rw [List.getLast?_cons]
  cases l.getLast? <;> rfl

theorem orElse_assoc {α : Type} (a b c : Option α) : ((a <|> b) <|> c) = (a <|> b <|> c) := by
  cases a <;> rfl

/-- The host : the last one given, else the one set before, else the first service. -/
theorem parseOptions_host : ∀ {opts : List DnsaOption} {comp : DnsaOptions},
    parseOptions comp opts = .ok comp' →
      comp'.host = ((hostArgs opts).getLast? <|> comp.host <|> (serviceArgs opts).head?)
  | [], comp, h => by
    obtain rfl := Except.ok.inj h
    cases h : comp.host <;> rfl
  | o :: opts, comp, h => by
    rw [parseOptions, List.foldlM_cons] at h
    obtain ⟨comp₁, h₁, h⟩ := bind_eq_ok.mp h
    rw [parseOptions_host h]
    cases o with
    | host optarg =>
      obtain rfl := Except.ok.inj h₁
      have hargs : hostArgs (.host optarg :: opts) = optarg.take domainLen :: hostArgs opts := rfl
      rw [hargs, getLast?_cons_eq, orElse_assoc]
      rfl
    | service optarg =>
      obtain rfl := Except.ok.inj h₁
      have hargs : serviceArgs (.service optarg :: opts) =
          optarg.take serviceLen :: serviceArgs opts := rfl
      have hhost : hostArgs (.service optarg :: opts) = hostArgs opts := rfl
      rw [hargs, hhost, List.head?_cons, strndup, orElse_assoc]
      rfl
    | topLevel optarg => cases h₁
    | unknown => cases h₁
    | _ =>
      obtain rfl := Except.ok.inj h₁
      rfl

/-- The service : the last one given, else the one set before. -/
theorem parseOptions_service (h : parseOptions comp opts = .ok comp') :
    comp'.service = ((serviceArgs opts).getLast? <|> comp.service) := by
  refine (Getopt.foldlM_given_or (fun
    | .service optarg => some (optarg.take serviceLen)
    | _ => none) DnsaOptions.service (fun comp o comp' ho => ?_) h).trans Option.or_eq_orElse
  cases o with
  | service optarg =>
    obtain rfl := Except.ok.inj ho
    rfl
  | topLevel optarg => cases ho
  | unknown => cases ho
  | _ =>
    obtain rfl := Except.ok.inj ho
    rfl

theorem map_eq_ok {α β ε : Type} {x : Except ε α} {f : α → β} {b : β} :
    x.map f = .ok b ↔ ∃ a, x = .ok a ∧ f a = b := by
  cases x <;> simp [Except.map]

/-- Two stages of the command line with the same host and service. -/
def SameNames (comp comp' : DnsaOptions) : Prop :=
  comp'.host = comp.host ∧ comp'.service = comp.service

theorem SameNames.trans {comp₁ comp₂ : DnsaOptions} (h : SameNames comp comp₁)
    (h' : SameNames comp₁ comp₂) : SameNames comp comp₂ :=
  ⟨h'.1.trans h.1, h'.2.trans h.2⟩

theorem sameNames_defaultPriority (comp : DnsaOptions) :
    SameNames comp (defaultPriority comp) := by
  unfold defaultPriority
  split_ifs <;> exact ⟨rfl, rfl⟩

theorem srvDefaults_sameNames (h : srvDefaults comp = .ok comp') : SameNames comp comp' := by
  obtain ⟨comp₁, h₁, rfl⟩ := map_eq_ok.mp h
  have hkeep : SameNames comp comp₁ := by
    unfold srvProtocol at h₁
    split at h₁
    · cases h₁
      exact ⟨rfl, rfl⟩
    · split_ifs at h₁
      cases h₁
      exact ⟨rfl, rfl⟩
  exact hkeep.trans (sameNames_defaultPriority comp₁)

/-- The defaults leave the host and the service. -/
theorem recordDefaults_sameNames (h : recordDefaults comp = .ok comp') :
    SameNames comp comp' := by
  unfold recordDefaults at h
  split at h
  · cases h
    exact ⟨rfl, rfl⟩
  · by_cases haction : comp.action = .addHost
    · rw [if_pos haction] at h
      obtain ⟨comp₁, h₁, rfl⟩ := map_eq_ok.mp h
      have hsrv : SameNames comp comp₁ := by
        split_ifs at h₁
        · exact srvDefaults_sameNames h₁
        · cases h₁
          exact ⟨rfl, rfl⟩
      refine hsrv.trans ?_
      split_ifs
      · exact sameNames_defaultPriority comp₁
      · exact ⟨rfl, rfl⟩
    · rw [if_neg haction] at h
      cases h
      exact ⟨rfl, rfl⟩

theorem combinationChecked_sameNames (h : combinationChecked comp = .ok comp') :
    SameNames comp comp' := by
  unfold combinationChecked at h
  split at h <;> cases h <;> exact ⟨rfl, rfl⟩

/-- What the options name is what the command gets. -/
theorem parseDnsaCommandLine_ok (h : parseDnsaCommandLine v opts = .ok comp) :
    comp.host = hostGiven opts ∧ comp.service = serviceGiven opts := by
  obtain ⟨comp₁, h₁, h⟩ := bind_eq_ok.mp h
  obtain ⟨comp₂, h₂, h⟩ := bind_eq_ok.mp h
  obtain ⟨comp₃, h₃, h⟩ := bind_eq_ok.mp h
  split_ifs at h
  obtain ⟨-, -, rfl⟩ := map_eq_ok.mp h
  obtain ⟨hhost, hservice⟩ :=
    (recordDefaults_sameNames h₂).trans (combinationChecked_sameNames h₃)
  rw [hhost, hservice, parseOptions_host h₁, parseOptions_service h₁]
  refine ⟨rfl, ?_⟩
  rw [serviceGiven]
  cases (serviceArgs opts).getLast? <;> rfl

end

end Cmdb
