import Cmdb.DnsaOptions
import Cmdb.FwdFile
import Cmdb.RecordNames

/-!
# Owners of `SRV` records

A service is stored in two columns : the service, which the display prints, and the host,
which the zone file is written with. The command line takes the host from the first
service, but a host that is given goes before it, also where it only stands for the
destination.

`storedSrv_sameOwner_iff` : the file and the display have the same owner for the record a
command line stores iff the host the options name is the service they name.
-/

namespace Cmdb

open CString

/-! ## Owners -/

/-- `_<service>._<proto>.<zone>.` -/
def srvOwner (service proto zone : CStr) : CStr :=
  "_".toList ++ service ++ "._".toList ++ proto ++ ".".toList ++ zone ++ ".".toList

/-- The owner `write_fwd_header_records` writes for an `SRV` record. -/
def fileOwner (zone : CStr) (r : DnsRecord) : Option CStr :=
  match r.protocol, r.service with
  | some proto, some _ => some (srvOwner r.host proto zone)
  | _, _ => none

/-- The owner `print_fwd_ns_mx_srv_records` prints for an `SRV` record. -/
def displayOwner (zone : CStr) (r : DnsRecord) : Option CStr :=
  match r.protocol, r.service with
  | some proto, some service => some (srvOwner service proto zone)
  | _, _ => none

/-- `print_fwd_ns_mx_srv_records` : it stops at the first service without a port. -/
def printFwdNsMxSrvRecords (dc : Dc) (zone : CStr) : List DnsRecord → List CStr
  | [] => []
  | r :: m =>
    if r.type = "SRV".toList then
      match r.protocol, r.service with
      | some proto, some service =>
        match dc.port service proto with
        | none => []
        | some port =>
          ("_".toList ++ service ++ "._".toList ++ proto ++ ".".toList ++ zone ++
            ".\tIN\tSRV\t".toList ++ numText r.pri ++ " 0 ".toList ++ numText port ++ " ".toList ++
            r.destination ++ "\n".toList) :: printFwdNsMxSrvRecords dc zone m
      | _, _ => []
    else if r.type = "MX".toList then
      ("\t\t\tIN\tMX\t".toList ++ numText r.pri ++ "  ".toList ++ r.destination ++ "\n".toList) ::
        printFwdNsMxSrvRecords dc zone m
    else if r.type = "NS".toList then
      ("\t\t\tIN\tNS\t".toList ++ r.destination ++ "\n".toList) :: printFwdNsMxSrvRecords dc zone m
    else printFwdNsMxSrvRecords dc zone m

/-- The file and the display have the owner `_<service>._<protocol>` for the record. -/
def SameOwner (zone : CStr) (r : DnsRecord) : Prop :=
  ∃ service proto, r.service = some service ∧ r.protocol = some proto ∧
    fileOwner zone r = some (srvOwner service proto zone) ∧
    displayOwner zone r = some (srvOwner service proto zone)

section Owners

variable {dc : Dc} {zone owner line : CStr} {r : DnsRecord}

/-- A line of the zone file starts with the owner of the file. -/
theorem srvLine_eq_owner (h : srvLine dc zone r = some line) :
    ∃ owner rest, fileOwner zone r = some owner ∧ line = owner ++ "\tIN SRV ".toList ++ rest := by
  cases hproto : r.protocol with
  | none =>
    unfold srvLine at h
    rw [hproto] at h
    cases h
  | some proto =>
    cases hservice : r.service with
    | none =>
      unfold srvLine at h
      rw [hproto, hservice] at h
      cases h
    | some service =>
      unfold srvLine at h
      rw [hproto, hservice] at h
      obtain ⟨port, -, rfl⟩ := Option.map_eq_some_iff.mp h
      have howner : fileOwner zone r = some (srvOwner r.host proto zone) := by
        unfold fileOwner
        rw [hproto, hservice]
      have hdot : ".\tIN SRV ".toList = ".".toList ++ "\tIN SRV ".toList := rfl
      refine ⟨srvOwner r.host proto zone, numText r.pri ++ (" 0 ".toList ++ (numText port ++
        ("\t".toList ++ ((if r.destination.getLast? ≠ some '.' then
          r.destination ++ ".".toList ++ zone ++ ".".toList else r.destination) ++
            "\n".toList)))), howner, ?_⟩
      unfold srvOwner
      rw [hdot]
      simp only [List.append_assoc]

/-- A line of the display starts with the owner of the display. -/
theorem printFwdNsMxSrvRecords_eq_owner {m : List DnsRecord} {ls : List CStr}
    (hsrv : r.type = "SRV".toList) (h : printFwdNsMxSrvRecords dc zone (r :: m) = line :: ls) :
    ∃ owner rest, displayOwner zone r = some owner ∧
      line = owner ++ "\tIN\tSRV\t".toList ++ rest := by
  rw [printFwdNsMxSrvRecords, if_pos hsrv] at h
  unfold displayOwner
  split at h
  next proto service hproto hservice =>
    split at h
    next => cases h
    next port _ =>
      obtain ⟨rfl, -⟩ := List.cons.inj h
      refine ⟨srvOwner service proto zone, numText r.pri ++ (" 0 ".toList ++ (numText port ++
        (" ".toList ++ (r.destination ++ "\n".toList)))), rfl, ?_⟩
      have hdot : ".\tIN\tSRV\t".toList = ".".toList ++ "\tIN\tSRV\t".toList := rfl
      unfold srvOwner
      rw [hdot]
      simp only [List.append_assoc]
  next => cases h

theorem srvOwner_inj {service service' proto : CStr} :
    srvOwner service proto zone = srvOwner service' proto zone ↔ service = service' := by
  unfold srvOwner
  simp only [List.append_left_inj, List.append_right_inj]

/-- Both have the same owner iff the two columns agree. -/
theorem sameOwner_iff {service proto : CStr} (hservice : r.service = some service)
    (hproto : r.protocol = some proto) : SameOwner zone r ↔ r.host = service := by
  have howner : srvOwner r.host proto zone = srvOwner service proto zone ↔ r.host = service :=
    srvOwner_inj
  rw [← howner]
  simp only [SameOwner, fileOwner, displayOwner, hservice, hproto, Option.some.injEq]
  constructor
  · rintro ⟨_, _, rfl, rfl, h, -⟩
    exact h
  · exact fun h => ⟨_, _, rfl, rfl, h, rfl⟩

end Owners

/-! ## What is stored -/

/-- The command line of a record to add. The domain was cut by its option. -/
def DnsaOptions.commLine (comp : DnsaOptions) : Option DnsaCommLine :=
  match comp.domain, comp.host, comp.dest, comp.rtype with
  | some domain, some host, some dest, some rtype => some
    { domain := domain.take domainLen
      host := host
      dest := dest
      rtype := rtype
      pfx := comp.pfx
      protocol := comp.protocol
      service := comp.service
      toplevel := comp.toplevel
      glueNs := comp.glueNs
      glueIp := comp.glueIp
      length_domain := List.length_take_le .. }
  | _, _, _, _ => none

/-- The command line `main` calls `add_host` with. -/
def addHostCommLine (v : Validator) (opts : List DnsaOption) : Option DnsaCommLine :=
  match parseDnsaCommandLine v opts with
  | .ok comp => if comp.type = .forward ∧ comp.action = .addHost then comp.commLine else none
  | .error _ => none

section Stored

variable {v : Validator} {opts : List DnsaOption} {cm : DnsaCommLine}

theorem addHostCommLine_some (h : addHostCommLine v opts = some cm) :
    hostGiven opts = some cm.host ∧ serviceGiven opts = cm.service := by
  unfold addHostCommLine at h
  split at h
  next comp hparse =>
    obtain ⟨hhost, hservice⟩ := parseDnsaCommandLine_ok hparse
    split_ifs at h
    unfold DnsaOptions.commLine at h
    split at h
    next domain host dest rtype hdom hh hd hr =>
      cases h
      exact ⟨by rw [← hhost, hh], hservice.symm⟩
    next => cases h
  next => cases h

/-- No option names more than a column holds. -/
theorem length_hostGiven {host : CStr} (h : hostGiven opts = some host) :
    host.length ≤ configLen := by
  rw [hostGiven, Option.orElse_eq_some] at h
  rcases h with h | ⟨-, h⟩
  · obtain ⟨o, -, ho⟩ := List.mem_filterMap.mp (List.mem_of_getLast? h)
    split at ho
    · cases ho
      exact List.length_take_le ..
    · cases ho
  · obtain ⟨o, -, ho⟩ := List.mem_filterMap.mp (List.mem_of_head? h)
    split at ho
    · cases ho
      exact (List.length_take_le ..).trans (by decide)
    · cases ho

theorem length_serviceGiven {service : CStr} (h : serviceGiven opts = some service) :
    service.length ≤ configLen := by
  obtain ⟨o, -, ho⟩ := List.mem_filterMap.mp (List.mem_of_getLast? h)
  split at ho
  · cases ho
    exact (List.length_take_le ..).trans (by decide)
  · cases ho

/-- The row of an `SRV` record. -/
theorem newRecord_srv {zone : ℕ} {record : List AilsaData} (hrtype : cm.rtype = "SRV".toList)
    (h : dnsaPopulateRecord cm [.number zone] = .ok record) (uid id : ℕ) :
    ∃ proto service, cm.service = some service ∧
      newRecord id (cmdbPopulateCuserMuser uid record) =
        some ⟨id, zone, arg cm.host, arg cm.rtype, some (arg proto), some (arg service), cm.pfx,
          arg cm.dest⟩ := by
  unfold dnsaPopulateRecord at h
  rw [if_pos hrtype,
    if_pos (Or.inr hrtype : cm.rtype = "MX".toList ∨ cm.rtype = "SRV".toList)] at h
  obtain ⟨proto, hproto, h⟩ := addStringToList_bind_ok h
  rcases hservice : cm.service with _ | service
  · rw [hservice] at h
    cases h
  · rw [hservice] at h
    cases h
    exact ⟨proto, service, rfl, rfl⟩

/-- A record that `dnsa` stores has the owner of its service in the file as in the display
iff the last host the options name, or else the first service, is the last service. -/
theorem storedSrv_sameOwner_iff (v : Validator) (opts : List DnsaOption) (cm : DnsaCommLine)
    (hcm : addHostCommLine v opts = some cm) (hrtype : cm.rtype = "SRV".toList) (dc : Dc)
    (env : ZoneEnv) (w : ZoneWorld) (r : DnsRecord)
    (hr : r ∈ (addHost dc env cm w).2.db.records) (hnew : r ∉ w.db.records) (zone : CStr) :
    SameOwner zone r ↔ hostGiven opts = serviceGiven opts := by
  obtain ⟨hhost, hservice⟩ := addHostCommLine_some hcm
  obtain ⟨z, record, r', h, hrow, hrecords, -⟩ | ⟨-, hsame, -⟩ := addHost_outcome dc env cm w
  swap
  · exact absurd (hsame ▸ hr) hnew
  rw [hrecords, List.mem_append, List.mem_singleton] at hr
  obtain rfl := hr.resolve_left hnew
  obtain ⟨proto, service, hcmService, hnewRow⟩ :=
    newRecord_srv hrtype h.row dc.uid (nextId (w.db.records.map DnsRecord.id))
  rw [hnewRow, Option.some.injEq] at hrow
  subst hrow
  rw [hcmService] at hservice
  rw [sameOwner_iff rfl rfl, hhost, hservice, Option.some.injEq,
    arg_of_length_le (length_hostGiven hhost), arg_of_length_le (length_serviceGiven hservice)]

/-- `dnsa -a -n a.com -t SRV -s sip -i pbx` -/
def sipOptions : List DnsaOption :=
  [.add, .zoneName "a.com".toList, .recordType "SRV".toList, .service "sip".toList,
    .destination "pbx".toList]

/-- The regular expressions match any text. -/
def anyText : Validator := ⟨fun _ _ => true, fun _ _ => true⟩

/-- The record of a service on `pbx`, with that host column. -/
def sipRecord (host : String) : DnsRecord :=
  ⟨3, 1, host.toList, "SRV".toList, some "tcp".toList, some "sip".toList, 100, "pbx".toList⟩

theorem length_sipDomain_le : "a.com".toList.length ≤ domainLen := by decide

/-- What `dnsa` is called with for a record of a service on `pbx`. -/
def sipCommLine (host : String) : DnsaCommLine where
  domain := "a.com".toList
  host := host.toList
  dest := "pbx".toList
  rtype := "SRV".toList
  pfx := 100
  protocol := some "tcp".toList
  service := some "sip".toList
  toplevel := none
  glueNs := none
  glueIp := none
  length_domain := length_sipDomain_le

theorem storedSrv_sameOwner_iff_sip :
    SameOwner "a.com".toList (sipRecord "sip") ↔
      hostGiven sipOptions = serviceGiven sipOptions :=
  storedSrv_sameOwner_iff anyText sipOptions (sipCommLine "sip") rfl rfl sipDc (noClock true)
    srvWorld (sipRecord "sip") (by decide) (by decide) _

/-- Not so where the destination is given as the host :
`dnsa -a -n a.com -t SRV -s sip -h pbx`. -/
theorem not_sameOwner :
    ¬∀ (v : Validator) (opts : List DnsaOption) (cm : DnsaCommLine) (dc : Dc) (env : ZoneEnv)
      (w : ZoneWorld) (r : DnsRecord) (zone : CStr), addHostCommLine v opts = some cm →
        cm.rtype = "SRV".toList → r ∈ (addHost dc env cm w).2.db.records → r ∉ w.db.records →
          SameOwner zone r := by
  intro h
  have howner := h anyText [.add, .zoneName "a.com".toList, .recordType "SRV".toList,
    .service "sip".toList, .host "pbx".toList] (sipCommLine "pbx") sipDc (noClock true) srvWorld
    (sipRecord "pbx") "a.com".toList rfl rfl (by decide) (by decide)
  exact absurd ((sameOwner_iff rfl rfl).mp howner) (by decide)

end Stored

end Cmdb
