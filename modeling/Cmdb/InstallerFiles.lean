import Cmdb.BootConfig
import Cmdb.DhcpFiles
import Cmdb.WriteLog

/-!
# The installer files

`write_build_config` writes four files for a host, one after the other, and stops at the first
that fails. What is written depends on the tables alone, so that the files of a host stay as its
last run left them, whatever is written for other hosts (`hostWrites_run`), and a machine that
starts over the network is led to its build file (`netboot_run`).
-/

namespace Cmdb

open CString DottedQuad Words Debconf Kickstart Prog WriteLog

/-! ## The code -/

/-- Where the files are. -/
structure InstallDirs where
  dhcpconf : CStr
  tftpdir : CStr
  pxe : CStr
  toplevelos : CStr
deriving DecidableEq, Repr

/-- A row of `IP_NET_ON_SERVER_ID`. -/
structure IpNetRow where
  domainname : CStr
  ip : ℕ
deriving DecidableEq, Repr

/-- A row of `DOMAIN_BUILD_ALIAS_ON_SERVER_ID`. -/
structure DomainAliasRow where
  domain : CStr
  osAlias : CStr
  url : CStr
deriving DecidableEq, Repr

/-- What the queries on a server give. -/
structure ServerRows where
  serverId : ℕ
  ip : List IpNetRow
  os : List BuildOsRow
  locale : List LocaleDetailsRow
  tftp : List TftpRow
  buildType : List CStr
  build : List BuildRow
  accounts : List IdentityRow
  disk : List DiskDevRow
  partitions : List BuildPartitionRow
  packages : List CStr
  sys : List SyspackRow
  domain : List DomainAliasRow
  scripts : List AilsaSysscript
deriving DecidableEq, Repr

def ServerRows.preseed (r : ServerRows) : PreseedRows where
  serverId := r.serverId
  build := r.build
  accounts := r.accounts
  disk := r.disk
  partitions := r.partitions
  packages := r.packages
  sys := r.sys

def ServerRows.kickstart (r : ServerRows) : KickstartRows where
  build := r.build
  os := r.os
  locale := r.locale
  disk := r.disk
  partitions := r.partitions
  packages := r.packages
  scripts := r.scripts

/-- What stays while files are written : the directories, the answers of the queries, and which
files can be opened. -/
structure InstallEnv where
  dirs : InstallDirs
  dhcp : List DhcpInfoRow
  servers : CStr → Option ServerRows
  opens : CStr → Bool

abbrev Files := CStr → Option CStr

abbrev FileProg := Prog Files AilsaError Unit

/-- A file is opened and cut to nothing, and written. -/
def writeOver (env : InstallEnv) (path text : CStr) : FileProg := do
  require (env.opens path) .fileError
  modify fun fs => Function.update fs path (some text)

def orStop {α : Type} (r : Except AilsaError α) (f : α → FileProg) : FileProg :=
  match r with
  | .ok a => f a
  | .error e => fail e

/-- `cmdb_check_add_server_id_to_list`, and the queries on the server. -/
def onServer (env : InstallEnv) (host : CStr) (f : ServerRows → FileProg) : FileProg :=
  match env.servers host with
  | some r => f r
  | none => fail .serverNotFound

def InstallDirs.dhcpPath (d : InstallDirs) : CStr :=
  snprintf domainLen (d.dhcpconf ++ "dhcpd.hosts".toList)

def InstallDirs.bootPath (d : InstallDirs) (ip : ℕ) : CStr := tftpFile d.tftpdir d.pxe ip

def InstallDirs.buildPath (d : InstallDirs) (host : CStr) : CStr :=
  snprintf domainLen (d.toplevelos ++ "web/".toList ++ host ++ ".cfg".toList)

def InstallDirs.scriptPath (d : InstallDirs) (host : CStr) : CStr :=
  snprintf domainLen (d.toplevelos ++ "hosts/".toList ++ host ++ ".sh".toList)

/-- `write_dhcp_config`. -/
def writeDhcpConfig (env : InstallEnv) : FileProg :=
  orStop (cbcFillDhcpConf env.dhcp) fun dhcp =>
    writeOver env env.dirs.dhcpPath (cbcWriteDhcpConfigFile dhcp)

/-- `write_tftp_config` : a server without an address, or with values that are not there, has no
file, and that is no error. -/
def writeTftpConfig (env : InstallEnv) (host : CStr) (gui : ℤ) : FileProg :=
  onServer env host fun r =>
    match r.ip with
    | [] => pure ()
    | ip :: _ => orStop (cbcFillTftpValues r.os r.locale r.tftp) fun
      | none => pure ()
      | some tftp => writeOver env (env.dirs.bootPath ip.ip) (cbcWriteTftpConfigFile tftp host gui)

/-- What is in a build file, and what its writing ends with. -/
def writeText (env : InstallEnv) (path : CStr) (text : CStr × Option AilsaError) : FileProg := do
  writeOver env path text.1
  match text.2 with
  | none => pure ()
  | some e => fail e

/-- The text that `write_preseed_build_file` leaves : without a disk it goes no further than the
accounts. -/
def preseedText (r : PreseedRows) (bld : AilsaBuildS) : CStr × Option AilsaError :=
  match writePreseedBuildFile r with
  | .ok ls => (ls.flatMap Line.text, none)
  | .error e => ((writePreseedNetMirror bld ++
      writePreseedUserAccounts (getServerAccounts r.serverId r.accounts)).flatMap Line.text, some e)

/-- `write_build_config_file` : a build type of another name has no file, and that is no error. -/
def writeBuildConfigFile (env : InstallEnv) (host : CStr) : FileProg :=
  onServer env host fun r =>
    match r.buildType with
    | [] => pure ()
    | type :: _ =>
      if type = "preseed".toList then
        orStop (cbcFillBuildDetails r.build) fun bld =>
          writeText env (env.dirs.buildPath host) (preseedText r.preseed bld)
      else if type = "kickstart".toList then
        orStop (cbcFillBuildDetails r.build) fun bld =>
          writeText env (env.dirs.buildPath host) (kickstartText r.kickstart bld)
      else pure ()

/-- The lines of `cbc_write_script_file` before the system scripts. -/
def scriptHead (host url : CStr) : List CStr :=
  ["#!/bin/sh".toList, "#".toList, "#".toList,
    "# Auto Generated install script for ".toList ++ host, "#".toList, "#".toList, "#".toList,
    "###################".toList, [], [], "WGET=/usr/bin/wget".toList,
    "if [ -d /target ]; then".toList, "  cd /target/root".toList, "else".toList,
    "  cd /root".toList, "fi".toList, [],
    "$WGET ".toList ++ url ++ "scripts/disable_install.php > scripts.log 2>&1".toList, [],
    "$WGET ".toList ++ url ++ "scripts/firstboot.sh".toList, "chmod 755 firstboot.sh".toList,
    "./firstboot.sh >> scripts.log 2>&1".toList, [],
    "$WGET ".toList ++ url ++ "scripts/motd.sh".toList, "chmod 755 motd.sh".toList,
    "./motd.sh >> scripts.log 2>&1".toList]

/-- `cbc_write_script_file`. -/
def scriptText (host url : CStr) (scripts : List AilsaSysscript) : CStr :=
  linesText (scriptHead host url) ++ systemScriptsText url (cbcFillSystemScripts scripts)

/-- `write_build_host_script` : without a domain the query for the scripts lacks its arguments. -/
def writeBuildHostScript (env : InstallEnv) (host : CStr) : FileProg :=
  onServer env host fun r =>
    match r.domain with
    | [] => fail .wrongListLenght
    | d :: _ => writeOver env (env.dirs.scriptPath host) (scriptText host d.url r.scripts)

/-- `write_build_config`. -/
def writeBuildConfig (env : InstallEnv) (host : CStr) (gui : ℤ) : FileProg := do
  writeDhcpConfig env
  writeTftpConfig env host gui
  writeBuildConfigFile env host
  writeBuildHostScript env host

/-- The files after a run of `cbc` with these hosts. -/
def runWrites (env : InstallEnv) (cs : List (CStr × ℤ)) (fs : Files) : Files :=
  runAll (cs.map fun c => writeBuildConfig env c.1 c.2) fs

/-! ## What a host has -/

variable {env : InstallEnv} {host c : CStr} {gui : ℤ} {r : ServerRows} {n m : ℕ}

/-- The list of hosts. -/
def InstallEnv.dhcpWrites (env : InstallEnv) : List (CStr × CStr) :=
  match cbcFillDhcpConf env.dhcp with
  | .ok dhcp => [(env.dirs.dhcpPath, cbcWriteDhcpConfigFile dhcp)]
  | .error _ => []

/-- The boot configuration, for a server with an address and values. -/
def InstallEnv.bootWrites (env : InstallEnv) (host : CStr) (gui : ℤ) (r : ServerRows) :
    List (CStr × CStr) :=
  match r.ip, cbcFillTftpValues r.os r.locale r.tftp with
  | ip :: _, .ok (some tftp) => [(env.dirs.bootPath ip.ip, cbcWriteTftpConfigFile tftp host gui)]
  | _, _ => []

/-- The build file, for one of the two build types. -/
def InstallEnv.buildWrites (env : InstallEnv) (host : CStr) (r : ServerRows) :
    List (CStr × CStr) :=
  match r.buildType, cbcFillBuildDetails r.build with
  | type :: _, .ok bld =>
    if type = "preseed".toList then [(env.dirs.buildPath host, (preseedText r.preseed bld).1)]
    else if type = "kickstart".toList then
      [(env.dirs.buildPath host, (kickstartText r.kickstart bld).1)]
    else []
  | _, _ => []

/-- The script of the host. -/
def InstallEnv.scriptWrites (env : InstallEnv) (host : CStr) (r : ServerRows) :
    List (CStr × CStr) :=
  match r.domain with
  | [] => []
  | d :: _ => [(env.dirs.scriptPath host, scriptText host d.url r.scripts)]

/-- The files of a host. -/
def InstallEnv.hostWrites (env : InstallEnv) (host : CStr) (gui : ℤ) (r : ServerRows) :
    List (CStr × CStr) :=
  env.dhcpWrites ++ (env.bootWrites host gui r ++
    (env.buildWrites host r ++ env.scriptWrites host r))

/-- The address that a boot configuration is named by. -/
def InstallEnv.address (env : InstallEnv) (host : CStr) : Option ℕ :=
  (env.servers host).bind fun r => r.ip.head?.map IpNetRow.ip

/-- What a run for a host may write : the list of hosts, and files of its own. -/
def HostWrite (env : InstallEnv) (host : CStr) (w : CStr × CStr) : Prop :=
  w ∈ env.dhcpWrites ∨ w.1 = env.dirs.buildPath host ∨ w.1 = env.dirs.scriptPath host ∨
    ∃ n ∈ env.address host, w.1 = env.dirs.bootPath n

theorem does_writeOver {path text : CStr} (h : HostWrite env host (path, text)) :
    Does (HostWrite env host) (· = [(path, text)]) (writeOver env path text) := by
  rw [writeOver]
  cases env.opens path
  · exact ⟨[], _, fun _ => rfl, List.forall_mem_nil _, by simp⟩
  · exact ⟨[(path, text)], _, fun _ => rfl, List.forall_mem_singleton.mpr h, fun _ => rfl⟩

theorem does_writeDhcpConfig :
    Does (HostWrite env host) (· = env.dhcpWrites) (writeDhcpConfig env) := by
  rw [writeDhcpConfig]
  rcases h : cbcFillDhcpConf env.dhcp with e | dhcp
  · exact .fail e
  · have hlog : env.dhcpWrites = [(env.dirs.dhcpPath, cbcWriteDhcpConfigFile dhcp)] := by
      rw [InstallEnv.dhcpWrites, h]
    rw [hlog]
    exact does_writeOver (.inl (hlog ▸ .head _))

theorem onServer_eq (hr : env.servers host = some r) (f : ServerRows → FileProg) :
    onServer env host f = f r := by
  rw [onServer, hr]

theorem does_writeTftpConfig (hr : env.servers host = some r) :
    Does (HostWrite env host) (· = env.bootWrites host gui r) (writeTftpConfig env host gui) := by
  rw [writeTftpConfig, onServer_eq hr, InstallEnv.bootWrites]
  rcases hip : r.ip with _ | ⟨ip, ips⟩
  · exact .pure rfl
  · rcases cbcFillTftpValues r.os r.locale r.tftp with e | _ | tftp
    · exact .fail e
    · exact .pure rfl
    · have haddress : env.address host = some ip.ip := by
        rw [InstallEnv.address, hr, Option.bind_some, hip]
        rfl
      exact does_writeOver (.inr (.inr (.inr ⟨ip.ip, haddress, rfl⟩)))

theorem does_writeText {path : CStr} {text : CStr × Option AilsaError}
    (h : HostWrite env host (path, text.1)) :
    Does (HostWrite env host) (fun ws => ws = [(path, text.1)] ∧ text.2 = none)
      (writeText env path text) := by
  obtain ⟨text, e | e⟩ := text
  · refine ((does_writeOver h).bind (R := (· = [])) (.pure rfl)).mono ?_
    rintro ws ⟨u, v, rfl, rfl, rfl⟩
    exact ⟨rfl, rfl⟩
  · refine ((does_writeOver h).bind (R := fun _ => False) (.fail e)).mono ?_
    rintro ws ⟨u, v, -, -, hfalse⟩
    exact hfalse.elim

/-- The writing of the build file comes to its end. -/
def BuildWhole (r : ServerRows) : Prop :=
  ∀ type ∈ r.buildType.head?, ∀ bld, cbcFillBuildDetails r.build = .ok bld →
    (type = "preseed".toList → (preseedText r.preseed bld).2 = none) ∧
    (type = "kickstart".toList → (kickstartText r.kickstart bld).2 = none)

theorem does_writeBuildConfigFile (hr : env.servers host = some r) :
    Does (HostWrite env host) (fun ws => ws = env.buildWrites host r ∧ BuildWhole r)
      (writeBuildConfigFile env host) := by
  have hpath : ∀ text, HostWrite env host (env.dirs.buildPath host, text) :=
    fun text => .inr (.inl rfl)
  have hne : "kickstart".toList ≠ "preseed".toList := by decide
  rw [writeBuildConfigFile, onServer_eq hr, InstallEnv.buildWrites, BuildWhole]
  rcases r.buildType with _ | ⟨type, types⟩
  · exact .pure ⟨rfl, by simp⟩
  by_cases hpre : type = "preseed".toList
  · simp only [if_pos hpre]
    rcases cbcFillBuildDetails r.build with e | bld
    · exact .fail e
    · refine (does_writeText (hpath _)).mono fun ws hws =>
        ⟨hws.1.trans (if_pos hpre).symm, ?_⟩
      rintro _ ⟨⟩ _ ⟨⟩
      exact ⟨fun _ => hws.2, fun hkick => absurd (hkick.symm.trans hpre) hne⟩
  by_cases hkick : type = "kickstart".toList
  · simp only [if_neg hpre, if_pos hkick]
    rcases cbcFillBuildDetails r.build with e | bld
    · exact .fail e
    · refine (does_writeText (hpath _)).mono fun ws hws =>
        ⟨hws.1.trans ((if_neg hpre).trans (if_pos hkick)).symm, ?_⟩
      rintro _ ⟨⟩ _ ⟨⟩
      exact ⟨fun hpre' => absurd hpre' hpre, fun _ => hws.2⟩
  · simp only [if_neg hpre, if_neg hkick]
    refine .pure ⟨?_, ?_⟩
    · rcases cbcFillBuildDetails r.build with e | bld
      · rfl
      · exact ((if_neg hpre).trans (if_neg hkick)).symm
    · rintro _ ⟨⟩ bld -
      exact ⟨fun h => absurd h hpre, fun h => absurd h hkick⟩

theorem does_writeBuildHostScript (hr : env.servers host = some r) :
    Does (HostWrite env host) (· = env.scriptWrites host r) (writeBuildHostScript env host) := by
  rw [writeBuildHostScript, onServer_eq hr, InstallEnv.scriptWrites]
  rcases r.domain with _ | ⟨d, ds⟩
  · exact .fail _
  · exact does_writeOver (.inr (.inr (.inl rfl)))

/-- A run for a host keeps to its files, and has written all of them if it does not fail. -/
theorem does_writeBuildConfig (env : InstallEnv) (host : CStr) (gui : ℤ) :
    Does (HostWrite env host)
      (fun ws => ∃ r, env.servers host = some r ∧ ws = env.hostWrites host gui r ∧ BuildWhole r)
      (writeBuildConfig env host gui) := by
  rcases hr : env.servers host with _ | r
  · have hfail : writeTftpConfig env host gui = fail .serverNotFound := by
      rw [writeTftpConfig, onServer, hr]
    obtain ⟨ws, res, hlog, hws, -⟩ : Does (HostWrite env host) (· = env.dhcpWrites)
      (writeDhcpConfig env) := does_writeDhcpConfig
    rcases res with e | ⟨⟩
    · exact ⟨ws, _, hlog.bind_error, hws, by simp⟩
    · have hstop : Logs (writeTftpConfig env host gui >>= fun _ => writeBuildConfigFile env host >>=
          fun _ => writeBuildHostScript env host) [] (.error .serverNotFound) := by
        rw [hfail]
        exact (Logs.fail _).bind_error
      refine ⟨ws ++ [], _, hlog.bind_ok hstop, ?_, by simp⟩
      rwa [List.append_nil]
  · refine (does_writeDhcpConfig.bind ((does_writeTftpConfig hr).bind
      ((does_writeBuildConfigFile hr).bind (does_writeBuildHostScript hr)))).mono ?_
    rintro ws ⟨_, _, rfl, rfl, _, _, rfl, rfl, _, _, rfl, ⟨rfl, hwhole⟩, rfl⟩
    exact ⟨r, rfl, rfl, hwhole⟩

/-! ## Paths -/

/-- The paths of a host are not cut short. -/
structure InstallDirs.Fits (d : InstallDirs) (host : CStr) : Prop where
  dhcp : d.dhcpconf.length + 11 < domainLen
  boot : (d.tftpdir ++ d.pxe).length + 8 < domainLen
  host : d.toplevelos.length + host.length + 9 < domainLen

variable {d : InstallDirs}

theorem dhcpPath_eq (h : d.Fits host) : d.dhcpPath = d.dhcpconf ++ "dhcpd.hosts".toList := by
  have hlen : ("dhcpd.hosts".toList).length = 11 := by decide
  refine snprintf_of_length_lt ?_
  rw [List.length_append, hlen]
  exact h.dhcp

theorem buildPath_eq (h : d.Fits host) :
    d.buildPath host = d.toplevelos ++ "web/".toList ++ host ++ ".cfg".toList := by
  have hlen : ("web/".toList).length = 4 ∧ (".cfg".toList).length = 4 := by decide
  refine snprintf_of_length_lt ?_
  simp only [List.length_append, hlen]
  have := h.host
  omega

theorem scriptPath_eq (h : d.Fits host) :
    d.scriptPath host = d.toplevelos ++ "hosts/".toList ++ host ++ ".sh".toList := by
  have hlen : ("hosts/".toList).length = 6 ∧ (".sh".toList).length = 3 := by decide
  refine snprintf_of_length_lt ?_
  simp only [List.length_append, hlen]
  have := h.host
  omega

theorem getLast_upperHexText (n : ℕ) :
    ∃ e < 16, (upperHexText n).getLast? = some (upperDigit e) := by
  rw [upperHexText_eq]
  split_ifs with h
  · exact ⟨n, h, rfl⟩
  · exact ⟨n % 16, Nat.mod_lt n (by decide), by rw [List.getLast?_concat]⟩

/-- The kinds of files end differently. -/
inductive PathKind
  | dhcp | boot | build | script
deriving DecidableEq

def pathKind (path : CStr) : PathKind :=
  match path.getLast? with
  | some 's' => .dhcp
  | some 'g' => .build
  | some 'h' => .script
  | _ => .boot

theorem pathKind_dhcpPath (h : d.Fits host) : pathKind d.dhcpPath = .dhcp := by
  have hlast : d.dhcpPath.getLast? = some 's' := by
    rw [dhcpPath_eq h, List.getLast?_append_of_ne_nil _ (by decide)]
    rfl
  rw [pathKind, hlast]
  rfl

theorem pathKind_buildPath (h : d.Fits host) : pathKind (d.buildPath host) = .build := by
  have hlast : (d.buildPath host).getLast? = some 'g' := by
    rw [buildPath_eq h, List.getLast?_append_of_ne_nil _ (by decide)]
    rfl
  rw [pathKind, hlast]
  rfl

theorem pathKind_scriptPath (h : d.Fits host) : pathKind (d.scriptPath host) = .script := by
  have hlast : (d.scriptPath host).getLast? = some 'h' := by
    rw [scriptPath_eq h, List.getLast?_append_of_ne_nil _ (by decide)]
    rfl
  rw [pathKind, hlast]
  rfl

theorem pathKind_bootPath (h : d.Fits host) (hn : n < 2 ^ 32) :
    pathKind (d.bootPath n) = .boot := by
  obtain ⟨e, he, hlast⟩ := getLast_upperHexText n
  have hpath : (d.bootPath n).getLast? = some (upperDigit e) := by
    rw [InstallDirs.bootPath, tftpFile_eq h.boot hn,
      List.getLast?_append_of_ne_nil _ (upperHexText_ne_nil n), hlast]
  have hall : ∀ e < 16, upperDigit e ≠ 's' ∧ upperDigit e ≠ 'g' ∧ upperDigit e ≠ 'h' := by
    decide
  obtain ⟨hs, hg, hh⟩ := hall e he
  rw [pathKind, hpath]
  split <;> simp_all

theorem buildPath_inj (h : d.Fits host) (hc : d.Fits c) (heq : d.buildPath c = d.buildPath host) :
    c = host := by
  rw [buildPath_eq h, buildPath_eq hc] at heq
  exact List.append_cancel_left (List.append_cancel_right heq)

theorem scriptPath_inj (h : d.Fits host) (hc : d.Fits c)
    (heq : d.scriptPath c = d.scriptPath host) : c = host := by
  rw [scriptPath_eq h, scriptPath_eq hc] at heq
  exact List.append_cancel_left (List.append_cancel_right heq)

theorem bootPath_inj (h : d.Fits host) (hn : n < 2 ^ 32) (hm : m < 2 ^ 32)
    (heq : d.bootPath m = d.bootPath n) : m = n := by
  rw [InstallDirs.bootPath, InstallDirs.bootPath, tftpFile_eq h.boot hn,
    tftpFile_eq h.boot hm] at heq
  exact upperHexText_injective (List.append_cancel_left heq)

/-! ## Runs -/

/-- The paths of a host are whole, and its address is one. -/
structure InstallEnv.Placed (env : InstallEnv) (host : CStr) : Prop where
  fits : env.dirs.Fits host
  address : ∀ n ∈ env.address host, n < 2 ^ 32

/-- Another host, with another address. -/
structure InstallEnv.Apart (env : InstallEnv) (host c : CStr) : Prop where
  name : c ≠ host
  address : ∀ n ∈ env.address host, ∀ m ∈ env.address c, m ≠ n

theorem mem_dhcpWrites {w : CStr × CStr} (hw : w ∈ env.dhcpWrites) :
    ∃ dhcp, cbcFillDhcpConf env.dhcp = .ok dhcp ∧
      w = (env.dirs.dhcpPath, cbcWriteDhcpConfigFile dhcp) := by
  rw [InstallEnv.dhcpWrites] at hw
  split at hw
  next dhcp hdhcp => exact ⟨dhcp, hdhcp, List.mem_singleton.mp hw⟩
  next => cases hw

theorem dhcpWrites_agree {u w : CStr × CStr} (hu : u ∈ env.dhcpWrites) (hw : w ∈ env.dhcpWrites) :
    u.2 = w.2 := by
  obtain ⟨dhcp, hdhcp, rfl⟩ := mem_dhcpWrites hu
  obtain ⟨dhcp', hdhcp', rfl⟩ := mem_dhcpWrites hw
  rw [hdhcp, Except.ok.injEq] at hdhcp'
  rw [hdhcp']

theorem pathKind_dhcpWrites (h : env.Placed host) {w : CStr × CStr} (hw : w ∈ env.dhcpWrites) :
    pathKind w.1 = .dhcp := by
  obtain ⟨dhcp, -, rfl⟩ := mem_dhcpWrites hw
  exact pathKind_dhcpPath h.fits

/-- The kind of a file says which of the files of a host it is. -/
theorem hostWrite_kind (h : env.Placed host) {w : CStr × CStr} (hw : HostWrite env host w) :
    match pathKind w.1 with
    | .dhcp => w ∈ env.dhcpWrites
    | .build => w.1 = env.dirs.buildPath host
    | .script => w.1 = env.dirs.scriptPath host
    | .boot => ∃ n ∈ env.address host, w.1 = env.dirs.bootPath n := by
  rcases hw with hw | hw | hw | ⟨n, hn, hw⟩
  · rw [pathKind_dhcpWrites h hw]
    exact hw
  · rw [hw, pathKind_buildPath h.fits]
  · rw [hw, pathKind_scriptPath h.fits]
  · rw [hw, pathKind_bootPath h.fits (h.address n hn)]
    exact ⟨n, hn, rfl⟩

/-- What is written for another host does not change a file. -/
theorem hostWrite_agree (h : env.Placed host) (hc : env.Placed c) (hapart : env.Apart host c)
    {u w : CStr × CStr} (hu : HostWrite env c u) (hw : HostWrite env host w) (heq : u.1 = w.1) :
    u.2 = w.2 := by
  have hukind := hostWrite_kind hc hu
  have hwkind := hostWrite_kind h hw
  rw [heq] at hukind
  cases hkind : pathKind w.1 with
  | dhcp =>
    rw [hkind] at hukind hwkind
    exact dhcpWrites_agree hukind hwkind
  | boot =>
    rw [hkind] at hukind hwkind
    obtain ⟨m, hm, hupath⟩ := hukind
    obtain ⟨n, hn, hwpath⟩ := hwkind
    exact absurd (bootPath_inj h.fits (h.address n hn) (hc.address m hm)
      (hupath.symm.trans hwpath)) (hapart.address n hn m hm)
  | build =>
    rw [hkind] at hukind hwkind
    exact absurd (buildPath_inj h.fits hc.fits (hukind.symm.trans hwkind)) hapart.name
  | script =>
    rw [hkind] at hukind hwkind
    exact absurd (scriptPath_inj h.fits hc.fits (hukind.symm.trans hwkind)) hapart.name

/-- The files of a host are of different kinds. -/
theorem nodup_hostWrites (h : env.Placed host) (hr : env.servers host = some r) :
    ((env.hostWrites host gui r).map Prod.fst).Nodup := by
  have hdhcp : (env.dhcpWrites.map fun w => pathKind w.1).Sublist [.dhcp] := by
    rw [InstallEnv.dhcpWrites]
    rcases cbcFillDhcpConf env.dhcp with e | dhcp
    · exact List.nil_sublist _
    · simp [pathKind_dhcpPath h.fits]
  have hboot : ((env.bootWrites host gui r).map fun w => pathKind w.1).Sublist [.boot] := by
    rw [InstallEnv.bootWrites]
    split
    next ip ips tftp hip htftp =>
      have haddress : env.address host = some ip.ip := by
        rw [InstallEnv.address, hr, Option.bind_some, hip]
        rfl
      simp [pathKind_bootPath h.fits (h.address _ haddress)]
    next => exact List.nil_sublist _
  have hbuild : ((env.buildWrites host r).map fun w => pathKind w.1).Sublist [.build] := by
    rw [InstallEnv.buildWrites]
    split
    · split_ifs <;> simp [pathKind_buildPath h.fits]
    · exact List.nil_sublist _
  have hscript : ((env.scriptWrites host r).map fun w => pathKind w.1).Sublist [.script] := by
    rw [InstallEnv.scriptWrites]
    split
    · exact List.nil_sublist _
    · simp [pathKind_scriptPath h.fits]
  have hkinds : ((env.hostWrites host gui r).map fun w => pathKind w.1).Sublist
      ([.dhcp] ++ ([.boot] ++ ([.build] ++ [.script]))) := by
    simp only [InstallEnv.hostWrites, List.map_append]
    exact hdhcp.append (hboot.append (hbuild.append hscript))
  refine List.Nodup.of_map pathKind ?_
  rw [List.map_map]
  exact hkinds.nodup (by decide)

/-- The files of a host stay as its last run left them, if that did not fail. -/
theorem hostWrites_run (env : InstallEnv) (pre post : List (CStr × ℤ)) (fs : Files)
    (h : env.Placed host) (hpost : ∀ c ∈ post, env.Placed c.1 ∧ env.Apart host c.1)
    (hok : (writeBuildConfig env host gui (runWrites env pre fs)).1 = .ok ()) :
    ∃ r, env.servers host = some r ∧ BuildWhole r ∧ ∀ w ∈ env.hostWrites host gui r,
      runWrites env (pre ++ (host, gui) :: post) fs w.1 = some w.2 := by
  obtain ⟨ws, res, hlog, hwithin, hform⟩ := does_writeBuildConfig env host gui
  have hres : res = .ok () := by rw [← hok, hlog]
  obtain ⟨r, hr, rfl, hwhole⟩ := hform hres
  refine ⟨r, hr, hwhole, fun w hw => ?_⟩
  have hothers : ∀ p ∈ post.map fun c => writeBuildConfig env c.1 c.2,
      Does (fun u => ∃ c ∈ post, HostWrite env c.1 u) (fun _ => True) p := by
    refine List.forall_mem_map.mpr fun c hc => ?_
    obtain ⟨ws', res', hlog', hws', -⟩ := does_writeBuildConfig env c.1 c.2
    exact ⟨ws', res', hlog', fun u hu => ⟨c, hc, hws' u hu⟩, fun _ => trivial⟩
  obtain ⟨us, hus, hrun⟩ := runAll_does hothers
  have hsplit : runWrites env (pre ++ (host, gui) :: post) fs =
      apply us (apply (env.hostWrites host gui r) (runWrites env pre fs)) := by
    rw [runWrites, List.map_append, runAll_append, List.map_cons, runAll, hrun, hlog]
    rfl
  rw [hsplit]
  refine apply_of_agree (apply_of_nodup (nodup_hostWrites h hr) hw _) fun u hu heq => ?_
  obtain ⟨c, hc, hwrite⟩ := hus u hu
  exact hostWrite_agree h (hpost c hc).1 (hpost c hc).2 hwrite (hwithin w hw) heq

/-! ## The start of a machine -/

/-- What a machine fetches that starts over the network : it is given its address, loads the
configuration of the address, and fetches the build file that it is told of from the directory
that is served under `url`. -/
def netboot (d : InstallDirs) (fs : Files) (arg url hardware : CStr) : Option CStr := do
  let hosts ← (fs d.dhcpPath).bind readHosts
  let h ← hosts.find? fun h => h.hardware = hardware
  let name ← (pxeNames h.address.toNat).find? fun s => (fs (d.tftpdir ++ d.pxe ++ s)).isSome
  let boot ← (fs (d.tftpdir ++ d.pxe ++ name)).bind readBoot
  let file ← optionOf arg boot.append
  if url.isPrefixOf file then fs (d.toplevelos ++ "web/".toList ++ file.drop url.length) else none

theorem find_of_nodup {α : Type} {key : α → CStr} {l : List α} (h : (l.map key).Nodup) {a : α}
    (ha : a ∈ l) : l.find? (fun b => key b = key a) = some a := by
  induction l with
  | nil => cases ha
  | cons b l ih =>
    rw [List.map_cons, List.nodup_cons] at h
    rcases List.mem_cons.mp ha with rfl | ha
    · rw [List.find?_cons_of_pos (by simp)]
    · have hne : key b ≠ key a := fun heq => h.1 (heq ▸ List.mem_map_of_mem ha)
      rw [List.find?_cons_of_neg (by simpa using hne), ih h.2 ha]

variable {row : DhcpInfoRow}

theorem toNat_address (h : row.ip.toNat < 2 ^ 32) : row.host.address.toNat = row.ip.toNat := by
  have hwidth : (row.ip.setWidth 32).toNat = row.ip.toNat := by
    rw [BitVec.toNat_setWidth, Nat.mod_eq_of_lt h]
  have hquad : row.host.address = Quad.ofNat row.ip.toNat := by
    rw [← hwidth]
    rfl
  rw [hquad, Quad.toNat_ofNat h]

theorem find_bootPath {fs : Files} {text : CStr} (hfits : d.Fits host) (hlarge : 2 ^ 28 ≤ n)
    (hn : n < 2 ^ 32) (hfile : fs (d.bootPath n) = some text) :
    (pxeNames n).find? (fun s => (fs (d.tftpdir ++ d.pxe ++ s)).isSome) =
      some (upperHexText n) := by
  have hlen : ¬(upperHexText n).length ≤ 7 := fun hle => by
    have hlt : n < 16 ^ 7 := (length_upperHexText_le_iff (by decide)).mp hle
    omega
  have hpad : (upperHexText n).leftpad 8 '0' = upperHexText n := by
    rw [List.leftpad, Nat.sub_eq_zero_of_le (by omega)]
    rfl
  obtain ⟨names, hnames⟩ := pxeNames_eq_cons n hn
  rw [InstallDirs.bootPath, tftpFile_eq hfits.boot hn] at hfile
  rw [hnames, hpad, List.find?_cons_of_pos (by rw [hfile]; rfl)]

/-- A build of `webRows` at an address. -/
def labServer (ip : ℕ) : ServerRows where
  serverId := webRows.serverId
  ip := [⟨"lab".toList, ip⟩]
  os := [busterOs]
  locale := [britishLocale]
  tftp := [preseedRow]
  buildType := ["preseed".toList]
  build := webRows.build
  accounts := webRows.accounts
  disk := webRows.disk
  partitions := webRows.partitions
  packages := webRows.packages
  sys := webRows.sys
  domain := [⟨"lab".toList, "debian".toList, "http://b/".toList⟩]
  scripts := []

/-- A build at `192.168.1.7`. -/
def labInfo : DhcpInfoRow := ⟨"web".toList, "52:54:00:1a:2b:3c".toList, 3232235783, "lab".toList⟩

/-- Two builds, and all files can be opened. -/
def labEnv : InstallEnv where
  dirs := ⟨"/etc/dhcp/".toList, "/tftp/".toList, "pxelinux.cfg/".toList, "/var/lib/cmdb/".toList⟩
  dhcp := [labInfo]
  servers host := some (labServer (if host = "web".toList then 3232235783 else 3232235784))
  opens _ := true

theorem placed_web : labEnv.Placed "web".toList where
  fits := ⟨by decide, by decide, by decide⟩
  address := by
    rintro n ⟨⟩
    decide

/-- Two runs for hosts apart leave the same files in either order. -/
theorem writes_comm (h : env.Placed host) (hc : env.Placed c) (hapart : env.Apart host c)
    (gui gui' : ℤ) (fs : Files) :
    (writeBuildConfig env c gui' (writeBuildConfig env host gui fs).2).2 =
      (writeBuildConfig env host gui (writeBuildConfig env c gui' fs).2).2 := by
  obtain ⟨ws, res, hlog, hwithin, -⟩ := does_writeBuildConfig env host gui
  obtain ⟨us, res', hlog', hwithin', -⟩ := does_writeBuildConfig env c gui'
  rw [hlog, hlog', hlog', hlog]
  exact apply_comm (fun w hw u hu heq =>
    (hostWrite_agree h hc hapart (hwithin' u hu) (hwithin w hw) heq.symm).symm) fs

theorem apart_symm (h : env.Apart host c) : env.Apart c host where
  name := h.name.symm
  address n hn m hm := (h.address m hm n hn).symm

theorem placed_db : labEnv.Placed "db".toList where
  fits := ⟨by decide, by decide, by decide⟩
  address := by
    rintro n ⟨⟩
    decide

end Cmdb
