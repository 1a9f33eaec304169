import Cmdb.BuildDisks
import Cmdb.DhcpNetworks
import Cmdb.OsPackages
import Cmdb.PackageArgs

/-!
# The preseed file of a build

`write_preseed_build_file` writes the answers that the installer of Debian asks for. It takes them
from the rows of one server : its build, the accounts on it, its disk with the partitions of the
scheme, and the packages.
-/

namespace Cmdb

open CString Words Debconf

/-! ## The code -/

/-- A row of `BUILD_DETAILS`. -/
structure BuildRow where
  locale : CStr
  language : CStr
  keymap : CStr
  country : CStr
  netInstInt : CStr
  ip : BitVec 64
  ns : BitVec 64
  netmask : BitVec 64
  gateway : BitVec 64
  configNtp : ℕ
  ntpServer : CStr
  hostname : CStr
  domain : CStr
  mirror : CStr
  btAlias : CStr
  verAlias : CStr
  osVersion : CStr
  arch : CStr
  url : CStr
deriving DecidableEq, Repr

/-- `ailsa_build_s`. -/
structure AilsaBuildS extends AilsaBuild where
  doNtp : ℤ
deriving DecidableEq, Repr

/-- The details that are made of a row. -/
def BuildRow.details (d : BuildRow) : AilsaBuildS where
  locale := d.locale.take macLen
  language := d.language.take serviceLen
  keymap := d.keymap.take serviceLen
  country := d.country.take serviceLen
  netInt := d.netInstInt.take serviceLen
  ip := ntop d.ip
  ns := ntop d.ns
  nm := ntop d.netmask
  gw := ntop d.gateway
  doNtp := small d.configNtp
  ntp := d.ntpServer.take domainLen
  host := d.hostname.take hostLen
  domain := d.domain.take domainLen
  mirror := d.mirror.take domainLen
  os := d.btAlias.take macLen
  version := d.verAlias.take serviceLen
  osVer := d.osVersion.take serviceLen
  arch := d.arch.take serviceLen
  url := d.url.take domainLen
  fqdn := snprintf domainLen (d.hostname.take hostLen ++ ".".toList ++ d.domain.take domainLen)

/-- `cbc_fill_build_details`. It goes through the head of the list before it looks at the length. -/
def cbcFillBuildDetails : List BuildRow → Except AilsaError AilsaBuildS
  | [] => .error .nullDeref
  | d :: _ => .ok d.details

/-- A row of `IDENTITIES_ON_SERVER_NAME`. -/
structure IdentityRow where
  username : CStr
  pass : CStr
  hash : CStr
  identityId : ℕ
deriving DecidableEq, Repr

/-- `ailsa_account_s`. -/
structure AilsaAccount where
  username : CStr
  pass : CStr
  hash : CStr
  identityId : ℕ
  serverId : ℕ
deriving DecidableEq, Repr

/-- `get_server_accounts`, once the rows are there. -/
def getServerAccounts (sid : ℕ) (results : List IdentityRow) : List AilsaAccount :=
  results.map fun e =>
    { username := e.username.take configLen, pass := e.pass.take sqlTextMax
      hash := e.hash.take configLen, identityId := e.identityId, serverId := sid }

/-- The comparison that the mirror and the network are written by. -/
def AilsaBuildS.IsDebian (bld : AilsaBuildS) (n : ℕ) : Prop := StrncmpEq bld.os "debian".toList n

instance (bld : AilsaBuildS) (n : ℕ) : Decidable (bld.IsDebian n) :=
  inferInstanceAs (Decidable (StrncmpEq bld.os "debian".toList n))

/-- A question with its type and the value that is written for it. -/
abbrev Asked := String × String × CStr

/-- Lines `d-i question type value`. -/
def diLines (qs : List Asked) : List Line := qs.map fun q => diLine q.1 q.2.1 q.2.2

/-- The line `d-i question type`. -/
def diBare (question type : String) : Line := .plain ((di question type []).bare ' ')

def AilsaBuildS.localeAsked (bld : AilsaBuildS) : List Asked :=
  [("console-setup/ask_detect", "boolean", "false".toList),
    ("debian-installer/locale", "string", bld.locale),
    ("debian-installer/language", "string", bld.language),
    ("debian-installer/country", "string", bld.country),
    ("console-keymaps-at/keymap", "select", bld.keymap),
    ("keyboard-configuration/xkb-keymap", "select", bld.keymap),
    ("keymap", "select", bld.keymap)]

def earlyAsked : List Asked :=
  [("preseed/early_command", "string", "/bin/killall.sh; /bin/netcfg".toList)]

def AilsaBuildS.networkAsked (bld : AilsaBuildS) : List Asked :=
  [("netcfg/enable", "boolean", "true".toList),
    ("netcfg/confirm_static", "boolean", "true".toList),
    ("netcfg/disable_dhcp", "boolean", "true".toList),
    ("netcfg/choose_interface", "select", bld.netInt),
    ("netcfg/get_nameservers", "string", bld.ns),
    ("netcfg/get_ipaddress", "string", bld.ip),
    ("netcfg/get_netmask", "string", bld.nm),
    ("netcfg/get_gateway", "string", bld.gw),
    ("netcfg/get_hostname", "string", bld.host),
    ("netcfg/get_domain", "string", bld.domain)]

def firmwareAsked : List Asked := [("hw-detect/load_firmware", "boolean", "true".toList)]

def AilsaBuildS.mirrorAsked (bld : AilsaBuildS) : List Asked :=
  [("mirror/country", "string", "manual".toList), ("mirror/http/hostname", "string", bld.mirror),
    ("mirror/http/directory", "string", '/' :: bld.os), ("mirror/suite", "string", bld.version)]

def AilsaBuildS.ntpAsked (bld : AilsaBuildS) : List Asked :=
  if bld.doNtp > 0 then
    [("clock-setup/ntp", "boolean", "true".toList), ("clock-setup/ntp-server", "string", bld.ntp)]
  else [("clock-setup/ntp", "boolean", "false".toList)]

def utcAsked : List Asked := [("clock-setup/utc", "boolean", "true".toList)]

/-- `write_preseed_net_mirror`. -/
def writePreseedNetMirror (bld : AilsaBuildS) : List Line :=
  diLines bld.localeAsked ++ .plain [] ::
    ((if bld.IsDebian serviceLen then diLines earlyAsked else []) ++
    (diLines bld.networkAsked ++ .plain [] ::
      ((if bld.IsDebian serviceLen then
        diBare "netcfg/wireless_wep" "string" :: diLines firmwareAsked else []) ++
      .plain [] :: (diLines bld.mirrorAsked ++ .plain [] ::
        (diLines [("time/zone", "string", bld.country)] ++
          (diLines bld.ntpAsked ++ diLines utcAsked))))))

/-- The password of `root` if no account is for it. -/
def defaultHash : CStr :=
  "$6$SF7COIid$q3o/XlLgy95kfJTuJwqshfRrVmZlhqT3sKDxUiyUd6OV2W0uwphXDJm".toList ++
    ".T1nXTJgY4.5UaFyhYjaixZvToazrZ/".toList

/-- The password of the user that every build has. -/
def sysadminHash : CStr :=
  "$6$loNBON/G$GN9geXUrajd7lPAZETkCz/c2DgkeZqNwMR9W.YpCqxAIxoNXdaHjXj1MH7DM3gMjoUvkIdg".toList ++
    "eRnkB4QDwrgqUS1".toList

/-- The account that `root` has the password of : the first whose name starts with `root`. -/
def rootAccount (acc : List AilsaAccount) : Option AilsaAccount :=
  acc.find? fun a => StrncmpEq "root".toList a.username 4

/-- The password that `root` is given. -/
def rootHash (acc : List AilsaAccount) : CStr :=
  ((rootAccount acc).map AilsaAccount.hash).getD defaultHash

def accountsAsked (acc : List AilsaAccount) : List Asked :=
  [("passwd/root-password-crypted", "password", rootHash acc),
    ("passwd/user-fullname", "string", "Admin User".toList),
    ("passwd/username", "string", "sysadmin".toList),
    ("passwd/user-password-crypted", "password", sysadminHash),
    ("passwd/user-default-groups", "string",
      "audio cdrom video dip floppy plugdev netdev sudo".toList)]

/-- `write_preseed_user_accounts`. -/
def writePreseedUserAccounts (acc : List AilsaAccount) : List Line :=
  diLines (accountsAsked acc) ++ [.plain []]

def DiskDevRow.headAsked (d : DiskDevRow) : List Asked :=
  [("partman-auto/disk", "string", d.device),
    ("partman-auto/choose_recipe", "select", "monkey".toList),
    ("partman-auto/method", "string", if d.lvm > 0 then "lvm".toList else "regular".toList),
    ("partman-auto/purge_lvm_from_device", "boolean", "true".toList),
    ("partman-auto-lvm/guided_size", "string", "100%".toList),
    ("partman-auto-lvm/no_boot", "boolean", "true".toList),
    ("partman/choose_partition", "select", "finish".toList),
    ("partman/confirm_nooverwrite", "boolean", "true".toList),
    ("partman/confirm", "boolean", "true".toList),
    ("partman-lvm/confirm", "boolean", "true".toList),
    ("partman-lvm/confirm_nooverwrite", "boolean", "true".toList),
    ("partman-lvm/device_remove_lvm", "boolean", "true".toList),
    ("partman-lvm/device_remove_lvm_span", "boolean", "true".toList),
    ("partman-md/device_remove_md", "boolean", "true".toList),
    ("partman-md/confirm", "boolean", "true".toList),
    ("partman-partitioning/confirm_write_new_label", "boolean", "true".toList),
    ("partman/mount_style", "select", "uuid".toList)]

/-- `write_partition_head`. Without a row it goes through a `NULL` pointer. -/
def writePartitionHead (disk : List DiskDevRow) : Except AilsaError (List Line) :=
  match disk with
  | [] => .error .nullDeref
  | d :: _ => .ok (diLines d.headAsked)

def aptAsked : List Asked :=
  [("apt-setup/non-free", "boolean", "true".toList),
    ("apt-setup/contrib", "boolean", "true".toList)]

def AilsaBuildS.securityAsked (bld : AilsaBuildS) : List Asked :=
  [("apt-setup/services-select", "multiselect", "security".toList),
    ("apt-setup/security_host", "string", "security.".toList ++ bld.os ++ ".org".toList)]

/-- The command that fetches the script of the host. -/
def AilsaBuildS.lateCommand (bld : AilsaBuildS) : CStr :=
  "cd /target/root; wget ".toList ++ bld.url ++ "hosts/".toList ++ bld.host ++
    ".sh && sh /target/root/".toList ++ bld.host ++ ".sh >> /target/root/".toList ++ bld.host ++
    ".log 2>&1".toList

def taskselAnswer : Answer :=
  ⟨"tasksel".toList, "tasksel/first".toList, "multiselect".toList, "standard".toList⟩

def popularityAnswer : Answer :=
  ⟨"popularity-contest".toList, "popularity-contest/participate".toList, "boolean".toList,
    "false".toList⟩

/-- `write_preseed_packages`. -/
def writePreseedPackages (bld : AilsaBuildS) (pack : List CStr) : List Line :=
  diLines aptAsked ++ ((if bld.IsDebian byteLen then diLines bld.securityAsked else []) ++
    (.plain (taskselAnswer.line ' ') :: .plain [] ::
      (diLines [("pkgsel/upgrade", "select", "none".toList)] ++
      (.plain ((di "pkgsel/include" "string" []).bare ' ' ++ pack.flatMap fun d => ' ' :: d) ::
        .plain (popularityAnswer.line ' ') ::
        (diLines [("finish-install/keep-consoles", "boolean", "true".toList)] ++
        (diBare "finish-install/reboot_in_progress" "note" ::
          (diLines [("cdrom-detect/eject", "boolean", "false".toList),
            ("preseed/late_command", "string", bld.lateCommand)] ++ [.plain []])))))))

/-- The answer that is written for a system package. -/
def AilsaSyspack.answer (pack : AilsaSyspack) : Answer :=
  ⟨pack.name, pack.field, pack.type, pack.written⟩

/-- The lines of `write_preseed_system_packages`. -/
def preseedSystemPackages (sys : List AilsaSyspack) : List Line :=
  sys.map fun pack => .plain (pack.answer.line '\t')

/-- The rows that a file is written from. -/
structure PreseedRows where
  serverId : ℕ
  build : List BuildRow
  accounts : List IdentityRow
  disk : List DiskDevRow
  partitions : List BuildPartitionRow
  packages : List CStr
  sys : List SyspackRow
deriving DecidableEq, Repr

/-- `write_preseed_build_file`, once the rows are there. -/
def writePreseedBuildFile (r : PreseedRows) : Except AilsaError (List Line) := do
  let bld ← cbcFillBuildDetails r.build
  let head ← writePartitionHead r.disk
  let recipe ← writePreseedPartitions r.disk (cbcFillPartitionDetails r.partitions)
  .ok (writePreseedNetMirror bld ++
    (writePreseedUserAccounts (getServerAccounts r.serverId r.accounts) ++
    (head ++ (recipe ++ (writePreseedPackages bld r.packages ++
      preseedSystemPackages (cbcFillSysPackDetails r.sys bld.toAilsaBuild))))))

theorem text_preseedSystemPackages (sys : List AilsaSyspack) :
    (preseedSystemPackages sys).flatMap Line.text = writePreseedSystemPackages sys := by
  rw [preseedSystemPackages, List.flatMap_map, writePreseedSystemPackages]
  refine List.flatMap_congr fun pack _ => ?_
  simp [Line.text, AilsaSyspack.answer, Answer.line, Answer.bare]

/-! ## The file as it is read -/

variable {bld : AilsaBuildS} {acc : List AilsaAccount} {d : DiskDevRow} {pack : List CStr}
variable {part : List AilsaPartition} {sys : List AilsaSyspack}

def diAnswers (qs : List Asked) : List Answer := qs.map fun q => di q.1 q.2.1 q.2.2

/-- The questions are words, and the values end their lines. -/
def AskedClean (qs : List Asked) : Prop :=
  ∀ q ∈ qs, (IsWord Char.isWhitespace q.1.toList ∧ IsWord Char.isWhitespace q.2.1.toList) ∧
    OneLine q.2.2

theorem reads_diLines {qs : List Asked} (h : AskedClean qs) :
    Reads (diLines qs) (diAnswers qs) :=
  Reads.map fun q hq => Reads.line (clean_di q.2.2 (h q hq).1.1 (h q hq).1.2) (.inl rfl) (h q hq).2

theorem askedClean_cons {question type : String} {q t : List Char} {value : CStr}
    {qs : List Asked} (hq : question = String.ofList q) (ht : type = String.ofList t)
    (hwords : (isWordChars Char.isWhitespace q && isWordChars Char.isWhitespace t) = true)
    (hvalue : OneLine value) (h : AskedClean qs) : AskedClean ((question, type, value) :: qs) := by
  rw [Bool.and_eq_true] at hwords
  exact List.forall_mem_cons.mpr
    ⟨⟨⟨IsWord.ofList hq hwords.1, IsWord.ofList ht hwords.2⟩, hvalue⟩, h⟩

theorem askedClean_lit {question type value : String} {q t v : List Char} {qs : List Asked}
    (hq : question = String.ofList q) (ht : type = String.ofList t) (hv : value = String.ofList v)
    (hlit : (isWordChars Char.isWhitespace q && isWordChars Char.isWhitespace t &&
      oneLineChars v) = true) (h : AskedClean qs) :
    AskedClean ((question, type, value.toList) :: qs) := by
  rw [Bool.and_eq_true] at hlit
  exact askedClean_cons hq ht hlit.1 (OneLine.ofList hv hlit.2) h

theorem reads_diBare {question type : String} (hquestion : IsWord Char.isWhitespace question.toList)
    (htype : IsWord Char.isWhitespace type.toList ∧ type.toList.getLast? ≠ some '\\') :
    Reads [diBare question type] [di question type []] := by
  have hread := Reads.bare (clean_di [] hquestion htype.1) (.inl rfl) htype.2 (t := []) nofun
    ⟨nofun, nofun⟩
  rwa [List.append_nil] at hread

/-- The texts of the build end their lines. -/
structure AilsaBuildS.Clean (bld : AilsaBuildS) : Prop where
  locale : OneLine bld.locale
  language : OneLine bld.language
  keymap : OneLine bld.keymap
  country : OneLine bld.country
  netInt : OneLine bld.netInt
  ip : OneLine bld.ip
  ns : OneLine bld.ns
  nm : OneLine bld.nm
  gw : OneLine bld.gw
  ntp : OneLine bld.ntp
  host : OneLine bld.host
  domain : OneLine bld.domain
  mirror : OneLine bld.mirror
  os : OneLine bld.os
  version : OneLine bld.version
  url : OneLine bld.url

theorem askedClean_localeAsked (h : bld.Clean) : AskedClean bld.localeAsked :=
  askedClean_lit rfl rfl rfl rfl <| askedClean_cons rfl rfl rfl h.locale <|
    askedClean_cons rfl rfl rfl h.language <| askedClean_cons rfl rfl rfl h.country <|
    askedClean_cons rfl rfl rfl h.keymap <| askedClean_cons rfl rfl rfl h.keymap <|
    askedClean_cons rfl rfl rfl h.keymap nofun

theorem askedClean_networkAsked (h : bld.Clean) : AskedClean bld.networkAsked :=
  askedClean_lit rfl rfl rfl rfl <| askedClean_lit rfl rfl rfl rfl <|
    askedClean_lit rfl rfl rfl rfl <| askedClean_cons rfl rfl rfl h.netInt <|
    askedClean_cons rfl rfl rfl h.ns <| askedClean_cons rfl rfl rfl h.ip <|
    askedClean_cons rfl rfl rfl h.nm <| askedClean_cons rfl rfl rfl h.gw <|
    askedClean_cons rfl rfl rfl h.host <| askedClean_cons rfl rfl rfl h.domain nofun

theorem askedClean_mirrorAsked (h : bld.Clean) : AskedClean bld.mirrorAsked := by
  have hos : OneLine ('/' :: bld.os) :=
    ⟨by simp [h.os.1], getLast?_append_ne (show ['/'].getLast? ≠ _ by simp) h.os.2⟩
  exact askedClean_lit rfl rfl rfl rfl <| askedClean_cons rfl rfl rfl h.mirror <|
    askedClean_cons rfl rfl rfl hos <| askedClean_cons rfl rfl rfl h.version nofun

theorem askedClean_ntpAsked (h : bld.Clean) : AskedClean bld.ntpAsked := by
  rw [AilsaBuildS.ntpAsked]
  split_ifs
  · exact askedClean_lit rfl rfl rfl rfl <| askedClean_cons rfl rfl rfl h.ntp nofun
  · exact askedClean_lit rfl rfl rfl rfl nofun

theorem askedClean_headAsked (h : DiskWord d.device) : AskedClean d.headAsked := by
  have hmethod : OneLine (if d.lvm > 0 then "lvm".toList else "regular".toList) := by
    split_ifs <;> exact OneLine.ofList rfl rfl
  exact askedClean_cons rfl rfl rfl ⟨h.newline_notMem, h.not_continued⟩ <|
    askedClean_lit rfl rfl rfl rfl <| askedClean_cons rfl rfl rfl hmethod <|
    askedClean_lit rfl rfl rfl rfl <| askedClean_lit rfl rfl rfl rfl <|
    askedClean_lit rfl rfl rfl rfl <| askedClean_lit rfl rfl rfl rfl <|
    askedClean_lit rfl rfl rfl rfl <| askedClean_lit rfl rfl rfl rfl <|
    askedClean_lit rfl rfl rfl rfl <| askedClean_lit rfl rfl rfl rfl <|
    askedClean_lit rfl rfl rfl rfl <| askedClean_lit rfl rfl rfl rfl <|
    askedClean_lit rfl rfl rfl rfl <| askedClean_lit rfl rfl rfl rfl <|
    askedClean_lit rfl rfl rfl rfl <| askedClean_lit rfl rfl rfl rfl nofun

theorem oneLine_rootHash (h : ∀ a ∈ acc, OneLine a.hash) : OneLine (rootHash acc) := by
  rw [rootHash]
  cases hfind : rootAccount acc with
  | none => exact (OneLine.ofList rfl rfl).append (OneLine.ofList rfl rfl)
  | some a => exact h a (List.mem_of_find?_eq_some hfind)

theorem askedClean_accountsAsked (h : ∀ a ∈ acc, OneLine a.hash) :
    AskedClean (accountsAsked acc) := by
  have hsysadmin : OneLine sysadminHash := (OneLine.ofList rfl rfl).append (OneLine.ofList rfl rfl)
  exact askedClean_cons rfl rfl rfl (oneLine_rootHash h) <| askedClean_lit rfl rfl rfl rfl <|
    askedClean_lit rfl rfl rfl rfl <| askedClean_cons rfl rfl rfl hsysadmin <|
    askedClean_lit rfl rfl rfl rfl nofun

/-! ## The answers of the parts -/

def AilsaBuildS.netAsked (bld : AilsaBuildS) : List Asked :=
  bld.localeAsked ++ ((if bld.IsDebian serviceLen then earlyAsked else []) ++
    (bld.networkAsked ++ ((if bld.IsDebian serviceLen then
      ("netcfg/wireless_wep", "string", []) :: firmwareAsked else []) ++
    (bld.mirrorAsked ++ ([("time/zone", "string", bld.country)] ++
      (bld.ntpAsked ++ utcAsked))))))

theorem diAnswers_append (qs qs' : List Asked) :
    diAnswers (qs ++ qs') = diAnswers qs ++ diAnswers qs' := List.map_append

theorem reads_diLines_ite {c : Prop} [Decidable c] {qs : List Asked} (h : AskedClean qs) :
    Reads (if c then diLines qs else []) (diAnswers (if c then qs else [])) := by
  split_ifs
  · exact reads_diLines h
  · exact Reads.nil

theorem reads_writePreseedNetMirror (h : bld.Clean) :
    Reads (writePreseedNetMirror bld) (diAnswers bld.netAsked) := by
  have hearly : AskedClean earlyAsked := askedClean_lit rfl rfl rfl rfl nofun
  have hutc : AskedClean utcAsked := askedClean_lit rfl rfl rfl rfl nofun
  have hzone : AskedClean [("time/zone", "string", bld.country)] :=
    askedClean_cons rfl rfl rfl h.country nofun
  have hfirmware : Reads (if bld.IsDebian serviceLen then
      diBare "netcfg/wireless_wep" "string" :: diLines firmwareAsked else [])
      (diAnswers (if bld.IsDebian serviceLen then
        ("netcfg/wireless_wep", "string", []) :: firmwareAsked else [])) := by
    split_ifs
    · exact (reads_diBare (IsWord.ofList rfl rfl)
        ⟨IsWord.ofList rfl rfl, (OneLine.ofList rfl rfl).2⟩).cons
          (reads_diLines (askedClean_lit rfl rfl rfl rfl nofun))
    · exact Reads.nil
  have hread := (reads_diLines (askedClean_localeAsked h)).append (Reads.blank.cons
    ((reads_diLines_ite (c := bld.IsDebian serviceLen) hearly).append
      ((reads_diLines (askedClean_networkAsked h)).append (Reads.blank.cons
        (hfirmware.append (Reads.blank.cons ((reads_diLines (askedClean_mirrorAsked h)).append
          (Reads.blank.cons ((reads_diLines hzone).append
            ((reads_diLines (askedClean_ntpAsked h)).append (reads_diLines hutc)))))))))))
  simpa only [writePreseedNetMirror, AilsaBuildS.netAsked, diAnswers_append, List.nil_append]
    using hread

/-- The value that names the packages. -/
def includeValue (pack : List CStr) : CStr := (pack.flatMap fun d => ' ' :: d).drop 1

def AilsaBuildS.aptAnswers (bld : AilsaBuildS) : List Asked :=
  aptAsked ++ if bld.IsDebian byteLen then bld.securityAsked else []

def includeAsked (pack : List CStr) : List Asked :=
  [("pkgsel/upgrade", "select", "none".toList), ("pkgsel/include", "string", includeValue pack)]

def AilsaBuildS.finishAsked (bld : AilsaBuildS) : List Asked :=
  [("finish-install/keep-consoles", "boolean", "true".toList),
    ("finish-install/reboot_in_progress", "note", []),
    ("cdrom-detect/eject", "boolean", "false".toList),
    ("preseed/late_command", "string", bld.lateCommand)]

/-- The packages are words, and the last of them ends its line. -/
def PackagesClean (pack : List CStr) : Prop :=
  ∀ w ∈ pack, IsWord Char.isWhitespace w ∧ w.getLast? ≠ some '\\'

theorem oneLine_packages (h : PackagesClean pack) : OneLine (pack.flatMap fun d => ' ' :: d) := by
  induction pack with
  | nil => exact ⟨nofun, nofun⟩
  | cons w pack ih =>
    obtain ⟨hw, hpack⟩ := List.forall_mem_cons.mp h
    have hnewline : '\n' ∉ ' ' :: w := by
      rw [List.mem_cons, not_or]
      exact ⟨by decide, fun hmem => absurd (hw.1.chars _ hmem) (by decide)⟩
    have hword : OneLine (' ' :: w) :=
      ⟨hnewline, getLast?_append_ne (show [' '].getLast? ≠ _ by simp) hw.2⟩
    exact hword.append (ih hpack)

/-- The packages are read one after the other. -/
theorem words_includeValue (h : PackagesClean pack) :
    words Char.isWhitespace (includeValue pack) = pack := by
  have hwords : words Char.isWhitespace (pack.flatMap fun w => ' ' :: w) = pack :=
    words_flatMap_cons rfl fun w hw => (h w hw).1
  cases pack with
  | nil => rfl
  | cons w pack =>
    rw [List.flatMap_cons, List.cons_append, words_cons rfl] at hwords
    exact hwords

theorem reads_answer {owner question type value : String} {o q t v : List Char}
    (ho : owner = String.ofList o) (hq : question = String.ofList q) (ht : type = String.ofList t)
    (hv : value = String.ofList v)
    (hlit : (isWordChars Char.isWhitespace o && o.head? != some '#' &&
      isWordChars Char.isWhitespace q && isWordChars Char.isWhitespace t &&
      oneLineChars v) = true) :
    Reads [.plain ((⟨owner.toList, question.toList, type.toList, value.toList⟩ : Answer).line ' ')]
      [⟨owner.toList, question.toList, type.toList, value.toList⟩] := by
  simp only [Bool.and_eq_true, bne_iff_ne] at hlit
  obtain ⟨⟨⟨⟨howner, hcomment⟩, hquestion⟩, htype⟩, hvalue⟩ := hlit
  refine Reads.line ⟨IsWord.ofList ho howner, ?_, IsWord.ofList hq hquestion,
    IsWord.ofList ht htype⟩ (.inl rfl) (OneLine.ofList hv hvalue)
  rwa [ho, String.toList_ofList]

theorem oneLine_lateCommand (h : bld.Clean) : OneLine bld.lateCommand :=
  ((((((((OneLine.ofList rfl rfl).append h.url).append (OneLine.ofList rfl rfl)).append
    h.host).append (OneLine.ofList rfl rfl)).append h.host).append
    (OneLine.ofList rfl rfl)).append h.host).append (OneLine.ofList rfl rfl)

theorem askedClean_securityAsked (h : bld.Clean) : AskedClean bld.securityAsked := by
  have hsecurity : OneLine ("security.".toList ++ bld.os ++ ".org".toList) :=
    ((OneLine.ofList rfl rfl).append h.os).append (OneLine.ofList rfl rfl)
  exact askedClean_lit rfl rfl rfl rfl <| askedClean_cons rfl rfl rfl hsecurity nofun

/-- The answers of `write_preseed_packages`. -/
def AilsaBuildS.packAnswers (bld : AilsaBuildS) (pack : List CStr) : List Answer :=
  diAnswers bld.aptAnswers ++ taskselAnswer :: (diAnswers (includeAsked pack) ++
    popularityAnswer :: diAnswers bld.finishAsked)

theorem reads_writePreseedPackages (h : bld.Clean) (hpack : PackagesClean pack) :
    Reads (writePreseedPackages bld pack) (bld.packAnswers pack) := by
  have hapt : AskedClean aptAsked :=
    askedClean_lit rfl rfl rfl rfl <| askedClean_lit rfl rfl rfl rfl nofun
  have hupgrade : AskedClean [("pkgsel/upgrade", "select", "none".toList)] :=
    askedClean_lit rfl rfl rfl rfl nofun
  have hconsoles : AskedClean [("finish-install/keep-consoles", "boolean", "true".toList)] :=
    askedClean_lit rfl rfl rfl rfl nofun
  have hlate : AskedClean [("cdrom-detect/eject", "boolean", "false".toList),
      ("preseed/late_command", "string", bld.lateCommand)] :=
    askedClean_lit rfl rfl rfl rfl <| askedClean_cons rfl rfl rfl (oneLine_lateCommand h) nofun
  have hinclude : Reads [.plain ((di "pkgsel/include" "string" []).bare ' ' ++
      pack.flatMap fun d => ' ' :: d)] [di "pkgsel/include" "string" (includeValue pack)] := by
    refine Reads.bare (clean_di [] (IsWord.ofList rfl rfl) (IsWord.ofList rfl rfl)) (.inl rfl)
      (OneLine.ofList rfl rfl).2 ?_ (oneLine_packages hpack)
    cases pack with
    | nil => nofun
    | cons w pack => simp
  have htasksel : Reads [.plain (taskselAnswer.line ' ')] [taskselAnswer] :=
    reads_answer rfl rfl rfl rfl rfl
  have hpopularity : Reads [.plain (popularityAnswer.line ' ')] [popularityAnswer] :=
    reads_answer rfl rfl rfl rfl rfl
  have hnote : Reads [diBare "finish-install/reboot_in_progress" "note"]
      [di "finish-install/reboot_in_progress" "note" []] :=
    reads_diBare (IsWord.ofList rfl rfl) ⟨IsWord.ofList rfl rfl, (OneLine.ofList rfl rfl).2⟩
  have hread := (reads_diLines hapt).append ((reads_diLines_ite (c := bld.IsDebian byteLen)
    (askedClean_securityAsked h)).append (htasksel.cons (Reads.blank.cons
      ((reads_diLines hupgrade).append (hinclude.cons (hpopularity.cons
        ((reads_diLines hconsoles).append (hnote.cons
          ((reads_diLines hlate).append Reads.blank)))))))))
  simpa [writePreseedPackages, AilsaBuildS.packAnswers, AilsaBuildS.aptAnswers, diAnswers_append,
    includeAsked, AilsaBuildS.finishAsked, diAnswers] using hread

/-! ## The whole file -/

/-- The owners of the answers that every file has. -/
def installerOwners : List CStr :=
  ["d-i".toList, "tasksel".toList, "popularity-contest".toList]

/-- The questions that a file answers without the system packages. -/
def installerQuestions : List String :=
  ["console-setup/ask_detect", "debian-installer/locale", "debian-installer/language",
    "debian-installer/country", "console-keymaps-at/keymap", "keyboard-configuration/xkb-keymap",
    "keymap", "preseed/early_command", "netcfg/enable", "netcfg/confirm_static",
    "netcfg/disable_dhcp", "netcfg/choose_interface", "netcfg/get_nameservers",
    "netcfg/get_ipaddress", "netcfg/get_netmask", "netcfg/get_gateway", "netcfg/get_hostname",
    "netcfg/get_domain", "netcfg/wireless_wep", "hw-detect/load_firmware", "mirror/country",
    "mirror/http/hostname", "mirror/http/directory", "mirror/suite", "time/zone",
    "clock-setup/ntp", "clock-setup/ntp-server", "clock-setup/utc",
    "passwd/root-password-crypted", "passwd/user-fullname", "passwd/username",
    "passwd/user-password-crypted", "passwd/user-default-groups", "partman-auto/disk",
    "partman-auto/choose_recipe", "partman-auto/method", "partman-auto/purge_lvm_from_device",
    "partman-auto-lvm/guided_size", "partman-auto-lvm/no_boot", "partman/choose_partition",
    "partman/confirm_nooverwrite", "partman/confirm", "partman-lvm/confirm",
    "partman-lvm/confirm_nooverwrite", "partman-lvm/device_remove_lvm",
    "partman-lvm/device_remove_lvm_span", "partman-md/device_remove_md", "partman-md/confirm",
    "partman-partitioning/confirm_write_new_label", "partman/mount_style",
    "partman-auto/expert_recipe", "grub-installer/only_debian", "grub-installer/bootdev",
    "apt-setup/non-free", "apt-setup/contrib", "apt-setup/services-select",
    "apt-setup/security_host", "tasksel/first", "pkgsel/upgrade", "pkgsel/include",
    "popularity-contest/participate", "finish-install/keep-consoles",
    "finish-install/reboot_in_progress", "cdrom-detect/eject", "preseed/late_command"]

/-- The packages are told by their names and fields, and none takes a question of the installer. -/
structure SysClean (sys : List AilsaSyspack) : Prop where
  clean : ∀ p ∈ sys, p.answer.Clean
  oneLine : ∀ p ∈ sys, OneLine p.written
  owner : ∀ p ∈ sys, p.name ∉ installerOwners
  question : ∀ p ∈ sys, p.field ∉ installerQuestions.map String.toList

theorem reads_preseedSystemPackages (h : SysClean sys) :
    Reads (preseedSystemPackages sys) (sys.map AilsaSyspack.answer) :=
  Reads.map fun p hp => Reads.line (h.clean p hp) (.inr rfl) (h.oneLine p hp)

def DiskDevRow.recipeAsked (d : DiskDevRow) (part : List AilsaPartition) : List Asked :=
  [("partman-auto/expert_recipe", "string", d.recipe part),
    ("grub-installer/only_debian", "boolean", "true".toList),
    ("grub-installer/bootdev", "string", d.device)]

theorem reads_writePreseedPartitions {ds : List DiskDevRow} (hd : DiskWord d.device)
    (h : ∀ p ∈ part, p.Clean) (hne : part ≠ []) {ls : List Line}
    (hls : writePreseedPartitions (d :: ds) part = .ok ls) :
    Reads ls (diAnswers (d.recipeAsked part)) := by
  have hclean := clean_writePreseedPartitions hd h hls
  have hread := readFrom_writePreseedPartitions hne hls
  -- the last line does not go on
  have hlast : [diLine "grub-installer/bootdev" "string" d.device] <:+ ls := by
    rw [writePreseedPartitions_eq] at hls
    obtain rfl := Except.ok.inj hls
    exact (((List.suffix_cons _ _).trans (List.suffix_append _ _)).trans
      (List.suffix_append _ _)).trans (List.suffix_append _ _)
  obtain ⟨init, rfl⟩ := hlast
  exact Reads.of_readFrom hclean hread

/-- The answers of a file, but those of the system packages. -/
def AilsaBuildS.installerAnswers (bld : AilsaBuildS) (acc : List AilsaAccount) (d : DiskDevRow)
    (part : List AilsaPartition) (pack : List CStr) : List Answer :=
  diAnswers bld.netAsked ++ (diAnswers (accountsAsked acc) ++ (diAnswers d.headAsked ++
    (diAnswers (d.recipeAsked part) ++ bld.packAnswers pack)))

/-- The file of a build with these parts. -/
theorem reads_parts (hbld : bld.Clean) (hacc : ∀ a ∈ acc, OneLine a.hash)
    (hd : DiskWord d.device) (hpart : ∀ p ∈ part, p.Clean) (hne : part ≠ [])
    (hpack : PackagesClean pack) (hsys : SysClean sys) {ds : List DiskDevRow} {recipe : List Line}
    (hls : writePreseedPartitions (d :: ds) part = .ok recipe) :
    Reads (writePreseedNetMirror bld ++ (writePreseedUserAccounts acc ++ (diLines d.headAsked ++
        (recipe ++ (writePreseedPackages bld pack ++ preseedSystemPackages sys)))))
      (bld.installerAnswers acc d part pack ++ sys.map AilsaSyspack.answer) := by
  have haccounts : Reads (writePreseedUserAccounts acc) (diAnswers (accountsAsked acc)) := by
    have hread := (reads_diLines (askedClean_accountsAsked hacc)).append Reads.blank
    rwa [List.append_nil] at hread
  have hread := (reads_writePreseedNetMirror hbld).append (haccounts.append
    ((reads_diLines (askedClean_headAsked hd)).append
      ((reads_writePreseedPartitions hd hpart hne hls).append
        ((reads_writePreseedPackages hbld hpack).append (reads_preseedSystemPackages hsys)))))
  simpa only [AilsaBuildS.installerAnswers, List.append_assoc] using hread

/-! ## Every question is asked once -/

theorem question_diAnswers (qs : List Asked) :
    (diAnswers qs).map Answer.question = (qs.map Prod.fst).map String.toList := by
  rw [diAnswers, List.map_map, List.map_map]
  rfl

theorem nodup_installerQuestions : (installerQuestions.map String.toList).Nodup := by
  have hnodup : installerQuestions.Nodup := by decide
  exact hnodup.map fun s t h => String.toList_inj.mp h

/-- A part that is left out, or written. -/
theorem ite_sublist {α : Type*} {c : Prop} [Decidable c] (l : List α) :
    (if c then l else []).Sublist l := by
  split_ifs
  · exact List.Sublist.refl l
  · exact List.nil_sublist l

theorem sublist_ntpAsked (bld : AilsaBuildS) : (bld.ntpAsked.map Prod.fst).Sublist
    ["clock-setup/ntp", "clock-setup/ntp-server"] := by
  rw [AilsaBuildS.ntpAsked]
  split_ifs
  · exact List.Sublist.refl _
  · exact List.cons_sublist_cons.mpr (List.nil_sublist _)

theorem sublist_netAsked (bld : AilsaBuildS) :
    (bld.netAsked.map Prod.fst).Sublist (installerQuestions.take 28) := by
  have hall : installerQuestions.take 28 = bld.localeAsked.map Prod.fst ++
      (earlyAsked.map Prod.fst ++ (bld.networkAsked.map Prod.fst ++
        ((("netcfg/wireless_wep", "string", []) :: firmwareAsked).map Prod.fst ++
          (bld.mirrorAsked.map Prod.fst ++ (["time/zone"] ++
            (["clock-setup/ntp", "clock-setup/ntp-server"] ++ utcAsked.map Prod.fst)))))) := rfl
  rw [hall, AilsaBuildS.netAsked]
  simp only [List.map_append]
  exact (List.Sublist.refl _).append (((ite_sublist _).map _).append
    ((List.Sublist.refl _).append (((ite_sublist _).map _).append ((List.Sublist.refl _).append
      ((List.Sublist.refl _).append ((sublist_ntpAsked bld).append (List.Sublist.refl _)))))))

theorem sublist_question_packAnswers (bld : AilsaBuildS) (pack : List CStr) :
    ((bld.packAnswers pack).map Answer.question).Sublist
      ((installerQuestions.drop 53).map String.toList) := by
  have hall : (installerQuestions.drop 53).map String.toList =
      (aptAsked.map Prod.fst ++ bld.securityAsked.map Prod.fst).map String.toList ++
        "tasksel/first".toList :: (((includeAsked pack).map Prod.fst).map String.toList ++
          "popularity-contest/participate".toList ::
            (bld.finishAsked.map Prod.fst).map String.toList) := rfl
  rw [hall, AilsaBuildS.packAnswers]
  simp only [List.map_append, List.map_cons, question_diAnswers]
  have hapt : ((bld.aptAnswers.map Prod.fst).map String.toList).Sublist
      ((aptAsked.map Prod.fst ++ bld.securityAsked.map Prod.fst).map String.toList) := by
    rw [AilsaBuildS.aptAnswers, List.map_append]
    exact ((List.Sublist.refl _).append ((ite_sublist _).map _)).map _
  rw [← List.map_append]
  exact hapt.append (List.Sublist.refl _)

/-- The questions of the installer, in the order of the file. -/
theorem sublist_question_installerAnswers (bld : AilsaBuildS) (acc : List AilsaAccount)
    (d : DiskDevRow) (part : List AilsaPartition) (pack : List CStr) :
    ((bld.installerAnswers acc d part pack).map Answer.question).Sublist
      (installerQuestions.map String.toList) := by
  have hall : installerQuestions = installerQuestions.take 28 ++
      ((accountsAsked acc).map Prod.fst ++ (d.headAsked.map Prod.fst ++
        ((d.recipeAsked part).map Prod.fst ++ installerQuestions.drop 53))) := rfl
  rw [hall, AilsaBuildS.installerAnswers]
  simp only [List.map_append, question_diAnswers]
  exact ((sublist_netAsked bld).map _).append ((List.Sublist.refl _).append
    ((List.Sublist.refl _).append ((List.Sublist.refl _).append
      (sublist_question_packAnswers bld pack))))

/-! ## The build as the installer is told it -/

/-- What the installer is told of a build. -/
structure Settings where
  locale : CStr
  language : CStr
  country : CStr
  keymap : CStr
  interface : CStr
  nameserver : CStr
  address : CStr
  netmask : CStr
  gateway : CStr
  hostname : CStr
  domain : CStr
  mirror : CStr
  directory : CStr
  suite : CStr
  ntp : Option CStr
  rootPassword : CStr
  disk : CStr
  method : CStr
  bootdev : CStr
  recipe : List Recipe.Entry
  packages : List CStr
  lateCommand : CStr
  debconf : List Answer
deriving DecidableEq, Repr

/-- The value of a question that is answered once. -/
def theValue (question : String) (as : List Answer) : Option CStr :=
  match values question.toList as with
  | [v] => some v
  | _ => none

/-- The settings in the answers of a file. -/
def readSettings (as : List Answer) : Option Settings := do
  let locale ← theValue "debian-installer/locale" as
  let language ← theValue "debian-installer/language" as
  let country ← theValue "debian-installer/country" as
  let keymap ← theValue "keymap" as
  let interface ← theValue "netcfg/choose_interface" as
  let nameserver ← theValue "netcfg/get_nameservers" as
  let address ← theValue "netcfg/get_ipaddress" as
  let netmask ← theValue "netcfg/get_netmask" as
  let gateway ← theValue "netcfg/get_gateway" as
  let hostname ← theValue "netcfg/get_hostname" as
  let domain ← theValue "netcfg/get_domain" as
  let mirror ← theValue "mirror/http/hostname" as
  let directory ← theValue "mirror/http/directory" as
  let suite ← theValue "mirror/suite" as
  let doNtp ← theValue "clock-setup/ntp" as
  let rootPassword ← theValue "passwd/root-password-crypted" as
  let disk ← theValue "partman-auto/disk" as
  let method ← theValue "partman-auto/method" as
  let bootdev ← theValue "grub-installer/bootdev" as
  let recipe ← (theValue "partman-auto/expert_recipe" as).bind Recipe.readRecipe
  let packages ← theValue "pkgsel/include" as
  let lateCommand ← theValue "preseed/late_command" as
  some
    { locale, language, country, keymap, interface, nameserver, address, netmask, gateway, hostname
      domain, mirror, directory, suite, rootPassword, disk, method, bootdev, lateCommand
      ntp := if doNtp = "true".toList then theValue "clock-setup/ntp-server" as else none
      recipe := recipe.2, packages := words Char.isWhitespace packages
      debconf := as.filter fun a => a.owner ∉ installerOwners }

/-- The settings of a build. -/
def AilsaBuildS.settings (bld : AilsaBuildS) (acc : List AilsaAccount) (d : DiskDevRow)
    (part : List AilsaPartition) (pack : List CStr) (sys : List AilsaSyspack) : Settings where
  locale := bld.locale
  language := bld.language
  country := bld.country
  keymap := bld.keymap
  interface := bld.netInt
  nameserver := bld.ns
  address := bld.ip
  netmask := bld.nm
  gateway := bld.gw
  hostname := bld.host
  domain := bld.domain
  mirror := bld.mirror
  directory := '/' :: bld.os
  suite := bld.version
  ntp := if bld.doNtp > 0 then some bld.ntp else none
  rootPassword := rootHash acc
  disk := d.device
  method := if d.lvm > 0 then "lvm".toList else "regular".toList
  bootdev := d.device
  recipe := d.entries part
  packages := pack
  lateCommand := bld.lateCommand
  debconf := sys.map AilsaSyspack.answer

/-- A question of the installer has the value that was written for it. -/
theorem theValue_of_mem {question type : String} {value : CStr} {as : List Answer}
    (hnodup : (as.map Answer.question).Nodup) (h : di question type value ∈ as)
    (hsys : ∀ p ∈ sys, p.field ≠ question.toList) :
    theValue question (as ++ sys.map AilsaSyspack.answer) = some value := by
  have hnone : (sys.map AilsaSyspack.answer).filter (·.question = question.toList) = [] := by
    rw [List.filter_eq_nil_iff, List.forall_mem_map]
    exact fun p hp heq => hsys p hp (of_decide_eq_true heq)
  have hvalues : values question.toList as = [value] := values_of_nodup hnodup h
  rw [theValue, values, List.filter_append, hnone, List.append_nil, ← values, hvalues]

theorem theValue_installerAnswers {qs : List Asked} (hsys : SysClean sys)
    (h : diAnswers qs ⊆ bld.installerAnswers acc d part pack) :
    ∀ q ∈ qs, theValue q.1 (bld.installerAnswers acc d part pack ++ sys.map AilsaSyspack.answer) =
      some q.2.2 := by
  intro q hq
  have hsub := sublist_question_installerAnswers bld acc d part pack
  have hmem : di q.1 q.2.1 q.2.2 ∈ bld.installerAnswers acc d part pack :=
    h (List.mem_map_of_mem (f := fun q : Asked => di q.1 q.2.1 q.2.2) hq)
  refine theValue_of_mem (hsub.nodup nodup_installerQuestions) hmem fun p hp heq => ?_
  exact hsys.question p hp (heq ▸ hsub.subset (List.mem_map_of_mem (f := Answer.question) hmem))

/-- The answers of the installer have its owners. -/
theorem owner_installerAnswers (bld : AilsaBuildS) (acc : List AilsaAccount) (d : DiskDevRow)
    (part : List AilsaPartition) (pack : List CStr) :
    ∀ a ∈ bld.installerAnswers acc d part pack, a.owner ∈ installerOwners := by
  have hdi : ∀ qs : List Asked, ∀ a ∈ diAnswers qs, a.owner ∈ installerOwners :=
    fun qs => List.forall_mem_map.mpr fun q _ => List.mem_cons_self
  rw [AilsaBuildS.installerAnswers, AilsaBuildS.packAnswers]
  simp only [List.forall_mem_append, List.forall_mem_cons]
  exact ⟨hdi _, hdi _, hdi _, hdi _, hdi _, .tail _ (.head _), hdi _, .tail _ (.tail _ (.head _)),
    hdi _⟩

/-- The server of the time is asked for if there is one. -/
theorem ntp_of_theValue {as : List Answer}
    (h : ∀ q ∈ bld.ntpAsked, theValue q.1 as = some q.2.2) :
    ∃ doNtp, theValue "clock-setup/ntp" as = some doNtp ∧
      (if doNtp = "true".toList then theValue "clock-setup/ntp-server" as else none) =
        if bld.doNtp > 0 then some bld.ntp else none := by
  have hne : "false".toList ≠ "true".toList := by simp
  rw [AilsaBuildS.ntpAsked] at h
  split_ifs at h with hntp
  · simp only [List.forall_mem_cons] at h
    exact ⟨"true".toList, h.1, by rw [if_pos hntp, if_pos rfl, h.2.1]⟩
  · simp only [List.forall_mem_cons] at h
    exact ⟨"false".toList, h.1, by rw [if_neg hntp, if_neg hne]⟩

theorem filter_owner_installerAnswers (hsys : SysClean sys) :
    (bld.installerAnswers acc d part pack ++ sys.map AilsaSyspack.answer).filter
      (fun a => a.owner ∉ installerOwners) = sys.map AilsaSyspack.answer := by
  have hnone : (bld.installerAnswers acc d part pack).filter
      (fun a => a.owner ∉ installerOwners) = [] :=
    List.filter_eq_nil_iff.mpr fun a ha hnot =>
      of_decide_eq_true hnot (owner_installerAnswers bld acc d part pack a ha)
  have hall : (sys.map AilsaSyspack.answer).filter (fun a => a.owner ∉ installerOwners) =
      sys.map AilsaSyspack.answer :=
    List.filter_eq_self.mpr (List.forall_mem_map.mpr fun p hp => decide_eq_true (hsys.owner p hp))
  rw [List.filter_append, hnone, hall, List.nil_append]

theorem readSettings_installerAnswers (hsys : SysClean sys) (hd : DiskWord d.device)
    (hpart : ∀ p ∈ part, p.Clean) (hne : part ≠ []) (hpack : PackagesClean pack) :
    readSettings (bld.installerAnswers acc d part pack ++ sys.map AilsaSyspack.answer) =
      some (bld.settings acc d part pack sys) := by
  have hdebconf : (bld.installerAnswers acc d part pack ++ sys.map AilsaSyspack.answer).filter
      (fun a => a.owner ∉ installerOwners) = sys.map AilsaSyspack.answer :=
    filter_owner_installerAnswers hsys
  have hvalues : ∀ qs : List Asked, diAnswers qs ⊆ bld.installerAnswers acc d part pack →
      ∀ q ∈ qs, theValue q.1 (bld.installerAnswers acc d part pack ++
        sys.map AilsaSyspack.answer) = some q.2.2 := fun qs h => theValue_installerAnswers hsys h
  generalize bld.installerAnswers acc d part pack ++ sys.map AilsaSyspack.answer = as at *
  have hnet : ∀ qs : List Asked, qs ⊆ bld.netAsked → ∀ q ∈ qs, theValue q.1 as = some q.2.2 :=
    fun qs h => hvalues qs fun a ha => List.mem_append_left _ (List.map_subset _ h ha)
  have hlocale := hnet bld.localeAsked fun q hq => by
    simp only [AilsaBuildS.netAsked, List.mem_append, hq, true_or]
  have hnetwork := hnet bld.networkAsked fun q hq => by
    simp only [AilsaBuildS.netAsked, List.mem_append, hq, true_or, or_true]
  have hmirror := hnet bld.mirrorAsked fun q hq => by
    simp only [AilsaBuildS.netAsked, List.mem_append, hq, true_or, or_true]
  have hntp := hnet bld.ntpAsked fun q hq => by
    simp only [AilsaBuildS.netAsked, List.mem_append, hq, true_or, or_true]
  have haccounts := hvalues (accountsAsked acc) fun a ha => by
    simp only [AilsaBuildS.installerAnswers, List.mem_append, ha, true_or, or_true]
  have hhead := hvalues d.headAsked fun a ha => by
    simp only [AilsaBuildS.installerAnswers, List.mem_append, ha, true_or, or_true]
  have hrecipe := hvalues (d.recipeAsked part) fun a ha => by
    simp only [AilsaBuildS.installerAnswers, List.mem_append, ha, true_or, or_true]
  have hinclude := hvalues (includeAsked pack) fun a ha => by
    simp only [AilsaBuildS.installerAnswers, AilsaBuildS.packAnswers, List.mem_append,
      List.mem_cons, ha, true_or, or_true]
  have hfinish := hvalues bld.finishAsked fun a ha => by
    simp only [AilsaBuildS.installerAnswers, AilsaBuildS.packAnswers, List.mem_append,
      List.mem_cons, ha, or_true]
  simp only [AilsaBuildS.localeAsked, AilsaBuildS.networkAsked, AilsaBuildS.mirrorAsked,
    AilsaBuildS.finishAsked, List.forall_mem_cons] at hlocale hnetwork hmirror hfinish
  simp only [accountsAsked, DiskDevRow.headAsked, DiskDevRow.recipeAsked, includeAsked,
    List.forall_mem_cons] at haccounts hhead hrecipe hinclude
  obtain ⟨doNtp, hdoNtp, hserver⟩ := ntp_of_theValue hntp
  have hread := readRecipe_recipe hd hpart hne
  have hwords := words_includeValue hpack
  simp only [readSettings, hlocale, hnetwork, hmirror, haccounts, hhead, hrecipe, hinclude, hfinish,
    hdoNtp, hserver, hread, hwords, hdebconf, Option.bind_eq_bind, Option.bind_some]
  rfl

/-- The rows of a server of the web. -/
def webRows : PreseedRows where
  serverId := 3
  build := [⟨"en_GB".toList, "en".toList, "gb".toList, "GB".toList, "eth0".toList, 167772167,
    167772162, 4278190080, 167772161, 1, "ntp.lab".toList, "web".toList, "lab".toList,
    "deb.lab".toList, "debian".toList, "buster".toList, "10".toList, "amd64".toList,
    "http://b/".toList⟩]
  accounts := [⟨"root".toList, [], "$6$s".toList, 1⟩]
  disk := [⟨"/dev/sda".toList, 1⟩]
  partitions := [⟨500, 10000, 1000, "/".toList, "ext4".toList, "root".toList⟩]
  packages := ["openssh-server".toList, "vim".toList]
  sys := [⟨"postfix".toList, "postfix/mailname".toList, "string".toList, "%fqdn".toList⟩]

theorem clean_webRows (b : BuildRow) (hb : b ∈ webRows.build) : b.details.Clean := by
  obtain rfl := List.mem_singleton.mp hb
  constructor <;> decide

theorem sysClean_webRows (b : BuildRow) (hb : b ∈ webRows.build) :
    SysClean (cbcFillSysPackDetails webRows.sys b.details.toAilsaBuild) := by
  obtain rfl := List.mem_singleton.mp hb
  have hquestion : ∀ p ∈ cbcFillSysPackDetails webRows.sys
      (webRows.build.head (by decide)).details.toAilsaBuild, p.field = "postfix/mailname".toList :=
    List.forall_mem_singleton.mpr (by decide)
  refine ⟨List.forall_mem_singleton.mpr ⟨IsWord.of_isWordChars (by decide),
    by decide, IsWord.of_isWordChars (by decide),
    IsWord.of_isWordChars (by decide)⟩, List.forall_mem_singleton.mpr (by decide),
    List.forall_mem_singleton.mpr (by decide), fun p hp hmem => ?_⟩
  obtain ⟨s, hs, heq⟩ := List.mem_map.mp hmem
  obtain rfl := String.toList_inj.mp (heq.trans (hquestion p hp))
  exact absurd hs (by decide)

end Cmdb
