import Cmdb.PreseedFile
import Cmdb.SystemScripts

/-!
# The kickstart file of a build

`write_kickstart_build_file` writes the commands and the sections of a kickstart file. The same
rows that go into a preseed file go into this one, but for the accounts and the arguments of the
system packages, and with the system scripts.
-/

namespace Cmdb

open CString Words Kickstart

/-! ## The code -/

/-- A row of `FULL_LOCALE_DETAILS_ON_SERVER_ID`. -/
structure LocaleDetailsRow where
  country : CStr
  locale : CStr
  keymap : CStr
  timezone : CStr
deriving DecidableEq, Repr

/-- A row of `BUILD_OS_DETAILS_ON_SERVER_ID`. -/
structure BuildOsRow where
  osAlias : CStr
  osVersion : CStr
  arch : CStr
deriving DecidableEq, Repr

/-- `cbc_check_gb_keyboard` : what the first keymap of the list is made. -/
def cbcCheckGbKeyboard (os : List BuildOsRow) (keymap : CStr) : CStr :=
  match os with
  | [] => keymap
  | o :: _ =>
    if StrncmpEq o.osVersion "6".toList byteLen then
      if StrncmpEq keymap "gb".toList byteLen then snprintf byteLen "uk".toList else keymap
    else keymap

/-- The password of `root`. -/
def rootpw : CStr := ' ' ::
  ("--iscrypted $6$YuyiUAiz$8w/kg1ZGEnp0YqHTPuz2WpveT0OaYG6Vw89P.CYRAox7CaiaQE49xFclS07".toList ++
    "BgBHoGaDK4lcJEZIMs8ilgqV84.".toList)

/-- The commands of `cbc_write_kickstart_base`. -/
def kickstartBase (key lang time : CStr) : Table :=
  [("auth", " --useshadow --enablemd5".toList), ("bootloader", " --location=mbr".toList),
    ("text", []), ("firewall", " --disabled".toList), ("firstboot", " --disable".toList),
    ("keyboard", ' ' :: key), ("lang", ' ' :: lang), ("logging", " --level=info".toList),
    ("reboot", []), ("rootpw", rootpw), ("selinux", " --disabled".toList), ("skipx", []),
    ("timezone", ' ' :: ' ' :: time), ("install", [])]

/-- `cbc_write_kickstart_base` : the language is the second of the list, the zone its last. -/
def cbcWriteKickstartBase (os : List BuildOsRow) (list : List LocaleDetailsRow) :
    Except AilsaError (List CStr) :=
  match list with
  | [] => .error .wrongListLenght
  | l :: ls => .ok (kickstartBase (cbcCheckGbKeyboard os l.keymap) l.locale
      ((l :: ls).getLast (List.cons_ne_nil l ls)).timezone).lines

/-- Options as they follow the name of a command. -/
def optionsText (os : List (String × CStr)) : CStr := (optionWords os).flatMap fun w => ' ' :: w

/-- The options of the command for the network. -/
def AilsaBuildS.networkOptions (bld : AilsaBuildS) : List (String × CStr) :=
  [("--bootproto", "static".toList), ("--device", bld.netInt), ("--ip", bld.ip),
    ("--netmask", bld.nm), ("--gateway", bld.gw), ("--nameserver", bld.ns),
    ("--hostname", bld.host ++ '.' :: bld.domain), ("--onboot", "on".toList)]

/-- The tree that the packages are fetched from. -/
def AilsaBuildS.tree (bld : AilsaBuildS) : CStr :=
  "http://".toList ++ bld.mirror ++ "/".toList ++ bld.os ++ "/".toList ++ bld.osVer ++
    "/os/".toList ++ bld.arch

/-- The commands of `cbc_write_kickstart_net`. -/
def kickstartNet (bld : AilsaBuildS) : Table :=
  [("url", optionsText [("--url", bld.tree)]), ("network", optionsText bld.networkOptions)]

/-- `cbc_write_kickstart_net`. -/
def cbcWriteKickstartNet (bld : AilsaBuildS) : List CStr := [] :: (kickstartNet bld).lines

/-- `cbc_write_kickstart_packages`. -/
def cbcWriteKickstartPackages (pack : List CStr) : List CStr :=
  [[], "%packages".toList, [], "@Base".toList] ++ (pack ++ [[], "%end".toList, []])

/-- The lines of `cbc_write_kickstart_scripts` before the system scripts. -/
def cbcWriteKickstartScripts (url : CStr) : List CStr :=
  ["%post".toList, [], "WGET=/usr/bin/wget".toList, "cd /root".toList,
    "$WGET ".toList ++ url ++ "scripts/disable_install.php > disable.log 2>&1".toList, [],
    "$WGET ".toList ++ url ++ "scripts/firstboot.sh".toList, "chmod 755 firstboot.sh".toList,
    "./firstboot.sh > firstboot.log 2>&1".toList, [],
    "wget ".toList ++ url ++ "scripts/motd.sh".toList, "chmod 755 motd.sh".toList,
    "./motd.sh > motd.log 2>&1".toList]

/-- The rows that a file is written from. -/
structure KickstartRows where
  build : List BuildRow
  os : List BuildOsRow
  locale : List LocaleDetailsRow
  disk : List DiskDevRow
  partitions : List BuildPartitionRow
  packages : List CStr
  scripts : List AilsaSysscript
deriving DecidableEq, Repr

/-- What `write_kickstart_build_file` writes, and the code it ends with if it stops. -/
def kickstartText (r : KickstartRows) (bld : AilsaBuildS) : CStr × Option AilsaError :=
  match cbcWriteKickstartBase r.os r.locale with
  | .error e => ([], some e)
  | .ok base =>
    match cbcWriteKickstartPartitions r.disk (cbcFillPartitionDetails r.partitions) with
    | .error e => (linesText base, some e)
    | .ok parts =>
      (linesText (base ++ (parts ++ (cbcWriteKickstartNet bld ++
        (cbcWriteKickstartPackages r.packages ++ cbcWriteKickstartScripts bld.url)))) ++
          systemScriptsText bld.url (cbcFillSystemScripts r.scripts), none)

/-- `write_kickstart_build_file`, once the rows are there. -/
def writeKickstartBuildFile (r : KickstartRows) : Except AilsaError (CStr × Option AilsaError) := do
  let bld ← cbcFillBuildDetails r.build
  .ok (kickstartText r bld)

/-! ## The commands -/

variable {bld : AilsaBuildS} {key lang time : CStr} {pack : List CStr}

/-- A word without a quote. -/
structure OptionWord (w : CStr) : Prop where
  isWord : IsWord Char.isWhitespace w
  quote_notMem : '"' ∉ w

/-- The texts of the build that go into a kickstart file are words. -/
structure AilsaBuildS.KickstartClean (bld : AilsaBuildS) : Prop where
  netInt : OptionWord bld.netInt
  ip : OptionWord bld.ip
  nm : OptionWord bld.nm
  gw : OptionWord bld.gw
  ns : OptionWord bld.ns
  host : OptionWord bld.host
  domain : OptionWord bld.domain
  mirror : OptionWord bld.mirror
  os : OptionWord bld.os
  osVer : OptionWord bld.osVer
  arch : OptionWord bld.arch

theorem tableClean_cons {name : String} {n : List Char} {args : CStr} {t : Table}
    (hn : name = String.ofList n)
    (hname : (isWordChars Char.isWhitespace n && n.head? != some '%') = true)
    (hargs : '\n' ∉ args) (hblank : ∀ b ∈ args.head?, b.isWhitespace = true) (h : Table.Clean t) :
    Table.Clean ((name, args) :: t) := by
  rw [Bool.and_eq_true, bne_iff_ne] at hname
  refine List.forall_mem_cons.mpr ⟨⟨⟨IsWord.ofList hn hname.1, ?_, hargs⟩, hblank⟩, h⟩
  rw [hn, String.toList_ofList]
  exact hname.2

/-- A command whose arguments are a literal. -/
theorem tableClean_lit {name args : String} {n a : List Char} {t : Table}
    (hn : name = String.ofList n) (ha : args = String.ofList a)
    (hlit : (isWordChars Char.isWhitespace n && n.head? != some '%' && !a.contains '\n' &&
      a.head?.all Char.isWhitespace) = true) (h : Table.Clean t) :
    Table.Clean ((name, args.toList) :: t) := by
  simp only [Bool.and_eq_true, Bool.not_eq_true', List.contains_eq_mem, decide_eq_false_iff_not,
    Option.all_eq_true] at hlit
  refine tableClean_cons hn (by simp only [Bool.and_eq_true]; exact hlit.1.1) ?_ ?_ h
  · rw [ha, String.toList_ofList]
    exact hlit.1.2
  · rw [ha, String.toList_ofList]
    exact fun b hb => hlit.2 b hb

theorem clean_kickstartBase (hkey : IsWord Char.isWhitespace key)
    (hlang : IsWord Char.isWhitespace lang) (htime : IsWord Char.isWhitespace time) :
    (kickstartBase key lang time).Clean := by
  have hword : ∀ {w : CStr}, IsWord Char.isWhitespace w → '\n' ∉ ' ' :: w := fun h =>
    List.not_mem_cons_of_ne_of_not_mem (by decide) fun hmem => absurd (h.chars _ hmem) (by decide)
  have htime' : '\n' ∉ ' ' :: ' ' :: time :=
    List.not_mem_cons_of_ne_of_not_mem (by decide) (hword htime)
  have hrootpw : '\n' ∉ rootpw := List.not_mem_cons_of_ne_of_not_mem (by decide)
    ((Debconf.OneLine.ofList rfl rfl).append (Debconf.OneLine.ofList rfl rfl)).1
  exact tableClean_lit rfl rfl rfl <| tableClean_lit rfl rfl rfl <|
    tableClean_cons rfl rfl nofun nofun <| tableClean_lit rfl rfl rfl <|
    tableClean_lit rfl rfl rfl <| tableClean_cons rfl rfl (hword hkey) (by simp) <|
    tableClean_cons rfl rfl (hword hlang) (by simp) <| tableClean_lit rfl rfl rfl <|
    tableClean_cons rfl rfl nofun nofun <| tableClean_cons rfl rfl hrootpw (by simp [rootpw]) <|
    tableClean_lit rfl rfl rfl <| tableClean_cons rfl rfl nofun nofun <|
    tableClean_cons rfl rfl htime' (by simp) <| tableClean_cons rfl rfl nofun nofun nofun

/-- An option that is written : its key is a word without `=`, and its value has no blank and no
quote. -/
def OptionClean (o : String × CStr) : Prop :=
  (IsWord Char.isWhitespace o.1.toList ∧ ∀ c ∈ o.2, c.isWhitespace = false) ∧
    '=' ∉ o.1.toList ∧ '"' ∉ o.2

theorem optionClean_of_literal {key : String} {k : List Char} {v : CStr}
    (hk : key = String.ofList k)
    (hkey : (isWordChars Char.isWhitespace k && !k.contains '=') = true)
    (hv : (∀ c ∈ v, c.isWhitespace = false) ∧ '"' ∉ v) : OptionClean (key, v) := by
  simp only [Bool.and_eq_true, Bool.not_eq_true', List.contains_eq_mem,
    decide_eq_false_iff_not] at hkey
  refine ⟨⟨IsWord.ofList hk hkey.1, hv.1⟩, ?_, hv.2⟩
  rw [hk, String.toList_ofList]
  exact hkey.2

theorem OptionWord.value {w : CStr} (h : OptionWord w) :
    (∀ c ∈ w, c.isWhitespace = false) ∧ '"' ∉ w := ⟨h.isWord.chars, h.quote_notMem⟩

theorem value_append {u v : CStr} (hu : (∀ c ∈ u, c.isWhitespace = false) ∧ '"' ∉ u)
    (hv : (∀ c ∈ v, c.isWhitespace = false) ∧ '"' ∉ v) :
    (∀ c ∈ u ++ v, c.isWhitespace = false) ∧ '"' ∉ u ++ v :=
  ⟨List.forall_mem_append.mpr ⟨hu.1, hv.1⟩, List.not_mem_append hu.2 hv.2⟩

theorem optionClean_networkOptions (h : bld.KickstartClean) :
    ∀ o ∈ bld.networkOptions, OptionClean o := by
  have hhost : (∀ c ∈ bld.host ++ '.' :: bld.domain, c.isWhitespace = false) ∧
      '"' ∉ bld.host ++ '.' :: bld.domain :=
    value_append h.host.value (value_append (u := ['.']) ⟨by simp, by simp⟩ h.domain.value)
  simp only [AilsaBuildS.networkOptions, List.forall_mem_cons]
  exact ⟨optionClean_of_literal rfl rfl ⟨by simp, by simp⟩,
    optionClean_of_literal rfl rfl h.netInt.value, optionClean_of_literal rfl rfl h.ip.value,
    optionClean_of_literal rfl rfl h.nm.value, optionClean_of_literal rfl rfl h.gw.value,
    optionClean_of_literal rfl rfl h.ns.value, optionClean_of_literal rfl rfl hhost,
    optionClean_of_literal rfl rfl ⟨by simp, by simp⟩, nofun⟩

theorem optionClean_url (h : bld.KickstartClean) : OptionClean ("--url", bld.tree) := by
  have hlit : ∀ {s : String}, s ∈ ["http://", "/", "/os/"] →
      (∀ c ∈ s.toList, c.isWhitespace = false) ∧ '"' ∉ s.toList := by
    simp
  refine optionClean_of_literal rfl rfl (value_append (value_append (value_append (value_append
    (value_append (value_append (value_append ?_ h.mirror.value) ?_) h.os.value) ?_) h.osVer.value)
    ?_) h.arch.value) <;>
  exact hlit (by simp)

theorem words_optionsText {os : List (String × CStr)} (h : ∀ o ∈ os, OptionClean o) :
    words Char.isWhitespace (optionsText os) = optionWords os :=
  words_flatMap_cons rfl (isWord_optionWords fun o ho => (h o ho).1)

theorem optionsText_clean {os : List (String × CStr)} (h : ∀ o ∈ os, OptionClean o) :
    '\n' ∉ optionsText os ∧ ∀ b ∈ (optionsText os).head?, b.isWhitespace = true := by
  have hwords := isWord_optionWords fun o ho => (h o ho).1
  constructor
  · intro hmem
    obtain ⟨w, hw, hmem⟩ := List.mem_flatMap.mp hmem
    rcases List.mem_cons.mp hmem with heq | hmem
    · exact absurd heq (by decide)
    · exact absurd ((hwords w hw).chars _ hmem) (by decide)
  · rw [optionsText]
    cases optionWords os with
    | nil => nofun
    | cons w ws => simp

theorem clean_kickstartNet (h : bld.KickstartClean) : (kickstartNet bld).Clean := by
  have hurl := optionsText_clean (show ∀ o ∈ [("--url", bld.tree)], OptionClean o from
    List.forall_mem_singleton.mpr (optionClean_url h))
  have hnet := optionsText_clean (optionClean_networkOptions h)
  exact tableClean_cons rfl rfl hurl.1 hurl.2 <| tableClean_cons rfl rfl hnet.1 hnet.2 nofun

/-- The lines of a table are commands. -/
theorem commandLine_of_clean {t : Table} (h : t.Clean) : ∀ l ∈ t.lines, CommandLine l := by
  refine List.forall_mem_map.mpr fun c hc => ⟨?_, ?_⟩
  · have hname : '\n' ∉ c.1.toList :=
      fun hmem => absurd ((h c hc).1.1.chars _ hmem) (by decide)
    exact List.not_mem_append hname (h c hc).1.2.2
  · rw [List.head?_append_of_ne_nil _ (h c hc).1.1.ne_nil]
    exact (h c hc).1.2.1

/-! ## The names of the commands for the disk -/

variable {d : DiskDevRow} {ds : List DiskDevRow} {part : List AilsaPartition}

def diskNames : List String :=
  ["zerombr", "bootloader", "clearpart", "part", "volgroup", "logvol"]

/-- The command of a line is one for the disk. -/
def DiskLine (l : CStr) : Prop :=
  ∀ w ∈ (words Char.isWhitespace l).head?, w ∈ diskNames.map String.toList

instance (l : CStr) : Decidable (DiskLine l) :=
  inferInstanceAs (Decidable (∀ w ∈ (words Char.isWhitespace l).head?, _))

theorem diskLine_name {name s : CStr} (hname : IsWord Char.isWhitespace name)
    (hmem : name ∈ diskNames.map String.toList) (hs : ∀ b ∈ s.head?, b.isWhitespace = true) :
    DiskLine (name ++ s) := by
  intro w hw
  rw [words_name hname hs] at hw
  exact Option.some.inj hw ▸ hmem

theorem diskLine_cbcWriteKickstartPartitions
    (hpart : ∀ p ∈ part, p.Clean) {ls : List CStr}
    (hls : cbcWriteKickstartPartitions (d :: ds) part = .ok ls) : ∀ l ∈ ls, DiskLine l := by
  have hboot : DiskLine ("bootloader --location=mbr --driveorder=".toList ++ d.device) := by
    have htext : "bootloader --location=mbr --driveorder=".toList =
        "bootloader".toList ++ " --location=mbr --driveorder=".toList := by decide
    rw [htext, List.append_assoc]
    exact diskLine_name (IsWord.ofList rfl rfl) (by simp [diskNames]) (by simp)
  have hdisk : ∀ l ∈ kickstartDisk d.device, DiskLine l := by
    simp only [kickstartDisk, List.forall_mem_cons]
    exact ⟨by decide, by decide, hboot, by decide, List.forall_mem_nil _⟩
  have hvolumes : ∀ l ∈ if d.small > 0 then kickstartVolumes else [], DiskLine l := by
    split_ifs
    · decide
    · exact List.forall_mem_nil _
  have hcommand : ∀ p ∈ part, DiskLine (kickstartPartition d.small p) := by
    intro p hp w hw
    rw [words_kickstartPartition (hpart p hp)] at hw
    split_ifs at hw <;>
    · obtain rfl := Option.some.inj hw
      simp [diskNames]
  rw [cbcWriteKickstartPartitions_eq hls]
  simp only [List.forall_mem_append, List.forall_mem_map, List.forall_mem_singleton]
  exact ⟨⟨⟨hdisk, hvolumes⟩, hcommand⟩, by decide⟩

/-! ## The build as kickstart is told it -/

/-- What kickstart is told of a build. -/
structure KickstartSettings where
  keyboard : CStr
  lang : CStr
  timezone : CStr
  tree : CStr
  interface : CStr
  address : CStr
  netmask : CStr
  gateway : CStr
  nameserver : CStr
  hostname : CStr
  partitions : List Kickstart.Partition
  packages : List CStr
deriving DecidableEq, Repr

/-- The argument of a command that has one. -/
def theArgument (name : String) (cs : List (List Word)) : Option CStr :=
  match theCommand name.toList cs with
  | some [v] => some v
  | _ => none

/-- The option of a command. -/
def theOption (name key : String) (cs : List (List Word)) : Option CStr :=
  (theCommand name.toList cs).bind (optionOf key.toList)

/-- The settings in a file. -/
def readKickstart (s : CStr) : Option KickstartSettings := do
  let ls := s.splitOn '\n'
  let cs := commands ls
  let keyboard ← theArgument "keyboard" cs
  let lang ← theArgument "lang" cs
  let timezone ← theArgument "timezone" cs
  let tree ← theOption "url" "--url" cs
  let interface ← theOption "network" "--device" cs
  let address ← theOption "network" "--ip" cs
  let netmask ← theOption "network" "--netmask" cs
  let gateway ← theOption "network" "--gateway" cs
  let nameserver ← theOption "network" "--nameserver" cs
  let hostname ← theOption "network" "--hostname" cs
  some
    { keyboard, lang, timezone, tree, interface, address, netmask, gateway, nameserver, hostname
      partitions := partitions ls, packages := packages ls }

/-- The commands of a file. -/
def fileCommands (key lang time : CStr) (parts : List CStr) (bld : AilsaBuildS) :
    List (List Word) :=
  (kickstartBase key lang time).lines.map (words Char.isWhitespace) ++
    (parts.map (words Char.isWhitespace) ++
      ([] :: ((kickstartNet bld).lines.map (words Char.isWhitespace) ++ [[]])))

theorem argumentsOf_diskLine {s : String} (hs : s ∉ diskNames) {parts : List CStr}
    (h : ∀ l ∈ parts, DiskLine l) :
    argumentsOf s.toList (parts.map (words Char.isWhitespace)) = [] := by
  refine argumentsOf_eq_nil (List.forall_mem_map.mpr fun l hl heq => hs ?_)
  obtain ⟨t, ht, hst⟩ := List.mem_map.mp (h l hl s.toList heq)
  exact String.toList_inj.mp hst ▸ ht

theorem argumentsOf_fileCommands (s : String) (key lang time : CStr) (parts : List CStr)
    (bld : AilsaBuildS) : argumentsOf s.toList (fileCommands key lang time parts bld) =
      argumentsOf s.toList ((kickstartBase key lang time).lines.map (words Char.isWhitespace)) ++
        (argumentsOf s.toList (parts.map (words Char.isWhitespace)) ++
          argumentsOf s.toList ((kickstartNet bld).lines.map (words Char.isWhitespace))) := by
  have hnil : ∀ cs : List (List Word), argumentsOf s.toList ([] :: cs) = argumentsOf s.toList cs :=
    fun cs => rfl
  rw [fileCommands, argumentsOf_append, argumentsOf_append, hnil, argumentsOf_append, hnil]
  exact congrArg _ (congrArg _ (List.append_nil _))

def baseNames : List String :=
  ["auth", "bootloader", "text", "firewall", "firstboot", "keyboard", "lang", "logging", "reboot",
    "rootpw", "selinux", "skipx", "timezone", "install"]

/-- A command of the base is there once. -/
theorem theCommand_base (hkey : IsWord Char.isWhitespace key)
    (hlang : IsWord Char.isWhitespace lang) (htime : IsWord Char.isWhitespace time)
    {parts : List CStr} (hparts : ∀ l ∈ parts, DiskLine l) (h : bld.KickstartClean)
    {c : String × CStr} (hc : c ∈ kickstartBase key lang time)
    (hdisk : c.1 ∉ diskNames) (hnet : c.1 ∉ ["url", "network"]) :
    theCommand c.1.toList (fileCommands key lang time parts bld) =
      some (words Char.isWhitespace c.2) := by
  have hnodup : ((kickstartBase key lang time).map Prod.fst).Nodup := by
    have hnames : baseNames.Nodup := by decide
    exact hnames
  rw [theCommand, argumentsOf_fileCommands,
    argumentsOf_lines (clean_kickstartBase hkey hlang htime) hnodup hc,
    argumentsOf_diskLine hdisk hparts, argumentsOf_lines_of_notMem (clean_kickstartNet h) hnet]
  rfl

/-- The commands for the network are there once. -/
theorem theCommand_net (hkey : IsWord Char.isWhitespace key)
    (hlang : IsWord Char.isWhitespace lang) (htime : IsWord Char.isWhitespace time)
    {parts : List CStr} (hparts : ∀ l ∈ parts, DiskLine l) (h : bld.KickstartClean)
    {c : String × CStr} (hc : c ∈ kickstartNet bld) :
    theCommand c.1.toList (fileCommands key lang time parts bld) =
      some (words Char.isWhitespace c.2) := by
  have hnames : ["url", "network"].Nodup ∧ ∀ s ∈ ["url", "network"], s ∉ baseNames ∧
      s ∉ diskNames := by decide
  have hmem : c.1 ∈ ["url", "network"] := List.mem_map_of_mem (f := Prod.fst) hc
  rw [theCommand, argumentsOf_fileCommands, argumentsOf_lines_of_notMem
      (clean_kickstartBase hkey hlang htime) (hnames.2 c.1 hmem).1,
    argumentsOf_diskLine (hnames.2 c.1 hmem).2 hparts,
    argumentsOf_lines (clean_kickstartNet h) hnames.1 hc]
  rfl

/-- The names of packages. -/
def PackageNames (pack : List CStr) : Prop :=
  ∀ w ∈ pack, IsWord Char.isWhitespace w ∧ w.head? ≠ some '@' ∧ w.head? ≠ some '%'

/-- The lines before the first section. -/
def fileHead (key lang time : CStr) (parts : List CStr) (bld : AilsaBuildS) : List CStr :=
  (kickstartBase key lang time).lines ++ (parts ++ (cbcWriteKickstartNet bld ++ [[]]))

theorem map_words_fileHead (key lang time : CStr) (parts : List CStr) (bld : AilsaBuildS) :
    (fileHead key lang time parts bld).map (words Char.isWhitespace) =
      fileCommands key lang time parts bld := by
  simp only [fileHead, fileCommands, cbcWriteKickstartNet, List.map_append, List.map_cons,
    List.map_nil, List.cons_append, words_nil]

theorem commandLine_fileHead (hkey : IsWord Char.isWhitespace key)
    (hlang : IsWord Char.isWhitespace lang) (htime : IsWord Char.isWhitespace time)
    {parts : List CStr} (hparts : ∀ l ∈ parts, CommandLine l) (h : bld.KickstartClean) :
    ∀ l ∈ fileHead key lang time parts bld, CommandLine l := by
  have hempty : CommandLine [] := ⟨nofun, nofun⟩
  simp only [fileHead, cbcWriteKickstartNet, List.forall_mem_append, List.forall_mem_cons]
  exact ⟨commandLine_of_clean (clean_kickstartBase hkey hlang htime), hparts,
    ⟨hempty, commandLine_of_clean (clean_kickstartNet h)⟩, hempty, nofun⟩

/-- The lines of a file are those that were written, up to the end of the packages. -/
theorem splitOn_fileText {pre : List CStr} (hpre : ∀ l ∈ pre, CommandLine l)
    (hpack : PackageNames pack) (t : CStr) : ∃ rest, (linesText (pre ++ "%packages".toList ::
      ([] :: "@Base".toList :: (pack ++ [[]]) ++ ["%end".toList, []])) ++ t).splitOn '\n' =
        pre ++ "%packages".toList ::
          ([] :: "@Base".toList :: (pack ++ [[]]) ++ "%end".toList :: rest) := by
  have hnewline : ∀ l ∈ pre ++ "%packages".toList ::
      ([] :: "@Base".toList :: (pack ++ [[]]) ++ ["%end".toList, []]), '\n' ∉ l := by
    have hwords : ∀ w ∈ pack, '\n' ∉ w :=
      fun w hw hmem => absurd ((hpack w hw).1.chars _ hmem) (by decide)
    simp only [List.forall_mem_append, List.forall_mem_cons]
    exact ⟨fun l hl => (hpre l hl).1, by decide, ⟨nofun, by decide, hwords, nofun,
      nofun⟩, by decide, nofun, nofun⟩
  exact ⟨[] :: t.splitOn '\n', by
    rw [linesText, splitOn_flatMap_lines hnewline]
    simp only [List.append_assoc, List.cons_append, List.nil_append]⟩

/-- The commands of a table that are no partitions. -/
theorem filterMap_readPartition_lines {t : Table} (h : t.Clean)
    (hnames : ∀ c ∈ t, c.1 ≠ "part" ∧ c.1 ≠ "logvol") :
    t.lines.filterMap (fun l => readPartition (words Char.isWhitespace l)) = [] := by
  refine List.filterMap_eq_nil_iff.mpr (List.forall_mem_map.mpr fun c hc => ?_)
  exact readPartition_of_ne (h c hc).1.1 (fun heq => (hnames c hc).1 (String.toList_inj.mp heq))
    (fun heq => (hnames c hc).2 (String.toList_inj.mp heq)) (h c hc).2

theorem partitions_fileHead (hkey : IsWord Char.isWhitespace key)
    (hlang : IsWord Char.isWhitespace lang) (htime : IsWord Char.isWhitespace time)
    (h : bld.KickstartClean) (parts : List CStr) :
    (fileHead key lang time parts bld).filterMap
      (fun l => readPartition (words Char.isWhitespace l)) =
        parts.filterMap fun l => readPartition (words Char.isWhitespace l) := by
  have hnames : (∀ s ∈ baseNames, s ≠ "part" ∧ s ≠ "logvol") ∧
      ∀ s ∈ ["url", "network"], s ≠ "part" ∧ s ≠ "logvol" := by decide
  have hbase := filterMap_readPartition_lines (clean_kickstartBase hkey hlang htime)
    fun c hc => hnames.1 c.1 (List.mem_map_of_mem (f := Prod.fst) hc)
  have hnet := filterMap_readPartition_lines (clean_kickstartNet h)
    fun c hc => hnames.2 c.1 (List.mem_map_of_mem (f := Prod.fst) hc)
  have hnil : ∀ ls : List CStr, ([] :: ls).filterMap
      (fun l => readPartition (words Char.isWhitespace l)) =
        ls.filterMap fun l => readPartition (words Char.isWhitespace l) := fun ls => rfl
  rw [fileHead, List.filterMap_append, List.filterMap_append, hbase, cbcWriteKickstartNet,
    List.cons_append, hnil, List.filterMap_append, hnet, hnil]
  exact List.append_nil _

theorem packages_file {pre : List CStr} (hpre : ∀ l ∈ pre, CommandLine l)
    (hpack : PackageNames pack) (rest : List CStr) :
    packages (pre ++ "%packages".toList ::
      ([] :: "@Base".toList :: (pack ++ [[]]) ++ "%end".toList :: rest)) = pack := by
  have hsection : ∀ l ∈ pre, l ≠ "%packages".toList := by
    rintro l hl rfl
    exact (hpre _ hl).2 (by decide)
  have hbody : ∀ l ∈ [] :: "@Base".toList :: (pack ++ [[]]), l ≠ "%end".toList := by
    have hends : ∀ w ∈ pack, w ≠ "%end".toList := by
      rintro w hw rfl
      exact (hpack _ hw).2.2 (by decide)
    simp only [List.forall_mem_append, List.forall_mem_cons]
    exact ⟨by decide, by decide, hends, by decide, nofun⟩
  have hfilter : pack.filter (fun l => l ≠ [] ∧ l.head? ≠ some '@') = pack :=
    List.filter_eq_self.mpr fun w hw => decide_eq_true ⟨(hpack w hw).1.ne_nil, (hpack w hw).2.1⟩
  rw [packages_section hsection hbody, List.filter_cons_of_neg (by decide),
    List.filter_cons_of_neg (by simp), List.filter_append, hfilter,
    List.filter_cons_of_neg (by decide)]
  exact List.append_nil _

/-- The settings of a build with this keyboard, language, time zone and partitions. -/
def AilsaBuildS.kickstartSettings (bld : AilsaBuildS) (key lang time : CStr)
    (partitions : List Kickstart.Partition) (pack : List CStr) : KickstartSettings where
  keyboard := key
  lang := lang
  timezone := time
  tree := bld.tree
  interface := bld.netInt
  address := bld.ip
  netmask := bld.nm
  gateway := bld.gw
  nameserver := bld.ns
  hostname := bld.host ++ '.' :: bld.domain
  partitions := partitions
  packages := pack

theorem theArgument_base (hkey : IsWord Char.isWhitespace key)
    (hlang : IsWord Char.isWhitespace lang) (htime : IsWord Char.isWhitespace time)
    {parts : List CStr} (hparts : ∀ l ∈ parts, DiskLine l) (h : bld.KickstartClean) :
    theArgument "keyboard" (fileCommands key lang time parts bld) = some key ∧
      theArgument "lang" (fileCommands key lang time parts bld) = some lang ∧
      theArgument "timezone" (fileCommands key lang time parts bld) = some time := by
  have hnames : ∀ s ∈ ["keyboard", "lang", "timezone"], s ∉ diskNames ∧ s ∉ ["url", "network"] := by
    decide
  have hcommand := fun c hc hname => theCommand_base hkey hlang htime hparts h (c := c) hc
    (hnames c.1 hname).1 (hnames c.1 hname).2
  have hk := hcommand ("keyboard", ' ' :: key) (by simp [kickstartBase]) (by simp)
  have hl := hcommand ("lang", ' ' :: lang) (by simp [kickstartBase]) (by simp)
  have ht := hcommand ("timezone", ' ' :: ' ' :: time) (by simp [kickstartBase]) (by simp)
  rw [words_cons rfl, hkey.words_eq] at hk
  rw [words_cons rfl, hlang.words_eq] at hl
  rw [words_cons rfl, words_cons rfl, htime.words_eq] at ht
  rw [theArgument, theArgument, theArgument, hk, hl, ht]
  exact ⟨rfl, rfl, rfl⟩

theorem theOption_net (hkey : IsWord Char.isWhitespace key)
    (hlang : IsWord Char.isWhitespace lang) (htime : IsWord Char.isWhitespace time)
    {parts : List CStr} (hparts : ∀ l ∈ parts, DiskLine l) (h : bld.KickstartClean) :
    theOption "url" "--url" (fileCommands key lang time parts bld) = some bld.tree ∧
      ∀ o ∈ bld.networkOptions,
        theOption "network" o.1 (fileCommands key lang time parts bld) = some o.2 := by
  have hurl : ∀ o ∈ [("--url", bld.tree)], OptionClean o :=
    List.forall_mem_singleton.mpr (optionClean_url h)
  have hnet := optionClean_networkOptions h
  have hnodup : (bld.networkOptions.map Prod.fst).Nodup := by
    have hkeys : ["--bootproto", "--device", "--ip", "--netmask", "--gateway", "--nameserver",
        "--hostname", "--onboot"].Nodup := by decide
    exact hkeys
  have hu := theCommand_net hkey hlang htime hparts h (c := ("url", optionsText _)) (.head _)
  have hn := theCommand_net hkey hlang htime hparts h (c := ("network", optionsText _))
    (.tail _ (.head _))
  rw [words_optionsText hurl] at hu
  rw [words_optionsText hnet] at hn
  constructor
  · rw [theOption, hu]
    exact optionOf_optionWords (o := ("--url", bld.tree)) (fun o ho => (hurl o ho).2)
      (List.nodup_singleton _) (.head _)
  · intro o ho
    rw [theOption, hn]
    exact optionOf_optionWords (fun o ho => (hnet o ho).2) hnodup ho

theorem readKickstart_file (hkey : IsWord Char.isWhitespace key)
    (hlang : IsWord Char.isWhitespace lang) (htime : IsWord Char.isWhitespace time)
    {parts : List CStr} (hparts : ∀ l ∈ parts, CommandLine l) (hdisk : ∀ l ∈ parts, DiskLine l)
    (h : bld.KickstartClean) (hpack : PackageNames pack) (t : CStr) :
    readKickstart (linesText (fileHead key lang time parts bld ++ "%packages".toList ::
      ([] :: "@Base".toList :: (pack ++ [[]]) ++ ["%end".toList, []])) ++ t) =
      some (bld.kickstartSettings key lang time
        (parts.filterMap fun l => readPartition (words Char.isWhitespace l)) pack) := by
  have hhead := commandLine_fileHead hkey hlang htime hparts h
  have hpercent : "%packages".toList.head? = some '%' := by decide
  obtain ⟨rest, hsplit⟩ := splitOn_fileText hhead hpack t
  have hcommands := commands_append (fun l hl => (hhead l hl).2) ("%packages".toList ::
    ([] :: "@Base".toList :: (pack ++ [[]]) ++ "%end".toList :: rest))
  have hpartitions := partitions_append (fun l hl => (hhead l hl).2) ("%packages".toList ::
    ([] :: "@Base".toList :: (pack ++ [[]]) ++ "%end".toList :: rest))
  rw [map_words_fileHead, commands_section hpercent, List.append_nil] at hcommands
  rw [partitions_fileHead hkey hlang htime h, partitions_section hpercent,
    List.append_nil] at hpartitions
  have hpackages := packages_file hhead hpack rest
  obtain ⟨hk, hl, ht⟩ := theArgument_base hkey hlang htime hdisk h
  obtain ⟨hurl, hnet⟩ := theOption_net hkey hlang htime hdisk h
  simp only [AilsaBuildS.networkOptions, List.forall_mem_cons] at hnet
  simp only [readKickstart, hsplit, hcommands, hpartitions, hpackages, hk, hl, ht, hurl, hnet,
    Option.bind_eq_bind, Option.bind_some]
  rfl

theorem linesText_append (ls ls' : List CStr) :
    linesText (ls ++ ls') = linesText ls ++ linesText ls' := List.flatMap_append

/-- The parts of a file, up to the end of the packages and from there on. -/
theorem kickstartText_eq {r : KickstartRows} {l : LocaleDetailsRow} {parts : List CStr}
    (hlocale : r.locale = [l])
    (hparts : cbcWriteKickstartPartitions r.disk (cbcFillPartitionDetails r.partitions) =
      .ok parts) :
    kickstartText r bld = (linesText (fileHead (cbcCheckGbKeyboard r.os l.keymap) l.locale
      l.timezone parts bld ++ "%packages".toList ::
        ([] :: "@Base".toList :: (r.packages ++ [[]]) ++ ["%end".toList, []])) ++
          (linesText (cbcWriteKickstartScripts bld.url) ++
            systemScriptsText bld.url (cbcFillSystemScripts r.scripts)), none) := by
  rw [kickstartText, hlocale, hparts]
  simp only [cbcWriteKickstartBase, List.getLast_singleton, fileHead, cbcWriteKickstartPackages,
    linesText_append, List.append_assoc, List.cons_append, List.nil_append,
    Prod.mk.injEq, and_true]
  simp only [linesText, List.flatMap_cons, List.flatMap_append, List.flatMap_nil,
    List.append_assoc, List.nil_append]

/-- The rows of a server with a British keyboard. -/
def labRows : KickstartRows where
  build := [⟨"en_GB".toList, "en".toList, "gb".toList, "GB".toList, "eth0".toList, 167772167,
    167772162, 4278190080, 167772161, 1, "ntp.lab".toList, "web".toList, "lab".toList,
    "mirror.lab".toList, "centos".toList, "6".toList, "6".toList, "x86_64".toList,
    "http://b/".toList⟩]
  os := [⟨"centos".toList, "6".toList, "x86_64".toList⟩]
  locale := [⟨"GB".toList, "en_GB".toList, "gb".toList, "Europe/London".toList⟩]
  disk := [⟨"/dev/sda".toList, 1⟩]
  partitions := [⟨500, 10000, 1000, "/".toList, "ext4".toList, "root".toList⟩]
  packages := ["openssh-server".toList, "vim".toList]
  scripts := []

theorem OptionWord.ofChars {w : CStr}
    (h : (isWordChars Char.isWhitespace w && !w.contains '"') = true) : OptionWord w := by
  simp only [Bool.and_eq_true, Bool.not_eq_true', List.contains_eq_mem,
    decide_eq_false_iff_not] at h
  exact ⟨IsWord.of_isWordChars h.1, h.2⟩

theorem kickstartClean_labRows (b : BuildRow) (hb : b ∈ labRows.build) :
    b.details.KickstartClean := by
  obtain rfl := List.mem_singleton.mp hb
  constructor <;> exact OptionWord.ofChars (by decide)

end Cmdb
