import Cmdb.KickstartFile
import Cmdb.MacAddresses

/-!
# The boot configuration of a build

`write_tftp_config` writes what a machine loads over the network. The name of the file is the
address of the build in hexadecimal, `%lX`, and the boot loader looks for eight digits of it first
and then for fewer, from the left.
-/

namespace Cmdb

open CString Words Kickstart

/-! ## The code -/

/-- A row of `TFTP_DETAILS_ON_SERVER_ID`. -/
structure TftpRow where
  bootLine : CStr
  netInstInt : CStr
  arg : CStr
  url : CStr
  buildType : CStr
deriving DecidableEq, Repr

/-- `ailsa_tftp_s`. -/
structure AilsaTftp where
  osAlias : CStr
  version : CStr
  arch : CStr
  country : CStr
  locale : CStr
  keymap : CStr
  bootLine : CStr
  netInt : CStr
  arg : CStr
  url : CStr
  buildType : CStr
deriving DecidableEq, Repr

/-- The values of the first rows. -/
def tftpValues (o : BuildOsRow) (l : LocaleDetailsRow) (t : TftpRow) : AilsaTftp where
  osAlias := o.osAlias.take macLen
  version := o.osVersion.take macLen
  arch := o.arch.take serviceLen
  country := l.country.take serviceLen
  locale := l.locale.take serviceLen
  keymap := l.keymap.take serviceLen
  bootLine := t.bootLine.take configLen
  netInt := t.netInstInt.take serviceLen
  arg := t.arg.take serviceLen
  url := t.url.take configLen
  buildType := t.buildType.take macLen

/-- `cbc_fill_tftp_values` : the head of the first list is followed before the lists are looked
at. -/
def cbcFillTftpValues (os : List BuildOsRow) (loc : List LocaleDetailsRow) (tftp : List TftpRow) :
    Except AilsaError (Option AilsaTftp) :=
  match os, loc, tftp with
  | [], _, _ => .error .nullDeref
  | o :: _, l :: _, t :: _ => .ok (some (tftpValues o l t))
  | _, _, _ => .ok none

/-- The name of the system in the names of its boot files. -/
def AilsaTftp.system (tftp : AilsaTftp) : CStr :=
  tftp.osAlias ++ '-' :: (tftp.version ++ '-' :: tftp.arch)

/-- The argument that says where the build file is. -/
def AilsaTftp.buildFile (tftp : AilsaTftp) (host : CStr) : CStr :=
  tftp.arg ++ '=' :: (tftp.url ++ (host ++ ".cfg".toList))

def AilsaTftp.IsPreseed (tftp : AilsaTftp) : Prop :=
  StrncmpEq tftp.buildType "preseed".toList serviceLen

def AilsaTftp.IsKickstart (tftp : AilsaTftp) : Prop :=
  StrncmpEq tftp.buildType "kickstart".toList serviceLen

instance (tftp : AilsaTftp) : Decidable tftp.IsPreseed :=
  inferInstanceAs (Decidable (StrncmpEq tftp.buildType "preseed".toList serviceLen))

instance (tftp : AilsaTftp) : Decidable tftp.IsKickstart :=
  inferInstanceAs (Decidable (StrncmpEq tftp.buildType "kickstart".toList serviceLen))

/-- `key=value`. -/
def keyValue (key : String) (value : CStr) : CStr := key.toList ++ '=' :: value

def AilsaTftp.preseedArguments (tftp : AilsaTftp) (host : CStr) (gui : ℤ) : List CStr :=
  [keyValue "county" tftp.country, keyValue "console-setup/layoutcode" tftp.country,
    tftp.bootLine, tftp.buildFile host, keyValue "interface" tftp.netInt] ++
  ((if tftp.osAlias = "debian".toList ∧ tftp.version = "10".toList then ["lowmem/low=true".toList]
    else []) ++
  if gui > 0 then ["vga=788".toList] else ["vga=off".toList, "console=ttyS0,115200n8".toList])

def AilsaTftp.kickstartArguments (tftp : AilsaTftp) (host : CStr) (gui : ℤ) : List CStr :=
  [keyValue "ksdevice" tftp.netInt, keyValue "ramdisk_size" "8192".toList, tftp.buildFile host,
    if gui > 0 then "console=tty0".toList else "console=ttyS0,115200n8".toList]

/-- What the line `append` has after the initial disk, a blank before each part. -/
def AilsaTftp.arguments (tftp : AilsaTftp) (host : CStr) (gui : ℤ) : List CStr :=
  (if tftp.IsPreseed then tftp.preseedArguments host gui else []) ++
    if tftp.IsKickstart then tftp.kickstartArguments host gui else []

/-- The line `append`. -/
def AilsaTftp.appendLine (tftp : AilsaTftp) (host : CStr) (gui : ℤ) : CStr :=
  "append".toList ++ ' ' :: keyValue "initrd" ("initrd-".toList ++ tftp.system ++ ".img".toList) ++
    (tftp.arguments host gui).flatMap fun w => ' ' :: w

/-- What follows the line `append` : it ends for both kinds of builds. -/
def AilsaTftp.ending (tftp : AilsaTftp) : CStr :=
  if tftp.IsPreseed ∨ tftp.IsKickstart then ['\n', '\n'] else [' ']

/-- `cbc_write_tftp_config_file`. -/
def cbcWriteTftpConfigFile (tftp : AilsaTftp) (host : CStr) (gui : ℤ) : CStr :=
  linesText ["default".toList ++ ' ' :: host, [], "label".toList ++ ' ' :: host,
    "kernel".toList ++ ' ' :: ("vmlinuz-".toList ++ tftp.system)] ++
  tftp.appendLine host gui ++ tftp.ending

/-- `%lX`. -/
def upperHexText (n : ℕ) : CStr := (hexText n).map Char.toUpper

/-! ## The configuration as the boot loader reads it -/

variable {tftp : AilsaTftp} {host : CStr} {gui : ℤ}

/-- A configuration with one entry. -/
structure Boot where
  label : CStr
  kernel : CStr
  append : List CStr
deriving DecidableEq, Repr

/-- The entry of a configuration, if it is the one that is taken without a choice. -/
def readBoot (s : CStr) : Option Boot :=
  match ((s.splitOn '\n').map (words Char.isWhitespace)).filter (· ≠ []) with
  | [[d, l], [e, l'], [k, kernel], a :: append] =>
    if [d, e, k, a] = ["default".toList, "label".toList, "kernel".toList, "append".toList] ∧ l = l'
    then some ⟨l, kernel, append⟩ else none
  | _ => none

/-- The texts that go into a boot configuration. -/
structure AilsaTftp.Clean (tftp : AilsaTftp) : Prop where
  system : IsWord Char.isWhitespace tftp.system
  country : ∀ c ∈ tftp.country, c.isWhitespace = false
  bootLine : '\n' ∉ tftp.bootLine
  netInt : ∀ c ∈ tftp.netInt, c.isWhitespace = false
  arg : IsWord Char.isWhitespace tftp.arg
  url : ∀ c ∈ tftp.url, c.isWhitespace = false
  type : tftp.IsPreseed ∨ tftp.IsKickstart

theorem isWord_buildFile (h : tftp.Clean) (hhost : IsWord Char.isWhitespace host) :
    IsWord Char.isWhitespace (tftp.buildFile host) := by
  have hcfg : ∀ c ∈ ".cfg".toList, c.isWhitespace = false := (IsWord.ofList rfl rfl).chars
  refine h.arg.append (List.forall_mem_cons.mpr ⟨rfl, ?_⟩)
  exact List.forall_mem_append.mpr
    ⟨h.url, List.forall_mem_append.mpr ⟨hhost.chars, hcfg⟩⟩

/-- A literal before a text without blanks. -/
theorem isWord_literal {s : String} {l : List Char} {v : CStr} (hs : s = String.ofList l)
    (h : isWordChars Char.isWhitespace l = true) (hv : ∀ c ∈ v, c.isWhitespace = false) :
    IsWord Char.isWhitespace (s.toList ++ v) := (IsWord.ofList hs h).append hv

theorem isWord_keyValue {key : String} {k : List Char} {v : CStr} (hk : key = String.ofList k)
    (h : isWordChars Char.isWhitespace k = true) (hv : ∀ c ∈ v, c.isWhitespace = false) :
    IsWord Char.isWhitespace (keyValue key v) :=
  isWord_literal hk h (List.forall_mem_cons.mpr ⟨rfl, hv⟩)

theorem isWord_initrd (h : tftp.Clean) : IsWord Char.isWhitespace
    (keyValue "initrd" ("initrd-".toList ++ tftp.system ++ ".img".toList)) :=
  isWord_keyValue rfl rfl (List.forall_mem_append.mpr ⟨List.forall_mem_append.mpr
    ⟨(IsWord.ofList rfl rfl).chars, h.system.chars⟩, (IsWord.ofList rfl rfl).chars⟩)

theorem preseedArguments_clean (h : tftp.Clean) (hhost : IsWord Char.isWhitespace host) :
    ∀ w ∈ tftp.preseedArguments host gui, w = tftp.bootLine ∨ IsWord Char.isWhitespace w := by
  have hlow : ∀ w ∈ if tftp.osAlias = "debian".toList ∧ tftp.version = "10".toList then
      ["lowmem/low=true".toList] else [], IsWord Char.isWhitespace w := by
    split_ifs
    · exact List.forall_mem_singleton.mpr (IsWord.ofList rfl rfl)
    · nofun
  have hgui : ∀ w ∈ if gui > 0 then ["vga=788".toList]
      else ["vga=off".toList, "console=ttyS0,115200n8".toList], IsWord Char.isWhitespace w := by
    split_ifs
    · exact List.forall_mem_singleton.mpr (IsWord.ofList rfl rfl)
    · exact List.forall_mem_cons.mpr
        ⟨IsWord.ofList rfl rfl, List.forall_mem_singleton.mpr (IsWord.ofList rfl rfl)⟩
  simp only [AilsaTftp.preseedArguments, List.forall_mem_append, List.forall_mem_cons]
  exact ⟨⟨.inr (isWord_keyValue rfl rfl h.country), .inr (isWord_keyValue rfl rfl h.country),
    .inl trivial, .inr (isWord_buildFile h hhost), .inr (isWord_keyValue rfl rfl h.netInt), nofun⟩,
    fun w hw => .inr (hlow w hw), fun w hw => .inr (hgui w hw)⟩

theorem kickstartArguments_clean (h : tftp.Clean) (hhost : IsWord Char.isWhitespace host) :
    ∀ w ∈ tftp.kickstartArguments host gui, IsWord Char.isWhitespace w := by
  have hgui : IsWord Char.isWhitespace
      (if gui > 0 then "console=tty0".toList else "console=ttyS0,115200n8".toList) := by
    split_ifs <;> exact IsWord.ofList rfl rfl
  simp only [AilsaTftp.kickstartArguments, List.forall_mem_cons]
  exact ⟨isWord_keyValue rfl rfl h.netInt,
    isWord_keyValue rfl rfl (IsWord.ofList rfl rfl).chars, isWord_buildFile h hhost, hgui, nofun⟩

/-- Every argument but the stored line is a word, and none ends the line. -/
theorem arguments_clean (h : tftp.Clean) (hhost : IsWord Char.isWhitespace host) :
    ∀ w ∈ tftp.arguments host gui, w = tftp.bootLine ∨ IsWord Char.isWhitespace w := by
  refine List.forall_mem_append.mpr ⟨?_, ?_⟩
  · split_ifs
    · exact preseedArguments_clean h hhost
    · nofun
  · split_ifs
    · exact fun w hw => .inr (kickstartArguments_clean h hhost w hw)
    · nofun

/-- The words of the line `append`, behind its name. -/
def AilsaTftp.appendWords (tftp : AilsaTftp) (host : CStr) (gui : ℤ) : List CStr :=
  keyValue "initrd" ("initrd-".toList ++ tftp.system ++ ".img".toList) ::
    (tftp.arguments host gui).flatMap (words Char.isWhitespace)

theorem words_appendLine (h : tftp.Clean) :
    words Char.isWhitespace (tftp.appendLine host gui) =
      "append".toList :: tftp.appendWords host gui := by
  have happend : IsWord Char.isWhitespace "append".toList := IsWord.ofList rfl rfl
  have hheads : ∀ l ∈ (tftp.arguments host gui).map fun w => ' ' :: w,
      ∃ b ∈ l.head?, b.isWhitespace = true :=
    List.forall_mem_map.mpr fun w _ => ⟨' ', rfl, rfl⟩
  unfold AilsaTftp.appendLine
  have hblank : ∀ w, words Char.isWhitespace (' ' :: w) = words Char.isWhitespace w :=
    words_cons rfl
  rw [List.flatMap_def, words_flatten hheads, happend.words_append_cons rfl,
    (isWord_initrd h).words_eq, AilsaTftp.appendWords, List.flatMap_map]
  simp only [hblank, List.cons_append, List.nil_append]

theorem newline_notMem_of_isWord {w : CStr} (h : IsWord Char.isWhitespace w) : '\n' ∉ w :=
  fun hmem => absurd (h.chars _ hmem) (by decide)

theorem newline_notMem_blank {u v : CStr} (hu : IsWord Char.isWhitespace u) (hv : '\n' ∉ v) :
    '\n' ∉ u ++ ' ' :: v :=
  List.not_mem_append (newline_notMem_of_isWord hu)
    (List.not_mem_cons_of_ne_of_not_mem (by decide) hv)

theorem newline_notMem_appendLine (h : tftp.Clean) (hhost : IsWord Char.isWhitespace host) :
    '\n' ∉ tftp.appendLine host gui := by
  have harguments : '\n' ∉ (tftp.arguments host gui).flatMap fun w => ' ' :: w := by
    intro hmem
    obtain ⟨w, hw, hmem⟩ := List.mem_flatMap.mp hmem
    rcases List.mem_cons.mp hmem with heq | hmem
    · exact absurd heq (by decide)
    · rcases arguments_clean h hhost w hw with rfl | hw
      · exact h.bootLine hmem
      · exact newline_notMem_of_isWord hw hmem
  exact List.not_mem_append (newline_notMem_blank (IsWord.ofList rfl rfl)
    (newline_notMem_of_isWord (isWord_initrd h))) harguments

theorem linesText_ending (ls : List CStr) (l : CStr) :
    linesText ls ++ l ++ ['\n', '\n'] = linesText (ls ++ [l, []]) := by
  simp [linesText]

theorem cbcWriteTftpConfigFile_eq (h : tftp.Clean) (host : CStr) (gui : ℤ) :
    cbcWriteTftpConfigFile tftp host gui = linesText (["default".toList ++ ' ' :: host, [],
      "label".toList ++ ' ' :: host, "kernel".toList ++ ' ' :: ("vmlinuz-".toList ++ tftp.system)]
        ++ [tftp.appendLine host gui, []]) := by
  rw [cbcWriteTftpConfigFile, AilsaTftp.ending, if_pos h.type, linesText_ending]

/-- The configuration is read as the entry of the host. -/
theorem readBoot_cbcWriteTftpConfigFile (h : tftp.Clean)
    (hhost : IsWord Char.isWhitespace host) :
    readBoot (cbcWriteTftpConfigFile tftp host gui) =
      some ⟨host, "vmlinuz-".toList ++ tftp.system, tftp.appendWords host gui⟩ := by
  have hdefault : IsWord Char.isWhitespace "default".toList := IsWord.ofList rfl rfl
  have hlabel : IsWord Char.isWhitespace "label".toList := IsWord.ofList rfl rfl
  have hkernel : IsWord Char.isWhitespace "kernel".toList := IsWord.ofList rfl rfl
  have hsystem := isWord_literal (s := "vmlinuz-") rfl rfl h.system.chars
  have hlines : ∀ l ∈ ["default".toList ++ ' ' :: host, [], "label".toList ++ ' ' :: host,
      "kernel".toList ++ ' ' :: ("vmlinuz-".toList ++ tftp.system)] ++
        [tftp.appendLine host gui, []], '\n' ∉ l := by
    simp only [List.forall_mem_append, List.forall_mem_cons]
    exact ⟨⟨newline_notMem_blank hdefault (newline_notMem_of_isWord hhost), nofun,
      newline_notMem_blank hlabel (newline_notMem_of_isWord hhost),
      newline_notMem_blank hkernel (newline_notMem_of_isWord hsystem), nofun⟩,
      newline_notMem_appendLine h hhost, nofun, nofun⟩
  have hsplit := splitOn_flatMap_lines hlines []
  rw [List.append_nil] at hsplit
  have hwords : ((["default".toList ++ ' ' :: host, [], "label".toList ++ ' ' :: host,
      "kernel".toList ++ ' ' :: ("vmlinuz-".toList ++ tftp.system)] ++
        [tftp.appendLine host gui, []]) ++ ([] : CStr).splitOn '\n').map
          (words Char.isWhitespace) =
      [["default".toList, host], [], ["label".toList, host],
        ["kernel".toList, "vmlinuz-".toList ++ tftp.system],
        "append".toList :: tftp.appendWords host gui, [], []] := by
    rw [List.splitOn_nil]
    simp only [List.map_cons, List.map_nil, words_nil, hhost.words_eq,
      hdefault.words_append_cons (b := ' ') rfl, hlabel.words_append_cons (b := ' ') rfl,
      hkernel.words_append_cons (b := ' ') rfl, hsystem.words_eq, words_appendLine h,
      List.cons_append, List.nil_append]
  rw [readBoot, cbcWriteTftpConfigFile_eq h, linesText, hsplit, hwords]
  exact if_pos ⟨rfl, rfl⟩

/-! ## The build file that the machine is told of -/

/-- The options that stand before the build file. -/
def bootKeys : List CStr :=
  ["initrd".toList, "county".toList, "console-setup/layoutcode".toList, "ksdevice".toList,
    "ramdisk_size".toList]

/-- The argument for the build file is an option of its own, and no stored text hides it. -/
structure AilsaTftp.ArgClean (tftp : AilsaTftp) (host : CStr) : Prop where
  equals_notMem : '=' ∉ tftp.arg
  notMem_bootKeys : tftp.arg ∉ bootKeys
  quote_notMem : '"' ∉ tftp.url ++ host
  bootLine : ∀ w ∈ words Char.isWhitespace tftp.bootLine, ¬(tftp.arg ++ ['=']).isPrefixOf w

theorem equals_notMem_bootKeys : ∀ k ∈ bootKeys, '=' ∉ k := by decide

theorem optionOf_keyValue {key : String} {k : CStr} (hk : '=' ∉ k) (hne : k ≠ key.toList)
    (hkey : '=' ∉ key.toList) (v : CStr) (ws : List CStr) :
    optionOf k (keyValue key v :: ws) = optionOf k ws := by
  rw [keyValue, optionOf_cons, if_neg fun hpre => hne ((isPrefixOf_option hk hkey).mp hpre)]

theorem optionOf_buildFile {ws : List CStr} (hquote : '"' ∉ tftp.url ++ host) :
    optionOf tftp.arg (tftp.buildFile host :: ws) = some (tftp.url ++ (host ++ ".cfg".toList)) := by
  have hcfg : '"' ∉ ".cfg".toList := by decide
  rw [List.mem_append, not_or] at hquote
  exact optionOf_cons_self (List.not_mem_append hquote.1 (List.not_mem_append hquote.2 hcfg))
    tftp.arg ws

/-- The machine is told of the build file of the host. -/
theorem optionOf_appendWords (h : tftp.Clean) (hhost : IsWord Char.isWhitespace host)
    (harg : tftp.ArgClean host) : optionOf tftp.arg (tftp.appendWords host gui) =
      some (tftp.url ++ (host ++ ".cfg".toList)) := by
  have hskip : ∀ {key : String}, key.toList ∈ bootKeys → ∀ v ws,
      optionOf tftp.arg (keyValue key v :: ws) = optionOf tftp.arg ws := fun hmem v ws =>
    optionOf_keyValue harg.equals_notMem (fun heq => harg.notMem_bootKeys (heq ▸ hmem))
      (equals_notMem_bootKeys _ hmem) v ws
  have hfile := (isWord_buildFile h hhost).words_eq
  have hcounty : words Char.isWhitespace (keyValue "county" tftp.country) =
      [keyValue "county" tftp.country] := (isWord_keyValue rfl rfl h.country).words_eq
  have hlayout : words Char.isWhitespace (keyValue "console-setup/layoutcode" tftp.country) =
      [keyValue "console-setup/layoutcode" tftp.country] :=
    (isWord_keyValue rfl rfl h.country).words_eq
  rw [AilsaTftp.appendWords, hskip (.head _), AilsaTftp.arguments]
  rcases h.type with htype | htype
  · rw [if_pos htype, AilsaTftp.preseedArguments]
    simp only [List.flatMap_append, List.flatMap_cons, hcounty, hlayout, hfile,
      List.append_assoc, List.cons_append, List.nil_append]
    rw [hskip (.tail _ (.head _)), hskip (.tail _ (.tail _ (.head _))), optionOf_append,
      optionOf_eq_none harg.bootLine, optionOf_buildFile harg.quote_notMem]
    rfl
  · have hpreseed : ¬tftp.IsPreseed := fun hpre =>
      absurd (hpre.symm.trans htype) (by decide)
    have hdevice : words Char.isWhitespace (keyValue "ksdevice" tftp.netInt) =
        [keyValue "ksdevice" tftp.netInt] := (isWord_keyValue rfl rfl h.netInt).words_eq
    have hsize : words Char.isWhitespace (keyValue "ramdisk_size" "8192".toList) =
        [keyValue "ramdisk_size" "8192".toList] :=
      (isWord_keyValue rfl rfl (IsWord.ofList rfl rfl).chars).words_eq
    rw [if_neg hpreseed, if_pos htype, List.nil_append, AilsaTftp.kickstartArguments]
    simp only [List.flatMap_cons, hdevice, hsize, hfile, List.singleton_append]
    rw [hskip (.tail _ (.tail _ (.tail _ (.head _)))),
      hskip (.tail _ (.tail _ (.tail _ (.tail _ (.head _))))), optionOf_buildFile harg.quote_notMem]

/-- Of a build with rows of all three kinds, the loader takes the entry of the host without a
choice, and the installer is told of the build file of the host. -/
theorem boots_cbcWriteTftpConfigFile (os : List BuildOsRow) (loc : List LocaleDetailsRow)
    (rows : List TftpRow) {o : BuildOsRow} {l : LocaleDetailsRow} {t : TftpRow}
    (h : (tftpValues o l t).Clean) (hhost : IsWord Char.isWhitespace host)
    (harg : (tftpValues o l t).ArgClean host) (gui : ℤ) :
    ∃ tftp, cbcFillTftpValues (o :: os) (l :: loc) (t :: rows) = .ok (some tftp) ∧
      ∃ b, readBoot (cbcWriteTftpConfigFile tftp host gui) = some b ∧ b.label = host ∧
        b.kernel = "vmlinuz-".toList ++ tftp.system ∧
        optionOf tftp.arg b.append = some (tftp.url ++ (host ++ ".cfg".toList)) :=
  ⟨_, rfl, _, readBoot_cbcWriteTftpConfigFile h hhost, rfl, rfl, optionOf_appendWords h hhost harg⟩

/-- The rows of a build of `debian`. -/
def busterOs : BuildOsRow := ⟨"debian".toList, "10".toList, "amd64".toList⟩

def britishLocale : LocaleDetailsRow :=
  ⟨"GB".toList, "en_GB".toList, "gb".toList, "Europe/London".toList⟩

def preseedRow : TftpRow := ⟨"auto=true priority=critical".toList, "eth0".toList, "url".toList,
  "http://b/".toList, "preseed".toList⟩

theorem boots_cbcWriteTftpConfigFile_web :
    ∃ tftp, cbcFillTftpValues [busterOs] [britishLocale] [preseedRow] = .ok (some tftp) ∧
      ∃ b, readBoot (cbcWriteTftpConfigFile tftp "web".toList 0) = some b ∧
        b.label = "web".toList ∧ b.kernel = "vmlinuz-".toList ++ tftp.system ∧
        optionOf tftp.arg b.append = some (tftp.url ++ ("web".toList ++ ".cfg".toList)) := by
  have hword : ∀ {w : CStr}, isWordChars Char.isWhitespace w = true →
      IsWord Char.isWhitespace w := IsWord.of_isWordChars
  have hclean : (tftpValues busterOs britishLocale preseedRow).Clean :=
    ⟨hword (by decide), (hword (by decide)).chars, by decide,
      (hword (by decide)).chars, hword (by decide),
      (hword (by decide)).chars, .inl (by decide)⟩
  exact boots_cbcWriteTftpConfigFile [] [] [] hclean (IsWord.ofList rfl rfl)
    ⟨by decide, by decide, by decide, by decide⟩ 0

/-! ## The name of the file -/

/-- The digits that `%X` prints. -/
def upperDigit (d : ℕ) : Char := d.digitChar.toUpper

theorem upperHexText_eq (n : ℕ) : upperHexText n =
    if n < 16 then [upperDigit n] else upperHexText (n / 16) ++ [upperDigit (n % 16)] := by
  rw [upperHexText, hexText, Nat.toDigits_eq_if (by decide)]
  split_ifs with h
  · rfl
  · rw [List.map_append]
    rfl

theorem upperDigit_inj {d e : ℕ} (hd : d < 16) (he : e < 16) (h : upperDigit d = upperDigit e) :
    d = e := by
  have hall : ∀ d < 16, ∀ e < 16, upperDigit d = upperDigit e → d = e := by decide
  exact hall d hd e he h

theorem upperHexText_ne_nil (n : ℕ) : upperHexText n ≠ [] := by
  rw [upperHexText_eq]
  split_ifs
  · exact List.cons_ne_nil _ _
  · exact List.append_ne_nil_of_right_ne_nil _ (List.cons_ne_nil _ _)

theorem upperHexText_injective {n m : ℕ} (h : upperHexText n = upperHexText m) : n = m := by
  induction n using Nat.strong_induction_on generalizing m with
  | _ n ih =>
    rw [upperHexText_eq n, upperHexText_eq m] at h
    split_ifs at h with hn hm hm
    · exact upperDigit_inj hn hm (List.singleton_inj.mp h)
    · exact absurd (List.append_eq_singleton_iff.mp h.symm) (by simp [upperHexText_ne_nil])
    · exact absurd (List.append_eq_singleton_iff.mp h) (by simp [upperHexText_ne_nil])
    · obtain ⟨hinit, hlast⟩ := List.append_inj' h rfl
      have hdigit := upperDigit_inj (Nat.mod_lt n (by decide)) (Nat.mod_lt m (by decide))
        (List.singleton_inj.mp hlast)
      have hrest := ih (n / 16) (by omega) hinit
      omega

/-- Only zero is printed with a zero in front. -/
theorem head_upperHexText {n : ℕ} (hn : n ≠ 0) : (upperHexText n).head? ≠ some '0' := by
  induction n using Nat.strong_induction_on with
  | _ n ih =>
    rw [upperHexText_eq]
    split_ifs with h
    · have hall : ∀ d < 16, d ≠ 0 → [upperDigit d].head? ≠ some '0' := by decide
      exact hall n h hn
    · rw [List.head?_append_of_ne_nil _ (upperHexText_ne_nil _)]
      exact ih (n / 16) (by omega) (by omega)

theorem length_upperHexText_le_iff {n k : ℕ} (hk : 0 < k) :
    (upperHexText n).length ≤ k ↔ n < 16 ^ k := by
  rw [upperHexText, List.length_map, hexText]
  exact Nat.length_toDigits_le_iff (by decide) hk

/-- The names that a machine asks for by its address : the eight digits of it, and then one fewer
each time. -/
def pxeNames (n : ℕ) : List CStr :=
  (List.range 8).map fun k => ((upperHexText n).leftpad 8 '0').take (8 - k)

theorem pxeNames_eq_cons (n : ℕ) (h : n < 2 ^ 32) :
    ∃ names, pxeNames n = (upperHexText n).leftpad 8 '0' :: names := by
  have hlen : ((upperHexText n).leftpad 8 '0').length ≤ 8 := by
    rw [List.length_leftpad]
    exact max_le le_rfl ((length_upperHexText_le_iff (by decide)).mpr h)
  exact ⟨_, congrArg (· :: _) (List.take_of_length_le hlen)⟩

theorem head_of_mem_pxeNames {n : ℕ} (h : n < 2 ^ 28) {s : CStr} (hs : s ∈ pxeNames n) :
    s.head? = some '0' := by
  obtain ⟨k, hk, rfl⟩ := List.mem_map.mp hs
  have hlen : (upperHexText n).length ≤ 7 := (length_upperHexText_le_iff (by decide)).mpr h
  obtain ⟨z, hz⟩ : ∃ z, 8 - (upperHexText n).length = z + 1 :=
    ⟨7 - (upperHexText n).length, by omega⟩
  obtain ⟨j, hj⟩ : ∃ j, 8 - k = j + 1 := ⟨7 - k, by rw [List.mem_range] at hk; omega⟩
  rw [List.leftpad, hz, List.replicate_succ, List.cons_append, hj]
  rfl

variable {files : CStr → Bool}

/-- A machine with fewer digits finds no file but that of the address zero. -/
theorem find_pxeNames_of_lt {n : ℕ} (h : n < 2 ^ 28)
    (hfiles : ∀ s, files s = true → ∃ m, s = upperHexText m) {s : CStr}
    (hs : (pxeNames n).find? files = some s) : s = upperHexText 0 := by
  obtain ⟨m, rfl⟩ := hfiles s (List.find?_some hs)
  have hhead := head_of_mem_pxeNames h (List.mem_of_find?_eq_some hs)
  by_cases hm : m = 0
  · rw [hm]
  · exact absurd hhead (head_upperHexText hm)

/-- A machine finds the file of its address exactly if the address has eight digits, or is zero. -/
theorem find_pxeNames_iff {n : ℕ} (h : n < 2 ^ 32) (hfile : files (upperHexText n) = true)
    (hfiles : ∀ s, files s = true → ∃ m, s = upperHexText m) :
    (pxeNames n).find? files = some (upperHexText n) ↔ 2 ^ 28 ≤ n ∨ n = 0 := by
  constructor
  · intro hfind
    by_contra hnot
    have hzero := upperHexText_injective (find_pxeNames_of_lt (by omega) hfiles hfind)
    omega
  · rintro (hlarge | rfl)
    · have hlen : ¬(upperHexText n).length ≤ 7 := fun hle => by
        have hlt : n < 16 ^ 7 := (length_upperHexText_le_iff (by decide)).mp hle
        omega
      have hpad : (upperHexText n).leftpad 8 '0' = upperHexText n := by
        rw [List.leftpad, Nat.sub_eq_zero_of_le (by omega)]
        rfl
      obtain ⟨names, hnames⟩ := pxeNames_eq_cons n h
      rw [hnames, hpad, List.find?_cons_of_pos hfile]
    · have hmem : upperHexText 0 ∈ pxeNames 0 := by decide
      obtain ⟨s, hs⟩ := Option.isSome_iff_exists.mp
        (List.find?_isSome.mpr ⟨_, hmem, hfile⟩)
      rw [hs, find_pxeNames_of_lt (by decide) hfiles hs]

/-- The name that `write_tftp_config` gives the configuration of an address. -/
def tftpFile (tftpdir pxe : CStr) (ip : ℕ) : CStr :=
  snprintf domainLen (tftpdir ++ pxe ++ upperHexText ip)

variable {tftpdir pxe : CStr} {ns : List ℕ}

theorem tftpFile_eq (hlen : (tftpdir ++ pxe).length + 8 < domainLen) {n : ℕ} (hn : n < 2 ^ 32) :
    tftpFile tftpdir pxe n = tftpdir ++ pxe ++ upperHexText n := by
  have hdigits : (upperHexText n).length ≤ 8 := (length_upperHexText_le_iff (by decide)).mpr hn
  refine snprintf_of_length_lt ?_
  have hall : (tftpdir ++ pxe ++ upperHexText n).length =
      (tftpdir ++ pxe).length + (upperHexText n).length := List.length_append
  omega

/-- Of the builds with a configuration, those machines find their own that have an address of
eight digits, or the address zero. -/
theorem finds_tftpFile_iff (hlen : (tftpdir ++ pxe).length + 8 < domainLen)
    (hns : ∀ m ∈ ns, m < 2 ^ 32) {n : ℕ} (hn : n ∈ ns) :
    (pxeNames n).find? (fun s => tftpdir ++ pxe ++ s ∈ ns.map (tftpFile tftpdir pxe)) =
      some (upperHexText n) ↔ 2 ^ 28 ≤ n ∨ n = 0 := by
  refine find_pxeNames_iff (hns n hn) ?_ fun s hs => ?_
  · exact decide_eq_true (List.mem_map.mpr ⟨n, hn, tftpFile_eq hlen (hns n hn)⟩)
  · obtain ⟨m, hm, hfile⟩ := List.mem_map.mp (of_decide_eq_true hs)
    rw [tftpFile_eq hlen (hns m hm)] at hfile
    exact ⟨m, (List.append_cancel_left hfile).symm⟩

/-- Builds at `10.0.0.7` and `192.168.1.1`. -/
theorem finds_tftpFile_iff_lab :
    (pxeNames 167772167).find? (fun s => "/tftp/".toList ++ "pxelinux.cfg/".toList ++ s ∈
      [167772167, 3232235777].map (tftpFile "/tftp/".toList "pxelinux.cfg/".toList)) =
        some (upperHexText 167772167) ↔ 2 ^ 28 ≤ 167772167 ∨ 167772167 = 0 :=
  finds_tftpFile_iff (by decide) (by decide) (.head _)

end Cmdb
