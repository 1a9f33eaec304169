import Cmdb.Debconf
import Cmdb.Kickstart
import Cmdb.Recipe
import Cmdb.ZoneDb

/-!
# The disk of a build

A build has a disk and the partitions of its scheme. `write_preseed_partitions` puts them into a
recipe for the installer of Debian, `cbc_write_kickstart_partitions` into commands of kickstart.

* `answers_writePreseedPartitions` : the recipe is read as the partitions of the scheme, and without
  a partition it takes in the answer after it;
* `plans_eq_iff` : both installers plan the same partitions if what has a file system of swap is
  mounted as swap.
-/

namespace Cmdb

open CString Words Debconf

/-! ## The code -/

/-- The answer of a line `d-i question type value`. -/
def di (question type : String) (value : CStr) : Answer :=
  ⟨"d-i".toList, question.toList, type.toList, value⟩

/-- The line `d-i question type value`. -/
def diLine (question type : String) (value : CStr) : Line :=
  .plain ((di question type value).line ' ')

/-- A row of `DISK_DEV_DETAILS_ON_SERVER_ID`. -/
structure DiskDevRow where
  device : CStr
  lvm : ℕ
deriving DecidableEq, Repr

/-- The member `small` of a number of the result list : its low sixteen bits. -/
def small (n : ℕ) : ℤ := (BitVec.ofNat 16 n).toInt

/-- Whether there is a group of volumes. -/
def DiskDevRow.small (d : DiskDevRow) : ℤ := Cmdb.small d.lvm

/-- A row of `BUILD_PARTITIONS_ON_SERVER_ID`. -/
structure BuildPartitionRow where
  minimum : ℕ
  maximum : ℕ
  priority : ℕ
  mountPoint : CStr
  filesystem : CStr
  logicalVolume : CStr
deriving DecidableEq, Repr

/-- `ailsa_partition_s`. -/
structure AilsaPartition where
  min : ℕ
  max : ℕ
  pri : ℕ
  mount : CStr
  fs : CStr
  logvol : CStr
deriving DecidableEq, Repr

/-- `cbc_fill_partition_details`. -/
def cbcFillPartitionDetails (list : List BuildPartitionRow) : List AilsaPartition :=
  list.map fun e =>
    { min := e.minimum, max := e.maximum, pri := e.priority, mount := e.mountPoint.take domainLen
      fs := e.filesystem.take serviceLen, logvol := e.logicalVolume.take macLen }

/-- The comparison that keeps a partition from being mounted. -/
def AilsaPartition.IsSwap (p : AilsaPartition) : Prop := StrncmpEq p.fs "swap".toList byteLen

instance (p : AilsaPartition) : Decidable p.IsSwap :=
  inferInstanceAs (Decidable (StrncmpEq p.fs "swap".toList byteLen))

/-- A line of the recipe, after the blanks it starts with. -/
def recipeLine (indent : ℕ) (l : CStr) : CStr := List.replicate indent ' ' ++ l

/-- `write_preseed_lvm_group`. -/
def writePreseedLvmGroup (dev : CStr) : List CStr :=
  [recipeLine 14 "100 1000 1000000000 ext3 ".toList,
    recipeLine 23 "$defaultignore\x7b\x7d ".toList,
    recipeLine 23 "$primary\x7b\x7d ".toList,
    recipeLine 23 "method\x7b lvm \x7d ".toList,
    recipeLine 23 ("device\x7b ".toList ++ dev ++ " \x7d ".toList),
    recipeLine 23 "vg_name\x7b systemvg \x7d".toList,
    recipeLine 14 ". ".toList]

/-- The lines of one partition, up to its full stop. -/
def preseedPartition (lvm : ℤ) (p : AilsaPartition) : List CStr :=
  [recipeLine 14 (numText p.pri ++ " ".toList ++ numText p.min ++ " ".toList ++ numText p.max ++
      " ".toList ++ p.fs ++ "  ".toList)] ++
    (if lvm > 0 then
      [recipeLine 23 "$lvmok ".toList, recipeLine 23 "in_vg\x7b systemvg \x7d ".toList,
        recipeLine 23 ("lv_name\x7b ".toList ++ p.logvol ++ " \x7d".toList)]
    else []) ++
    if ¬p.IsSwap then
      [recipeLine 23 "method\x7b format \x7d format\x7b \x7d ".toList,
        recipeLine 23 ("use_filesystem\x7b \x7d filesystem\x7b ".toList ++ p.fs ++ " \x7d ".toList),
        recipeLine 23 ("mountpoint\x7b ".toList ++ p.mount ++ " \x7d ".toList)]
    else [recipeLine 23 "method\x7b swap \x7d format\x7b \x7d ".toList]

/-- The loop of `write_preseed_partitions` : the full stop of the last partition ends the
recipe. -/
def preseedPartitions (lvm : ℤ) : List AilsaPartition → List Line
  | [] => []
  | p :: part => (preseedPartition lvm p).map .continued ++
      (if part ≠ [] then [.continued (recipeLine 14 ". ".toList)]
      else [.plain (recipeLine 14 ".".toList), .plain []]) ++ preseedPartitions lvm part

/-- `write_preseed_partitions`. Without a row it goes through a `NULL` pointer. -/
def writePreseedPartitions (disk : List DiskDevRow) (part : List AilsaPartition) :
    Except AilsaError (List Line) :=
  match disk with
  | [] => .error .nullDeref
  | d :: _ => .ok ([.plain [], .continued "d-i partman-auto/expert_recipe string ".toList,
      .continued "      monkey :: ".toList] ++
    (if d.small > 0 then (writePreseedLvmGroup d.device).map .continued else []) ++
    preseedPartitions d.small part ++
    [diLine "grub-installer/only_debian" "boolean" "true".toList,
      diLine "grub-installer/bootdev" "string" d.device])

/-- The command for one partition. -/
def kickstartPartition (lvm : ℤ) (p : AilsaPartition) : CStr :=
  if lvm > 0 then
    "logvol ".toList ++ p.mount ++ " --fstype=\"".toList ++ p.fs ++ "\" --name=".toList ++
      p.logvol ++ " --vgname=system_vg --size=".toList ++ numText p.min
  else
    "part ".toList ++ p.mount ++ " --fstype=\"".toList ++ p.fs ++ "\" --size=".toList ++
      numText p.min

/-- The commands for the disk. -/
def kickstartDisk (dev : CStr) : List CStr :=
  [[], "zerombr".toList, "bootloader --location=mbr --driveorder=".toList ++ dev,
    "clearpart --all --initlabel".toList]

/-- The commands for the group of volumes. -/
def kickstartVolumes : List CStr :=
  ["part /boot --asprimary --fstype=\"ext3\" --size=512".toList,
    "part pv.1 --asprimary --size=1 --grow".toList,
    "volgroup system_vg --pesize=32768 pv.1".toList]

/-- `cbc_write_kickstart_partitions`. -/
def cbcWriteKickstartPartitions (disk : List DiskDevRow) (part : List AilsaPartition) :
    Except AilsaError (List CStr) :=
  match disk, part with
  | d :: _, _ :: _ => .ok (kickstartDisk d.device ++
      (if d.small > 0 then kickstartVolumes else []) ++
      part.map (kickstartPartition d.small) ++ [[]])
  | _, _ => .error .noData

/-! ## The recipe as it is read -/

variable {p : AilsaPartition} {part : List AilsaPartition} {lvm : ℤ} {s : CStr}

/-- A word that stands for itself in a recipe and in a command. -/
structure DiskWord (w : CStr) : Prop where
  isWord : IsWord Char.isWhitespace w
  ne_dot : w ≠ ['.']
  ne_brace : w ≠ ['}']
  not_continued : w.getLast? ≠ some '\\'
  quote_notMem : '"' ∉ w

theorem DiskWord.ofChars {w : CStr} (h : (isWordChars Char.isWhitespace w && w != ['.'] &&
    w != ['}'] && w.getLast? != some '\\' && !w.contains '"') = true) : DiskWord w := by
  simp only [Bool.and_eq_true, bne_iff_ne, Bool.not_eq_true', List.contains_eq_mem,
    decide_eq_false_iff_not] at h
  obtain ⟨⟨⟨⟨hword, hdot⟩, hbrace⟩, hlast⟩, hquote⟩ := h
  exact ⟨IsWord.of_isWordChars hword, hdot, hbrace, hlast, hquote⟩

/-- The texts of a partition are words. -/
structure AilsaPartition.Clean (p : AilsaPartition) : Prop where
  fs : DiskWord p.fs
  mount : DiskWord p.mount
  logvol : DiskWord p.logvol

/-- The words of the lines of a partition. -/
def AilsaPartition.recipeWords (p : AilsaPartition) (lvm : ℤ) : List Recipe.Word :=
  [numText p.pri, numText p.min, numText p.max, p.fs] ++
    (if lvm > 0 then "$lvmok".toList :: (Recipe.braced "in_vg".toList ["systemvg".toList] ++
      Recipe.braced "lv_name".toList [p.logvol]) else []) ++
    if ¬p.IsSwap then
      Recipe.braced "method".toList ["format".toList] ++ (Recipe.braced "format".toList [] ++
        (Recipe.braced "use_filesystem".toList [] ++ (Recipe.braced "filesystem".toList [p.fs] ++
          Recipe.braced "mountpoint".toList [p.mount])))
    else Recipe.braced "method".toList ["swap".toList] ++ Recipe.braced "format".toList []

/-- What a partition is to be, as it is read from a recipe. -/
def AilsaPartition.entry (p : AilsaPartition) (lvm : ℤ) : Recipe.Entry where
  numbers := (p.pri, p.min, p.max)
  fs := p.fs
  specs := (if lvm > 0 then [("$lvmok".toList, []), ("in_vg".toList, ["systemvg".toList]),
      ("lv_name".toList, [p.logvol])] else []) ++
    if ¬p.IsSwap then [("method".toList, ["format".toList]), ("format".toList, []),
      ("use_filesystem".toList, []), ("filesystem".toList, [p.fs]),
      ("mountpoint".toList, [p.mount])]
    else [("method".toList, ["swap".toList]), ("format".toList, [])]

theorem words_recipeLine (n : ℕ) (l : CStr) :
    words Char.isWhitespace (recipeLine n l) = words Char.isWhitespace l := by
  refine words_append_of_blanks (fun c hc => ?_) l
  rw [List.eq_of_mem_replicate hc]
  rfl

theorem isWord_numText (n : ℕ) : IsWord Char.isWhitespace (numText n) := by
  refine isWord_toDigits (fun c hc => ?_) n
  by_contra hne
  have hblank : c.isWhitespace = true := by simpa using hne
  simp only [Char.isWhitespace, Bool.or_eq_true, decide_eq_true_eq] at hblank
  rcases hblank with ((rfl | rfl) | rfl) | rfl <;> exact absurd hc (by decide)

/-- A line with one word in the last braces. -/
theorem words_inBraces {l e : CStr} (hl : l.getLast? = some ' ')
    (hs : IsWord Char.isWhitespace s) (he : ∀ c ∈ e, c.isWhitespace = true) :
    words Char.isWhitespace (l ++ s ++ " \x7d".toList ++ e) =
      words Char.isWhitespace l ++ [s, ['}']] := by
  obtain ⟨u, rfl⟩ := List.getLast?_eq_some_iff.mp hl
  have htext : u ++ [' '] ++ s ++ " \x7d".toList = u ++ ' ' :: (s ++ ' ' :: ['}']) := by simp
  have hu : words Char.isWhitespace (u ++ [' ']) = words Char.isWhitespace u ++
      words Char.isWhitespace [] := words_append_cons rfl u []
  rw [words_nil, List.append_nil] at hu
  rw [words_append_blanks he, htext, words_append_cons rfl, hs.words_append_cons rfl, hu]
  rfl

theorem words_numbers (h : IsWord Char.isWhitespace s) (a b c : ℕ) :
    words Char.isWhitespace (numText a ++ " ".toList ++ numText b ++ " ".toList ++ numText c ++
      " ".toList ++ s ++ "  ".toList) = [numText a, numText b, numText c, s] := by
  have htext : numText a ++ " ".toList ++ numText b ++ " ".toList ++ numText c ++ " ".toList ++ s =
      numText a ++ ' ' :: (numText b ++ ' ' :: (numText c ++ ' ' :: s)) := by simp
  have hblanks : ∀ c ∈ "  ".toList, c.isWhitespace = true := by simp
  rw [words_append_blanks hblanks, htext, (isWord_numText a).words_append_cons rfl,
    (isWord_numText b).words_append_cons rfl, (isWord_numText c).words_append_cons rfl, h.words_eq]

theorem words_preseedPartition (h : p.Clean) (lvm : ℤ) :
    (preseedPartition lvm p).flatMap (words Char.isWhitespace) = p.recipeWords lvm := by
  have hblank : ∀ c ∈ " ".toList, c.isWhitespace = true := by simp
  have hvolume := words_inBraces (l := "lv_name\x7b ".toList) (by simp) h.logvol.isWord
    (e := []) (by simp)
  rw [List.append_nil] at hvolume
  have hfs := words_inBraces (l := "use_filesystem\x7b \x7d filesystem\x7b ".toList) (by simp)
    h.fs.isWord hblank
  have hmount := words_inBraces (l := "mountpoint\x7b ".toList) (by simp) h.mount.isWord hblank
  have hclose : " \x7d ".toList = " \x7d".toList ++ " ".toList := by simp
  have hok : words Char.isWhitespace "$lvmok ".toList = ["$lvmok".toList] := by decide
  have hvg : words Char.isWhitespace "in_vg\x7b systemvg \x7d ".toList =
    ["in_vg\x7b".toList, "systemvg".toList, "\x7d".toList] := by decide
  have hformat : words Char.isWhitespace "method\x7b format \x7d format\x7b \x7d ".toList =
    ["method\x7b".toList, "format".toList, "\x7d".toList, "format\x7b".toList, "\x7d".toList] := by
    decide
  have hswap : words Char.isWhitespace "method\x7b swap \x7d format\x7b \x7d ".toList =
    ["method\x7b".toList, "swap".toList, "\x7d".toList, "format\x7b".toList, "\x7d".toList] := by
    decide
  have huse : words Char.isWhitespace "use_filesystem\x7b \x7d filesystem\x7b ".toList =
    ["use_filesystem\x7b".toList, "\x7d".toList, "filesystem\x7b".toList] := by decide
  have hlv : words Char.isWhitespace "lv_name\x7b ".toList = ["lv_name\x7b".toList] := by decide
  have hmp : words Char.isWhitespace "mountpoint\x7b ".toList = ["mountpoint\x7b".toList] := by
    decide
  unfold preseedPartition AilsaPartition.recipeWords
  split_ifs <;>
  · simp only [List.flatMap_append, List.flatMap_cons, List.flatMap_nil, words_recipeLine,
      words_numbers h.fs.isWord, hclose, ← List.append_assoc, hvolume, hfs, hmount, hok, hvg,
      hformat, hswap, huse, hlv, hmp]
    simp [Recipe.braced]

theorem readEntry_recipeWords (h : p.Clean) (lvm : ℤ) :
    Recipe.readEntry (p.recipeWords lvm) = some (p.entry lvm) := by
  have hspecs : ∀ ws : List Recipe.Word, Recipe.readEntry
      ([numText p.pri, numText p.min, numText p.max, p.fs] ++ ws) =
      some ⟨(p.pri, p.min, p.max), p.fs, Recipe.specsFrom none ws⟩ := by
    intro ws
    simp [Recipe.readEntry, numText, readNat_toDigits]
  unfold AilsaPartition.recipeWords AilsaPartition.entry
  rw [List.append_assoc, hspecs]
  split_ifs <;>
  simp [Recipe.specsFrom_flag, Recipe.specsFrom_braced, Recipe.specsFrom_braced_self,
    h.logvol.ne_brace.symm, h.fs.ne_brace.symm, h.mount.ne_brace.symm]

theorem dot_notMem_recipeWords (h : p.Clean) (lvm : ℤ) : ['.'] ∉ p.recipeWords lvm := by
  have hnum : ∀ n, ['.'] ≠ numText n := by
    intro n hn
    have hdot : '.' ∈ numText n := by
      rw [← hn]
      exact List.mem_singleton.mpr rfl
    exact absurd (Nat.isDigit_of_mem_toDigits (by decide) (by decide) hdot) (by decide)
  unfold AilsaPartition.recipeWords
  split_ifs <;>
  simp [Recipe.braced, hnum, h.fs.ne_dot.symm, h.mount.ne_dot.symm, h.logvol.ne_dot.symm]

/-! ## The lines of the recipe -/

/-- The lines of the partitions that go on. -/
def recipeBodies (lvm : ℤ) : List AilsaPartition → List CStr
  | [] => []
  | p :: part => preseedPartition lvm p ++
      (if part ≠ [] then [recipeLine 14 ". ".toList] else []) ++ recipeBodies lvm part

/-- The lines that end the recipe : there are none if there is no partition. -/
def recipeEnd (part : List AilsaPartition) : List Line :=
  if part ≠ [] then [.plain (recipeLine 14 ".".toList), .plain []] else []

theorem preseedPartitions_eq (lvm : ℤ) (part : List AilsaPartition) :
    preseedPartitions lvm part = (recipeBodies lvm part).map .continued ++ recipeEnd part := by
  induction part with
  | nil => rfl
  | cons p part ih =>
    rw [preseedPartitions, recipeBodies, ih, recipeEnd, recipeEnd, if_pos (List.cons_ne_nil p part)]
    by_cases hpart : part = []
    · subst hpart
      simp [recipeBodies]
    · rw [if_pos hpart, if_pos hpart, if_pos hpart]
      simp

theorem words_recipeBodies (lvm : ℤ) (hne : part ≠ []) (h : ∀ p ∈ part, p.Clean) :
    (recipeBodies lvm part).flatMap (words Char.isWhitespace) ++ [['.']] =
      part.flatMap fun p => p.recipeWords lvm ++ [['.']] := by
  have hdot : words Char.isWhitespace ". ".toList = [['.']] := by decide
  induction part with
  | nil => exact absurd rfl hne
  | cons p part ih =>
    obtain ⟨hp, hpart⟩ := List.forall_mem_cons.mp h
    rw [recipeBodies, List.flatMap_append, List.flatMap_append, words_preseedPartition hp,
      List.flatMap_cons]
    by_cases hnil : part = []
    · subst hnil
      simp [recipeBodies]
    · rw [← ih hnil hpart, if_pos hnil, List.flatMap_singleton, words_recipeLine, hdot]
      simp only [List.append_assoc]

/-- A line of the recipe starts with a blank, is one line and does not join the next by itself. -/
structure RecipeBody (l : CStr) : Prop where
  head : ∃ b ∈ l.head?, b.isWhitespace = true
  clean : (Line.continued l).Clean

theorem DiskWord.newline_notMem (h : DiskWord s) : '\n' ∉ s :=
  fun hmem => absurd (h.isWord.chars _ hmem) (by decide)

theorem newline_notMem_numText (n : ℕ) : '\n' ∉ numText n :=
  fun hmem => absurd ((isWord_numText n).chars _ hmem) (by decide)

theorem recipeBody_recipeLine {n : ℕ} {l : CStr} (hn : 0 < n) (hnewline : '\n' ∉ l)
    (hlast : l.getLast? ≠ some '\\') : RecipeBody (recipeLine n l) := by
  obtain ⟨n, rfl⟩ := Nat.exists_eq_add_of_lt hn
  have hblanks : (List.replicate (0 + n + 1) ' ').getLast? ≠ some '\\' := by
    simp [List.getLast?_replicate]
  refine ⟨⟨' ', by simp [recipeLine, List.replicate_succ], rfl⟩, ?_, ?_⟩
  · simpa [Line.body, recipeLine, List.mem_replicate] using hnewline
  · exact getLast?_append_ne hblanks hlast

theorem recipeBody_preseedPartition (h : p.Clean) (lvm : ℤ) :
    ∀ l ∈ preseedPartition lvm p, RecipeBody l := by
  unfold preseedPartition
  split_ifs <;>
  simp [recipeBody_recipeLine, List.getLast?_cons, newline_notMem_numText, h.fs.newline_notMem,
    h.mount.newline_notMem, h.logvol.newline_notMem]

theorem recipeBody_recipeBodies (lvm : ℤ) (h : ∀ p ∈ part, p.Clean) :
    ∀ l ∈ recipeBodies lvm part, RecipeBody l := by
  have hdot : RecipeBody (recipeLine 14 ". ".toList) := by simp [recipeBody_recipeLine]
  induction part with
  | nil => nofun
  | cons p part ih =>
    obtain ⟨hp, hpart⟩ := List.forall_mem_cons.mp h
    rw [recipeBodies]
    refine List.forall_mem_append.mpr ⟨List.forall_mem_append.mpr
      ⟨recipeBody_preseedPartition hp lvm, ?_⟩, ih hpart⟩
    split_ifs
    · exact List.forall_mem_singleton.mpr hdot
    · nofun

theorem recipeBody_writePreseedLvmGroup (h : DiskWord s) :
    ∀ l ∈ writePreseedLvmGroup s, RecipeBody l := by
  simp [writePreseedLvmGroup, recipeBody_recipeLine, List.getLast?_cons, h.newline_notMem]

/-- The group of volumes, as it is read from a recipe. -/
def lvmGroupEntry (dev : CStr) : Recipe.Entry where
  numbers := (100, 1000, 1000000000)
  fs := "ext3".toList
  specs := [("$defaultignore\x7b\x7d".toList, []), ("$primary\x7b\x7d".toList, []),
    ("method".toList, ["lvm".toList]), ("device".toList, [dev]),
    ("vg_name".toList, ["systemvg".toList])]

/-- The words of the group of volumes. -/
def lvmGroupWords (dev : CStr) : List Recipe.Word :=
  ["100".toList, "1000".toList, "1000000000".toList, "ext3".toList, "$defaultignore\x7b\x7d".toList,
    "$primary\x7b\x7d".toList] ++ (Recipe.braced "method".toList ["lvm".toList] ++
      (Recipe.braced "device".toList [dev] ++ Recipe.braced "vg_name".toList ["systemvg".toList]))

theorem words_writePreseedLvmGroup (h : DiskWord s) :
    (writePreseedLvmGroup s).flatMap (words Char.isWhitespace) =
      lvmGroupWords s ++ [['.']] := by
  have hblank : ∀ c ∈ " ".toList, c.isWhitespace = true := by simp
  have hdev := words_inBraces (l := "device\x7b ".toList) (by simp) h.isWord hblank
  have hclose : " \x7d ".toList = " \x7d".toList ++ " ".toList := by simp
  have hfirst : words Char.isWhitespace "100 1000 1000000000 ext3 ".toList =
    ["100".toList, "1000".toList, "1000000000".toList, "ext3".toList] := by decide
  have hignore : words Char.isWhitespace "$defaultignore\x7b\x7d ".toList =
    ["$defaultignore\x7b\x7d".toList] := by decide
  have hprimary : words Char.isWhitespace "$primary\x7b\x7d ".toList =
    ["$primary\x7b\x7d".toList] := by decide
  have hmethod : words Char.isWhitespace "method\x7b lvm \x7d ".toList =
    ["method\x7b".toList, "lvm".toList, "\x7d".toList] := by decide
  have hvg : words Char.isWhitespace "vg_name\x7b systemvg \x7d".toList =
    ["vg_name\x7b".toList, "systemvg".toList, "\x7d".toList] := by decide
  have hlit : words Char.isWhitespace "device\x7b ".toList = ["device\x7b".toList] := by decide
  have hdot : words Char.isWhitespace ". ".toList = [['.']] := by decide
  unfold writePreseedLvmGroup lvmGroupWords
  simp only [List.flatMap_cons, List.flatMap_nil, words_recipeLine, hclose, ← List.append_assoc,
    hdev, hfirst, hignore, hprimary, hmethod, hvg, hlit, hdot]
  simp [Recipe.braced]

theorem readEntry_lvmGroupWords (h : DiskWord s) :
    Recipe.readEntry (lvmGroupWords s) = some (lvmGroupEntry s) := by
  have hnumbers : readNat "100".toList = some 100 ∧ readNat "1000".toList = some 1000 ∧
    readNat "1000000000".toList = some 1000000000 := by decide
  have hspecs : ∀ ws : List Recipe.Word, Recipe.readEntry (["100".toList, "1000".toList,
      "1000000000".toList, "ext3".toList, "$defaultignore\x7b\x7d".toList,
        "$primary\x7b\x7d".toList] ++ ws) =
      some ⟨(100, 1000, 1000000000), "ext3".toList, ("$defaultignore\x7b\x7d".toList, []) ::
        ("$primary\x7b\x7d".toList, []) :: Recipe.specsFrom none ws⟩ := by
    intro ws
    rw [List.cons_append, List.cons_append, List.cons_append, List.cons_append, Recipe.readEntry,
      hnumbers.1, hnumbers.2.1, hnumbers.2.2]
    simp [Recipe.specsFrom_flag]
  rw [lvmGroupWords, hspecs]
  simp [Recipe.specsFrom_braced, Recipe.specsFrom_braced_self, h.ne_brace.symm, lvmGroupEntry]

theorem dot_notMem_lvmGroupWords (h : DiskWord s) : ['.'] ∉ lvmGroupWords s := by
  simp [lvmGroupWords, Recipe.braced, h.ne_dot.symm]

/-! ## The answers -/

variable {d : DiskDevRow} {ds : List DiskDevRow}

/-- The lines of the recipe after its name that go on. -/
def DiskDevRow.bodies (d : DiskDevRow) (part : List AilsaPartition) : List CStr :=
  (if d.small > 0 then writePreseedLvmGroup d.device else []) ++ recipeBodies d.small part

/-- The recipe, as it is written. -/
def DiskDevRow.recipe (d : DiskDevRow) (part : List AilsaPartition) : CStr :=
  "      monkey :: ".toList ++ (d.bodies part).flatten ++ recipeLine 14 ".".toList

/-- The entries of the recipe : the group of volumes if there is one, and every partition. -/
def DiskDevRow.entries (d : DiskDevRow) (part : List AilsaPartition) : List Recipe.Entry :=
  (if d.small > 0 then [lvmGroupEntry d.device] else []) ++ part.map fun p => p.entry d.small

/-- The words and the entry of each partition of the recipe. -/
def DiskDevRow.chunks (d : DiskDevRow) (part : List AilsaPartition) :
    List (List Recipe.Word × Recipe.Entry) :=
  (if d.small > 0 then [(lvmGroupWords d.device, lvmGroupEntry d.device)] else []) ++
    part.map fun p => (p.recipeWords d.small, p.entry d.small)

theorem recipeBody_bodies (hd : DiskWord d.device) (h : ∀ p ∈ part, p.Clean) :
    ∀ l ∈ d.bodies part, RecipeBody l := by
  refine List.forall_mem_append.mpr ⟨?_, recipeBody_recipeBodies d.small h⟩
  split_ifs
  · exact recipeBody_writePreseedLvmGroup hd
  · nofun

theorem words_recipe (hd : DiskWord d.device) (h : ∀ p ∈ part, p.Clean) (hne : part ≠ []) :
    words Char.isWhitespace (d.recipe part) = "monkey".toList :: [':', ':'] ::
      (d.chunks part).flatMap fun c => c.1 ++ [['.']] := by
  have hname : words Char.isWhitespace "      monkey :: ".toList =
    ["monkey".toList, [':', ':']] := by decide
  have hdot : words Char.isWhitespace ".".toList = [['.']] := by decide
  have hheads : ∀ l ∈ d.bodies part, ∃ b ∈ l.head?, b.isWhitespace = true :=
    fun l hl => (recipeBody_bodies hd h l hl).head
  have hlast : RecipeBody (recipeLine 14 ".".toList) :=
    recipeBody_recipeLine (by simp) (by simp) (by simp)
  have hgroup : (if d.small > 0 then writePreseedLvmGroup d.device else []).flatMap
      (words Char.isWhitespace) = (if d.small > 0 then
        [(lvmGroupWords d.device, lvmGroupEntry d.device)] else []).flatMap
          fun c => c.1 ++ [['.']] := by
    split_ifs
    · rw [words_writePreseedLvmGroup hd, List.flatMap_singleton]
    · rfl
  unfold DiskDevRow.recipe
  rw [words_append_of_head hlast.head, words_flatten hheads, words_recipeLine, hname,
    hdot, DiskDevRow.bodies, List.flatMap_append, List.append_assoc, List.append_assoc,
    words_recipeBodies d.small hne h, DiskDevRow.chunks, List.flatMap_append, hgroup,
    List.flatMap_map]
  simp only [List.cons_append, List.nil_append]

/-- The recipe is read as the partitions it was written from, in their order. -/
theorem readRecipe_recipe (hd : DiskWord d.device) (h : ∀ p ∈ part, p.Clean) (hne : part ≠ []) :
    Recipe.readRecipe (d.recipe part) = some ("monkey".toList, d.entries part) := by
  have hread : ∀ c ∈ d.chunks part, Recipe.readEntry c.1 = some c.2 := by
    refine List.forall_mem_append.mpr ⟨?_, List.forall_mem_map.mpr fun p hp =>
      readEntry_recipeWords (h p hp) d.small⟩
    split_ifs
    · exact List.forall_mem_singleton.mpr (readEntry_lvmGroupWords hd)
    · nofun
  have hdot : ∀ c ∈ d.chunks part, ['.'] ∉ c.1 := by
    refine List.forall_mem_append.mpr ⟨?_, List.forall_mem_map.mpr fun p hp =>
      dot_notMem_recipeWords (h p hp) d.small⟩
    split_ifs
    · exact List.forall_mem_singleton.mpr (dot_notMem_lvmGroupWords hd)
    · nofun
  have hentries : (d.chunks part).map Prod.snd = d.entries part := by
    rw [DiskDevRow.chunks, DiskDevRow.entries, List.map_append, List.map_map]
    split_ifs <;> rfl
  rw [Recipe.readRecipe_of_words (words_recipe hd h hne) hread hdot, hentries]

/-! ## The answers -/

/-- The question and the type are words. -/
theorem clean_di {question type : String} (value : CStr)
    (hquestion : IsWord Char.isWhitespace question.toList)
    (htype : IsWord Char.isWhitespace type.toList) : (di question type value).Clean where
  owner := ⟨by simp [di], by simp [di]⟩
  not_comment := by simp [di]
  question := hquestion
  type := htype

theorem readAnswer_di {question type : String} (value : CStr)
    (hquestion : IsWord Char.isWhitespace question.toList)
    (htype : IsWord Char.isWhitespace type.toList) :
    readAnswer ((di question type value).line ' ') = some (di question type value) :=
  (clean_di value hquestion htype).readAnswer_line rfl

/-- The name of the recipe and the lines that go on are read as one line with the next. -/
theorem readFrom_continuedRecipe (bodies : List CStr) (l : CStr) (ls : List Line) :
    readFrom [] ([.plain [], .continued "d-i partman-auto/expert_recipe string ".toList,
      .continued "      monkey :: ".toList] ++ (bodies.map .continued ++ .plain l :: ls)) =
      di "partman-auto/expert_recipe" "string" ("      monkey :: ".toList ++ bodies.flatten ++ l) ::
        readFrom [] ls := by
  have hline : ∀ value, "d-i partman-auto/expert_recipe string ".toList ++ value =
      (di "partman-auto/expert_recipe" "string" value).line ' ' := by
    simp [di, Answer.line, Answer.bare]
  have hread : ∀ value, readAnswer ((di "partman-auto/expert_recipe" "string" value).line ' ') =
      some (di "partman-auto/expert_recipe" "string" value) := fun value =>
    readAnswer_di value ⟨by simp, by simp⟩ ⟨by simp, by simp⟩
  simp only [List.cons_append, List.nil_append, readFrom, readAnswer_nil, Option.toList_none,
    readFrom_continued, List.append_assoc]
  rw [hline, hread]
  rfl

/-- The lines of `write_preseed_partitions`. -/
theorem writePreseedPartitions_eq (d : DiskDevRow) (ds : List DiskDevRow)
    (part : List AilsaPartition) : writePreseedPartitions (d :: ds) part =
      .ok ([.plain [], .continued "d-i partman-auto/expert_recipe string ".toList,
        .continued "      monkey :: ".toList] ++ ((d.bodies part).map .continued ++
          (recipeEnd part ++ [diLine "grub-installer/only_debian" "boolean" "true".toList,
            diLine "grub-installer/bootdev" "string" d.device]))) := by
  have hgroup : (if d.small > 0 then writePreseedLvmGroup d.device else []).map Line.continued =
      if d.small > 0 then (writePreseedLvmGroup d.device).map Line.continued else [] := by
    split_ifs <;> rfl
  rw [writePreseedPartitions, preseedPartitions_eq, DiskDevRow.bodies, List.map_append, hgroup]
  simp only [List.append_assoc]

theorem readFrom_diLine {question type : String} (value : CStr)
    (hquestion : IsWord Char.isWhitespace question.toList)
    (htype : IsWord Char.isWhitespace type.toList) (ls : List Line) :
    readFrom [] (diLine question type value :: ls) =
      di question type value :: readFrom [] ls := by
  rw [diLine, readFrom, List.nil_append, readAnswer_di value hquestion htype]
  rfl

theorem clean_diLine {question type : String} {value : CStr}
    (hquestion : IsWord Char.isWhitespace question.toList)
    (htype : IsWord Char.isWhitespace type.toList) (hvalue : OneLine value) :
    (diLine question type value).Clean :=
  (clean_di value hquestion htype).clean_line (.inl rfl) hvalue

/-- The lines of the recipe are one answer, and the two answers that follow are read. -/
theorem readFrom_writePreseedPartitions (hne : part ≠ []) {ls : List Line}
    (hls : writePreseedPartitions (d :: ds) part = .ok ls) :
    readFrom [] ls = [di "partman-auto/expert_recipe" "string" (d.recipe part),
      di "grub-installer/only_debian" "boolean" "true".toList,
      di "grub-installer/bootdev" "string" d.device] := by
  rw [writePreseedPartitions_eq, recipeEnd, if_pos hne] at hls
  obtain rfl := Except.ok.inj hls
  refine (readFrom_continuedRecipe (d.bodies part) (recipeLine 14 ".".toList) (.plain [] ::
    [diLine "grub-installer/only_debian" "boolean" "true".toList,
      diLine "grub-installer/bootdev" "string" d.device])).trans ?_
  rw [readFrom, List.nil_append, readAnswer_nil, Option.toList_none, List.nil_append,
    readFrom_diLine _ ⟨by simp, by simp⟩ ⟨by simp, by simp⟩,
    readFrom_diLine _ ⟨by simp, by simp⟩ ⟨by simp, by simp⟩]
  rfl

/-- Without a partition the recipe takes in the line after it. -/
theorem readFrom_writePreseedPartitions_nil {ls : List Line}
    (hls : writePreseedPartitions (d :: ds) [] = .ok ls) :
    readFrom [] ls = [di "partman-auto/expert_recipe" "string" ("      monkey :: ".toList ++
        (d.bodies []).flatten ++
          (di "grub-installer/only_debian" "boolean" "true".toList).line ' '),
      di "grub-installer/bootdev" "string" d.device] := by
  rw [writePreseedPartitions_eq, recipeEnd, if_neg (not_not.mpr rfl), List.nil_append] at hls
  obtain rfl := Except.ok.inj hls
  rw [diLine, readFrom_continuedRecipe, readFrom_diLine _ ⟨by simp, by simp⟩ ⟨by simp, by simp⟩]
  rfl

theorem clean_continued_lit :
    (Line.continued "d-i partman-auto/expert_recipe string ".toList).Clean ∧
    (Line.continued "      monkey :: ".toList).Clean := by
  simp [Line.Clean, Line.body, OneLine]

/-- The lines are lines of a file of answers. -/
theorem clean_writePreseedPartitions (hd : DiskWord d.device) (h : ∀ p ∈ part, p.Clean)
    {ls : List Line} (hls : writePreseedPartitions (d :: ds) part = .ok ls) :
    ∀ l ∈ ls, l.Clean := by
  have hempty : (Line.plain []).Clean := by simp [Line.Clean, Line.body, OneLine]
  have hbodies : ∀ l ∈ (d.bodies part).map Line.continued, l.Clean :=
    List.forall_mem_map.mpr fun l hl => (recipeBody_bodies hd h l hl).clean
  have hdot : (Line.plain (recipeLine 14 ".".toList)).Clean :=
    (recipeBody_recipeLine (by simp) (by simp) (by simp)).clean
  have hend : ∀ l ∈ recipeEnd part, l.Clean := by
    rw [recipeEnd]
    split_ifs
    · exact List.forall_mem_cons.mpr ⟨hdot, List.forall_mem_singleton.mpr hempty⟩
    · exact List.forall_mem_nil _
  have honly : (diLine "grub-installer/only_debian" "boolean" "true".toList).Clean :=
    clean_diLine ⟨by simp, by simp⟩ ⟨by simp, by simp⟩ ⟨by simp, by simp⟩
  have hboot : (diLine "grub-installer/bootdev" "string" d.device).Clean :=
    clean_diLine ⟨by simp, by simp⟩ ⟨by simp, by simp⟩ ⟨hd.newline_notMem, hd.not_continued⟩
  rw [writePreseedPartitions_eq] at hls
  obtain rfl := Except.ok.inj hls
  simp only [List.forall_mem_append, List.forall_mem_cons]
  exact ⟨⟨hempty, clean_continued_lit.1, clean_continued_lit.2, List.forall_mem_nil _⟩, hbodies,
    hend, honly, hboot, List.forall_mem_nil _⟩

/-- A root partition and swap space on volumes. -/
def rootAndSwap : List AilsaPartition :=
  [⟨500, 10000, 1000, "/".toList, "ext4".toList, "root".toList⟩,
    ⟨512, 1024, 300, "swap".toList, "swap".toList, "swap".toList⟩]

theorem clean_rootAndSwap : DiskWord "/dev/sda".toList ∧ ∀ p ∈ rootAndSwap, p.Clean := by
  have hroot : (rootAndSwap.head (by decide)).Clean := ⟨DiskWord.ofChars (by decide),
    DiskWord.ofChars (by decide), DiskWord.ofChars (by decide)⟩
  have hswap : DiskWord "swap".toList := DiskWord.ofChars (by decide)
  exact ⟨DiskWord.ofChars (by decide), List.forall_mem_cons.mpr
    ⟨hroot, List.forall_mem_singleton.mpr ⟨hswap, hswap, hswap⟩⟩⟩

theorem words_kickstartPartition (h : p.Clean) (lvm : ℤ) :
    words Char.isWhitespace (kickstartPartition lvm p) = if lvm > 0 then
      ["logvol".toList, p.mount, "--fstype".toList ++ '=' :: '"' :: (p.fs ++ ['"']),
        "--name".toList ++ '=' :: p.logvol, "--vgname=system_vg".toList,
        "--size".toList ++ '=' :: numText p.min]
    else ["part".toList, p.mount, "--fstype".toList ++ '=' :: '"' :: (p.fs ++ ['"']),
      "--size".toList ++ '=' :: numText p.min] := by
  have hlit : ∀ {l t : CStr}, l ≠ [] ∧ (∀ c ∈ l, c.isWhitespace = false) →
      (∀ c ∈ t, c.isWhitespace = false) → IsWord Char.isWhitespace (l ++ t) :=
    fun hl ht => IsWord.append ⟨hl.1, hl.2⟩ ht
  have hfs : IsWord Char.isWhitespace ("--fstype".toList ++ '=' :: '"' :: (p.fs ++ ['"'])) :=
    hlit (by simp) (by simpa [or_imp, forall_and] using h.fs.isWord.chars)
  have hname : IsWord Char.isWhitespace ("--name".toList ++ '=' :: p.logvol) :=
    hlit (by simp) (by simpa using h.logvol.isWord.chars)
  have hsize : IsWord Char.isWhitespace ("--size".toList ++ '=' :: numText p.min) :=
    hlit (by simp) (by simpa using (isWord_numText p.min).chars)
  have hcommand : IsWord Char.isWhitespace "logvol".toList ∧
      IsWord Char.isWhitespace "part".toList ∧
      IsWord Char.isWhitespace "--vgname=system_vg".toList :=
    ⟨⟨by simp, by simp⟩, ⟨by simp, by simp⟩, ⟨by simp, by simp⟩⟩
  unfold kickstartPartition
  split_ifs
  · rw [← words_intercalate (b := ' ') rfl (List.forall_mem_cons.mpr ⟨hcommand.1,
      List.forall_mem_cons.mpr ⟨h.mount.isWord, List.forall_mem_cons.mpr ⟨hfs,
        List.forall_mem_cons.mpr ⟨hname, List.forall_mem_cons.mpr ⟨hcommand.2.2,
          List.forall_mem_singleton.mpr hsize⟩⟩⟩⟩⟩)]
    simp [List.intercalate]
  · rw [← words_intercalate (b := ' ') rfl (List.forall_mem_cons.mpr ⟨hcommand.2.1,
      List.forall_mem_cons.mpr ⟨h.mount.isWord, List.forall_mem_cons.mpr ⟨hfs,
        List.forall_mem_singleton.mpr hsize⟩⟩⟩)]
    simp [List.intercalate]

/-- A partition as it is read from its command. -/
def AilsaPartition.command (p : AilsaPartition) (lvm : ℤ) : Kickstart.Partition where
  mount := p.mount
  fs := p.fs
  size := p.min
  volume := if lvm > 0 then some p.logvol else none

theorem readPartition_kickstartPartition (h : p.Clean) (lvm : ℤ) :
    Kickstart.readPartition (words Char.isWhitespace (kickstartPartition lvm p)) =
      some (p.command lvm) := by
  have hsize : '"' ∉ numText p.min := by
    intro hmem
    exact absurd (Nat.isDigit_of_mem_toDigits (by decide) (by decide) hmem) (by decide)
  rw [words_kickstartPartition h, AilsaPartition.command]
  have hfs := fun args => Kickstart.optionOf_cons_quoted h.fs.quote_notMem "--fstype".toList args
  have hname := fun args => Kickstart.optionOf_cons_self h.logvol.quote_notMem "--name".toList args
  have hmin := Kickstart.optionOf_cons_self hsize "--size".toList []
  have hread : readNat (numText p.min) = some p.min := readNat_toDigits p.min
  -- the options before the one that is looked for
  have hskip : ∀ key w args, (key ++ ['=']).isPrefixOf w = false →
      Kickstart.optionOf key (w :: args) = Kickstart.optionOf key args := by
    intro key w args hkey
    rw [Kickstart.optionOf_cons, hkey, if_neg Bool.false_ne_true]
  split_ifs
  · simp only [Kickstart.readPartition, hfs]
    rw [hskip "--size".toList _ _ rfl, hskip "--size".toList _ _ rfl,
      hskip "--size".toList _ _ rfl, hmin, hskip "--name".toList _ _ rfl, hname]
    simp [hread]
  · simp only [Kickstart.readPartition, hfs]
    rw [hskip "--size".toList _ _ rfl, hmin, hskip "--name".toList _ _ rfl,
      hskip "--name".toList _ _ rfl, Kickstart.optionOf_nil]
    simp [hread]

/-- The text of lines. -/
def linesText (ls : List CStr) : CStr := ls.flatMap (· ++ ['\n'])

/-- The partition that is made under the volumes. -/
def bootCommand : Kickstart.Partition := ⟨"/boot".toList, "ext3".toList, 512, none⟩

theorem kickstartPartition_clean (h : p.Clean) (lvm : ℤ) :
    '\n' ∉ kickstartPartition lvm p ∧ (kickstartPartition lvm p).head? ≠ some '%' := by
  unfold kickstartPartition
  split_ifs <;>
  simp [newline_notMem_numText, h.fs.newline_notMem, h.mount.newline_notMem,
    h.logvol.newline_notMem]

/-- A line before the first section of a file. -/
def CommandLine (l : CStr) : Prop := '\n' ∉ l ∧ l.head? ≠ some '%'

theorem kickstartDisk_clean (h : DiskWord s) :
    ∀ l ∈ kickstartDisk s, CommandLine l ∧
      Kickstart.readPartition (words Char.isWhitespace l) = none := by
  have hnewline : '\n' ∉ "bootloader --location=mbr --driveorder=".toList ++ s := by
    simp [h.newline_notMem]
  have hboot : Kickstart.readPartition
      (words Char.isWhitespace ("bootloader --location=mbr --driveorder=".toList ++ s)) = none := by
    have htext : "bootloader --location=mbr --driveorder=".toList =
        "bootloader".toList ++ " --location=mbr --driveorder=".toList := by decide
    rw [htext, List.append_assoc]
    exact Kickstart.readPartition_of_ne (IsWord.ofList rfl rfl) (by simp) (by simp) (by simp)
  simp only [kickstartDisk, List.forall_mem_cons]
  exact ⟨⟨⟨by simp, by simp⟩, rfl⟩, ⟨⟨by simp, by simp⟩, by decide⟩,
    ⟨⟨hnewline, by simp⟩, hboot⟩, ⟨⟨by simp, by simp⟩, by decide⟩, nofun⟩

theorem kickstartVolumes_clean : (∀ l ∈ kickstartVolumes, CommandLine l) ∧
    kickstartVolumes.filterMap (fun l => Kickstart.readPartition (words Char.isWhitespace l)) =
      [bootCommand] :=
  ⟨by simp [kickstartVolumes, CommandLine], by decide⟩

/-- There are commands if there are partitions. -/
theorem cbcWriteKickstartPartitions_eq {ls : List CStr}
    (hls : cbcWriteKickstartPartitions (d :: ds) part = .ok ls) :
    ls = kickstartDisk d.device ++ (if d.small > 0 then kickstartVolumes else []) ++
      part.map (kickstartPartition d.small) ++ [[]] := by
  cases part with
  | nil => nomatch hls
  | cons p part => exact (Except.ok.inj hls).symm

theorem commandLine_cbcWriteKickstartPartitions (hd : DiskWord d.device)
    (h : ∀ p ∈ part, p.Clean) {ls : List CStr}
    (hls : cbcWriteKickstartPartitions (d :: ds) part = .ok ls) : ∀ l ∈ ls, CommandLine l := by
  have hvolumes : ∀ l ∈ if d.small > 0 then kickstartVolumes else [], CommandLine l := by
    split_ifs
    · exact kickstartVolumes_clean.1
    · nofun
  rw [cbcWriteKickstartPartitions_eq hls]
  simp only [List.forall_mem_append, List.forall_mem_map, List.forall_mem_singleton]
  exact ⟨⟨⟨fun l hl => (kickstartDisk_clean hd l hl).1, hvolumes⟩,
    fun p hp => kickstartPartition_clean (h p hp) d.small⟩, by simp, by simp⟩

theorem filterMap_cbcWriteKickstartPartitions (hd : DiskWord d.device)
    (h : ∀ p ∈ part, p.Clean) {ls : List CStr}
    (hls : cbcWriteKickstartPartitions (d :: ds) part = .ok ls) :
    ls.filterMap (fun l => Kickstart.readPartition (words Char.isWhitespace l)) =
      (if d.small > 0 then [bootCommand] else []) ++ part.map fun p => p.command d.small := by
  have hdisk : (kickstartDisk d.device).filterMap
      (fun l => Kickstart.readPartition (words Char.isWhitespace l)) = [] :=
    List.filterMap_eq_nil_iff.mpr fun l hl => (kickstartDisk_clean hd l hl).2
  have hpart : (part.map (kickstartPartition d.small)).filterMap
      (fun l => Kickstart.readPartition (words Char.isWhitespace l)) =
        part.map fun p => p.command d.small := by
    rw [List.filterMap_map, ← List.filterMap_eq_map]
    exact List.filterMap_congr fun p hp => readPartition_kickstartPartition (h p hp) d.small
  have hempty : [[]].filterMap
      (fun l => Kickstart.readPartition (words Char.isWhitespace l)) = [] := rfl
  rw [cbcWriteKickstartPartitions_eq hls, List.filterMap_append, List.filterMap_append,
    List.filterMap_append, hdisk, hpart, hempty, List.append_nil, List.nil_append]
  split_ifs
  · rw [kickstartVolumes_clean.2]
  · rfl

/-- The commands of the section are read as the partitions of the scheme. -/
theorem partitions_cbcWriteKickstartPartitions (hd : DiskWord d.device)
    (h : ∀ p ∈ part, p.Clean) {ls : List CStr}
    (hls : cbcWriteKickstartPartitions (d :: ds) part = .ok ls) :
    Kickstart.partitions ((linesText ls).splitOn '\n') =
      (if d.small > 0 then [bootCommand] else []) ++ part.map fun p => p.command d.small := by
  have hclean := commandLine_cbcWriteKickstartPartitions hd h hls
  have hsplit := splitOn_flatMap_lines (fun l hl => (hclean l hl).1) []
  rw [List.append_nil] at hsplit
  rw [linesText, hsplit, Kickstart.partitions_append fun l hl => (hclean l hl).2,
    filterMap_cbcWriteKickstartPartitions hd h hls]
  exact List.append_nil _

/-! ## The plan of both installers -/

/-- A partition as an installer plans it. -/
structure Planned where
  mount : CStr
  fs : CStr
  volume : Option CStr
deriving DecidableEq, Repr

/-- The partition that is planned for an entry of a recipe : the one of the group of volumes is
not mounted, and swap space is mounted as such. -/
def plannedEntry (e : Recipe.Entry) : Option Planned :=
  match e.value "method".toList with
  | some [m] =>
    if m = "swap".toList then
      some ⟨"swap".toList, e.fs, (e.value "lv_name".toList).bind List.head?⟩
    else if m = "format".toList then
      ((e.value "mountpoint".toList).bind List.head?).map fun mount =>
        ⟨mount, e.fs, (e.value "lv_name".toList).bind List.head?⟩
    else none
  | _ => none

/-- The partitions that the installer of Debian plans. -/
def preseedPlan (s : CStr) : List Planned :=
  (values "partman-auto/expert_recipe".toList (answers s)).flatMap fun v =>
    match Recipe.readRecipe v with
    | some (_, entries) => entries.filterMap plannedEntry
    | none => []

/-- The partitions that kickstart plans. -/
def kickstartPlan (s : CStr) : List Planned :=
  (Kickstart.partitions (s.splitOn '\n')).map fun c => ⟨c.mount, c.fs, c.volume⟩

/-- The partition as it is planned for Debian. -/
def AilsaPartition.preseed (p : AilsaPartition) (lvm : ℤ) : Planned :=
  ⟨if p.IsSwap then "swap".toList else p.mount, p.fs, if lvm > 0 then some p.logvol else none⟩

/-- The partition as it is planned for kickstart. -/
def AilsaPartition.kickstart (p : AilsaPartition) (lvm : ℤ) : Planned :=
  ⟨p.mount, p.fs, if lvm > 0 then some p.logvol else none⟩

theorem kickstart_eq_preseed_iff (p : AilsaPartition) (lvm : ℤ) :
    p.kickstart lvm = p.preseed lvm ↔ (p.IsSwap → p.mount = "swap".toList) := by
  rw [AilsaPartition.kickstart, AilsaPartition.preseed, Planned.mk.injEq]
  by_cases hswap : p.IsSwap
  · simp only [hswap, if_true, and_true, forall_const]
  · simp only [hswap, if_false, and_true, IsEmpty.forall_iff]

theorem plannedEntry_entry (p : AilsaPartition) (lvm : ℤ) :
    plannedEntry (p.entry lvm) = some (p.preseed lvm) := by
  unfold AilsaPartition.entry AilsaPartition.preseed
  split_ifs <;> rfl

theorem filterMap_plannedEntry (d : DiskDevRow) (part : List AilsaPartition) :
    (d.entries part).filterMap plannedEntry = part.map fun p => p.preseed d.small := by
  have hgroup : (if d.small > 0 then [lvmGroupEntry d.device] else []).filterMap plannedEntry =
      [] := by
    split_ifs <;> rfl
  rw [DiskDevRow.entries, List.filterMap_append, hgroup, List.nil_append, List.filterMap_map,
    ← List.filterMap_eq_map]
  exact List.filterMap_congr fun p _ => plannedEntry_entry p d.small

/-- The recipe is planned as the partitions of the scheme. -/
theorem preseedPlan_writePreseedPartitions (hd : DiskWord d.device) (h : ∀ p ∈ part, p.Clean)
    (hne : part ≠ []) {ls : List Line} (hls : writePreseedPartitions (d :: ds) part = .ok ls) :
    preseedPlan (ls.flatMap Line.text) = part.map fun p => p.preseed d.small := by
  have hvalues : ∀ v, values "partman-auto/expert_recipe".toList
      [di "partman-auto/expert_recipe" "string" v,
        di "grub-installer/only_debian" "boolean" "true".toList,
        di "grub-installer/bootdev" "string" d.device] = [v] := fun v => by simp [values, di]
  rw [preseedPlan, answers_text (clean_writePreseedPartitions hd h hls),
    readFrom_writePreseedPartitions hne hls, hvalues, List.flatMap_singleton,
    readRecipe_recipe hd h hne]
  exact filterMap_plannedEntry d part

theorem kickstartPlan_cbcWriteKickstartPartitions (hd : DiskWord d.device)
    (h : ∀ p ∈ part, p.Clean) {ls : List CStr}
    (hls : cbcWriteKickstartPartitions (d :: ds) part = .ok ls) :
    kickstartPlan (linesText ls) =
      (if d.small > 0 then [⟨"/boot".toList, "ext3".toList, none⟩] else []) ++
        part.map fun p => p.kickstart d.small := by
  rw [kickstartPlan, partitions_cbcWriteKickstartPartitions hd h hls, List.map_append,
    List.map_map]
  congr 1
  split_ifs <;> rfl

/-- The same partitions are planned if what has a file system of swap is mounted as swap. -/
theorem plans_eq_iff (d : DiskDevRow) (ds : List DiskDevRow) (hd : DiskWord d.device)
    (h : ∀ p ∈ part, p.Clean) (hne : part ≠ []) :
    ∃ ls ks, writePreseedPartitions (d :: ds) part = .ok ls ∧
      cbcWriteKickstartPartitions (d :: ds) part = .ok ks ∧
      (kickstartPlan (linesText ks) =
        (if d.small > 0 then [⟨"/boot".toList, "ext3".toList, none⟩] else []) ++
          preseedPlan (ls.flatMap Line.text) ↔
      ∀ p ∈ part, p.IsSwap → p.mount = "swap".toList) := by
  obtain ⟨ks, hks⟩ : ∃ ks, cbcWriteKickstartPartitions (d :: ds) part = .ok ks := by
    obtain ⟨p, part, rfl⟩ := List.exists_cons_of_ne_nil hne
    exact ⟨_, rfl⟩
  have hls := writePreseedPartitions_eq d ds part
  refine ⟨_, ks, hls, hks, ?_⟩
  rw [kickstartPlan_cbcWriteKickstartPartitions hd h hks,
    preseedPlan_writePreseedPartitions hd h hne hls, List.append_cancel_left_eq, List.map_inj_left]
  exact forall₂_congr fun p _ => kickstart_eq_preseed_iff p d.small

theorem plans_eq_iff_rootAndSwap :
    ∃ ls ks, writePreseedPartitions [⟨"/dev/sda".toList, 1⟩] rootAndSwap = .ok ls ∧
      cbcWriteKickstartPartitions [⟨"/dev/sda".toList, 1⟩] rootAndSwap = .ok ks ∧
      (kickstartPlan (linesText ks) =
        (if DiskDevRow.small ⟨"/dev/sda".toList, 1⟩ > 0 then
          [⟨"/boot".toList, "ext3".toList, none⟩] else []) ++ preseedPlan (ls.flatMap Line.text) ↔
      ∀ p ∈ rootAndSwap, p.IsSwap → p.mount = "swap".toList) :=
  plans_eq_iff ⟨"/dev/sda".toList, 1⟩ [] clean_rootAndSwap.1 clean_rootAndSwap.2 (by decide)

end Cmdb
