import Mathlib.Data.List.Perm.Basic
import Mathlib.Logic.Function.Basic
import Cmdb.Ailsa
import Cmdb.CString
import Cmdb.LinePieces
import Cmdb.Mknet

/-!
# The configuration files

`parse_cmdb_config` reads the system file and then the user file. For each option it goes
through the whole file with `fgets` and tries `sscanf` with the key of the option on each
piece. A piece is no line : from the 255th character on a line comes in further pieces, and
what such a piece begins with is read as if it were at the start of a line. A word that
does not end in the piece is cut, and a value without a word leaves what an earlier line gave.

At the end `strchr` looks for an `@` in `hostmaster`, before the test that it is there.
-/

namespace Cmdb

open CString LinePieces

/-! ## The code -/

/-- The text options of `ailsa_cmdb_s`, in the order in which they are read. -/
inductive CmdbText
  | tmpdir | toplevelos | pxe | dbtype | db | file | user | pass | host | dir | bind | dnsa
  | rev | rndc | chkz | chkc | socket | hostmaster | prins | secns | pridns | secdns
  | tftpdir | dhcpconf
deriving DecidableEq, Repr

/-- The number options of `ailsa_cmdb_s`. -/
inductive CmdbNumber
  | port | refresh | retry | expire | ttl | cliflag
deriving DecidableEq, Repr

/-- What stands before the `%s` in the format of the option. -/
def CmdbText.key : CmdbText → CStr
  | .tmpdir => "TMPDIR=".toList
  | .toplevelos => "TOPLEVELOS=".toList
  | .pxe => "PXE=".toList
  | .dbtype => "DBTYPE=".toList
  | .db => "DB=".toList
  | .file => "FILE=".toList
  | .user => "USER=".toList
  | .pass => "PASS=".toList
  | .host => "HOST=".toList
  | .dir => "DIR=".toList
  | .bind => "BIND=".toList
  | .dnsa => "DNSA=".toList
  | .rev => "REV=".toList
  | .rndc => "RNDC=".toList
  | .chkz => "CHKZ=".toList
  | .chkc => "CHKC=".toList
  | .socket => "SOCKET=".toList
  | .hostmaster => "HOSTMASTER=".toList
  | .prins => "PRINS=".toList
  | .secns => "SECNS=".toList
  | .pridns => "PRIDNS=".toList
  | .secdns => "SECDNS=".toList
  | .tftpdir => "TFTPDIR=".toList
  | .dhcpconf => "DHCPCONF=".toList

/-- What stands before the `%u` or `%lu`. -/
def CmdbNumber.key : CmdbNumber → CStr
  | .port => "PORT=".toList
  | .refresh => "REFRESH=".toList
  | .retry => "RETRY=".toList
  | .expire => "EXPIRE=".toList
  | .ttl => "TTL=".toList
  | .cliflag => "CLIFLAG=".toList

/-- `port` is an `unsigned int`, the others are `unsigned long`. -/
def CmdbNumber.width : CmdbNumber → ℕ
  | .port => 32
  | _ => 64

def cmdbTexts : List CmdbText :=
  [.tmpdir, .toplevelos, .pxe, .dbtype, .db, .file, .user, .pass, .host, .dir, .bind, .dnsa,
    .rev, .rndc, .chkz, .chkc, .socket, .hostmaster, .prins, .secns, .pridns, .secdns,
    .tftpdir, .dhcpconf]

def cmdbNumbers : List CmdbNumber := [.port, .refresh, .retry, .expire, .ttl, .cliflag]

/-- The options that get a trailing slash, in the order in which they get it. -/
def slashTexts : List CmdbText :=
  [.dir, .pxe, .bind, .tmpdir, .tftpdir, .toplevelos, .dhcpconf]

/-- The options of `ailsa_cmdb_s`. -/
structure CmdbOptions where
  text : CmdbText → Option CStr
  number : (o : CmdbNumber) → BitVec o.width

/-- How a reader of the configuration ends the program. -/
inductive ConfigStop
  | exit
  | segv
deriving DecidableEq, Repr

/-- What `%s` takes : the white space before it is skipped, and it ends before the next white
space or the `NUL`. -/
def scanWord (s : CStr) : Option CStr :=
  let word := (s.dropWhile isSpace).takeWhile fun c => !isSpace c && c ≠ '\x00'
  if word = [] then none else some word

/-- What `%lu` takes : nothing unless a digit follows the sign. -/
def scanNumber (s : CStr) : Option (BitVec 64) :=
  match (strtoulSign (s.dropWhile isSpace)).2 with
  | c :: _ => if c.isDigit then some (strtoul10 s) else none
  | [] => none

/-- `sscanf` with a key and one conversion. -/
def sscanf {β : Type} (key : CStr) (scan : CStr → Option β) (buff : CStr) : Option β :=
  if key <+: buff then scan (buff.drop key.length) else none

def CmdbText.sscanf (o : CmdbText) : CStr → Option CStr := Cmdb.sscanf o.key scanWord

def CmdbNumber.sscanf (o : CmdbNumber) : CStr → Option (BitVec 64) := Cmdb.sscanf o.key scanNumber

/-- `while (fgets(buff, CONFIG_LEN, conf))`. -/
def configPieces (conf : CStr) : List CStr := fgetsLoop '\n' (configLen - 1) conf

def CmdbOptions.withText (cmdb : CmdbOptions) (o : CmdbText) (s : CStr) : CmdbOptions :=
  { cmdb with text := Function.update cmdb.text o (some s) }

/-- `GET_CONFIG_OPTION`. -/
def getConfigOption (conf : CStr) (cmdb : CmdbOptions) (option : CmdbText) : CmdbOptions :=
  let temp := (configPieces conf).foldl (fun temp buff => (option.sscanf buff).getD temp) []
  if temp = [] then cmdb else cmdb.withText option (snprintf configLen temp)

/-- `GET_CONFIG_INT`. -/
def getConfigInt (conf : CStr) (cmdb : CmdbOptions) (option : CmdbNumber) : CmdbOptions :=
  let v := (configPieces conf).foldl
    (fun v buff => ((option.sscanf buff).map (·.setWidth option.width)).getD v) (cmdb.number option)
  { cmdb with number := Function.update cmdb.number option v }

/-- `ailsa_add_trailing_dot`. No text that is read here is too long for the dot. -/
def ailsaAddTrailingDot (member : CStr) : CStr :=
  if 254 < member.length then member
  else if member.getLast? ≠ some '.' then member ++ ['.']
  else member

/-- `ailsa_add_trailing_slash`. -/
def ailsaAddTrailingSlash (member : CStr) : CStr :=
  if member.getLast? ≠ some '/' ∧ member.length < 254 then member ++ ['/'] else member

/-- `if (cmdb->dir) ailsa_add_trailing_slash(cmdb->dir)`. -/
def CmdbOptions.addSlash (cmdb : CmdbOptions) (o : CmdbText) : CmdbOptions :=
  match cmdb.text o with
  | none => cmdb
  | some member => cmdb.withText o (ailsaAddTrailingSlash member)

/-- The first `@` becomes a dot. -/
def atToDot (hostmaster : CStr) : CStr :=
  match strchr hostmaster '@' with
  | some tmp => hostmaster.set tmp '.'
  | none => hostmaster

/-- `parse_cmdb_config_values`. `strchr` is called on a `hostmaster` that may be `NULL`. -/
def parseCmdbConfigValues (cmdb : CmdbOptions) (conf : CStr) : Except ConfigStop CmdbOptions :=
  let cmdb := cmdbTexts.foldl (getConfigOption conf) cmdb
  let cmdb := cmdbNumbers.foldl (getConfigInt conf) cmdb
  match cmdb.text .hostmaster with
  | none => .error .segv
  | some hostmaster =>
    let cmdb := cmdb.withText .hostmaster (ailsaAddTrailingDot (atToDot hostmaster))
    .ok (slashTexts.foldl CmdbOptions.addSlash cmdb)

/-- The part of `parse_cmdb_config` before the files. -/
def setDefaults (localstatedir : CStr) (cmdb : CmdbOptions) : CmdbOptions :=
  (((cmdb.withText .toplevelos (snprintf configLen (localstatedir ++ "/lib/cmdb".toList))).withText
    .tmpdir (snprintf configLen (localstatedir ++ "/lib/cmdb/tmp".toList))).withText
    .file (snprintf configLen (localstatedir ++ "/lib/cmdb/sql/cmdb.sql".toList))).withText
    .pxe "pxelinux.cfg".toList

/-- `parse_system_cmdb_config`. -/
def parseSystemCmdbConfig (cmdb : CmdbOptions) : Option CStr → Except ConfigStop CmdbOptions
  | none => .error .exit
  | some conf => parseCmdbConfigValues cmdb conf

/-- `parse_user_cmdb_config`. A file that is not there or is empty is left out. -/
def parseUserCmdbConfig (cmdb : CmdbOptions) : Option CStr → Except ConfigStop CmdbOptions
  | some (c :: conf) => parseCmdbConfigValues cmdb (c :: conf)
  | _ => .ok cmdb

/-- `parse_cmdb_config`, with what can be read of the two files. -/
def parseCmdbConfig (localstatedir : CStr) (cmdb : CmdbOptions) (system user : Option CStr) :
    Except ConfigStop CmdbOptions := do
  let cmdb ← parseSystemCmdbConfig (setDefaults localstatedir cmdb) system
  parseUserCmdbConfig cmdb user

variable {conf system localstatedir : CStr} {user : Option CStr} {cmdb cmdb' : CmdbOptions}
  {o : CmdbText} {n : ℕ}

/-! ## One option -/

theorem foldl_getD {α β : Type} (f : α → Option β) : ∀ (l : List α) (b : β),
    l.foldl (fun b a => (f a).getD b) b = (l.filterMap f).getLast?.getD b
  | [], _ => rfl
  | a :: l, b => by
    rw [List.foldl_cons, foldl_getD f l]
    cases h : f a with
    | none => rw [List.filterMap_cons_none h]; rfl
    | some c =>
      rw [List.filterMap_cons_some h, List.getLast?_cons]
      rfl

theorem scanWord_eq_some {s w : CStr} (h : scanWord s = some w) :
    w ≠ [] ∧ w.length ≤ s.length := by
  simp only [scanWord] at h
  split at h
  · cases h
  · next hne =>
    obtain rfl := Option.some.inj h
    exact ⟨hne, ((List.takeWhile_prefix _).length_le).trans (List.dropWhile_suffix _).length_le⟩

theorem key_prefix_of_sscanf {β : Type} {key p : CStr} {scan : CStr → Option β}
    (h : (sscanf key scan p).isSome) : key <+: p := by
  unfold sscanf at h
  split at h
  · assumption
  · cases h

theorem sscanf_of_prefix {β : Type} {key p : CStr} {scan : CStr → Option β} (h : key <+: p) :
    sscanf key scan p = scan (p.drop key.length) := if_pos h

theorem sscanfText_eq_some {p w : CStr} (h : o.sscanf p = some w) :
    w ≠ [] ∧ w.length ≤ p.length := by
  have hp : o.key <+: p := key_prefix_of_sscanf (Option.isSome_iff_exists.mpr ⟨w, h⟩)
  rw [CmdbText.sscanf, sscanf_of_prefix hp] at h
  obtain ⟨hne, hlen⟩ := scanWord_eq_some h
  exact ⟨hne, hlen.trans (by rw [List.length_drop]; omega)⟩

/-- The word of the last piece of a file that sets the option. -/
def lastWord (conf : CStr) (o : CmdbText) : Option CStr :=
  ((configPieces conf).filterMap o.sscanf).getLast?

theorem lastWord_eq_some {w : CStr} (h : lastWord conf o = some w) :
    w ≠ [] ∧ w.length < configLen := by
  obtain ⟨p, hp, hw⟩ := List.mem_filterMap.mp (List.mem_of_getLast? h)
  obtain ⟨hne, hlen⟩ := sscanfText_eq_some hw
  exact ⟨hne, Nat.lt_of_le_of_lt (hlen.trans (length_le_of_mem_fgetsLoop hp)) (by decide)⟩

@[simp] theorem text_withText (s : CStr) :
    (cmdb.withText o s).text = Function.update cmdb.text o (some s) := rfl

theorem text_getConfigOption : (getConfigOption conf cmdb o).text =
    Function.update cmdb.text o ((lastWord conf o).or (cmdb.text o)) := by
  rw [getConfigOption, foldl_getD, ← lastWord]
  cases h : lastWord conf o with
  | none => simp
  | some w =>
    obtain ⟨hne, hlen⟩ := lastWord_eq_some h
    simp [hne, snprintf_of_length_lt hlen]

/-! ## All the options -/

theorem text_foldl_getConfigOption_of_notMem : ∀ {os : List CmdbText} {cmdb : CmdbOptions},
    o ∉ os → (os.foldl (getConfigOption conf) cmdb).text o = cmdb.text o
  | [], _, _ => rfl
  | a :: os, cmdb, h => by
    rw [List.mem_cons, not_or] at h
    rw [List.foldl_cons, text_foldl_getConfigOption_of_notMem h.2, text_getConfigOption,
      Function.update_of_ne h.1]

theorem text_foldl_getConfigOption : ∀ {os : List CmdbText} {cmdb : CmdbOptions}, os.Nodup →
    o ∈ os → (os.foldl (getConfigOption conf) cmdb).text o = (lastWord conf o).or (cmdb.text o)
  | a :: os, cmdb, hnd, h => by
    rw [List.nodup_cons] at hnd
    rw [List.foldl_cons]
    obtain rfl | hne := eq_or_ne o a
    · rw [text_foldl_getConfigOption_of_notMem hnd.1, text_getConfigOption, Function.update_self]
    · have hmem := (List.mem_cons.mp h).resolve_left hne
      rw [text_foldl_getConfigOption hnd.2 hmem, text_getConfigOption, Function.update_of_ne hne]

theorem mem_cmdbTexts (o : CmdbText) : o ∈ cmdbTexts := by cases o <;> decide

theorem text_foldl_getConfigInt : ∀ (os : List CmdbNumber) (cmdb : CmdbOptions),
    (os.foldl (getConfigInt conf) cmdb).text = cmdb.text
  | [], _ => rfl
  | _ :: os, _ => by rw [List.foldl_cons, text_foldl_getConfigInt os]; rfl

theorem text_addSlash_of_ne {a : CmdbText} (h : o ≠ a) :
    (cmdb.addSlash a).text o = cmdb.text o := by
  rw [CmdbOptions.addSlash]
  split
  · rfl
  · rw [text_withText, Function.update_of_ne h]

theorem text_foldl_addSlash : ∀ {os : List CmdbText} {cmdb : CmdbOptions}, o ∉ os →
    (os.foldl CmdbOptions.addSlash cmdb).text o = cmdb.text o
  | [], _, _ => rfl
  | a :: os, cmdb, h => by
    rw [List.mem_cons, not_or] at h
    rw [List.foldl_cons, text_foldl_addSlash h.2, text_addSlash_of_ne h.1]

/-- The option gets no slash and no dot. -/
def CmdbText.Plain (o : CmdbText) : Prop := o ∉ slashTexts ∧ o ≠ .hostmaster

theorem text_options (o : CmdbText) :
    (cmdbNumbers.foldl (getConfigInt conf) (cmdbTexts.foldl (getConfigOption conf) cmdb)).text o =
      (lastWord conf o).or (cmdb.text o) := by
  rw [text_foldl_getConfigInt, text_foldl_getConfigOption (by decide) (mem_cmdbTexts o)]

theorem parseCmdbConfigValues_eq_segv
    (h : (lastWord conf .hostmaster).or (cmdb.text .hostmaster) = none) :
    parseCmdbConfigValues cmdb conf = .error .segv := by
  simp only [parseCmdbConfigValues, text_options, h]

/-- With a `hostmaster` a file is read to the end, and the plain options are what the last
piece says that sets them. -/
theorem parseCmdbConfigValues_eq_ok
    (h : ((lastWord conf .hostmaster).or (cmdb.text .hostmaster)).isSome) :
    ∃ cmdb', parseCmdbConfigValues cmdb conf = .ok cmdb' ∧ (cmdb'.text .hostmaster).isSome ∧
      ∀ o : CmdbText, o.Plain → cmdb'.text o = (lastWord conf o).or (cmdb.text o) := by
  obtain ⟨hostmaster, hh⟩ := Option.isSome_iff_exists.mp h
  simp only [parseCmdbConfigValues, text_options, hh]
  refine ⟨_, rfl, ?_, fun o ho => ?_⟩
  · rw [text_foldl_addSlash (by decide), text_withText, Function.update_self]
    rfl
  · rw [text_foldl_addSlash ho.1, text_withText, Function.update_of_ne ho.2, text_options]

/-! ## The two files -/

/-- A `hostmaster` is there when the system file is read to its end. -/
def HostmasterGiven (cmdb : CmdbOptions) (system : CStr) : Prop :=
  (cmdb.text .hostmaster).isSome ∨
    ∃ buff ∈ configPieces system, (CmdbText.hostmaster.sscanf buff).isSome

theorem isSome_lastWord :
    (lastWord conf o).isSome ↔ ∃ buff ∈ configPieces conf, (o.sscanf buff).isSome := by
  rw [lastWord, ← Option.ne_none_iff_isSome, ne_eq, List.getLast?_eq_none_iff,
    List.filterMap_eq_nil_iff]
  simp only [not_forall, Option.ne_none_iff_isSome, ← ne_eq, exists_prop]

theorem text_setDefaults_hostmaster :
    (setDefaults localstatedir cmdb).text .hostmaster = cmdb.text .hostmaster := by
  simp [setDefaults]

theorem hostmasterGiven_iff : HostmasterGiven cmdb system ↔ ((lastWord system .hostmaster).or
    ((setDefaults localstatedir cmdb).text .hostmaster)).isSome := by
  rw [text_setDefaults_hostmaster, Option.isSome_or, Bool.or_eq_true, isSome_lastWord,
    HostmasterGiven, or_comm]

theorem parseUserCmdbConfig_eq_ok (h : (cmdb.text .hostmaster).isSome) (user : Option CStr) :
    ∃ cmdb', parseUserCmdbConfig cmdb user = .ok cmdb' ∧
      ∀ o : CmdbText, o.Plain → cmdb'.text o = (lastWord (user.getD []) o).or (cmdb.text o) := by
  match user with
  | none | some [] => exact ⟨cmdb, rfl, fun o _ => rfl⟩
  | some (c :: conf) =>
    have hor : ((lastWord (c :: conf) .hostmaster).or (cmdb.text .hostmaster)).isSome := by
      rw [Option.isSome_or, h, Bool.or_true]
    obtain ⟨cmdb', heq, -, htext⟩ := parseCmdbConfigValues_eq_ok hor
    exact ⟨cmdb', heq, htext⟩

theorem parseCmdbConfig_eq_ok (h : HostmasterGiven cmdb system) :
    ∃ cmdb', parseCmdbConfig localstatedir cmdb (some system) user = .ok cmdb' ∧
      ∀ o : CmdbText, o.Plain → cmdb'.text o = ((lastWord (user.getD []) o).or
        (lastWord system o)).or ((setDefaults localstatedir cmdb).text o) := by
  obtain ⟨cmdb₁, hsys, hhost, htext₁⟩ := parseCmdbConfigValues_eq_ok (hostmasterGiven_iff.mp h)
  obtain ⟨cmdb', huser, htext⟩ := parseUserCmdbConfig_eq_ok hhost user
  refine ⟨cmdb', ?_, fun o ho => ?_⟩
  · rw [parseCmdbConfig, parseSystemCmdbConfig, hsys]
    exact huser
  · rw [htext o ho, htext₁ o ho, Option.or_assoc]

theorem parseCmdbConfig_eq_segv (h : ¬HostmasterGiven cmdb system) :
    parseCmdbConfig localstatedir cmdb (some system) user = .error .segv := by
  rw [hostmasterGiven_iff, Option.not_isSome_iff_eq_none] at h
  rw [parseCmdbConfig, parseSystemCmdbConfig, parseCmdbConfigValues_eq_segv h]
  rfl

/-! ## Lines -/

/-- The last line that begins with the key. -/
def lastKeyLine (key conf : CStr) : Option CStr :=
  ((lines '\n' conf).filter (key <+: ·)).getLast?

/-- The pieces of the system file and of the user file, each with whether it is at the start
of a line. -/
def markedPieces (system user : CStr) : List (Bool × CStr) :=
  marked '\n' true (configPieces system) ++ marked '\n' true (configPieces user)

/-- The lines of the system file and of the user file. -/
def configLines (system user : CStr) : List CStr := lines '\n' system ++ lines '\n' user

/-- No text that is not at the start of a line sets the option that `scan` reads. -/
def SetAtLineStart {β : Type} (scan : CStr → Option β) (system user : CStr) : Prop :=
  ∀ w, lastStore scan (markedPieces system user) ≠ some (false, w)

/-- `v` is the first word of the value on the last line with the key, of the user file or else
of the system file, and the default if neither has one. -/
def HoldsLastLine (key system user : CStr) (default v : Option CStr) : Prop :=
  match (lastKeyLine key user).or (lastKeyLine key system) with
  | some l => ∃ w, scanWord (l.drop key.length) = some w ∧ v = some w
  | none => v = default

/-- What the two files are read for. -/
def ReadsConfig (localstatedir : CStr) (cmdb : CmdbOptions) (system : CStr) (user : Option CStr) :
    Prop :=
  ∃ cmdb', parseCmdbConfig localstatedir cmdb (some system) user = .ok cmdb' ∧
    (∀ o : CmdbText, o.Plain → HoldsLastLine o.key system (user.getD [])
      ((setDefaults localstatedir cmdb).text o) (cmdb'.text o)) ∧
    (∀ o : CmdbText, SetAtLineStart o.sscanf system (user.getD [])) ∧
    ∀ o : CmdbNumber, SetAtLineStart o.sscanf system (user.getD [])

/-- The last word that a line gives in its first 255 characters. -/
def lastHeadWord (o : CmdbText) (ls : List CStr) : Option CStr :=
  (ls.filterMap fun l => o.sscanf (l.take (configLen - 1))).getLast?

/-- The line has a word, and the word ends in the first 255 characters ; or else it is not there
at all, and is what the lines before it or the default give. -/
def WordRead (o : CmdbText) (ls : List CStr) (default : Option CStr) (l : CStr) : Prop :=
  ∃ w, scanWord (l.drop o.key.length) = some w ∧
    (o.sscanf (l.take (configLen - 1)) = some w ∨
      o.sscanf (l.take (configLen - 1)) = none ∧ (lastHeadWord o ls).or default = some w)

theorem markedPieces_eq (system user : CStr) : markedPieces system user =
    (configLines system user).flatMap (markedLine '\n' (configLen - 1)) := by
  rw [markedPieces, configLines, List.flatMap_append, configPieces, configPieces,
    marked_fgetsLoop (by decide) le_rfl, marked_fgetsLoop (by decide) le_rfl]

theorem setAtLineStart_iff {β : Type} {scan : CStr → Option β} {user : CStr} :
    SetAtLineStart scan system user ↔
      Overtaken '\n' (configLen - 1) scan (configLines system user) := by
  rw [SetAtLineStart, markedPieces_eq, lastStore_ne_iff]

theorem lastWord_or {user : CStr} : (lastWord user o).or (lastWord system o) =
    (lastStore o.sscanf (markedPieces system user)).map Prod.snd := by
  rw [map_snd_lastStore, markedPieces, List.map_append, map_snd_marked, map_snd_marked,
    List.filterMap_append, List.getLast?_append]
  rfl

theorem lastWord_or_of_setAtLineStart {user : CStr} (h : SetAtLineStart o.sscanf system user) :
    (lastWord user o).or (lastWord system o) = lastHeadWord o (configLines system user) := by
  rw [lastWord_or, markedPieces_eq]
  rw [SetAtLineStart, markedPieces_eq] at h
  exact map_snd_lastStore_of_ne h

theorem lastKeyLine_or (key system user : CStr) :
    (lastKeyLine key user).or (lastKeyLine key system) =
      ((configLines system user).filter (key <+: ·)).getLast? := by
  rw [configLines, List.filter_append, List.getLast?_append]
  rfl

theorem key_prefix_of_head {l : CStr} (h : (o.sscanf (l.take n)).isSome) : o.key <+: l :=
  (key_prefix_of_sscanf h).trans (List.take_prefix n l)

theorem getLast?_filterMap_of_filter {α β : Type} {f : α → Option β} {q : α → Bool} {l : List α}
    {a : α} {b : β} (hq : ∀ x, (f x).isSome → q x) (hl : (l.filter q).getLast? = some a)
    (ha : f a = some b) : (l.filterMap f).getLast? = some b := by
  have hfilter : l.filterMap f = (l.filter q).filterMap f := by
    rw [List.filterMap_filter]
    refine List.filterMap_congr fun x _ => ?_
    by_cases hx : q x
    · rw [if_pos hx]
    · rw [if_neg hx, ← Option.not_isSome_iff_eq_none]
      exact fun hsome => hx (hq x hsome)
  obtain ⟨ys, hys⟩ := List.getLast?_eq_some_iff.mp hl
  rw [hfilter, hys, List.filterMap_append, List.filterMap_cons_some ha, List.getLast?_append]
  rfl

theorem holdsLastLine_of_eq_none {key user : CStr} {default v : Option CStr}
    (h : (lastKeyLine key user).or (lastKeyLine key system) = none) :
    HoldsLastLine key system user default v ↔ v = default := by
  rw [HoldsLastLine, h]

/-- With the options set by starts of lines only, the claimed value is there exactly if the
word on the last line is read. -/
theorem holdsLastLine_iff {user : CStr} {default : Option CStr} :
    HoldsLastLine o.key system user default
        ((lastHeadWord o (configLines system user)).or default) ↔
      ∀ l, (lastKeyLine o.key user).or (lastKeyLine o.key system) = some l →
        WordRead o (configLines system user) default l := by
  rw [HoldsLastLine]
  cases hl : (lastKeyLine o.key user).or (lastKeyLine o.key system) with
  | none =>
    have hnone : lastHeadWord o (configLines system user) = none := by
      rw [lastKeyLine_or, List.getLast?_eq_none_iff, List.filter_eq_nil_iff] at hl
      rw [lastHeadWord, List.getLast?_eq_none_iff, List.filterMap_eq_nil_iff]
      intro l hmem
      rw [← Option.not_isSome_iff_eq_none]
      exact fun hsome => hl l hmem (decide_eq_true (key_prefix_of_head hsome))
    simp [hnone]
  | some l =>
    rw [lastKeyLine_or] at hl
    simp only [Option.some.injEq, forall_eq', WordRead]
    refine exists_congr fun w => and_congr_right fun _ => ?_
    cases hhead : o.sscanf (l.take (configLen - 1)) with
    | none => simp
    | some w' =>
      have hlast : lastHeadWord o (configLines system user) = some w' :=
        getLast?_filterMap_of_filter
          (fun x hx => decide_eq_true (key_prefix_of_head hx)) hl hhead
      simp [hlast]

/-- The plain text options are what the last lines with their keys say, and no other text sets
an option, exactly if `HOSTMASTER` is given before the user file is read, each long line that
repeats a key 255 characters in is followed by a line with that key, and the word of the last
line with the key of a plain option is not beyond or across its 255th character. -/
theorem readsConfig_iff (localstatedir : CStr) (cmdb : CmdbOptions) (system : CStr)
    (user : Option CStr) :
    ReadsConfig localstatedir cmdb system user ↔
      HostmasterGiven cmdb system ∧
      (∀ o : CmdbText,
        Overtaken '\n' (configLen - 1) o.sscanf (configLines system (user.getD []))) ∧
      (∀ o : CmdbNumber,
        Overtaken '\n' (configLen - 1) o.sscanf (configLines system (user.getD []))) ∧
      ∀ o : CmdbText, o.Plain → ∀ l,
        (lastKeyLine o.key (user.getD [])).or (lastKeyLine o.key system) = some l →
          WordRead o (configLines system (user.getD []))
            ((setDefaults localstatedir cmdb).text o) l := by
  simp only [← setAtLineStart_iff]
  have hvalue : (∀ o : CmdbText, SetAtLineStart o.sscanf system (user.getD [])) →
      ∀ o : CmdbText, ((lastWord (user.getD []) o).or (lastWord system o)).or
          ((setDefaults localstatedir cmdb).text o) =
        (lastHeadWord o (configLines system (user.getD []))).or
          ((setDefaults localstatedir cmdb).text o) :=
    fun hset o => by rw [lastWord_or_of_setAtLineStart (hset o)]
  by_cases hhost : HostmasterGiven cmdb system
  · obtain ⟨cmdb', heq, htext⟩ :
        ∃ cmdb', parseCmdbConfig localstatedir cmdb (some system) user = .ok cmdb' ∧ _ :=
      parseCmdbConfig_eq_ok hhost
    constructor
    · rintro ⟨cmdb₁, heq₁, hholds, hset, hnumber⟩
      obtain rfl := Except.ok.inj (heq.symm.trans heq₁)
      refine ⟨hhost, hset, hnumber, fun o ho => holdsLastLine_iff.mp ?_⟩
      rw [← hvalue hset, ← htext o ho]
      exact hholds o ho
    · rintro ⟨-, hset, hnumber, hread⟩
      refine ⟨cmdb', heq, fun o ho => ?_, hset, hnumber⟩
      rw [htext o ho, hvalue hset]
      exact holdsLastLine_iff.mpr (hread o ho)
  · refine iff_of_false ?_ fun h => hhost h.1
    rintro ⟨cmdb', heq, -⟩
    rw [parseCmdbConfig_eq_segv hhost] at heq
    cases heq

/-- An option that no line sets has its default. -/
theorem text_eq_default_of_readsConfig (h : ReadsConfig localstatedir cmdb system user)
    (ho : o.Plain)
    (hline : (lastKeyLine o.key (user.getD [])).or (lastKeyLine o.key system) = none) :
    (parseCmdbConfig localstatedir cmdb (some system) user).map (·.text o) =
      .ok ((setDefaults localstatedir cmdb).text o) := by
  obtain ⟨cmdb', heq, hholds, -⟩ := h
  rw [heq, Except.map, (holdsLastLine_of_eq_none hline).mp (hholds o ho)]

/-- A comment of more than 255 characters. -/
def longComment : CStr :=
  "HOSTMASTER=root@jessie.\n".toList ++ List.replicate 255 '#' ++ "DB=evil\n".toList

/-- No line of the file begins with `DB=`. -/
theorem not_readsConfig_longComment :
    ¬ReadsConfig "/var".toList ⟨fun _ => none, fun _ => 0⟩ longComment none := by
  intro h
  have hdb : (parseCmdbConfig "/var".toList ⟨fun _ => none, fun _ => 0⟩ (some longComment)
      none).map (·.text .db) ≠ .ok ((setDefaults "/var".toList ⟨fun _ => none, fun _ => 0⟩).text
        .db) := by decide +kernel
  exact hdb (text_eq_default_of_readsConfig h ⟨by decide, by decide⟩ (by decide +kernel))

end Cmdb
