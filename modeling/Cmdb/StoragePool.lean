import Cmdb.AilsaString
import Cmdb.Getopt

/-!
# The storage pools of mksp

`mksp` keeps at most 256 characters of the volume group and of the path that it is given.
`ailsa_create_storage_pool_xml` then prints `/dev/` and the volume group, or the path, into a
buffer of 32 bytes without a bound. Up to 26 characters of the one and 31 of the other fit
(`describesPool_iff`).
-/

namespace Cmdb

open CString CBuffer Except

/-! ## The command line of `mksp` -/

/-- A text on the heap, in a buffer of `size` bytes. -/
structure HeapText where
  size : ℕ
  text : CStr
deriving DecidableEq, Repr

inductive SpType
  | none | logvol | directory
deriving DecidableEq, Repr

inductive MkspAction
  | none | add | help | version
deriving DecidableEq, Repr

/-- What `mksp` keeps in an `ailsa_mkvm_s`. -/
structure MkspVm where
  name : Option HeapText
  logvol : Option HeapText
  uri : Option HeapText
  path : Option HeapText
  sptype : SpType
  action : MkspAction
deriving DecidableEq, Repr

/-- The codes of `parse_mksp_command_line`. `overflow` is no code : a text is written over the
end of its buffer. -/
inductive MkspError
  | unknownOption | noAction | noType | noName | noLogvol | noDirectory | overflow
deriving DecidableEq, Repr

/-- The options of `mksp`. -/
inductive MkspOption
  | lvm | directory | add | help | version | unknown
  | name (optarg : CStr)
  | logvol (optarg : CStr)
  | uri (optarg : CStr)
  | path (optarg : CStr)
deriving DecidableEq, Repr

/-- `strndup` the first time, and `snprintf` into what it has made from then on. -/
def HeapText.give (optarg : CStr) : Option HeapText → Except MkspError HeapText
  | none => .ok ⟨(optarg.take configLen).length + 1, optarg.take configLen⟩
  | some field =>
    if (snprintf configLen optarg).length < field.size then
      .ok ⟨field.size, snprintf configLen optarg⟩
    else .error .overflow

/-- The `switch` of `parse_mksp_command_line`. -/
def mkspOption (vm : MkspVm) : MkspOption → Except MkspError MkspVm
  | .name optarg => do return { vm with name := some (← HeapText.give optarg vm.name) }
  | .logvol optarg => do return { vm with logvol := some (← HeapText.give optarg vm.logvol) }
  | .uri optarg => do return { vm with uri := some (← HeapText.give optarg vm.uri) }
  | .path optarg => do return { vm with path := some (← HeapText.give optarg vm.path) }
  | .lvm => .ok { vm with sptype := .logvol }
  | .directory => .ok { vm with sptype := .directory }
  | .add => .ok { vm with action := .add }
  | .help => .ok { vm with action := .help }
  | .version => .ok { vm with action := .version }
  | .unknown => .error .unknownOption

/-- No text, or an empty one. -/
def NotGiven (field : Option HeapText) : Prop := ∀ t ∈ field, t.text = []

instance (field : Option HeapText) : Decidable (NotGiven field) :=
  inferInstanceAs (Decidable (∀ t ∈ field, t.text = []))

/-- The checks of `parse_mksp_command_line` behind the options. A later check takes the code
of an earlier one. -/
def acceptMksp (vm : MkspVm) : Except MkspError MkspVm :=
  let retval := if vm.action = .none then some MkspError.noAction else none
  let retval := if vm.sptype = .none then some .noType else retval
  let retval := if vm.action = .add ∧ NotGiven vm.name then some .noName else retval
  if vm.action = .help ∨ vm.action = .version then .ok vm
  else
    let retval := if vm.sptype = .logvol ∧ NotGiven vm.logvol then some .noLogvol else retval
    let retval :=
      if vm.sptype = .directory ∧ NotGiven vm.path then some .noDirectory else retval
    match retval with
    | some e => .error e
    | none => .ok vm

/-- What `parse_mkvm_config` leaves : the connection and the name that the configuration
files give, if they do. -/
def mkspConfig (uri name : Option CStr) : MkspVm where
  name := name.map fun s => ⟨configLen, snprintf configLen s⟩
  logvol := none
  uri := uri.map fun s => ⟨configLen, snprintf configLen s⟩
  path := none
  sptype := .none
  action := .none

/-- `parse_mksp_command_line`. -/
def parseMkspCommandLine (vm : MkspVm) (opts : List MkspOption) : Except MkspError MkspVm := do
  acceptMksp (← opts.foldlM mkspOption vm)

/-! ## The description of a pool -/

def poolHead (type name : CStr) : CStr :=
  "<pool type='".toList ++ type ++ "'>\n  <name>".toList ++ name ++
    "</name>\n  <source>\n".toList

def poolSource (logvol : CStr) : CStr :=
  "    <name>".toList ++ logvol ++ "</name>\n    <format type='lvm2'/>\n".toList

def poolTarget (path : CStr) : CStr :=
  "  </source>\n  <target>\n    <path>".toList ++ path ++
    "</path>\n  </target>\n</pool>\n".toList

/-- What is first printed into `type`. -/
def SpType.text : SpType → CStr
  | .none => []
  | .logvol => "logical".toList
  | .directory => "dir".toList

/-- `ailsa_create_storage_pool_xml`, for a pool with a name. There is no result where a buffer
is written over its end. -/
def ailsaCreateStoragePoolXml (junk : Junk) (vm : MkspVm) (dom : AilsaString) :
    Option AilsaString :=
  if vm.sptype = .none then some dom
  else do
    let type ← sprintf (CBuffer.calloc macLen) 0 vm.sptype.text
    let name ← vm.name
    let dom ← ailsaFillString junk dom (snprintf fileLen (poolHead (text type) name.text))
    let dom ← (if vm.sptype = .logvol then do
        let logvol ← vm.logvol
        let buf ← sprintf (CBuffer.calloc fileLen) 0 (poolSource logvol.text)
        ailsaFillString junk dom (text buf)
      else some dom)
    let type ← (if vm.sptype = .logvol then do
        let logvol ← vm.logvol
        sprintf (CBuffer.calloc macLen) 0 ("/dev/".toList ++ logvol.text)
      else do
        let path ← vm.path
        sprintf (CBuffer.calloc macLen) 0 path.text)
    ailsaFillString junk dom (snprintf fileLen (poolTarget (text type)))

/-- A storage pool. -/
structure StoragePool where
  type : SpType
  name : CStr
  source : Option CStr
  path : CStr

/-- The document that describes it. -/
def StoragePool.xml (pool : StoragePool) : CStr :=
  poolHead pool.type.text pool.name ++ (pool.source.map poolSource).getD [] ++
    poolTarget pool.path

/-- The pool that the fields are for. -/
def MkspVm.pool (vm : MkspVm) : Option StoragePool := do
  let name ← vm.name
  match vm.sptype with
  | .none => none
  | .logvol => do
    let logvol ← vm.logvol
    return ⟨.logvol, name.text, some logvol.text, "/dev/".toList ++ logvol.text⟩
  | .directory => do
    let path ← vm.path
    return ⟨.directory, name.text, none, path.text⟩

variable {junk : Junk} {vm vm' : MkspVm} {opts : List MkspOption} {pool : StoragePool}
  {name : CStr} {n : ℕ}

/-! ## Lengths -/

theorem length_poolHead (type name : CStr) :
    (poolHead type name).length = type.length + name.length + 42 := by
  have h₁ : "<pool type='".toList.length = 12 := by decide
  have h₂ : "'>\n  <name>".toList.length = 11 := by decide
  have h₃ : "</name>\n  <source>\n".toList.length = 19 := by decide
  unfold poolHead
  generalize "<pool type='".toList = a, "'>\n  <name>".toList = b,
    "</name>\n  <source>\n".toList = c at *
  simp only [List.length_append]
  omega

theorem length_poolSource (logvol : CStr) : (poolSource logvol).length = logvol.length + 44 := by
  have h₁ : "    <name>".toList.length = 10 := by decide
  have h₂ : "</name>\n    <format type='lvm2'/>\n".toList.length = 34 := by decide
  unfold poolSource
  generalize "    <name>".toList = a, "</name>\n    <format type='lvm2'/>\n".toList = b at *
  simp only [List.length_append]
  omega

theorem length_poolTarget (path : CStr) : (poolTarget path).length = path.length + 61 := by
  have h₁ : "  </source>\n  <target>\n    <path>".toList.length = 33 := by decide
  have h₂ : "</path>\n  </target>\n</pool>\n".toList.length = 28 := by decide
  unfold poolTarget
  generalize "  </source>\n  <target>\n    <path>".toList = a,
    "</path>\n  </target>\n</pool>\n".toList = b at *
  simp only [List.length_append]
  omega

/-! ## What is printed -/

/-- The texts are no longer than a command line can make them. -/
structure StoragePool.Short (pool : StoragePool) : Prop where
  name : pool.name.length ≤ configLen
  source : ∀ s ∈ pool.source, s.length ≤ configLen

theorem exists_fill_head (junk : Junk) (type : SpType) (hlen : name.length ≤ configLen) :
    ∃ buf dom, sprintf (CBuffer.calloc macLen) 0 type.text = some buf ∧
      ailsaFillString junk ailsaInitString (snprintf fileLen (poolHead (text buf) name)) =
        some dom ∧ dom.Built (poolHead type.text name) := by
  have htype : type.text.length < macLen := by cases type <;> decide
  obtain ⟨buf, hsprintf, htext⟩ := sprintf_calloc htype
  have hhead : (poolHead type.text name).length < fileLen := by
    rw [length_poolHead]
    exact Nat.lt_of_lt_of_le (Nat.add_lt_add_right (Nat.add_lt_add_of_lt_of_le htype hlen) 42)
      (by decide)
  obtain ⟨dom, hfill, hbuilt⟩ := built_ailsaInitString.fill_of_lt junk
    (t := poolHead type.text name) (by rwa [List.length_nil, Nat.zero_add])
  refine ⟨buf, dom, hsprintf, ?_, hbuilt⟩
  rw [htext, snprintf_of_length_lt hhead, hfill]

theorem exists_fill_source (junk : Junk) {dom : AilsaString}
    (hdom : dom.Built (poolHead SpType.logvol.text name)) (hname : name.length ≤ configLen)
    {logvol : CStr} (hlogvol : logvol.length ≤ configLen) :
    ∃ buf dom', sprintf (CBuffer.calloc fileLen) 0 (poolSource logvol) = some buf ∧
      ailsaFillString junk dom (text buf) = some dom' ∧
      dom'.Built (poolHead SpType.logvol.text name ++ poolSource logvol) := by
  have htype : SpType.logvol.text.length = 7 := by decide
  have hhead := length_poolHead SpType.logvol.text name
  have hsource := length_poolSource logvol
  rw [htype] at hhead
  simp only [configLen] at hname hlogvol
  obtain ⟨buf, hsprintf, htext⟩ := sprintf_calloc (n := fileLen) (t := poolSource logvol)
    (by rw [fileLen]; omega)
  obtain ⟨dom', hfill, hbuilt⟩ := hdom.fill_of_lt junk (t := poolSource logvol)
    (by rw [fileLen]; omega)
  exact ⟨buf, dom', hsprintf, by rw [htext, hfill], hbuilt⟩

/-- The bound on the path is that of `type`. -/
theorem exists_fill_target (junk : Junk) {dom : AilsaString} {doc path : CStr}
    (hdom : dom.Built doc) (hdoc : doc.length ≤ 1024) (hpath : path.length < macLen) :
    ∃ buf dom', sprintf (CBuffer.calloc macLen) 0 path = some buf ∧
      ailsaFillString junk dom (snprintf fileLen (poolTarget (text buf))) = some dom' ∧
      dom'.Built (doc ++ poolTarget path) := by
  have htarget := length_poolTarget path
  simp only [macLen] at hpath
  obtain ⟨buf, hsprintf, htext⟩ := sprintf_calloc (n := macLen) hpath
  obtain ⟨dom', hfill, hbuilt⟩ := hdom.fill_of_lt junk (t := poolTarget path)
    (by rw [fileLen]; omega)
  refine ⟨buf, dom', hsprintf, ?_, hbuilt⟩
  rw [htext, snprintf_of_length_lt (by rw [fileLen]; omega), hfill]

theorem ailsaCreateStoragePoolXml_logvol (junk : Junk) {nm vg : HeapText}
    (htype : vm.sptype = .logvol) (hname : vm.name = some nm) (hlogvol : vm.logvol = some vg)
    (hn : nm.text.length ≤ configLen) (hv : vg.text.length ≤ configLen) :
    (("/dev/".toList ++ vg.text).length < macLen →
      ∃ dom, ailsaCreateStoragePoolXml junk vm ailsaInitString = some dom ∧ text dom.string =
        StoragePool.xml ⟨.logvol, nm.text, some vg.text, "/dev/".toList ++ vg.text⟩) ∧
    (¬("/dev/".toList ++ vg.text).length < macLen →
      ailsaCreateStoragePoolXml junk vm ailsaInitString = none) := by
  obtain ⟨type, dom₁, htext, hhead, hdom₁⟩ := exists_fill_head junk .logvol hn
  obtain ⟨buf, dom₂, hbuf, hsource, hdom₂⟩ := exists_fill_source junk hdom₁ hn hv
  have hlen : (poolHead SpType.logvol.text nm.text ++ poolSource vg.text).length ≤ 1024 := by
    rw [List.length_append, length_poolHead, length_poolSource]
    have h7 : SpType.logvol.text.length = 7 := by decide
    simp only [configLen] at hn hv
    omega
  have hcode : ailsaCreateStoragePoolXml junk vm ailsaInitString =
      (sprintf (CBuffer.calloc macLen) 0 ("/dev/".toList ++ vg.text)).bind fun type =>
        ailsaFillString junk dom₂ (snprintf fileLen (poolTarget (text type))) := by
    simp only [ailsaCreateStoragePoolXml, htype, htext, hname, hlogvol, hhead, hbuf, hsource,
      Option.bind_eq_bind, Option.bind_some, reduceCtorEq, if_true, if_false]
  refine ⟨fun hpath => ?_, fun hpath => ?_⟩
  · obtain ⟨type', dom, hpathbuf, hfill, hdom⟩ := exists_fill_target junk hdom₂ hlen hpath
    exact ⟨dom, by rw [hcode, hpathbuf]; exact hfill, hdom.holds.text_eq⟩
  · rw [hcode, sprintf_calloc_eq_none hpath]
    rfl

theorem ailsaCreateStoragePoolXml_directory (junk : Junk) {nm path : HeapText}
    (htype : vm.sptype = .directory) (hname : vm.name = some nm) (hpath : vm.path = some path)
    (hn : nm.text.length ≤ configLen) :
    (path.text.length < macLen →
      ∃ dom, ailsaCreateStoragePoolXml junk vm ailsaInitString = some dom ∧
        text dom.string = StoragePool.xml ⟨.directory, nm.text, none, path.text⟩) ∧
    (¬path.text.length < macLen → ailsaCreateStoragePoolXml junk vm ailsaInitString = none) := by
  obtain ⟨type, dom₁, htext, hhead, hdom₁⟩ := exists_fill_head junk .directory hn
  have hlen : (poolHead SpType.directory.text nm.text).length ≤ 1024 := by
    have h3 : SpType.directory.text.length = 3 := by decide
    rw [length_poolHead, h3]
    simp only [configLen] at hn
    omega
  have hcode : ailsaCreateStoragePoolXml junk vm ailsaInitString =
      (sprintf (CBuffer.calloc macLen) 0 path.text).bind fun type =>
        ailsaFillString junk dom₁ (snprintf fileLen (poolTarget (text type))) := by
    simp only [ailsaCreateStoragePoolXml, htype, htext, hname, hpath, hhead,
      Option.bind_eq_bind, Option.bind_some, reduceCtorEq, if_false]
  refine ⟨fun hfit => ?_, fun hfit => ?_⟩
  · obtain ⟨type', dom, hbuf, hfill, hdom⟩ := exists_fill_target junk hdom₁ hlen hfit
    refine ⟨dom, by rw [hcode, hbuf]; exact hfill, ?_⟩
    rw [hdom.holds.text_eq]
    simp only [StoragePool.xml, Option.map_none, Option.getD_none, List.append_nil]
  · rw [hcode, sprintf_calloc_eq_none hfit]
    rfl

/-! ## What the command line gives -/

/-- The argument of `-l`. -/
def MkspOption.logvol? : MkspOption → Option CStr
  | .logvol optarg => some optarg
  | _ => none

/-- The argument of `-p`. -/
def MkspOption.path? : MkspOption → Option CStr
  | .path optarg => some optarg
  | _ => none

/-- A text that is kept has at most 256 characters, the first 255 of which are given. -/
theorem HeapText.give_eq_ok {optarg : CStr} {field : Option HeapText} {t : HeapText}
    (h : HeapText.give optarg field = .ok t) :
    snprintf configLen t.text = snprintf configLen optarg ∧ t.text.length ≤ configLen := by
  cases field with
  | none =>
    obtain rfl := Except.ok.inj h
    exact ⟨by rw [snprintf, List.take_take]; rfl, List.length_take_le _ _⟩
  | some f =>
    rw [HeapText.give] at h
    split at h
    · obtain rfl := Except.ok.inj h
      exact ⟨by rw [snprintf, snprintf, List.take_take]; rfl,
        (List.length_take_le _ _).trans (by decide)⟩
    · cases h

/-- What `mksp` knows of the texts that it keeps. -/
structure MkspVm.Kept (vm : MkspVm) : Prop where
  name : ∀ t ∈ vm.name, t.text.length ≤ configLen
  logvol : ∀ t ∈ vm.logvol, t.text.length ≤ configLen

theorem MkspVm.Kept.mkspOption {o : MkspOption} (h : vm.Kept) (ho : mkspOption vm o = .ok vm') :
    vm'.Kept := by
  cases o with
  | unknown => cases ho
  | name optarg =>
    obtain ⟨t, ht, hvm⟩ := bind_eq_ok.mp ho
    obtain rfl := Except.ok.inj hvm
    exact { h with name := fun _ hmem => Option.some.inj hmem ▸ (HeapText.give_eq_ok ht).2 }
  | logvol optarg =>
    obtain ⟨t, ht, hvm⟩ := bind_eq_ok.mp ho
    obtain rfl := Except.ok.inj hvm
    exact { h with logvol := fun _ hmem => Option.some.inj hmem ▸ (HeapText.give_eq_ok ht).2 }
  | uri optarg | path optarg =>
    obtain ⟨t, -, hvm⟩ := bind_eq_ok.mp ho
    obtain rfl := Except.ok.inj hvm
    exact ⟨h.name, h.logvol⟩
  | _ =>
    cases ho
    exact ⟨h.name, h.logvol⟩

/-- The first 255 characters that a field keeps. -/
def keptText (field : Option HeapText) : Option CStr :=
  field.map fun t => snprintf configLen t.text

/-- The fields of the volume group and of the path hold the last arguments for them. -/
theorem keptText_mkspOption {o : MkspOption} (ho : mkspOption vm o = .ok vm') :
    keptText vm'.logvol = (o.logvol?.map (snprintf configLen)).or (keptText vm.logvol) ∧
      keptText vm'.path = (o.path?.map (snprintf configLen)).or (keptText vm.path) := by
  cases o with
  | unknown => cases ho
  | logvol optarg =>
    obtain ⟨t, ht, hvm⟩ := bind_eq_ok.mp ho
    obtain rfl := Except.ok.inj hvm
    exact ⟨congrArg some (HeapText.give_eq_ok ht).1, rfl⟩
  | path optarg =>
    obtain ⟨t, ht, hvm⟩ := bind_eq_ok.mp ho
    obtain rfl := Except.ok.inj hvm
    exact ⟨rfl, congrArg some (HeapText.give_eq_ok ht).1⟩
  | name optarg | uri optarg =>
    obtain ⟨t, -, hvm⟩ := bind_eq_ok.mp ho
    obtain rfl := Except.ok.inj hvm
    exact ⟨rfl, rfl⟩
  | _ =>
    cases ho
    exact ⟨rfl, rfl⟩

theorem eq_of_acceptMksp (h : acceptMksp vm = .ok vm') : vm' = vm := by
  simp only [acceptMksp] at h
  split at h
  · exact (Except.ok.inj h).symm
  · split at h
    · cases h
    · exact (Except.ok.inj h).symm

theorem exists_of_not_notGiven {field : Option HeapText} (h : ¬NotGiven field) :
    ∃ t, field = some t := by
  cases field with
  | none => exact absurd nofun h
  | some t => exact ⟨t, rfl⟩

theorem given_of_acceptMksp (h : acceptMksp vm = .ok vm') (hadd : vm.action = .add) :
    vm.sptype ≠ .none ∧ ¬NotGiven vm.name ∧ (vm.sptype = .logvol → ¬NotGiven vm.logvol) ∧
      (vm.sptype = .directory → ¬NotGiven vm.path) := by
  simp only [acceptMksp, hadd, reduceCtorEq, if_false, or_self, true_and] at h
  by_cases hpath : vm.sptype = .directory ∧ NotGiven vm.path
  · rw [if_pos hpath] at h
    cases h
  rw [if_neg hpath] at h
  by_cases hlogvol : vm.sptype = .logvol ∧ NotGiven vm.logvol
  · rw [if_pos hlogvol] at h
    cases h
  rw [if_neg hlogvol] at h
  by_cases hname : NotGiven vm.name
  · rw [if_pos hname] at h
    cases h
  rw [if_neg hname] at h
  by_cases htype : vm.sptype = .none
  · rw [if_pos htype] at h
    cases h
  rw [if_neg htype] at h
  exact ⟨htype, hname, fun hl hn => hlogvol ⟨hl, hn⟩, fun hd hn => hpath ⟨hd, hn⟩⟩

section Accepted

variable {uri : Option CStr} {cname : Option CStr}

theorem kept_mkspConfig (uri cname : Option CStr) : (mkspConfig uri cname).Kept := by
  refine ⟨fun t ht => ?_, nofun⟩
  obtain ⟨s, -, rfl⟩ := Option.map_eq_some_iff.mp ht
  exact (List.length_take_le _ _).trans (by decide)

/-- A field that the configuration does not set has what the last argument gives. -/
theorem exists_of_keptText {arg : MkspOption → Option CStr} {field : Option HeapText} {t : HeapText}
    (h : keptText field =
      (Getopt.given (fun o => (arg o).map (snprintf configLen)) opts).or (keptText none))
    (ht : field = some t) : ∃ a, Getopt.given arg opts = some a ∧
      snprintf configLen t.text = snprintf configLen a := by
  rw [Getopt.given_map, ht, keptText, keptText, Option.map_none, Option.or_none] at h
  obtain ⟨a, ha, heq⟩ := Option.map_eq_some_iff.mp h.symm
  exact ⟨a, ha, heq.symm⟩

/-- A pool that is accepted has a name and a type, and the text that its type takes. -/
theorem parseMksp_eq_ok (h : parseMkspCommandLine (mkspConfig uri cname) opts = .ok vm)
    (hadd : vm.action = .add) :
    (∃ nm, vm.name = some nm ∧ nm.text.length ≤ configLen) ∧ vm.sptype ≠ .none ∧
      (vm.sptype = .logvol → ∃ vg arg, vm.logvol = some vg ∧ vg.text.length ≤ configLen ∧
        Getopt.given MkspOption.logvol? opts = some arg ∧
        snprintf configLen vg.text = snprintf configLen arg) ∧
      (vm.sptype = .directory → ∃ path arg, vm.path = some path ∧
        Getopt.given MkspOption.path? opts = some arg ∧
        snprintf configLen path.text = snprintf configLen arg) := by
  obtain ⟨vm₁, hloop, haccept⟩ := bind_eq_ok.mp h
  obtain rfl := eq_of_acceptMksp haccept
  obtain ⟨htype, hname, hlogvol, hpath⟩ := given_of_acceptMksp haccept hadd
  have hkept : vm.Kept := Getopt.foldlM_invariant (P := MkspVm.Kept)
    (fun _ _ _ hvm ho => hvm.mkspOption ho) (kept_mkspConfig uri cname) hloop
  obtain ⟨nm, hnm⟩ := exists_of_not_notGiven hname
  refine ⟨⟨nm, hnm, hkept.name nm hnm⟩, htype, fun hl => ?_, fun hd => ?_⟩
  · obtain ⟨vg, hvg⟩ := exists_of_not_notGiven (hlogvol hl)
    have hgiven : keptText vm.logvol = _ := Getopt.foldlM_given_or _ (fun vm => keptText vm.logvol)
      (fun _ _ _ ho => (keptText_mkspOption ho).1) hloop
    obtain ⟨arg, harg, htext⟩ := exists_of_keptText hgiven hvg
    exact ⟨vg, arg, hvg, hkept.logvol vg hvg, harg, htext⟩
  · obtain ⟨path, hp⟩ := exists_of_not_notGiven (hpath hd)
    have hgiven : keptText vm.path = _ := Getopt.foldlM_given_or _ (fun vm => keptText vm.path)
      (fun _ _ _ ho => (keptText_mkspOption ho).2) hloop
    obtain ⟨arg, harg, htext⟩ := exists_of_keptText hgiven hp
    exact ⟨path, arg, hp, harg, htext⟩

/-- No buffer is written over its end, and the document describes the pool of the command
line : its target is `/dev/` and the volume group, or the path. -/
def DescribesPool (junk : Junk) (opts : List MkspOption) (vm : MkspVm) : Prop :=
  ∃ dom nm, ailsaCreateStoragePoolXml junk vm ailsaInitString = some dom ∧ vm.name = some nm ∧
    match vm.sptype with
    | .none => False
    | .logvol => ∃ vg, Getopt.given MkspOption.logvol? opts = some vg ∧ text dom.string =
        StoragePool.xml ⟨.logvol, nm.text, some vg, "/dev/".toList ++ vg⟩
    | .directory => ∃ path, Getopt.given MkspOption.path? opts = some path ∧
        text dom.string = StoragePool.xml ⟨.directory, nm.text, none, path⟩

/-- The text of the target and its `NUL` are at most 32 bytes. -/
def TargetFits (opts : List MkspOption) (vm : MkspVm) : Prop :=
  (vm.sptype = .logvol → ∀ vg ∈ Getopt.given MkspOption.logvol? opts, vg.length + 6 ≤ macLen) ∧
  (vm.sptype = .directory → ∀ path ∈ Getopt.given MkspOption.path? opts,
    path.length + 1 ≤ macLen)

theorem length_dev (s : CStr) : ("/dev/".toList ++ s).length = s.length + 5 := by
  rw [List.length_append, Nat.add_comm]
  rfl

/-- A target that is built from what was kept of the argument `arg` is that of `arg` exactly if
it fits. -/
theorem describes_iff (doc : CStr → CStr) {n : ℕ} {s arg : CStr} {run : Option AilsaString}
    (hn : n + 1 < configLen) (htext : snprintf configLen s = snprintf configLen arg)
    (hfits : s.length ≤ n → ∃ dom, run = some dom ∧ text dom.string = doc s)
    (hover : n < s.length → run = none) :
    (∃ dom, run = some dom ∧ text dom.string = doc arg) ↔ arg.length ≤ n := by
  by_cases hle : s.length ≤ n
  · obtain rfl := eq_of_snprintf_eq htext (by omega)
    exact iff_of_true (hfits hle) hle
  · refine iff_of_false ?_ fun harg => hle ?_
    · rintro ⟨dom, hrun, -⟩
      rw [hover (Nat.lt_of_not_le hle)] at hrun
      cases hrun
    · rwa [← eq_of_snprintf_eq htext.symm (by omega)]

/-- The pool of an accepted command line is described exactly if its target fits into the
buffer of 32 bytes. -/
theorem describesPool_iff (junk : Junk) (uri cname : Option CStr) (opts : List MkspOption)
    (vm : MkspVm) (h : parseMkspCommandLine (mkspConfig uri cname) opts = .ok vm)
    (hadd : vm.action = .add) : DescribesPool junk opts vm ↔ TargetFits opts vm := by
  obtain ⟨⟨nm, hname, hn⟩, htype, hlogvol, hpath⟩ := parseMksp_eq_ok h hadd
  cases hs : vm.sptype with
  | none => exact absurd hs htype
  | logvol =>
    obtain ⟨vg, arg, hvg, hv, hgiven, htext⟩ := hlogvol hs
    obtain ⟨hfits, hover⟩ := ailsaCreateStoragePoolXml_logvol junk hs hname hvg hn hv
    have hcond : TargetFits opts vm ↔ arg.length ≤ 26 := by
      simp [TargetFits, hs, hgiven, macLen]
    let doc : CStr → CStr := fun s =>
      StoragePool.xml ⟨.logvol, nm.text, some s, "/dev/".toList ++ s⟩
    have hdoc : DescribesPool junk opts vm ↔ ∃ dom,
        ailsaCreateStoragePoolXml junk vm ailsaInitString = some dom ∧
          text dom.string = doc arg := by
      simp [DescribesPool, hs, hname, hgiven, doc]
    rw [length_dev, macLen] at hfits hover
    rw [hcond, hdoc]
    exact describes_iff (n := 26) doc (by decide) htext (fun hle => hfits (by omega))
      fun hlt => hover (by omega)
  | directory =>
    obtain ⟨path, arg, hp, hgiven, htext⟩ := hpath hs
    obtain ⟨hfits, hover⟩ := ailsaCreateStoragePoolXml_directory junk hs hname hp hn
    have hcond : TargetFits opts vm ↔ arg.length ≤ 31 := by
      have hle : arg.length + 1 ≤ 32 ↔ arg.length ≤ 31 := by omega
      simp only [TargetFits, hs, hgiven, macLen, hle, reduceCtorEq, false_imp_iff, true_and,
        true_imp_iff, Option.mem_some_iff, forall_eq']
    let doc : CStr → CStr := fun s => StoragePool.xml ⟨.directory, nm.text, none, s⟩
    have hdoc : DescribesPool junk opts vm ↔ ∃ dom,
        ailsaCreateStoragePoolXml junk vm ailsaInitString = some dom ∧
          text dom.string = doc arg := by
      simp [DescribesPool, hs, hname, hgiven, doc]
    rw [macLen] at hfits hover
    rw [hcond, hdoc]
    exact describes_iff (n := 31) doc (by decide) htext (fun hle => hfits (by omega))
      fun hlt => hover (by omega)

end Accepted

/-- A pool in a directory. -/
def imagesPool : List MkspOption :=
  [.add, .directory, .name "images".toList, .path "/var/lib/libvirt/images".toList]

/-- The path is 23 characters long. -/
theorem describesPool_images : ∃ vm,
    parseMkspCommandLine (mkspConfig none none) imagesPool = .ok vm ∧ vm.action = .add ∧
      DescribesPool (fun _ => none) imagesPool vm :=
  ⟨_, rfl, rfl, (describesPool_iff _ none none imagesPool _ rfl rfl).mpr (by
    refine ⟨nofun, fun _ path hpath => ?_⟩
    obtain rfl := Option.some.inj hpath
    decide)⟩

/-- A directory of 32 characters. -/
def longPool : List MkspOption :=
  [.add, .directory, .name "images".toList, .path "/var/lib/libvirt/images/archives".toList]

theorem not_describesPool_long : ∃ vm,
    parseMkspCommandLine (mkspConfig none none) longPool = .ok vm ∧ vm.action = .add ∧
      ¬DescribesPool (fun _ => none) longPool vm := by
  refine ⟨_, rfl, rfl, ?_⟩
  rintro ⟨dom, nm, hrun, -⟩
  rw [(ailsaCreateStoragePoolXml_directory _ rfl rfl rfl (by decide)).2 (by decide)] at hrun
  cases hrun

end Cmdb
