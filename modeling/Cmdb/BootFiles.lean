import Cmdb.OsDetails
import Mathlib.Data.List.TakeDrop
import Mathlib.Tactic.MkIffOfInductiveProp

/-!
# The boot files of the OSes

`cbcos_grab_boot_files` copies the OSes of a name out of the answer to `BUILD_OSES`, and asks for
the boot files of those that meet the other filters. Without a name the alias is taken for one, a
filter is not looked at beside another of its kind, and the copies are cut.
`cbcosGrabBootFiles_iff` says when the boot files asked for are the right ones all the same.
-/

namespace Cmdb

open CString Except

/-! ## OSes -/

/-- The texts of an OS, of which some may be `NULL`. -/
@[ext] structure OsTexts where
  os : CStr
  osVersion : Option CStr
  osAlias : Option CStr
  arch : Option CStr
  verAlias : CStr
deriving DecidableEq, Repr

/-- A row of `BUILD_OSES`. -/
structure StoredOs extends OsTexts where
  cuser : ℕ
  ctime : CStr
deriving DecidableEq, Repr

namespace StoredOs

variable (o : StoredOs)

/-- The elements of a list. The text of a `NULL` is a null pointer. -/
def data : List AilsaData :=
  [valueData (storeBasic (.text o.os)), valueData (storeBasic (textOrNull o.osVersion)),
    valueData (storeBasic (textOrNull o.osAlias)), valueData (storeBasic (textOrNull o.arch)),
    valueData (storeBasic (.text o.verAlias)), valueData (storeBasic (.int o.cuser)),
    valueData (storeBasic (.text o.ctime))]

/-- No text is `NULL`. -/
def Complete : Prop := o.osVersion.isSome ∧ o.osAlias.isSome ∧ o.arch.isSome

instance : Decidable o.Complete := inferInstanceAs (Decidable (_ ∧ _))

end StoredOs

/-- What the copies of `cbc_fill_os_details` leave of the texts. -/
def OsTexts.cut (o : OsTexts) : OsTexts where
  os := o.os.take macLen
  osVersion := o.osVersion.map fun s => s.take serviceLen
  osAlias := o.osAlias.map fun s => s.take serviceLen
  arch := o.arch.map fun s => s.take serviceLen
  verAlias := o.verAlias.take serviceLen

/-! ## The command -/

/-- `strncasecmp(s, t, n) == 0` -/
def SameCase (s t : CStr) (n : ℕ) : Prop :=
  (s.take n).map Char.toLower = (t.take n).map Char.toLower

instance (s t : CStr) (n : ℕ) : Decidable (SameCase s t n) := inferInstanceAs (Decidable (_ = _))

/-- `data->data->text` -/
def dataText : AilsaData → Except (Option ℤ) CStr
  | .text s => .ok s
  | .number _ => .error none

/-- The loop of `cbc_fill_os_details`. -/
def fillLoop (name : CStr) : List AilsaData → Except (Option ℤ) (List OsTexts)
  | [] => .ok []
  | os :: osVersion :: osAlias :: arch :: verAlias :: _ :: ctime :: list => do
    let s ← dataText os
    if SameCase s name macLen then
      let osVersion ← dataText osVersion
      let osAlias ← dataText osAlias
      let arch ← dataText arch
      let verAlias ← dataText verAlias
      let _ ← dataText ctime
      let dest ← fillLoop name list
      return ⟨s.take macLen, some (osVersion.take serviceLen), some (osAlias.take serviceLen),
        some (arch.take serviceLen), verAlias.take serviceLen⟩ :: dest
    else fillLoop name list
  | _ => .error none

/-- `cbc_fill_os_details` -/
def cbcFillOsDetails (name : Option CStr) (list : List AilsaData) :
    Except (Option ℤ) (List OsTexts) :=
  match name with
  | none => .error (some ailsaNoData)
  | some name =>
    if list.length = 0 then .error (some ailsaNoData)
    else if list.length % 7 ≠ 0 then .error (some ailsaNoData)
    else fillLoop name list

/-- `cbcos_check_for_null_in_comm_line` : a bit for each filter that is not given. -/
def cbcosCheckForNullInCommLine (col : CbcosCommLine) : ℕ :=
  (if col.arch = none then 1 else 0) |||
    (if col.version = none ∧ col.verAlias = none then 2 else 0) |||
    if col.os = none ∧ col.osAlias = none then 4 else 0

/-- A text of the command line is equal to one of an OS. -/
def sameOsText (s t : Option CStr) (n : ℕ) : Bool :=
  match s, t with
  | some s, some t => SameCase s t n
  | _, _ => false

/-- `cbcos_check_for_os` : a bit for each filter that is met. -/
def cbcosCheckForOs (col : CbcosCommLine) (os : OsTexts) (test : ℕ) : ℕ :=
  let test :=
    if test &&& 4 = 4 then test ||| 32
    else if col.os.isSome then
      if sameOsText col.os (some os.os) macLen then test ||| 32 else test
    else if sameOsText col.osAlias os.osAlias macLen then test ||| 32 else test
  let test :=
    if test &&& 1 = 1 then test ||| 8
    else if sameOsText col.arch os.arch serviceLen then test ||| 8 else test
  if test &&& 2 = 2 then test ||| 16
  else if col.version.isSome then
    if sameOsText col.version os.osVersion macLen then test ||| 16 else test
  else if sameOsText col.verAlias (some os.verAlias) macLen then test ||| 16 else test

/-- The loop of `cbcos_grab_boot_files` : the OSes whose boot files are asked for. -/
def grabLoop (col : CbcosCommLine) : ℕ → List OsTexts → List OsTexts
  | _, [] => []
  | test, cos :: os =>
    if test &&& 7 = 7 then cos :: grabLoop col (test &&& 7) os
    else
      let test := cbcosCheckForOs col cos test
      if test &&& 56 = 56 then cos :: grabLoop col (test &&& 7) os
      else grabLoop col (test &&& 7) os

/-- `cbcos_grab_boot_files`, with the answer to `BUILD_OSES`. -/
def cbcosGrabBootFiles (col : CbcosCommLine) (oses : List StoredOs) :
    Except (Option ℤ) (List OsTexts) := do
  let test := cbcosCheckForNullInCommLine col
  let os ← cbcFillOsDetails (col.os <|> col.osAlias) (oses.flatMap StoredOs.data)
  return grabLoop col test os

/-! ## What it is for -/

/-- Two texts are the same up to case. -/
def EqualCase (s t : CStr) : Prop := s.map Char.toLower = t.map Char.toLower

instance (s t : CStr) : Decidable (EqualCase s t) := inferInstanceAs (Decidable (_ = _))

/-- The OS meets every filter that is given. -/
@[mk_iff] structure OsTexts.MeetsAll (o : OsTexts) (col : CbcosCommLine) : Prop where
  os : ∀ s ∈ col.os, EqualCase s o.os
  osAlias : ∀ s ∈ col.osAlias, ∃ t ∈ o.osAlias, EqualCase s t
  version : ∀ s ∈ col.version, ∃ t ∈ o.osVersion, EqualCase s t
  verAlias : ∀ s ∈ col.verAlias, EqualCase s o.verAlias
  arch : ∀ s ∈ col.arch, ∃ t ∈ o.arch, EqualCase s t

instance (o : OsTexts) (col : CbcosCommLine) : Decidable (o.MeetsAll col) :=
  decidable_of_iff' _ (OsTexts.meetsAll_iff o col)

/-- The boot files of the OSes that meet all filters are asked for. -/
def GrabsBootFiles (col : CbcosCommLine) (oses : List StoredOs) : Prop :=
  cbcosGrabBootFiles col oses ≠ .error none ∧ (cbcosGrabBootFiles col oses).toOption.getD [] =
    (oses.map StoredOs.toOsTexts).filter fun o => o.MeetsAll col

/-! ## The OSes of a name -/

theorem sameCase_take {s t : CStr} {n m : ℕ} (h : n ≤ m) :
    SameCase (s.take m) t n ↔ SameCase s t n := by
  rw [SameCase, List.take_take, Nat.min_eq_left h]
  rfl

theorem sameCase_of_length_le {s t : CStr} {n : ℕ} (hs : s.length ≤ n) (ht : t.length ≤ n) :
    SameCase s t n ↔ EqualCase s t := by
  rw [SameCase, List.take_of_length_le hs, List.take_of_length_le ht]
  rfl

theorem EqualCase.sameCase {s t : CStr} (h : EqualCase s t) (n : ℕ) : SameCase s t n := by
  rw [SameCase, List.map_take, List.map_take, h]

theorem fillLoop_cons (name : CStr) (o : StoredOs) (list : List AilsaData) :
    fillLoop name (o.data ++ list) =
      if SameCase o.os name macLen then
        if o.Complete then (fillLoop name list).map (o.cut :: ·) else .error none
      else fillLoop name list := by
  have hmac : macLen ≤ sqlTextMax := by decide
  have hservice : serviceLen ≤ sqlTextMax := by decide
  obtain ⟨⟨os, osVersion, osAlias, arch, verAlias⟩, cuser, ctime⟩ := o
  have hloop : fillLoop name ((⟨⟨os, osVersion, osAlias, arch, verAlias⟩, cuser, ctime⟩ :
      StoredOs).data ++ list) = if SameCase (os.take sqlTextMax) name macLen then do
        let osVersion ← dataText (valueData (storeBasic (textOrNull osVersion)))
        let osAlias ← dataText (valueData (storeBasic (textOrNull osAlias)))
        let arch ← dataText (valueData (storeBasic (textOrNull arch)))
        let dest ← fillLoop name list
        return ⟨(os.take sqlTextMax).take macLen, some (osVersion.take serviceLen),
          some (osAlias.take serviceLen), some (arch.take serviceLen),
          (verAlias.take sqlTextMax).take serviceLen⟩ :: dest
      else fillLoop name list := rfl
  simp only [hloop, sameCase_take hmac, List.take_take, Nat.min_eq_left hmac,
    Nat.min_eq_left hservice]
  refine ite_congr rfl (fun _ => ?_) fun _ => rfl
  cases osVersion with
  | none => rfl
  | some osVersion =>
    cases osAlias with
    | none => rfl
    | some osAlias =>
      cases arch with
      | none => rfl
      | some arch =>
        rw [if_pos ⟨rfl, rfl, rfl⟩]
        have hcut : (⟨os.take macLen, some ((osVersion.take sqlTextMax).take serviceLen),
            some ((osAlias.take sqlTextMax).take serviceLen),
            some ((arch.take sqlTextMax).take serviceLen), verAlias.take serviceLen⟩ : OsTexts) =
            OsTexts.cut ⟨os, some osVersion, some osAlias, some arch, verAlias⟩ := by
          rw [List.take_take, List.take_take, List.take_take, Nat.min_eq_left hservice]
          rfl
        rw [← hcut]
        cases fillLoop name list <;> rfl

/-- The OSes of a name are copied if none of them has a `NULL`. -/
theorem fillLoop_flatMap (name : CStr) : ∀ oses : List StoredOs,
    fillLoop name (oses.flatMap StoredOs.data) =
      if ∀ o ∈ oses, SameCase o.os name macLen → o.Complete then
        .ok ((oses.filter fun o => SameCase o.os name macLen).map fun o => o.cut)
      else .error none
  | [] => rfl
  | o :: oses => by
    rw [List.flatMap_cons, fillLoop_cons, fillLoop_flatMap name oses]
    simp only [List.forall_mem_cons]
    by_cases hname : SameCase o.os name macLen
    · rw [if_pos hname, List.filter_cons_of_pos (by simpa using hname)]
      by_cases hcomplete : o.Complete
      · rw [if_pos hcomplete]
        simp only [hname, hcomplete, forall_const, true_and]
        split_ifs <;> rfl
      · rw [if_neg hcomplete, if_neg fun h => hcomplete (h.1 hname)]
    · rw [if_neg hname, List.filter_cons_of_neg (by simpa using hname)]
      simp only [hname, false_imp_iff, true_and]

/-! ## The filters -/

namespace CbcosCommLine

variable (col : CbcosCommLine) (o : OsTexts)

/-- The name, or without one the alias, is that of the OS. -/
def takesName : Bool :=
  if col.os.isSome then sameOsText col.os (some o.os) macLen
  else sameOsText col.osAlias o.osAlias macLen

/-- The version, or without one its alias, is that of the OS. -/
def takesVersion : Bool :=
  if col.version.isSome then sameOsText col.version o.osVersion macLen
  else sameOsText col.verAlias (some o.verAlias) macLen

/-- What `cbcos_check_for_os` asks of an OS, where a name or an alias is given. -/
def takes : Bool :=
  col.takesName o && (col.arch.isNone || sameOsText col.arch o.arch serviceLen) &&
    ((col.version.isNone && col.verAlias.isNone) || col.takesVersion o)

end CbcosCommLine

/-- The bits that are set for the filters, from those for the ones that are not given. -/
def metBits (name arch version : Bool) (test : ℕ) : ℕ :=
  let test := if test &&& 4 = 4 then test ||| 32 else if name then test ||| 32 else test
  let test := if test &&& 1 = 1 then test ||| 8 else if arch then test ||| 8 else test
  if test &&& 2 = 2 then test ||| 16 else if version then test ||| 16 else test

theorem metBits_iff : ∀ noArch noVersion name arch version : Bool,
    let test := (if noArch then 1 else 0) ||| (if noVersion then 2 else 0) ||| 0
    test &&& 7 = test ∧ test ≠ 7 ∧ metBits name arch version test &&& 7 = test ∧
      (metBits name arch version test &&& 56 = 56 ↔
        (name && (noArch || arch) && (noVersion || version)) = true) := by
  decide

variable {col : CbcosCommLine}

theorem cbcosCheckForOs_eq (col : CbcosCommLine) (o : OsTexts) (test : ℕ) :
    cbcosCheckForOs col o test =
      metBits (col.takesName o) (sameOsText col.arch o.arch serviceLen) (col.takesVersion o)
        test := by
  rw [cbcosCheckForOs, metBits, CbcosCommLine.takesName, CbcosCommLine.takesVersion]
  cases col.os.isSome <;> cases col.version.isSome <;> rfl

theorem cbcosCheckForNullInCommLine_eq (hname : (col.os <|> col.osAlias).isSome) :
    cbcosCheckForNullInCommLine col = (if col.arch.isNone then 1 else 0) |||
      (if col.version.isNone && col.verAlias.isNone then 2 else 0) ||| 0 := by
  have hnone : ¬(col.os = none ∧ col.osAlias = none) := by
    rintro ⟨hos, halias⟩
    rw [hos, halias] at hname
    cases hname
  rw [cbcosCheckForNullInCommLine, if_neg hnone]
  simp only [Bool.and_eq_true, Option.isNone_iff_eq_none]

theorem grabLoop_eq (hname : (col.os <|> col.osAlias).isSome) : ∀ os : List OsTexts,
    grabLoop col (cbcosCheckForNullInCommLine col) os = os.filter col.takes
  | [] => rfl
  | o :: os => by
    have hloop := grabLoop_eq hname os
    rw [grabLoop, cbcosCheckForOs_eq, cbcosCheckForNullInCommLine_eq hname] at *
    obtain ⟨hand, hne, hkept, htakes⟩ := metBits_iff col.arch.isNone
      (col.version.isNone && col.verAlias.isNone) (col.takesName o)
      (sameOsText col.arch o.arch serviceLen) (col.takesVersion o)
    rw [hand, if_neg hne]
    dsimp only at htakes ⊢
    by_cases ht : col.takes o = true
    · rw [if_pos (htakes.mpr ht), hkept, hloop, List.filter_cons_of_pos ht]
    · rw [if_neg fun h => ht (htakes.mp h), hkept, hloop, List.filter_cons_of_neg ht]

/-- The OSes whose boot files are asked for. -/
theorem cbcosGrabBootFiles_eq {name : CStr} (hname : (col.os <|> col.osAlias) = some name)
    {oses : List StoredOs} (hoses : oses ≠ []) : cbcosGrabBootFiles col oses =
      if ∀ o ∈ oses, SameCase o.os name macLen → o.Complete then
        .ok ((oses.filter fun o => SameCase o.os name macLen ∧ col.takes o.cut).map fun o => o.cut)
      else .error none := by
  have hlen : ∀ oses : List StoredOs, (oses.flatMap StoredOs.data).length = 7 * oses.length := by
    intro oses
    induction oses with
    | nil => rfl
    | cons o oses ih =>
      rw [List.flatMap_cons, List.length_append, ih, List.length_cons, Nat.mul_succ, Nat.add_comm]
      rfl
  have hpos : oses.length ≠ 0 := fun h => hoses (List.length_eq_zero_iff.mp h)
  rw [cbcosGrabBootFiles, hname, cbcFillOsDetails, hlen, if_neg (by omega), if_neg (by omega),
    fillLoop_flatMap]
  split_ifs
  · refine congrArg Except.ok ?_
    rw [grabLoop_eq (by rw [hname]; rfl), List.filter_map, List.filter_filter]
    refine congrArg _ (List.filter_congr fun o _ => ?_)
    rw [Bool.decide_and, Bool.and_comm, Bool.decide_eq_true]
    rfl
  · rfl

/-! ## When it is right -/

/-- Two selections of a list that are the same, where the first is made on what `f` cuts `g` to. -/
theorem filter_map_eq_iff {α β : Type} {l : List α} {f g : α → β} {P Q : α → Prop}
    [DecidablePred P] [DecidablePred Q] (hP : ∀ x y, f x = f y → P y → P x)
    (hfg : ∀ x y, g x = f y → f x = g x) :
    (l.filter P).map f = (l.filter Q).map g ↔ ∀ x ∈ l, (P x → Q x) ∧ (Q x → P x ∧ f x = g x) := by
  constructor
  · intro h
    have hQ : ∀ x ∈ l, Q x → P x ∧ f x = g x := by
      intro x hx hQx
      have hmem : g x ∈ (l.filter P).map f := by
        rw [h]
        exact List.mem_map_of_mem (List.mem_filter.mpr ⟨hx, decide_eq_true hQx⟩)
      obtain ⟨y, hy, hyx⟩ := List.mem_map.mp hmem
      have hcut := hfg x y hyx.symm
      exact ⟨hP x y (hcut.trans hyx.symm) (of_decide_eq_true (List.mem_filter.mp hy).2), hcut⟩
    have hfilter : (l.filter P).filter Q = l.filter Q := by
      rw [List.filter_filter]
      refine List.filter_congr fun x hx => ?_
      rw [← Bool.decide_and, decide_eq_decide]
      exact and_iff_left_of_imp fun hQx => (hQ x hx hQx).1
    have hsub : (l.filter Q).Sublist (l.filter P) := hfilter ▸ List.filter_sublist
    have hlen : (l.filter Q).length = (l.filter P).length := by
      rw [← List.length_map (f := g), ← h, List.length_map]
    have heq := hsub.eq_of_length hlen
    refine fun x hx => ⟨fun hPx => ?_, hQ x hx⟩
    have hmem : x ∈ l.filter Q := heq ▸ List.mem_filter.mpr ⟨hx, decide_eq_true hPx⟩
    exact of_decide_eq_true (List.mem_filter.mp hmem).2
  · intro h
    rw [List.filter_congr fun x hx => decide_eq_decide.mpr
      ⟨(h x hx).1, fun hQx => ((h x hx).2 hQx).1⟩]
    refine List.map_congr_left fun x hx => ?_
    obtain ⟨hx, hQx⟩ := List.mem_filter.mp hx
    exact ((h x hx).2 (of_decide_eq_true hQx)).2

/-- An OS that meets the filters has the text that is taken for a name as its name, and no text
that is cut ; an OS with that name has all texts, and meets the filters if it is taken. -/
structure BootFilesCondition (col : CbcosCommLine) (oses : List StoredOs) : Prop where
  named : ∀ o ∈ oses, o.MeetsAll col →
    (∃ name ∈ (col.os <|> col.osAlias), EqualCase o.os name) ∧ o.cut = o.toOsTexts
  taken : ∀ o ∈ oses, ∀ name ∈ (col.os <|> col.osAlias), SameCase o.os name macLen →
    o.Complete ∧ (col.takes o.cut = true → o.MeetsAll col)

theorem OsTexts.cut_cut (o : OsTexts) : o.cut.cut = o.cut := by
  simp only [OsTexts.cut, List.take_take, Nat.min_self, Option.map_map, Function.comp_def]

/-- What meets the filters is taken. -/
theorem OsTexts.MeetsAll.takes {o : OsTexts} (h : o.MeetsAll col)
    (hname : (col.os <|> col.osAlias).isSome) : col.takes o = true := by
  have hsame : ∀ {s t : Option CStr} (n : ℕ), s.isSome = true →
      (∀ s' ∈ s, ∃ t' ∈ t, EqualCase s' t') → sameOsText s t n = true := by
    rintro (_ | s) t n hs h
    · cases hs
    · obtain ⟨t, rfl, ht⟩ := h s rfl
      exact decide_eq_true (ht.sameCase n)
  rw [CbcosCommLine.takes, Bool.and_eq_true, Bool.and_eq_true, Bool.or_eq_true, Bool.or_eq_true]
  refine ⟨⟨?_, ?_⟩, ?_⟩
  · rw [CbcosCommLine.takesName]
    split_ifs with hos
    · exact hsame macLen hos fun s hs => ⟨o.os, rfl, h.os s hs⟩
    · rw [Option.not_isSome_iff_eq_none] at hos
      rw [hos] at hname
      exact hsame macLen hname h.osAlias
  · rw [← Option.not_isSome, Bool.not_eq_true']
    exact (Bool.eq_false_or_eq_true _).symm.imp_right fun harch => hsame serviceLen harch h.arch
  · rw [CbcosCommLine.takesVersion]
    split_ifs with hversion
    · exact .inr (hsame macLen hversion h.version)
    · rw [Option.not_isSome_iff_eq_none] at hversion
      rw [hversion, Option.isNone_none, Bool.true_and, ← Option.not_isSome, Bool.not_eq_true']
      exact (Bool.eq_false_or_eq_true _).symm.imp_right fun hver =>
        hsame macLen hver fun s hs => ⟨o.verAlias, rfl, h.verAlias s hs⟩

theorem filter_toOsTexts (col : CbcosCommLine) (oses : List StoredOs) :
    (oses.map StoredOs.toOsTexts).filter (fun o => o.MeetsAll col) =
      (oses.filter fun o => o.MeetsAll col).map StoredOs.toOsTexts := List.filter_map ..

/-- Without a name of an OS no boot files are asked for. -/
theorem grabsBootFiles_iff_of_none (hname : (col.os <|> col.osAlias) = none)
    (oses : List StoredOs) : GrabsBootFiles col oses ↔ BootFilesCondition col oses := by
  have hrun : cbcosGrabBootFiles col oses = .error (some ailsaNoData) := by
    rw [cbcosGrabBootFiles, hname]
    rfl
  rw [GrabsBootFiles, filter_toOsTexts, hrun]
  constructor
  · rintro ⟨-, hnil⟩
    have hno : ∀ o ∈ oses, ¬o.MeetsAll col := fun o ho hmeets =>
      List.filter_eq_nil_iff.mp (List.map_eq_nil_iff.mp hnil.symm) o ho (decide_eq_true hmeets)
    exact ⟨fun o ho hmeets => absurd hmeets (hno o ho), fun o _ name h => nomatch hname ▸ h⟩
  · intro h
    refine ⟨nofun, Eq.symm (List.map_eq_nil_iff.mpr (List.filter_eq_nil_iff.mpr ?_))⟩
    intro o ho hmeets
    obtain ⟨name, h, -⟩ := (h.named o ho (of_decide_eq_true hmeets)).1
    rw [hname] at h
    cases h

/-- Whether the OSes that are taken by their name are those that meet all filters. -/
theorem taken_eq_iff {name : CStr} (oses : List StoredOs) :
    (oses.filter fun o => SameCase o.os name macLen ∧ col.takes o.cut).map (fun o => o.cut) =
        (oses.filter fun o => o.MeetsAll col).map StoredOs.toOsTexts ↔
      ∀ o ∈ oses, (SameCase o.os name macLen ∧ col.takes o.cut → o.MeetsAll col) ∧
        (o.MeetsAll col →
          (SameCase o.os name macLen ∧ col.takes o.cut) ∧ o.cut = o.toOsTexts) := by
  have hsame : ∀ o : StoredOs, SameCase o.cut.os name macLen ↔ SameCase o.os name macLen :=
    fun o => sameCase_take le_rfl
  refine filter_map_eq_iff (fun o o' h ho' => ?_) fun o o' h => by rw [h, OsTexts.cut_cut]
  rw [← hsame, h, hsame]
  exact ho'

theorem grabsBootFiles_iff_of_some (hcol : col.Copied) {name : CStr}
    (hname : (col.os <|> col.osAlias) = some name) {oses : List StoredOs} (hoses : oses ≠ []) :
    GrabsBootFiles col oses ↔ BootFilesCondition col oses := by
  have hlen : name.length ≤ macLen := forall_mem_orElse hcol.os hcol.osAlias name hname
  rw [GrabsBootFiles, filter_toOsTexts, cbcosGrabBootFiles_eq hname hoses]
  constructor
  · intro h
    split_ifs at h with hcomplete
    · have hall := (taken_eq_iff oses).mp h.2
      refine ⟨fun o ho hmeets => ?_, fun o ho name' hname' hnamed => ?_⟩
      · obtain ⟨⟨hnamed, -⟩, hcut⟩ := (hall o ho).2 hmeets
        have hos : o.os.length ≤ macLen :=
          (List.take_eq_self_iff o.os).mp (congrArg OsTexts.os hcut)
        exact ⟨⟨name, hname, (sameCase_of_length_le hos hlen).mp hnamed⟩, hcut⟩
      · obtain rfl := Option.some.inj (hname.symm.trans hname')
        exact ⟨hcomplete o ho hnamed, fun htakes => (hall o ho).1 ⟨hnamed, htakes⟩⟩
    · exact absurd rfl h.1
  · intro h
    rw [if_pos fun o ho hnamed => (h.taken o ho name hname hnamed).1]
    refine ⟨nofun, (taken_eq_iff oses).mpr fun o ho => ⟨fun ⟨hnamed, htakes⟩ => ?_, fun hmeets => ?_⟩⟩
    · exact (h.taken o ho name hname hnamed).2 htakes
    · obtain ⟨⟨name', hname', hnamed⟩, hcut⟩ := h.named o ho hmeets
      obtain rfl := Option.some.inj (hname.symm.trans hname')
      refine ⟨⟨hnamed.sameCase macLen, ?_⟩, hcut⟩
      rw [hcut]
      exact hmeets.takes (by rw [hname]; rfl)

/-- The boot files asked for are the right ones iff the condition holds. -/
theorem cbcosGrabBootFiles_iff (hcol : col.Copied) (oses : List StoredOs) :
    GrabsBootFiles col oses ↔ BootFilesCondition col oses := by
  cases hname : (col.os <|> col.osAlias) with
  | none => exact grabsBootFiles_iff_of_none hname oses
  | some name =>
    obtain rfl | hoses := eq_or_ne oses []
    · have hrun : cbcosGrabBootFiles col [] = .error (some ailsaNoData) := by
        rw [cbcosGrabBootFiles, hname]
        rfl
      rw [GrabsBootFiles, hrun]
      exact iff_of_true ⟨nofun, rfl⟩ ⟨nofun, nofun⟩
    · exact grabsBootFiles_iff_of_some hcol hname hoses

/-- Debian under its name, once for each of two architectures. -/
def debianOses : List StoredOs :=
  [⟨⟨"debian".toList, some "12".toList, some "deb".toList, some "i386".toList,
      "bookworm".toList⟩, 0, "2023-06-10 00:00:00".toList⟩,
    ⟨⟨"debian".toList, some "12".toList, some "deb".toList, some "x86_64".toList,
      "bookworm".toList⟩, 0, "2023-06-10 00:00:00".toList⟩]

/-- `cbcos -g -n debian -t x86_64` -/
theorem cbcosGrabBootFiles_iff_debian :
    GrabsBootFiles ⟨some "debian".toList, none, none, none, some "x86_64".toList, 0⟩
      debianOses := by
  refine (cbcosGrabBootFiles_iff ?_ debianOses).mpr ⟨?_, ?_⟩
  · exact ⟨by decide, by decide, by decide, by decide, by decide⟩
  · decide
  · decide

/-- `cbcos -g` asks for no boot files. -/
theorem not_grabsBootFiles :
    ¬GrabsBootFiles ⟨none, none, none, none, none, 0⟩ debianOses := by
  rintro ⟨-, hnil⟩
  exact absurd hnil (by decide)

end Cmdb
