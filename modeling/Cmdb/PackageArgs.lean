import Cmdb.Ailsa
import Cmdb.Expansion

/-!
# Arguments of the system packages

The arguments of the system packages of a build may name its addresses and names.
`cbc_get_sys_newarg` looks for each of the five variables, and every one that it finds
makes the argument anew. It knows an argument that is a variable, and one that starts
with a variable. In any other place the argument is lost, and behind the first variable
nothing is replaced (`packArgument_eq_iff`).
-/

namespace Cmdb

open CString Expansion

/-! ## The code -/

/-- `strstr` : the offset of the first `t`. -/
def strstr : CStr → CStr → Option ℕ
  | [], t => if t.isEmpty then some 0 else none
  | c :: s, t => if t.isPrefixOf (c :: s) then some 0 else (strstr s t).map (· + 1)

/-- The strings of `ailsa_build_s`. -/
structure AilsaBuild where
  locale : CStr
  language : CStr
  keymap : CStr
  country : CStr
  netInt : CStr
  ip : CStr
  ns : CStr
  nm : CStr
  gw : CStr
  ntp : CStr
  host : CStr
  domain : CStr
  mirror : CStr
  os : CStr
  version : CStr
  osVer : CStr
  arch : CStr
  url : CStr
  fqdn : CStr
deriving DecidableEq, Repr

/-- The structure read as the array `a` of its pointers. -/
def AilsaBuild.asArray (b : AilsaBuild) : List CStr :=
  [b.locale, b.language, b.keymap, b.country, b.netInt, b.ip, b.ns, b.nm, b.gw, b.ntp, b.host,
    b.domain, b.mirror, b.os, b.version, b.osVer, b.arch, b.url, b.fqdn]

/-- `a[pos]`. -/
def AilsaBuild.field (b : AilsaBuild) (pos : ℕ) : CStr := b.asArray.getD pos []

def spvars : List CStr :=
  ["%baseip".toList, "%domain".toList, "%fqdn".toList, "%hostname".toList, "%ip".toList]

def spPosition : List ℕ := [5, 11, 18, 10, 5]

/-- `ailsa_syspack_s`. -/
structure AilsaSyspack where
  name : CStr
  field : CStr
  type : CStr
  arg : CStr
  newarg : Option CStr
deriving DecidableEq, Repr

/-- A row of `SYSTEM_PACKAGES_ON_SERVER_ID`. -/
structure SyspackRow where
  name : CStr
  field : CStr
  type : CStr
  arg : CStr
deriving DecidableEq, Repr

/-- One variable of `cbc_get_sys_newarg` : what `newarg` is made, if the variable is found. -/
def sysNewarg (bld : AilsaBuild) (arg : CStr) (v : CStr) (pos : ℕ) : Option CStr :=
  (strstr arg v).map fun tmp =>
    if v.length = arg.length then snprintf domainLen (bld.field pos)
    else if tmp = 0 then snprintf domainLen (bld.field pos ++ arg.drop v.length)
    else []

/-- `cbc_get_sys_newarg` : a variable that is found overwrites what an earlier one made. -/
def cbcGetSysNewarg (sys : AilsaSyspack) (bld : AilsaBuild) : AilsaSyspack :=
  (spvars.zip spPosition).foldl (fun sys (v, pos) =>
    match sysNewarg bld sys.arg v pos with
    | some new => { sys with newarg := some new }
    | none => sys) sys

/-- The copies that are made of a row. -/
def SyspackRow.copy (row : SyspackRow) : AilsaSyspack :=
  { name := row.name.take configLen, field := row.field.take configLen
    type := row.type.take macLen, arg := row.arg.take configLen, newarg := none }

/-- The package that is made of a row. -/
def SyspackRow.config (row : SyspackRow) (bld : AilsaBuild) : AilsaSyspack :=
  cbcGetSysNewarg row.copy bld

/-- `cbc_fill_sys_pack_details`. -/
def cbcFillSysPackDetails (sys : List SyspackRow) (bld : AilsaBuild) : List AilsaSyspack :=
  sys.map fun row => row.config bld

/-- The text of the argument that is written. -/
def AilsaSyspack.written (pack : AilsaSyspack) : CStr := pack.newarg.getD pack.arg

/-- `write_preseed_system_packages`. -/
def writePreseedSystemPackages (sys : List AilsaSyspack) : CStr :=
  sys.flatMap fun pack =>
    pack.name ++ "\t".toList ++ pack.field ++ "\t".toList ++ pack.type ++ "\t".toList ++
      pack.written ++ "\n".toList

/-! ## The argument as it is meant -/

/-- What a variable stands for. -/
def AilsaBuild.value (bld : AilsaBuild) (v : CStr) : CStr :=
  bld.field (((spvars.zip spPosition).lookup v).getD 0)

/-- The stored argument with every variable replaced. -/
def AilsaBuild.expandArg (bld : AilsaBuild) (arg : CStr) : CStr := expand spvars bld.value arg

/-- The argument is copied whole, and it has no variable, or it starts with one, has no other
and fits into the buffer with the value in place. -/
def Replaceable (bld : AilsaBuild) (arg : CStr) : Prop :=
  arg.length ≤ configLen ∧ (NoVar spvars arg ∨ ∃ v ∈ spvars, ∃ rest, arg = v ++ rest ∧
    NoVar spvars rest ∧ (bld.value v).length + rest.length < domainLen)

variable {bld : AilsaBuild} {arg v : CStr}

theorem marked_spvars : Marked '%' spvars where
  eq_cons v hv := by
    simp only [spvars, List.mem_cons, List.not_mem_nil, or_false] at hv
    rcases hv with rfl | rfl | rfl | rfl | rfl <;> exact ⟨_, rfl, by decide⟩
  prefix_free := by decide

example : (AilsaBuild.mk [] [] [] [] [] "10.0.0.7".toList [] [] [] [] "web".toList [] [] [] [] []
    [] [] []).expandArg "at %ip: %hostname".toList = "at 10.0.0.7: web".toList := by decide

/-! ## What is written -/

theorem strstr_eq_none_iff : ∀ {s t : CStr}, strstr s t = none ↔ ¬t <:+: s
  | [], t => by cases t <;> simp [strstr]
  | c :: s, t => by
    have ih := strstr_eq_none_iff (s := s) (t := t)
    rw [strstr, List.infix_cons_iff, ← List.isPrefixOf_iff_prefix, not_or, ← ih]
    by_cases h : t.isPrefixOf (c :: s) = true
    · simp [h]
    · simp [h]

theorem strstr_eq_zero_iff : ∀ {s t : CStr}, strstr s t = some 0 ↔ t <+: s
  | [], t => by cases t <;> simp [strstr]
  | c :: s, t => by
    rw [strstr, ← List.isPrefixOf_iff_prefix]
    by_cases h : t.isPrefixOf (c :: s) = true
    · simp [h]
    · simp [h]

/-- The new argument is that of some variable that is found, if one is. -/
theorem foldl_sysNewarg (bld : AilsaBuild) : ∀ (l : List (CStr × ℕ)) (sys : AilsaSyspack),
    let sys' := l.foldl (fun sys (v, pos) =>
      match sysNewarg bld sys.arg v pos with
      | some new => { sys with newarg := some new }
      | none => sys) sys
    sys'.arg = sys.arg ∧
      ((sys'.newarg = sys.newarg ∧ ∀ p ∈ l, ¬p.1 <:+: sys.arg) ∨
        ∃ p ∈ l, p.1 <:+: sys.arg ∧ sys'.newarg = sysNewarg bld sys.arg p.1 p.2)
  | [], _ => ⟨rfl, .inl ⟨rfl, fun p hp => absurd hp List.not_mem_nil⟩⟩
  | (v, pos) :: l, sys => by
    rw [List.foldl_cons]
    rcases h : sysNewarg bld sys.arg v pos with _ | new
    · have hv : ¬v <:+: sys.arg := strstr_eq_none_iff.mp (Option.map_eq_none_iff.mp h)
      simp only [h]
      obtain ⟨harg, hnew | ⟨p, hp, hnew⟩⟩ := foldl_sysNewarg bld l sys
      · refine ⟨harg, .inl ⟨hnew.1, fun p hp => ?_⟩⟩
        rcases List.mem_cons.mp hp with rfl | hp
        · exact hv
        · exact hnew.2 p hp
      · exact ⟨harg, .inr ⟨p, List.mem_cons_of_mem _ hp, hnew⟩⟩
    · have hv : v <:+: sys.arg := by
        by_contra hv
        rw [sysNewarg, strstr_eq_none_iff.mpr hv] at h
        cases h
      simp only [h]
      obtain ⟨harg, hnew | ⟨p, hp, hnew⟩⟩ := foldl_sysNewarg bld l { sys with newarg := some new }
      · exact ⟨harg, .inr ⟨(v, pos), List.mem_cons_self .., hv, hnew.1.trans h.symm⟩⟩
      · exact ⟨harg, .inr ⟨p, List.mem_cons_of_mem _ hp, hnew⟩⟩

theorem sysNewarg_of_infix {pos : ℕ} (h : v <:+: arg) :
    sysNewarg bld arg v pos = some (if v <+: arg then
      snprintf domainLen (bld.field pos ++ arg.drop v.length) else []) := by
  rcases htmp : strstr arg v with _ | tmp
  · exact absurd h (strstr_eq_none_iff.mp htmp)
  rw [sysNewarg, htmp, Option.map_some, Option.some_inj]
  by_cases hlen : v.length = arg.length
  · have hv : v = arg := h.eq_of_length hlen
    subst hv
    rw [if_pos rfl, if_pos (List.prefix_refl v), List.drop_length, List.append_nil]
  · rw [if_neg hlen]
    refine if_congr ?_ rfl rfl
    rw [← strstr_eq_zero_iff, htmp, Option.some_inj]

theorem value_of_mem (bld : AilsaBuild) {p : CStr × ℕ} (h : p ∈ spvars.zip spPosition) :
    p.1 ∈ spvars ∧ bld.value p.1 = bld.field p.2 := by
  refine ⟨(List.of_mem_zip h).1, ?_⟩
  simp only [spvars, spPosition, List.zip_cons_cons, List.zip_nil_right, List.mem_cons,
    List.not_mem_nil, or_false] at h
  rcases h with rfl | rfl | rfl | rfl | rfl <;> rfl

/-- What is written for an argument : it is written as it is if it has no variable, the value
is put in place of a variable it starts with, or nothing is written at all. -/
theorem written_cases (sys : AilsaSyspack) (bld : AilsaBuild) (hnew : sys.newarg = none) :
    (NoVar spvars sys.arg ∧ (cbcGetSysNewarg sys bld).written = sys.arg) ∨
      ∃ v ∈ spvars, v <:+: sys.arg ∧ (cbcGetSysNewarg sys bld).written =
        if v <+: sys.arg then snprintf domainLen (bld.value v ++ sys.arg.drop v.length)
        else [] := by
  obtain ⟨harg, ⟨hnone, hall⟩ | ⟨p, hp, hinf, hsome⟩⟩ :=
    foldl_sysNewarg bld (spvars.zip spPosition) sys
  · refine .inl ⟨fun v hv => ?_, ?_⟩
    · have hzip : v ∈ (spvars.zip spPosition).map Prod.fst := by
        rw [List.map_fst_zip (by decide)]
        exact hv
      obtain ⟨p, hp, rfl⟩ := List.mem_map.mp hzip
      exact hall p hp
    · rw [cbcGetSysNewarg, AilsaSyspack.written, hnone, hnew, harg]
      rfl
  · obtain ⟨hmem, hval⟩ := value_of_mem bld hp
    refine .inr ⟨p.1, hmem, hinf, ?_⟩
    rw [cbcGetSysNewarg, AilsaSyspack.written, hsome, sysNewarg_of_infix hinf, ← hval]
    rfl

/-! ## When it is what is meant -/

theorem written_of_replaceable (row : SyspackRow) (bld : AilsaBuild)
    (h : Replaceable bld row.arg) : (row.config bld).written = bld.expandArg row.arg := by
  obtain ⟨hlen, hcase⟩ := h
  have harg : row.copy.arg = row.arg := List.take_of_length_le hlen
  unfold SyspackRow.config AilsaBuild.expandArg
  rcases written_cases row.copy bld rfl with ⟨hno, hwritten⟩ | ⟨w, hw, hinf, hwritten⟩
  · rw [harg] at hno hwritten
    rw [hwritten, expand_of_noVar hno]
  · rcases hcase with hno | ⟨v, hv, rest, hrest, hno, hfit⟩
    · exact absurd (harg ▸ hinf) (hno w hw)
    rw [harg, hrest] at hinf hwritten
    rw [hrest]
    rcases marked_spvars.infix_append hv hw hinf with rfl | hinf
    · rw [hwritten, if_pos (List.prefix_append w rest), List.drop_left,
        expand_append marked_spvars hv, expand_of_noVar hno]
      exact snprintf_of_length_lt (by rw [List.length_append]; exact hfit)
    · exact absurd hinf (hno w hw)

theorem length_le_of_mem_spvars (h : v ∈ spvars) : v.length ≤ 9 := by
  revert v
  decide

@[simp] theorem SyspackRow.copy_arg (row : SyspackRow) :
    row.copy.arg = row.arg.take configLen := rfl

/-- Two cuts, of the stored argument and of the new one, are one. -/
theorem snprintf_replaced (u v rest : CStr) :
    snprintf domainLen (u ++ ((v ++ rest).take configLen).drop v.length) =
      (u ++ rest).take (min (domainLen - 1) (u.length + (configLen - v.length))) := by
  rw [List.drop_take, List.drop_left, snprintf, ← List.take_take, List.take_length_add_append]

theorem replaceable_of_written (row : SyspackRow) (hp : Plain '%' spvars bld.value)
    (h : (row.config bld).written = bld.expandArg row.arg) : Replaceable bld row.arg := by
  unfold SyspackRow.config AilsaBuild.expandArg at h
  rcases written_cases row.copy bld rfl with ⟨-, hwritten⟩ | ⟨v, hv, hinf, hwritten⟩
  · rw [hwritten, row.copy_arg, ← List.nil_append row.arg] at h
    obtain ⟨hno, hlen⟩ :=
      (append_expand_eq_take_iff marked_spvars hp [] row.arg configLen).mp h.symm
    exact ⟨by simpa using hlen, .inl hno⟩
  rw [hwritten] at h
  rw [row.copy_arg] at hinf h
  split_ifs at h with hpre
  · obtain ⟨rest, hrest⟩ := hpre.trans (List.take_prefix configLen row.arg)
    have hvlen := length_le_of_mem_spvars hv
    have hconfig : configLen = 256 := rfl
    have hdomain : domainLen = 256 := rfl
    rw [← hrest, snprintf_replaced, expand_append marked_spvars hv] at h
    obtain ⟨hno, hfit⟩ := (append_expand_eq_take_iff marked_spvars hp _ _ _).mp h.symm
    rw [← hrest]
    refine ⟨?_, .inr ⟨v, hv, rest, rfl, hno, by omega⟩⟩
    rw [List.length_append]
    omega
  · -- a text with a variable does not become empty
    have hvar : ¬NoVar spvars row.arg := fun hno =>
      hno v hv (hinf.trans (List.take_prefix configLen row.arg).isInfix)
    obtain ⟨u, w, hw, t, -, hexp⟩ := exists_first marked_spvars bld.value hvar
    obtain ⟨c, y, hc, -⟩ := hp w hw
    rw [hexp, hc] at h
    simp at h

/-- The argument that is written is the stored one with its variables replaced if it is
`Replaceable`, and only then for a build whose values do not begin like a variable. -/
theorem packArgument_eq_iff (row : SyspackRow) (bld : AilsaBuild) :
    (Replaceable bld row.arg → (row.config bld).written = bld.expandArg row.arg) ∧
      (Plain '%' spvars bld.value →
        ((row.config bld).written = bld.expandArg row.arg ↔ Replaceable bld row.arg)) :=
  ⟨written_of_replaceable row bld, fun hp =>
    ⟨replaceable_of_written row hp, written_of_replaceable row bld⟩⟩

/-- A build with an address and names. -/
def addressedBuild : AilsaBuild :=
  { locale := [], language := [], keymap := [], country := [], netInt := [], mirror := []
    os := [], version := [], osVer := [], arch := [], url := [], ns := [], nm := [], gw := []
    ntp := [], ip := "10.0.0.7".toList, host := "web".toList, domain := "lab".toList
    fqdn := "web.lab".toList }

theorem plain_addressedBuild : Plain '%' spvars addressedBuild.value := by
  intro v hv
  simp only [spvars, List.mem_cons, List.not_mem_nil, or_false] at hv
  rcases hv with rfl | rfl | rfl | rfl | rfl <;> exact ⟨_, _, rfl, by decide⟩

/-- A proxy named by the address of the build. -/
def proxyRow : SyspackRow :=
  { name := "apt".toList, field := "apt/proxy".toList, type := "string".toList
    arg := "http://%ip/".toList }

theorem packArgument_eq_iff_proxyRow :
    (proxyRow.config addressedBuild).written = addressedBuild.expandArg proxyRow.arg ↔
      Replaceable addressedBuild proxyRow.arg :=
  (packArgument_eq_iff proxyRow addressedBuild).2 plain_addressedBuild

theorem not_packArgument_eq : ¬∀ (row : SyspackRow) (bld : AilsaBuild),
    (row.config bld).written = bld.expandArg row.arg := by
  intro h
  exact absurd (h proxyRow addressedBuild) (by decide)

end Cmdb
