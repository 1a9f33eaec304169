import Cmdb.CString
import Cmdb.NetRange
import Cmdb.Validation

/-!
# Generated MAC addresses

`ailsa_gen_mac` takes three bytes from a random number and prints each of them with `%lx`. That
pads nothing, and a byte below sixteen comes out as one digit.

* `validate_mac_eq_zero_iff` : what `MAC_REGEX` accepts;
* `genMac_valid_iff` : the address is accepted exactly if each of the three bytes is sixteen at
  least.
-/

namespace Cmdb

open CString Posix

/-! ## The generator -/

/-- What `random` draws. -/
abbrev RandomDraw := Fin (2 ^ 31)

/-- `AILSA_ESX`. -/
def ailsaEsx : ℤ := 1

/-- `AILSA_KVM`. -/
def ailsaKvm : ℤ := 2

/-- `%lx`. -/
def hexText (n : ℕ) : CStr := Nat.toDigits 16 n

/-- `ailsa_gen_mac`, for a place to write to. -/
def ailsaGenMac (r : RandomDraw) (type : ℤ) : CStr :=
  let bytes :=
    hexText (r.val >>> 24) ++ ":".toList ++ hexText ((r.val >>> 16) &&& 0xff) ++ ":".toList ++
      hexText ((r.val >>> 8) &&& 0xff)
  let buf :=
    if type = ailsaEsx then snprintf macLen ("00:50:56:".toList ++ bytes)
    else if type = ailsaKvm then snprintf macLen ("52:54:00:".toList ++ bytes)
    else snprintf macLen ("26:20:31:".toList ++ bytes)
  snprintf macLen buf

/-! ## The expression -/

/-- Two hexadecimal digits, without a capital. -/
structure HexGroup (w : CStr) : Prop where
  length : w.length = 2
  chars : ∀ c ∈ w, InRanges [('a', 'f'), ('0', '9')] c

/-- Six groups of two digits, with colons between them. -/
def MacText (s : CStr) : Prop := Joined ':' HexGroup 6 s

def hexPairEre : Ere := .rep 2 (some 2) (.set [('a', 'f'), ('0', '9')])

/-- An expression, a colon, and two digits. -/
def colonPairEre (a : Ere) : Ere := .cat (.cat a (.set [(':', ':')])) hexPairEre

def macEre : Ere :=
  colonPairEre (colonPairEre (colonPairEre (colonPairEre (colonPairEre hexPairEre))))

theorem regcomp_mac : regcomp (regexps .mac) = .ok macEre := by decide +kernel

variable {s w : CStr} {a : Ere} {n : ℕ}

theorem mem_lang_hexPairEre : w ∈ hexPairEre.lang ↔ HexGroup w := by
  rw [hexPairEre, mem_lang_times_set]
  exact ⟨fun h => ⟨h.1, h.2⟩, fun h => ⟨h.1, h.2⟩⟩

theorem mem_lang_colonPairEre (hn : 0 < n) (ha : ∀ u, u ∈ a.lang ↔ Joined ':' HexGroup n u) :
    ∀ u, u ∈ (colonPairEre a).lang ↔ Joined ':' HexGroup (n + 1) u := fun _ =>
  mem_lang_joined hn ha fun _ => mem_lang_hexPairEre

theorem validate_mac_eq_zero_iff : ailsaValidateInput s .mac = 0 ↔ MacText s := by
  have hone : ∀ u, u ∈ hexPairEre.lang ↔ Joined ':' HexGroup 1 u := fun _ =>
    mem_lang_hexPairEre.trans joined_one.symm
  have hthree := mem_lang_colonPairEre (by decide) (mem_lang_colonPairEre (by decide) hone)
  have hfive := mem_lang_colonPairEre (by decide) (mem_lang_colonPairEre (by decide) hthree)
  rw [ailsaValidateInput_eq_zero_iff regcomp_mac]
  exact mem_lang_colonPairEre (by decide) hfive s

/-! ## Hexadecimal digits -/

theorem colon_notMem {w : CStr} (h : ∀ c ∈ w, InRanges [('a', 'f'), ('0', '9')] c) : ':' ∉ w :=
  fun hc => absurd (h ':' hc) (by decide)

theorem inRanges_digitChar {d : ℕ} (h : d < 16) :
    InRanges [('a', 'f'), ('0', '9')] d.digitChar := by
  interval_cases d <;> decide

/-- Every digit that is printed is one of the expression. -/
theorem hexText_chars (n : ℕ) : ∀ c ∈ hexText n, InRanges [('a', 'f'), ('0', '9')] c := by
  induction n using Nat.strong_induction_on with
  | _ n ih =>
    rw [hexText, Nat.toDigits_eq_if (by decide)]
    split_ifs with h
    · exact List.forall_mem_singleton.mpr (inRanges_digitChar h)
    · have hdigit := inRanges_digitChar (Nat.mod_lt n (by decide : 0 < 16))
      exact List.forall_mem_append.mpr
        ⟨ih (n / 16) (by omega), List.forall_mem_singleton.mpr hdigit⟩

/-- A byte is printed with two digits from sixteen on. -/
theorem hexGroup_hexText_iff (h : n < 256) : HexGroup (hexText n) ↔ 16 ≤ n := by
  have htwo : (hexText n).length ≤ 2 := (Nat.length_toDigits_le_iff (by decide) (by decide)).mpr h
  have hone : (hexText n).length ≤ 1 ↔ n < 16 :=
    Nat.length_toDigits_le_iff (by decide) (by decide)
  constructor
  · rintro ⟨hlen, -⟩
    omega
  · exact fun hn => ⟨by omega, hexText_chars n⟩

/-! ## Generated addresses -/

/-- The three groups each type begins with. -/
def macPrefix (type : ℤ) : List CStr :=
  if type = ailsaEsx then ["00".toList, "50".toList, "56".toList]
  else if type = ailsaKvm then ["52".toList, "54".toList, "00".toList]
  else ["26".toList, "20".toList, "31".toList]

/-- The groups of an address. -/
def macGroups (r : RandomDraw) (type : ℤ) : List CStr :=
  macPrefix type ++ [hexText (r.val >>> 24), hexText ((r.val >>> 16) &&& 0xff),
    hexText ((r.val >>> 8) &&& 0xff)]

theorem hexGroup_macPrefix (type : ℤ) : ∀ w ∈ macPrefix type, HexGroup w := by
  have hdigit : ∀ c : Char, '0' ≤ c ∧ c ≤ '9' → InRanges [('a', 'f'), ('0', '9')] c :=
    fun c hc => ⟨('0', '9'), by simp, hc⟩
  have hgroup : ∀ a b : Char, '0' ≤ a ∧ a ≤ '9' → '0' ≤ b ∧ b ≤ '9' → HexGroup [a, b] := by
    intro a b ha hb
    refine ⟨rfl, ?_⟩
    simp only [List.forall_mem_cons]
    exact ⟨hdigit a ha, hdigit b hb, by simp⟩
  intro w hw
  unfold macPrefix at hw
  split_ifs at hw <;>
  · simp only [List.mem_cons, List.not_mem_nil, or_false] at hw
    rcases hw with rfl | rfl | rfl <;> exact hgroup _ _ (by decide) (by decide)

/-- The bytes of a random number that are printed. -/
theorem macBytes_lt (r : RandomDraw) :
    r.val >>> 24 < 256 ∧ (r.val >>> 16) &&& 0xff < 256 ∧ (r.val >>> 8) &&& 0xff < 256 := by
  refine ⟨?_, Nat.lt_succ_of_le Nat.and_le_right, Nat.lt_succ_of_le Nat.and_le_right⟩
  rw [Nat.shiftRight_eq_div_pow]
  have := r.isLt
  omega

theorem length_hexText_le {n : ℕ} (h : n < 256) : (hexText n).length ≤ 2 :=
  (Nat.length_toDigits_le_iff (by decide) (by decide)).mpr h

/-- The buffers are long enough. -/
theorem snprintf_macLen {p w1 w2 w3 : CStr} (hp : p.length = 9) (h1 : w1.length ≤ 2)
    (h2 : w2.length ≤ 2) (h3 : w3.length ≤ 2) :
    snprintf macLen (snprintf macLen (p ++ (w1 ++ ':' :: (w2 ++ ':' :: w3)))) =
      p ++ (w1 ++ ':' :: (w2 ++ ':' :: w3)) := by
  have hlen : (p ++ (w1 ++ ':' :: (w2 ++ ':' :: w3))).length ≤ macLen - 1 := by
    simp only [List.length_append, List.length_cons, hp]
    change _ ≤ 31
    omega
  rw [snprintf, snprintf, List.take_of_length_le hlen, List.take_of_length_le hlen]

theorem ailsaGenMac_eq (r : RandomDraw) (type : ℤ) :
    ailsaGenMac r type = List.intercalate [':'] (macGroups r type) := by
  obtain ⟨h1, h2, h3⟩ := macBytes_lt r
  have hbytes : ∀ p : CStr, p.length = 9 → snprintf macLen (snprintf macLen (p ++ (hexText
      (r.val >>> 24) ++ ":".toList ++ hexText ((r.val >>> 16) &&& 0xff) ++ ":".toList ++
        hexText ((r.val >>> 8) &&& 0xff)))) = p ++ (hexText (r.val >>> 24) ++ ':' ::
          (hexText ((r.val >>> 16) &&& 0xff) ++ ':' :: hexText ((r.val >>> 8) &&& 0xff))) := by
    intro p hp
    rw [← snprintf_macLen hp (length_hexText_le h1) (length_hexText_le h2) (length_hexText_le h3)]
    simp
  unfold ailsaGenMac macGroups macPrefix
  split_ifs <;>
  · rw [hbytes _ rfl]
    simp [List.intercalate]

theorem length_macGroups (r : RandomDraw) (type : ℤ) : (macGroups r type).length = 6 := by
  unfold macGroups macPrefix
  split_ifs <;> rfl

theorem HexGroup.colon_notMem (h : HexGroup w) : ':' ∉ w := Cmdb.colon_notMem h.chars

theorem colon_notMem_macGroups (r : RandomDraw) (type : ℤ) : ∀ w ∈ macGroups r type, ':' ∉ w := by
  refine List.forall_mem_append.mpr ⟨fun w hw => (hexGroup_macPrefix type w hw).colon_notMem, ?_⟩
  simp only [List.forall_mem_cons]
  exact ⟨colon_notMem (hexText_chars _), colon_notMem (hexText_chars _),
    colon_notMem (hexText_chars _), by simp⟩

theorem hexGroup_macGroups_iff (r : RandomDraw) (type : ℤ) : (∀ w ∈ macGroups r type, HexGroup w) ↔
    16 ≤ r.val >>> 24 ∧ 16 ≤ (r.val >>> 16) &&& 0xff ∧ 16 ≤ (r.val >>> 8) &&& 0xff := by
  obtain ⟨h1, h2, h3⟩ := macBytes_lt r
  rw [macGroups, List.forall_mem_append]
  simp only [List.forall_mem_cons, hexGroup_hexText_iff h1, hexGroup_hexText_iff h2,
    hexGroup_hexText_iff h3]
  constructor
  · rintro ⟨-, ha, hb, hc, -⟩
    exact ⟨ha, hb, hc⟩
  · rintro ⟨ha, hb, hc⟩
    exact ⟨hexGroup_macPrefix type, ha, hb, hc, by simp⟩

/-- An address is accepted exactly if each of its bytes has two digits. -/
theorem genMac_valid_iff (r : RandomDraw) (type : ℤ) :
    ailsaValidateInput (ailsaGenMac r type) .mac = 0 ↔
      16 ≤ r.val >>> 24 ∧ 16 ≤ (r.val >>> 16) &&& 0xff ∧ 16 ≤ (r.val >>> 8) &&& 0xff := by
  have hlength := length_macGroups r type
  have hne : macGroups r type ≠ [] := List.ne_nil_of_length_eq_add_one hlength
  rw [validate_mac_eq_zero_iff, MacText, ailsaGenMac_eq,
    joined_intercalate_iff (by decide) (colon_notMem_macGroups r type) hne
      fun _ h => h.colon_notMem, hexGroup_macGroups_iff]
  exact and_iff_right hlength

/-- A byte of three : the address has the group `3`. -/
theorem not_genMac_valid :
    ¬∀ (r : RandomDraw) (type : ℤ), ailsaValidateInput (ailsaGenMac r type) .mac = 0 := by
  intro h
  have hzero := validate_mac_eq_zero_iff.mp (h 0x12033456 ailsaKvm)
  have hgen : ailsaGenMac 0x12033456 ailsaKvm = List.intercalate [':']
      ["52".toList, "54".toList, "00".toList, "12".toList, "3".toList, "34".toList] := by
    decide +kernel
  rw [MacText, hgen, joined_intercalate_iff (by decide) (by decide) (by simp)
    fun _ h => h.colon_notMem] at hzero
  exact absurd (hzero.2 "3".toList (by decide)).length (by decide)

end Cmdb
