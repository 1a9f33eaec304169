import Mathlib.Tactic.IntervalCases
import Cmdb.Ailsa
import Cmdb.DottedQuad

/-!
# Network ranges and their sub-zones

A reverse zone `range/prefix` is cut into `get_zone_index prefix` sub-zones of one,
two or three fixed octets. `RevZone` is a range the zone code is meant for : prefix
`8..24`, aligned, not `0.0.0.0`. On such a zone every function here succeeds, and its
text is the text of the sub-zone's network :

* `getZoneIndex_eq` : the number of sub-zones;
* `getOffsetIp_eq` : the network of sub-zone `i`;
* `getRangeSearchString_eq` : the pattern of sub-zone `i`, its fixed octets and a `%`.
-/

namespace Cmdb

open CString DottedQuad

/-! ## The functions -/

/-- `get_zone_index`. -/
def getZoneIndex (pfx : ℕ) : Except AilsaError ℕ :=
  if pfx = 0 then .error .noData
  else if pfx < 8 then .error .prefixOutOfRange
  else
    let i := if 8 < pfx ∧ pfx < 16 then 16 - pfx
      else if 16 < pfx ∧ pfx < 24 then 24 - pfx
      else 0
    .ok (if i ≠ 0 then 2 ^ i else 1)

/-- `convert_bin_ipv4_to_text`. -/
def convertBinIpv4ToText (ip : ℕ) : Except AilsaError CStr :=
  if ip = 0 then .error .noData else .ok (inetNtop ip)

/-- `convert_text_ipv4_to_bin`. -/
def convertTextIpv4ToBin (addr : CStr) : Except AilsaError ℕ :=
  match inetPton addr with
  | some q => .ok q.toNat
  | none => .error .ipConvertFailed

/-- `get_offset_ip`. -/
def getOffsetIp (range : CStr) (pfx index : ℕ) : Except AilsaError CStr :=
  if pfx = 0 then .error .noData
  else do
    let ip ← convertTextIpv4ToBin range
    if 16 < pfx ∧ pfx ≤ 24 then convertBinIpv4ToText (ip + 256 * index)
    else if 8 < pfx ∧ pfx ≤ 16 then convertBinIpv4ToText (ip + 256 * 256 * index)
    else if pfx = 8 then convertBinIpv4ToText ip
    else .error .ipConvertFailed

/-- `p = strchr(p, '.'); p++` on the offset `p` into `search`. -/
def skipDot (search : CStr) (p : ℕ) : Except AilsaError ℕ :=
  match strchr (search.drop p) '.' with
  | some k => .ok (p + k + 1)
  | none => .error .ipConvertFailed

/-- `get_range_search_string`. -/
def getRangeSearchString (range : CStr) (pfx index : ℕ) : Except AilsaError CStr :=
  if pfx = 0 then .error .noData
  else do
    let search ← getOffsetIp range pfx index
    let p ← skipDot search 0
    let p ← if 8 < pfx then skipDot search p else pure p
    let p ← if 16 < pfx then skipDot search p else pure p
    return writeAt search p 2 ['%']

/-- `get_start_finsh_ips` : the first and the last address. The decrement is on an
`unsigned long`, so behind `255.255.255.255` it wraps. -/
def getStartFinshIps (range : CStr) (pfx : ℕ) : Except AilsaError (ℕ × ℕ) := do
  let start ← convertTextIpv4ToBin range
  let index ← getZoneIndex pfx
  let ip ← getOffsetIp range pfx index
  let last ← convertTextIpv4ToBin ip
  return (start, (last + (2 ^ 64 - 1)) % 2 ^ 64)

/-! ## Reverse zones -/

/-- A range and prefix the zone code supports. -/
structure RevZone where
  net : Quad
  pfx : ℕ
  eight_le : 8 ≤ pfx
  le_twentyFour : pfx ≤ 24
  net_pos : 0 < net.toNat
  aligned : 2 ^ (32 - pfx) ∣ net.toNat

namespace RevZone

variable (z : RevZone)

/-- The range as the commands hold it. -/
def range : CStr := z.net.text

/-- The number of octets a sub-zone fixes. -/
def octets : ℕ := if 16 < z.pfx then 3 else if 8 < z.pfx then 2 else 1

/-- The number of addresses of a sub-zone. -/
def subSize : ℕ := 256 ^ (4 - z.octets)

/-- The number of sub-zones. -/
def subZones : ℕ := 2 ^ (32 - z.pfx) / z.subSize

/-- The network of sub-zone `i`. -/
def subNet (i : ℕ) : Quad := Quad.ofNat (z.net.toNat + z.subSize * i)

/-- The octet prefix of sub-zone `i`, with its closing dot. -/
def octetPrefix (i : ℕ) : CStr := (z.subNet i).netText z.octets

/-- The address lies in sub-zone `i`. -/
def InSubZone (i : ℕ) (a : Quad) : Prop :=
  z.net.toNat + z.subSize * i ≤ a.toNat ∧ a.toNat < z.net.toNat + z.subSize * (i + 1)

instance (i : ℕ) (a : Quad) : Decidable (z.InSubZone i a) :=
  inferInstanceAs (Decidable (_ ∧ _))

/-- The address lies in the block of the zone. -/
def InBlock (a : Quad) : Prop :=
  z.net.toNat ≤ a.toNat ∧ a.toNat < z.net.toNat + 2 ^ (32 - z.pfx)

instance (a : Quad) : Decidable (z.InBlock a) := inferInstanceAs (Decidable (_ ∧ _))

theorem octets_pos : 0 < z.octets := by
  unfold octets
  split_ifs <;> omega

theorem octets_le : z.octets ≤ 3 := by
  unfold octets
  split_ifs <;> omega

theorem octets_eq_cases : z.pfx = 8 ∧ z.octets = 1 ∨ 8 < z.pfx ∧ z.pfx ≤ 16 ∧ z.octets = 2 ∨
    16 < z.pfx ∧ z.octets = 3 := by
  have := z.eight_le
  unfold octets
  split_ifs <;> omega

theorem subSize_pos : 0 < z.subSize := Nat.pow_pos (by decide)

/-- The sub-zones fill the block. -/
theorem subZones_mul_subSize : z.subZones * z.subSize = 2 ^ (32 - z.pfx) := by
  refine Nat.div_mul_cancel ?_
  have := z.le_twentyFour
  have h256 : z.subSize = 2 ^ (8 * (4 - z.octets)) := by rw [subSize, pow_mul]; rfl
  rw [h256]
  refine pow_dvd_pow 2 ?_
  rcases z.octets_eq_cases with ⟨_, h⟩ | ⟨_, _, h⟩ | ⟨_, h⟩ <;> rw [h] <;> omega

theorem subSize_dvd : z.subSize ∣ z.net.toNat :=
  (Dvd.intro_left _ z.subZones_mul_subSize).trans z.aligned

theorem net_add_le : z.net.toNat + 2 ^ (32 - z.pfx) ≤ 4294967296 := by
  obtain ⟨k, hk⟩ := z.aligned
  have hlt := z.net.toNat_lt
  have hpow : 4294967296 = 2 ^ (32 - z.pfx) * 2 ^ z.pfx := by
    rw [← pow_add, Nat.sub_add_cancel (z.le_twentyFour.trans (by decide))]
    rfl
  rw [hk, hpow] at hlt
  rw [hk, hpow, ← Nat.mul_succ]
  exact Nat.mul_le_mul_left _ (Nat.lt_of_mul_lt_mul_left hlt)

variable {z} {i : ℕ} {a : Quad}

/-- The end of a sub-zone is inside the block. -/
theorem subSize_mul_succ_le (hi : i < z.subZones) : z.subSize * (i + 1) ≤ 2 ^ (32 - z.pfx) := by
  rw [← z.subZones_mul_subSize, mul_comm]
  exact Nat.mul_le_mul_right _ hi

theorem toNat_subNet (hi : i < z.subZones) :
    (z.subNet i).toNat = z.net.toNat + z.subSize * i := by
  refine Quad.toNat_ofNat ?_
  have h1 := z.net_add_le
  have h2 := subSize_mul_succ_le hi
  have h3 := z.subSize_pos
  rw [Nat.mul_succ] at h2
  omega

/-- An address is in sub-zone `i` iff it has the octet prefix of sub-zone `i`. -/
theorem inSubZone_iff (hi : i < z.subZones) :
    z.InSubZone i a ↔ z.octetPrefix i = a.netText z.octets := by
  obtain ⟨k, hk⟩ := z.subSize_dvd
  rw [octetPrefix, Quad.netText_eq_iff_div z.octets_le, toNat_subNet hi, ← subSize, InSubZone,
    hk, ← Nat.mul_add, ← Nat.mul_add, Nat.mul_div_cancel_left _ z.subSize_pos, ← add_assoc, eq_comm,
    Nat.div_eq_iff z.subSize_pos, mul_comm (k + i), Nat.mul_succ]
  have := z.subSize_pos
  omega

theorem octetPrefix_prefix_text_iff (hi : i < z.subZones) :
    z.octetPrefix i <+: a.text ↔ z.InSubZone i a := by
  rw [inSubZone_iff hi, octetPrefix, Quad.netText_prefix_text_iff z.octets_le]

theorem octetPrefix_append_eq_text_iff (hi : i < z.subZones) {s : CStr} :
    z.octetPrefix i ++ s = a.text ↔ z.InSubZone i a ∧ s = a.hostText z.octets := by
  rw [inSubZone_iff hi, octetPrefix, Quad.netText_append_eq_text_iff z.octets_le]

/-- Sub-zones do not meet. -/
theorem InSubZone.index_eq {j : ℕ} (hi : z.InSubZone i a) (hj : z.InSubZone j a) : i = j := by
  obtain ⟨h1, h2⟩ := hi
  obtain ⟨h3, h4⟩ := hj
  have hij : z.subSize * i < z.subSize * (j + 1) := by omega
  have hji : z.subSize * j < z.subSize * (i + 1) := by omega
  have := Nat.lt_of_mul_lt_mul_left hij
  have := Nat.lt_of_mul_lt_mul_left hji
  omega

theorem inBlock_iff : z.InBlock a ↔ ∃ i < z.subZones, z.InSubZone i a := by
  constructor
  · rintro ⟨h1, h2⟩
    refine ⟨(a.toNat - z.net.toNat) / z.subSize, ?_, ?_⟩
    · rw [Nat.div_lt_iff_lt_mul z.subSize_pos, z.subZones_mul_subSize]
      omega
    · have h3 := Nat.mul_div_le (a.toNat - z.net.toNat) z.subSize
      have h4 := Nat.lt_mul_div_succ (a.toNat - z.net.toNat) z.subSize_pos
      exact ⟨by omega, by omega⟩
  · rintro ⟨i, hi, h1, h2⟩
    have := subSize_mul_succ_le hi
    exact ⟨by omega, by omega⟩

/-- `10.1.0.0/16`. -/
def tenOne : RevZone where
  net := ⟨10, 1, 0, 0⟩
  pfx := 16
  eight_le := by decide
  le_twentyFour := by decide
  net_pos := by decide
  aligned := by decide

/-- `10.0.0.0/20`. -/
def ten20 : RevZone where
  net := ⟨10, 0, 0, 0⟩
  pfx := 20
  eight_le := by decide
  le_twentyFour := by decide
  net_pos := by decide
  aligned := by decide

/-- `10.0.2.0/24`. -/
def ten24 : RevZone where
  net := ⟨10, 0, 2, 0⟩
  pfx := 24
  eight_le := by decide
  le_twentyFour := by decide
  net_pos := by decide
  aligned := by decide

end RevZone

/-! ## The functions on a reverse zone -/

section

variable {z : RevZone} {i : ℕ}

theorem getZoneIndex_eq (z : RevZone) : getZoneIndex z.pfx = .ok z.subZones := by
  have h : ∀ p, 8 ≤ p → p ≤ 24 → getZoneIndex p = .ok (2 ^ (32 - p) / 256 ^ (4 - if 16 < p then 3
      else if 8 < p then 2 else 1)) := by
    intro p h8 h24
    interval_cases p <;> rfl
  exact h z.pfx z.eight_le z.le_twentyFour

theorem convertTextIpv4ToBin_text (q : Quad) : convertTextIpv4ToBin q.text = .ok q.toNat := by
  rw [convertTextIpv4ToBin, inetPton_text]

theorem getOffsetIp_eq (hi : i < z.subZones) :
    getOffsetIp z.range z.pfx i = .ok (z.subNet i).text := by
  have h0 := z.net_pos
  have h24 := z.le_twentyFour
  have hbin : convertBinIpv4ToText (z.net.toNat + z.subSize * i) = .ok (z.subNet i).text :=
    if_neg (by omega)
  rw [getOffsetIp, if_neg (by have := z.eight_le; omega), RevZone.range, convertTextIpv4ToBin_text,
    ok_bind]
  rcases z.octets_eq_cases with ⟨hp, h⟩ | ⟨hp, hp', h⟩ | ⟨hp, h⟩
  · have hi0 : i = 0 := by
      have h1 := z.subZones_mul_subSize
      rw [RevZone.subSize, h, hp] at h1
      omega
    rw [if_neg (by omega), if_neg (by omega), if_pos hp, ← hbin, hi0, mul_zero, add_zero]
  · rw [if_neg (by omega), if_pos ⟨hp, hp'⟩, ← hbin, RevZone.subSize, h]
    rfl
  · rw [if_pos ⟨hp, h24⟩, ← hbin, RevZone.subSize, h]
    rfl

theorem skipDot_text (q : Quad) {k : ℕ} (hk : k < 3) :
    skipDot q.text (q.netText k).length = .ok (q.netText (k + 1)).length := by
  obtain ⟨w, hw, hhost, hnet⟩ := q.exists_octetText_succ hk
  rw [skipDot, q.text_eq_netText_append hk.le, List.drop_left, hhost, strchr_append_cons hw, hnet]
  simp [add_assoc]

/-- The pattern of sub-zone `i` : its fixed octets, then `%`. -/
theorem getRangeSearchString_eq (hi : i < z.subZones) :
    getRangeSearchString z.range z.pfx i = .ok (z.octetPrefix i ++ ['%']) := by
  have h1 := skipDot_text (z.subNet i) (k := 0) (by decide)
  have h2 := skipDot_text (z.subNet i) (k := 1) (by decide)
  have h3 := skipDot_text (z.subNet i) (k := 2) (by decide)
  have hwrite : ∀ k ≤ 3, writeAt (z.subNet i).text ((z.subNet i).netText k).length 2 ['%'] =
      (z.subNet i).netText k ++ ['%'] := by
    intro k hk
    rw [(z.subNet i).text_eq_netText_append hk, writeAt_append]
    rfl
  rw [Quad.netText_zero, List.length_nil] at h1
  rw [getRangeSearchString, if_neg (by have := z.eight_le; omega), getOffsetIp_eq hi,
    RevZone.octetPrefix]
  simp only [ok_bind, h1, pure_eq_ok]
  rcases z.octets_eq_cases with ⟨hp, h⟩ | ⟨hp, hp', h⟩ | ⟨hp, h⟩
  · rw [if_neg (by omega), if_neg (by omega), h, hwrite 1 (by decide)]
  · rw [if_pos hp, h2, ok_bind, if_neg (by omega), h, hwrite 2 (by decide)]
  · rw [if_pos (by omega), h2, ok_bind, if_pos hp, h3, ok_bind, h, hwrite 3 (by decide)]

end

end Cmdb
