import Cmdb.FwdRecords
import Cmdb.RevZones

/-!
# Bounds and search patterns of a zone

What the zone code makes of a range and its prefix : the first and the last address of
the block, the `LIKE` patterns of its sub-zones, and the one pattern of the display of
addresses with several `A` records.

* `getStartFinshIps_block_iff` : the bounds are those of the block iff the prefix is not
  `8` and the block does not end at `255.255.255.255`;
* `getRangeSearchString_partition` : the patterns of the sub-zones take each address of
  the block once, and no other;
* `getSearchNetRange_covers_iff` : the pattern of the display keeps one, two or three
  octets, and takes the addresses of the block iff the prefix ends at one of them.
-/

namespace Cmdb

open CString DottedQuad

/-! ## The bounds -/

section Bounds

variable {q : Quad} {pfx : ℕ}

theorem getZoneIndex_ok (h8 : 8 ≤ pfx) : ∃ index, getZoneIndex pfx = .ok index := by
  rw [getZoneIndex, if_neg (by omega), if_neg (by omega)]
  exact ⟨_, rfl⟩

/-- From `9` on, the offset of the index is the size of the block. -/
theorem getOffsetIp_index {index : ℕ} (hindex : getZoneIndex pfx = .ok index) (h8 : 8 < pfx)
    (h24 : pfx ≤ 24) :
    getOffsetIp q.text pfx index = .ok (inetNtop (q.toNat + 2 ^ (32 - pfx))) := by
  obtain ⟨hthird, hsecond⟩ := getZoneIndex_mul hindex h24
  have hpow := Nat.two_pow_pos (32 - pfx)
  rw [getOffsetIp, if_neg (by omega), convertTextIpv4ToBin_text, ok_bind]
  by_cases h16 : 16 < pfx
  · rw [if_pos ⟨h16, h24⟩, hthird h16]
    exact if_neg (by omega)
  · rw [if_neg (by omega), if_pos ⟨h8, by omega⟩, hsecond h8 (by omega)]
    exact if_neg (by omega)

theorem getStartFinshIps_eq (h8 : 8 < pfx) (h24 : pfx ≤ 24) :
    getStartFinshIps q.text pfx =
      .ok (q.toNat, ((Quad.ofNat (q.toNat + 2 ^ (32 - pfx))).toNat + (2 ^ 64 - 1)) % 2 ^ 64) := by
  obtain ⟨index, hindex⟩ := getZoneIndex_ok h8.le
  rw [getStartFinshIps, convertTextIpv4ToBin_text, ok_bind, hindex, ok_bind,
    getOffsetIp_index hindex h8 h24, ok_bind, inetNtop, convertTextIpv4ToBin_text, ok_bind]
  rfl

/-- An aligned block ends inside the address space. -/
theorem block_le (h24 : pfx ≤ 24) (haligned : 2 ^ (32 - pfx) ∣ q.toNat) :
    q.toNat + 2 ^ (32 - pfx) ≤ 2 ^ 32 := by
  have hdvd : 2 ^ (32 - pfx) ∣ 2 ^ 32 - q.toNat :=
    Nat.dvd_sub (pow_dvd_pow 2 (by omega)) haligned
  have hlt := q.toNat_lt
  have := Nat.le_of_dvd (by omega) hdvd
  omega

/-- `get_start_finsh_ips` returns the first and the last address of the block iff the prefix
is not `8` and the block does not end at `255.255.255.255`. -/
theorem getStartFinshIps_block_iff (q : Quad) (pfx : ℕ) (h8 : 8 ≤ pfx) (h24 : pfx ≤ 24)
    (haligned : 2 ^ (32 - pfx) ∣ q.toNat) :
    getStartFinshIps q.text pfx = .ok (q.toNat, q.toNat + 2 ^ (32 - pfx) - 1) ↔
      pfx ≠ 8 ∧ q.toNat + 2 ^ (32 - pfx) < 2 ^ 32 := by
  have hpow := Nat.two_pow_pos (32 - pfx)
  have hle := block_le h24 haligned
  rcases h8.eq_or_lt with rfl | h8
  · refine ⟨fun h => ?_, fun h => absurd rfl h.1⟩
    obtain ⟨-, -, -, -, -, hlt, -⟩ := getStartFinshIps_ok h
    have := hlt rfl
    omega
  · rw [getStartFinshIps_eq h8 h24, Except.ok.injEq, Prod.mk.injEq, and_iff_right rfl,
      and_iff_right (by omega : pfx ≠ 8)]
    rcases hle.eq_or_lt with heq | hlt
    · rw [heq]
      have h0 : (Quad.ofNat (2 ^ 32)).toNat = 0 := by decide
      rw [h0]
      omega
    · rw [Quad.toNat_ofNat hlt]
      omega

/-- `192.168.80.0/21` -/
theorem getStartFinshIps_block_iff_sample :
    getStartFinshIps (⟨192, 168, 80, 0⟩ : Quad).text 21 =
        .ok ((⟨192, 168, 80, 0⟩ : Quad).toNat,
          (⟨192, 168, 80, 0⟩ : Quad).toNat + 2 ^ (32 - 21) - 1) ↔
      21 ≠ 8 ∧ (⟨192, 168, 80, 0⟩ : Quad).toNat + 2 ^ (32 - 21) < 2 ^ 32 :=
  getStartFinshIps_block_iff ⟨192, 168, 80, 0⟩ 21 (by decide) (by decide) (by decide)

/-- Not so for `10.0.0.0/8`, a zone of `list_test_zones`. -/
theorem getStartFinshIps_not_block :
    ¬∀ (q : Quad) (pfx : ℕ), 8 ≤ pfx → pfx ≤ 24 → 2 ^ (32 - pfx) ∣ q.toNat →
      getStartFinshIps q.text pfx = .ok (q.toNat, q.toNat + 2 ^ (32 - pfx) - 1) := by
  intro h
  have h := h ⟨10, 0, 0, 0⟩ 8 (by decide) (by decide) (by decide)
  obtain ⟨-, -, -, -, -, hlt, -⟩ := getStartFinshIps_ok h
  exact absurd (hlt rfl) (by decide)

end Bounds

/-! ## The patterns of the sub-zones -/

/-- The text is `LIKE` the pattern of sub-zone `index`. -/
def InSearchRange (range : CStr) (pfx index : ℕ) (text : CStr) : Prop :=
  ∃ search, getRangeSearchString range pfx index = .ok search ∧ like search text = true

theorem like_netText_iff {p q : Quad} {k : ℕ} (hk : k ≤ 3) :
    like (p.netText k ++ ['%']) q.text = true ↔ p.netText k = q.netText k := by
  rw [Quad.netText, like_append_percent_iff fun c hc => isDigit_or_dot_of_mem_dotted hc]
  exact Quad.netText_prefix_text_iff hk

section Patterns

variable {z : RevZone} {i : ℕ} {a : Quad}

theorem inSearchRange_iff (hi : i < z.subZones) :
    InSearchRange z.range z.pfx i a.text ↔ z.InSubZone i a := by
  rw [InSearchRange, getRangeSearchString_eq hi, RevZone.inSubZone_iff hi, RevZone.octetPrefix,
    ← like_netText_iff z.octets_le]
  constructor
  · rintro ⟨_, h, hlike⟩
    exact Except.ok.inj h ▸ hlike
  · exact fun hlike => ⟨_, rfl, hlike⟩

/-- The zone has `get_zone_index` patterns. The text of an address of the block is `LIKE`
exactly one of them, the text of any other address is `LIKE` none. -/
theorem getRangeSearchString_partition (z : RevZone) :
    ∃ index, getZoneIndex z.pfx = .ok index ∧
      (∀ i < index, ∃ search, getRangeSearchString z.range z.pfx i = .ok search) ∧
      (∀ a : Quad, z.InBlock a →
        ∃! i, i < index ∧ InSearchRange z.range z.pfx i a.text) ∧
      ∀ a : Quad, ¬z.InBlock a → ∀ i < index, ¬InSearchRange z.range z.pfx i a.text := by
  refine ⟨z.subZones, getZoneIndex_eq z, fun i hi => ⟨_, getRangeSearchString_eq hi⟩,
    fun a ha => ?_, fun a ha i hi hmatch => ?_⟩
  · obtain ⟨i, hi, hin⟩ := RevZone.inBlock_iff.mp ha
    refine ⟨i, ⟨hi, (inSearchRange_iff hi).mpr hin⟩, ?_⟩
    rintro j ⟨hj, hmatch⟩
    exact ((inSearchRange_iff hj).mp hmatch).index_eq hin
  · exact ha (RevZone.inBlock_iff.mpr ⟨i, hi, (inSearchRange_iff hi).mp hmatch⟩)

end Patterns

/-! ## The pattern of the display -/

/-- `tmp = strrchr(range, '.')`, an offset into `range`. -/
def lastDot (range : CStr) : Except AilsaError ℕ :=
  match strrchr range '.' with
  | some p => .ok p
  | none => .error .rangeError

/-- `get_search_net_range`. -/
def getSearchNetRange (domain : CStr) (pfx : ℕ) : Except AilsaError CStr :=
  if pfx = 0 then .error .noData
  else do
    let range := snprintf macLen domain
    let tmp ← lastDot range
    let (range, tmp) ←
      if pfx < 24 then do
        let range := cut range tmp
        let tmp ← lastDot range
        if pfx < 16 then do
          let range := cut range tmp
          let tmp ← lastDot range
          pure (range, tmp)
        else pure (range, tmp)
      else pure (range, tmp)
    return cut range (tmp + 1) ++ ['%']

/-- The text is `LIKE` the pattern of the display. -/
def InSearchNetRange (domain : CStr) (pfx : ℕ) (text : CStr) : Prop :=
  ∃ range, getSearchNetRange domain pfx = .ok range ∧ like range text = true

namespace RevZone

/-- The number of octets the display keeps. -/
def netOctets (z : RevZone) : ℕ := if z.pfx < 16 then 1 else if z.pfx < 24 then 2 else 3

theorem netOctets_eq_cases (z : RevZone) : z.pfx < 16 ∧ z.netOctets = 1 ∨
    16 ≤ z.pfx ∧ z.pfx < 24 ∧ z.netOctets = 2 ∨ z.pfx = 24 ∧ z.netOctets = 3 := by
  have := z.le_twentyFour
  unfold netOctets
  split_ifs <;> omega

theorem netOctets_le (z : RevZone) : z.netOctets ≤ 3 := by
  rcases z.netOctets_eq_cases with h | h | h <;> omega

/-- The octets the display keeps are fixed in the zone. -/
theorem eight_mul_netOctets_le (z : RevZone) : 8 * z.netOctets ≤ z.pfx := by
  have := z.eight_le
  rcases z.netOctets_eq_cases with h | h | h <;> omega

theorem eq_eight_mul_netOctets_iff (z : RevZone) :
    z.pfx = 8 * z.netOctets ↔ z.pfx = 8 ∨ z.pfx = 16 ∨ z.pfx = 24 := by
  rcases z.netOctets_eq_cases with h | h | h <;> omega

end RevZone

section Display

variable {q : Quad} {w : CStr} {k : ℕ}

theorem netText_append_eq (q : Quad) (w : CStr) (hk : 0 < k) :
    q.netText k ++ w = q.netStem k ++ '.' :: w := by
  rw [← q.netStem_append hk, List.append_assoc, List.singleton_append]

/-- The last dot closes the octets in front of a word without dots. -/
theorem lastDot_netText_append (hk : 0 < k) (hw : '.' ∉ w) :
    lastDot (q.netText k ++ w) = .ok (q.netStem k).length := by
  rw [lastDot, netText_append_eq q w hk, strrchr_append_cons hw]

theorem cut_netText_append (hk : 0 < k) :
    cut (q.netText k ++ w) (q.netStem k).length = q.netStem k := by
  rw [netText_append_eq q w hk, cut_append]

theorem cut_succ_netText_append (hk : 0 < k) :
    cut (q.netText k ++ w) ((q.netStem k).length + 1) = q.netText k := by
  have hlen : (q.netStem k).length + 1 = (q.netText k).length := by
    rw [← q.netStem_append hk, List.length_append, List.length_singleton]
  rw [hlen, cut_append]

/-- A cut at the last dot takes one octet away. -/
theorem exists_netStem_succ (q : Quad) (hk : k < 3) :
    ∃ w, '.' ∉ w ∧ q.netStem (k + 1) = q.netText k ++ w := by
  obtain ⟨w, hw, -, hnet⟩ := q.exists_octetText_succ hk
  exact ⟨w, hw, by rw [Quad.netStem, hnet, List.dropLast_concat]⟩

/-- The pattern of the display : the octets it keeps and a `%`. -/
theorem getSearchNetRange_eq (z : RevZone) :
    getSearchNetRange z.range z.pfx = .ok (z.net.netText z.netOctets ++ ['%']) := by
  have h8 := z.eight_le
  obtain ⟨w₁, hw₁, h₂⟩ := exists_netStem_succ z.net (k := 1) (by decide)
  obtain ⟨w₂, hw₂, h₃⟩ := exists_netStem_succ z.net (k := 2) (by decide)
  have hw₃ : '.' ∉ z.net.hostText 3 := List.count_eq_zero.mp (z.net.count_dot_hostText le_rfl)
  have hcopy : snprintf macLen z.range = z.net.netText 3 ++ z.net.hostText 3 := by
    rw [← z.net.text_eq_netText_append le_rfl]
    exact snprintf_of_length_lt (z.net.length_text_lt.trans (by decide))
  rw [getSearchNetRange, if_neg (by omega)]
  simp only [hcopy, lastDot_netText_append (k := 3) (by decide) hw₃, ok_bind,
    cut_netText_append (k := 3) (by decide)]
  rcases z.netOctets_eq_cases with ⟨hp, h⟩ | ⟨hp, hp', h⟩ | ⟨hp, h⟩
  · rw [if_pos (by omega), h₃, lastDot_netText_append (by decide) hw₂, ok_bind, if_pos hp,
      cut_netText_append (by decide), h₂, lastDot_netText_append (by decide) hw₁, h]
    simp only [ok_bind, pure_eq_ok, cut_succ_netText_append (k := 1) (by decide)]
  · rw [if_pos hp', h₃, lastDot_netText_append (by decide) hw₂, ok_bind, if_neg (by omega), h]
    simp only [ok_bind, pure_eq_ok, cut_succ_netText_append (k := 2) (by decide)]
  · rw [if_neg (by omega), h]
    simp only [ok_bind, pure_eq_ok, cut_succ_netText_append (k := 3) (by decide)]

variable {z : RevZone} {a : Quad}

/-- The size of what the display takes. -/
def RevZone.netSize (z : RevZone) : ℕ := 256 ^ (4 - z.netOctets)

theorem inSearchNetRange_iff :
    InSearchNetRange z.range z.pfx a.text ↔ a.toNat / z.netSize = z.net.toNat / z.netSize := by
  rw [InSearchNetRange, getSearchNetRange_eq, RevZone.netSize, eq_comm,
    ← Quad.netText_eq_iff_div z.netOctets_le, ← like_netText_iff z.netOctets_le]
  constructor
  · rintro ⟨_, h, hlike⟩
    exact Except.ok.inj h ▸ hlike
  · exact fun hlike => ⟨_, rfl, hlike⟩

theorem RevZone.netSize_eq (z : RevZone) : z.netSize = 2 ^ (32 - 8 * z.netOctets) := by
  have := z.netOctets_le
  rw [netSize, (by rfl : 256 = 2 ^ 8), ← pow_mul]
  congr 1
  omega

/-- What the display takes is the block iff it has the size of the block. -/
theorem netSize_eq_iff (z : RevZone) :
    (∀ a : Quad, a.toNat / z.netSize = z.net.toNat / z.netSize ↔ z.InBlock a) ↔
      z.netSize = 2 ^ (32 - z.pfx) := by
  have hpos : 0 < z.netSize := Nat.pow_pos (by decide)
  have hblock := Nat.two_pow_pos (32 - z.pfx)
  constructor
  · intro h
    by_contra hne
    -- the first and the last address the display takes do not both fit into the block
    have hlt : 2 ^ (32 - z.pfx) < z.netSize := by
      rw [z.netSize_eq] at hne ⊢
      have hle := z.eight_mul_netOctets_le
      refine lt_of_le_of_ne (pow_le_pow_right₀ (by decide) (by omega)) (Ne.symm hne)
    have hfirst := Nat.mul_div_le z.net.toNat z.netSize
    have hfit : z.netSize * (z.net.toNat / z.netSize) + z.netSize ≤ 4294967296 := by
      have hdvd : z.netSize ∣ 4294967296 := by
        rw [z.netSize_eq]
        exact pow_dvd_pow 2 (by omega : 32 - 8 * z.netOctets ≤ 32)
      obtain ⟨m, hm⟩ := hdvd
      have hdiv : z.net.toNat / z.netSize < m := by
        rw [Nat.div_lt_iff_lt_mul hpos, mul_comm, ← hm]
        exact z.net.toNat_lt
      rw [← Nat.mul_succ, hm]
      exact Nat.mul_le_mul_left _ hdiv
    have hends : ∀ d < z.netSize,
        z.InBlock (Quad.ofNat (z.netSize * (z.net.toNat / z.netSize) + d)) := by
      intro d hd
      refine (h _).mp ?_
      rw [Quad.toNat_ofNat (by omega), Nat.mul_add_div hpos, Nat.div_eq_of_lt hd, add_zero]
    have h1 := (hends 0 hpos).1
    have h2 := (hends (z.netSize - 1) (by omega)).2
    rw [Quad.toNat_ofNat (by omega)] at h1 h2
    omega
  · intro h a
    obtain ⟨m, hm⟩ := z.aligned
    rw [h, RevZone.InBlock, hm, Nat.mul_div_cancel_left _ hblock, Nat.div_eq_iff hblock, mul_comm m]
    omega

/-- The pattern of the display takes the addresses the patterns of the sub-zones take iff
the prefix is `8`, `16` or `24`. -/
theorem getSearchNetRange_covers_iff (z : RevZone) :
    (∀ a : Quad, InSearchNetRange z.range z.pfx a.text ↔
      ∃ index, getZoneIndex z.pfx = .ok index ∧
        ∃ i < index, InSearchRange z.range z.pfx i a.text) ↔
      z.pfx = 8 ∨ z.pfx = 16 ∨ z.pfx = 24 := by
  have hbuild : ∀ a : Quad, (∃ index, getZoneIndex z.pfx = .ok index ∧
      ∃ i < index, InSearchRange z.range z.pfx i a.text) ↔ z.InBlock a := by
    intro a
    rw [getZoneIndex_eq, RevZone.inBlock_iff]
    constructor
    · rintro ⟨index, hindex, i, hi, hmatch⟩
      cases hindex
      exact ⟨i, hi, (inSearchRange_iff hi).mp hmatch⟩
    · rintro ⟨i, hi, hin⟩
      exact ⟨z.subZones, rfl, i, hi, (inSearchRange_iff hi).mpr hin⟩
  simp only [inSearchNetRange_iff, hbuild]
  rw [netSize_eq_iff, z.netSize_eq, ← z.eq_eight_mul_netOctets_iff,
    (Nat.pow_right_injective le_rfl).eq_iff]
  have := z.eight_mul_netOctets_le
  have := z.le_twentyFour
  omega

/-- The display of `10.0.0.0/20` takes `10.0.16.1`, the build does not. -/
theorem getSearchNetRange_not_covers :
    ¬∀ (z : RevZone) (a : Quad), InSearchNetRange z.range z.pfx a.text ↔
      ∃ index, getZoneIndex z.pfx = .ok index ∧
        ∃ i < index, InSearchRange z.range z.pfx i a.text := by
  intro h
  obtain ⟨index, hindex, i, hi, hmatch⟩ :=
    (h .ten20 ⟨10, 0, 16, 1⟩).mp (inSearchNetRange_iff.mpr (by decide))
  rw [getZoneIndex_eq] at hindex
  cases hindex
  have hin := RevZone.inBlock_iff.mpr ⟨i, hi, (inSearchRange_iff hi).mp hmatch⟩
  exact absurd hin (by decide)

end Display

end Cmdb
