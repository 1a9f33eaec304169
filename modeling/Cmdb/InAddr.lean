import Mathlib.Data.List.Induction
import Cmdb.NetRange

/-!
# Owner names of reverse records

The zone file of sub-zone `i` is loaded under the name `get_in_addr_string` makes from
the sub-zone's network, and its `PTR` lines start with the host part
`cmdb_get_rev_dest_from_search` cuts out of the address. The full owner name is the
standard reverse name of the address only when the host part reads the same in both
directions : the zone name is reversed, the host part is not.

* `getInAddrString_eq` : the zone name, the fixed octets in reversed order;
* `ptrOwnerName_eq` : the owner name of an address in its sub-zone;
* `ptrOwnerName_eq_reverseName_iff` : when it is the reverse name.
-/

namespace Cmdb

open CString DottedQuad

/-! ## The functions -/

/-- `*strrchr(line, '.') = 0`. -/
def cutLastDot (line : CStr) : Except AilsaError CStr :=
  match strrchr line '.' with
  | some p => .ok (cut line p)
  | none => .error .nullDeref

/-- The loop of `get_in_addr_string` : move what stands behind the last dot of `line`
to the end of `in_addr`. -/
def moveOctets (inAddr line : CStr) : CStr × CStr :=
  match _h : strrchr line '.' with
  | some p => moveOctets (strncat inAddr (line.drop (p + 1)) serviceLen ++ ['.']) (cut line p)
  | none => (inAddr, line)
termination_by line.length
decreasing_by exact length_cut_strrchr_lt _h

/-- `get_in_addr_string` : `in_addr` is empty on entry. -/
def getInAddrString (range : CStr) (pfx : ℕ) : Except AilsaError CStr := do
  let (inAddr, line) ←
    if pfx ≤ 24 ∧ 16 < pfx then do
      let line ← cutLastDot range
      pure (moveOctets [] line)
    else if pfx ≤ 16 ∧ 8 < pfx then do
      let line ← cutLastDot range
      let line ← cutLastDot line
      pure (moveOctets [] line)
    else if pfx = 8 then do
      let line ← cutLastDot range
      let line ← cutLastDot line
      let line ← cutLastDot line
      pure (moveOctets [] line)
    else pure ([], range)
  return strncat (strncat inAddr line serviceLen) ".in-addr.arpa".toList serviceLen

/-- `cmdb_get_rev_dest_from_search` : `dest` behind the pattern, the `%` not counted. -/
def cmdbGetRevDestFromSearch (search dest : CStr) : CStr :=
  snprintf macLen (dest.drop (search.length - 1))

/-- The owner name of the `PTR` line for `dest` : the host `write_rev_zone_records` puts
in the file of sub-zone `index`, under the name of that file's zone. -/
def ptrOwnerName (range : CStr) (pfx index : ℕ) (dest : CStr) : Except AilsaError CStr := do
  let search ← getRangeSearchString range pfx index
  let net ← getOffsetIp range pfx index
  let zone ← getInAddrString net pfx
  return cmdbGetRevDestFromSearch search dest ++ '.' :: zone

/-! ## The zone name -/

/-- The reverse name of some leading octets. -/
def inAddrName (os : List ℕ) : CStr := dotted os.reverse ++ "in-addr.arpa".toList

/-- The standard reverse name `d.c.b.a.in-addr.arpa`. -/
def reverseName (a : Quad) : CStr := inAddrName a.octets

theorem moveOctets_eq_of_notMem {line : CStr} (h : '.' ∉ line) (inAddr : CStr) :
    moveOctets inAddr line = (inAddr, line) := by
  rw [moveOctets]
  split
  next p hp => rw [strrchr_eq_none.mpr h] at hp; cases hp
  next => rfl

theorem moveOctets_append_cons {w : CStr} (hw : '.' ∉ w) (hlen : w.length ≤ serviceLen)
    (inAddr line : CStr) :
    moveOctets inAddr (line ++ '.' :: w) = moveOctets (inAddr ++ w ++ ['.']) line := by
  rw [moveOctets]
  have hdrop : (line ++ '.' :: w).drop (line.length + 1) = w := by simp [List.drop_append]
  split
  next p hp =>
    rw [strrchr_append_cons hw] at hp
    cases hp
    rw [hdrop, cut_append, strncat, List.take_of_length_le hlen]
  next hp => rw [strrchr_append_cons hw] at hp; cases hp

/-- Octets `o.os` behind one another, as `get_in_addr_string` holds them. -/
theorem moveOctets_octets (o : ℕ) : ∀ (os : List ℕ), (∀ x ∈ os, x < 256) →
    ∀ inAddr, moveOctets inAddr (octetText o ++ os.flatMap fun x => '.' :: octetText x) =
      (inAddr ++ dotted os.reverse, octetText o) := by
  intro os
  induction os using List.reverseRecOn with
  | nil =>
    intro _ inAddr
    simp [moveOctets_eq_of_notMem (dot_notMem_octetText o)]
  | append_singleton os x ih =>
    intro hos inAddr
    have hx : x < 256 := hos x (by simp)
    have hlen : (octetText x).length ≤ serviceLen :=
      (length_octetText_le ⟨x, hx⟩).trans (by decide)
    have h : octetText o ++ (os ++ [x]).flatMap (fun x => '.' :: octetText x) =
        (octetText o ++ os.flatMap fun x => '.' :: octetText x) ++ '.' :: octetText x := by simp
    rw [h, moveOctets_append_cons (dot_notMem_octetText x) hlen,
      ih (fun y hy => hos y (by simp [hy]))]
    simp

theorem cutLastDot_append_cons {w : CStr} (hw : '.' ∉ w) (line : CStr) :
    cutLastDot (line ++ '.' :: w) = .ok line := by
  rw [cutLastDot, strrchr_append_cons hw]
  dsimp only
  rw [cut_append]

/-- The zone name of a sub-zone : its fixed octets, reversed. -/
theorem getInAddrString_eq (z : RevZone) (q : Quad) :
    getInAddrString q.text z.pfx = .ok (inAddrName (q.octets.take z.octets)) := by
  have ha := dot_notMem_octetText q.a
  have hb := dot_notMem_octetText q.b
  have hc := dot_notMem_octetText q.c
  have hd := dot_notMem_octetText q.d
  have htext : q.text = ((octetText q.a ++ '.' :: octetText q.b) ++ '.' :: octetText q.c) ++
      '.' :: octetText q.d := by simp [Quad.text, Quad.hostText, Quad.octets]
  have hmove : ∀ os : List ℕ, (∀ x ∈ os, x < 256) →
      moveOctets [] (octetText q.a ++ os.flatMap fun x => '.' :: octetText x) =
        (dotted os.reverse, octetText q.a) := fun os hos =>
    moveOctets_octets _ os hos []
  have h24 := z.le_twentyFour
  have hcat : ∀ os : List ℕ, strncat (strncat (dotted os.reverse) (octetText q.a) serviceLen)
      ".in-addr.arpa".toList serviceLen = inAddrName (q.a :: os) := by
    intro os
    rw [strncat, strncat, List.take_of_length_le ((length_octetText_le _).trans (by decide)),
      inAddrName, List.reverse_cons, dotted_append]
    simp
  rw [getInAddrString, htext]
  rcases z.octets_eq_cases with ⟨hp, h⟩ | ⟨hp, hp', h⟩ | ⟨hp, h⟩
  · rw [if_neg (by omega), if_neg (by omega), if_pos hp, cutLastDot_append_cons hd, ok_bind,
      cutLastDot_append_cons hc, ok_bind, cutLastDot_append_cons hb, ok_bind]
    have hm := hmove [] (by simp)
    rw [List.flatMap_nil, List.append_nil] at hm
    rw [hm, h]
    exact congrArg _ (hcat [])
  · rw [if_neg (by omega), if_pos ⟨hp', hp⟩, cutLastDot_append_cons hd, ok_bind,
      cutLastDot_append_cons hc, ok_bind]
    have hm := hmove [q.b] (by simp)
    rw [List.flatMap_singleton] at hm
    rw [hm, h]
    exact congrArg _ (hcat [q.b])
  · rw [if_pos ⟨h24, hp⟩, cutLastDot_append_cons hd, ok_bind]
    have hm := hmove [q.b, q.c] (by simp)
    rw [List.flatMap_cons, List.flatMap_singleton, ← List.append_assoc] at hm
    rw [hm, h]
    exact congrArg _ (hcat [q.b, q.c])

/-! ## Owner names -/

variable {z : RevZone} {i : ℕ} {a : Quad}

/-- The host written for an address of sub-zone `i`. -/
theorem cmdbGetRevDestFromSearch_eq (hi : i < z.subZones) (ha : z.InSubZone i a) :
    cmdbGetRevDestFromSearch (z.octetPrefix i ++ ['%']) a.text = a.hostText z.octets := by
  have hlen := a.length_hostText_lt z.octets_le
  rw [cmdbGetRevDestFromSearch, List.length_append, List.length_singleton, Nat.add_sub_cancel,
    a.text_eq_netText_append z.octets_le, (RevZone.inSubZone_iff hi).mp ha, List.drop_left,
    snprintf_of_length_lt (hlen.trans (by decide))]

theorem ptrOwnerName_eq (hi : i < z.subZones) (ha : z.InSubZone i a) :
    ptrOwnerName z.range z.pfx i a.text =
      .ok (a.hostText z.octets ++ '.' :: inAddrName (a.octets.take z.octets)) := by
  have h := (RevZone.inSubZone_iff hi).mp ha
  rw [RevZone.octetPrefix, Quad.netText_eq_iff_take] at h
  rw [ptrOwnerName, getRangeSearchString_eq hi, ok_bind, getOffsetIp_eq hi, ok_bind,
    getInAddrString_eq, ok_bind, cmdbGetRevDestFromSearch_eq hi ha, h]
  rfl

/-- The host octets come out in the order of the address, so the owner name is the
reverse name iff they read the same in both directions. -/
theorem ptrOwnerName_eq_reverseName_iff_reverse (hi : i < z.subZones) (ha : z.InSubZone i a) :
    ptrOwnerName z.range z.pfx i a.text = .ok (reverseName a) ↔
      a.octets.drop z.octets = (a.octets.drop z.octets).reverse := by
  have hsplit : reverseName a = dotted (a.octets.drop z.octets).reverse ++
      inAddrName (a.octets.take z.octets) := by
    rw [reverseName, inAddrName, inAddrName, ← List.append_assoc, ← dotted_append,
      ← List.reverse_append, List.take_append_drop]
  rw [ptrOwnerName_eq hi ha, hsplit, Except.ok.injEq, ← List.singleton_append, ← List.append_assoc,
    a.hostText_append_dot z.octets_le, List.append_left_inj, dotted_inj (List.length_reverse).symm]

/-- In which cases a reverse record is written under the reverse name of its address. -/
theorem ptrOwnerName_eq_reverseName_iff (hi : i < z.subZones) (ha : z.InSubZone i a) :
    ptrOwnerName z.range z.pfx i a.text = .ok (reverseName a) ↔
      16 < z.pfx ∨ 8 < z.pfx ∧ a.c = a.d ∨ z.pfx = 8 ∧ a.b = a.d := by
  rw [ptrOwnerName_eq_reverseName_iff_reverse hi ha]
  rcases z.octets_eq_cases with ⟨hp, h⟩ | ⟨hp, hp', h⟩ | ⟨hp, h⟩
  · rw [h]
    simp [Quad.octets, hp, Fin.ext_iff]
    omega
  · rw [h]
    simp [Quad.octets, hp, hp'.not_gt, hp.ne', Fin.ext_iff]
    omega
  · rw [h]
    simp [Quad.octets, hp]

theorem ptrOwnerName_eq_reverseName_iff_tenOne :
    ptrOwnerName RevZone.tenOne.range 16 0 (Quad.text ⟨10, 1, 7, 7⟩) =
      .ok (reverseName ⟨10, 1, 7, 7⟩) :=
  (ptrOwnerName_eq_reverseName_iff (z := RevZone.tenOne) (i := 0) (a := ⟨10, 1, 7, 7⟩)
    (by decide) (by decide)).mpr (by decide)

/-- `10.1.2.3` in `10.1.0.0/16` is written as `2.3.1.10.in-addr.arpa`. -/
theorem ptrOwnerName_tenOne_ne_reverseName :
    RevZone.tenOne.net.toNat + 2 ^ (32 - RevZone.tenOne.pfx) ≤ 4294967295 ∧
    0 < RevZone.tenOne.subZones ∧ RevZone.tenOne.InSubZone 0 ⟨10, 1, 2, 3⟩ ∧
    ptrOwnerName RevZone.tenOne.range RevZone.tenOne.pfx 0 (Quad.text ⟨10, 1, 2, 3⟩) =
      .ok "2.3.1.10.in-addr.arpa".toList ∧
    ptrOwnerName RevZone.tenOne.range RevZone.tenOne.pfx 0 (Quad.text ⟨10, 1, 2, 3⟩) ≠
      .ok (reverseName ⟨10, 1, 2, 3⟩) := by
  have h := ptrOwnerName_eq (z := RevZone.tenOne) (i := 0) (a := ⟨10, 1, 2, 3⟩) (by decide)
    (by decide)
  rw [h]
  refine ⟨by decide, by decide, by decide, ?_, ?_⟩ <;> decide

end Cmdb
