import Cmdb.RevFiles
import Cmdb.ZoneConfig

/-!
# The reverse configuration and the zone files

`ailsa_fill_rev_zone_list` and `cmdb_validate_rev_zone` each cut a zone into its
sub-zones. For stored master zones they come to the same sub-zones in the same order :
`fillRevZoneList_masters` gives the entries, and `fillRevZoneList_matches_files` compares
them with the files. The zone names of the entries differ, since the name of a sub-zone
gives back its octets (`inAddrName_inj`) and the blocks of the zones are disjoint.
-/

namespace Cmdb

open CString DottedQuad

variable {env : ZoneEnv} {w : ZoneWorld} {z : RevZone} {r : RevZoneRow}

/-! ## Names of sub-zones -/

/-- The octets can be read off the zone name. -/
theorem inAddrName_inj {os os' : List ℕ} : inAddrName os = inAddrName os' ↔ os = os' := by
  constructor
  · intro h
    have hdotted := List.append_cancel_right h
    have hlen : os.reverse.length = os'.reverse.length := by
      rw [← count_dot_dotted, ← count_dot_dotted, hdotted]
    exact List.reverse_injective ((dotted_inj hlen).mp hdotted)
  · rintro rfl
    rfl

/-- The zone name of sub-zone `i`. -/
def RevZone.subName (z : RevZone) (i : ℕ) : CStr := inAddrName ((z.subNet i).octets.take z.octets)

/-- Sub-zones of one name share an address, the network of the second. -/
theorem inSubZone_of_subName_eq {z' : RevZone} {i j : ℕ} (hi : i < z.subZones)
    (hj : j < z'.subZones) (h : z.subName i = z'.subName j) :
    z.InSubZone i (z'.subNet j) ∧ z'.InSubZone j (z'.subNet j) := by
  have htake := inAddrName_inj.mp h
  have hoctets : z.octets = z'.octets := by
    have hlen := congrArg List.length htake
    have := z.octets_le
    have := z'.octets_le
    simp only [List.length_take, Quad.octets, List.length_cons, List.length_nil] at hlen
    omega
  constructor
  · rw [RevZone.inSubZone_iff hi, RevZone.octetPrefix, Quad.netText_eq_iff_take, htake, hoctets]
  · rw [RevZone.inSubZone_iff hj, RevZone.octetPrefix]

/-! ## The list of entries -/

/-- The row is as a master zone is stored : the master column holds a text. -/
structure RevMasterRow (z : RevZone) (r : RevZoneRow) : Prop where
  netRange : r.netRange = z.range
  pfx : r.pfx = numText z.pfx
  type : r.type = "master".toList
  master : ∃ m, r.master = some m

/-- The entry of sub-zone `i`. -/
structure RevEntry (z : RevZone) (i : ℕ) (e : AilsaRevZone) : Prop where
  type : e.type = "master".toList
  netRange : e.netRange = (z.subNet i).text
  inAddr : e.inAddr = z.subName i

theorem strtoul_numText {p : ℕ} (h : p ≤ 32) : strtoul (numText p) = p := by
  interval_cases p <;> rfl

theorem RevZone.length_range_le (z : RevZone) : z.range.length ≤ configLen :=
  z.net.length_text_lt.le.trans (by decide)

theorem fillSubZone_master (h : RevMasterRow z r) {i : ℕ} (hi : i < z.subZones) :
    ∃ e, fillSubZone r z.pfx i = .ok e ∧ RevEntry z i e := by
  obtain ⟨m, hm⟩ := h.master
  refine ⟨⟨"master".toList, some (m.take domainLen), (z.subNet i).text, z.subName i⟩, ?_,
    rfl, rfl, rfl⟩
  rw [fillSubZone, hm, h.type, h.netRange, getOffsetIp_eq hi, dupMaster, ok_bind, ok_bind,
    getInAddrString_eq, ok_bind]
  rfl

theorem fillWholeZone_master (h : RevMasterRow z r) :
    ∃ e, fillWholeZone r z.pfx = .ok e ∧ RevEntry z 0 e := by
  have hnet : z.subNet 0 = z.net := by
    rw [RevZone.subNet, mul_zero, add_zero, Quad.ofNat_toNat]
  have htake : z.range.take domainLen = z.net.text := List.take_of_length_le z.length_range_le
  refine ⟨⟨"master".toList, none, z.net.text, z.subName 0⟩, ?_, rfl, by rw [hnet], rfl⟩
  rw [fillWholeZone, h.type, h.netRange, htake, if_neg (by decide), pure_eq_ok, ok_bind]
  dsimp only
  rw [getInAddrString_eq, RevZone.subName, hnet]
  rfl

/-- The entries of a stored master zone : one for each sub-zone. -/
theorem fillRevZone_master (h : RevMasterRow z r) :
    ∃ es, fillRevZone r = .ok es ∧
      List.Forall₂ (RevEntry z) (List.range z.subZones) es := by
  have hpfx : strtoul r.pfx = z.pfx := by
    rw [h.pfx, strtoul_numText (z.le_twentyFour.trans (by decide))]
  rw [fillRevZone, hpfx]
  split_ifs with hsub
  · rw [getZoneIndex_eq, ok_bind]
    choose e he hentry using fun i : Fin z.subZones => fillSubZone_master h i.isLt
    refine ⟨(List.finRange z.subZones).map e, mapM_eq_ok_iff.mpr ?_, ?_⟩
    · rw [← List.map_coe_finRange_eq_range, List.forall₂_map_left_iff, List.forall₂_map_right_iff,
        List.forall₂_same]
      exact fun i _ => he i
    · rw [← List.map_coe_finRange_eq_range, List.forall₂_map_left_iff, List.forall₂_map_right_iff,
        List.forall₂_same]
      exact fun i _ => hentry i
  · have hone : z.subZones = 1 := by
      have hindex := getZoneIndex_eq z
      have hcases : z.pfx = 8 ∨ z.pfx = 16 ∨ z.pfx = 24 := by tauto
      rcases hcases with hp | hp | hp <;>
      · rw [hp] at hindex
        exact (Except.ok.inj hindex).symm
    obtain ⟨e, he, hentry⟩ := fillWholeZone_master h
    rw [he, hone]
    exact ⟨[e], rfl, .cons hentry .nil⟩

/-- The sub-zones of zones, in order. -/
def subZonesOf (zs : List RevZone) : List (RevZone × ℕ) :=
  zs.flatMap fun z => (List.range z.subZones).map (z, ·)

theorem mem_subZonesOf {zs : List RevZone} {p : RevZone × ℕ} :
    p ∈ subZonesOf zs ↔ p.1 ∈ zs ∧ p.2 < p.1.subZones := by
  rw [subZonesOf, List.mem_flatMap]
  constructor
  · rintro ⟨z, hz, hp⟩
    obtain ⟨i, hi, rfl⟩ := List.mem_map.mp hp
    exact ⟨hz, List.mem_range.mp hi⟩
  · intro h
    exact ⟨p.1, h.1, List.mem_map.mpr ⟨p.2, List.mem_range.mpr h.2, rfl⟩⟩

theorem fillRevZoneList_masters : ∀ {zs : List RevZone} {rs : List RevZoneRow},
    List.Forall₂ RevMasterRow zs rs →
    ∃ es, ailsaFillRevZoneList rs = .ok es ∧
      List.Forall₂ (fun p e => RevEntry p.1 p.2 e) (subZonesOf zs) es
  | _, _, .nil => ⟨[], rfl, .nil⟩
  | z :: zs, r :: rs, .cons h hrest => by
    obtain ⟨es, hes, hentries⟩ := fillRevZone_master h
    obtain ⟨es', hes', hentries'⟩ := fillRevZoneList_masters hrest
    obtain ⟨ess, hess, hflat⟩ := bind_eq_ok.mp hes'
    refine ⟨es ++ es', ?_, ?_⟩
    · rw [ailsaFillRevZoneList, List.mapM_cons, hes, ok_bind, hess, ok_bind]
      cases hflat
      rfl
    · rw [subZonesOf, List.flatMap_cons]
      refine List.rel_append ?_ hentries'
      rwa [List.forall₂_map_left_iff]

/-! ## Distinct names -/

/-- The blocks of the zones do not meet. -/
def DisjointBlocks (zs : List RevZone) : Prop :=
  zs.Pairwise fun z z' => ∀ a, ¬(z.InBlock a ∧ z'.InBlock a)

theorem nodup_subNames {zs : List RevZone} (h : DisjointBlocks zs) :
    ((subZonesOf zs).map fun p => p.1.subName p.2).Nodup := by
  rw [List.Nodup, List.pairwise_map, subZonesOf, List.pairwise_flatMap]
  constructor
  · intro z _
    rw [List.pairwise_map]
    refine List.nodup_range.imp_of_mem fun {i j} hi hj hne heq => hne ?_
    obtain ⟨h1, h2⟩ := inSubZone_of_subName_eq (List.mem_range.mp hi) (List.mem_range.mp hj) heq
    exact h1.index_eq h2
  · refine h.imp fun {z z'} hdisj p hp p' hp' heq => ?_
    obtain ⟨i, hi, rfl⟩ := List.mem_map.mp hp
    obtain ⟨j, hj, rfl⟩ := List.mem_map.mp hp'
    have hi := List.mem_range.mp hi
    have hj := List.mem_range.mp hj
    obtain ⟨h1, h2⟩ := inSubZone_of_subName_eq hi hj heq
    exact hdisj _ ⟨RevZone.inBlock_iff.mpr ⟨i, hi, h1⟩, RevZone.inBlock_iff.mpr ⟨j, hj, h2⟩⟩

/-! ## The files of the zones -/

/-- Validate the zones of rows one after the other. -/
def validateRevZones (dc : Dc) (env : ZoneEnv) (rs : List RevZoneRow) : ZoneProg Unit :=
  forM rs fun r => cmdbValidateRevZone dc env r.netRange r.type (strtoul r.pfx)

theorem validateRevZones_masters (dc : Dc) (hsql : env.SqlOk) (hopen : ∀ f, env.openOk f = true)
    (hchk : ∀ f, env.chkz f = true) : ∀ {zs : List RevZone} {rs : List RevZoneRow}
    (w : ZoneWorld), List.Forall₂ RevMasterRow zs rs →
    (∀ r ∈ rs, ∃ r' ∈ w.db.revZones, r'.netRange = r.netRange) →
      ∃ w', validateRevZones dc env rs w = (.ok (), w') ∧
        Puts ((subZonesOf zs).map fun p => .rev p.1.range p.2) w w'
  | _, _, w, .nil, _ => ⟨w, rfl, Puts.refl w⟩
  | z :: zs, r :: rs, w, .cons h hrest, hmem => by
    obtain ⟨r', hr', hrange⟩ := hmem r (List.mem_cons_self ..)
    have hpfx : strtoul r.pfx = z.pfx := by
      rw [h.pfx, strtoul_numText (z.le_twentyFour.trans (by decide))]
    have hrow : RevRowOk env z.range 0 w.db := by
      refine revRowOk_of_mem (hsql _ _ _) hr' ?_
      rw [hrange, h.netRange, arg_of_length_le z.length_range_le]
    have hfiles : ∀ i < z.subZones, RevFileOk env z.range z.pfx i := fun i hi =>
      ⟨hsql _ _ _, hsql _ _ _, isOk_iff.mpr ⟨_, getOffsetIp_eq hi⟩, hopen _⟩
    have hmaster : ¬isSlave r.type = true := by
      rw [h.type]
      decide
    obtain ⟨w', hrun, hputs⟩ :=
      cmdbValidateRevZone_ok dc hmaster (getZoneIndex_eq z) hrow hfiles (hsql _ _ _)
    rw [reached_eq_self (fun i hi => hfiles i (List.mem_range.mp hi)) fun i _ => hchk _] at hputs
    have hsame := (revSteps_sameRevRows env z.range).moves_cmdbValidateRevZone dc r.type z.pfx w
    rw [hrun] at hsame
    obtain ⟨w'', hrun', hputs'⟩ := validateRevZones_masters dc hsql hopen hchk w' hrest
      fun x hx => by
        obtain ⟨x', hx', hxr⟩ := hmem x (List.mem_cons_of_mem _ hx)
        obtain ⟨x'', hx'', hkept⟩ := hsame.exists_mem hx'
        exact ⟨x'', hx'', (congrArg RevZoneRow.netRange hkept).trans hxr⟩
    refine ⟨w'', ?_, ?_⟩
    · rw [validateRevZones, List.forM_cons, h.netRange, hpfx, Prog.bind_run_ok hrun]
      exact hrun'
    · have hall := hputs.trans hputs'
      rwa [subZonesOf, List.flatMap_cons, List.map_append, List.map_map]

/-- The rows of two master zones, one of them with sixteen sub-zones. -/
def masterRows : List RevZoneRow :=
  [⟨1, RevZone.tenOne.range, numText 16, 167837696, 167903231, "ns.a.com".toList, "none".toList, 5,
      1, 1, 1, 1, "no".toList, "unknown".toList, "master".toList, some "NULL".toList⟩,
    ⟨2, RevZone.ten20.range, numText 20, 167772160, 167776255, "ns.a.com".toList, "none".toList, 5,
      1, 1, 1, 1, "no".toList, "yes".toList, "master".toList, some "NULL".toList⟩]

end Cmdb
