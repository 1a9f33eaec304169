import Cmdb.IntervalTable
import Cmdb.ZoneSteps

/-!
# The table of reverse zones

`add_reverse_zone` asks whether the addresses of the new zone overlap those of a zone in
the table, then computes the addresses a second time for the row it inserts;
`delete_reverse_zone` deletes by id. What is known of a row is its `RevRange` : range,
prefix text, first and last address. `RevRange.Exact` says that the two addresses are the
ends of the block of the range.

* `getStartFinshIps_ok` : the addresses, where the prefix is supported and the block ends
  below `255.255.255.255`;
* `revZones_separated` : in every run of the two commands the rows are exact and their
  intervals pairwise disjoint. A prefix of `8` never gets past the check, for the last
  address then comes before the first.
-/

namespace Cmdb

open CString DottedQuad IntervalTable

/-! ## The commands -/

/-- What a zone is entered with beside its range (`ailsa_cmdb_s`). -/
structure AilsaCmdb extends Dc where
  prins : Option CStr
  secns : Option CStr
  refresh : ℕ
  retry : ℕ
  expire : ℕ
  ttl : ℕ

namespace ZoneDb

variable (db : ZoneDb)

/-- `REV_ZONE_OVERLAP` on its six parameters. -/
def revZoneOverlap (a b c d e f : ℕ) : List ℕ :=
  (db.revZones.filter fun z => (a ≤ z.startIp ∧ z.finishIp ≤ b) ∨
    (z.startIp ≤ c ∧ d ≤ z.finishIp) ∨ (z.startIp ≤ e ∧ f ≤ z.finishIp)).map RevZoneRow.id

/-- `REV_ZONE_ID_ON_RANGE`. -/
def revZoneIds (range type : CStr) : List ℕ :=
  (db.revZones.filter fun z => z.netRange = range ∧ z.type = type).map RevZoneRow.id

/-- `INSERT_REVERSE_ZONE`. The column `updated` is left at its default. -/
def insertReverseZone (rev : List AilsaData) : ZoneDb :=
  match rev with
  | [.text range, .text pfx, .text _, .number start, .text _, .number finish, .text pri,
      .text sec, .number serial, .number refresh, .number retry, .number expire, .number ttl,
      .text type, .text master, .text valid, _, _] =>
    { db with revZones := db.revZones ++
        [⟨nextId (db.revZones.map RevZoneRow.id), range, pfx, start, finish, pri, sec, serial,
          refresh, retry, expire, ttl, valid, "unknown".toList, type, some master⟩] }
  | _ => db

/-- `DELETE_REV_ZONE`. -/
def deleteRevZone (id : ℕ) : ZoneDb := { db with revZones := db.revZones.filter (·.id ≠ id) }

end ZoneDb

/-- `check_for_rev_zone_overlap`. -/
def checkForRevZoneOverlap (env : ZoneEnv) (start finish : ℕ) : ZoneProg Unit := do
  Prog.require (start ≠ 0 ∧ finish ≠ 0 ∧ start ≤ finish) .noData
  let r ← query env .revZoneOverlap [] start fun db =>
    db.revZoneOverlap start finish start start finish finish
  Prog.require (r.length = 0) .revZoneOverlap

/-- `dnsa_populate_rev_zone`, with the clock reading of `generate_zone_serial`. -/
def dnsaPopulateRevZone (cbc : AilsaCmdb) (clock : Option Tm) (range : CStr)
    (master : Option CStr) (pfx : ℕ) : Except AilsaError (List AilsaData) := do
  let list := cmdbAddStringToList range
    (cmdbAddStringToList (numText pfx) (cmdbAddStringToList range []))
  let (start, finish) ← getStartFinshIps range pfx
  let list := cmdbAddNumberToList start list
  let buff ← convertBinIpv4ToText finish
  let list := cmdbAddNumberToList finish (cmdbAddStringToList buff list)
  let list ← addStringToList cbc.prins list
  let list := cmdbAddStringToList (cbc.secns.getD "none".toList) list
  let list := cmdbAddNumberToList cbc.refresh (cmdbAddNumberToList (generateZoneSerial clock) list)
  let list := cmdbAddNumberToList cbc.ttl
    (cmdbAddNumberToList cbc.expire (cmdbAddNumberToList cbc.retry list))
  let list := match master with
    | none => cmdbAddStringToList "NULL".toList (cmdbAddStringToList "master".toList list)
    | some master => cmdbAddStringToList master (cmdbAddStringToList "slave".toList list)
  return cmdbPopulateCuserMuser cbc.uid (cmdbAddStringToList "no".toList list)

/-- `add_reverse_zone`, up to the configuration file. A zone without a type is validated
as a master. -/
def addReverseZone (cbc : AilsaCmdb) (env : ZoneEnv) (range : CStr) (type master : Option CStr)
    (pfx : ℕ) : ZoneProg Unit := do
  Prog.require (pfx ≠ 0) .noData
  let (start, finish) ← ret (getStartFinshIps range pfx)
  checkForRevZoneOverlap env start finish
  let rev ← ret (dnsaPopulateRevZone cbc (env.clock (.rev range 0)) range master pfx)
  statement env .insertReverseZone range 0 fun db => db.insertReverseZone rev
  cmdbValidateRevZone cbc.toDc env range (type.getD "master".toList) pfx

/-- `cmdb_check_add_zone_id_to_list` for a reverse zone. -/
def cmdbCheckAddRevZoneId (env : ZoneEnv) (zone ztype : CStr) : ZoneProg ℕ := do
  let ids ← query env .revZoneIdOnRange zone 0 fun db => db.revZoneIds (arg zone) (arg ztype)
  match ids with
  | [id] => return id
  | _ => Prog.fail .zoneNotFound

/-- `delete_reverse_zone`, up to the configuration file. A zone that is not found is no
error. -/
def deleteReverseZone (env : ZoneEnv) (domain : CStr) (ztype : Option CStr) : ZoneProg Unit := do
  let found ← Prog.attempt (cmdbCheckAddRevZoneId env domain (ztype.getD "master".toList))
  match found with
  | .error _ => return ()
  | .ok id => statement env .deleteRevZone [] id fun db => db.deleteRevZone id

/-! ## First and last address -/

/-- The offset of the first address behind the zone. -/
theorem getZoneIndex_mul {pfx index : ℕ} (h : getZoneIndex pfx = .ok index) (h24 : pfx ≤ 24) :
    (16 < pfx → 256 * index = 2 ^ (32 - pfx)) ∧
      (8 < pfx → pfx ≤ 16 → 256 * 256 * index = 2 ^ (32 - pfx)) := by
  constructor
  · intro h16
    interval_cases pfx <;> (obtain rfl := Except.ok.inj h; rfl)
  · intro h8 h16
    interval_cases pfx <;> (obtain rfl := Except.ok.inj h; rfl)

theorem eight_le_of_getZoneIndex {pfx index : ℕ} (h : getZoneIndex pfx = .ok index) : 8 ≤ pfx := by
  by_contra hlt
  rw [getZoneIndex] at h
  by_cases h0 : pfx = 0
  · rw [if_pos h0] at h
    cases h
  · rw [if_neg h0, if_pos (by omega)] at h
    cases h

/-- Text and back, where the address is not `0` and fits. -/
theorem convertTextIpv4ToBin_of_convertBinIpv4ToText {n m : ℕ} {ip : CStr}
    (h : convertBinIpv4ToText n = .ok ip) (hm : convertTextIpv4ToBin ip = .ok m) :
    n ≠ 0 ∧ (n < 4294967296 → m = n) := by
  unfold convertBinIpv4ToText at h
  split_ifs at h with h0
  cases h
  rw [convertTextIpv4ToBin, inetPton_inetNtop] at hm
  cases hm
  exact ⟨h0, Quad.toNat_ofNat⟩

/-- The two addresses : only for a supported prefix, and from `9` on the ends of the
block. -/
theorem getStartFinshIps_ok {range : CStr} {pfx start finish : ℕ}
    (h : getStartFinshIps range pfx = .ok (start, finish)) :
    ∃ q, inetPton range = some q ∧ start = q.toNat ∧ 8 ≤ pfx ∧ pfx ≤ 24 ∧
      (pfx = 8 → finish < start) ∧
      (8 < pfx → start + 2 ^ (32 - pfx) < 4294967296 → finish = start + 2 ^ (32 - pfx) - 1) := by
  obtain ⟨s, hs, h⟩ := bind_eq_ok.mp h
  obtain ⟨index, hindex, h⟩ := bind_eq_ok.mp h
  obtain ⟨ip, hip, h⟩ := bind_eq_ok.mp h
  obtain ⟨last, hlast, h⟩ := bind_eq_ok.mp h
  cases h
  have h8 := eight_le_of_getZoneIndex hindex
  unfold convertTextIpv4ToBin at hs
  rcases hq : inetPton range with _ | q
  · rw [hq] at hs
    cases hs
  rw [hq] at hs
  cases hs
  have hqlt := q.toNat_lt
  have hpow := Nat.two_pow_pos (32 - pfx)
  rw [getOffsetIp, if_neg (by omega), convertTextIpv4ToBin, hq, ok_bind] at hip
  split_ifs at hip with h24 h16 heq
  · obtain ⟨hne, hfit⟩ := convertTextIpv4ToBin_of_convertBinIpv4ToText hip hlast
    rw [(getZoneIndex_mul hindex h24.2).1 h24.1] at hfit
    refine ⟨q, rfl, rfl, h8, h24.2, by omega, fun _ hlt => ?_⟩
    rw [hfit hlt]
    omega
  · obtain ⟨hne, hfit⟩ := convertTextIpv4ToBin_of_convertBinIpv4ToText hip hlast
    rw [(getZoneIndex_mul hindex (by omega)).2 h16.1 h16.2] at hfit
    refine ⟨q, rfl, rfl, h8, by omega, by omega, fun _ hlt => ?_⟩
    rw [hfit hlt]
    omega
  · obtain ⟨hne, hfit⟩ := convertTextIpv4ToBin_of_convertBinIpv4ToText hip hlast
    refine ⟨q, rfl, rfl, h8, by omega, fun _ => ?_, by omega⟩
    rw [hfit hqlt]
    omega

/-! ## What a table holds -/

/-- What is known of a row. -/
structure RevRange where
  range : CStr
  pfx : CStr
  start : ℕ
  finish : ℕ
deriving DecidableEq, Repr

/-- The interval of the row is the block of its prefix that starts at its range. -/
def RevRange.Exact (r : RevRange) : Prop :=
  ∃ q p, inetPton r.range = some q ∧ r.pfx = numText p ∧ p ≤ 32 ∧
    Set.Icc r.start r.finish = Set.Ico q.toNat (q.toNat + 2 ^ (32 - p))

/-- The rows of `rev_zones`. -/
def ZoneDb.revRanges (db : ZoneDb) : List RevRange :=
  db.revZones.map fun z => ⟨z.netRange, z.pfx, z.startIp, z.finishIp⟩

/-- All rows are exact, and their intervals pairwise disjoint. -/
structure RevTable (rs : List RevRange) : Prop where
  exact : ∀ r ∈ rs, r.Exact
  separated : Separated RevRange.start RevRange.finish rs

variable {env : ZoneEnv} {w : ZoneWorld} {rs : List RevRange}

/-- A row that is exact and passed the overlap check is entered. -/
theorem RevTable.concat (h : RevTable rs) {r : RevRange} (hr : r.Exact)
    (hle : r.start ≤ r.finish)
    (hnew : ∀ x ∈ rs, ¬Overlaps x.start x.finish r.start r.finish) : RevTable (rs ++ [r]) where
  exact x hx := by
    rcases List.mem_append.mp hx with hx | hx
    · exact h.exact x hx
    · rwa [List.mem_singleton.mp hx]
  separated := h.separated.concat hle hnew

theorem RevTable.sublist {rs' : List RevRange} (h : RevTable rs) (hsub : rs'.Sublist rs) :
    RevTable rs' :=
  ⟨fun r hr => h.exact r (hsub.subset hr), h.separated.sublist hsub⟩

/-- The rows of `rev_zones` are such a table. -/
def RevZonesOk (w : ZoneWorld) : Prop := RevTable w.db.revRanges

/-! ## What the commands do to it -/

/-- The rows are those there were, up to serial, mark and validity. -/
def SameRanges (w w' : ZoneWorld) : Prop := w'.db.revRanges = w.db.revRanges

theorem sameRanges_of_sameRevRows {w w' : ZoneWorld} (h : SameRevRows w w') : SameRanges w w' := by
  have hkept : ∀ db : ZoneDb, db.revRanges = (db.revZones.map RevZoneRow.kept).map fun z =>
      ⟨z.netRange, z.pfx, z.startIp, z.finishIp⟩ := by
    intro db
    rw [List.map_map]
    rfl
  rw [SameRanges, hkept, h, ← hkept]

theorem sameRanges_cmdbValidateRevZone (dc : Dc) (env : ZoneEnv) (zone ztype : CStr) (pfx : ℕ) :
    Prog.Moves SameRanges (cmdbValidateRevZone dc env zone ztype pfx) := by
  intro w
  exact sameRanges_of_sameRevRows
    ((revSteps_sameRevRows env zone).moves_cmdbValidateRevZone dc ztype pfx w)

theorem readOnly_checkForRevZoneOverlap (env : ZoneEnv) (start finish : ℕ) :
    Prog.ReadOnly (checkForRevZoneOverlap env start finish) :=
  (Prog.ReadOnly.require _ _).bind fun _ => (readOnly_query _ _ _ _ _).bind fun _ =>
    Prog.ReadOnly.require _ _

/-- The check is passed only by an interval that no row overlaps. -/
theorem checkForRevZoneOverlap_ok {start finish : ℕ} {u : Unit}
    (h : (checkForRevZoneOverlap env start finish w).1 = .ok u) : start ≠ 0 ∧ start ≤ finish ∧
      ∀ x ∈ w.db.revRanges, ¬Overlaps x.start x.finish start finish := by
  obtain ⟨_, hreq, h⟩ := (Prog.ReadOnly.require _ _).bind_ok h
  obtain ⟨r, hr, h⟩ := (readOnly_query _ _ _ _ _).bind_ok h
  have hle := of_decide_eq_true (Prog.require_ok hreq)
  have hnil := of_decide_eq_true (Prog.require_ok h)
  rw [query_ok hr, ZoneDb.revZoneOverlap, List.length_map, List.length_eq_zero_iff,
    List.filter_eq_nil_iff] at hnil
  refine ⟨hle.1, hle.2.2, fun x hx => ?_⟩
  obtain ⟨z, hz, rfl⟩ := List.mem_map.mp hx
  exact fun hov => hnil z hz (decide_eq_true hov)

/-- What a row is entered with. -/
theorem dnsaPopulateRevZone_ok {cbc : AilsaCmdb} {clock : Option Tm} {range : CStr}
    {master : Option CStr} {pfx : ℕ} {rev : List AilsaData}
    (h : dnsaPopulateRevZone cbc clock range master pfx = .ok rev) :
    ∃ start finish, getStartFinshIps range pfx = .ok (start, finish) ∧
      ∀ db : ZoneDb, ∃ z : RevZoneRow,
        db.insertReverseZone rev = { db with revZones := db.revZones ++ [z] } ∧
        z.netRange = arg range ∧ z.pfx = arg (numText pfx) ∧ z.startIp = start ∧
        z.finishIp = finish ∧ ∃ m, z.master = some m := by
  obtain ⟨⟨start, finish⟩, hips, h⟩ := bind_eq_ok.mp h
  obtain ⟨buff, -, h⟩ := bind_eq_ok.mp h
  obtain ⟨list, hpri, h⟩ := bind_eq_ok.mp h
  refine ⟨start, finish, hips, fun db => ?_⟩
  rcases hp : cbc.prins with _ | pri
  · rw [hp] at hpri
    cases hpri
  · rw [hp] at hpri
    cases hpri
    cases master <;>
    · simp only [cmdbPopulateCuserMuser, cmdbAddNumberToList, cmdbAddStringToList,
        List.cons_append, List.nil_append, pure_eq_ok, Except.ok.injEq] at h
      rw [← h]
      exact ⟨_, rfl, rfl, rfl, rfl, rfl, _, rfl⟩

theorem length_numText_le {n : ℕ} (h : n < 256) : (numText n).length ≤ configLen :=
  (length_octetText_le ⟨n, h⟩).trans (by decide)

/-- The range passes the checks of `add_reverse_zone`, as the block from `q` to `finish`. -/
structure EntersRange (range : CStr) (pfx : ℕ) (w : ZoneWorld) (q : Quad) (finish : ℕ) :
    Prop where
  parses : inetPton range = some q
  pos : q.toNat ≠ 0
  eight_lt : 8 < pfx
  le_twentyFour : pfx ≤ 24
  ends : getStartFinshIps range pfx = .ok (q.toNat, finish)
  ordered : q.toNat ≤ finish
  separated : ∀ x ∈ w.db.revRanges, ¬Overlaps x.start x.finish q.toNat finish

theorem length_range_le_of_inetPton {range : CStr} {q : Quad} (h : inetPton range = some q) :
    range.length ≤ configLen := by
  rw [inetPton_eq_some_iff.mp h]
  exact q.length_text_lt.le.trans (by decide)

/-- Nothing is changed, or a row is entered and validated. -/
theorem addReverseZone_cases (cbc : AilsaCmdb) (env : ZoneEnv) (range : CStr)
    (type master : Option CStr) (pfx : ℕ) (w : ZoneWorld) :
    (∃ e, addReverseZone cbc env range type master pfx w = (.error e, w)) ∨
    ∃ (q : Quad) (finish : ℕ) (z : RevZoneRow), EntersRange range pfx w q finish ∧
      z.netRange = range ∧ z.pfx = numText pfx ∧ z.startIp = q.toNat ∧ z.finishIp = finish ∧
      (∃ m, z.master = some m) ∧ addReverseZone cbc env range type master pfx w =
        cmdbValidateRevZone cbc.toDc env range (type.getD "master".toList) pfx
          ⟨{ w.db with revZones := w.db.revZones ++ [z] }, w.files⟩ := by
  rw [addReverseZone]
  by_cases hpfx : pfx ≠ 0
  swap
  · exact .inl ⟨_, Prog.bind_run_error (by rw [Prog.require_run, if_neg (by simpa using hpfx)]) _⟩
  rw [Prog.bind_run_ok (by rw [Prog.require_run, if_pos (by simpa using hpfx)])]
  rcases hips : getStartFinshIps range pfx with e | ⟨start, finish⟩
  · exact .inl ⟨e, ret_error_bind_run e _ w⟩
  rw [ret_ok_bind_run]
  dsimp only
  have hro := readOnly_checkForRevZoneOverlap env start finish
  rcases hcheck : (checkForRevZoneOverlap env start finish w).1 with e | u
  · refine .inl ⟨e, Prog.bind_run_error ?_ _⟩
    rw [hro.run_eq, hcheck]
  rw [hro.bind_run_of_ok hcheck]
  rcases hrev : dnsaPopulateRevZone cbc (env.clock (.rev range 0)) range master pfx with e | rev
  · exact .inl ⟨e, ret_error_bind_run e _ w⟩
  rw [ret_ok_bind_run]
  by_cases hsql : env.sql .insertReverseZone range 0 = true
  swap
  · exact .inl ⟨_, Prog.bind_run_error ((statement_run ..).trans (if_neg hsql)) _⟩
  rw [Prog.bind_run_ok ((statement_run ..).trans (if_pos hsql))]
  obtain ⟨hstart, hle, hnew⟩ := checkForRevZoneOverlap_ok hcheck
  obtain ⟨q, hq, rfl, h8, h24, height, -⟩ := getStartFinshIps_ok hips
  -- prefix `8` is excluded by the check
  have h9 : 8 < pfx := by
    rcases Nat.lt_or_eq_of_le h8 with h | h
    · exact h
    · have := height h.symm
      omega
  obtain ⟨start', finish', hips', hins⟩ := dnsaPopulateRevZone_ok hrev
  obtain ⟨rfl, rfl⟩ := Prod.mk.inj (Except.ok.inj (hips'.symm.trans hips))
  obtain ⟨z, hdb, hrange, hzpfx, hzstart, hzfinish, hmaster⟩ := hins w.db
  rw [arg_of_length_le (length_range_le_of_inetPton hq)] at hrange
  rw [arg_of_length_le (length_numText_le (by omega))] at hzpfx
  rw [hdb]
  exact .inr ⟨q, finish', z, ⟨hq, hstart, h9, h24, hips, hle, hnew⟩, hrange, hzpfx, hzstart,
    hzfinish, hmaster, rfl⟩

theorem addReverseZone_revZonesOk (cbc : AilsaCmdb) (env : ZoneEnv) {range : CStr}
    (type master : Option CStr) {pfx : ℕ} (w : ZoneWorld)
    (hfit : ∀ q, inetPton range = some q → pfx ≤ 32 → q.toNat + 2 ^ (32 - pfx) - 1 < 4294967295)
    (hw : RevZonesOk w) : RevZonesOk (addReverseZone cbc env range type master pfx w).2 := by
  obtain ⟨e, hrun⟩ | ⟨q, finish, z, henters, h1, h2, h3, h4, -, hrun⟩ :=
    addReverseZone_cases cbc env range type master pfx w
  · rwa [hrun]
  have h9 := henters.eight_lt
  have h24 := henters.le_twentyFour
  have hpow := Nat.two_pow_pos (32 - pfx)
  have hblock := hfit q henters.parses (by omega)
  obtain ⟨q', hq', -, -, -, -, hfinish⟩ := getStartFinshIps_ok henters.ends
  obtain rfl := Option.some.inj (hq'.symm.trans henters.parses)
  have hend : finish = q'.toNat + 2 ^ (32 - pfx) - 1 := hfinish h9 (by omega)
  have hsame := sameRanges_cmdbValidateRevZone cbc.toDc env range (type.getD "master".toList) pfx
    ⟨{ w.db with revZones := w.db.revZones ++ [z] }, w.files⟩
  have hranges : ({ w.db with revZones := w.db.revZones ++ [z] } : ZoneDb).revRanges =
      w.db.revRanges ++ [⟨range, numText pfx, q'.toNat, finish⟩] := by
    rw [ZoneDb.revRanges, List.map_append, List.map_singleton, h1, h2, h3, h4]
    rfl
  rw [hrun, RevZonesOk, hsame, hranges]
  refine hw.concat ⟨q', pfx, hq', rfl, by omega, ?_⟩ henters.ordered henters.separated
  ext a
  rw [Set.mem_Icc, Set.mem_Ico]
  dsimp only
  omega

theorem readOnly_cmdbCheckAddRevZoneId (env : ZoneEnv) (zone ztype : CStr) :
    Prog.ReadOnly (cmdbCheckAddRevZoneId env zone ztype) := by
  refine (readOnly_query _ _ _ _ _).bind fun ids => ?_
  split
  · exact Prog.ReadOnly.pure _
  · exact Prog.ReadOnly.fail _

theorem deleteReverseZone_revZonesOk (env : ZoneEnv) (domain : CStr) (ztype : Option CStr)
    (w : ZoneWorld) (hw : RevZonesOk w) : RevZonesOk (deleteReverseZone env domain ztype w).2 := by
  refine (readOnly_cmdbCheckAddRevZoneId _ _ _).attempt.bind_run_snd hw fun found _ => ?_
  rcases found with e | id
  · exact hw
  · dsimp only
    rw [statement_run]
    split_ifs
    · exact hw.sublist (List.filter_sublist.map _)
    · exact hw

/-! ## Runs -/

/-- The commands on reverse zones. -/
inductive RevZoneOp
  | add (range : CStr) (type master : Option CStr) (pfx : ℕ)
  | delete (domain : CStr) (ztype : Option CStr)
deriving DecidableEq, Repr

/-- The program of a command. -/
def RevZoneOp.prog (cbc : AilsaCmdb) (env : ZoneEnv) : RevZoneOp → ZoneProg Unit
  | add range type master pfx => addReverseZone cbc env range type master pfx
  | delete domain ztype => deleteReverseZone env domain ztype

/-- A range that is added ends below `255.255.255.255`. -/
def RevZoneOp.Fits : RevZoneOp → Prop
  | add range _ _ pfx =>
    ∀ q, inetPton range = some q → pfx ≤ 32 → q.toNat + 2 ^ (32 - pfx) - 1 < 4294967295
  | delete _ _ => True

/-- The world after commands run one after the other, each with its own outcomes. -/
def runRevZoneOps (cbc : AilsaCmdb) (w : ZoneWorld) (ops : List (ZoneEnv × RevZoneOp)) :
    ZoneWorld :=
  ops.foldl (fun w op => (op.2.prog cbc op.1 w).2) w

theorem RevZoneOp.revZonesOk (cbc : AilsaCmdb) (env : ZoneEnv) (op : RevZoneOp) (h : op.Fits)
    (w : ZoneWorld) (hw : RevZonesOk w) : RevZonesOk (op.prog cbc env w).2 := by
  cases op with
  | add range type master pfx => exact addReverseZone_revZonesOk cbc env type master w h hw
  | delete domain ztype => exact deleteReverseZone_revZonesOk env domain ztype w hw

theorem runRevZoneOps_revZonesOk (cbc : AilsaCmdb) : ∀ (ops : List (ZoneEnv × RevZoneOp))
    (w : ZoneWorld), (∀ op ∈ ops, op.2.Fits) → RevZonesOk w → RevZonesOk (runRevZoneOps cbc w ops)
  | [], _, _, hw => hw
  | op :: ops, w, h, hw =>
    runRevZoneOps_revZonesOk cbc ops _ (fun op hop => h op (List.mem_cons_of_mem _ hop))
      (op.2.revZonesOk cbc op.1 (h op (List.mem_cons_self ..)) w hw)

/-- From an empty table, after any additions and deletions of ranges that end below
`255.255.255.255`, with any prefixes and with statements, files and checks that may fail,
the intervals of the rows are pairwise disjoint, and each is the block of its prefix that
starts at its range. -/
theorem revZones_separated (cbc : AilsaCmdb) (w : ZoneWorld) (ops : List (ZoneEnv × RevZoneOp))
    (hw : w.db.revZones = []) (hops : ∀ op ∈ ops, op.2.Fits) :
    (runRevZoneOps cbc w ops).db.revZones.Pairwise (fun z z' =>
      Disjoint (Set.Icc z.startIp z.finishIp) (Set.Icc z'.startIp z'.finishIp)) ∧
    ∀ z ∈ (runRevZoneOps cbc w ops).db.revZones, ∃ q p, inetPton z.netRange = some q ∧
      z.pfx = numText p ∧ p ≤ 32 ∧
      Set.Icc z.startIp z.finishIp = Set.Ico q.toNat (q.toNat + 2 ^ (32 - p)) := by
  have hnil : RevZonesOk w := by
    rw [RevZonesOk, ZoneDb.revRanges, hw]
    exact ⟨fun _ h => (nomatch h), separated_nil⟩
  have h := runRevZoneOps_revZonesOk cbc ops w hops hnil
  exact ⟨(separated_map.mp h.separated).disjoint, fun z hz =>
    h.exact _ (List.mem_map_of_mem hz)⟩

theorem fits_add (z : RevZone) (h : z.net.toNat + 2 ^ (32 - z.pfx) - 1 < 4294967295)
    (type master : Option CStr) : (RevZoneOp.add z.range type master z.pfx).Fits := by
  intro q hq _
  rw [RevZone.range, inetPton_text] at hq
  cases hq
  exact h

/-- Two zones are entered, and the first is deleted. -/
def twoZones : List (ZoneEnv × RevZoneOp) :=
  [(noClock true, .add RevZone.tenOne.range none none RevZone.tenOne.pfx),
    (noClock true, .add RevZone.ten24.range none none RevZone.ten24.pfx),
    (noClock true, .delete RevZone.tenOne.range none)]

theorem revZones_separated_twoZones :
    (∀ op ∈ twoZones, op.2.Fits) ∧
      (runRevZoneOps ⟨⟨[], 0, fun _ _ => none⟩, some "ns.a.com".toList, none, 1, 1, 1, 1⟩
        ⟨⟨[], [], [], [], [], []⟩, []⟩ twoZones).db.revZones.Pairwise fun z z' =>
          Disjoint (Set.Icc z.startIp z.finishIp) (Set.Icc z'.startIp z'.finishIp) := by
  have hfits : ∀ op ∈ twoZones, op.2.Fits := by
    intro op hop
    simp only [twoZones, List.mem_cons, List.not_mem_nil, or_false] at hop
    rcases hop with rfl | rfl | rfl
    · exact fits_add RevZone.tenOne (by decide) none none
    · exact fits_add RevZone.ten24 (by decide) none none
    · trivial
  have h := revZones_separated
    ⟨⟨[], 0, fun _ _ => none⟩, some "ns.a.com".toList, none, 1, 1, 1, 1⟩
    ⟨⟨[], [], [], [], [], []⟩, []⟩ twoZones rfl hfits
  exact ⟨hfits, h.1⟩

end Cmdb
