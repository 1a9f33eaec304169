import Mathlib.Data.List.Nodup
import Cmdb.SerialLog
import Cmdb.ZoneOps

/-!
# The tables as serials, marks and contents

The `SerialLog.View` of the DNS tables and the files written so far, and what the
statements are in it : a validation changes nothing (`runs_mapZones`), an update of a
serial is a bump (`runs_setFwdSerial`), and a change of rows of one zone together with the
mark on it is an edit (`runs_editFwd`, `runs_editRev`).

`ZoneDb.WellFormed` is what the tables are promised : one row for a zone name and for an
id, and glue entries below the zone their name has as parent. Every command keeps it,
and it is used to see that the row a command marks is the row of the zone whose files it
changed.
-/

namespace Cmdb

open CString SerialLog

/-! ## The view of a world -/

/-- A zone, by the name or the range its row is looked up with. -/
inductive ZoneKey
  | fwd (name : CStr)
  | rev (range : CStr)
deriving DecidableEq, Repr

/-- The zone of a file. -/
def ownerOf : ZoneFile → ZoneKey
  | .fwd zone => .fwd (arg zone)
  | .rev range _ => .rev (arg range)

/-- The row of a forward zone is not marked as updated. -/
def FwdClean (db : ZoneDb) (name : CStr) : Prop :=
  ∀ z, db.zones.find? (·.name = name) = some z → z.updated ≠ "yes".toList

/-- The row of a reverse zone is not marked as updated. -/
def RevClean (db : ZoneDb) (range : CStr) : Prop :=
  ∀ z, db.revZones.find? (·.netRange = range) = some z → z.updated ≠ "yes".toList

/-- Serials and marks of the rows, contents as the tables have them, files as written. -/
def view (dc : Dc) (w : ZoneWorld) : View ZoneKey ZoneFile (List CStr) where
  serial
    | .fwd name => fwdSerial w.db name
    | .rev range => revSerial w.db range
  clean
    | .fwd name => FwdClean w.db name
    | .rev range => RevClean w.db range
  body
    | .fwd zone => fwdBody dc w.db zone
    | .rev range index => revBody w.db range index
  log := w.files.map fun v => ⟨v.file, v.serial, v.stored, v.body⟩

/-- What the tables are promised. -/
structure ZoneDb.WellFormed (db : ZoneDb) : Prop where
  zoneNames : (db.zones.map Zone.name).Nodup
  zoneIds : (db.zones.map Zone.id).Nodup
  zoneIdPos : ∀ z ∈ db.zones, z.id ≠ 0
  revRanges : (db.revZones.map RevZoneRow.netRange).Nodup
  revIds : (db.revZones.map RevZoneRow.id).Nodup
  revRecordIds : (db.revRecords.map RevRecord.id).Nodup
  glueParent : ∀ g ∈ db.glueZones, ∃ z ∈ db.zones, z.id = g.zoneId ∧
    parentDomain g.name = some z.name

/-- From well formed tables, a run of steps to well formed tables. -/
def Runs (dc : Dc) (w w' : ZoneWorld) : Prop :=
  w.db.WellFormed →
    w'.db.WellFormed ∧ Relation.ReflTransGen (Step ownerOf) (view dc w) (view dc w')

variable {dc : Dc} {env : ZoneEnv} {w w' : ZoneWorld} {db db' : ZoneDb}

theorem Runs.refl (dc : Dc) (w : ZoneWorld) : Runs dc w w := fun h => ⟨h, .refl⟩

theorem Runs.trans (dc : Dc) (w w' w'' : ZoneWorld) (h : Runs dc w w') (h' : Runs dc w' w'') :
    Runs dc w w'' := by
  intro hw
  obtain ⟨hw', hs⟩ := h hw
  obtain ⟨hw'', hs'⟩ := h' hw'
  exact ⟨hw'', hs.trans hs'⟩

/-! ## Rows that are rewritten in place -/

/-- Change the rows of `zones`. -/
def ZoneDb.mapZones (db : ZoneDb) (g : Zone → Zone) : ZoneDb :=
  { db with zones := db.zones.map g }

/-- Change the rows of `rev_zones`. -/
def ZoneDb.mapRevZones (db : ZoneDb) (g : RevZoneRow → RevZoneRow) : ZoneDb :=
  { db with revZones := db.revZones.map g }

/-- A change of a zone row that keeps its id and name. -/
def KeepsZone (g : Zone → Zone) : Prop := ∀ z, (g z).id = z.id ∧ (g z).name = z.name

/-- A change of a reverse zone row that keeps its id and range. -/
def KeepsRevZone (g : RevZoneRow → RevZoneRow) : Prop :=
  ∀ z, (g z).id = z.id ∧ (g z).netRange = z.netRange

theorem keepsZone_ite {p : Zone → Prop} [DecidablePred p] {g : Zone → Zone} (hg : KeepsZone g) :
    KeepsZone fun z => if p z then g z else z := by
  intro z
  dsimp only
  split_ifs
  · exact hg z
  · exact ⟨rfl, rfl⟩

theorem keepsRevZone_ite {p : RevZoneRow → Prop} [DecidablePred p] {g : RevZoneRow → RevZoneRow}
    (hg : KeepsRevZone g) : KeepsRevZone fun z => if p z then g z else z := by
  intro z
  dsimp only
  split_ifs
  · exact hg z
  · exact ⟨rfl, rfl⟩

section MapZones

variable {g : Zone → Zone} (hg : KeepsZone g)

include hg

theorem find?_mapZones (name : CStr) :
    (db.mapZones g).zones.find? (·.name = name) =
      (db.zones.find? (·.name = name)).map g := by
  rw [ZoneDb.mapZones, List.find?_map]
  congr 2
  funext z
  simp [(hg z).2]

theorem zoneIdOnName_mapZones (name : CStr) :
    (db.mapZones g).zoneIdOnName name = db.zoneIdOnName name := by
  rw [ZoneDb.zoneIdOnName, find?_mapZones hg, Option.map_map, ZoneDb.zoneIdOnName]
  congr 1
  funext z
  exact (hg z).1

theorem glueOnZoneName_mapZones (name : CStr) :
    (db.mapZones g).glueOnZoneName name = db.glueOnZoneName name := by
  rw [ZoneDb.glueOnZoneName, ZoneDb.glueOnZoneName]
  refine List.filter_congr fun x _ => ?_
  rw [ZoneDb.mapZones, List.any_map]
  congr 1
  funext z
  simp [(hg z).1, (hg z).2]

theorem fwdBody_mapZones (zone : CStr) : fwdBody dc (db.mapZones g) zone = fwdBody dc db zone := by
  have h1 : (db.mapZones g).nsMxSrv (arg zone) = db.nsMxSrv (arg zone) := by
    rw [ZoneDb.nsMxSrv, zoneIdOnName_mapZones hg]
    rfl
  have h2 : (db.mapZones g).zoneRecords (arg zone) = db.zoneRecords (arg zone) := by
    rw [ZoneDb.zoneRecords, zoneIdOnName_mapZones hg]
    rfl
  rw [fwdBody, h1, h2, glueOnZoneName_mapZones hg, fwdBody]

theorem fwdSerial_mapZones {name : CStr}
    (hs : ∀ z, db.zones.find? (·.name = name) = some z → (g z).serial = z.serial) :
    fwdSerial (db.mapZones g) name = fwdSerial db name := by
  rw [fwdSerial, find?_mapZones hg, Option.map_map, fwdSerial]
  exact congrArg (Option.getD · 0) (Option.map_congr hs)

theorem FwdClean.of_mapZones {name : CStr} (h : FwdClean (db.mapZones g) name) {z : Zone}
    (hz : db.zones.find? (·.name = name) = some z) : (g z).updated ≠ "yes".toList :=
  h (g z) (by rw [find?_mapZones hg, hz]; rfl)

theorem ZoneDb.WellFormed.mapZones (h : db.WellFormed) : (db.mapZones g).WellFormed := by
  have hnames : (db.zones.map g).map Zone.name = db.zones.map Zone.name := by
    rw [List.map_map]
    exact List.map_congr_left fun z _ => (hg z).2
  have hids : (db.zones.map g).map Zone.id = db.zones.map Zone.id := by
    rw [List.map_map]
    exact List.map_congr_left fun z _ => (hg z).1
  exact
    { zoneNames := hnames ▸ h.zoneNames
      zoneIds := hids ▸ h.zoneIds
      zoneIdPos := fun z hz => by
        obtain ⟨y, hy, rfl⟩ := List.mem_map.mp hz
        rw [(hg y).1]
        exact h.zoneIdPos y hy
      revRanges := h.revRanges
      revIds := h.revIds
      revRecordIds := h.revRecordIds
      glueParent := fun x hx => by
        obtain ⟨z, hz, hid, hname⟩ := h.glueParent x hx
        exact ⟨g z, List.mem_map_of_mem hz, (hg z).1.trans hid, by rw [hname, (hg z).2]⟩ }

end MapZones

section MapRevZones

variable {g : RevZoneRow → RevZoneRow} (hg : KeepsRevZone g)

include hg

theorem find?_mapRevZones (range : CStr) :
    (db.mapRevZones g).revZones.find? (·.netRange = range) =
      (db.revZones.find? (·.netRange = range)).map g := by
  rw [ZoneDb.mapRevZones, List.find?_map]
  congr 2
  funext z
  simp [(hg z).2]

theorem revZoneIdOnRange_mapRevZones (range : CStr) :
    (db.mapRevZones g).revZoneIdOnRange range = db.revZoneIdOnRange range := by
  rw [ZoneDb.revZoneIdOnRange, find?_mapRevZones hg, Option.map_map, ZoneDb.revZoneIdOnRange]
  congr 1
  funext z
  exact (hg z).1

theorem revBody_mapRevZones (range : CStr) (index : ℕ) :
    revBody (db.mapRevZones g) range index = revBody db range index := by
  rw [revBody, ZoneDb.revRecordsOnRange, revZoneIdOnRange_mapRevZones hg]
  rfl

theorem revSerial_mapRevZones {range : CStr}
    (hs : ∀ z, db.revZones.find? (·.netRange = range) = some z → (g z).serial = z.serial) :
    revSerial (db.mapRevZones g) range = revSerial db range := by
  rw [revSerial, find?_mapRevZones hg, Option.map_map, revSerial]
  exact congrArg (Option.getD · 0) (Option.map_congr hs)

theorem RevClean.of_mapRevZones {range : CStr} (h : RevClean (db.mapRevZones g) range)
    {z : RevZoneRow} (hz : db.revZones.find? (·.netRange = range) = some z) :
    (g z).updated ≠ "yes".toList :=
  h (g z) (by rw [find?_mapRevZones hg, hz]; rfl)

theorem ZoneDb.WellFormed.mapRevZones (h : db.WellFormed) : (db.mapRevZones g).WellFormed := by
  have hranges : (db.revZones.map g).map RevZoneRow.netRange =
      db.revZones.map RevZoneRow.netRange := by
    rw [List.map_map]
    exact List.map_congr_left fun z _ => (hg z).2
  have hids : (db.revZones.map g).map RevZoneRow.id = db.revZones.map RevZoneRow.id := by
    rw [List.map_map]
    exact List.map_congr_left fun z _ => (hg z).1
  exact { h with revRanges := hranges ▸ h.revRanges, revIds := hids ▸ h.revIds }

end MapRevZones

/-! ## Validations and bumps -/

theorem name_of_find? {name : CStr} {z : Zone} (h : db.zones.find? (·.name = name) = some z) :
    z.name = name := by
  simpa using List.find?_some h

theorem netRange_of_find? {range : CStr} {z : RevZoneRow}
    (h : db.revZones.find? (·.netRange = range) = some z) : z.netRange = range := by
  simpa using List.find?_some h

/-- What leaves the reverse side as it is, and the serials, is an edit : a zone that is clean
behind it was clean before, with the same files. -/
theorem edits_fwd (hzones : db.revZones = w.db.revZones)
    (hrecords : db.revRecords = w.db.revRecords)
    (hserial : ∀ name, fwdSerial db name = fwdSerial w.db name)
    (hclean : ∀ name, FwdClean db name → FwdClean w.db name ∧
      ∀ zone, arg zone = name → fwdBody dc db zone = fwdBody dc w.db zone) :
    Relation.ReflTransGen (Step ownerOf) (view dc w) (view dc ⟨db, w.files⟩) := by
  refine .single (.edit rfl ?_ ?_)
  · funext y
    cases y with
    | fwd name => exact hserial name
    | rev range =>
      show revSerial db range = revSerial w.db range
      rw [revSerial, hzones, revSerial]
  · intro y hy
    cases y with
    | fwd name =>
      refine ⟨(hclean name hy).1, fun f hf => ?_⟩
      cases f with
      | fwd zone => exact (hclean name hy).2 zone (ZoneKey.fwd.inj hf)
      | rev range index => cases hf
    | rev range =>
      refine ⟨fun z hz => hy z (hzones ▸ hz), fun f hf => ?_⟩
      cases f with
      | fwd zone => cases hf
      | rev range' index =>
        show revBody db range' index = revBody w.db range' index
        rw [revBody, ZoneDb.revRecordsOnRange, ZoneDb.revZoneIdOnRange, hzones, hrecords]
        rfl

/-- What leaves the forward side as it is, and the serials, in the same way. -/
theorem edits_rev (hfwd : ∀ zone, fwdBody dc db zone = fwdBody dc w.db zone)
    (hzones : db.zones = w.db.zones)
    (hserial : ∀ range, revSerial db range = revSerial w.db range)
    (hclean : ∀ range, RevClean db range → RevClean w.db range ∧
      ∀ range' index, arg range' = range → revBody db range' index = revBody w.db range' index) :
    Relation.ReflTransGen (Step ownerOf) (view dc w) (view dc ⟨db, w.files⟩) := by
  refine .single (.edit rfl ?_ ?_)
  · funext y
    cases y with
    | fwd name =>
      show fwdSerial db name = fwdSerial w.db name
      rw [fwdSerial, hzones, fwdSerial]
    | rev range => exact hserial range
  · intro y hy
    cases y with
    | fwd name =>
      refine ⟨fun z hz => hy z (hzones ▸ hz), fun f hf => ?_⟩
      cases f with
      | fwd zone => exact hfwd zone
      | rev range index => cases hf
    | rev range =>
      refine ⟨(hclean range hy).1, fun f hf => ?_⟩
      cases f with
      | fwd zone => cases hf
      | rev range' index => exact (hclean range hy).2 range' index (ZoneKey.rev.inj hf)

/-- A validation changes neither serials nor marks nor contents. -/
theorem runs_setFwdValid (name valid : CStr) :
    Runs dc w { w with db := w.db.setFwdValid name valid } := by
  have hg : KeepsZone fun z => if z.name = name then { z with valid := valid } else z :=
    keepsZone_ite fun _ => ⟨rfl, rfl⟩
  refine fun hw => ⟨hw.mapZones hg, edits_fwd rfl rfl (fun m => ?_) fun m hm => ⟨fun z hz => ?_,
    fun zone _ => fwdBody_mapZones hg zone⟩⟩
  · refine fwdSerial_mapZones hg fun z _ => ?_
    split_ifs <;> rfl
  · have hz' := hm.of_mapZones hg hz
    split_ifs at hz' <;> exact hz'

theorem runs_setRevValid (range valid : CStr) :
    Runs dc w { w with db := w.db.setRevValid range valid } := by
  have hg : KeepsRevZone fun z => if z.netRange = range then { z with valid := valid } else z :=
    keepsRevZone_ite fun _ => ⟨rfl, rfl⟩
  refine fun hw => ⟨hw.mapRevZones hg, edits_rev (fun _ => rfl) rfl (fun m => ?_)
    fun m hm => ⟨fun z hz => ?_, fun range' index _ => revBody_mapRevZones hg range' index⟩⟩
  · refine revSerial_mapRevZones hg fun z _ => ?_
    split_ifs <;> rfl
  · have hz' := hm.of_mapRevZones hg hz
    split_ifs at hz' <;> exact hz'

/-- Updating the serial of a forward zone is a bump, after which the zone is clean. -/
theorem runs_setFwdSerial (dc : Dc) {name : CStr} {e : Zone} {serial : ℕ}
    (he : w.db.zones.find? (·.name = name) = some e) (hlt : e.serial < serial) :
    Runs dc w { w with db := w.db.setFwdSerial name serial } ∧
      FwdClean (w.db.setFwdSerial name serial) name ∧
      fwdSerial (w.db.setFwdSerial name serial) name = serial := by
  have hg : KeepsZone fun z =>
      if z.name = name then { z with serial := serial, updated := "no".toList } else z :=
    keepsZone_ite fun _ => ⟨rfl, rfl⟩
  have hname : e.name = name := name_of_find? he
  have hfind : (w.db.setFwdSerial name serial).zones.find? (·.name = name) =
      some { e with serial := serial, updated := "no".toList } := by
    rw [ZoneDb.setFwdSerial]
    refine (find?_mapZones hg name).trans ?_
    rw [he, Option.map_some, if_pos hname]
  have hserial : fwdSerial (w.db.setFwdSerial name serial) name = serial := by
    rw [fwdSerial, hfind]
    rfl
  refine ⟨fun hw => ⟨hw.mapZones hg, .single (.bump (.fwd name) rfl ?_ ?_ ?_)⟩, ?_, hserial⟩
  · funext f
    cases f with
    | fwd zone => exact fwdBody_mapZones hg zone
    | rev range index => rfl
  · show fwdSerial w.db name < fwdSerial (w.db.setFwdSerial name serial) name
    rw [hserial, fwdSerial, he]
    exact hlt
  · intro y hy
    cases y with
    | rev range => exact ⟨rfl, id⟩
    | fwd m =>
      have hm : m ≠ name := fun h => hy (by rw [h])
      have hsame : ∀ z, w.db.zones.find? (·.name = m) = some z → z.name ≠ name :=
        fun z hz => (name_of_find? hz).trans_ne hm
      refine ⟨fwdSerial_mapZones hg fun z hz => by rw [if_neg (hsame z hz)], fun hc z hz => ?_⟩
      have hz' := hc.of_mapZones hg hz
      rwa [if_neg (hsame z hz)] at hz'
  · intro z hz
    rw [hfind] at hz
    cases hz
    show "no".toList ≠ "yes".toList
    decide

/-- Updating the serial of a reverse zone is a bump, after which the zone is clean. -/
theorem runs_setRevSerial (dc : Dc) {range : CStr} {e : RevZoneRow} {serial : ℕ}
    (he : w.db.revZones.find? (·.netRange = range) = some e) (hlt : e.serial < serial) :
    Runs dc w { w with db := w.db.setRevSerial range serial } ∧
      RevClean (w.db.setRevSerial range serial) range ∧
      revSerial (w.db.setRevSerial range serial) range = serial := by
  have hg : KeepsRevZone fun z =>
      if z.netRange = range then { z with serial := serial, updated := "no".toList } else z :=
    keepsRevZone_ite fun _ => ⟨rfl, rfl⟩
  have hrange : e.netRange = range := netRange_of_find? he
  have hfind : (w.db.setRevSerial range serial).revZones.find? (·.netRange = range) =
      some { e with serial := serial, updated := "no".toList } := by
    rw [ZoneDb.setRevSerial]
    refine (find?_mapRevZones hg range).trans ?_
    rw [he, Option.map_some, if_pos hrange]
  have hserial : revSerial (w.db.setRevSerial range serial) range = serial := by
    rw [revSerial, hfind]
    rfl
  refine ⟨fun hw => ⟨hw.mapRevZones hg, .single (.bump (.rev range) rfl ?_ ?_ ?_)⟩, ?_, hserial⟩
  · funext f
    cases f with
    | fwd zone => rfl
    | rev range' index => exact revBody_mapRevZones hg range' index
  · show revSerial w.db range < revSerial (w.db.setRevSerial range serial) range
    rw [hserial, revSerial, he]
    exact hlt
  · intro y hy
    cases y with
    | fwd name => exact ⟨rfl, id⟩
    | rev m =>
      have hm : m ≠ range := fun h => hy (by rw [h])
      have hsame : ∀ z, w.db.revZones.find? (·.netRange = m) = some z → z.netRange ≠ range :=
        fun z hz => (netRange_of_find? hz).trans_ne hm
      refine ⟨revSerial_mapRevZones hg fun z hz => by rw [if_neg (hsame z hz)], fun hc z hz => ?_⟩
      have hz' := hc.of_mapRevZones hg hz
      rwa [if_neg (hsame z hz)] at hz'
  · intro z hz
    rw [hfind] at hz
    cases hz
    show "no".toList ≠ "yes".toList
    decide

/-! ## Edits -/

section OnlyTouches

variable {α : Type} {key : α → ℕ} {k : ℕ} {l l' l'' : List α}

/-- The two lists have the same elements in the same order, up to elements with key
`k`. -/
def OnlyTouches (key : α → ℕ) (k : ℕ) (l l' : List α) : Prop :=
  ∀ p : α → Bool, (∀ x, p x = true → key x ≠ k) → l'.filter p = l.filter p

theorem OnlyTouches.refl (key : α → ℕ) (k : ℕ) (l : List α) : OnlyTouches key k l l :=
  fun _ _ => rfl

theorem OnlyTouches.trans (h : OnlyTouches key k l l') (h' : OnlyTouches key k l' l'') :
    OnlyTouches key k l l'' :=
  fun p hp => (h' p hp).trans (h p hp)

theorem OnlyTouches.append {xs : List α} (h : ∀ x ∈ xs, key x = k) :
    OnlyTouches key k l (l ++ xs) := by
  intro p hp
  have hnil : xs.filter p = [] := List.filter_eq_nil_iff.mpr fun x hx hpx => hp x hpx (h x hx)
  rw [List.filter_append, hnil, List.append_nil]

theorem OnlyTouches.filter {q : α → Bool} (h : ∀ x ∈ l, q x = false → key x = k) :
    OnlyTouches key k l (l.filter q) := by
  intro p hp
  rw [List.filter_filter]
  refine List.filter_congr fun x hx => ?_
  cases hq : q x
  · cases hpx : p x
    · rfl
    · exact absurd (h x hx hq) (hp x hpx)
  · exact Bool.and_true _

end OnlyTouches

theorem find?_zones_of_mem (hn : (db.zones.map Zone.name).Nodup) {z : Zone} (hz : z ∈ db.zones) :
    db.zones.find? (·.name = z.name) = some z := by
  rcases hf : db.zones.find? (·.name = z.name) with _ | y
  · simpa using List.find?_eq_none.mp hf z hz
  · rw [hf, List.inj_on_of_nodup_map hn (List.mem_of_find?_eq_some hf) hz (name_of_find? hf)]

theorem find?_revZones_of_mem (hn : (db.revZones.map RevZoneRow.netRange).Nodup)
    {z : RevZoneRow} (hz : z ∈ db.revZones) :
    db.revZones.find? (·.netRange = z.netRange) = some z := by
  rcases hf : db.revZones.find? (·.netRange = z.netRange) with _ | y
  · simpa using List.find?_eq_none.mp hf z hz
  · rw [hf, List.inj_on_of_nodup_map hn (List.mem_of_find?_eq_some hf) hz
      (netRange_of_find? hf)]

/-- Rows of zone `k` do not show in the file of a zone that has another id. -/
theorem fwdBody_edit {k : ℕ} {records : List DnsRecord} {glueZones : List GlueZone} {zone : CStr}
    (hr : OnlyTouches DnsRecord.zone k db.records records)
    (hg : OnlyTouches GlueZone.zoneId k db.glueZones glueZones)
    (h : ∀ z ∈ db.zones, z.name = arg zone → z.id ≠ k) :
    fwdBody dc { db with records := records, glueZones := glueZones } zone =
      fwdBody dc db zone := by
  have hid : ∀ i, some i = db.zoneIdOnName (arg zone) → i ≠ k := by
    intro i hi
    obtain ⟨z, hz, rfl⟩ := Option.map_eq_some_iff.mp hi.symm
    exact h z (List.mem_of_find?_eq_some hz) (name_of_find? hz)
  have h1 : ({ db with records := records, glueZones := glueZones } : ZoneDb).nsMxSrv
      (arg zone) = db.nsMxSrv (arg zone) :=
    hr _ fun r hr => hid _ (of_decide_eq_true hr).1
  have h2 : ({ db with records := records, glueZones := glueZones } : ZoneDb).zoneRecords
      (arg zone) = db.zoneRecords (arg zone) :=
    congrArg (List.mergeSort · _) (hr _ fun r hr => hid _ (of_decide_eq_true hr).2.2.2)
  have h3 : ({ db with records := records, glueZones := glueZones } : ZoneDb).glueOnZoneName
      (arg zone) = db.glueOnZoneName (arg zone) := by
    refine hg _ fun g hg => ?_
    obtain ⟨z, hz, hzg⟩ := List.any_eq_true.mp hg
    obtain ⟨hid, hname⟩ := of_decide_eq_true hzg
    exact hid ▸ h z hz hname
  rw [fwdBody, h1, h2, h3, fwdBody]

/-- A change of rows of zone `k` with a mark on that zone is an edit. -/
theorem runs_editFwd {k : ℕ} {records : List DnsRecord} {glueZones : List GlueZone}
    (p : Zone → Prop) [DecidablePred p] (hw : w.db.WellFormed)
    (hr : OnlyTouches DnsRecord.zone k w.db.records records)
    (hg : OnlyTouches GlueZone.zoneId k w.db.glueZones glueZones)
    (hp : ∀ z ∈ w.db.zones, z.id = k → p z)
    (hparent : ∀ g ∈ glueZones, ∃ z ∈ w.db.zones, z.id = g.zoneId ∧
      parentDomain g.name = some z.name)
    (hw' : w' = ⟨ZoneDb.mapZones { w.db with records := records, glueZones := glueZones } fun z =>
      if p z then { z with updated := "yes".toList } else z, w.files⟩) :
    w'.db.WellFormed ∧ Relation.ReflTransGen (Step ownerOf) (view dc w) (view dc w') := by
  have hk : KeepsZone fun z => if p z then { z with updated := "yes".toList } else z :=
    keepsZone_ite fun _ => ⟨rfl, rfl⟩
  subst hw'
  have hwf : ({ w.db with records := records, glueZones := glueZones } : ZoneDb).WellFormed :=
    { hw with glueParent := hparent }
  refine ⟨hwf.mapZones hk, edits_fwd rfl rfl (fun name => ?_) fun name hclean => ?_⟩
  · refine fwdSerial_mapZones hk fun z _ => ?_
    split_ifs <;> rfl
  · have hmark : ∀ z, w.db.zones.find? (·.name = name) = some z →
        ¬p z ∧ z.updated ≠ "yes".toList := by
      intro z hz
      have hz' := hclean.of_mapZones hk hz
      split_ifs at hz' with h
      · exact absurd rfl hz'
      · exact ⟨h, hz'⟩
    refine ⟨fun z hz => (hmark z hz).2, fun zone hzone => ?_⟩
    refine (fwdBody_mapZones hk zone).trans (fwdBody_edit hr hg fun z hz hname hid => ?_)
    have hfind := find?_zones_of_mem hw.zoneNames hz
    rw [hname, hzone] at hfind
    exact (hmark z hfind).1 (hp z hz hid)

/-- A change of rows of reverse zone `k` with a mark on that zone is an edit. -/
theorem runs_editRev {k : ℕ} {revRecords : List RevRecord} {range : CStr}
    (hw : w.db.WellFormed) (hr : OnlyTouches RevRecord.revZone k w.db.revRecords revRecords)
    (hp : ∀ z ∈ w.db.revZones, z.id = k → z.netRange = range)
    (hids : (revRecords.map RevRecord.id).Nodup)
    (hw' : w' = ⟨ZoneDb.setRevUpdated { w.db with revRecords := revRecords } range, w.files⟩) :
    w'.db.WellFormed ∧ Relation.ReflTransGen (Step ownerOf) (view dc w) (view dc w') := by
  have hk : KeepsRevZone fun z =>
      if z.netRange = range then { z with updated := "yes".toList } else z :=
    keepsRevZone_ite fun _ => ⟨rfl, rfl⟩
  subst hw'
  have hwf : ({ w.db with revRecords := revRecords } : ZoneDb).WellFormed :=
    { hw with revRecordIds := hids }
  refine ⟨hwf.mapRevZones hk, edits_rev (fun _ => rfl) rfl (fun m => ?_) fun m hclean => ?_⟩
  · refine revSerial_mapRevZones hk fun z _ => ?_
    split_ifs <;> rfl
  · have hmark : ∀ z, w.db.revZones.find? (·.netRange = m) = some z →
        z.netRange ≠ range ∧ z.updated ≠ "yes".toList := by
      intro z hz
      have hz' := hclean.of_mapRevZones hk hz
      split_ifs at hz' with h
      · exact absurd rfl hz'
      · exact ⟨h, hz'⟩
    refine ⟨fun z hz => (hmark z hz).2, fun range' index hrange => ?_⟩
    refine (revBody_mapRevZones hk range' index).trans (congrArg writeRevZoneRecords ?_)
    refine hr _ fun r hr hid => ?_
    have hfind := (of_decide_eq_true hr).1.symm
    rw [hrange] at hfind
    obtain ⟨z, hz, hzr⟩ := Option.map_eq_some_iff.mp hfind
    exact (hmark z hz).1 (hp z (List.mem_of_find?_eq_some hz) (hzr.trans hid))

end Cmdb
