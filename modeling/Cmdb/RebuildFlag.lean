import Cmdb.SerialDiscipline
import Cmdb.ZoneSteps

/-!
# What a rebuild that stops leaves behind

`build_reverse_zone` deletes, inserts and marks the zone in three statements, each on its
own, and stops at the first that fails. Once the mark is set nothing that follows loses
it without a larger serial (`moves_keepsAhead_cmdbValidateRevZone`). Before that,
`buildReverseZone_flagged_iff` says when the records are served under the old serial : a
statement changed them and a later one failed, and the zone was not marked already.
-/

namespace Cmdb

open CString

variable {dc : Dc} {env : ZoneEnv} {w : ZoneWorld} {db : ZoneDb}

/-! ## Marked, or ahead of a serial -/

/-- The row of the range is marked and its serial at least `s`, or its serial is above
`s`. -/
def AheadOf (s : ℕ) (range : CStr) (db : ZoneDb) : Prop :=
  ∃ z, db.revZones.find? (·.netRange = range) = some z ∧
    (z.updated = "yes".toList ∧ s ≤ z.serial ∨ s < z.serial)

theorem AheadOf.mapRevZones {s : ℕ} {range : CStr} {g : RevZoneRow → RevZoneRow}
    (hg : KeepsRevZone g) (h : AheadOf s range db)
    (hz : ∀ z, db.revZones.find? (·.netRange = range) = some z → s ≤ z.serial →
      (g z).updated = z.updated ∧ (g z).serial = z.serial ∨ z.serial < (g z).serial) :
    AheadOf s range (db.mapRevZones g) := by
  obtain ⟨z, hfind, ha⟩ := h
  refine ⟨g z, by rw [find?_mapRevZones hg, hfind]; rfl, ?_⟩
  have hs : s ≤ z.serial := ha.elim And.right Nat.le_of_lt
  rcases hz z hfind hs with ⟨hu, he⟩ | hlt
  · rwa [hu, he]
  · exact .inr (hs.trans_lt hlt)

/-- What is ahead stays ahead. -/
def KeepsAhead (range : CStr) (w w' : ZoneWorld) : Prop :=
  ∀ s, AheadOf s range w.db → AheadOf s range w'.db

theorem KeepsAhead.refl (range : CStr) (w : ZoneWorld) : KeepsAhead range w w := fun _ h => h

theorem KeepsAhead.trans (range : CStr) (w w' w'' : ZoneWorld) (h : KeepsAhead range w w')
    (h' : KeepsAhead range w' w'') : KeepsAhead range w w'' := fun s hs => h' s (h s hs)

theorem aheadOf_setRevValid {s : ℕ} {range : CStr} (h : AheadOf s range db)
    (range' valid : CStr) : AheadOf s range (db.setRevValid range' valid) := by
  refine h.mapRevZones (keepsRevZone_ite fun _ => ⟨rfl, rfl⟩) fun z _ _ => .inl ?_
  split_ifs <;> exact ⟨rfl, rfl⟩

/-- Bumping the serial of the row found keeps the row ahead. -/
theorem aheadOf_setRevSerial {s : ℕ} {range : CStr} (h : AheadOf s range db) {e : RevZoneRow}
    (he : db.revZones.find? (·.netRange = range) = some e) (clock : Option Tm) :
    AheadOf s range (db.setRevSerial range (bumpSerial clock e.serial)) := by
  refine h.mapRevZones (keepsRevZone_ite fun _ => ⟨rfl, rfl⟩) fun z hz _ => .inr ?_
  rw [if_pos (netRange_of_find? hz)]
  cases he.symm.trans hz
  exact bumpSerial_gt clock e.serial

theorem revSteps_keepsAhead (env : ZoneEnv) (zone : CStr) :
    RevSteps env zone (KeepsAhead (arg zone)) where
  refl := KeepsAhead.refl _
  trans := KeepsAhead.trans _
  serial _ _ _ he _ _ _ hs := aheadOf_setRevSerial hs he _
  file w _ := KeepsAhead.refl _ w
  valid _ _ _ hs := aheadOf_setRevValid hs _ _

/-- A validation, wherever it stops, keeps the zone ahead. -/
theorem moves_keepsAhead_cmdbValidateRevZone (dc : Dc) (env : ZoneEnv) (zone ztype : CStr)
    (pfx : ℕ) : Prog.Moves (KeepsAhead (arg zone)) (cmdbValidateRevZone dc env zone ztype pfx) :=
  (revSteps_keepsAhead env zone).moves_cmdbValidateRevZone dc ztype pfx

/-! ## Where the rebuild stops -/

/-- The tables once the delete has succeeded, and the insert if it does. -/
def changedRecords (env : ZoneEnv) (range : CStr) (l : RebuildLists) (db : ZoneDb) : ZoneDb :=
  if l.add = [] ∨ env.sql .insertReverseRecord range 0 = true then
    (db.deleteRevRecords l.remove).insertRevRecords (revRows l.add)
  else db.deleteRevRecords l.remove

theorem revZones_changedRecords (env : ZoneEnv) (range : CStr) (l : RebuildLists) (db : ZoneDb) :
    (changedRecords env range l db).revZones = db.revZones := by
  have hinsert : ∀ (rows : List NewRevRecord) (db : ZoneDb),
      (db.insertRevRecords rows).revZones = db.revZones := by
    intro rows
    induction rows with
    | nil => exact fun _ => rfl
    | cons e rows ih => exact fun db => ih (db.insertRevRecord e)
  unfold changedRecords
  split_ifs
  · exact hinsert _ _
  · rfl

/-- The state a rebuild with lists `l` leaves. -/
def rebuilt (dc : Dc) (env : ZoneEnv) (cm : DnsaCommLine) (pfx : ℕ) (l : RebuildLists)
    (w : ZoneWorld) : ZoneWorld :=
  if l.remove = [] ∧ l.add = [] then w
  else if l.remove ≠ [] ∧ env.sql .deleteReverseRecord cm.domain 0 = false then w
  else if (l.add = [] ∨ env.sql .insertReverseRecord cm.domain 0 = true) ∧
      env.sql .setRevZoneUpdated cm.domain 0 = true then
    (cmdbValidateRevZone dc env cm.domain "master".toList pfx
      ⟨(changedRecords env cm.domain l w.db).setRevUpdated (arg cm.domain), w.files⟩).2
  else ⟨changedRecords env cm.domain l w.db, w.files⟩

theorem buildReverseZone_run_snd (dc : Dc) (env : ZoneEnv) (cm : DnsaCommLine) (w : ZoneWorld)
    {pfx : ℕ} {l : RebuildLists}
    (h : (rebuildLists dc env cm.domain w).1 = .ok (some (pfx, l))) :
    (buildReverseZone dc env cm w).2 = rebuilt dc env cm pfx l w := by
  have hdelete := runIf_deleteRevRecords env cm.domain l w.db w.files
  have hinsert := runIf_insertRevRecords env cm.domain l (w.db.deleteRevRecords l.remove) w.files
  rw [buildReverseZone, (readOnly_rebuildLists _ _ _).bind_run_of_ok h, rebuilt]
  dsimp only
  rw [Prog.ite_run]
  by_cases hnone : l.remove = [] ∧ l.add = []
  · rw [if_neg (by simp [hnone]), if_pos hnone]
    rfl
  rw [if_neg hnone, if_pos (by
    simp only [List.length_pos_iff_ne_nil]
    by_contra hn
    rw [not_or, not_not, not_not] at hn
    exact hnone hn)]
  by_cases hdel : l.remove ≠ [] ∧ env.sql .deleteReverseRecord cm.domain 0 = false
  · rw [if_neg (by simp [hdel])] at hdelete
    rw [if_pos hdel, Prog.bind_run_error hdelete]
  rw [if_pos (by simpa [or_iff_not_imp_left] using hdel)] at hdelete
  rw [if_neg hdel, Prog.bind_run_ok hdelete]
  by_cases hins : l.add = [] ∨ env.sql .insertReverseRecord cm.domain 0 = true
  · rw [if_pos hins] at hinsert
    rw [Prog.bind_run_ok hinsert, changedRecords, if_pos hins]
    by_cases hflag : env.sql .setRevZoneUpdated cm.domain 0 = true
    · rw [if_pos ⟨hins, hflag⟩, Prog.bind_run_ok ((statement_run ..).trans (if_pos hflag))]
    · rw [if_neg (fun hn => hflag hn.2),
        Prog.bind_run_error ((statement_run ..).trans (if_neg hflag))]
  · rw [if_neg hins] at hinsert
    rw [Prog.bind_run_error hinsert, changedRecords, if_neg hins, if_neg (fun hn => hins hn.1)]

/-! ## All or flagged -/

/-- The zone is marked now, or its serial is above what it was. -/
def FlaggedSince (range : CStr) (db db' : ZoneDb) : Prop :=
  ∃ z', db'.revZones.find? (·.netRange = range) = some z' ∧
    (z'.updated = "yes".toList ∨
      ∃ z, db.revZones.find? (·.netRange = range) = some z ∧ z.serial < z'.serial)

/-- The reverse records are as they were, or the zone is flagged. -/
def AllOrFlagged (range : CStr) (w w' : ZoneWorld) : Prop :=
  w'.db.revRecords = w.db.revRecords ∨ FlaggedSince range w.db w'.db

/-- What keeps a rebuild from leaving changed records under the old serial : it changes
nothing, the first statement it runs is the delete and fails, all its statements up to
the mark succeed, the zone is marked already, or the statements that succeed give the
same records. -/
def FlagsChanges (dc : Dc) (env : ZoneEnv) (range : CStr) (w : ZoneWorld) : Prop :=
  ∀ pfx l, (rebuildLists dc env range w).1 = .ok (some (pfx, l)) →
    l.remove = [] ∧ l.add = [] ∨
    l.remove ≠ [] ∧ env.sql .deleteReverseRecord range 0 = false ∨
    (l.add = [] ∨ env.sql .insertReverseRecord range 0 = true) ∧
      env.sql .setRevZoneUpdated range 0 = true ∨
    ¬RevClean w.db (arg range) ∨
    (changedRecords env range l w.db).revRecords = w.db.revRecords

/-- A rebuild that gets its lists has found the row of its zone. -/
theorem exists_row_of_rebuildLists {range : CStr} {pfx : ℕ} {l : RebuildLists}
    (h : (rebuildLists dc env range w).1 = .ok (some (pfx, l))) :
    ∃ z, w.db.revZones.find? (·.netRange = arg range) = some z := by
  obtain ⟨fix, hfix, h⟩ := (readOnly_query _ _ _ _ _).bind_ok h
  obtain rfl := query_ok hfix
  rcases hrows : w.db.revZonesOnRange (arg range) with _ | ⟨row, rest⟩
  · rw [hrows] at h
    cases h
  · exact ⟨row, by rw [← head?_revZonesOnRange, hrows]; rfl⟩

theorem AheadOf.flaggedSince {range : CStr} {db db' : ZoneDb} {z : RevZoneRow}
    (hz : db.revZones.find? (·.netRange = range) = some z) (h : AheadOf z.serial range db') :
    FlaggedSince range db db' := by
  obtain ⟨z', hz', h⟩ := h
  exact ⟨z', hz', h.imp And.left fun hlt => ⟨z, hz, hlt⟩⟩

/-- The mark, on a row that is there, puts it ahead of its serial. -/
theorem aheadOf_setRevUpdated {range : CStr} {z : RevZoneRow}
    (hz : db.revZones.find? (·.netRange = range) = some z) :
    AheadOf z.serial range (db.setRevUpdated range) := by
  have hg : KeepsRevZone fun z =>
      if z.netRange = range then { z with updated := "yes".toList } else z :=
    keepsRevZone_ite fun _ => ⟨rfl, rfl⟩
  refine ⟨{ z with updated := "yes".toList }, ?_, .inl ⟨rfl, le_rfl⟩⟩
  refine (find?_mapRevZones hg range).trans ?_
  rw [hz, Option.map_some, if_pos (netRange_of_find? hz)]

/-- Rows that are as they were are flagged only if they were marked. -/
theorem flaggedSince_iff_of_revZones_eq {range : CStr} {db db' : ZoneDb}
    (h : db'.revZones = db.revZones) : FlaggedSince range db db' ↔ ¬RevClean db range := by
  rw [FlaggedSince, h, RevClean]
  push Not
  refine exists_congr fun z' => and_congr_right fun hz' => or_iff_left ?_
  rintro ⟨z, hz, hlt⟩
  rw [hz'] at hz
  cases hz
  exact lt_irrefl _ hlt

/-- For every state and every point the rebuild can fail at, the records are as they were
or the zone is flagged iff one of the five conditions of `FlagsChanges` holds. -/
theorem buildReverseZone_flagged_iff (dc : Dc) (env : ZoneEnv) (cm : DnsaCommLine)
    (w : ZoneWorld) : AllOrFlagged (arg cm.domain) w (buildReverseZone dc env cm w).2 ↔
      FlagsChanges dc env cm.domain w := by
  rcases h : (rebuildLists dc env cm.domain w).1 with e | _ | ⟨pfx, l⟩
  · have hrun := (readOnly_rebuildLists dc env cm.domain).run_eq w
    rw [h] at hrun
    rw [buildReverseZone, Prog.bind_run_error hrun]
    exact iff_of_true (.inl rfl) fun _ _ h' => nomatch h.symm.trans h'
  · rw [buildReverseZone, (readOnly_rebuildLists _ _ _).bind_run_of_ok h]
    exact iff_of_true (.inl rfl) fun _ _ h' => nomatch h.symm.trans h'
  obtain ⟨z, hz⟩ := exists_row_of_rebuildLists h
  have hcond : FlagsChanges dc env cm.domain w ↔ _ :=
    ⟨fun hf => hf pfx l h, fun hf pfx' l' h' => by cases h.symm.trans h'; exact hf⟩
  have hzones := revZones_changedRecords env cm.domain l w.db
  rw [buildReverseZone_run_snd dc env cm w h, hcond, rebuilt]
  by_cases hnone : l.remove = [] ∧ l.add = []
  · rw [if_pos hnone]
    exact iff_of_true (.inl rfl) (.inl hnone)
  by_cases hdel : l.remove ≠ [] ∧ env.sql .deleteReverseRecord cm.domain 0 = false
  · rw [if_neg hnone, if_pos hdel]
    exact iff_of_true (.inl rfl) (.inr (.inl hdel))
  rw [if_neg hnone, if_neg hdel]
  by_cases hflag : (l.add = [] ∨ env.sql .insertReverseRecord cm.domain 0 = true) ∧
      env.sql .setRevZoneUpdated cm.domain 0 = true
  · have hmark : AheadOf z.serial (arg cm.domain)
        ((changedRecords env cm.domain l w.db).setRevUpdated (arg cm.domain)) :=
      aheadOf_setRevUpdated (hzones ▸ hz)
    have hkeep := moves_keepsAhead_cmdbValidateRevZone dc env cm.domain "master".toList pfx
      ⟨(changedRecords env cm.domain l w.db).setRevUpdated (arg cm.domain), w.files⟩
    have hahead := hkeep z.serial hmark
    rw [if_pos hflag]
    exact iff_of_true (Or.inr (hahead.flaggedSince hz)) (.inr (.inr (.inl hflag)))
  · rw [if_neg hflag, AllOrFlagged, flaggedSince_iff_of_revZones_eq hzones, or_iff_right hnone,
      or_iff_right hdel, or_iff_right hflag, or_comm]

/-- `10.0.2.0/24`, not marked, with a stale reverse record, and `www.example.com` at
`10.0.2.5`. -/
def staleWorld : ZoneWorld where
  db :=
    { zones := [⟨1, "example.com".toList, "ns.example.com".toList, "none".toList, 1, 1, 1, 1, 1,
        "yes".toList, "no".toList, "master".toList, none⟩]
      records := [⟨1, 1, "www".toList, "A".toList, none, none, 0, "10.0.2.5".toList⟩]
      glueZones := []
      revZones := [⟨1, "10.0.2.0".toList, "24".toList, 167772672, 167772927,
        "ns.example.com".toList, "none".toList, 5, 1, 1, 1, 1, "yes".toList, "no".toList,
        "master".toList, some "NULL".toList⟩]
      revRecords := [⟨1, 1, 0, "6".toList, "old.example.com.".toList⟩]
      preferredA := [] }
  files := []

/-- The lists of its rebuild : the stale record goes, the address comes. -/
def staleLists : RebuildLists where
  forward := [⟨"www".toList, "10.0.2.5".toList, "example.com".toList, 1, 0, 0⟩]
  reverse := [⟨"6".toList, "old.example.com.".toList, [], 1, 1, 0⟩]
  remove := [.number 1]
  add := [.number 1, .number 0, .text "5".toList, .text "www.example.com.".toList, .number 0,
    .number 0]

/-- Everything succeeds but the insert. -/
def insertFails : ZoneEnv :=
  ⟨fun q _ _ => q ≠ .insertReverseRecord, fun _ => none, fun _ => true, fun _ => true,
    fun _ _ => none⟩

/-- The command line that names `10.0.2.0`. -/
def rebuildTen24 : DnsaCommLine :=
  ⟨"10.0.2.0".toList, [], [], [], 0, none, none, none, none, none, by decide⟩

/-- The delete goes through, the insert does not, and nothing says so. -/
theorem buildReverseZone_staleWorld_not_flagged :
    ¬AllOrFlagged (arg rebuildTen24.domain) staleWorld
      (buildReverseZone ⟨[], 0, fun _ _ => none⟩ insertFails rebuildTen24 staleWorld).2 := by
  have h : (rebuildLists ⟨[], 0, fun _ _ => none⟩ insertFails rebuildTen24.domain staleWorld).1 =
      .ok (some (24, staleLists)) := by decide +kernel
  have hrun : (buildReverseZone ⟨[], 0, fun _ _ => none⟩ insertFails rebuildTen24 staleWorld).2 =
      ⟨{ staleWorld.db with revRecords := [] }, []⟩ := by
    rw [buildReverseZone_run_snd _ _ _ _ h]
    decide
  have hclean : RevClean staleWorld.db (arg rebuildTen24.domain) := by
    intro z hz
    cases hz
    decide
  rw [hrun]
  rintro (hrecords | hflag)
  · exact absurd hrecords (by decide)
  · exact (flaggedSince_iff_of_revZones_eq rfl).mp hflag hclean

end Cmdb
