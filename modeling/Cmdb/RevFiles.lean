import Cmdb.ZoneSteps

/-!
# Which files of a reverse zone are written

`cmdb_validate_rev_zone` writes the files of the sub-zones one after the other and stops
at the first that cannot be written, and after the first that is found invalid. Only the
first file depends on the mark of the zone, for its bump clears it. So the files a
validation puts on record are those `reached` lists, if the row allows the first
(`cmdbValidateRevZone_files`).
-/

namespace Cmdb

open CString

variable {dc : Dc} {env : ZoneEnv} {w : ZoneWorld}

/-! ## One file -/

/-- The row of the zone is there, and its serial is updated if it is marked. -/
def RevRowOk (env : ZoneEnv) (zone : CStr) (index : ℕ) (db : ZoneDb) : Prop :=
  ∃ e, db.revZones.find? (·.netRange = arg zone) = some e ∧
    (e.updated = "yes".toList → env.sql .revZoneSerialUpdate zone index = true)

/-- What the file of a sub-zone needs beside the row. -/
structure RevFileOk (env : ZoneEnv) (zone : CStr) (pfx index : ℕ) : Prop where
  soa : env.sql .revSoaOnNetRange zone index = true
  records : env.sql .revRecordsOnNetRange zone index = true
  address : (getOffsetIp zone pfx index).isOk = true
  opens : env.openOk (.rev zone index) = true

instance (env : ZoneEnv) (zone : CStr) (pfx index : ℕ) : Decidable (RevFileOk env zone pfx index) :=
  decidable_of_iff (env.sql .revSoaOnNetRange zone index = true ∧
      env.sql .revRecordsOnNetRange zone index = true ∧
      (getOffsetIp zone pfx index).isOk = true ∧ env.openOk (.rev zone index) = true)
    ⟨fun ⟨h1, h2, h3, h4⟩ => ⟨h1, h2, h3, h4⟩, fun ⟨h1, h2, h3, h4⟩ => ⟨h1, h2, h3, h4⟩⟩

theorem isOk_iff {α : Type} {r : Except AilsaError α} : r.isOk = true ↔ ∃ a, r = .ok a := by
  cases r with
  | error e => exact ⟨nofun, fun ⟨_, h⟩ => nomatch h⟩
  | ok a => exact ⟨fun _ => ⟨a, rfl⟩, fun _ => rfl⟩

theorem revRowOk_of_mem {zone : CStr} {db : ZoneDb} {index : ℕ} {r : RevZoneRow}
    (hsql : env.sql .revZoneSerialUpdate zone index = true) (hr : r ∈ db.revZones)
    (hrange : r.netRange = arg zone) : RevRowOk env zone index db := by
  rcases hfind : db.revZones.find? (·.netRange = arg zone) with _ | e
  · exact absurd (decide_eq_true hrange) (List.find?_eq_none.mp hfind r hr)
  · exact ⟨e, hfind, fun _ => hsql⟩

/-- The check leaves a row that is not marked, or stops and changes nothing. -/
theorem ailsaCheckForRevZoneUpdate_outcome (env : ZoneEnv) (zone : CStr) (index : ℕ)
    (w : ZoneWorld) :
    (RevRowOk env zone index w.db ∧ ∃ l db', (∀ j, RevRowOk env zone j db') ∧
      ailsaCheckForRevZoneUpdate env (w.db.revZonesOnRange (arg zone)) zone index w =
        (.ok l, ⟨db', w.files⟩)) ∨
    ¬RevRowOk env zone index w.db ∧ ∃ e,
      ailsaCheckForRevZoneUpdate env (w.db.revZonesOnRange (arg zone)) zone index w =
        (.error e, w) := by
  have hhead := head?_revZonesOnRange w.db (arg zone)
  rcases hl : w.db.revZonesOnRange (arg zone) with _ | ⟨e, rest⟩
  · rw [hl, List.head?_nil] at hhead
    refine .inr ⟨?_, _, rfl⟩
    rintro ⟨e, he, -⟩
    cases hhead.trans he
  rw [hl, List.head?_cons] at hhead
  rw [ailsaCheckForRevZoneUpdate_cons]
  split_ifs with hu hsql
  · refine .inl ⟨⟨e, hhead.symm, fun _ => hsql⟩, _, _, fun j => ?_, rfl⟩
    have hkeep : KeepsRevZone fun z : RevZoneRow =>
        if z.netRange = arg zone then
          { z with serial := bumpSerial (env.clock (.rev zone index)) e.serial
                   updated := "no".toList }
        else z := keepsRevZone_ite fun _ => ⟨rfl, rfl⟩
    have hfind : (w.db.mapRevZones _).revZones.find? (·.netRange = arg zone) = _ :=
      find?_mapRevZones hkeep (arg zone)
    rw [← hhead, Option.map_some, if_pos (netRange_of_find? hhead.symm)] at hfind
    exact ⟨_, hfind, fun h => absurd (show "no".toList = "yes".toList from h) (by decide)⟩
  · refine .inr ⟨?_, _, rfl⟩
    rintro ⟨e', he', himp⟩
    cases hhead.trans he'
    exact hsql (himp hu)
  · refine .inl ⟨⟨e, hhead.symm, fun h => absurd h hu⟩, _, _, fun j => ?_, rfl⟩
    exact ⟨e, hhead.symm, fun h => absurd h hu⟩

/-- The function puts the file on record and leaves a row that is not marked, or it stops
and puts no file on record. -/
theorem writeRevZoneFile_run (dc : Dc) (env : ZoneEnv) (zone : CStr) (pfx index : ℕ)
    (w : ZoneWorld) :
    (RevRowOk env zone index w.db ∧ RevFileOk env zone pfx index ∧ ∃ db' v,
      (∀ j, RevRowOk env zone j db') ∧ v.file = .rev zone index ∧
      writeRevZoneFile dc env zone pfx index w = (.ok (), ⟨db', v :: w.files⟩)) ∨
    ¬(RevRowOk env zone index w.db ∧ RevFileOk env zone pfx index) ∧ ∃ e db',
      writeRevZoneFile dc env zone pfx index w = (.error e, ⟨db', w.files⟩) := by
  rw [writeRevZoneFile]
  by_cases h1 : env.sql .revSoaOnNetRange zone index = true
  swap
  · rw [Prog.bind_run_error (query_run_of_false h1 _ w)]
    exact .inr ⟨fun h => h1 h.2.soa, _, w.db, rfl⟩
  rw [Prog.bind_run_ok (query_run_of_true h1 _ w)]
  obtain ⟨hrow, l, db', hdb, hcheck⟩ | ⟨hrow, e, hcheck⟩ :=
    ailsaCheckForRevZoneUpdate_outcome env zone index w
  swap
  · rw [Prog.bind_run_error hcheck]
    exact .inr ⟨fun h => hrow h.1, e, w.db, rfl⟩
  rw [Prog.bind_run_ok hcheck]
  by_cases h2 : env.sql .revRecordsOnNetRange zone index = true
  swap
  · rw [Prog.bind_run_error (query_run_of_false h2 _ _)]
    exact .inr ⟨fun h => h2 h.2.records, _, db', rfl⟩
  rw [Prog.bind_run_ok (query_run_of_true h2 _ _)]
  rcases h3 : getOffsetIp zone pfx index with e | ip
  · rw [ret_error_bind_run]
    refine .inr ⟨fun h => ?_, e, db', rfl⟩
    have haddr := h.2.address
    rw [h3] at haddr
    cases haddr
  rw [ret_ok_bind_run]
  by_cases h4 : env.openOk (.rev zone index) = true
  · rw [h4]
    exact .inl ⟨hrow, ⟨h1, h2, isOk_iff.mpr ⟨ip, h3⟩, h4⟩, db', _, hdb, rfl, rfl⟩
  · rw [Bool.eq_false_iff.mpr h4]
    exact .inr ⟨fun h => h4 h.2.opens, _, db', rfl⟩

/-! ## The files of a zone -/

/-- The indexes whose files are written : up to the first that cannot be, or the first
that is found invalid. -/
def reached (env : ZoneEnv) (zone : CStr) (pfx : ℕ) : List ℕ → List ℕ
  | [] => []
  | i :: is =>
    if RevFileOk env zone pfx i then
      i :: if env.chkz (.rev zone i) = true then reached env zone pfx is else []
    else []

theorem reached_eq_self {zone : CStr} {pfx : ℕ} : ∀ {is : List ℕ},
    (∀ i ∈ is, RevFileOk env zone pfx i) → (∀ i ∈ is, env.chkz (.rev zone i) = true) →
      reached env zone pfx is = is
  | [], _, _ => rfl
  | i :: is, hok, hchk => by
    rw [reached, if_pos (hok i (List.mem_cons_self ..)), if_pos (hchk i (List.mem_cons_self ..)),
      reached_eq_self (fun j hj => hok j (List.mem_cons_of_mem _ hj)) fun j hj =>
        hchk j (List.mem_cons_of_mem _ hj)]

/-- The files a program puts on record : `fs`, the last one first. -/
def Puts (fs : List ZoneFile) (w w' : ZoneWorld) : Prop :=
  ∃ new, w'.files = new ++ w.files ∧ new.map Written.file = fs.reverse

theorem Puts.refl (w : ZoneWorld) : Puts [] w w := ⟨[], rfl, rfl⟩

theorem Puts.trans {fs fs' : List ZoneFile} {w w' w'' : ZoneWorld} (h : Puts fs w w')
    (h' : Puts fs' w' w'') : Puts (fs ++ fs') w w'' := by
  obtain ⟨new, hfiles, hnew⟩ := h
  obtain ⟨new', hfiles', hnew'⟩ := h'
  refine ⟨new' ++ new, by rw [hfiles', hfiles, List.append_assoc], ?_⟩
  rw [List.map_append, hnew, hnew', List.reverse_append]

/-- A statement puts no file on record. -/
theorem puts_statement (env : ZoneEnv) (q : Query) (name : CStr) (index : ℕ) (u : ZoneDb → ZoneDb)
    (w : ZoneWorld) : Puts [] w (statement env q name index u w).2 := by
  rw [statement_run]
  split_ifs <;> exact ⟨[], rfl, rfl⟩

theorem checkRevFiles_run (dc : Dc) (env : ZoneEnv) (zone : CStr) (pfx : ℕ) : ∀ (is : List ℕ)
    (w : ZoneWorld), (∀ i ∈ is.head?, RevRowOk env zone i w.db) →
      ∃ r w', checkRevFiles dc env zone pfx is w = (r, w') ∧
        Puts ((reached env zone pfx is).map (.rev zone)) w w' ∧
        ((∀ i ∈ is, RevFileOk env zone pfx i) →
          r = .ok (is.all fun i => env.chkz (.rev zone i)))
  | [], w, _ => ⟨.ok true, w, rfl, Puts.refl w, fun _ => rfl⟩
  | i :: is, w, hrow => by
    have hrow : RevRowOk env zone i w.db := hrow i rfl
    rw [checkRevFiles, reached]
    rcases hip : getOffsetIp zone pfx i with e | ip
    · have hno : ¬RevFileOk env zone pfx i := fun h => by
        have haddr := h.address
        rw [hip] at haddr
        cases haddr
      refine ⟨.error e, w, ret_error_bind_run e _ w, ?_, fun h => ?_⟩
      · rw [if_neg hno]
        exact Puts.refl w
      · exact absurd (h i (List.mem_cons_self ..)) hno
    rw [ret_ok_bind_run]
    obtain ⟨-, hok, db', v, hdb, hfile, hwrite⟩ | ⟨hno, e, db', hwrite⟩ :=
      writeRevZoneFile_run dc env zone pfx i w
    swap
    · have hno : ¬RevFileOk env zone pfx i := fun h => hno ⟨hrow, h⟩
      refine ⟨.error e, _, Prog.bind_run_error hwrite _, ?_, fun h => ?_⟩
      · rw [if_neg hno]
        exact ⟨[], rfl, rfl⟩
      · exact absurd (h i (List.mem_cons_self ..)) hno
    have hput : Puts [.rev zone i] w ⟨db', v :: w.files⟩ :=
      ⟨[v], rfl, by rw [List.map_singleton, hfile, List.reverse_singleton]⟩
    rw [Prog.bind_run_ok hwrite, if_pos hok, Prog.ite_run]
    split_ifs with hchk
    · obtain ⟨r, w', hrun, hputs, hr⟩ := checkRevFiles_run dc env zone pfx is ⟨db', v :: w.files⟩
        fun j _ => hdb j
      refine ⟨r, w', hrun, hput.trans hputs, fun h => ?_⟩
      rw [hr fun j hj => h j (List.mem_cons_of_mem _ hj), List.all_cons, hchk, Bool.true_and]
    · refine ⟨.ok false, _, rfl, hput, fun _ => ?_⟩
      rw [List.all_cons, Bool.eq_false_iff.mpr hchk, Bool.false_and]

/-- All files can be written : the validation goes through, whatever the checks say. -/
theorem cmdbValidateRevZone_ok (dc : Dc) {zone ztype : CStr} {pfx n : ℕ}
    (hs : ¬isSlave ztype = true) (hn : getZoneIndex pfx = .ok n)
    (hrow : RevRowOk env zone 0 w.db) (hfiles : ∀ i < n, RevFileOk env zone pfx i)
    (hvalid : env.sql .revZoneValidate zone 0 = true) :
    ∃ w', cmdbValidateRevZone dc env zone ztype pfx w = (.ok (), w') ∧
      Puts ((reached env zone pfx (List.range n)).map (.rev zone)) w w' := by
  obtain ⟨r, w', hrun, hputs, hr⟩ := checkRevFiles_run dc env zone pfx (List.range n) w
    fun i hi => by
      rw [List.head?_range] at hi
      split_ifs at hi
      · cases hi
      · cases hi
        exact hrow
  obtain rfl := hr fun i hi => hfiles i (List.mem_range.mp hi)
  rw [cmdbValidateRevZone, if_neg hs, hn, ret_ok_bind_run, Prog.bind_run_ok hrun]
  refine ⟨_, (statement_run ..).trans (if_pos hvalid), ?_⟩
  obtain ⟨new, hfiles, hnew⟩ := hputs
  exact ⟨new, hfiles, hnew⟩

/-- Without the row, or the update of its serial, nothing is changed. -/
theorem writeRevZoneFile_run_of_not_rowOk (dc : Dc) {env : ZoneEnv} {zone : CStr} (pfx : ℕ)
    {index : ℕ} {w : ZoneWorld} (h : ¬RevRowOk env zone index w.db) :
    ∃ e, writeRevZoneFile dc env zone pfx index w = (.error e, w) := by
  rw [writeRevZoneFile]
  by_cases hsoa : env.sql .revSoaOnNetRange zone index = true
  · rw [Prog.bind_run_ok (query_run_of_true hsoa _ w)]
    obtain ⟨hrow, -⟩ | ⟨-, e, hcheck⟩ := ailsaCheckForRevZoneUpdate_outcome env zone index w
    · exact absurd hrow h
    · exact ⟨e, Prog.bind_run_error hcheck _⟩
  · exact ⟨_, Prog.bind_run_error (query_run_of_false hsoa _ w) _⟩

theorem checkRevFiles_run_of_not_rowOk (dc : Dc) {env : ZoneEnv} {zone : CStr} (pfx : ℕ) {i : ℕ}
    (is : List ℕ) {w : ZoneWorld} (h : ¬RevRowOk env zone i w.db) :
    ∃ e, checkRevFiles dc env zone pfx (i :: is) w = (.error e, w) := by
  rw [checkRevFiles]
  rcases getOffsetIp zone pfx i with e | ip
  · exact ⟨e, ret_error_bind_run e _ w⟩
  · rw [ret_ok_bind_run]
    obtain ⟨e, hwrite⟩ := writeRevZoneFile_run_of_not_rowOk dc pfx h
    exact ⟨e, Prog.bind_run_error hwrite _⟩

/-- The file of sub-zone `i` is written by a validation of the zone. -/
structure RevReached (env : ZoneEnv) (zone : CStr) (pfx i : ℕ) (db : ZoneDb) : Prop where
  row : RevRowOk env zone 0 db
  files : ∀ j ≤ i, RevFileOk env zone pfx j
  checks : ∀ j < i, env.chkz (.rev zone j) = true

theorem mem_reached_range' (env : ZoneEnv) (zone : CStr) (pfx : ℕ) {i : ℕ} : ∀ {n s : ℕ},
    i ∈ reached env zone pfx (List.range' s n) ↔ s ≤ i ∧ i < s + n ∧
      (∀ j, s ≤ j → j ≤ i → RevFileOk env zone pfx j) ∧
      ∀ j, s ≤ j → j < i → env.chkz (.rev zone j) = true
  | 0, s => by
    rw [List.range'_zero, reached]
    exact iff_of_false List.not_mem_nil fun h => by omega
  | n + 1, s => by
    rw [List.range'_succ, reached]
    have ih := mem_reached_range' env zone pfx (i := i) (n := n) (s := s + 1)
    split_ifs with hok hchk
    · rw [List.mem_cons, ih]
      constructor
      · rintro (rfl | ⟨h1, h2, h3, h4⟩)
        · refine ⟨le_rfl, by omega, fun j h h' => ?_, fun j h h' => by omega⟩
          rwa [Nat.le_antisymm h' h]
        · refine ⟨by omega, by omega, fun j h h' => ?_, fun j h h' => ?_⟩
          · rcases Nat.lt_or_eq_of_le h with hlt | rfl
            · exact h3 j hlt h'
            · exact hok
          · rcases Nat.lt_or_eq_of_le h with hlt | rfl
            · exact h4 j hlt h'
            · exact hchk
      · rintro ⟨h1, h2, h3, h4⟩
        rcases Nat.lt_or_eq_of_le h1 with hlt | rfl
        · exact .inr ⟨hlt, by omega, fun j h => h3 j (by omega), fun j h => h4 j (by omega)⟩
        · exact .inl rfl
    · rw [List.mem_singleton]
      constructor
      · rintro rfl
        refine ⟨le_rfl, by omega, fun j h h' => ?_, fun j h h' => by omega⟩
        rwa [Nat.le_antisymm h' h]
      · rintro ⟨h1, -, -, h4⟩
        by_contra hne
        exact hchk (h4 s le_rfl (by omega))
    · refine iff_of_false List.not_mem_nil ?_
      rintro ⟨h1, -, h3, -⟩
      exact hok (h3 s le_rfl h1)

theorem getZoneIndex_pos {pfx n : ℕ} (h : getZoneIndex pfx = .ok n) : 0 < n := by
  unfold getZoneIndex at h
  split_ifs at h
  · cases h
    positivity
  · cases h
    positivity
  · cases h
    positivity

/-- The files a validation of a master zone puts on record. -/
theorem cmdbValidateRevZone_files (dc : Dc) (env : ZoneEnv) (zone : CStr) {ztype : CStr}
    (pfx : ℕ) (w : ZoneWorld) (hs : ¬isSlave ztype = true) :
    ∃ fs, Puts fs w (cmdbValidateRevZone dc env zone ztype pfx w).2 ∧
      ∀ f, f ∈ fs ↔ ∃ n i, getZoneIndex pfx = .ok n ∧ i < n ∧ RevReached env zone pfx i w.db ∧
        f = .rev zone i := by
  rw [cmdbValidateRevZone, if_neg hs]
  rcases hn : getZoneIndex pfx with e | n
  · refine ⟨[], ?_, fun f => ?_⟩
    · rw [ret_error_bind_run]
      exact Puts.refl w
    · simp
  rw [ret_ok_bind_run]
  have hpos := getZoneIndex_pos hn
  have hhead : (List.range n).head? = some 0 := by
    rw [List.head?_range, if_neg hpos.ne']
  by_cases hrow : RevRowOk env zone 0 w.db
  · obtain ⟨r, w', hrun, hputs, -⟩ := checkRevFiles_run dc env zone pfx (List.range n) w
      fun i hi => by
        rw [hhead] at hi
        cases hi
        exact hrow
    refine ⟨(reached env zone pfx (List.range n)).map (.rev zone), ?_, fun f => ?_⟩
    · rcases r with e | ok
      · rw [Prog.bind_run_error hrun]
        exact hputs
      · rw [Prog.bind_run_ok hrun]
        simpa using hputs.trans (puts_statement env _ zone 0 _ w')
    · rw [List.mem_map, List.range_eq_range']
      constructor
      · rintro ⟨i, hi, rfl⟩
        obtain ⟨-, hlt, hfiles, hchecks⟩ := (mem_reached_range' env zone pfx).mp hi
        refine ⟨n, i, rfl, by omega, ⟨hrow, fun j => hfiles j (by omega), fun j =>
          hchecks j (by omega)⟩, rfl⟩
      · rintro ⟨n', i, hn', hlt, hreach, rfl⟩
        cases hn'
        exact ⟨i, (mem_reached_range' env zone pfx).mpr ⟨by omega, by omega,
          fun j _ => hreach.files j, fun j _ => hreach.checks j⟩, rfl⟩
  · have hcons : List.range n = 0 :: (List.range n).tail :=
      (List.cons_head?_tail hhead).symm
    obtain ⟨e, hrun⟩ := checkRevFiles_run_of_not_rowOk dc pfx (List.range n).tail hrow
    rw [← hcons] at hrun
    refine ⟨[], ?_, fun f => ?_⟩
    · rw [Prog.bind_run_error hrun]
      exact Puts.refl w
    · refine iff_of_false List.not_mem_nil ?_
      rintro ⟨_, _, -, -, hreach, -⟩
      exact hrow hreach.row

end Cmdb
