import Cmdb.CommitAll

/-!
# Which zones are served after a commit

A commit of all zones writes the verdict of each check into the rows of the zone's name,
and the forward configuration from the rows with verdict `yes`. `judged` gives the
verdict a row ends with : that of the last zone of its name. The reverse configuration is
written from all rows, whatever their verdict. `commit_serves_checked_iff` says for both
when no stanza of a master zone that failed its check is in the file.
-/

namespace Cmdb

open CString StanzaFile

variable {dc : DnsaCmdb} {env : DnsEnv} {w : DnsWorld}

/-! ## Verdicts -/

/-- The verdict of a validation when nothing fails. -/
def verdict (env : ZoneEnv) (z : Zone) : CStr :=
  if isSlave z.type = true ∨ env.chkz (.fwd z.name) = true then "yes".toList else "no".toList

/-- The row after the verdict of `y`. -/
def judge (env : ZoneEnv) (z y : Zone) : Zone :=
  if z.name = arg y.name then { z with valid := verdict env y } else z

/-- The row after the verdicts of `zs`, in order. -/
def judged (env : ZoneEnv) (zs : List Zone) (z : Zone) : Zone := zs.foldl (judge env) z

/-- A row without serial and mark. -/
def Zone.served (z : Zone) : Zone := { z with serial := 0, updated := [] }

theorem served_judge (env : ZoneEnv) (z y : Zone) :
    (judge env z y).served = judge env z.served y := by
  by_cases h : z.name = arg y.name
  · rw [judge, judge, if_pos h, if_pos (show z.served.name = arg y.name from h)]
    rfl
  · rw [judge, judge, if_neg h, if_neg (show ¬z.served.name = arg y.name from h)]

theorem served_judged (env : ZoneEnv) : ∀ (zs : List Zone) (z : Zone),
    (judged env zs z).served = judged env zs z.served
  | [], _ => rfl
  | y :: zs, z => by
    rw [judged, List.foldl_cons]
    refine (served_judged env zs (judge env z y)).trans ?_
    rw [served_judge]
    rfl

theorem judge_keeps (env : ZoneEnv) (z y : Zone) :
    (judge env z y).name = z.name ∧ (judge env z y).type = z.type := by
  unfold judge
  split_ifs <;> exact ⟨rfl, rfl⟩

theorem judged_keeps (env : ZoneEnv) : ∀ (zs : List Zone) (z : Zone),
    (judged env zs z).name = z.name ∧ (judged env zs z).type = z.type
  | [], _ => ⟨rfl, rfl⟩
  | y :: zs, z => by
    obtain ⟨h1, h2⟩ := judge_keeps env z y
    obtain ⟨h3, h4⟩ := judged_keeps env zs (judge env z y)
    exact ⟨h3.trans h1, h4.trans h2⟩

theorem SerialOnly.zones_served {name : CStr} {db db' : ZoneDb} (h : SerialOnly name db db') :
    db'.zones.map Zone.served = db.zones.map Zone.served := by
  rcases h with rfl | ⟨serial, rfl⟩
  · rfl
  · rw [ZoneDb.setFwdSerial, List.map_map]
    refine List.map_congr_left fun z _ => ?_
    rw [Function.comp_apply]
    split_ifs <;> rfl

theorem zones_served_judge (db : ZoneDb) (env : ZoneEnv) (y : Zone) :
    (db.setFwdValid (arg y.name) (verdict env y)).zones.map Zone.served =
      (db.zones.map Zone.served).map (judge env · y) := by
  rw [ZoneDb.setFwdValid, List.map_map, List.map_map]
  exact List.map_congr_left fun z _ => served_judge env z y

/-- One validation, when statements and files succeed. -/
theorem validated_served (dc : Dc) {env : ZoneEnv} (hsql : env.SqlOk)
    (hopen : ∀ f, env.openOk f = true) (y : Zone) (w : ZoneWorld) :
    (cmdbValidateFwdZone dc env y.name y.type w).2.db.zones.map Zone.served =
      (w.db.zones.map Zone.served).map (judge env · y) := by
  rw [cmdbValidateFwdZone]
  by_cases hs : isSlave y.type = true
  · have hv : verdict env y = "yes".toList := if_pos (.inl hs)
    rw [if_pos hs, statement_run, if_pos (hsql _ _ _), ← hv]
    exact zones_served_judge _ _ _
  rw [if_neg hs]
  obtain ⟨-, db', v, hserial, -, -, hrun⟩ | ⟨hno, db', e, hserial, hrun, -⟩ :=
    writeFwdZoneFile_run dc env y.name w
  · have hv : verdict env y = if env.chkz (.fwd y.name) then "yes".toList else "no".toList := by
      rw [verdict]
      simp only [hs, Bool.false_eq_true, false_or]
    rw [Prog.bind_run_ok hrun, statement_run, if_pos (hsql _ _ _), ← hv, zones_served_judge,
      hserial.zones_served]
  · rw [Prog.bind_run_error hrun, hserial.zones_served, List.map_map]
    refine List.map_congr_left fun z hz => ?_
    -- no row has the name, or the file could be written
    have hname : z.name ≠ arg y.name := by
      intro hname
      rcases hfind : w.db.zones.find? (·.name = arg y.name) with _ | e'
      · exact absurd (decide_eq_true hname) (List.find?_eq_none.mp hfind z hz)
      · exact hno ⟨hsql _ _ _, hsql _ _ _, ⟨e', hfind, fun _ => hsql _ _ _⟩, hsql _ _ _,
          hsql _ _ _, hsql _ _ _, hopen _⟩
    exact (if_neg (show ¬z.served.name = arg y.name from hname)).symm

/-- The rows after the validations of all forward zones. -/
theorem fwdValidated_served (dc : Dc) {env : ZoneEnv} (hsql : env.SqlOk)
    (hopen : ∀ f, env.openOk f = true) (w : ZoneWorld) :
    (fwdValidated dc env w).db.zones.map Zone.served =
      (w.db.zones.map (judged env w.db.zones)).map Zone.served := by
  have hall : ∀ (l : List Zone) (w : ZoneWorld),
      (l.foldl (fun w z => (cmdbValidateFwdZone dc env z.name z.type w).2) w).db.zones.map
          Zone.served = (w.db.zones.map Zone.served).map (judged env l) := by
    intro l
    induction l with
    | nil => exact fun w => (List.map_id _).symm
    | cons y l ih =>
      intro w
      rw [List.foldl_cons, ih, validated_served dc hsql hopen, List.map_map]
      rfl
  rw [fwdValidated, hall, List.map_map, List.map_map]
  exact List.map_congr_left fun z _ => (served_judged env _ z).symm

/-! ## The forward file -/

theorem fwdLines_zipIdx_served (dir : CStr) (env : ZoneEnv) : ∀ (l : List Zone) (k : ℕ),
    fwdLines dir env ((l.map Zone.served).zipIdx k) = fwdLines dir env (l.zipIdx k)
  | [], _ => rfl
  | z :: l, k => by
    have ih := fwdLines_zipIdx_served dir env l (k + 1)
    rw [List.map_cons, List.zipIdx_cons, List.zipIdx_cons]
    rw [fwdLines, fwdLines, begun, begun, List.flatMap_cons, List.flatMap_cons]
    refine congrArg₂ (· ++ ·) rfl ?_
    by_cases h : LookupFails env (z, k)
    · rw [if_pos h, if_pos (show LookupFails env (z.served, k) from h)]
    · rw [if_neg h, if_neg (show ¬LookupFails env (z.served, k) from h)]
      exact ih

theorem filter_valid_served {l l' : List Zone} (h : l.map Zone.served = l'.map Zone.served) :
    (l.filter (·.valid = "yes".toList)).map Zone.served =
      (l'.filter (·.valid = "yes".toList)).map Zone.served := by
  have hfilter : ∀ l : List Zone, (l.filter (·.valid = "yes".toList)).map Zone.served =
      (l.map Zone.served).filter (·.valid = "yes".toList) := fun l =>
    (List.filter_map (f := Zone.served) (p := fun z => decide (z.valid = "yes".toList))).symm
  rw [hfilter, h, ← hfilter]

/-- The zones whose stanzas a commit of all zones writes : those whose last verdict is
`yes`, up to the first failing lookup. -/
def servedZones (env : ZoneEnv) (zs : List Zone) : List (Zone × ℕ) :=
  begun env ((zs.map (judged env zs)).filter (·.valid = "yes".toList)).zipIdx

theorem zoneLine_inj {n m : CStr} : zoneLine n = zoneLine m ↔ n = m := by
  refine ⟨fun h => ?_, congrArg zoneLine⟩
  have hkind := congrArg lineKind h
  rw [lineKind_zoneLine, lineKind_zoneLine] at hkind
  exact Kind.opens.inj hkind

theorem typeLine_inj {t u : CStr} : typeLine t = typeLine u ↔ t = u := by
  unfold typeLine statementLine
  rw [List.append_left_inj, List.append_right_inj, List.append_right_inj]

theorem zoneLine_notMem {n : CStr} {ls : List CStr} (h : ∀ l ∈ ls, l.head? = some '\t') :
    zoneLine n ∉ ls := by
  intro hmem
  have hz : (zoneLine n).head? = some 'z' := rfl
  rw [h _ hmem] at hz
  exact absurd hz (by decide)

theorem head?_fwdStanzaRest (dir : CStr) (env : ZoneEnv) (p : Zone × ℕ) :
    ∀ l ∈ typeLine p.1.type :: fwdStanzaRest dir env p, l.head? = some '\t' := by
  have hnotify : ∀ a : AddrInfo, (notifyLine a).head? = some '\t' := by
    intro a
    cases a <;> rfl
  rw [fwdStanzaRest]
  intro l hl
  simp only [List.mem_cons] at hl
  rcases hl with rfl | rfl | hl
  · rfl
  · rfl
  split_ifs at hl
  · rcases ha : env.getaddrinfo p.2 p.1.secDns with _ | a
    · rw [ha] at hl
      cases hl
    · rw [ha] at hl
      simp only [List.mem_cons, List.not_mem_nil, or_false] at hl
      rcases hl with rfl | rfl
      · exact hnotify a
      · rfl
  · simp only [List.mem_cons, List.not_mem_nil, or_false] at hl
    rcases hl with rfl | rfl <;> rfl
  · simp only [List.mem_cons, List.not_mem_nil, or_false] at hl
    rw [hl]
    rfl

/-- The file has the stanza of a zone of that name and type. -/
def HasStanza (ls : List CStr) (name type : CStr) : Prop := [zoneLine name, typeLine type] <:+: ls

theorem hasStanza_fwdLines_iff (dir : CStr) (env : ZoneEnv) (ps : List (Zone × ℕ))
    (name type : CStr) : HasStanza (fwdLines dir env ps) name type ↔
      ∃ p ∈ begun env ps, p.1.name = name ∧ p.1.type = type := by
  rw [HasStanza, fwdLines]
  refine (pair_infix_flatMap_iff (fun p : Zone × ℕ => zoneLine p.1.name)
    (fun p => typeLine p.1.type) (fwdStanzaRest dir env) fun p _ =>
      zoneLine_notMem (head?_fwdStanzaRest dir env p)).trans ?_
  simp only [zoneLine_inj, typeLine_inj, eq_comm]

theorem begun_subset (env : ZoneEnv) : ∀ ps : List (Zone × ℕ), begun env ps ⊆ ps
  | [] => fun _ h => h
  | p :: ps => by
    rw [begun]
    split_ifs
    · exact List.cons_subset_cons p (List.nil_subset ps)
    · exact List.cons_subset_cons p (begun_subset env ps)

theorem fwdLines_eq_of_served (dir : CStr) (env : ZoneEnv) {l l' : List Zone}
    (h : l.map Zone.served = l'.map Zone.served) :
    fwdLines dir env l.zipIdx = fwdLines dir env l'.zipIdx := by
  rw [← fwdLines_zipIdx_served, h, fwdLines_zipIdx_served]

/-- The file a commit of all zones writes, when statements and files succeed. -/
theorem commitFwdZones_lines (dc : DnsaCmdb) (h : env.AllOk) (hne : w.zone.db.zones.length ≠ 0)
    (hnull : (Dns.commitFwdZones dc env none w).1 ≠ .error .nullDeref) :
    (Dns.commitFwdZones dc env none w).2.fwd.lines = fwdLines dc.dir env.toZoneEnv
      ((w.zone.db.zones.map (judged env.toZoneEnv w.zone.db.zones)).filter
        (·.valid = "yes".toList)).zipIdx := by
  obtain hrun | ⟨zone, hrun⟩ := commitFwdZones_run dc (h.sql _ _ _) hne
  swap
  · rw [hrun] at hnull
    exact absurd rfl hnull
  have hrows := filter_valid_served (fwdValidated_served dc.toDc h.sql h.opens w.zone)
  have hconf := cmdbWriteFwdZoneConfig_run dc env
    { w with zone := fwdValidated dc.toDc env.toZoneEnv w.zone }
  rw [if_pos (h.conf _), if_pos (h.sql _ _ _)] at hconf
  dsimp only at hconf
  rw [← fwdLines_eq_of_served dc.dir env.toZoneEnv hrows, hrun]
  split_ifs at hconf
  · rw [Prog.bind_run_error hconf]
    rfl
  · rw [Prog.bind_run_ok hconf, reloadNameServer_snd, ZoneDb.fwdZoneConfig]

/-- No stanza of a master zone that failed its check is in the forward file. -/
def FwdServesChecked (env : ZoneEnv) (w w' : DnsWorld) : Prop :=
  ∀ z ∈ w.zone.db.zones, z.type = "master".toList → env.chkz (.fwd z.name) = false →
    ¬HasStanza w'.fwd.lines z.name "master".toList

/-- The master zones whose stanzas are written passed their check. -/
theorem commitFwdZones_serves_iff (dc : DnsaCmdb) (h : env.AllOk)
    (hnull : (Dns.commitFwdZones dc env none w).1 ≠ .error .nullDeref) :
    FwdServesChecked env.toZoneEnv w (Dns.commitFwdZones dc env none w).2 ↔
      ∀ p ∈ servedZones env.toZoneEnv w.zone.db.zones, p.1.type = "master".toList →
        env.chkz (.fwd p.1.name) = true := by
  by_cases hne : w.zone.db.zones.length = 0
  · have hnil := List.length_eq_zero_iff.mp hne
    rw [FwdServesChecked, hnil]
    exact iff_of_true (fun _ hz => nomatch hz) fun _ hp => nomatch hp
  rw [FwdServesChecked, commitFwdZones_lines dc h hne hnull]
  simp only [hasStanza_fwdLines_iff]
  constructor
  · intro hserves p hp htype
    obtain ⟨z, hz, hzp⟩ := List.mem_map.mp
      (List.mem_of_mem_filter (List.fst_mem_of_mem_zipIdx (begun_subset _ _ hp)))
    obtain ⟨hname, hztype⟩ := judged_keeps env.toZoneEnv w.zone.db.zones z
    rw [hzp] at hname hztype
    by_contra hchk
    rw [hname] at hchk
    exact hserves z hz (hztype.symm.trans htype) (Bool.eq_false_iff.mpr hchk)
      ⟨p, hp, hname, htype⟩
  · rintro hall z - - hchk ⟨p, hp, hname, htype⟩
    have hok := hall p hp htype
    rw [hname, hchk] at hok
    cases hok

/-! ## The reverse file -/

/-- The check of a sub-zone fails : its file is written, and found invalid. -/
def RevCheckFails (env : ZoneEnv) (z : RevZoneRow) : Prop :=
  ∃ n i, getZoneIndex (strtoul z.pfx) = .ok n ∧
    i ∈ reached env z.netRange (strtoul z.pfx) (List.range n) ∧
    env.chkz (.rev z.netRange i) = false

theorem fillSubZone_type {z : RevZoneRow} {pfx i : ℕ} {e : AilsaRevZone}
    (h : fillSubZone z pfx i = .ok e) : e.type = z.type.take serviceLen := by
  obtain ⟨m, -, h⟩ := bind_eq_ok.mp h
  obtain ⟨r, -, h⟩ := bind_eq_ok.mp h
  obtain ⟨s, -, h⟩ := bind_eq_ok.mp h
  cases h
  rfl

theorem fillWholeZone_type {z : RevZoneRow} {pfx : ℕ} {e : AilsaRevZone}
    (h : fillWholeZone z pfx = .ok e) : e.type = z.type.take serviceLen := by
  rw [fillWholeZone] at h
  split_ifs at h
  all_goals
    obtain ⟨m, -, h⟩ := bind_eq_ok.mp h
    obtain ⟨s, -, h⟩ := bind_eq_ok.mp h
    cases h
    rfl

/-- A zone has an entry, and its entries have its type. -/
theorem fillRevZone_type {z : RevZoneRow} {es : List AilsaRevZone} (h : fillRevZone z = .ok es) :
    ∃ e ∈ es, e.type = z.type.take serviceLen := by
  rw [fillRevZone] at h
  split_ifs at h
  · obtain ⟨n, hn, h⟩ := bind_eq_ok.mp h
    obtain ⟨k, rfl⟩ := Nat.exists_eq_succ_of_ne_zero (getZoneIndex_pos hn).ne'
    rw [List.range_succ_eq_map, mapM_eq_ok_iff, List.forall₂_cons_left_iff] at h
    obtain ⟨e, es, he, -, rfl⟩ := h
    exact ⟨e, List.mem_cons_self .., fillSubZone_type he⟩
  · obtain ⟨e, he, h⟩ := bind_eq_ok.mp h
    cases h
    exact ⟨e, List.mem_singleton_self e, fillWholeZone_type he⟩

theorem fillRevZoneList_kept (rs : List RevZoneRow) :
    ailsaFillRevZoneList (rs.map RevZoneRow.kept) = ailsaFillRevZoneList rs := by
  rw [ailsaFillRevZoneList, List.mapM_map]
  rfl

theorem fillRevZones_mem : ∀ {rs : List RevZoneRow} {ess : List (List AilsaRevZone)},
    List.Forall₂ (fun r es => fillRevZone r = .ok es) rs ess → ∀ {z : RevZoneRow}, z ∈ rs →
      ∃ ez ∈ ess, fillRevZone z = .ok ez
  | _, _, .cons (b := es) h hrest, z, hz => by
    rcases List.mem_cons.mp hz with rfl | hz
    · exact ⟨es, List.mem_cons_self .., h⟩
    · obtain ⟨ez, hez, heq⟩ := fillRevZones_mem hrest hz
      exact ⟨ez, List.mem_cons_of_mem _ hez, heq⟩

theorem fillRevZoneList_mem {rs : List RevZoneRow} {es : List AilsaRevZone}
    (h : ailsaFillRevZoneList rs = .ok es) {z : RevZoneRow} (hz : z ∈ rs) :
    ∃ ez, fillRevZone z = .ok ez ∧ ez ⊆ es := by
  obtain ⟨ess, hess, h⟩ := bind_eq_ok.mp h
  cases h
  obtain ⟨ez, hez, heq⟩ := fillRevZones_mem (mapM_eq_ok_iff.mp hess) hz
  exact ⟨ez, heq, fun e he => List.mem_flatten.mpr ⟨ez, hez, he⟩⟩

theorem hasStanza_revStanza (dir : CStr) {es : List AilsaRevZone} {e : AilsaRevZone} (he : e ∈ es)
    (htype : e.type = "master".toList) :
    HasStanza (es.flatMap (revStanza dir)) e.inAddr "master".toList := by
  obtain ⟨pre, post, rfl⟩ := List.append_of_mem he
  refine ⟨pre.flatMap (revStanza dir), [fileLine dir e.netRange, closeLine] ++
    post.flatMap (revStanza dir), ?_⟩
  rw [List.flatMap_append, List.flatMap_cons, revStanza, if_pos htype]
  simp

/-- No stanza of a master zone that failed the check of a sub-zone is in the reverse file. -/
def RevServesChecked (env : ZoneEnv) (w w' : DnsWorld) : Prop :=
  ∀ z ∈ w.zone.db.revZones, z.type = "master".toList → RevCheckFails env z →
    ∀ es, fillRevZone z = .ok es → ∀ e ∈ es, ¬HasStanza w'.rev.lines e.inAddr "master".toList

/-- A commit of all zones that writes the reverse file writes the stanzas of all zones. -/
theorem commitRevZones_serves_iff (dc : DnsaCmdb) (h : env.AllOk)
    (hwritten : (Dns.commitRevZones dc env none w).2.rev.writes ≠ w.rev.writes) :
    RevServesChecked env.toZoneEnv w (Dns.commitRevZones dc env none w).2 ↔
      ∀ z ∈ w.zone.db.revZones, z.type = "master".toList → ¬RevCheckFails env.toZoneEnv z := by
  have hne : w.zone.db.revZones.length ≠ 0 := by
    intro hnil
    rw [commitRevZones_nil dc (h.sql _ _ _) hnil] at hwritten
    exact hwritten rfl
  obtain hrun | ⟨zone, hrun⟩ := commitRevZones_run dc (h.sql _ _ _) hne
  swap
  · rw [hrun] at hwritten
    exact absurd rfl hwritten
  have hsame := sameRevRows_revValidated dc.toDc env.toZoneEnv w.zone
  have hlen := congrArg List.length hsame
  rw [List.length_map, List.length_map] at hlen
  have hconf := cmdbWriteRevZoneConfig_run dc env
    { w with zone := revValidated dc.toDc env.toZoneEnv w.zone }
  rw [if_pos (h.sql _ _ _)] at hconf
  dsimp only at hconf
  rw [if_neg (hlen.trans_ne hne), ← fillRevZoneList_kept, hsame, fillRevZoneList_kept] at hconf
  rcases hfill : ailsaFillRevZoneList w.zone.db.revZones with e | es
  · rw [hfill] at hconf
    rw [hrun, Prog.bind_run_error hconf] at hwritten
    exact absurd rfl hwritten
  rw [hfill] at hconf
  dsimp only at hconf
  rw [if_pos (h.conf _)] at hconf
  rw [RevServesChecked, hrun, Prog.bind_run_ok hconf, reloadNameServer_snd]
  constructor
  · intro hserves z hz htype hfails
    obtain ⟨ez, hez, hsub⟩ := fillRevZoneList_mem hfill hz
    obtain ⟨e, he, hetype⟩ := fillRevZone_type hez
    rw [htype] at hetype
    exact hserves z hz htype hfails ez hez e he (hasStanza_revStanza dc.dir (hsub he) hetype)
  · exact fun hall z hz htype hfails => absurd hfails (hall z hz htype)

/-! ## Both files -/

/-- When all statements and file operations of a commit of all zones succeed, the forward
file has no stanza of a master zone that failed its check iff the master zones whose last
verdict is `yes` passed theirs; the reverse file, if it is written, has none iff no check
of a master zone failed. -/
theorem commit_serves_checked_iff (dc : DnsaCmdb) (env : DnsEnv) (w : DnsWorld) (h : env.AllOk) :
    ((Dns.commitFwdZones dc env none w).1 ≠ .error .nullDeref →
      (FwdServesChecked env.toZoneEnv w (Dns.commitFwdZones dc env none w).2 ↔
        ∀ p ∈ servedZones env.toZoneEnv w.zone.db.zones, p.1.type = "master".toList →
          env.chkz (.fwd p.1.name) = true)) ∧
    ((Dns.commitRevZones dc env none w).2.rev.writes ≠ w.rev.writes →
      (RevServesChecked env.toZoneEnv w (Dns.commitRevZones dc env none w).2 ↔
        ∀ z ∈ w.zone.db.revZones, z.type = "master".toList → ¬RevCheckFails env.toZoneEnv z)) :=
  ⟨commitFwdZones_serves_iff dc h, commitRevZones_serves_iff dc h⟩

/-- A forward and a reverse master zone. -/
def masterWorld : DnsWorld where
  zone :=
    { db :=
        { zones := [⟨1, "a.com".toList, "ns.a.com".toList, "none".toList, 5, 1, 1, 1, 1,
            "yes".toList, "no".toList, "master".toList, none⟩]
          records := []
          glueZones := []
          revZones := [⟨1, RevZone.tenOne.range, numText 16, 167837696, 167903231,
            "ns.a.com".toList, "none".toList, 5, 1, 1, 1, 1, "yes".toList, "no".toList,
            "master".toList, some "NULL".toList⟩]
          revRecords := []
          preferredA := [] }
      files := [] }
  fwd := ⟨[], 0⟩
  rev := ⟨[], 0⟩

/-- All goes well, but every check fails. -/
def checksFail : DnsEnv := ⟨{ noClock true with chkz := fun _ => false }, fun _ => true, true⟩

theorem allOk_checksFail : checksFail.AllOk :=
  ⟨fun _ _ _ => rfl, fun _ => rfl, fun _ => rfl⟩

theorem commit_serves_checked_iff_checksFail :
    (FwdServesChecked checksFail.toZoneEnv masterWorld
        (Dns.commitFwdZones testCmdb checksFail none masterWorld).2 ↔
      ∀ p ∈ servedZones checksFail.toZoneEnv masterWorld.zone.db.zones,
        p.1.type = "master".toList → checksFail.chkz (.fwd p.1.name) = true) ∧
    (RevServesChecked checksFail.toZoneEnv masterWorld
        (Dns.commitRevZones testCmdb checksFail none masterWorld).2 ↔
      ∀ z ∈ masterWorld.zone.db.revZones, z.type = "master".toList →
        ¬RevCheckFails checksFail.toZoneEnv z) := by
  obtain ⟨hfwd, hrev⟩ := commit_serves_checked_iff testCmdb checksFail masterWorld allOk_checksFail
  refine ⟨hfwd fun hnull => ?_, hrev (by decide +kernel)⟩
  cases (show Except.ok () = Except.error AilsaError.nullDeref from hnull)

/-- The check of the reverse zone fails, and its stanza is in the file. -/
theorem commitRevZones_masterWorld_not_served :
    checksFail.AllOk ∧ (Dns.commitRevZones testCmdb checksFail none masterWorld).1 = .ok () ∧
      ¬RevServesChecked checksFail.toZoneEnv masterWorld
        (Dns.commitRevZones testCmdb checksFail none masterWorld).2 := by
  refine ⟨allOk_checksFail, by decide +kernel, fun hserves => ?_⟩
  have hfails : RevCheckFails checksFail.toZoneEnv
      ⟨1, RevZone.tenOne.range, numText 16, 167837696, 167903231, "ns.a.com".toList,
        "none".toList, 5, 1, 1, 1, 1, "yes".toList, "no".toList, "master".toList,
        some "NULL".toList⟩ := ⟨1, 0, rfl, by decide +kernel, rfl⟩
  obtain ⟨e, he, hinfix⟩ : ∃ e, fillRevZone ⟨1, RevZone.tenOne.range, numText 16, 167837696,
      167903231, "ns.a.com".toList, "none".toList, 5, 1, 1, 1, 1, "yes".toList, "no".toList,
      "master".toList, some "NULL".toList⟩ = .ok [e] ∧
      HasStanza (Dns.commitRevZones testCmdb checksFail none masterWorld).2.rev.lines e.inAddr
        "master".toList :=
    ⟨⟨"master".toList, none, "10.1.0.0".toList, "1.10.in-addr.arpa".toList⟩, by decide +kernel,
      by unfold HasStanza; decide +kernel⟩
  exact hserves _ (List.mem_singleton_self _) rfl hfails [e] he e (List.mem_singleton_self e) hinfix

end Cmdb
