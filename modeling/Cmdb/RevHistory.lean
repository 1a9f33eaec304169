import Cmdb.RevConfig

/-!
# The reverse configuration over a history

`add_reverse_zone` and `delete_reverse_zone` end by writing the reverse configuration from
the table. The rows they leave can always be turned into entries
(`RevZoneRow.Fillable`), so when nothing fails the file is written, but not from an empty
table : `cmdb_write_rev_zone_config` then leaves the file as it is. `revConfig_current`
follows the file over all histories in which no deletion empties the table.
-/

namespace Cmdb

open CString DottedQuad

variable {dc : DnsaCmdb} {env : DnsEnv} {w : DnsWorld}

/-! ## Rows that can be written -/

/-- The row has an address, a prefix from `9` to `24`, and a text as its master. -/
def RevZoneRow.Fillable (r : RevZoneRow) : Prop :=
  ∃ q p, inetPton r.netRange = some q ∧ 0 < q.toNat ∧ r.pfx = numText p ∧ 8 < p ∧ p ≤ 24 ∧
    ∃ m, r.master = some m

theorem exists_revZone_pfx {p : ℕ} (h8 : 8 ≤ p) (h24 : p ≤ 24) : ∃ z : RevZone, z.pfx = p := by
  have hlt : 2 ^ (32 - p) < 4294967296 :=
    Nat.pow_lt_pow_right (by decide : 1 < 2) (by omega : 32 - p < 32)
  have hnet : (Quad.ofNat (2 ^ (32 - p))).toNat = 2 ^ (32 - p) := Quad.toNat_ofNat hlt
  exact ⟨⟨Quad.ofNat (2 ^ (32 - p)), p, h8, h24, by rw [hnet]; positivity, by rw [hnet]⟩, rfl⟩

theorem exists_getInAddrString (q : Quad) {p : ℕ} (h8 : 8 ≤ p) (h24 : p ≤ 24) :
    ∃ s, getInAddrString q.text p = .ok s := by
  obtain ⟨z, rfl⟩ := exists_revZone_pfx h8 h24
  exact ⟨_, getInAddrString_eq z q⟩

theorem getOffsetIp_of_pos {range : CStr} {q : Quad} {p : ℕ} (hq : inetPton range = some q)
    (hpos : 0 < q.toNat) (h8 : 8 < p) (h24 : p ≤ 24) (i : ℕ) :
    ∃ q' : Quad, getOffsetIp range p i = .ok q'.text := by
  rw [getOffsetIp, if_neg (by omega), convertTextIpv4ToBin, hq, ok_bind]
  by_cases h : 16 < p ∧ p ≤ 24
  · rw [if_pos h]
    exact ⟨_, if_neg (by omega)⟩
  · rw [if_neg h, if_pos (by omega)]
    exact ⟨_, if_neg (by omega)⟩

theorem exists_getZoneIndex {p : ℕ} (h8 : 8 ≤ p) : ∃ n, getZoneIndex p = .ok n := by
  rw [getZoneIndex, if_neg (by omega), if_neg (by omega)]
  exact ⟨_, rfl⟩

theorem RevZoneRow.Fillable.fillRevZone_ok {r : RevZoneRow} (h : r.Fillable) :
    ∃ es, fillRevZone r = .ok es := by
  obtain ⟨q, p, hq, hpos, hpfx, h8, h24, m, hm⟩ := h
  rw [fillRevZone, hpfx, strtoul_numText (by omega)]
  split_ifs
  · obtain ⟨n, hn⟩ := exists_getZoneIndex h8.le
    rw [hn, ok_bind]
    refine exists_mapM_eq_ok fun i _ => ?_
    obtain ⟨q', hq'⟩ := getOffsetIp_of_pos hq hpos h8 h24 i
    obtain ⟨s, hs⟩ := exists_getInAddrString q' h8.le h24
    rw [fillSubZone, hm, dupMaster, ok_bind, hq', ok_bind, hs, ok_bind]
    exact ⟨_, rfl⟩
  · obtain ⟨s, hs⟩ := exists_getInAddrString q h8.le h24
    have htake : r.netRange.take domainLen = q.text := by
      rw [inetPton_eq_some_iff.mp hq]
      exact List.take_of_length_le (q.length_text_lt.le.trans (by decide))
    rw [fillWholeZone, htake, hm]
    split_ifs
    · dsimp only
      rw [dupMaster, Except.map_ok, ok_bind, hs, ok_bind]
      exact ⟨_, rfl⟩
    · rw [pure_eq_ok, ok_bind]
      dsimp only
      rw [hs, ok_bind]
      exact ⟨_, rfl⟩

theorem fillRevZoneList_ok {rs : List RevZoneRow} (h : ∀ r ∈ rs, r.Fillable) :
    ∃ es, ailsaFillRevZoneList rs = .ok es := by
  obtain ⟨ess, hess⟩ := exists_mapM_eq_ok fun r hr => (h r hr).fillRevZone_ok
  rw [ailsaFillRevZoneList, hess, ok_bind]
  exact ⟨_, rfl⟩

theorem RevZoneRow.Fillable.of_kept {r r' : RevZoneRow} (h : r.Fillable) (hk : r'.kept = r.kept) :
    r'.Fillable := by
  obtain ⟨q, p, hq, hpos, hpfx, h8, h24, m, hm⟩ := h
  have h1 : r'.netRange = r.netRange := (congrArg RevZoneRow.netRange hk :)
  have h2 : r'.pfx = r.pfx := (congrArg RevZoneRow.pfx hk :)
  have h3 : r'.master = r.master := (congrArg RevZoneRow.master hk :)
  exact ⟨q, p, by rw [h1, hq], hpos, by rw [h2, hpfx], h8, h24, m, by rw [h3, hm]⟩

/-! ## Writing the file -/

/-- What `cmdb_write_rev_zone_config` returns and leaves in the file. -/
theorem cmdbWriteRevZoneConfig_run (dc : DnsaCmdb) (env : DnsEnv) (w : DnsWorld) :
    cmdbWriteRevZoneConfig dc env w =
      if env.sql .revZoneConfig [] 0 = true then
        if w.zone.db.revZones.length = 0 then (.ok (), w)
        else
          match ailsaFillRevZoneList w.zone.db.revZones with
          | .error e => (.error e, w)
          | .ok es =>
            if env.confOpen .rev = true then
              (.ok (), { w with rev := ⟨es.flatMap (revStanza dc.dir), w.rev.writes + 1⟩ })
            else (.error .fileError, w)
      else (.error .statementFail, w) := by
  rw [cmdbWriteRevZoneConfig]
  by_cases hsql : env.sql .revZoneConfig [] 0 = true
  swap
  · rw [if_neg hsql]
    exact Prog.bind_run_error (by rw [onZones, Prog.zoom_run, query_run_of_false hsql]) _
  rw [if_pos hsql, Prog.bind_run_ok (by rw [onZones, Prog.zoom_run, query_run_of_true hsql]),
    Prog.ite_run]
  by_cases hlen : w.zone.db.revZones.length = 0
  · rw [if_pos hlen, if_pos hlen]
    rfl
  rw [if_neg hlen, if_neg hlen]
  rcases hfill : ailsaFillRevZoneList w.zone.db.revZones with e | es
  · exact Prog.bind_run_error (by rw [Prog.reads_run]) _
  rw [Prog.bind_run_ok (by rw [Prog.reads_run])]
  dsimp only
  split_ifs with hopen
  · exact Prog.bind_run_ok (by rw [Prog.require_run, if_pos hopen]) _
  · exact Prog.bind_run_error (by rw [Prog.require_run, if_neg hopen]) _

theorem reloadNameServer_snd (env : DnsEnv) (w : DnsWorld) : (reloadNameServer env w).2 = w :=
  Prog.ReadOnly.require _ _ w

/-! ## One command -/

/-- Every statement and every file operation succeeds; clock, checks and reload are free. -/
structure DnsEnv.AllOk (env : DnsEnv) : Prop where
  sql : env.SqlOk
  opens : ∀ f, env.openOk f = true
  conf : ∀ f, env.confOpen f = true

/-- A row is entered and validated, or nothing is changed. -/
theorem addReverseZone_outcome (cbc : AilsaCmdb) {env : ZoneEnv} (hsql : env.SqlOk)
    (hopen : ∀ f, env.openOk f = true) (range : CStr) (type master : Option CStr) (pfx : ℕ)
    (w : ZoneWorld) :
    (∃ e, addReverseZone cbc env range type master pfx w = (.error e, w)) ∨
      ∃ w' r, addReverseZone cbc env range type master pfx w = (.ok (), w') ∧ r.Fillable ∧
        w'.db.revZones.map RevZoneRow.kept = (w.db.revZones ++ [r]).map RevZoneRow.kept := by
  obtain herror | ⟨q, finish, r, henters, hrange, hrpfx, -, -, hmaster, hrun⟩ :=
    addReverseZone_cases cbc env range type master pfx w
  · exact .inl herror
  have hpos : 0 < q.toNat := Nat.pos_of_ne_zero henters.pos
  have h9 := henters.eight_lt
  have h24 := henters.le_twentyFour
  have harg := arg_of_length_le (length_range_le_of_inetPton henters.parses)
  have hvalid : ∃ w', cmdbValidateRevZone cbc.toDc env range (type.getD "master".toList) pfx
      ⟨{ w.db with revZones := w.db.revZones ++ [r] }, w.files⟩ = (.ok (), w') := by
    by_cases hs : isSlave (type.getD "master".toList) = true
    · rw [cmdbValidateRevZone, if_pos hs]
      exact ⟨_, (statement_run ..).trans (if_pos (hsql _ _ _))⟩
    · obtain ⟨n, hn⟩ := exists_getZoneIndex h9.le
      have hfiles : ∀ i < n, RevFileOk env range pfx i := by
        intro i _
        obtain ⟨q', hq'⟩ := getOffsetIp_of_pos henters.parses hpos h9 h24 i
        exact ⟨hsql _ _ _, hsql _ _ _, isOk_iff.mpr ⟨_, hq'⟩, hopen _⟩
      have hmem := List.mem_append_right w.db.revZones (List.mem_singleton_self r)
      obtain ⟨w', hw', -⟩ := cmdbValidateRevZone_ok cbc.toDc
        (w := ⟨{ w.db with revZones := w.db.revZones ++ [r] }, w.files⟩) hs hn
        (revRowOk_of_mem (hsql _ _ _) hmem (hrange.trans harg.symm)) hfiles (hsql _ _ _)
      exact ⟨w', hw'⟩
  obtain ⟨w', hw'⟩ := hvalid
  have hsame := (revSteps_sameRevRows env range).moves_cmdbValidateRevZone cbc.toDc
    (type.getD "master".toList) pfx ⟨{ w.db with revZones := w.db.revZones ++ [r] }, w.files⟩
  rw [hw'] at hsame
  refine .inr ⟨w', r, hrun.trans hw', ?_, hsame⟩
  exact ⟨q, pfx, by rw [hrange, henters.parses], hpos, hrpfx, h9, h24, hmaster⟩

theorem cmdbCheckAddRevZoneId_ok {env : ZoneEnv} {zone ztype : CStr} {w : ZoneWorld} {id : ℕ}
    (h : (cmdbCheckAddRevZoneId env zone ztype w).1 = .ok id) :
    w.db.revZoneIds (arg zone) (arg ztype) = [id] := by
  obtain ⟨ids, hids, h⟩ := (readOnly_query _ _ _ _ _).bind_ok h
  obtain rfl := query_ok hids
  rcases hl : w.db.revZoneIds (arg zone) (arg ztype) with _ | ⟨i, _ | ⟨j, l⟩⟩
  · rw [hl] at h
    cases h
  · rw [hl] at h
    cases h
    rfl
  · rw [hl] at h
    cases h

/-- The reverse configuration holds the stanzas of the zones in the table. -/
def RevConfigCurrent (dir : CStr) (w : DnsWorld) : Prop :=
  ∃ es, ailsaFillRevZoneList w.zone.db.revZones = .ok es ∧
    w.rev.lines = es.flatMap (revStanza dir)

/-- What holds between commands. -/
structure RevHistoryOk (dir : CStr) (w : DnsWorld) : Prop where
  fillable : ∀ r ∈ w.zone.db.revZones, r.Fillable
  current : RevConfigCurrent dir w

/-- From a table with a zone the file is written. -/
theorem historyOk_writeRevZoneConfig (h : env.AllOk)
    (hrows : ∀ r ∈ w.zone.db.revZones, r.Fillable) (hne : w.zone.db.revZones ≠ []) :
    RevHistoryOk dc.dir ((do cmdbWriteRevZoneConfig dc env; reloadNameServer env) w).2 := by
  obtain ⟨es, hes⟩ := fillRevZoneList_ok hrows
  have hrun := cmdbWriteRevZoneConfig_run dc env w
  rw [if_pos (h.sql _ _ _), if_neg (by simpa using hne), hes] at hrun
  dsimp only at hrun
  rw [if_pos (h.conf _)] at hrun
  rw [Prog.bind_run_ok hrun, reloadNameServer_snd]
  exact ⟨hrows, es, hes, rfl⟩

theorem addReverseZone_historyOk (dc : DnsaCmdb) (h : env.AllOk) (range : CStr)
    (type master : Option CStr) (pfx : ℕ) (hw : RevHistoryOk dc.dir w) :
    RevHistoryOk dc.dir (Dns.addReverseZone dc env range type master pfx w).2 := by
  rw [Dns.addReverseZone]
  obtain ⟨e, hrun⟩ | ⟨w', r, hrun, hr, hrows⟩ :=
    addReverseZone_outcome dc.toAilsaCmdb h.sql h.opens range type master pfx w.zone
  · rw [Prog.bind_run_error (by rw [onZones, Prog.zoom_run, hrun])]
    exact hw
  · rw [Prog.bind_run_ok (by rw [onZones, Prog.zoom_run, hrun])]
    refine historyOk_writeRevZoneConfig h (fun x hx => ?_) fun hnil => ?_
    · have hmem := List.mem_map_of_mem (f := RevZoneRow.kept) hx
      rw [hrows] at hmem
      obtain ⟨y, hy, hxy⟩ := List.mem_map.mp hmem
      rcases List.mem_append.mp hy with hy | hy
      · exact (hw.fillable y hy).of_kept hxy.symm
      · rw [List.mem_singleton.mp hy] at hxy
        exact hr.of_kept hxy.symm
    · have hnil : w'.db.revZones = [] := hnil
      rw [hnil, List.map_append] at hrows
      simp at hrows

theorem deleteReverseZone_historyOk (dc : DnsaCmdb) (h : env.AllOk) (domain : CStr)
    (ztype : Option CStr)
    (hleft : ∀ id, w.zone.db.revZoneIds (arg domain) (arg (ztype.getD "master".toList)) = [id] →
      ∃ r ∈ w.zone.db.revZones, r.id ≠ id)
    (hw : RevHistoryOk dc.dir w) :
    RevHistoryOk dc.dir (Dns.deleteReverseZone dc env domain ztype w).2 := by
  rw [Dns.deleteReverseZone]
  have hro := readOnly_cmdbCheckAddRevZoneId env.toZoneEnv domain (ztype.getD "master".toList)
  have hrun := hro.run_eq w.zone
  have hattempt : Prog.attempt (onZones (cmdbCheckAddRevZoneId env.toZoneEnv domain
      (ztype.getD "master".toList))) w = (.ok (cmdbCheckAddRevZoneId env.toZoneEnv domain
        (ztype.getD "master".toList) w.zone).1, w) := by
    rw [Prog.attempt_run, onZones, Prog.zoom_run, hro]
  rw [Prog.bind_run_ok hattempt]
  rcases hid : (cmdbCheckAddRevZoneId env.toZoneEnv domain (ztype.getD "master".toList) w.zone).1
    with e | id
  · exact hw
  obtain ⟨r, hr, hne⟩ := hleft id (cmdbCheckAddRevZoneId_ok hid)
  dsimp only
  rw [Prog.bind_run_ok (a := ()) (by
    rw [onZones, Prog.zoom_run, statement_run, if_pos (h.sql _ _ _)])]
  refine historyOk_writeRevZoneConfig h (fun x hx => hw.fillable x (List.mem_of_mem_filter hx))
    fun hnil => ?_
  exact List.filter_eq_nil_iff.mp hnil r hr (decide_eq_true hne)

/-! ## Histories -/

/-- The program of a command, to its end. -/
def RevZoneOp.run (dc : DnsaCmdb) (env : DnsEnv) : RevZoneOp → DnsProg Unit
  | add range type master pfx => Dns.addReverseZone dc env range type master pfx
  | delete domain ztype => Dns.deleteReverseZone dc env domain ztype

/-- A deletion that finds its zone leaves another in the table. -/
def RevZoneOp.LeavesZone (w : DnsWorld) : RevZoneOp → Prop
  | add _ _ _ _ => True
  | delete domain ztype =>
    ∀ id, w.zone.db.revZoneIds (arg domain) (arg (ztype.getD "master".toList)) = [id] →
      ∃ r ∈ w.zone.db.revZones, r.id ≠ id

/-- The world after commands run one after the other, each with its own outcomes. -/
def runRevZones (dc : DnsaCmdb) (w : DnsWorld) (ops : List (DnsEnv × RevZoneOp)) : DnsWorld :=
  ops.foldl (fun w op => (op.2.run dc op.1 w).2) w

/-- Nothing fails along the history, and no deletion empties the table. -/
def HistoryOk (dc : DnsaCmdb) : DnsWorld → List (DnsEnv × RevZoneOp) → Prop
  | _, [] => True
  | w, op :: ops => op.1.AllOk ∧ op.2.LeavesZone w ∧ HistoryOk dc (op.2.run dc op.1 w).2 ops

theorem RevZoneOp.historyOk (dc : DnsaCmdb) (h : env.AllOk) (op : RevZoneOp)
    (hleft : op.LeavesZone w) (hw : RevHistoryOk dc.dir w) :
    RevHistoryOk dc.dir (op.run dc env w).2 := by
  cases op with
  | add range type master pfx => exact addReverseZone_historyOk dc h range type master pfx hw
  | delete domain ztype => exact deleteReverseZone_historyOk dc h domain ztype hleft hw

theorem runRevZones_historyOk (dc : DnsaCmdb) : ∀ (ops : List (DnsEnv × RevZoneOp))
    (w : DnsWorld), HistoryOk dc w ops → RevHistoryOk dc.dir w →
      RevHistoryOk dc.dir (runRevZones dc w ops)
  | [], _, _, hw => hw
  | op :: ops, _, ⟨hok, hleft, hops⟩, hw =>
    runRevZones_historyOk dc ops _ hops (op.2.historyOk dc hok hleft hw)

/-- From an empty table and an empty file, after any additions and deletions of reverse
zones in which every statement and file operation succeeds and no deletion empties the
table, the file holds just the stanzas of the zones in the table. -/
theorem revConfig_current (dc : DnsaCmdb) (w : DnsWorld) (ops : List (DnsEnv × RevZoneOp))
    (hrows : w.zone.db.revZones = []) (hfile : w.rev.lines = []) (hops : HistoryOk dc w ops) :
    RevConfigCurrent dc.dir (runRevZones dc w ops) := by
  refine (runRevZones_historyOk dc ops w hops ⟨fun r hr => ?_, [], ?_, hfile⟩).current
  · rw [hrows] at hr
    cases hr
  · rw [hrows]
    rfl

/-- Empty tables and files. -/
def emptyDns : DnsWorld := ⟨⟨⟨[], [], [], [], [], []⟩, []⟩, ⟨[], 0⟩, ⟨[], 0⟩⟩

/-- All goes well. -/
def smooth : DnsEnv := ⟨noClock true, fun _ => true, true⟩

theorem allOk_smooth : smooth.AllOk := ⟨fun _ _ _ => rfl, fun _ => rfl, fun _ => rfl⟩

theorem revConfig_current_two :
    RevConfigCurrent testCmdb.dir (runRevZones testCmdb emptyDns
      [(smooth, .add RevZone.tenOne.range none none 16),
        (smooth, .add RevZone.ten24.range none none 24)]) :=
  revConfig_current testCmdb emptyDns _ rfl rfl
    ⟨allOk_smooth, trivial, allOk_smooth, trivial, trivial⟩

/-- The only zone is added and deleted : its stanza is still in the file. -/
theorem revConfig_not_current :
    ¬RevConfigCurrent testCmdb.dir (runRevZones testCmdb emptyDns
      [(smooth, .add RevZone.tenOne.range none none 16),
        (smooth, .delete RevZone.tenOne.range none)]) := by
  have hrows : (runRevZones testCmdb emptyDns [(smooth, .add RevZone.tenOne.range none none 16),
      (smooth, .delete RevZone.tenOne.range none)]).zone.db.revZones = [] := by decide +kernel
  have hlines : (runRevZones testCmdb emptyDns [(smooth, .add RevZone.tenOne.range none none 16),
      (smooth, .delete RevZone.tenOne.range none)]).rev.lines ≠ [] := by decide +kernel
  rintro ⟨es, hes, hfile⟩
  rw [hrows] at hes
  cases hes
  exact hlines hfile

end Cmdb
