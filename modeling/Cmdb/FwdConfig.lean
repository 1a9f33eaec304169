import Cmdb.ZoneConfig

/-!
# The forward configuration file

`lineKind` reads a line of a configuration file as the name server does : the opening of
a stanza, a statement with its semicolon, or the end of a stanza. What
`cmdb_write_fwd_zone_config` writes is one stanza for each zone, up to the first whose
secondary cannot be resolved (`cmdbWriteFwdZoneConfig_run`). A stanza is complete unless
the lookup fails or gives an IPv6 address (`isStanza_fwdStanza`, `lineKind_notifyLine`),
so `cmdbWriteFwdZoneConfig_kept_iff` says exactly when the file is well formed, or is left
as it was.
-/

namespace Cmdb

open CString StanzaFile

variable {dir : CStr} {env : ZoneEnv}

/-! ## Lines as they are read -/

/-- What a line of a configuration file is. -/
def lineKind (l : CStr) : Kind CStr :=
  if l = closeLine then .closes
  else if "\t\t\t".toList <+: l then
    if ";\n".toList <:+ l then .statement else .broken
  else if "zone \"".toList <+: l ∧ "\" \x7b\n".toList <:+ l ∧ 10 ≤ l.length then
    .opens ((l.drop 6).take (l.length - 10))
  else .broken

theorem lineKind_closeLine : lineKind closeLine = .closes := by decide

theorem ne_closeLine_of_tabs {l : CStr} (h : "\t\t\t".toList <+: l) : l ≠ closeLine := by
  rintro rfl
  exact absurd h (by decide)

theorem statementLine_eq (text : CStr) :
    statementLine text = "\t\t\t".toList ++ (text ++ ";\n".toList) := List.append_assoc ..

theorem zoneLine_eq (name : CStr) :
    zoneLine name = "zone \"".toList ++ (name ++ "\" \x7b\n".toList) := List.append_assoc ..

theorem lineKind_statementLine (text : CStr) : lineKind (statementLine text) = .statement := by
  have hpre : "\t\t\t".toList <+: statementLine text := by
    rw [statementLine_eq]
    exact List.prefix_append _ _
  have hsuf : ";\n".toList <:+ statementLine text := List.suffix_append _ _
  rw [lineKind, if_neg (ne_closeLine_of_tabs hpre), if_pos hpre, if_pos hsuf]

theorem lineKind_zoneLine (name : CStr) : lineKind (zoneLine name) = .opens name := by
  have hne : zoneLine name ≠ closeLine := nofun
  have htab : ¬"\t\t\t".toList <+: zoneLine name := by
    rintro ⟨s, hs⟩
    cases hs
  have hpre : "zone \"".toList <+: zoneLine name := by
    rw [zoneLine_eq]
    exact List.prefix_append _ _
  have hsuf : "\" \x7b\n".toList <:+ zoneLine name := List.suffix_append _ _
  have hlen : (zoneLine name).length = name.length + 10 := by
    simp [zoneLine_eq]
  have hname : ((zoneLine name).drop 6).take ((zoneLine name).length - 10) = name := by
    rw [hlen, Nat.add_sub_cancel, zoneLine_eq]
    exact List.take_left
  rw [lineKind, if_neg hne, if_neg htab, if_pos ⟨hpre, hsuf, by omega⟩, hname]

/-- The line of an IPv6 address lacks its semicolon. -/
theorem lineKind_notifyLine_v6 {ip : CStr} (h : ';' ∉ ip) :
    lineKind (notifyLine (.v6 ip)) = .broken := by
  have hpre : "\t\t\t".toList <+: notifyLine (.v6 ip) := by
    rw [notifyLine]
    exact List.prefix_append _ _
  have hsuf : ¬";\n".toList <:+ notifyLine (.v6 ip) := by
    intro hs
    have hmem : ';' ∈ notifyLine (.v6 ip) := hs.subset (by decide)
    simp only [notifyLine, List.mem_append] at hmem
    rcases hmem with hmem | (hmem | hmem) | hmem
    · revert hmem
      decide
    · revert hmem
      decide
    · exact h hmem
    · revert hmem
      decide
  rw [lineKind, if_neg (ne_closeLine_of_tabs hpre), if_pos hpre, if_neg hsuf]

/-! ## What is written -/

/-- The lookup for the zone at its place fails. -/
def LookupFails (env : ZoneEnv) (p : Zone × ℕ) : Prop :=
  p.1.NeedsLookup ∧ env.getaddrinfo p.2 p.1.secDns = none

instance (env : ZoneEnv) (p : Zone × ℕ) : Decidable (LookupFails env p) :=
  inferInstanceAs (Decidable (_ ∧ _))

/-- The zones whose stanza is begun : those up to the first failing lookup. -/
def begun (env : ZoneEnv) : List (Zone × ℕ) → List (Zone × ℕ)
  | [] => []
  | p :: ps => p :: if LookupFails env p then [] else begun env ps

/-- What stands below the first two lines of a stanza; it ends where the lookup fails. -/
def fwdStanzaRest (dir : CStr) (env : ZoneEnv) (p : Zone × ℕ) : List CStr :=
  fileLine dir p.1.name ::
    if p.1.NeedsLookup then
      match env.getaddrinfo p.2 p.1.secDns with
      | some a => [notifyLine a, closeLine]
      | none => []
    else if p.1.type = "slave".toList then [mastersLine p.1.master, closeLine]
    else [closeLine]

/-- The lines of a stanza. -/
def fwdStanza (dir : CStr) (env : ZoneEnv) (p : Zone × ℕ) : List CStr :=
  zoneLine p.1.name :: typeLine p.1.type :: fwdStanzaRest dir env p

/-- The lines written for zones at their places. -/
def fwdLines (dir : CStr) (env : ZoneEnv) (ps : List (Zone × ℕ)) : List CStr :=
  (begun env ps).flatMap (fwdStanza dir env)

theorem begun_eq_self {ps : List (Zone × ℕ)} (h : ∀ p ∈ ps, ¬LookupFails env p) :
    begun env ps = ps := by
  induction ps with
  | nil => rfl
  | cons p ps ih =>
    rw [begun, if_neg (h p (List.mem_cons_self ..)), ih fun q hq => h q (List.mem_cons_of_mem _ hq)]

theorem writeFwdStanza_run (dir : CStr) (env : ZoneEnv) (p : Zone × ℕ) (ls : List CStr) :
    writeFwdStanza dir env p.1 p.2 ls =
      (if LookupFails env p then .error .resolveFailed else .ok (),
        ls ++ fwdStanza dir env p) := by
  rw [writeFwdStanza, dprintf, Prog.modify_bind_run]
  by_cases hn : p.1.NeedsLookup
  · rw [if_pos hn]
    rcases ha : env.getaddrinfo p.2 p.1.secDns with _ | a
    · have hrest : fwdStanzaRest dir env p = [fileLine dir p.1.name] := by
        rw [fwdStanzaRest, if_pos hn, ha]
      rw [if_pos (show LookupFails env p from ⟨hn, ha⟩), fwdStanza, hrest]
      exact Prog.bind_run_error (by rw [Prog.reads_run, cmdbGetaddrinfo, ha]) _
    · have hrest : fwdStanzaRest dir env p = [fileLine dir p.1.name, notifyLine a, closeLine] := by
        rw [fwdStanzaRest, if_pos hn, ha]
      rw [if_neg fun h : LookupFails env p => nomatch ha.symm.trans h.2]
      refine (Prog.bind_run_ok (by rw [Prog.reads_run, cmdbGetaddrinfo, ha]) _).trans ?_
      rw [dprintf, Prog.modify_run, List.append_assoc, fwdStanza, hrest]
      rfl
  · rw [if_neg hn, if_neg fun h : LookupFails env p => hn h.1, Prog.ite_run, fwdStanza,
      fwdStanzaRest, if_neg hn]
    split_ifs
    · rw [dprintf, Prog.modify_run, List.append_assoc]
      rfl
    · rw [dprintf, Prog.modify_run, List.append_assoc]
      rfl

theorem forM_writeFwdStanza_run (dir : CStr) (env : ZoneEnv) : ∀ (ps : List (Zone × ℕ))
    (ls : List CStr), (forM ps fun p => writeFwdStanza dir env p.1 p.2) ls =
      (if ∃ p ∈ ps, LookupFails env p then .error .resolveFailed else .ok (),
        ls ++ fwdLines dir env ps)
  | [], ls => by
    rw [if_neg (by simp), fwdLines, begun, List.flatMap_nil, List.append_nil]
    rfl
  | p :: ps, ls => by
    have hrun := writeFwdStanza_run dir env p ls
    rw [List.forM_cons, fwdLines, begun, List.flatMap_cons, ← List.append_assoc]
    by_cases hf : LookupFails env p
    · rw [if_pos hf] at hrun
      rw [Prog.bind_run_error hrun, if_pos ⟨p, List.mem_cons_self .., hf⟩, if_pos hf,
        List.flatMap_nil, List.append_nil]
    · rw [if_neg hf] at hrun
      rw [Prog.bind_run_ok hrun, if_neg hf, forM_writeFwdStanza_run dir env ps, fwdLines]
      simp only [List.exists_mem_cons_iff, hf, false_or]

/-- What `cmdb_write_fwd_zone_config` returns and leaves in the file. -/
theorem cmdbWriteFwdZoneConfig_run (dc : DnsaCmdb) (env : DnsEnv) (w : DnsWorld) :
    cmdbWriteFwdZoneConfig dc env w =
      if env.confOpen .fwd = true then
        if env.sql .fwdZoneConfig [] 0 = true then
          let ps := w.zone.db.fwdZoneConfig.zipIdx
          let lines := fwdLines dc.dir env.toZoneEnv ps
          if ∃ p ∈ ps, LookupFails env.toZoneEnv p then
            (.error .resolveFailed, w.setFwdLines lines)
          else (.ok (), { w with fwd := ⟨lines, w.fwd.writes + 1⟩ })
        else (.error .statementFail, w.setFwdLines [])
      else (.error .fileError, w) := by
  rw [cmdbWriteFwdZoneConfig]
  by_cases hopen : env.confOpen .fwd = true
  swap
  · rw [if_neg hopen]
    exact Prog.bind_run_error (by rw [Prog.require_run, if_neg hopen]) _
  rw [if_pos hopen, Prog.bind_run_ok (by rw [Prog.require_run, if_pos hopen]),
    Prog.modify_bind_run]
  by_cases hsql : env.sql .fwdZoneConfig [] 0 = true
  swap
  · rw [if_neg hsql]
    exact Prog.bind_run_error (by rw [onZones, Prog.zoom_run, query_run_of_false hsql]) _
  rw [if_pos hsql]
  refine (Prog.bind_run_ok (by rw [onZones, Prog.zoom_run, query_run_of_true hsql]) _).trans ?_
  have hrun := forM_writeFwdStanza_run dc.dir env.toZoneEnv w.zone.db.fwdZoneConfig.zipIdx []
  rw [List.nil_append] at hrun
  dsimp only
  split_ifs with hf
  · rw [if_pos hf] at hrun
    exact Prog.bind_run_error (congrArg (fun r => (r.1, w.setFwdLines r.2)) hrun) _
  · rw [if_neg hf] at hrun
    exact Prog.bind_run_ok (congrArg (fun r => (r.1, w.setFwdLines r.2)) hrun) _

/-! ## Complete stanzas -/

/-- The addresses are texts of `inet_ntop`, which hold no semicolon. -/
def ZoneEnv.InetText (env : ZoneEnv) : Prop :=
  ∀ k name a, env.getaddrinfo k name = some a → ';' ∉ a.ip

/-- If the secondary of the zone is looked up, it has an IPv4 address. -/
def LookupV4 (env : ZoneEnv) (p : Zone × ℕ) : Prop :=
  p.1.NeedsLookup → ∃ ip, env.getaddrinfo p.2 p.1.secDns = some (.v4 ip)

theorem isStanza_fwdStanza {p : Zone × ℕ} (h : LookupV4 env p) :
    IsStanza lineKind p.1.name (fwdStanza dir env p) := by
  have hstanza : ∀ ss, (∀ s ∈ ss, lineKind s = .statement) →
      fwdStanzaRest dir env p = fileLine dir p.1.name :: (ss ++ [closeLine]) →
      IsStanza lineKind p.1.name (fwdStanza dir env p) := by
    intro ss hss hrest
    refine ⟨zoneLine p.1.name, typeLine p.1.type :: fileLine dir p.1.name :: ss, closeLine, ?_,
      lineKind_zoneLine _, ?_, lineKind_closeLine⟩
    · rw [fwdStanza, hrest]
      rfl
    · simp only [List.mem_cons, forall_eq_or_imp]
      exact ⟨lineKind_statementLine _, lineKind_statementLine _, hss⟩
  by_cases hn : p.1.NeedsLookup
  · obtain ⟨ip, hip⟩ := h hn
    refine hstanza [notifyLine (.v4 ip)] (fun s hs => ?_) ?_
    · rw [List.mem_singleton.mp hs]
      exact lineKind_statementLine _
    · rw [fwdStanzaRest, if_pos hn, hip]
      rfl
  · by_cases hs : p.1.type = "slave".toList
    · refine hstanza [mastersLine p.1.master] (fun s hs => ?_) ?_
      · rw [List.mem_singleton.mp hs]
        exact lineKind_statementLine _
      · rw [fwdStanzaRest, if_neg hn, if_pos hs]
        rfl
    · refine hstanza [] (fun s hs => nomatch hs) ?_
      rw [fwdStanzaRest, if_neg hn, if_neg hs]
      rfl

theorem notifyLine_mem_fwdStanza {p : Zone × ℕ} {a : AddrInfo} (hn : p.1.NeedsLookup)
    (ha : env.getaddrinfo p.2 p.1.secDns = some a) : notifyLine a ∈ fwdStanza dir env p := by
  have hrest : fwdStanzaRest dir env p = [fileLine dir p.1.name, notifyLine a, closeLine] := by
    rw [fwdStanzaRest, if_pos hn, ha]
  rw [fwdStanza, hrest]
  simp

/-- The file is read as one stanza for each zone iff no lookup gives an IPv6 address. -/
theorem names_fwdLines_iff (dir : CStr) (hinet : env.InetText) {ps : List (Zone × ℕ)}
    (hok : ∀ p ∈ ps, ¬LookupFails env p) :
    names lineKind none (fwdLines dir env ps) = some (ps.map fun p => p.1.name) ↔
      ∀ p ∈ ps, LookupV4 env p := by
  rw [fwdLines, begun_eq_self hok]
  constructor
  · intro h p hp hn
    rcases ha : env.getaddrinfo p.2 p.1.secDns with _ | ⟨ip | ip⟩
    · exact absurd ⟨hn, ha⟩ (hok p hp)
    · exact ⟨ip, rfl⟩
    · have hmem : notifyLine (.v6 ip) ∈ ps.flatMap (fwdStanza dir env) :=
        List.mem_flatMap.mpr ⟨p, hp, notifyLine_mem_fwdStanza hn ha⟩
      rw [names_eq_none_of_broken (lineKind_notifyLine_v6 (hinet _ _ _ ha)) none hmem] at h
      cases h
  · intro h
    exact names_flatMap fun p hp => isStanza_fwdStanza (h p hp)

/-! ## Well formed or untouched -/

/-- What was asked of the file : after a return of `0` it holds one closed stanza for each
valid zone, in the order of the table, and after an error what it held before. -/
def FwdConfigKept (w : DnsWorld) (r : Except AilsaError Unit × DnsWorld) : Prop :=
  (r.1 = .ok () →
    names lineKind none r.2.fwd.lines = some (w.zone.db.fwdZoneConfig.map Zone.name)) ∧
  (r.1 ≠ .ok () → r.2.fwd.lines = w.fwd.lines)

/-- The file cannot be opened, or every lookup gives an IPv4 address, or the file held
before what is written up to the error : nothing, if the query fails. -/
def FwdConfigSafe (dir : CStr) (env : DnsEnv) (w : DnsWorld) : Prop :=
  env.confOpen .fwd = false ∨
  env.sql .fwdZoneConfig [] 0 = false ∧ w.fwd.lines = [] ∨
  env.sql .fwdZoneConfig [] 0 = true ∧
    ((∀ p ∈ w.zone.db.fwdZoneConfig.zipIdx, LookupV4 env.toZoneEnv p) ∨
      (∃ p ∈ w.zone.db.fwdZoneConfig.zipIdx, LookupFails env.toZoneEnv p) ∧
        w.fwd.lines = fwdLines dir env.toZoneEnv w.zone.db.fwdZoneConfig.zipIdx)

theorem not_lookupV4 {p : Zone × ℕ} (h : LookupFails env p) : ¬LookupV4 env p := by
  intro hv4
  obtain ⟨ip, hip⟩ := hv4 h.1
  cases h.2.symm.trans hip

/-- For all valid zones and all outcomes of the lookups, `cmdb_write_fwd_zone_config`
leaves a well formed file, or on an error the file it found, iff the file cannot be
opened, or every secondary has an IPv4 address, or the file held before just what is
written up to the error. -/
theorem cmdbWriteFwdZoneConfig_kept_iff (dc : DnsaCmdb) (env : DnsEnv) (w : DnsWorld)
    (hinet : env.InetText) : FwdConfigKept w (cmdbWriteFwdZoneConfig dc env w) ↔
      FwdConfigSafe dc.dir env w := by
  rw [cmdbWriteFwdZoneConfig_run, FwdConfigSafe]
  by_cases hopen : env.confOpen .fwd = true
  swap
  · rw [if_neg hopen]
    exact iff_of_true ⟨nofun, fun _ => rfl⟩ (.inl (Bool.eq_false_iff.mpr hopen))
  rw [if_pos hopen, hopen, or_iff_right nofun]
  by_cases hsql : env.sql .fwdZoneConfig [] 0 = true
  swap
  · rw [if_neg hsql, Bool.eq_false_iff.mpr hsql]
    constructor
    · exact fun h => .inl ⟨rfl, (h.2 nofun).symm⟩
    · rintro (h | h)
      · exact ⟨nofun, fun _ => h.2.symm⟩
      · exact nomatch h.1
  rw [if_pos hsql, hsql, or_iff_right (fun h => nomatch h.1), and_iff_right rfl]
  dsimp only
  by_cases hf : ∃ p ∈ w.zone.db.fwdZoneConfig.zipIdx, LookupFails env.toZoneEnv p
  · rw [if_pos hf, and_iff_right hf, or_iff_right]
    · exact ⟨fun h => (h.2 nofun).symm, fun h => ⟨nofun, fun _ => h.symm⟩⟩
    · intro hv4
      obtain ⟨p, hp, hfail⟩ := hf
      exact not_lookupV4 hfail (hv4 p hp)
  · rw [if_neg hf, or_iff_left fun h => hf h.1,
      ← names_fwdLines_iff dc.dir hinet fun p hp hfail => hf ⟨p, hp, hfail⟩]
    have hnames : w.zone.db.fwdZoneConfig.zipIdx.map (fun p => p.1.name) =
        w.zone.db.fwdZoneConfig.map Zone.name := by
      conv_rhs => rw [← List.zipIdx_map_fst 0 w.zone.db.fwdZoneConfig, List.map_map]
      rfl
    rw [hnames]
    exact ⟨fun h => h.1 rfl, fun h => ⟨fun _ => h, fun hne => absurd rfl hne⟩⟩

/-- A valid master zone with a secondary. -/
def secondaryWorld : DnsWorld where
  zone :=
    { db :=
        { zones := [⟨1, "a.com".toList, "ns.a.com".toList, "ns2.a.com".toList, 5, 1, 1, 1, 1,
            "yes".toList, "no".toList, "master".toList, none⟩]
          records := []
          glueZones := []
          revZones := []
          revRecords := []
          preferredA := [] }
      files := [] }
  fwd := ⟨[], 0⟩
  rev := ⟨[], 0⟩

/-- Outcomes where all goes well, the clock cannot be read, and names have the address. -/
def resolvesTo (a : AddrInfo) : DnsEnv where
  toZoneEnv := { noClock true with getaddrinfo := fun _ _ => some a }
  confOpen := fun _ => true
  reload := true

theorem cmdbWriteFwdZoneConfig_kept_iff_v4 :
    FwdConfigKept secondaryWorld
        (cmdbWriteFwdZoneConfig testCmdb (resolvesTo (.v4 "10.0.0.2".toList)) secondaryWorld) ↔
      FwdConfigSafe testCmdb.dir (resolvesTo (.v4 "10.0.0.2".toList)) secondaryWorld := by
  refine cmdbWriteFwdZoneConfig_kept_iff _ _ _ fun k name a ha => ?_
  cases ha
  decide

/-- The secondary has an IPv6 address : the call returns `0`, and the file cannot be read. -/
theorem cmdbWriteFwdZoneConfig_v6_not_kept :
    ¬FwdConfigKept secondaryWorld
      (cmdbWriteFwdZoneConfig testCmdb (resolvesTo (.v6 "2001:db8::2".toList)) secondaryWorld) := by
  intro h
  have hnames := h.1 rfl
  revert hnames
  decide

end Cmdb
