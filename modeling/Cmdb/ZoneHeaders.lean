import Mathlib.Data.List.DropRight
import Cmdb.ZoneFile

/-!
# The name servers of the headers

The header of a forward zone and the header of a reverse zone each name the primary and
the secondary name server of the configuration. The forward header looks for the closing
dot of the secondary at the length of the primary, and takes every name that starts with
`none` for the marker; the reverse header does not know the marker.

`headers_nameServers_iff` : when both headers name the primary and the secondary with one
closing dot each, and leave out a secondary that is not set.
-/

namespace Cmdb

open CString

/-! ## Names with a closing dot -/

/-- A name with exactly one closing dot. -/
def fqdn (name : CStr) : CStr := name.rdropWhile (· = '.') ++ ['.']

/-- The name does not end in two dots. -/
def AtMostOneDot (name : CStr) : Prop := ¬['.', '.'] <:+ name

instance (name : CStr) : Decidable (AtMostOneDot name) := inferInstanceAs (Decidable (¬_))

section

variable {name x y : CStr}

theorem atMostOneDot_fqdn (name : CStr) : AtMostOneDot (fqdn name) := by
  rintro ⟨u, hu⟩
  have hdots : (u ++ ['.']) ++ ['.'] = name.rdropWhile (· = '.') ++ ['.'] := by
    rw [List.append_assoc]
    exact hu
  have hstem : u ++ ['.'] = name.rdropWhile (· = '.') := List.append_cancel_right hdots
  have hne : name.rdropWhile (· = '.') ≠ [] := hstem ▸ by simp
  have hlast := List.rdropWhile_last_not (fun c : Char => decide (c = '.')) name hne
  simp [← hstem] at hlast

theorem getLast?_eq_some_iff_concat {c : Char} :
    name.getLast? = some c ↔ ∃ u, name = u ++ [c] := by
  rw [List.getLast?_eq_some_iff]

/-- A dot is added where there is none. -/
theorem dotEnd_eq_fqdn (h : AtMostOneDot name) : dotEnd name name.getLast? = fqdn name := by
  have hself : ∀ u : CStr, u.getLast? ≠ some '.' → u.rdropWhile (· = '.') = u := by
    intro u hu
    refine List.rdropWhile_eq_self_iff.mpr fun hne hdot => hu ?_
    rw [List.getLast?_eq_getLast_of_ne_nil hne]
    exact congrArg some (of_decide_eq_true hdot)
  unfold dotEnd fqdn
  split_ifs with hlast
  · rw [hself name hlast]
  · obtain ⟨u, rfl⟩ := getLast?_eq_some_iff_concat.mp (not_not.mp hlast)
    have hu : u.getLast? ≠ some '.' := by
      intro hdot
      obtain ⟨v, rfl⟩ := getLast?_eq_some_iff_concat.mp hdot
      exact h ⟨v, by simp⟩
    rw [List.rdropWhile_concat_pos _ _ _ (by simp), hself u hu]

/-- A name that ends in two dots is written as it is. -/
theorem atMostOneDot_of_dotEnd_eq (h : dotEnd name name.getLast? = fqdn y) :
    AtMostOneDot name := by
  rintro ⟨u, rfl⟩
  have hlast : (u ++ ['.', '.']).getLast? = some '.' := by simp
  rw [dotEnd, if_neg (not_not_intro hlast)] at h
  exact atMostOneDot_fqdn y ⟨u, h⟩

theorem dotEnd_inj {c d : Option Char} :
    dotEnd name c = dotEnd name d ↔ (c = some '.' ↔ d = some '.') := by
  unfold dotEnd
  by_cases hc : c = some '.' <;> by_cases hd : d = some '.' <;> simp [hc, hd]

end

/-! ## The headers -/

/-- `s[i]`; `behind` stands in memory behind the `NUL`. -/
def charAt (behind : Option Char) (s : CStr) (i : ℕ) : Option Char :=
  if i ≤ s.length then s[i]? else behind

/-- `write_zone_file_header`, where a primary longer than the secondary makes it read
`behind`. -/
def writeZoneFileHeaderMem (behind : Option Char) (n s : List Zone) (master : CStr) :
    List CStr :=
  match n, s with
  | ns :: _, [soa] =>
    let pri := ns.priDns
    let sec := ns.secDns
    let slen := pri.length
    ["$TTL ".toList ++ numText soa.ttl ++ "\n@\tIN\tSOA\t".toList ++ dotEnd pri pri.getLast? ++
        "\t".toList ++ master ++ "\t(\n".toList,
      "\t\t\t\t".toList ++ numText soa.serial ++ "\t; Serial\n".toList,
      "\t\t\t\t".toList ++ numText soa.refresh ++ "\t\t; Refresh\n".toList,
      "\t\t\t\t".toList ++ numText soa.retry ++ "\t\t; Retry\n".toList,
      "\t\t\t\t".toList ++ numText soa.expire ++ "\t\t; Expire\n".toList,
      "\t\t\t\t".toList ++ numText soa.ttl ++ "\t\t); TTL\n;\n".toList,
      "\tIN\tNS\t".toList ++ dotEnd pri pri.getLast? ++ "\n".toList] ++
    if StrncmpEq sec "none".toList 4 then []
    else ["\tIN\tNS\t".toList ++ dotEnd sec (charAt behind sec (slen - 1)) ++ "\n".toList]
  | _, _ => []

/-- The header of the zone files is the one where no dot stands behind the secondary. -/
theorem writeZoneFileHeaderMem_none (n s : List Zone) (master : CStr) :
    writeZoneFileHeaderMem none n s master = writeZoneFileHeader n s master := by
  have hchar : ∀ (s : CStr) (i : ℕ), charAt none s i = s[i]? := by
    intro s i
    unfold charAt
    split_ifs with h
    · rfl
    · exact (List.getElem?_eq_none (by omega)).symm
  rcases n with _ | ⟨ns, n⟩
  · rfl
  · rcases s with _ | ⟨soa, _ | ⟨_, _⟩⟩
    · rfl
    · simp only [writeZoneFileHeaderMem, writeZoneFileHeader, hchar]
    · rfl

/-- A line of the header names the server : `start` opens the `NS` lines of the file. -/
def NamesServer (start : CStr) (header : List CStr) (server : CStr) : Prop :=
  start ++ server ++ "\n".toList ∈ header

/-- `NS` lines of a forward zone. -/
def fwdNs : CStr := "\tIN\tNS\t".toList

/-- `NS` lines of a reverse zone. -/
def revNs : CStr := "\t\tIN\tNS\t".toList

/-- The name servers of a zone : the primary, and the secondary unless it is not set. -/
def IsNameServer (pri sec server : CStr) : Prop :=
  server = fqdn pri ∨ sec ≠ "none".toList ∧ server = fqdn sec

instance (pri sec server : CStr) : Decidable (IsNameServer pri sec server) :=
  inferInstanceAs (Decidable (_ ∨ _))

/-- Both headers name the name servers of the zone. -/
def HeadersName (behind : Option Char) (ns soa : Zone) (rev : RevZoneRow) (master : CStr)
    (pri sec : CStr) : Prop :=
  (∀ x, NamesServer fwdNs (writeZoneFileHeaderMem behind [ns] [soa] master) x ↔
    IsNameServer pri sec x) ∧
  ∀ x, NamesServer revNs (writeRevZoneHeader [rev] master) x ↔ IsNameServer pri sec x

/-- Names the headers write as they should : no name ends in two dots. A secondary that is
not set must be the primary, for it is named in the reverse zone; so must one that starts
like the marker, for it is not named in the forward zone. Any other has a dot at the end of
the primary iff it has one at its own. -/
def ServersFit (behind : Option Char) (pri sec : CStr) : Prop :=
  AtMostOneDot pri ∧
    if sec = "none".toList then fqdn pri = "none.".toList
    else AtMostOneDot sec ∧
      if "none".toList <+: sec then fqdn sec = fqdn pri
      else charAt behind sec (pri.length - 1) = some '.' ↔ sec.getLast? = some '.'

section Headers

variable {behind : Option Char} {ns soa : Zone} {rev : RevZoneRow} {master pri sec x : CStr}

theorem strncmpEq_none_iff : StrncmpEq sec "none".toList 4 ↔ "none".toList <+: sec := by
  rw [strncmpEq_comm]
  exact strncmpEq_length_iff (s := "none".toList)

theorem nsLine_inj {start y : CStr} :
    start ++ x ++ "\n".toList = start ++ y ++ "\n".toList ↔ x = y := by
  rw [List.append_left_inj, List.append_right_inj]

theorem namesServer_fwd : NamesServer fwdNs (writeZoneFileHeaderMem behind [ns] [soa] master) x ↔
    x = dotEnd ns.priDns ns.priDns.getLast? ∨ ¬"none".toList <+: ns.secDns ∧
      x = dotEnd ns.secDns (charAt behind ns.secDns (ns.priDns.length - 1)) := by
  have hsec : fwdNs ++ x ++ "\n".toList ∈ (if StrncmpEq ns.secDns "none".toList 4 then []
      else ["\tIN\tNS\t".toList ++ dotEnd ns.secDns
        (charAt behind ns.secDns (ns.priDns.length - 1)) ++ "\n".toList]) ↔
      ¬"none".toList <+: ns.secDns ∧
        x = dotEnd ns.secDns (charAt behind ns.secDns (ns.priDns.length - 1)) := by
    rw [← strncmpEq_none_iff]
    unfold fwdNs
    split_ifs with h
    · exact iff_of_false List.not_mem_nil fun hn => hn.1 h
    · rw [List.mem_singleton, nsLine_inj, and_iff_right h]
  rw [NamesServer, writeZoneFileHeaderMem, List.mem_append, hsec]
  refine or_congr_left ?_
  have hpri : fwdNs ++ x ++ "\n".toList =
      fwdNs ++ dotEnd ns.priDns ns.priDns.getLast? ++ "\n".toList ↔
        x = dotEnd ns.priDns ns.priDns.getLast? := nsLine_inj
  rw [← hpri]
  unfold fwdNs
  simp

theorem namesServer_rev : NamesServer revNs (writeRevZoneHeader [rev] master) x ↔
    x = dotEnd rev.priDns rev.priDns.getLast? ∨ x = dotEnd rev.secDns rev.secDns.getLast? := by
  have hhead : ∀ {c : Char} {l : CStr}, c ≠ '\t' → ¬revNs ++ x ++ "\n".toList = c :: l :=
    fun hc h => hc (List.cons.inj h).1.symm
  have htabs : ∀ l : CStr, ¬revNs ++ x ++ "\n".toList = ['\t', '\t', '\t', '\t'] ++ l := by
    intro l h
    have hrev : revNs = ['\t', '\t', 'I', 'N', '\t', 'N', 'S', '\t'] := rfl
    rw [hrev] at h
    simp only [List.cons_append, List.cons.injEq] at h
    exact absurd h.2.2.1 (by decide)
  rw [NamesServer, writeRevZoneHeader]
  simp only [List.mem_cons, List.not_mem_nil, or_false]
  -- the lines of the `SOA` record are no `NS` lines
  refine (or_iff_right (hhead (c := '$') (by decide))).trans ?_
  refine (or_iff_right (hhead (c := '@') (by decide))).trans ?_
  refine (or_iff_right (htabs _)).trans ?_
  refine (or_iff_right (htabs _)).trans ?_
  refine (or_iff_right (htabs _)).trans ?_
  refine (or_iff_right (htabs _)).trans ?_
  refine (or_iff_right (htabs _)).trans ?_
  refine (or_iff_right (hhead (c := ';') (by decide))).trans ?_
  exact or_congr nsLine_inj nsLine_inj

/-- Both headers name the primary and, unless it is not set, the secondary with one closing
dot iff the two names fit. -/
theorem headers_nameServers_iff (behind : Option Char) (pri sec : CStr) (ns soa : Zone)
    (rev : RevZoneRow) (master : CStr) (hpri : ns.priDns = pri) (hsec : ns.secDns = sec)
    (hpri' : rev.priDns = pri) (hsec' : rev.secDns = sec) :
    HeadersName behind ns soa rev master pri sec ↔ ServersFit behind pri sec := by
  simp only [HeadersName, namesServer_fwd, namesServer_rev, hpri, hsec, hpri', hsec',
    IsNameServer, ServersFit]
  constructor
  · rintro ⟨hfwd, hrev⟩
    have hdot : AtMostOneDot pri := by
      rcases (hrev _).mp (.inl rfl) with h | ⟨-, h⟩ <;> exact atMostOneDot_of_dotEnd_eq h
    rw [dotEnd_eq_fqdn hdot] at hfwd hrev
    refine ⟨hdot, ?_⟩
    split_ifs with hset hnone
    · have h := (hrev _).mp (.inr rfl)
      rw [or_iff_left fun h => h.1 hset, hset] at h
      exact h.symm
    · refine ⟨?_, ?_⟩
      · rcases (hrev _).mp (.inr rfl) with h | ⟨-, h⟩ <;> exact atMostOneDot_of_dotEnd_eq h
      · exact ((hfwd _).mpr (.inr ⟨hset, rfl⟩)).resolve_right fun h => h.1 hnone
    · have hdot' : AtMostOneDot sec := by
        rcases (hrev _).mp (.inr rfl) with h | ⟨-, h⟩ <;> exact atMostOneDot_of_dotEnd_eq h
      refine ⟨hdot', ?_⟩
      rw [← dotEnd_inj, dotEnd_eq_fqdn hdot']
      -- the forward header names the secondary, be it as the primary
      rcases (hfwd _).mpr (.inr ⟨hset, rfl⟩) with h | ⟨-, h⟩
      · rcases (hfwd _).mp (.inr ⟨hnone, rfl⟩) with h' | ⟨-, h'⟩
        · rw [h', h]
        · exact h'
      · exact h.symm
  · rintro ⟨hdot, h⟩
    rw [dotEnd_eq_fqdn hdot]
    split_ifs at h with hset hnone
    · have hnone : "none".toList <+: sec := hset ▸ List.prefix_rfl
      have hself : dotEnd sec sec.getLast? = "none.".toList := by rw [hset]; rfl
      rw [hself, h]
      simp [hset]
    · obtain ⟨hdot', heq⟩ := h
      rw [dotEnd_eq_fqdn hdot', heq]
      simp only [hset, hnone, ne_eq, not_true, not_false_eq_true, false_and, true_and, or_false,
        or_self, implies_true, and_self]
    · obtain ⟨hdot', hlast⟩ := h
      rw [dotEnd_inj.mpr hlast, dotEnd_eq_fqdn hdot']
      simp only [hset, hnone, ne_eq, not_false_eq_true, true_and, implies_true, and_self]

/-- a primary and a secondary of one length -/
def sampleZone : Zone where
  id := 1
  name := "example.com".toList
  priDns := "ns1.example.com".toList
  secDns := "ns2.example.org".toList
  serial := 2024010101
  refresh := 3600
  retry := 900
  expire := 1209600
  ttl := 86400
  valid := "yes".toList
  updated := "no".toList
  type := "master".toList
  master := none

/-- `10.0.0.0/8` with the name servers of a forward zone -/
def sampleRev (z : Zone) : RevZoneRow where
  id := 1
  netRange := "10.0.0.0".toList
  pfx := "8".toList
  startIp := 167772160
  finishIp := 184549375
  priDns := z.priDns
  secDns := z.secDns
  serial := 2024010101
  refresh := 3600
  retry := 900
  expire := 1209600
  ttl := 86400
  valid := "yes".toList
  updated := "no".toList
  type := "master".toList
  master := none

theorem headers_nameServers_iff_sample :
    HeadersName none sampleZone sampleZone (sampleRev sampleZone) "hostmaster.example.com".toList
        "ns1.example.com".toList "ns2.example.org".toList ↔
      ServersFit none "ns1.example.com".toList "ns2.example.org".toList :=
  headers_nameServers_iff none _ _ sampleZone sampleZone (sampleRev sampleZone) _ rfl rfl rfl rfl

/-- Without a secondary the reverse zone names a server `none`. -/
theorem not_headersName :
    ¬∀ (behind : Option Char) (pri sec : CStr) (ns soa : Zone) (rev : RevZoneRow)
      (master : CStr), pri ≠ [] → sec ≠ [] → ns.priDns = pri → ns.secDns = sec →
        rev.priDns = pri → rev.secDns = sec → HeadersName behind ns soa rev master pri sec := by
  intro h
  let z : Zone := { sampleZone with secDns := "none".toList }
  have hrev := (h none _ _ z z (sampleRev z) [] (by decide) (by decide) rfl rfl rfl rfl).2
  exact absurd ((hrev "none.".toList).mp (namesServer_rev.mpr (.inr rfl))) (by decide)

end Headers

end Cmdb
