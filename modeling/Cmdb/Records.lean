import Cmdb.InAddr

/-!
# Rebuilding the records of a reverse zone

`build_reverse_zone` compares the forward `A` records of a block with the stored
reverse records and lists what to remove and what to add. Both passes build the text
they compare in one search buffer, written over and over behind the octet prefix of the
sub-zone. `RebuildLists` is the state of the four lists; a group of six elements of
`add` is one row for `INSERT_REVERSE_RECORD` (`NewRevRecord`).

* `cmdbRecordsToRemove_eq` : the ids that are removed, as a filter;
* `cmdbRecordsToAdd_eq` : the rows that are added, where what the search buffer holds
  after the last reverse record (`cutText`) decides.
-/

namespace Cmdb

open CString DottedQuad

/-- The lists of `build_reverse_zone` : `rec`, `rev`, `rem` and `add`. -/
structure RebuildLists where
  forward : List AilsaRecord
  reverse : List AilsaRecord
  remove : List AilsaData
  add : List AilsaData
deriving DecidableEq, Repr

/-- The fully qualified name of a forward record, with its trailing dot. -/
def fullName (f : AilsaRecord) : CStr :=
  if f.host = ['@'] then f.domain ++ ['.'] else f.host ++ '.' :: (f.domain ++ ['.'])

/-- The name both passes build in the buffer `fqdn`. -/
def fqdnOf (f : AilsaRecord) : CStr :=
  if StrncmpEq f.host ['@'] byteLen then snprintf domainLen (f.domain ++ ['.'])
  else snprintf domainLen (f.host ++ '.' :: (f.domain ++ ['.']))

/-! ## Records to remove -/

/-- The loop over the forward records : is `reverse` justified by one of them? -/
def hasForward (search : CStr) (reverse : AilsaRecord) : List AilsaRecord → Bool
  | [] => false
  | f :: rest =>
    if StrncmpEq search f.dest hostLen ∧ StrncmpEq reverse.dest (fqdnOf f) domainLen then true
    else hasForward search reverse rest

/-- The loop over the reverse records of sub-zone `i`. -/
def removeFrom (i ptr : ℕ) (forward : List AilsaRecord) :
    CStr → List AilsaRecord → List AilsaData → List AilsaData
  | _, [], remove => remove
  | search, r :: rest, remove =>
    if r.index ≠ i then removeFrom i ptr forward search rest remove
    else
      let search := writeAt search ptr serviceLen r.host
      if hasForward search r forward then removeFrom i ptr forward search rest remove
      else removeFrom i ptr forward search rest (cmdbAddNumberToList r.id remove)

/-- The loop over the sub-zones. -/
def removeSubZones (range : CStr) (pfx : ℕ) :
    List ℕ → RebuildLists → Except AilsaError RebuildLists
  | [], l => .ok l
  | i :: is, l => do
    let search ← getRangeSearchString range pfx i
    match strrchr search '%' with
    | none => .error .stringFail
    | some ptr =>
      removeSubZones range pfx is
        { l with remove := removeFrom i ptr l.forward search l.reverse l.remove }

/-- `cmdb_records_to_remove`. -/
def cmdbRecordsToRemove (range : CStr) (pfx : ℕ) (l : RebuildLists) :
    Except AilsaError RebuildLists := do
  let index ← getZoneIndex pfx
  removeSubZones range pfx (List.range index) l

/-! ## Records to add -/

/-- The loop over the reverse records : the search buffer it leaves, and whether it was
left at a record that matches `forward`. The index of the record is not looked at. -/
def findReverse (ptr : ℕ) (forward : AilsaRecord) : CStr → List AilsaRecord → CStr × Bool
  | search, [] => (search, false)
  | search, r :: rest =>
    let search := writeAt search ptr macLen r.host
    if StrncmpEq forward.dest search domainLen ∧ StrncmpEq (fqdnOf forward) r.dest domainLen then
      (search, true)
    else findReverse ptr forward search rest

/-- One forward record in sub-zone `i`, on the search buffer and the list. -/
def addForward (uid : ℕ) (range : CStr) (zoneId pfx i ptr : ℕ) (reverse : List AilsaRecord)
    (s : CStr × List AilsaData) (forward : AilsaRecord) :
    Except AilsaError (CStr × List AilsaData) :=
  match findReverse ptr forward s.1 reverse with
  | (search, true) => .ok (search, s.2)
  | (search, false) => do
    let fqdn ← cutLastDot (snprintf domainLen search)
    if StrncmpEq fqdn forward.dest fqdn.length then do
      let add := cmdbAddNumberToList i (cmdbAddNumberToList zoneId s.2)
      let search ← getRangeSearchString range pfx i
      let add := cmdbAddStringToList (cmdbGetRevDestFromSearch search forward.dest) add
      let add := cmdbAddStringToList (fqdnOf forward) add
      return (search, cmdbPopulateCuserMuser uid add)
    else return (search, s.2)

/-- The loop over the sub-zones. A pattern without `%` ends it with code `0`. -/
def addSubZones (uid : ℕ) (range : CStr) (zoneId pfx : ℕ) :
    List ℕ → RebuildLists → Except AilsaError RebuildLists
  | [], l => .ok l
  | i :: is, l => do
    let search ← getRangeSearchString range pfx i
    match strrchr search '%' with
    | none => .ok l
    | some ptr =>
      let (_, add) ← l.forward.foldlM
        (addForward uid range zoneId pfx i ptr l.reverse) (search, l.add)
      addSubZones uid range zoneId pfx is { l with add }

/-- `cmdb_records_to_add`, run by user `uid`. -/
def cmdbRecordsToAdd (uid : ℕ) (range : CStr) (zoneId pfx : ℕ) (l : RebuildLists) :
    Except AilsaError RebuildLists := do
  let index ← getZoneIndex pfx
  addSubZones uid range zoneId pfx (List.range index) l

/-- A row for `INSERT_REVERSE_RECORD`. -/
structure NewRevRecord where
  zoneId : ℕ
  index : ℕ
  host : CStr
  dest : CStr
  cuser : ℕ
  muser : ℕ
deriving DecidableEq, Repr

/-- The six elements of a row. -/
def NewRevRecord.data (e : NewRevRecord) : List AilsaData :=
  [.number e.zoneId, .number e.index, .text e.host, .text e.dest, .number e.cuser,
    .number e.muser]

/-- The rows `ailsa_multiple_query` makes of a list, six elements each. -/
def revRows : List AilsaData → List NewRevRecord
  | .number zoneId :: .number index :: .text host :: .text dest :: .number cuser ::
      .number muser :: rest => ⟨zoneId, index, host, dest, cuser, muser⟩ :: revRows rest
  | _ => []

@[simp] theorem revRows_flatMap_data : ∀ es : List NewRevRecord,
    revRows (es.flatMap NewRevRecord.data) = es
  | [] => rfl
  | e :: es => by
    rw [List.flatMap_cons, NewRevRecord.data, List.cons_append, List.cons_append, List.cons_append,
      List.cons_append, List.cons_append, List.cons_append, List.nil_append, revRows,
      revRows_flatMap_data es]

/-! ## Names -/

theorem fqdnOf_eq (f : AilsaRecord) : fqdnOf f = snprintf domainLen (fullName f) := by
  have h : StrncmpEq f.host ['@'] byteLen ↔ f.host = ['@'] := by
    rw [strncmpEq_comm, strncmpEq_iff (by decide), eq_comm]
  rw [fqdnOf, fullName]
  simp only [h]
  split_ifs <;> rfl

theorem length_fqdnOf_lt (f : AilsaRecord) : (fqdnOf f).length < domainLen := by
  rw [fqdnOf_eq]
  exact length_snprintf_lt (by decide) _

theorem fqdnOf_eq_fullName {f : AilsaRecord} (h : (fullName f).length < domainLen) :
    fqdnOf f = fullName f := by
  rw [fqdnOf_eq, snprintf_of_length_lt h]

variable {z : RevZone} {i n : ℕ}

theorem length_octetPrefix_append_lt (z : RevZone) (i : ℕ) {n : ℕ} (hn : 0 < n) (t : CStr) :
    (z.octetPrefix i ++ snprintf n t).length < n + 12 := by
  have h1 := (z.subNet i).length_netText_lt z.octets_le
  have h2 := length_snprintf_lt hn t
  rw [List.length_append, RevZone.octetPrefix]
  omega

theorem strrchr_pattern (z : RevZone) (i : ℕ) :
    strrchr (z.octetPrefix i ++ ['%']) '%' = some (z.octetPrefix i).length :=
  strrchr_append_cons (by simp) _

/-! ## What is removed -/

/-- The forward record has the address and the name of reverse record `r` in sub-zone
`i`, where `n` bounds the host that is copied. -/
def Matches (z : RevZone) (i n : ℕ) (f r : AilsaRecord) : Prop :=
  f.dest = z.octetPrefix i ++ snprintf n r.host ∧ fqdnOf f = r.dest

instance (z : RevZone) (i n : ℕ) (f r : AilsaRecord) : Decidable (Matches z i n f r) :=
  inferInstanceAs (Decidable (_ ∧ _))

/-- The reverse records of sub-zone `i` no forward record matches. -/
def stale (z : RevZone) (forward reverse : List AilsaRecord) (i : ℕ) : List AilsaRecord :=
  reverse.filter fun r => r.index = i ∧ ¬∃ f ∈ forward, Matches z i serviceLen f r

theorem hasForward_iff (r : AilsaRecord) : ∀ forward : List AilsaRecord,
    hasForward (z.octetPrefix i ++ snprintf serviceLen r.host) r forward = true ↔
      ∃ f ∈ forward, Matches z i serviceLen f r
  | [] => by simp [hasForward]
  | f :: rest => by
    have hlen := length_octetPrefix_append_lt z i (n := serviceLen) (by decide) r.host
    have hf : (StrncmpEq (z.octetPrefix i ++ snprintf serviceLen r.host) f.dest hostLen ∧
        StrncmpEq r.dest (fqdnOf f) domainLen) ↔ Matches z i serviceLen f r := by
      rw [strncmpEq_iff (hlen.trans (by decide)), strncmpEq_comm,
        strncmpEq_iff (length_fqdnOf_lt f), Matches, eq_comm]
    rw [hasForward, List.exists_mem_cons_iff, ← hf, ← hasForward_iff r rest]
    split_ifs with h <;> simp [h]

theorem removeFrom_eq (forward : List AilsaRecord) : ∀ (rest : List AilsaRecord) (t : CStr)
    (remove : List AilsaData),
    removeFrom i (z.octetPrefix i).length forward (z.octetPrefix i ++ t) rest remove =
      remove ++ (stale z forward rest i).map fun r => .number r.id
  | [], t, remove => by simp [removeFrom, stale]
  | r :: rest, t, remove => by
    rw [removeFrom, stale, List.filter_cons]
    by_cases hi : r.index = i
    · rw [if_neg (by simpa using hi), writeAt_append]
      by_cases hf : ∃ f ∈ forward, Matches z i serviceLen f r
      · rw [if_pos ((hasForward_iff r forward).mpr hf), removeFrom_eq forward rest,
          if_neg (by simp only [decide_eq_true_eq]; exact fun h => h.2 hf), stale]
      · rw [if_neg (mt (hasForward_iff r forward).mp hf), removeFrom_eq forward rest,
          if_pos (by simp only [decide_eq_true_eq]; exact ⟨hi, hf⟩), stale]
        simp [cmdbAddNumberToList]
    · rw [if_pos hi, removeFrom_eq forward rest, stale,
        if_neg (by simp only [decide_eq_true_eq]; exact fun h => hi h.1)]

theorem removeSubZones_eq : ∀ (is : List ℕ) (l : RebuildLists), (∀ i ∈ is, i < z.subZones) →
    removeSubZones z.range z.pfx is l = .ok { l with
      remove := l.remove ++ (is.flatMap (stale z l.forward l.reverse)).map fun r => .number r.id }
  | [], l, _ => by simp [removeSubZones]
  | i :: is, l, h => by
    have hi := h i (List.mem_cons_self ..)
    rw [removeSubZones, getRangeSearchString_eq hi, ok_bind, strrchr_pattern]
    dsimp only
    rw [removeFrom_eq, removeSubZones_eq is _ fun j hj => h j (List.mem_cons_of_mem _ hj)]
    simp

/-- The pass removes the stale records, sub-zone by sub-zone. -/
theorem cmdbRecordsToRemove_eq (z : RevZone) (l : RebuildLists) :
    cmdbRecordsToRemove z.range z.pfx l = .ok { l with
      remove := l.remove ++ ((List.range z.subZones).flatMap
        (stale z l.forward l.reverse)).map fun r => .number r.id } := by
  rw [cmdbRecordsToRemove, getZoneIndex_eq, ok_bind,
    removeSubZones_eq _ l fun i hi => List.mem_range.mp hi]

/-! ## What is added -/

/-- A reverse record, of whatever sub-zone, makes the pass take `f` as present. -/
def Stored (z : RevZone) (reverse : List AilsaRecord) (i : ℕ) (f : AilsaRecord) : Prop :=
  ∃ r ∈ reverse, Matches z i macLen f r

instance (z : RevZone) (reverse : List AilsaRecord) (i : ℕ) (f : AilsaRecord) :
    Decidable (Stored z reverse i f) :=
  inferInstanceAs (Decidable (∃ r ∈ reverse, Matches z i macLen f r))

/-- What stands behind the octet prefix when the loop over the reverse records ends : the
host of the last one, or the `%` of the pattern. -/
def lastHost (reverse : List AilsaRecord) : CStr :=
  match reverse.getLast? with
  | some r => snprintf macLen r.host
  | none => ['%']

/-- The text an address must start with to be entered in sub-zone `i` : the search
buffer up to its last dot. -/
def cutText (z : RevZone) (reverse : List AilsaRecord) (i : ℕ) : CStr :=
  match strrchr (lastHost reverse) '.' with
  | some p => z.octetPrefix i ++ cut (lastHost reverse) p
  | none => (z.subNet i).netStem z.octets

/-- The row for `f` in sub-zone `i`. -/
def newRow (z : RevZone) (zoneId uid i : ℕ) (f : AilsaRecord) : NewRevRecord where
  zoneId := zoneId
  index := i
  host := cmdbGetRevDestFromSearch (z.octetPrefix i ++ ['%']) f.dest
  dest := fqdnOf f
  cuser := uid
  muser := uid

/-- The rows entered in sub-zone `i`. -/
def addRows (z : RevZone) (zoneId uid : ℕ) (forward reverse : List AilsaRecord) (i : ℕ) :
    List NewRevRecord :=
  (forward.filter fun f => ¬Stored z reverse i f ∧ cutText z reverse i <+: f.dest).map
    (newRow z zoneId uid i)

/-- The buffer behind the octet prefix : `%` until the first reverse record is copied. -/
def SearchTail (reverse : List AilsaRecord) (t : CStr) : Prop := reverse = [] → t = ['%']

theorem findReverse_eq (f : AilsaRecord) : ∀ (rest : List AilsaRecord) (t : CStr),
    SearchTail rest t → ∃ t', findReverse (z.octetPrefix i).length f (z.octetPrefix i ++ t) rest =
      (z.octetPrefix i ++ t', decide (Stored z rest i f)) ∧ SearchTail rest t' ∧
        (¬Stored z rest i f → t' = lastHost rest)
  | [], t, ht => ⟨t, by simp [findReverse, Stored], ht, fun _ => ht rfl⟩
  | r :: rest, t, _ => by
    have hlen := length_octetPrefix_append_lt z i (n := macLen) (by decide) r.host
    have hf : (StrncmpEq f.dest (z.octetPrefix i ++ snprintf macLen r.host) domainLen ∧
        StrncmpEq (fqdnOf f) r.dest domainLen) ↔ Matches z i macLen f r := by
      rw [strncmpEq_comm, strncmpEq_iff (hlen.trans (by decide)),
        strncmpEq_iff (length_fqdnOf_lt f), Matches, eq_comm]
    have hs : Stored z (r :: rest) i f ↔ Matches z i macLen f r ∨ Stored z rest i f :=
      List.exists_mem_cons_iff ..
    rw [findReverse, writeAt_append]
    by_cases hm : Matches z i macLen f r
    · refine ⟨snprintf macLen r.host, ?_, fun h => (List.cons_ne_nil _ _ h).elim,
        fun h => absurd (hs.mpr (.inl hm)) h⟩
      rw [if_pos (hf.mpr hm), decide_eq_true (hs.mpr (.inl hm))]
    · rw [if_neg (mt hf.mp hm)]
      rcases rest with _ | ⟨r', rest⟩
      · refine ⟨snprintf macLen r.host, ?_, fun h => (List.cons_ne_nil _ _ h).elim, fun _ => rfl⟩
        simp [findReverse, Stored, hm]
      · obtain ⟨t', h1, -, h3⟩ := findReverse_eq f (r' :: rest) (snprintf macLen r.host)
          fun h => (List.cons_ne_nil _ _ h).elim
        refine ⟨t', ?_, fun h => (List.cons_ne_nil _ _ h).elim, fun h => ?_⟩
        · rw [h1]
          simp only [hs, hm, false_or]
        · rw [h3 (mt (fun h => hs.mpr (.inr h)) h), lastHost, lastHost, List.getLast?_cons_cons]

theorem length_lastHost_lt (reverse : List AilsaRecord) : (lastHost reverse).length < macLen := by
  unfold lastHost
  split
  · exact length_snprintf_lt (by decide) _
  · decide

theorem cutLastDot_search (z : RevZone) (reverse : List AilsaRecord) (i : ℕ) :
    cutLastDot (snprintf domainLen (z.octetPrefix i ++ lastHost reverse)) =
      .ok (cutText z reverse i) := by
  have hlen : (z.octetPrefix i ++ lastHost reverse).length < 256 := by
    have h1 := (z.subNet i).length_netText_lt z.octets_le
    have h2 : (lastHost reverse).length < 32 := length_lastHost_lt reverse
    rw [List.length_append, RevZone.octetPrefix]
    omega
  rw [snprintf_of_length_lt hlen, cutLastDot, cutText]
  rcases h : strrchr (lastHost reverse) '.' with _ | p
  · rw [strrchr_append_of_notMem (strrchr_eq_none.mp h), RevZone.octetPrefix,
      Quad.strrchr_netText _ z.octets_pos]
    dsimp only
    rw [cut, ← Quad.netStem_append _ z.octets_pos, List.append_assoc, List.take_left]
  · have hmem : '.' ∈ lastHost reverse := by
      by_contra hn
      rw [strrchr_eq_none.mpr hn] at h
      cases h
    rw [strrchr_append_of_mem hmem, h]
    dsimp only [Option.map_some]
    rw [cut, List.take_length_add_append, cut]

theorem cmdbAddStringToList_of_length_le {str : CStr} (h : str.length ≤ configLen)
    (list : List AilsaData) : cmdbAddStringToList str list = list ++ [.text str] := by
  rw [cmdbAddStringToList, arg_of_length_le h]

/-- One forward record appends its row, or nothing, and leaves the octet prefix in the
buffer. -/
theorem addForward_eq (hi : i < z.subZones) (uid zoneId : ℕ) (reverse : List AilsaRecord)
    (f : AilsaRecord) {t : CStr} (ht : SearchTail reverse t) (add : List AilsaData) :
    ∃ t', addForward uid z.range zoneId z.pfx i (z.octetPrefix i).length reverse
        (z.octetPrefix i ++ t, add) f =
      .ok (z.octetPrefix i ++ t',
        add ++ (addRows z zoneId uid [f] reverse i).flatMap NewRevRecord.data) ∧
      SearchTail reverse t' := by
  obtain ⟨t', hfind, ht', hlast⟩ := findReverse_eq (z := z) (i := i) f reverse t ht
  rw [addForward, hfind, addRows, List.filter_singleton]
  by_cases hs : Stored z reverse i f
  · refine ⟨t', ?_, ht'⟩
    simp [hs]
  rw [hlast hs] at ht' ⊢
  by_cases hc : cutText z reverse i <+: f.dest
  · have hhost : (cmdbGetRevDestFromSearch (z.octetPrefix i ++ ['%']) f.dest).length ≤ configLen :=
      (length_snprintf_lt (by decide) _).le.trans (by decide)
    have hname : (fqdnOf f).length ≤ configLen := (length_fqdnOf_lt f).le
    refine ⟨['%'], ?_, fun _ => rfl⟩
    simp only [decide_eq_false hs, cutLastDot_search, ok_bind, if_pos (strncmpEq_length_iff.mpr hc),
      getRangeSearchString_eq hi, pure_eq_ok]
    rw [cmdbAddStringToList_of_length_le hname, cmdbAddStringToList_of_length_le hhost]
    simp [hs, hc, cmdbAddNumberToList, cmdbPopulateCuserMuser, newRow, NewRevRecord.data]
  · refine ⟨lastHost reverse, ?_, ht'⟩
    simp only [decide_eq_false hs, cutLastDot_search, ok_bind,
      if_neg (mt strncmpEq_length_iff.mp hc), pure_eq_ok]
    simp [hc]

theorem foldlM_addForward_eq (hi : i < z.subZones) (uid zoneId : ℕ) (reverse : List AilsaRecord) :
    ∀ (forward : List AilsaRecord) (t : CStr) (add : List AilsaData), SearchTail reverse t →
    ∃ t', forward.foldlM (addForward uid z.range zoneId z.pfx i (z.octetPrefix i).length reverse)
        (z.octetPrefix i ++ t, add) = .ok (z.octetPrefix i ++ t',
          add ++ (addRows z zoneId uid forward reverse i).flatMap NewRevRecord.data)
  | [], t, add, _ => ⟨t, by simp [addRows]⟩
  | f :: forward, t, add, ht => by
    obtain ⟨t1, h1, ht1⟩ := addForward_eq hi uid zoneId reverse f ht add
    obtain ⟨t2, h2⟩ := foldlM_addForward_eq hi uid zoneId reverse forward t1
      (add ++ (addRows z zoneId uid [f] reverse i).flatMap NewRevRecord.data) ht1
    refine ⟨t2, ?_⟩
    rw [List.foldlM_cons, h1, ok_bind, h2]
    simp [addRows, List.filter_cons]
    split_ifs <;> simp

theorem addSubZones_eq (uid zoneId : ℕ) : ∀ (is : List ℕ) (l : RebuildLists),
    (∀ i ∈ is, i < z.subZones) → addSubZones uid z.range zoneId z.pfx is l = .ok { l with
      add := l.add ++ (is.flatMap (addRows z zoneId uid l.forward l.reverse)).flatMap
        NewRevRecord.data }
  | [], l, _ => by simp [addSubZones]
  | i :: is, l, h => by
    have hi := h i (List.mem_cons_self ..)
    obtain ⟨t', hfold⟩ := foldlM_addForward_eq hi uid zoneId l.reverse l.forward ['%'] l.add
      fun _ => rfl
    rw [addSubZones, getRangeSearchString_eq hi, ok_bind, strrchr_pattern]
    dsimp only
    rw [hfold, ok_bind]
    dsimp only
    rw [addSubZones_eq uid zoneId is _ fun j hj => h j (List.mem_cons_of_mem _ hj)]
    simp

/-- The pass adds rows sub-zone by sub-zone, and touches no other list. -/
theorem cmdbRecordsToAdd_eq (z : RevZone) (uid zoneId : ℕ) (l : RebuildLists) :
    cmdbRecordsToAdd uid z.range zoneId z.pfx l = .ok { l with
      add := l.add ++ ((List.range z.subZones).flatMap
        (addRows z zoneId uid l.forward l.reverse)).flatMap NewRevRecord.data } := by
  rw [cmdbRecordsToAdd, getZoneIndex_eq, ok_bind,
    addSubZones_eq uid zoneId _ l fun i hi => List.mem_range.mp hi]

end Cmdb
