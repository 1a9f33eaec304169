import Cmdb.ListSequence
import Cmdb.ModifyBuild

/-!
# What the options of a build replace

What an option finds in the tables is an error, or values for positions of the list of the
details. `modifications` takes the options in order, up to the first error, and
`ailsaGetModifiedBuild_returns` says that `ailsa_get_modified_build` puts those values in their
places, keeps every other element and leaves the list well formed, also where it ends in an
error.
-/

namespace Cmdb

open CString DoublyLinked Prog

/-! ## What is found -/

/-- New values, with their positions in the list. -/
abbrev Replacements := List (ℕ × AilsaData)

section Found

variable (env : CbcEnv) (db : BuildDb)

/-- The rows of a query, or its error. -/
def rowsOf {α : Type} (q : CbcQuery) (rows : List α) : Except AilsaError (List α) :=
  if env.sql q 0 then .ok rows else .error .statementFail

/-- The ids a lookup finds. -/
def idsOf : Lookup → Except AilsaError (List ℕ)
  | none => .error .noData
  | some (q, g) => rowsOf env q (g db)

/-- The first of the ids, if there is one. -/
def firstAt (position : ℕ) (ids : List ℕ) : Replacements :=
  (ids.take 1).map fun id => (position, .number id)

/-- Exactly one row is to be found. -/
def once {α : Type} (notFound : AilsaError) (r : Except AilsaError (List α)) :
    Except AilsaError (List α) := do
  let rows ← r
  if rows.length = 1 then .ok rows else .error notFound

def varientFound (varient : CStr) : Except AilsaError Replacements :=
  (firstAt 0) <$> once .varientNotFound (idsOf env db (varientLookup (some varient)))

def partitionFound (partition : CStr) : Except AilsaError Replacements :=
  (firstAt 4) <$> idsOf env db (schemeLookup (some partition))

def localeFound (locale : CStr) : Except AilsaError Replacements :=
  (firstAt 3) <$> idsOf env db (localeLookup (some locale))

def serverFound (server : CStr) : Except AilsaError (List ℕ) :=
  once .serverNotFound (rowsOf env .serverIdOnName (db.serverIds (arg server)))

/-- The arguments of the query for the MAC address. -/
def macArgs (ids : List ℕ) (netdev : CStr) : List AilsaData :=
  ids.map .number ++ [.text (arg netdev)]

/-- The device, and the first of its MAC addresses, if there is one. -/
def deviceAt (netdev : CStr) : List CStr → Replacements
  | [] => []
  | mac :: _ => [(6, .text (arg netdev)), (5, .text mac)]

def netcardFound (netdev server : CStr) : Except AilsaError Replacements := do
  let ids ← serverFound env db server
  let macs ← rowsOf env .macAddressForBuild (db.macAddresses (macArgs ids netdev))
  return deviceAt netdev macs

/-- What is missing of the names is that of the OS of the build. -/
def fullOs (osId : ℕ) (os : OsNames) : Except AilsaError OsNames :=
  if os.Partial then cmdbGetFullOs env db os osId else .ok os

def osFound (osId : ℕ) (os : OsNames) : Except AilsaError Replacements := do
  let os ← fullOs env db osId os
  (firstAt 1) <$> idsOf env db (osLookup os.os os.version os.arch)

/-- The options, in order, with what is found for those that are given. -/
def optionsFound (cml : CbcCommLine) (osId : ℕ) : List (Option (Except AilsaError Replacements)) :=
  [cml.varient.map (varientFound env db), cml.partition.map (partitionFound env db),
    cml.locale.map (localeFound env db),
    cml.netcard.map fun netdev => netcardFound env db netdev cml.name,
    (osOption cml).map (osFound env db osId)]

end Found

/-- The code, and the values the options find up to the first error. -/
def modifications : Code → List (Option (Except AilsaError Replacements)) → Code × Replacements
  | retval, [] => (retval, [])
  | retval, none :: found => modifications retval found
  | _, some (.error e) :: _ => (.error e, [])
  | _, some (.ok rs) :: found =>
    ((modifications (.ok ()) found).1, rs ++ (modifications (.ok ()) found).2)

variable {A : Type}

/-- The values are in their places, and every other element is the one that was there. -/
structure Replaced (l l' : List (A × Option AilsaData)) (rs : Replacements) : Prop where
  length_eq : l'.length = l.length
  put : ∀ r ∈ rs, (l'[r.1]?).map Prod.snd = some (some (copyData r.2))
  kept : ∀ i ∉ rs.map Prod.fst, l'[i]? = l[i]?

variable {l l' l'' : List (A × Option AilsaData)} {rs rs' : Replacements} {i : ℕ}

theorem Replaced.refl (l : List (A × Option AilsaData)) : Replaced l l [] :=
  ⟨rfl, nofun, fun _ _ => rfl⟩

/-- Values for different positions, one after the other. -/
theorem Replaced.trans (h : Replaced l l' rs) (h' : Replaced l' l'' rs')
    (hne : ∀ i ∈ rs.map Prod.fst, i ∉ rs'.map Prod.fst) : Replaced l l'' (rs ++ rs') where
  length_eq := h'.length_eq.trans h.length_eq
  put r hr := by
    obtain hr | hr := List.mem_append.mp hr
    · rw [h'.kept _ (hne _ (List.mem_map_of_mem hr))]
      exact h.put r hr
    · exact h'.put r hr
  kept i hi := by
    rw [List.map_append, List.mem_append, not_or] at hi
    exact (h'.kept i hi.2).trans (h.kept i hi.1)

theorem replaced_singleton {l₁ l₂ : List (A × Option AilsaData)} {c : A × Option AilsaData}
    {new : A} {d : AilsaData} : Replaced (l₁ ++ c :: l₂)
      (l₁ ++ (new, some (copyData d)) :: l₂) [(l₁.length, d)] where
  length_eq := by rw [List.length_append, List.length_append, List.length_cons, List.length_cons]
  put r hr := by
    obtain rfl := List.mem_singleton.mp hr
    simp
  kept i hi := by
    have hne : i ≠ l₁.length := fun h => hi (h ▸ List.mem_singleton_self _)
    obtain hlt | hgt := Nat.lt_or_gt_of_ne hne
    · rw [List.getElem?_append_left hlt, List.getElem?_append_left hlt]
    · obtain ⟨k, rfl⟩ := Nat.exists_eq_add_of_lt hgt
      rw [Nat.add_assoc, List.getElem?_append_right (Nat.le_add_right ..),
        List.getElem?_append_right (Nat.le_add_right ..), Nat.add_sub_cancel_left,
        List.getElem?_cons_succ, List.getElem?_cons_succ]

theorem exists_split_at (hi : i < l.length) :
    ∃ l₁ c l₂, l = l₁ ++ c :: l₂ ∧ l₁.length = i :=
  ⟨l.take i, l[i], l.drop (i + 1), by simp, List.length_take_of_le hi.le⟩

/-! ## One option -/

/-- The code of a result. -/
def codeOf {α : Type} (r : Except AilsaError α) : Code := r.map fun _ => ()

/-- The rows of a result. -/
def rowsIn {α : Type} (r : Except AilsaError (List α)) : List α := r.toOption.getD []

@[simp] theorem codeOf_ok {α : Type} (a : α) : codeOf (.ok a) = .ok () := rfl

@[simp] theorem codeOf_error {α : Type} (e : AilsaError) :
    codeOf (.error e : Except AilsaError α) = .error e := rfl

@[simp] theorem rowsIn_ok {α : Type} (rows : List α) : rowsIn (.ok rows) = rows := rfl

@[simp] theorem rowsIn_error {α : Type} (e : AilsaError) :
    rowsIn (.error e : Except AilsaError (List α)) = [] := rfl

variable [DecidableEq A] {al : Allocator A (Option AilsaData)} {env : CbcEnv} {db : BuildDb}
  {m : ListMem A AilsaData} {bs : List (A × Option AilsaData)}
  {ls : List (List (A × Option AilsaData))}

/-- The program returns that code, and puts those values in their places. -/
def Modifies (r : Code × Replacements) (p : ListProg A AilsaData Code) (m : ListMem A AilsaData)
    (bs : List (A × Option AilsaData)) (ls : List (List (A × Option AilsaData))) : Prop :=
  Returns p m fun code m' => code = r.1 ∧ ∃ bs', Replaced bs bs' r.2 ∧ m'.Has bs' ls

omit [DecidableEq A] in
theorem modifies_pure (hm : m.Has bs ls) (code : Code) : Modifies (code, []) (pure code) m bs ls :=
  returns_pure ⟨rfl, bs, .refl bs, hm⟩

theorem ailsaArgumentQuery_returns {α : Type} {q : CbcQuery} {rows : List α}
    {f : α → AilsaData} (hm : m.Has l ls) :
    Returns (ailsaArgumentQuery al env q (rows.map f)) m fun code m' =>
      code = codeOf (rowsOf env q rows) ∧ ∃ cells,
        cells.map Prod.snd = (rowsIn (rowsOf env q rows)).map (some ∘ f) ∧
          m'.Has (l ++ cells) ls := by
  rw [ailsaArgumentQuery, rowsOf]
  cases env.sql q 0 with
  | false => exact returns_pure ⟨rfl, [], rfl, (List.append_nil l).symm ▸ hm⟩
  | true =>
    refine Returns.bind ((insertAll_returns (rows.map f) hm).imp ?_)
    rintro _ m' ⟨cells, hcells, hm'⟩
    exact returns_pure ⟨rfl, cells, hcells.trans (List.map_map ..), hm'⟩

theorem addIdsToList_returns {lookup : Lookup} (hm : m.Has l ls) :
    Returns (addIdsToList al env db lookup) m fun code m' =>
      code = codeOf (idsOf env db lookup) ∧ ∃ cells,
        cells.map Prod.snd = (rowsIn (idsOf env db lookup)).map (some ∘ .number) ∧
          m'.Has (l ++ cells) ls := by
  cases lookup with
  | none => exact returns_pure ⟨rfl, [], rfl, (List.append_nil l).symm ▸ hm⟩
  | some qg => exact ailsaArgumentQuery_returns hm

/-! ## Replacing an element -/

/-- An element is replaced by a copy of one of a list beside it. -/
theorem replaceElement_returns {fail : AilsaError} {a : A} {p q : Option A} {d : AilsaData}
    (hm : m.Has bs ls) (ha : m.heap a = some ⟨p, q, some d⟩) (hi : i < bs.length)
    (hlen : 1 < bs.length) (hp : i = 0 → p = none) (hq : i + 1 = bs.length → q = none) :
    Modifies (.ok (), [(i, d)]) (replaceElement al fail (some a) i) m bs ls := by
  obtain ⟨l₁, c, l₂, rfl, rfl⟩ := exists_split_at hi
  have hends : l₁ ≠ [] ∨ l₂ ≠ [] := by
    by_contra h
    obtain ⟨rfl, rfl⟩ := not_or.mp h |>.imp not_not.mp not_not.mp
    exact absurd hlen (by simp)
  have hrun := cmdbReplaceDataElement_run al hm hends ha
    (fun h => hp (by rw [h, List.length_nil])) fun h => hq (by rw [h, List.length_append]; rfl)
  refine Returns.bind ⟨0, _, hrun, ?_⟩
  exact returns_pure ⟨rfl, _, replaced_singleton, hm.replaced (hm.fresh al) _⟩

omit [DecidableEq A] in
/-- The first element of a list beside is linked back to nothing. -/
theorem ListMem.Has.first_cell {a : A} {d : Option AilsaData}
    (hm : m.Has bs (((a, d) :: l) :: ls)) : m.heap a = some ⟨none, first l none, d⟩ :=
  (hm.apart.tail.head).segment.1

omit [DecidableEq A] in
/-- The last element of a list beside is linked to nothing. -/
theorem ListMem.Has.last_cell {a : A} {d : Option AilsaData}
    (hm : m.Has bs ((l ++ [(a, d)]) :: ls)) : m.heap a = some ⟨last none l, none, d⟩ :=
  (segment_append.mp (hm.apart.tail.head).segment).2.1

/-- The outcome of an option : its code, and the values it puts. -/
def outcomeOf (found : Except AilsaError Replacements) : Code × Replacements :=
  (codeOf found, rowsIn found)

/-- The end of an option cleans its list. -/
theorem Modifies.clean {r : Code × Replacements} {p : ListProg A AilsaData Code}
    {cells : List (A × Option AilsaData)} (hp : Modifies r p m bs (cells :: ls)) :
    Modifies r (do
      let retval ← p
      let _ ← onList (ailListOf cells) ailsaListClean
      return retval) m bs ls := by
  refine Returns.bind (hp.imp ?_)
  rintro _ m' ⟨rfl, bs', hbs, hm'⟩
  refine Returns.bind ((onList_clean_returns hm').imp fun _ m'' hm'' => ?_)
  exact returns_pure ⟨rfl, bs', hbs, hm''⟩

/-- A lookup on a list of its own. -/
theorem onList_addIds {lookup : Lookup} (hm : m.Has bs ls) :
    Returns (onList (ailsaListInit true) (addIdsToList al env db lookup)) m fun r m' =>
      ∃ code cells, r = (code, ailListOf cells) ∧ (code = codeOf (idsOf env db lookup) ∧
        cells.map Prod.snd = (rowsIn (idsOf env db lookup)).map (some ∘ .number)) ∧
          m'.Has bs (cells :: ls) := by
  refine onList_returns hm.new fun m' hm' => (addIdsToList_returns hm').imp ?_
  rintro code m'' ⟨hcode, cells, hcells, hm''⟩
  exact ⟨cells, ⟨hcode, hcells⟩, hm''⟩

/-- The first of the ids found is put at the position. -/
theorem replaceFound_returns {fail : AilsaError} {cells : List (A × Option AilsaData)}
    {ids : List ℕ} {position : ℕ} (hm : m.Has bs (cells :: ls))
    (hcells : cells.map Prod.snd = ids.map (some ∘ .number))
    (hpos : position + 1 < bs.length) :
    Modifies (.ok (), firstAt position ids) (replaceFound al fail (ailListOf cells) position)
      m bs (cells :: ls) := by
  cases ids with
  | nil =>
    obtain rfl := List.map_eq_nil_iff.mp hcells
    exact modifies_pure hm _
  | cons id ids =>
    obtain ⟨⟨a, d⟩, cells, rfl, hd, -⟩ := List.map_eq_cons_iff.mp hcells
    obtain rfl : d = some (.number id) := hd
    have htotal : 0 < (ailListOf ((a, some (AilsaData.number id)) :: cells)).total :=
      Nat.succ_pos _
    rw [replaceFound, if_pos htotal]
    exact replaceElement_returns hm hm.first_cell (by omega) (by omega) (fun _ => rfl)
      fun h => absurd h (by omega)

theorem modifyBuildId_returns {lookup : Lookup} {fail : AilsaError} {position : ℕ}
    (hm : m.Has bs ls) (hpos : position + 1 < bs.length) :
    Modifies (outcomeOf (firstAt position <$> idsOf env db lookup))
      (modifyBuildId al env db lookup fail position) m bs ls := by
  refine Returns.bind ((onList_addIds hm).imp ?_)
  rintro _ m' ⟨_, cells, rfl, ⟨rfl, hcells⟩, hm'⟩
  refine Modifies.clean ?_
  cases h : idsOf env db lookup with
  | error e => exact modifies_pure hm' _
  | ok ids =>
    rw [h] at hcells
    exact replaceFound_returns hm' hcells hpos

omit [DecidableEq A] in
/-- A check that one row is put on a list. -/
theorem checkOneMore_returns {α : Type} {notFound : AilsaError} {p : ListProg A AilsaData Code}
    {r : Except AilsaError (List α)} {g : α → Option AilsaData} (hm : m.Has l ls)
    (hp : Returns p m fun code m' => code = codeOf r ∧ ∃ cells,
      cells.map Prod.snd = (rowsIn r).map g ∧ m'.Has (l ++ cells) ls) :
    Returns (checkOneMore notFound p) m fun code m' => code = codeOf (once notFound r) ∧
      ∃ cells, cells.map Prod.snd = (rowsIn r).map g ∧ m'.Has (l ++ cells) ls := by
  obtain ⟨_, m', hrun, rfl, cells, hcells, hm'⟩ := hp
  have hlen : cells.length = (rowsIn r).length := by
    have h := congrArg List.length hcells
    rwa [List.length_map, List.length_map] at h
  have htotal : m.list.total = l.length := by rw [hm.list]; rfl
  have htotal' : m'.list.total = l.length + (rowsIn r).length := by
    rw [hm'.list, ailListOf, List.length_append, hlen]
  rw [checkOneMore]
  refine Returns.bind ⟨_, m, rfl, Returns.bind ⟨_, m', hrun, ?_⟩⟩
  cases r with
  | error e => exact returns_pure ⟨rfl, cells, hcells, hm'⟩
  | ok rows =>
    refine Returns.bind ⟨_, m', rfl, ?_⟩
    dsimp only
    rw [htotal, htotal', rowsIn_ok, once, ok_bind]
    by_cases hone : rows.length = 1
    · rw [if_neg (by rw [hone]; exact not_not.mpr rfl), if_pos hone]
      exact returns_pure ⟨rfl, cells, hcells, hm'⟩
    · rw [if_pos (by omega), if_neg hone]
      exact returns_pure ⟨rfl, cells, hcells, hm'⟩

theorem once_eq_ok {α : Type} {notFound : AilsaError} {r : Except AilsaError (List α)}
    {rows : List α} : once notFound r = .ok rows ↔ r = .ok rows ∧ rows.length = 1 := by
  cases r with
  | error e => exact iff_of_false nofun (fun h => nomatch h.1)
  | ok rows' =>
    rw [once, ok_bind]
    split_ifs with h
    · rw [Except.ok.injEq]
      exact ⟨fun heq => ⟨heq, heq ▸ h⟩, And.left⟩
    · refine iff_of_false nofun fun hr => h ?_
      rw [Except.ok.inj hr.1]
      exact hr.2

theorem ailsaModifyBuildVarient_returns {varient : CStr} (hm : m.Has bs ls)
    (hlen : 1 < bs.length) :
    Modifies (outcomeOf (varientFound env db varient)) (ailsaModifyBuildVarient al env db varient)
      m bs ls := by
  let ids := idsOf env db (varientLookup (some varient))
  have hadd : Returns (onList (ailsaListInit true) (cmdbCheckAddVarientIdToList al env db varient))
      m fun r m' => ∃ code cells, r = (code, ailListOf cells) ∧
        (code = codeOf (once .varientNotFound ids) ∧
          cells.map Prod.snd = (rowsIn ids).map (some ∘ .number)) ∧
            m'.Has bs (cells :: ls) := by
    refine onList_returns hm.new fun m' hm' => ?_
    refine (checkOneMore_returns hm' (addIdsToList_returns hm')).imp ?_
    rintro code m'' ⟨hcode, cells, hcells, hm''⟩
    exact ⟨cells, ⟨hcode, hcells⟩, hm''⟩
  refine Returns.bind (hadd.imp ?_)
  rintro _ m' ⟨_, cells, rfl, ⟨rfl, hcells⟩, hm'⟩
  refine Modifies.clean ?_
  rw [varientFound]
  cases h : once .varientNotFound ids with
  | error e => exact modifies_pure hm' _
  | ok rows =>
    obtain ⟨hids, hone⟩ := once_eq_ok.mp h
    obtain ⟨id, rfl⟩ := List.length_eq_one_iff.mp hone
    rw [hids] at hcells
    obtain ⟨⟨a, d⟩, rfl, hd⟩ := List.map_eq_singleton_iff.mp hcells
    obtain rfl : d = some (.number id) := hd
    exact replaceElement_returns hm' hm'.first_cell (by omega) hlen (fun _ => rfl) fun _ => rfl

/-- The list of the server and the device. -/
theorem addServerAndDevice_returns {netdev server : CStr} (hm : m.Has [] ls) :
    Returns (addServerAndDevice al env db netdev server) m fun code m' => ∃ cells,
      (code = codeOf (serverFound env db server) ∧ ∀ ids, serverFound env db server = .ok ids →
        cells.map Prod.snd = (macArgs ids netdev).map some) ∧ m'.Has cells ls := by
  have hquery : Returns (ailsaArgumentQuery al env .serverIdOnName
      ((db.serverIds (arg server)).map .number)) m _ := ailsaArgumentQuery_returns hm
  refine Returns.bind ((checkOneMore_returns hm hquery).imp ?_)
  rintro _ m' ⟨rfl, cells, hcells, hm'⟩
  rw [← serverFound]
  cases h : serverFound env db server with
  | error e => exact returns_pure ⟨cells, ⟨rfl, nofun⟩, hm'⟩
  | ok ids =>
    refine Returns.bind ((insertAll_returns _ hm').imp ?_)
    rintro _ m'' ⟨cells', hcells', hm''⟩
    refine returns_pure ⟨cells ++ cells', ⟨rfl, ?_⟩, hm''⟩
    rintro _ ⟨⟩
    rw [(once_eq_ok.mp h).1] at hcells
    rw [List.map_append, hcells, hcells', macArgs, List.map_append, List.map_map]
    rfl

/-- The end of the option for the device cleans two lists. -/
theorem Modifies.clean_two {r : Code × Replacements} {p : ListProg A AilsaData Code}
    {cells macs : List (A × Option AilsaData)} (hp : Modifies r p m bs (macs :: cells :: ls)) :
    Modifies r (do
      let retval ← p
      let _ ← onList (ailListOf cells) ailsaListClean
      let _ ← onList (ailListOf macs) ailsaListClean
      return retval) m bs ls := by
  refine Returns.bind (hp.imp ?_)
  rintro _ m₁ ⟨rfl, bs', hbs, hm₁⟩
  refine Returns.bind ((onList_clean_returns hm₁.swap).imp fun _ m₂ hm₂ => ?_)
  refine Returns.bind ((onList_clean_returns hm₂).imp fun _ m₃ hm₃ => ?_)
  exact returns_pure ⟨rfl, bs', hbs, hm₃⟩

/-- The query for the MAC address, with the arguments from the list of `cells`. -/
theorem onList_macAddress {cells : List (A × Option AilsaData)} {ids : List ℕ} {netdev : CStr}
    (hm : m.Has bs (cells :: ls)) (hcells : cells.map Prod.snd = (macArgs ids netdev).map some)
    (hone : ids.length = 1) :
    Returns (onList (ailsaListInit true) (do
      let args ← dataFrom 2 (ailListOf cells).head
      ailsaArgumentQuery al env .macAddressForBuild ((db.macAddresses args).map .text))) m
      fun r m' => ∃ code macs, r = (code, ailListOf macs) ∧
        (code = codeOf (rowsOf env .macAddressForBuild (db.macAddresses (macArgs ids netdev))) ∧
          macs.map Prod.snd = (rowsIn (rowsOf env .macAddressForBuild
            (db.macAddresses (macArgs ids netdev)))).map (some ∘ .text)) ∧
          m'.Has bs (macs :: cells :: ls) := by
  refine onList_returns hm.new fun m' hm' => ?_
  have hseg : Segment m'.heap none (cells ++ []) none :=
    (List.append_nil cells).symm ▸ hm'.apart.tail.tail.head.segment
  have hlen : (macArgs ids netdev).length = 2 := by
    rw [macArgs, List.length_append, List.length_map, hone]
    rfl
  have hargs := dataFrom_run hseg hcells
  rw [hlen, List.append_nil] at hargs
  refine Returns.bind ⟨_, m', hargs, (ailsaArgumentQuery_returns hm').imp ?_⟩
  rintro code m'' ⟨hcode, macs, hmacs, hm''⟩
  exact ⟨macs, ⟨hcode, hmacs⟩, hm''⟩

/-- The device is the last element of its list, and the MAC address the first. -/
theorem replaceDevice_returns {cells macs : List (A × Option AilsaData)} {ids : List ℕ}
    {netdev : CStr} {rows : List CStr} (hm : m.Has bs (macs :: cells :: ls))
    (hlen : bs.length = 7) (hcells : cells.map Prod.snd = (macArgs ids netdev).map some)
    (hmacs : macs.map Prod.snd = rows.map (some ∘ .text)) :
    Modifies (.ok (), deviceAt netdev rows) (do
      if 0 < (ailListOf macs).total then
        let retval ← replaceElement al .noData (ailListOf cells).tail 6
        orFail retval (replaceElement al .noData (ailListOf macs).head 5)
      else
        return .ok ()) m bs (macs :: cells :: ls) := by
  cases rows with
  | nil =>
    obtain rfl := List.map_eq_nil_iff.mp hmacs
    exact modifies_pure hm _
  | cons mac rows =>
    obtain ⟨⟨a, d⟩, macs, rfl, hd, -⟩ := List.map_eq_cons_iff.mp hmacs
    obtain rfl : d = some (.text mac) := hd
    rw [macArgs, List.map_append, List.map_singleton] at hcells
    obtain ⟨front, back, rfl, -, hback⟩ := List.map_eq_append_iff.mp hcells
    obtain ⟨⟨b, d⟩, rfl, hd⟩ := List.map_eq_singleton_iff.mp hback
    obtain rfl : d = some (.text (arg netdev)) := hd
    have htotal : 0 < (ailListOf ((a, some (AilsaData.text mac)) :: macs)).total := Nat.succ_pos _
    have htail : (ailListOf (front ++ [(b, some (AilsaData.text (arg netdev)))])).tail =
        some b := last_append
    rw [if_pos htotal, htail]
    have hdevice : Modifies (.ok (), [(6, .text (arg netdev))])
        (replaceElement al .noData (some b) 6) m bs _ :=
      replaceElement_returns hm hm.swap.last_cell (by omega) (by omega)
        (fun h => absurd h (by omega)) fun _ => rfl
    refine Returns.bind (hdevice.imp ?_)
    rintro _ m' ⟨rfl, bs', hbs, hm'⟩
    have hlen' : bs'.length = 7 := hbs.length_eq.trans hlen
    have hmac : Modifies (.ok (), [(5, .text mac)])
        (replaceElement al .noData (some a) 5) m' bs' _ :=
      replaceElement_returns hm' hm'.first_cell (by omega) (by omega) (fun _ => rfl)
        fun h => absurd h (by omega)
    refine hmac.imp ?_
    rintro _ m'' ⟨rfl, bs'', hbs', hm''⟩
    exact ⟨rfl, bs'', hbs.trans hbs' (by simp), hm''⟩

theorem ailsaModifyBuildNetcard_returns {netdev server : CStr} (hm : m.Has bs ls)
    (hlen : bs.length = 7) :
    Modifies (outcomeOf (netcardFound env db netdev server))
      (ailsaModifyBuildNetcard al env db netdev server) m bs ls := by
  have hadd : Returns (onList (ailsaListInit true) (addServerAndDevice al env db netdev server)) m
      fun r m' => ∃ code cells, r = (code, ailListOf cells) ∧
        (code = codeOf (serverFound env db server) ∧
          ∀ ids, serverFound env db server = .ok ids →
            cells.map Prod.snd = (macArgs ids netdev).map some) ∧ m'.Has bs (cells :: ls) :=
    onList_returns hm.new fun m' hm' => addServerAndDevice_returns hm'
  refine Returns.bind (hadd.imp ?_)
  rintro _ m₁ ⟨_, cells, rfl, ⟨rfl, hcells⟩, hm₁⟩
  dsimp only
  rw [netcardFound]
  cases h : serverFound env db server with
  | error e =>
    have hstop : Modifies (.error e, []) (pure (.error e)) m₁ bs ([] :: cells :: ls) :=
      modifies_pure hm₁.new _
    exact Returns.bind ⟨(.error e, ailListOf []), m₁, rfl, hstop.clean_two⟩
  | ok ids =>
    have hone := (once_eq_ok.mp h).2
    refine Returns.bind ((onList_macAddress hm₁ (hcells ids h) hone).imp ?_)
    rintro _ m₂ ⟨_, macs, rfl, ⟨rfl, hmacs⟩, hm₂⟩
    refine Modifies.clean_two ?_
    rw [ok_bind]
    cases hrows : rowsOf env .macAddressForBuild (db.macAddresses (macArgs ids netdev)) with
    | error e => exact modifies_pure hm₂ _
    | ok rows =>
      rw [hrows] at hmacs
      exact replaceDevice_returns hm₂ hlen (hcells ids h) hmacs

/-- The list has seven elements, and the id of the OS in the second. -/
structure Details (osId : ℕ) (bs : List (A × Option AilsaData)) : Prop where
  length_eq : bs.length = 7
  os : (bs[1]?).map Prod.snd = some (some (.number osId))

omit [DecidableEq A] in
theorem Details.replaced {osId : ℕ} (hbs : Details osId l) (h : Replaced l l' rs)
    (hos : 1 ∉ rs.map Prod.fst) : Details osId l' :=
  ⟨h.length_eq.trans hbs.length_eq, by rw [h.kept 1 hos, hbs.os]⟩

theorem ailsaModifyBuildOs_returns {os : OsNames} {osId : ℕ} (hm : m.Has bs ls)
    (hbs : Details osId bs) :
    Modifies (outcomeOf (osFound env db osId os)) (ailsaModifyBuildOs al env db os) m bs ls := by
  obtain ⟨hlen, hos⟩ := hbs
  obtain ⟨c, ⟨a, d⟩, rest, rfl⟩ : ∃ c c' rest, bs = c :: c' :: rest :=
    match bs, hlen with
    | c :: c' :: rest, _ => ⟨c, c', rest, rfl⟩
  obtain rfl : d = some (.number osId) := Option.some.inj hos
  have hseg := hm.holds.segment
  have hhead : m.list.head = some c.1 := by rw [hm.list]; rfl
  have hpos : 1 + 1 < (c :: (a, some (AilsaData.number osId)) :: rest).length := by omega
  refine Returns.bind ⟨_, m, rfl, ?_⟩
  dsimp only
  rw [hhead]
  refine Returns.bind ⟨_, m, deref_run hseg.1, Returns.bind ⟨_, m, deref_run hseg.2.1, ?_⟩⟩
  have hfull : Returns (if os.Partial then do
        let d ← dataOf (some (AilsaData.number osId))
        let osId ← numberOf d
        return cmdbGetFullOs env db os osId
      else return .ok os : ListProg A AilsaData (Except AilsaError OsNames)) m fun full m' =>
        full = fullOs env db osId os ∧ m' = m := by
    rw [fullOs]
    split_ifs
    · exact ⟨_, m, rfl, rfl, rfl⟩
    · exact returns_pure ⟨rfl, rfl⟩
  refine Returns.bind (hfull.imp ?_)
  rintro _ _ ⟨rfl, rfl⟩
  rw [osFound]
  cases fullOs env db osId os with
  | error e => exact modifies_pure hm _
  | ok os => exact modifyBuildId_returns hm hpos

/-! ## Positions -/

/-- The values found are for these positions. -/
def PositionsIn (ps : List ℕ) (found : Except AilsaError Replacements) : Prop :=
  ∀ i ∈ (rowsIn found).map Prod.fst, i ∈ ps

/-- The positions of the options. -/
def optionPositions : List (List ℕ) := [[0], [4], [3], [6, 5], [1]]

theorem positionsIn_firstAt (position : ℕ) (ids : Except AilsaError (List ℕ)) :
    PositionsIn [position] (firstAt position <$> ids) := by
  rcases ids with e | _ | ⟨id, ids⟩
  · nofun
  · nofun
  · exact fun i hi => hi

theorem positionsIn_netcardFound (netdev server : CStr) :
    PositionsIn [6, 5] (netcardFound env db netdev server) := by
  rw [netcardFound]
  cases serverFound env db server with
  | error e => nofun
  | ok ids =>
    rw [ok_bind]
    rcases rowsOf env .macAddressForBuild (db.macAddresses (macArgs ids netdev)) with
      e | _ | ⟨mac, macs⟩
    · nofun
    · nofun
    · exact fun i hi => hi

theorem positionsIn_osFound (osId : ℕ) (os : OsNames) :
    PositionsIn [1] (osFound env db osId os) := by
  rw [osFound]
  cases fullOs env db osId os with
  | error e => nofun
  | ok os => exact positionsIn_firstAt 1 _

theorem optionsFound_positions (cml : CbcCommLine) (osId : ℕ) :
    List.Forall₂ (fun f ps => ∀ r, f = some r → PositionsIn ps r)
      (optionsFound env db cml osId) optionPositions := by
  have hmap {α : Type} {ps : List ℕ} {option : Option α}
      {found : α → Except AilsaError Replacements} (h : ∀ a, PositionsIn ps (found a)) :
      ∀ r, option.map found = some r → PositionsIn ps r := by
    rintro r hr
    obtain ⟨a, -, rfl⟩ := Option.map_eq_some_iff.mp hr
    exact h a
  exact .cons (hmap fun _ => positionsIn_firstAt 0 _) <| .cons
    (hmap fun _ => positionsIn_firstAt 4 _) <| .cons (hmap fun _ => positionsIn_firstAt 3 _) <|
    .cons (hmap fun _ => positionsIn_netcardFound _ _) <|
    .cons (hmap fun _ => positionsIn_osFound _ _) .nil

/-- The values are for the positions of the options. -/
theorem modifications_positions : ∀ {found : List (Option (Except AilsaError Replacements))}
    {pss : List (List ℕ)} (retval : Code),
    List.Forall₂ (fun f ps => ∀ r, f = some r → PositionsIn ps r) found pss →
      ∀ i ∈ (modifications retval found).2.map Prod.fst, i ∈ pss.flatten
  | [], _, _, _, i, hi => by cases hi
  | none :: found, _, retval, .cons _ h, i, hi =>
    List.mem_append_right _ (modifications_positions retval h i hi)
  | some (.error e) :: found, _, _, _, i, hi => by cases hi
  | some (.ok rs) :: found, _, _, .cons hf h, i, hi => by
    rw [modifications, List.map_append, List.mem_append] at hi
    rw [List.flatten_cons, List.mem_append]
    exact hi.imp (hf _ rfl i) (modifications_positions (.ok ()) h i)

/-! ## All options -/

omit [DecidableEq A] in
/-- An option, and then the rest on the list it leaves. -/
theorem onOption_returns {α : Type} {option : Option α} {f : α → ListProg A AilsaData Code}
    {found : α → Except AilsaError Replacements} {retval : Code}
    {rest : Code → ListProg A AilsaData Code}
    {others : List (Option (Except AilsaError Replacements))} {ps : List ℕ} {pss : List (List ℕ)}
    {P : List (A × Option AilsaData) → Prop} (hm : m.Has bs ls) (hbs : P bs)
    (hf : ∀ a, Modifies (outcomeOf (found a)) (f a) m bs ls)
    (hpos : List.Forall₂ (fun f ps => ∀ r, f = some r → PositionsIn ps r)
      (option.map found :: others) (ps :: pss))
    (hdisj : ∀ i ∈ ps, i ∉ pss.flatten)
    (hkeep : ∀ rs bs', (∀ i ∈ rs.map Prod.fst, i ∈ ps) → Replaced bs bs' rs → P bs')
    (hrest : ∀ retval m' bs', m'.Has bs' ls → P bs' →
      Modifies (modifications retval others) (rest retval) m' bs' ls) :
    Modifies (modifications retval (option.map found :: others)) (onOption option f retval rest)
      m bs ls := by
  cases option with
  | none => exact hrest retval m bs hm hbs
  | some a =>
    have hf := hf a
    obtain ⟨hps, hpos⟩ := List.forall₂_cons.mp hpos
    have hps := hps _ rfl
    refine Returns.bind ?_
    rw [Option.map_some]
    cases h : found a with
    | error e =>
      rw [h] at hf
      refine hf.imp ?_
      rintro _ m' ⟨rfl, h'⟩
      exact returns_pure ⟨rfl, h'⟩
    | ok rs =>
      rw [h] at hf hps
      refine hf.imp ?_
      rintro _ m' ⟨rfl, bs', hbs', hm'⟩
      refine (hrest (.ok ()) m' bs' hm' (hkeep rs bs' hps hbs')).imp ?_
      rintro _ m'' ⟨rfl, bs'', hbs'', hm''⟩
      refine ⟨rfl, bs'', hbs'.trans hbs'' fun i hi hi' => ?_, hm''⟩
      exact hdisj i (hps i hi) (modifications_positions _ hpos i hi')

/-- The function on every list of details, with the other lists beside it. -/
theorem ailsaGetModifiedBuild_returns {cml : CbcCommLine} {osId : ℕ} (hm : m.Has bs ls)
    (hbs : Details osId bs) :
    Modifies (modifications (.error .minusOne) (optionsFound env db cml osId))
      (ailsaGetModifiedBuild al env db cml) m bs ls := by
  have hpos : List.Forall₂ _ (optionsFound env db cml osId) _ := optionsFound_positions cml osId
  have hpos₁ := (List.forall₂_cons.mp hpos).2
  have hpos₂ := (List.forall₂_cons.mp hpos₁).2
  have hpos₃ := (List.forall₂_cons.mp hpos₂).2
  have hpos₄ := (List.forall₂_cons.mp hpos₃).2
  -- only the last of the options is for the OS
  have hkeep {ps : List ℕ} (hps : 1 ∉ ps) {l : List (A × Option AilsaData)} (hl : Details osId l) :
      ∀ rs l', (∀ i ∈ rs.map Prod.fst, i ∈ ps) → Replaced l l' rs → Details osId l' :=
    fun rs l' hrs hl' => hl.replaced hl' fun h => hps (hrs 1 h)
  refine onOption_returns hm hbs (fun _ => ailsaModifyBuildVarient_returns hm ?_) hpos (by decide)
    (hkeep (by decide) hbs) fun retval m₁ bs₁ hm₁ hbs₁ => ?_
  · have := hbs.length_eq
    omega
  refine onOption_returns hm₁ hbs₁ (fun _ => modifyBuildId_returns hm₁ ?_) hpos₁ (by decide)
    (hkeep (by decide) hbs₁) fun retval m₂ bs₂ hm₂ hbs₂ => ?_
  · have := hbs₁.length_eq
    omega
  refine onOption_returns hm₂ hbs₂ (fun _ => modifyBuildId_returns hm₂ ?_) hpos₂ (by decide)
    (hkeep (by decide) hbs₂) fun retval m₃ bs₃ hm₃ hbs₃ => ?_
  · have := hbs₂.length_eq
    omega
  refine onOption_returns hm₃ hbs₃ (fun _ => ailsaModifyBuildNetcard_returns hm₃ hbs₃.length_eq)
    hpos₃ (by decide) (hkeep (by decide) hbs₃) fun retval m₄ bs₄ hm₄ hbs₄ => ?_
  exact onOption_returns (P := fun _ => True) hm₄ trivial
    (fun _ => ailsaModifyBuildOs_returns hm₄ hbs₄) hpos₄ (by decide) (fun _ _ _ _ => trivial)
    fun retval m₅ bs₅ hm₅ _ => modifies_pure hm₅ retval

omit [DecidableEq A] in
theorem details_of_build {b : Build} (hbs : bs.map Prod.snd = (buildDetails b).map some) :
    Details b.osId bs := by
  refine ⟨?_, ?_⟩
  · have h := congrArg List.length hbs
    rwa [List.length_map] at h
  · rw [← List.getElem?_map, hbs]
    rfl

/-- The options, up to the first one that ends in an error, put what they find in its places
in the details of a build, keep every other element, the one for the address among them, and
leave the list well formed. The code is that error, `-1` if no option is given, or else `0`. -/
theorem ailsaGetModifiedBuild_replaces (al : Allocator A (Option AilsaData)) (env : CbcEnv)
    (db : BuildDb) (cml : CbcCommLine) {b : Build} (hm : m.Has bs ls)
    (hbs : bs.map Prod.snd = (buildDetails b).map some) :
    ∃ m' bs', ailsaGetModifiedBuild al env db cml m =
        (.ok (modifications (.error .minusOne) (optionsFound env db cml b.osId)).1, m') ∧
      Replaced bs bs' (modifications (.error .minusOne) (optionsFound env db cml b.osId)).2 ∧
      bs'[2]? = bs[2]? ∧ m'.list.total = 7 ∧ m'.WellFormed bs' := by
  have hdetails := details_of_build hbs
  have hmodifies : Modifies (modifications (.error .minusOne) (optionsFound env db cml b.osId))
      (ailsaGetModifiedBuild al env db cml) m bs ls := ailsaGetModifiedBuild_returns hm hdetails
  obtain ⟨_, m', hrun, rfl, bs', hbs', hm'⟩ := hmodifies
  refine ⟨m', bs', hrun, hbs', hbs'.kept 2 fun h => ?_, ?_, hm'.holds.wellFormed⟩
  · have hpos := modifications_positions _ (optionsFound_positions cml b.osId) 2 h
    exact absurd hpos (by decide)
  · rw [hm'.list]
    exact hbs'.length_eq.trans hdetails.length_eq

/-- Without an error these are the values of all the options that are given. -/
theorem modifications_of_forall_ok : ∀ {found : List (Option (Except AilsaError Replacements))}
    (retval : Code), (∀ r, some r ∈ found → ∃ rs, r = .ok rs) →
      (modifications retval found).2 = found.flatMap fun f => (f.map rowsIn).getD []
  | [], _, _ => rfl
  | none :: found, retval, h => by
    rw [modifications, List.flatMap_cons,
      modifications_of_forall_ok _ fun r hr => h r (List.mem_cons_of_mem _ hr)]
    rfl
  | some r :: found, _, h => by
    obtain ⟨rs, rfl⟩ := h r (List.mem_cons_self ..)
    rw [modifications, List.flatMap_cons,
      modifications_of_forall_ok _ fun r hr => h r (List.mem_cons_of_mem _ hr)]
    rfl

/-- All options put what they find in its places, whatever the others find. -/
def ReplacesAll (al : Allocator A (Option AilsaData)) (env : CbcEnv) (db : BuildDb)
    (cml : CbcCommLine) (b : Build) (m : ListMem A AilsaData)
    (bs : List (A × Option AilsaData)) : Prop :=
  ∃ code m' bs', ailsaGetModifiedBuild al env db cml m = (.ok code, m') ∧
    Replaced bs bs' ((optionsFound env db cml b.osId).flatMap fun f => (f.map rowsIn).getD []) ∧
    m'.list.total = 7 ∧ m'.WellFormed bs'

/-- The details of a build with the locale `3`, at the addresses `1` to `7`. -/
def sampleBuild : Build := ⟨1, 1, "eth0".toList, "52:54".toList, 1, 1, 3, 1, 1⟩

def sampleDetails : List (ℕ × Option AilsaData) :=
  (buildDetails sampleBuild).zipIdx.map fun d => (d.2 + 1, some d.1)

def sampleMem : ListMem ℕ AilsaData := ⟨heapOf none sampleDetails, ailListOf sampleDetails, []⟩

/-- A locale `5`, and no varient. -/
def sampleTables : BuildDb := { emptyWorld.build with locales := [⟨5, "fr_FR".toList⟩] }

/-- The options for a varient and a locale. -/
def sampleModify : CbcCommLine where
  name := "web".toList
  partition := none
  varient := some "none".toList
  os := none
  osVersion := none
  buildDomain := none
  arch := none
  netcard := none
  harddisk := []
  locale := some "fr_FR".toList

theorem has_sampleMem : sampleMem.Has sampleDetails [] := ⟨rfl, apart_heapOf (by decide)⟩

/-- The locale is found, and the varient is not. -/
theorem sample_found : optionsFound allOk sampleTables sampleModify 1 =
    [some (.error .varientNotFound), none, some (.ok [(3, .number 5)]), none, none] := by
  decide +kernel

theorem ailsaGetModifiedBuild_replaces_sample :
    ∃ m' bs', ailsaGetModifiedBuild freeAddress allOk sampleTables sampleModify sampleMem =
        (.ok (.error .varientNotFound), m') ∧ Replaced sampleDetails bs' [] ∧
      m'.list.total = 7 ∧ m'.WellFormed bs' := by
  obtain ⟨m', bs', hrun, hbs', -, hm'⟩ := ailsaGetModifiedBuild_replaces freeAddress allOk
    sampleTables sampleModify has_sampleMem (b := sampleBuild) (by decide)
  rw [show sampleBuild.osId = 1 from rfl, sample_found] at hrun hbs'
  exact ⟨m', bs', hrun, hbs', hm'⟩

/-- A varient that is not there keeps a locale that is from its place. -/
theorem not_replacesAll :
    ¬ReplacesAll freeAddress allOk sampleTables sampleModify sampleBuild sampleMem
      sampleDetails := by
  rintro ⟨code, m', bs', hrun, hbs', -, hw⟩
  have hsample : Modifies (modifications (.error .minusOne)
      (optionsFound allOk sampleTables sampleModify sampleBuild.osId))
      (ailsaGetModifiedBuild freeAddress allOk sampleTables sampleModify) sampleMem
      sampleDetails [] :=
    ailsaGetModifiedBuild_returns has_sampleMem (details_of_build (by decide))
  obtain ⟨_, m₁, hrun₁, -, bs₁, hbs₁, hm₁⟩ := hsample
  obtain ⟨-, rfl⟩ := Prod.mk.inj (hrun.symm.trans hrun₁)
  obtain rfl : bs' = bs₁ := hw.unique hm₁.holds.wellFormed
  rw [show sampleBuild.osId = 1 from rfl, sample_found] at hbs' hbs₁
  have hnew := hbs'.put (3, .number 5) (by decide)
  rw [hbs₁.kept 3 (by decide)] at hnew
  exact absurd hnew (by decide)

end Cmdb
