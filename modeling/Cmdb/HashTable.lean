import Cmdb.AilHash
import Cmdb.History

/-!
# The hash table as a map

A table with a hash function, a comparison of keys and buckets stands for the entries that
were inserted and not removed since. An insert goes to the front of its bucket with
`ailsa_list_ins_next(.., NULL, ..)`, which fails in a bucket that is not empty, and a removal
hands on the element before the one it found, which is `NULL` for the first. So a bucket
never has a second element, and nothing is ever removed : `ailHash_map_iff` says which runs
do not come to either.
-/

namespace Cmdb

open DoublyLinked History

variable {A D K : Type} [DecidableEq A] [DecidableEq K]

/-! ## Entries -/

/-- The live entry with a key. -/
def entry (keyOf : D → K) (live : List D) (key : K) : Option D :=
  live.find? fun d => keyOf d = key

/-- A call on a table, `new` the address of the node it makes. -/
inductive HashOp (A D : Type)
  | insert (new : A) (data : D)
  | remove (data : D)
deriving DecidableEq, Repr

namespace HashOp

variable (keyOf : D → K) (turns : ℕ)

def run : HashOp A D → HashProg A D K ℤ
  | insert new data => ailsaHashInsert turns new (some data) (keyOf data)
  | remove data => do
    let (retval, _) ← ailsaHashRemove turns (some data) (keyOf data)
    return retval

/-- The call changes the map : a new key is inserted, or a live one removed. -/
def Takes (live : List D) : HashOp A D → Prop
  | insert _ data => entry keyOf live (keyOf data) = none
  | remove data => entry keyOf live (keyOf data) ≠ none

/-- What the call does to the map. -/
def spec (live : List D) : HashOp A D → List D
  | insert _ data => if (entry keyOf live (keyOf data)).isNone then live ++ [data] else live
  | remove data => live.filter fun d => keyOf d ≠ keyOf data

end HashOp

/-! ## Runs -/

/-- A table in memory, and the live entries. -/
abbrev HashState (A D K : Type) := HashMem A D K × List D

/-- The size is that of the map, and every key is looked up as in the map. -/
structure HashMem.Agrees (s : HashMem A D K) (keyOf : D → K) (turns : ℕ) (live : List D) :
    Prop where
  size_eq : s.hash.size = live.length
  lookup : ∀ d, (ailsaHashLookup turns (some d) (keyOf d) s).1 =
    .ok (match entry keyOf live (keyOf d) with
      | some e => (0, some e)
      | none => (-1, some d))

/-- The bucket of an entry. -/
def HashMem.slot (s : HashMem A D K) (keyOf : D → K) (d : D) : ℕ :=
  s.hash.h (keyOf d) % s.hash.buckets

namespace HashOp

variable (keyOf : D → K) (turns : ℕ)

def step (s : HashState A D K) (op : HashOp A D) : HashState A D K :=
  ((op.run keyOf turns s.1).2, op.spec keyOf s.2)

/-- The node that is made is new. -/
def Valid (s : HashState A D K) : HashOp A D → Prop
  | insert new _ => s.1.heap new = none
  | remove _ => True

/-- The call returns, with `0` exactly if it changes the map, which the table agrees with
after it, and otherwise nothing is changed. -/
structure StepRight (s : HashState A D K) (op : HashOp A D) : Prop where
  returns : ∃ retval, (op.run keyOf turns s.1).1 = .ok retval ∧ (retval = 0 ↔ op.Takes keyOf s.2)
  agrees : (step keyOf turns s op).1.Agrees keyOf turns (step keyOf turns s op).2
  refused : ¬op.Takes keyOf s.2 → (step keyOf turns s op).1 = s.1

/-- A new key is inserted in an empty bucket, and no live key is removed. -/
def Fits (s : HashState A D K) : HashOp A D → Prop
  | insert _ data => entry keyOf s.2 (keyOf data) = none →
    ∀ e ∈ s.2, s.1.slot keyOf e ≠ s.1.slot keyOf data
  | remove data => entry keyOf s.2 (keyOf data) = none

end HashOp

/-! ## Buckets of one element -/

/-- Every bucket is a list of the entries that belong there, and there is at most one. -/
structure HashMem.Keeps (s : HashMem A D K) (keyOf : D → K) (live : List D) : Prop where
  buckets_pos : 0 < s.hash.buckets
  compares : ∀ d e, s.hash.matchKeys (some d) (some e) = true ↔ keyOf d = keyOf e
  size_eq : s.hash.size = live.length
  chain : ∀ i, ∃ l, (s.bucket i).Holds l ∧ l.length ≤ 1 ∧
    l.map Prod.snd = (live.filter fun d => s.slot keyOf d = i).map some

variable {s : HashMem A D K} {keyOf : D → K} {live : List D} {turns : ℕ} {d : D} {new : A}
  {m : ListMem A D} {l : List (A × Option D)} {p : Option A} {data : Option D}

omit [DecidableEq A] in
/-- The loop of a look-up finds the first element of the bucket that matches. -/
theorem lookupLoop_run (matchKeys : Option D → Option D → Bool) :
    ∀ {l : List (A × Option D)} {p : Option A} {turns : ℕ}, Segment m.heap p l none →
      l.length < turns → lookupLoop matchKeys turns (first l none) data m =
        (.ok (match (l.map Prod.snd).find? (matchKeys data) with
          | some e => (0, e)
          | none => (-1, data)), m)
  | [], _, _ + 1, _, _ => rfl
  | c :: l, _, turns + 1, hs, hlen => by
    have ih := lookupLoop_run matchKeys hs.2 (Nat.lt_of_succ_lt_succ hlen)
    rw [first_cons, lookupLoop, deref_bind hs.1, List.map_cons]
    by_cases hmatch : matchKeys data c.2 = true
    · rw [if_pos hmatch, List.find?_cons_of_pos hmatch]
      rfl
    · rw [if_neg hmatch, List.find?_cons_of_neg hmatch]
      exact ih

omit [DecidableEq A] [DecidableEq K] in
theorem bucketOf_bind {α : Type} (hs : s.Keeps keyOf live) (d : D) (f : ℕ → HashProg A D K α) :
    (bucketOf (keyOf d) >>= f) s = f (s.slot keyOf d) s := by
  have hrun : bucketOf (keyOf d) s = (.ok (s.slot keyOf d), s) := by
    rw [bucketOf, Prog.reads_run, if_neg (Nat.ne_of_gt hs.buckets_pos)]
    rfl
  exact Prog.bind_run_ok hrun f

omit [DecidableEq A] in
/-- The first element of the bucket of a key that matches is the live entry of the key. -/
theorem HashMem.Keeps.find_chain (hs : s.Keeps keyOf live)
    (hdata : l.map Prod.snd = (live.filter fun e => s.slot keyOf e = s.slot keyOf d).map some) :
    (l.map Prod.snd).find? (s.hash.matchKeys (some d)) = (entry keyOf live (keyOf d)).map some := by
  rw [hdata, List.find?_map, List.find?_filter, entry]
  refine congrArg (Option.map some) (congrArg (List.find? · live) (funext fun e => ?_))
  have hmatch := hs.compares d e
  have hslot : keyOf e = keyOf d → s.slot keyOf e = s.slot keyOf d := fun heq => by
    rw [HashMem.slot, heq, HashMem.slot]
  rw [Bool.eq_iff_iff]
  simp only [Function.comp_apply, decide_eq_true_eq, hmatch]
  constructor
  · exact fun h => h.2.symm
  · exact fun h => ⟨hslot h, h.symm⟩

omit [DecidableEq A] in
theorem ailsaHashLookup_run (hs : s.Keeps keyOf live) (hturns : 2 ≤ turns) (d : D) :
    ailsaHashLookup turns (some d) (keyOf d) s = (.ok (match entry keyOf live (keyOf d) with
      | some e => (0, some e)
      | none => (-1, some d)), s) := by
  obtain ⟨l, hl, hlen, hdata⟩ := hs.chain (s.slot keyOf d)
  have hrun : lookupLoop s.hash.matchKeys turns (first l none) (some d)
      (s.bucket (s.slot keyOf d)) = _ := lookupLoop_run _ hl.segment (by omega)
  rw [hs.find_chain hdata, ← hl.head_eq] at hrun
  rw [ailsaHashLookup, bucketOf_bind hs, getMatch_bind]
  refine (onBucket_unchanged hrun).trans ?_
  cases entry keyOf live (keyOf d) <;> rfl

/-! ## Steps -/

theorem ailsaHashInsert_present {e : D} (hs : s.Keeps keyOf live) (hturns : 2 ≤ turns)
    (he : entry keyOf live (keyOf d) = some e) :
    ailsaHashInsert turns new (some d) (keyOf d) s = (.ok 1, s) := by
  have hlookup := ailsaHashLookup_run hs hturns d
  rw [he] at hlookup
  rw [ailsaHashInsert, Prog.bind_run_ok hlookup]
  rfl

/-- A new entry is the only one of its bucket. -/
def HashMem.inserted (s : HashMem A D K) (i : ℕ) (new : A) (d : D) : HashMem A D K :=
  let t := s.setBucket i ((s.bucket i).linked [] [] new (some d))
  { t with hash := { t.hash with size := s.hash.size + 1 } }

theorem ailsaHashInsert_empty (hs : s.Keeps keyOf live) (hturns : 2 ≤ turns)
    (he : entry keyOf live (keyOf d) = none) (hbucket : (s.bucket (s.slot keyOf d)).Holds []) :
    ailsaHashInsert turns new (some d) (keyOf d) s =
      (.ok 0, s.inserted (s.slot keyOf d) new d) := by
  have hlookup := ailsaHashLookup_run hs hturns d
  rw [he] at hlookup
  rw [ailsaHashInsert, Prog.bind_run_ok hlookup]
  dsimp only
  rw [if_neg (by decide), bucketOf_bind hs,
    Prog.bind_run_ok (onBucket_run (ailsaListInsNext_empty hbucket)), if_pos rfl]
  rfl

omit [DecidableEq K] in
theorem HashMem.Keeps.inserted (hs : s.Keeps keyOf live) (hnew : s.heap new = none)
    (hbucket : (s.bucket (s.slot keyOf d)).Holds [])
    (hempty : ∀ e ∈ live, s.slot keyOf e ≠ s.slot keyOf d) :
    (s.inserted (s.slot keyOf d) new d).Keeps keyOf (live ++ [d]) := by
  refine ⟨hs.buckets_pos, hs.compares, ?_, fun i => ?_⟩
  · rw [List.length_append, List.length_singleton, ← hs.size_eq]
    rfl
  have hfilter : ((live ++ [d]).filter fun e =>
      (s.inserted (s.slot keyOf d) new d).slot keyOf e = i) =
        (live ++ [d]).filter fun e => s.slot keyOf e = i := rfl
  by_cases hi : i = s.slot keyOf d
  · refine ⟨[(new, some d)], ?_, Nat.le_refl _, ?_⟩
    · have hlist : (s.inserted (s.slot keyOf d) new d).bucket i =
          (s.bucket (s.slot keyOf d)).linked [] [] new (some d) := by
        rw [hi]
        simp only [HashMem.inserted, HashMem.bucket, HashMem.setBucket, Function.update_self]
      rw [hlist]
      exact ListMem.Holds.linked_nil hbucket hnew
    · have hnone : live.filter (fun e => s.slot keyOf e = i) = [] := by
        rw [List.filter_eq_nil_iff, hi]
        exact fun e he => by rw [decide_eq_true_eq]; exact hempty e he
      rw [hfilter, List.filter_append, hnone, hi]
      simp
  · obtain ⟨l, hl, hlen, hdata⟩ := hs.chain i
    refine ⟨l, ?_, hlen, ?_⟩
    · have hlist : (s.inserted (s.slot keyOf d) new d).bucket i =
          ⟨link s.heap none none new (some d), s.hash.table i, s.destroyed⟩ := by
        simp only [HashMem.inserted, HashMem.bucket, HashMem.setBucket,
          Function.update_of_ne hi]
        rfl
      rw [hlist]
      refine hl.congr fun a ha => Function.update_of_ne ?_ ..
      rintro rfl
      exact hl.not_mem hnew ha
    · rw [hfilter, List.filter_append, hdata]
      simp [Ne.symm hi]

/-- A bucket takes no second element. -/
theorem ailsaHashInsert_full {c : A × Option D} {l : List (A × Option D)}
    (hs : s.Keeps keyOf live) (hturns : 2 ≤ turns) (he : entry keyOf live (keyOf d) = none)
    (hbucket : (s.bucket (s.slot keyOf d)).Holds (c :: l)) :
    ailsaHashInsert turns new (some d) (keyOf d) s = (.ok (-1), s) := by
  have hlookup := ailsaHashLookup_run hs hturns d
  have htotal := hbucket.total_ne_zero (List.cons_ne_nil c l)
  rw [he] at hlookup
  rw [ailsaHashInsert, Prog.bind_run_ok hlookup]
  dsimp only
  rw [if_neg (by decide), bucketOf_bind hs,
    Prog.bind_run_ok (onBucket_unchanged (ailsaListInsNext_null htotal))]
  rfl

/-- The loop of a removal takes nothing out of a bucket of one element. -/
theorem hashRemoveLoop_run (matchKeys : Option D → Option D → Bool) (hs : Segment m.heap p l none)
    (hlen : l.length ≤ 1) (hturns : 2 ≤ turns) :
    hashRemoveLoop matchKeys turns (first l none) none data m =
      (.ok (if ((l.map Prod.snd).find? (matchKeys data)).isNone then -1 else 1, data), m) := by
  obtain ⟨turns, rfl⟩ := Nat.exists_eq_add_of_le' hturns
  match l, hlen with
  | [], _ => rfl
  | [c], _ =>
    rw [first_cons, hashRemoveLoop, deref_bind hs.1, List.map_cons, List.map_nil]
    by_cases hmatch : matchKeys data c.2 = true
    · rw [if_pos hmatch, List.find?_cons_of_pos hmatch, Prog.bind_run_ok ailsaListRemove_null]
      rfl
    · rw [if_neg hmatch, List.find?_cons_of_neg hmatch]
      rfl

/-- Nothing is removed. -/
theorem ailsaHashRemove_run (hs : s.Keeps keyOf live) (hturns : 2 ≤ turns) (d : D) :
    ailsaHashRemove turns (some d) (keyOf d) s =
      (.ok (if (entry keyOf live (keyOf d)).isNone then -1 else 1, some d), s) := by
  obtain ⟨l, hl, hlen, hdata⟩ := hs.chain (s.slot keyOf d)
  have hrun : (getList >>= fun list =>
      hashRemoveLoop s.hash.matchKeys turns list.head none (some d)) (s.bucket (s.slot keyOf d)) =
      (.ok (if (entry keyOf live (keyOf d)).isNone then -1 else 1, some d),
        s.bucket (s.slot keyOf d)) := by
    rw [getList_bind, hl.head_eq, hashRemoveLoop_run _ hl.segment hlen hturns,
      hs.find_chain hdata, Option.isNone_map]
  rw [ailsaHashRemove, bucketOf_bind hs, getMatch_bind, Prog.bind_run_ok (onBucket_unchanged hrun)]
  cases entry keyOf live (keyOf d) <;> rfl

/-! ## Runs of calls -/

omit [DecidableEq A] in
theorem HashMem.Keeps.agrees (hs : s.Keeps keyOf live) (hturns : 2 ≤ turns) :
    s.Agrees keyOf turns live :=
  ⟨hs.size_eq, fun d => congrArg Prod.fst (ailsaHashLookup_run hs hturns d)⟩

namespace HashOp

variable {op : HashOp A D} {retval : ℤ} {s' : HashMem A D K}

/-- A call that is refused as it should. -/
theorem stepRight_of_refused (hs : s.Keeps keyOf live) (hturns : 2 ≤ turns)
    (hrun : op.run keyOf turns s = (.ok retval, s)) (hne : retval ≠ 0)
    (htakes : ¬op.Takes keyOf live) (hspec : op.spec keyOf live = live) :
    op.StepRight keyOf turns (s, live) ∧ op.step keyOf turns (s, live) = (s, live) := by
  have hstep : op.step keyOf turns (s, live) = (s, live) := by rw [step, hrun, hspec]
  refine ⟨⟨⟨retval, congrArg Prod.fst hrun, iff_of_false hne htakes⟩, ?_, fun _ => ?_⟩, hstep⟩
  · rw [hstep]
    exact hs.agrees hturns
  · rw [hstep]

/-- A call that should change the map, and fails. -/
theorem not_stepRight (hrun : op.run keyOf turns s = (.ok retval, s')) (hne : retval ≠ 0)
    (htakes : op.Takes keyOf live) : ¬op.StepRight keyOf turns (s, live) := by
  rintro ⟨⟨code, hcode, hzero⟩, -, -⟩
  have heq : (.ok retval : Except MemFault ℤ) = .ok code :=
    (congrArg Prod.fst hrun).symm.trans hcode
  cases heq
  exact hne (hzero.mpr htakes)

/-- The call does what it should iff it fits, and then every bucket has at most one element
again. -/
structure StepSpec (keyOf : D → K) (turns : ℕ) (s : HashState A D K) (op : HashOp A D) : Prop where
  right_iff : op.StepRight keyOf turns s ↔ op.Fits keyOf s
  keeps : op.Fits keyOf s → (op.step keyOf turns s).1.Keeps keyOf (op.step keyOf turns s).2

omit [DecidableEq A] [DecidableEq K] in
theorem slot_ne_of_chain_nil (hdata : (([] : List (A × Option D)).map Prod.snd) =
    (live.filter fun e => s.slot keyOf e = s.slot keyOf d).map some) :
    ∀ e ∈ live, s.slot keyOf e ≠ s.slot keyOf d := by
  intro e hmem heq
  have hnil := List.map_eq_nil_iff.mp hdata.symm
  exact List.filter_eq_nil_iff.mp hnil e hmem (decide_eq_true heq)

omit [DecidableEq A] [DecidableEq K] in
theorem exists_slot_eq_of_chain_cons {c : A × Option D} {l : List (A × Option D)}
    (hdata : (c :: l).map Prod.snd =
      (live.filter fun e => s.slot keyOf e = s.slot keyOf d).map some) :
    ∃ e ∈ live, s.slot keyOf e = s.slot keyOf d := by
  have hmem : c.2 ∈ (live.filter fun e => s.slot keyOf e = s.slot keyOf d).map some := by
    rw [← hdata]
    exact List.mem_cons_self ..
  obtain ⟨e, hmem, -⟩ := List.mem_map.mp hmem
  exact ⟨e, (List.mem_filter.mp hmem).1, of_decide_eq_true (List.mem_filter.mp hmem).2⟩

theorem insert_spec (hs : s.Keeps keyOf live) (hturns : 2 ≤ turns) (hnew : s.heap new = none) :
    StepSpec keyOf turns (s, live) (insert new d) := by
  cases he : entry keyOf live (keyOf d) with
  | some e =>
    have hrefuses : ¬entry keyOf live (keyOf d) = none := by
      rw [he]
      exact Option.some_ne_none e
    have hspec : (insert new d).spec keyOf live = live := by
      rw [spec, he]
      rfl
    have hrun : (insert new d).run keyOf turns s = (.ok 1, s) :=
      ailsaHashInsert_present hs hturns he
    obtain ⟨hright, hstep⟩ := stepRight_of_refused hs hturns hrun (by decide) hrefuses hspec
    refine ⟨iff_of_true hright fun h => absurd h hrefuses, fun _ => ?_⟩
    rw [hstep]
    exact hs
  | none =>
    obtain ⟨l, hl, -, hdata⟩ := hs.chain (s.slot keyOf d)
    cases l with
    | nil =>
      have hempty := slot_ne_of_chain_nil hdata
      have hrun : (insert new d).run keyOf turns s = (.ok 0, s.inserted (s.slot keyOf d) new d) :=
        ailsaHashInsert_empty hs hturns he hl
      have hstep : (insert new d).step keyOf turns (s, live) =
          (s.inserted (s.slot keyOf d) new d, live ++ [d]) := by
        rw [step, hrun, spec, he]
        rfl
      have hkeeps := hs.inserted hnew hl hempty
      refine ⟨iff_of_true ⟨⟨0, congrArg Prod.fst hrun, iff_of_true rfl he⟩, ?_, ?_⟩ fun _ => hempty,
        fun _ => ?_⟩
      · rw [hstep]
        exact hkeeps.agrees hturns
      · exact fun h => absurd he h
      · rw [hstep]
        exact hkeeps
    | cons c l =>
      have hrun : (insert new d).run keyOf turns s = (.ok (-1), s) :=
        ailsaHashInsert_full hs hturns he hl
      have hfull : ¬(insert new d).Fits keyOf (s, live) := by
        obtain ⟨e, hmem, heq⟩ := exists_slot_eq_of_chain_cons hdata
        exact fun hfits => hfits he e hmem heq
      exact ⟨iff_of_false (not_stepRight hrun (by decide) he) hfull, fun h => absurd h hfull⟩

theorem remove_spec (hs : s.Keeps keyOf live) (hturns : 2 ≤ turns) :
    StepSpec keyOf turns (s, live) (remove d : HashOp A D) := by
  have hrun : (remove d : HashOp A D).run keyOf turns s =
      (.ok (if (entry keyOf live (keyOf d)).isNone then -1 else 1), s) :=
    Prog.bind_run_ok (ailsaHashRemove_run hs hturns d) _
  cases he : entry keyOf live (keyOf d) with
  | some e =>
    have hlive : ¬entry keyOf live (keyOf d) = none := by
      rw [he]
      exact Option.some_ne_none e
    rw [he, Option.isNone_some, if_neg Bool.false_ne_true] at hrun
    exact ⟨iff_of_false (not_stepRight hrun (by decide) hlive) hlive, fun h => absurd h hlive⟩
  | none =>
    have hspec : (remove d : HashOp A D).spec keyOf live = live := by
      refine List.filter_eq_self.mpr fun e hmem => ?_
      have hne := List.find?_eq_none.mp he e hmem
      rw [decide_eq_true_eq] at hne ⊢
      exact hne
    rw [he, Option.isNone_none, if_pos rfl] at hrun
    obtain ⟨hright, hstep⟩ :=
      stepRight_of_refused hs hturns hrun (by decide) (not_not.mpr he) hspec
    refine ⟨iff_of_true hright he, fun _ => ?_⟩
    rw [hstep]
    exact hs

theorem step_spec (op : HashOp A D) (hs : s.Keeps keyOf live) (hturns : 2 ≤ turns)
    (hv : op.Valid (s, live)) : StepSpec keyOf turns (s, live) op := by
  cases op with
  | insert new d => exact insert_spec hs hturns hv
  | remove d => exact remove_spec hs hturns

end HashOp

omit [DecidableEq A] [DecidableEq K] in
/-- A table as it is initialised is the empty map. -/
theorem keeps_ailsaHashInit {buckets : ℕ} {h : K → ℕ} {matchKeys : Option D → Option D → Bool}
    {destroy : Bool} {heap : Heap A (Option D)} (hbuckets : 0 < buckets)
    (hmatch : ∀ d e, matchKeys (some d) (some e) = true ↔ keyOf d = keyOf e) :
    (⟨heap, ailsaHashInit buckets h matchKeys destroy, []⟩ : HashMem A D K).Keeps keyOf [] :=
  ⟨hbuckets, hmatch, rfl, fun _ => ⟨[], holds_ailsaListInit, Nat.zero_le _, rfl⟩⟩

/-- Every call of a run on a table does to the map what it should iff each new key is
inserted in an empty bucket and no live key is removed. -/
theorem ailHash_map_iff (keyOf : D → K) (matchKeys : Option D → Option D → Bool)
    (hmatch : ∀ d e, matchKeys (some d) (some e) = true ↔ keyOf d = keyOf e) (h : K → ℕ)
    (buckets : ℕ) (hbuckets : 0 < buckets) (destroy : Bool) (turns : ℕ) (hturns : 2 ≤ turns)
    (heap : Heap A (Option D)) (ops : List (HashOp A D))
    (hvalid : Each (HashOp.step keyOf turns) HashOp.Valid
      (⟨heap, ailsaHashInit buckets h matchKeys destroy, []⟩, []) ops) :
    Each (HashOp.step keyOf turns) (HashOp.StepRight keyOf turns)
        (⟨heap, ailsaHashInit buckets h matchKeys destroy, []⟩, []) ops ↔
      Each (HashOp.step keyOf turns) (HashOp.Fits keyOf)
        (⟨heap, ailsaHashInit buckets h matchKeys destroy, []⟩, []) ops := by
  refine Each.iff_of_each (J := fun s => s.1.Keeps keyOf s.2) ?_ ?_ ?_ hvalid
  · exact fun s op hs hop => (op.step_spec hs hturns hop).right_iff
  · exact fun s op hs hop hfits => (op.step_spec hs hturns hop).keeps hfits
  · exact keeps_ailsaHashInit hbuckets hmatch

/-- Keys are the first components of the data. -/
def matchFst (d e : Option (ℕ × ℕ)) : Bool := d.map Prod.fst == e.map Prod.fst

theorem matchFst_iff (d e : ℕ × ℕ) : matchFst (some d) (some e) = true ↔ d.1 = e.1 := by
  simp [matchFst]

/-- Two keys in two buckets, one of them inserted again, and a third key that is not there. -/
theorem ailHash_map_iff_twoBuckets :
    Each (HashOp.step Prod.fst 2) (HashOp.StepRight Prod.fst 2)
      ((⟨fun _ => none, ailsaHashInit 2 id matchFst true, []⟩, []) :
        HashState ℕ (ℕ × ℕ) ℕ)
      [.insert 1 (0, 10), .insert 2 (1, 20), .insert 3 (0, 30), .remove (2, 0)] := by
  refine (ailHash_map_iff Prod.fst matchFst matchFst_iff id 2 (by decide) true 2 (by decide) _ _
    ?_).mpr ?_
  · exact ⟨rfl, rfl, rfl, trivial, trivial⟩
  · exact ⟨fun _ => nofun, fun _ => by decide, fun h => absurd h (by decide), rfl, trivial⟩

/-- A key that was inserted is not removed, and of two keys in one bucket the second is not
inserted. -/
theorem oneBucket_not_map :
    (¬Each (HashOp.step Prod.fst 2) (HashOp.StepRight Prod.fst 2)
      ((⟨fun _ => none, ailsaHashInit 1 id matchFst true, []⟩, []) : HashState ℕ (ℕ × ℕ) ℕ)
      [.insert 1 (0, 10), .remove (0, 0)]) ∧
    ¬Each (HashOp.step Prod.fst 2) (HashOp.StepRight Prod.fst 2)
      ((⟨fun _ => none, ailsaHashInit 1 id matchFst true, []⟩, []) : HashState ℕ (ℕ × ℕ) ℕ)
      [.insert 1 (0, 10), .insert 2 (1, 20)] := by
  constructor
  · rintro ⟨-, ⟨⟨code, hcode, hzero⟩, -, -⟩, -⟩
    cases hcode
    exact absurd (hzero.mpr (Option.some_ne_none (0, 10))) (by decide)
  · rintro ⟨-, ⟨⟨code, hcode, hzero⟩, -, -⟩, -⟩
    cases hcode
    exact absurd (hzero.mpr rfl) (by decide)

end Cmdb
