import Cmdb.AilList

/-!
# The hash table

`AILHASH`, a table of lists with one for each bucket, on the memory of the lists. The loops
over a bucket get a number of turns, and fault when these do not bring them to the end.
-/

namespace Cmdb

open DoublyLinked

variable {A D K α : Type}

/-- A hash table. The data is compared by `matchKeys`, and `destroy` says whether a
destructor is set. -/
structure AilHash (A D K : Type) where
  buckets : ℕ
  h : K → ℕ
  matchKeys : Option D → Option D → Bool
  destroy : Bool
  size : ℕ
  table : ℕ → AilList A

/-- The nodes in memory, a table, and the data destroyed so far. -/
structure HashMem (A D K : Type) where
  heap : Heap A (Option D)
  hash : AilHash A D K
  destroyed : List (Option D)

abbrev HashProg (A D K α : Type) : Type := Prog (HashMem A D K) MemFault α

def ailsaHashInit (buckets : ℕ) (h : K → ℕ) (matchKeys : Option D → Option D → Bool)
    (destroy : Bool) : AilHash A D K :=
  ⟨buckets, h, matchKeys, destroy, 0, fun _ => ailsaListInit destroy⟩

/-! ## Buckets -/

/-- The memory with the list of a bucket. -/
def HashMem.bucket (s : HashMem A D K) (i : ℕ) : ListMem A D :=
  ⟨s.heap, s.hash.table i, s.destroyed⟩

def HashMem.setBucket (s : HashMem A D K) (i : ℕ) (m : ListMem A D) : HashMem A D K where
  heap := m.heap
  hash := { s.hash with table := Function.update s.hash.table i m.list }
  destroyed := m.destroyed

/-- A function of the list on `&htbl->table[i]`. -/
def onBucket (i : ℕ) (p : ListProg A D α) : HashProg A D K α :=
  Prog.zoom (fun s => s.bucket i) (fun s m => s.setBucket i m) p

/-- `htbl->h(key) % htbl->buckets` -/
def bucketOf (key : K) : HashProg A D K ℕ := Prog.reads fun s =>
  if s.hash.buckets = 0 then .error .divByZero else .ok (s.hash.h key % s.hash.buckets)

def getMatch : HashProg A D K (Option D → Option D → Bool) := Prog.reads fun s =>
  .ok s.hash.matchKeys

def setSize (u : ℕ → ℕ) : HashProg A D K Unit :=
  Prog.modify fun s => { s with hash := { s.hash with size := u s.hash.size } }

variable {s : HashMem A D K} {m : ListMem A D}

theorem onBucket_run {i : ℕ} {q : ListProg A D α} {r : Except MemFault α}
    (h : q (s.bucket i) = (r, m)) : onBucket i q s = (r, s.setBucket i m) := by
  rw [onBucket, Prog.zoom_run, h]

/-- A function that leaves the list as it is leaves the table as it is. -/
theorem onBucket_unchanged {i : ℕ} {q : ListProg A D α} {r : Except MemFault α}
    (h : q (s.bucket i) = (r, s.bucket i)) : onBucket i q s = (r, s) := by
  rw [onBucket_run h, HashMem.setBucket, HashMem.bucket, Function.update_eq_self]

theorem getMatch_bind (f : (Option D → Option D → Bool) → HashProg A D K α) :
    (getMatch >>= f) s = f s.hash.matchKeys s := rfl

/-! ## Functions -/

/-- The loop of `ailsa_hash_lookup`, from `em` on. -/
def lookupLoop (matchKeys : Option D → Option D → Bool) :
    ℕ → Option A → Option D → ListProg A D (ℤ × Option D)
  | 0, _, _ => Prog.fail .noTurns
  | _ + 1, none, data => pure (-1, data)
  | turns + 1, some a, data => do
    let em ← deref (some a)
    if matchKeys data em.data then
      return (0, em.data)
    lookupLoop matchKeys turns em.next data

/-- `data` is what `*data` holds before the call, and the second result after it. -/
def ailsaHashLookup (turns : ℕ) (data : Option D) (key : K) : HashProg A D K (ℤ × Option D) := do
  let bucket ← bucketOf key
  let matchKeys ← getMatch
  onBucket bucket do
    let list ← getList
    lookupLoop matchKeys turns list.head data

variable [DecidableEq A]

def ailsaHashInsert (turns : ℕ) (new : A) (data : Option D) (key : K) : HashProg A D K ℤ := do
  let (found, data) ← ailsaHashLookup turns data key
  if found = 0 then
    return 1
  let bucket ← bucketOf key
  let retval ← onBucket bucket (ailsaListInsNext new none data)
  if retval = 0 then
    setSize (· + 1)
  return retval

/-- The loop of `ailsa_hash_remove`, from `em` on and behind `prev`. -/
def hashRemoveLoop (matchKeys : Option D → Option D → Bool) :
    ℕ → Option A → Option A → Option D → ListProg A D (ℤ × Option D)
  | 0, _, _, _ => Prog.fail .noTurns
  | _ + 1, none, _, data => pure (-1, data)
  | turns + 1, some a, prev, data => do
    let em ← deref (some a)
    if matchKeys data em.data then
      let (retval, data) ← ailsaListRemove prev data
      return (if retval = 0 then 0 else 1, data)
    hashRemoveLoop matchKeys turns em.next (some a) data

def ailsaHashRemove (turns : ℕ) (data : Option D) (key : K) : HashProg A D K (ℤ × Option D) := do
  let bucket ← bucketOf key
  let matchKeys ← getMatch
  let (retval, data) ← onBucket bucket do
    let list ← getList
    hashRemoveLoop matchKeys turns list.head none data
  -- the loop returns `0` only after a removal
  if retval = 0 then
    setSize (· - 1)
  return (retval, data)

end Cmdb
