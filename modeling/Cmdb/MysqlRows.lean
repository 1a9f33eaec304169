import Cmdb.CBuffer
import Cmdb.DataLists
import Cmdb.SqlBackends
import Mathlib.Data.List.Forall2

/-!
# The rows of a MySQL result

`ailsa_argument_query_mysql` puts a row of new elements on the list and binds the columns to
their data before it fetches, and takes a row of elements off again when there was no row left
to fetch. A number of four bytes is bound for a `bigint` column too, and a column that is `NULL`
leaves no mark, so that `appends_rows_iff` says for which results the list gets the values of
the rows, and nothing else.

The library is a parameter : the result of the statement, what it returns for a row, and what
it leaves in a buffer (`MysqlResult.Documented`).
-/

namespace Cmdb

open CString DoublyLinked Prog

abbrev ailsaNoFields : ℤ := 305

/-- `MYSQL_DATA_TRUNCATED`. -/
abbrev mysqlDataTruncated : ℤ := 101

/-- `MYSQL_NO_DATA`. -/
abbrev mysqlNoData : ℤ := 100

/-! ## Results and buffers -/

/-- The types of columns and buffers (`MYSQL_TYPE_`), as far as the program tells them apart. -/
inductive MysqlType
  | varString | varchar | string | long | longlong | short | timestamp | other
deriving DecidableEq, Repr

/-- `MYSQL_TIME`. -/
structure MysqlTime where
  year : ℕ
  month : ℕ
  day : ℕ
  hour : ℕ
  minute : ℕ
  second : ℕ
deriving DecidableEq, Repr

/-- The value of a column in a row. -/
inductive MysqlValue
  | null
  | text (s : CStr)
  | number (n : ℤ)
  | time (t : MysqlTime)
deriving DecidableEq, Repr

/-- The values of a column, with a sign or without. -/
def MysqlValue.Of : MysqlType → MysqlValue → Prop
  | .varString, .text _ | .varchar, .text _ | .string, .text _ => True
  | .long, .number n => -2 ^ 31 ≤ n ∧ n < 2 ^ 32
  | .longlong, .number n => -2 ^ 63 ≤ n ∧ n < 2 ^ 64
  | .short, .number n => -2 ^ 15 ≤ n ∧ n < 2 ^ 16
  | .timestamp, .time _ | .other, _ | _, .null => True
  | _, _ => False

/-- `ailsa_data_s` : the member of the union that its type names. -/
inductive DbData
  | null
  | text (buf : CBuffer.Buf)
  | number (n : ℕ)
  | small (n : ℤ)
  | time (t : MysqlTime)
deriving DecidableEq, Repr

/-- The data holds the value. -/
def DbData.Is : DbData → MysqlValue → Prop
  | .null, .null => True
  | .text buf, .text s => CBuffer.Holds buf s
  | .number k, .number n => (k : ℤ) = n
  | .small k, .number n => k = n
  | .time t, .time t' => t = t'
  | _, _ => False

/-- `MYSQL_BIND` : the buffer is the member of the data at an address. -/
structure MysqlBind where
  bufferType : MysqlType
  isUnsigned : Bool
  buffer : ℕ
  bufferLength : ℕ
deriving DecidableEq, Repr

namespace MysqlBind

/-- The least number that a buffer takes, and the least that is too great for it. -/
def range (b : MysqlBind) : ℤ × ℤ :=
  match b.bufferType, b.isUnsigned with
  | .long, true => (0, 2 ^ 32)
  | .long, false => (-2 ^ 31, 2 ^ 31)
  | .short, true => (0, 2 ^ 16)
  | .short, false => (-2 ^ 15, 2 ^ 15)
  | _, _ => (0, 0)

/-- The buffer is one for values of this kind. -/
def Suits (b : MysqlBind) : MysqlValue → Prop
  | .null => True
  | .text _ => b.bufferType = .string
  | .number _ => b.bufferType = .long ∨ b.bufferType = .short
  | .time _ => b.bufferType = .timestamp

/-- The value comes to the buffer uncut. -/
def Fits (b : MysqlBind) : MysqlValue → Prop
  | .text s => s.length ≤ b.bufferLength
  | .number n => b.range.1 ≤ n ∧ n < b.range.2
  | _ => True

instance (b : MysqlBind) : ∀ v, Decidable (b.Fits v)
  | .null => inferInstanceAs (Decidable True)
  | .text s => inferInstanceAs (Decidable (s.length ≤ b.bufferLength))
  | .number n => inferInstanceAs (Decidable (b.range.1 ≤ n ∧ n < b.range.2))
  | .time _ => inferInstanceAs (Decidable True)

end MysqlBind

/-- The result of a statement, and the library : whether the metadata is there, what the calls
return, and what a column leaves in the buffer it is bound to. -/
structure MysqlResult where
  columns : List MysqlType
  rows : List (List MysqlValue)
  typed : ∀ row ∈ rows, List.Forall₂ MysqlValue.Of columns row
  metadata : Bool
  bindResult : List MysqlBind → ℤ
  storeResult : ℤ
  fetch : List MysqlBind → List MysqlValue → ℤ
  put : MysqlBind → MysqlValue → DbData → DbData

/-- What is documented of the library : a fetch tells of a value that is cut, the buffer of a
column that is `NULL` is left alone, and a buffer for a number is four or two bytes (the low
ones of a number that is `0`). -/
structure MysqlResult.Documented (r : MysqlResult) : Prop where
  fetch_eq_zero : ∀ binds row, List.Forall₂ MysqlBind.Suits binds row →
    List.Forall₂ MysqlBind.Fits binds row → r.fetch binds row = 0
  fetch_truncated : ∀ binds row, List.Forall₂ MysqlBind.Suits binds row →
    ¬List.Forall₂ MysqlBind.Fits binds row → r.fetch binds row = mysqlDataTruncated
  put_null : ∀ b d, r.put b .null d = d
  put_text : ∀ b s buf, b.bufferType = .string → buf.length = b.bufferLength →
    s.length < b.bufferLength → ∃ buf', r.put b (.text s) (.text buf) = .text buf' ∧
      CBuffer.Holds buf' s
  put_long : ∀ b n, b.bufferType = .long → ∃ k : ℕ, k < 2 ^ 32 ∧
    r.put b (.number n) (.number 0) = .number k ∧ (0 ≤ n → n < 2 ^ 32 → (k : ℤ) = n)
  put_short : ∀ b n i, b.bufferType = .short → ∃ k : ℤ, -2 ^ 15 ≤ k ∧ k < 2 ^ 15 ∧
    r.put b (.number n) (.small i) = .small k ∧ (-2 ^ 15 ≤ n → n < 2 ^ 15 → k = n)
  put_time : ∀ b t i, b.bufferType = .timestamp → r.put b (.time t) (.time i) = .time t

/-! ## Functions -/

/-- The list of the results, whose data pointers are addresses of `data`. -/
structure RowMem (A : Type) where
  list : ListMem A ℕ
  data : List DbData

/-- A fault of the list, or the `exit` of the program. -/
inductive RowStop
  | fault (e : MemFault)
  | exit (code : ℤ)
deriving DecidableEq, Repr

abbrev RowProg (A α : Type) : Type := Prog (RowMem A) RowStop α

variable {A α : Type}

/-- A function of the list. -/
def onResults (p : ListProg A ℕ α) : RowProg A α := fun m =>
  ((p m.list).1.mapError .fault, { m with list := (p m.list).2 })

/-- `ailsa_calloc` and `ailsa_init_data` : a data of type `0`. -/
def ailsaInitData : RowProg A ℕ := fun m =>
  (.ok m.data.length, { m with data := m.data ++ [.null] })

/-- `ailsa_set_my_type`, which stops the program at a type it does not know. -/
def ailsaSetMyType : MysqlType → Option DbType
  | .varString | .varchar => some .text
  | .long | .longlong => some .lint
  | .short => some .sint
  | .timestamp => some .time
  | _ => none

/-- `ailsa_set_bind_mysql` on a data that was just made, at the address `buffer`. -/
def Mem.ailsaSetBindMysql (buffer : ℕ) : DbType → Except ℤ (MysqlBind × DbData)
  | .text => .ok (⟨.string, false, buffer, configLen⟩, .text (CBuffer.calloc configLen))
  | .lint => .ok (⟨.long, true, buffer, 8⟩, .number 0)
  | .sint => .ok (⟨.short, false, buffer, 2⟩, .small 0)
  | .time => .ok (⟨.timestamp, false, buffer, 40⟩, .time ⟨0, 0, 0, 0, 0, 0⟩)
  | _ => .error ailsaInvalidDbtype

/-- The row `row` is written into the buffers. -/
def putRow (r : MysqlResult) : List MysqlBind → List MysqlValue → List DbData → List DbData
  | b :: binds, v :: row, data => putRow r binds row (data.modify b.buffer (r.put b v))
  | _, _, data => data

variable [DecidableEq A] (al : Allocator A (Option ℕ)) (cl : MysqlClient) (r : MysqlResult)

/-- The loop of `ailsa_bind_results_mysql` : each column gets a new element. -/
def bindColumns : List MysqlType → RowProg A (ℤ × List MysqlBind)
  | [] => pure (0, [])
  | type :: columns => do
    let data ← ailsaInitData
    let retval ← onResults (calloc al >>= fun new => ailsaListInsert new (some data))
    if retval ≠ 0 then
      return (retval, [])
    match ailsaSetMyType type with
    | none => fail (.exit ailsaInvalidDbtype)
    | some field =>
      match Mem.ailsaSetBindMysql data field with
      | .error retval => return (retval, [])
      | .ok (b, d) =>
        modify fun m => { m with data := m.data.set data d }
        let (retval, binds) ← bindColumns columns
        return (retval, b :: binds)

/-- `binds` is bound before the call, and the second result after it. -/
def ailsaBindResultsMysql (binds : List MysqlBind) : RowProg A (ℤ × List MysqlBind) := do
  if r.columns = [] then
    return (ailsaNoFields, binds)
  if r.metadata = false then
    return (0, binds)
  let (retval, tmp) ← bindColumns al r.columns
  if retval ≠ 0 then
    return (retval, binds)
  return (r.bindResult tmp, tmp)

/-- The loop of `ailsa_remove_empty_results_mysql`, with the `data` of the last turn. -/
def removeEmptyLoop : ℕ → Option ℕ → ListProg A ℕ Unit
  | 0, _ => pure ()
  | fields + 1, data => do
    let list ← getList
    let (_, data) ← ailsaListRemove list.tail data
    destroyData data
    removeEmptyLoop fields data

def ailsaRemoveEmptyResultsMysql : RowProg A Unit :=
  onResults (removeEmptyLoop r.columns.length none)

/-- What follows a fetch that does not return `0`. -/
def endOfRows (retval : ℤ) : RowProg A ℤ := do
  if retval ≠ mysqlNoData then
    return retval
  ailsaRemoveEmptyResultsMysql r
  return 0

/-- The loop that fetches the rows that are left. -/
def fetchLoop : List (List MysqlValue) → List MysqlBind → RowProg A ℤ
  | [], _ => endOfRows r mysqlNoData
  | row :: rows, binds => do
    modify fun m => { m with data := putRow r binds row m.data }
    if r.fetch binds row ≠ 0 then
      endOfRows r (r.fetch binds row)
    else
      let (retval, binds) ← ailsaBindResultsMysql al r binds
      if retval ≠ 0 then
        return retval
      fetchLoop rows binds

def ailsaArgumentQueryMysql (argument : AilsaSqlQuery) (args : List AilsaData) :
    RowProg A ℤ := do
  if ailsaMysqlInit cl ≠ 0 then
    return ailsaMysqlInit cl
  if cl.stmtInit = false then
    return ailsaStatementFail
  if cl.prepare argument.query ≠ 0 then
    return cl.prepare argument.query
  match ailsaBindParamsMysql cl argument args with
  | none => fail (.fault .badPointer)
  | some retval =>
    if retval ≠ 0 then
      return retval
    let (retval, binds) ← ailsaBindResultsMysql al r []
    if retval ≠ 0 then
      return retval
    if cl.execute ≠ 0 then
      return cl.execute
    if r.storeResult ≠ 0 then
      return r.storeResult
    fetchLoop al r r.rows binds

/-! ## A column and its buffer -/

/-- The values that come to the list as they are : not `NULL`, and numbers that fit the
buffers. -/
def MysqlValue.Plain : MysqlType → MysqlValue → Prop
  | _, .null => False
  | .long, .number n | .longlong, .number n => 0 ≤ n ∧ n < 2 ^ 32
  | .short, .number n => -2 ^ 15 ≤ n ∧ n < 2 ^ 15
  | _, _ => True

/-- A text is shorter than its buffer. -/
def MysqlValue.Short : MysqlValue → Prop
  | .text s => s.length < configLen
  | _ => True

/-- What is bound to a column at the address `n`, and what the data is then. -/
inductive BoundTo (n : ℕ) : MysqlType → MysqlBind → DbData → Prop
  | varString : BoundTo n .varString ⟨.string, false, n, configLen⟩
      (.text (CBuffer.calloc configLen))
  | varchar : BoundTo n .varchar ⟨.string, false, n, configLen⟩
      (.text (CBuffer.calloc configLen))
  | long : BoundTo n .long ⟨.long, true, n, 8⟩ (.number 0)
  | longlong : BoundTo n .longlong ⟨.long, true, n, 8⟩ (.number 0)
  | short : BoundTo n .short ⟨.short, false, n, 2⟩ (.small 0)
  | timestamp : BoundTo n .timestamp ⟨.timestamp, false, n, 40⟩ (.time ⟨0, 0, 0, 0, 0, 0⟩)

variable {n : ℕ} {type : MysqlType} {b : MysqlBind} {d : DbData} {v : MysqlValue}
  {columns : List MysqlType} {row : List MysqlValue} {binds : List MysqlBind} {r : MysqlResult}

theorem exists_boundTo (h : ailsaSetMyType type ≠ none) (n : ℕ) :
    ∃ field b d, ailsaSetMyType type = some field ∧
      Mem.ailsaSetBindMysql n field = .ok (b, d) ∧ BoundTo n type b d := by
  cases type with
  | varString => exact ⟨_, _, _, rfl, rfl, .varString⟩
  | varchar => exact ⟨_, _, _, rfl, rfl, .varchar⟩
  | long => exact ⟨_, _, _, rfl, rfl, .long⟩
  | longlong => exact ⟨_, _, _, rfl, rfl, .longlong⟩
  | short => exact ⟨_, _, _, rfl, rfl, .short⟩
  | timestamp => exact ⟨_, _, _, rfl, rfl, .timestamp⟩
  | string => exact absurd rfl h
  | other => exact absurd rfl h

theorem BoundTo.suits (hb : BoundTo n type b d) (hv : v.Of type) : b.Suits v := by
  cases hb <;> cases v <;> simp_all [MysqlValue.Of, MysqlBind.Suits]

theorem BoundTo.fits (hb : BoundTo n type b d) (hv : v.Of type) (hs : v.Short)
    (hp : v.Plain type) : b.Fits v := by
  cases hb <;> cases v <;> simp_all [MysqlValue.Of, MysqlValue.Plain, MysqlValue.Short,
    MysqlBind.Fits, MysqlBind.range, Nat.le_of_lt]

theorem BoundTo.buffer_eq (hb : BoundTo n type b d) : b.buffer = n := by
  cases hb <;> rfl

theorem put_long_is_iff {n : ℤ} (hr : r.Documented) (hb : b.bufferType = .long) :
    (r.put b (.number n) (.number 0)).Is (.number n) ↔ 0 ≤ n ∧ n < 2 ^ 32 := by
  obtain ⟨k, hk, hput, hval⟩ := hr.put_long b n hb
  rw [hput]
  refine ⟨fun h => ?_, fun ⟨hlo, hhi⟩ => hval hlo hhi⟩
  obtain rfl : (k : ℤ) = n := h
  omega

theorem put_short_is_iff {n i : ℤ} (hr : r.Documented) (hb : b.bufferType = .short) :
    (r.put b (.number n) (.small i)).Is (.number n) ↔ -2 ^ 15 ≤ n ∧ n < 2 ^ 15 := by
  obtain ⟨k, hlo, hhi, hput, hval⟩ := hr.put_short b n i hb
  rw [hput]
  refine ⟨fun h => ?_, fun ⟨hlo, hhi⟩ => hval hlo hhi⟩
  obtain rfl : k = n := h
  exact ⟨hlo, hhi⟩

theorem put_text_is {s : CStr} (hr : r.Documented) (hb : b.bufferType = .string)
    (hlen : b.bufferLength = configLen) (hs : s.length < configLen) :
    (r.put b (.text s) (.text (CBuffer.calloc configLen))).Is (.text s) := by
  obtain ⟨buf', hput, hbuf⟩ := hr.put_text b s (CBuffer.calloc configLen) hb
    ((CBuffer.length_calloc _).trans hlen.symm) (hlen ▸ hs)
  rw [hput]
  exact hbuf

/-- The data of a column holds the value fetched exactly if it is a plain one. -/
theorem BoundTo.put_is_iff (hb : BoundTo n type b d) (hr : r.Documented) (hv : v.Of type)
    (hs : v.Short) : (r.put b v d).Is v ↔ v.Plain type := by
  cases v with
  | null =>
    rw [hr.put_null]
    cases hb <;> exact Iff.rfl
  | text s =>
    cases hb with
    | varString => exact iff_of_true (put_text_is hr rfl rfl hs) trivial
    | varchar => exact iff_of_true (put_text_is hr rfl rfl hs) trivial
    | _ => exact hv.elim
  | number k =>
    cases hb with
    | long => exact put_long_is_iff hr rfl
    | longlong => exact put_long_is_iff hr rfl
    | short => exact put_short_is_iff hr rfl
    | _ => exact hv.elim
  | time t =>
    cases hb with
    | timestamp =>
      rw [hr.put_time _ _ _ rfl]
      exact iff_of_true rfl trivial
    | _ => exact hv.elim

/-! ## A row of placeholders -/

/-- The element `c` holds the value. -/
def HoldsAt (data : List DbData) (v : MysqlValue) (c : A × Option ℕ) : Prop :=
  ∃ p d, c.2 = some p ∧ data[p]? = some d ∧ d.Is v

/-- New elements for the columns, whose data is at the addresses from `n` on. -/
inductive Placeholders :
    ℕ → List MysqlType → List MysqlBind → List DbData → List (A × Option ℕ) → Prop
  | nil {n : ℕ} : Placeholders n [] [] [] []
  | cons {n : ℕ} {type : MysqlType} {columns : List MysqlType} {b : MysqlBind}
      {binds : List MysqlBind} {d : DbData} {ds : List DbData} {a : A}
      {cells : List (A × Option ℕ)} (hb : BoundTo n type b d)
      (hrest : Placeholders (n + 1) columns binds ds cells) :
      Placeholders n (type :: columns) (b :: binds) (d :: ds) ((a, some n) :: cells)

variable {ds data : List DbData} {cells : List (A × Option ℕ)} {m : RowMem A}
  {l : List (A × Option ℕ)} {ls : List (List (A × Option ℕ))} {al : Allocator A (Option ℕ)}

theorem forall₂_append_iff {β γ : Type} {R : β → γ → Prop} {l₁ l₂ : List β} {k₁ k₂ : List γ}
    (hlen : l₁.length = k₁.length) :
    List.Forall₂ R (l₁ ++ l₂) (k₁ ++ k₂) ↔ List.Forall₂ R l₁ k₁ ∧ List.Forall₂ R l₂ k₂ := by
  refine ⟨fun h => ⟨?_, ?_⟩, fun ⟨h₁, h₂⟩ => List.rel_append h₁ h₂⟩
  · have := List.forall₂_take l₁.length h
    rwa [List.take_left, hlen, List.take_left] at this
  · have := List.forall₂_drop l₁.length h
    rwa [List.drop_left, hlen, List.drop_left] at this

theorem modify_append_cons (f : DbData → DbData) : ∀ (data : List DbData) {ds : List DbData},
    (data ++ d :: ds).modify data.length f = data ++ f d :: ds
  | [], _ => rfl
  | d' :: data, _ => congrArg (List.cons d') (modify_append_cons f data)

namespace Placeholders

omit [DecidableEq A] in
theorem length_eq (h : Placeholders n columns binds ds cells) : cells.length = columns.length := by
  induction h with
  | nil => rfl
  | cons _ _ ih => exact congrArg Nat.succ ih

omit [DecidableEq A] in
theorem suits (h : Placeholders n columns binds ds cells)
    (hrow : List.Forall₂ MysqlValue.Of columns row) : List.Forall₂ MysqlBind.Suits binds row := by
  induction h generalizing row with
  | nil => cases hrow; exact .nil
  | cons hb _ ih =>
    cases hrow with
    | cons hv hrow => exact .cons (hb.suits hv) (ih hrow)

omit [DecidableEq A] in
theorem fits (h : Placeholders n columns binds ds cells)
    (hrow : List.Forall₂ MysqlValue.Of columns row) (hshort : ∀ v ∈ row, v.Short)
    (hplain : List.Forall₂ MysqlValue.Plain columns row) :
    List.Forall₂ MysqlBind.Fits binds row := by
  induction h generalizing row with
  | nil => cases hrow; exact .nil
  | cons hb _ ih =>
    cases hrow with
    | cons hv hrow =>
      obtain ⟨hs, hshort⟩ := List.forall_mem_cons.mp hshort
      obtain ⟨hp, hplain⟩ := List.forall₂_cons.mp hplain
      exact .cons (hb.fits hv hs hp) (ih hrow hshort hplain)

omit [DecidableEq A] in
/-- A row is written to the data of its placeholders, which hold the values from then on if
they are plain ones. -/
theorem putRow (h : Placeholders n columns binds ds cells) (hr : r.Documented)
    (hrow : List.Forall₂ MysqlValue.Of columns row) (hshort : ∀ v ∈ row, v.Short)
    (hn : data.length = n) :
    ∃ ds', Cmdb.putRow r binds row (data ++ ds) = data ++ ds' ∧ ∀ data', data ++ ds' <+: data' →
      (List.Forall₂ (HoldsAt data') row cells ↔ List.Forall₂ MysqlValue.Plain columns row) := by
  induction h generalizing row data with
  | nil =>
    cases hrow
    exact ⟨[], rfl, fun _ _ => iff_of_true .nil .nil⟩
  | @cons n type columns b binds d ds a cells hb _ ih =>
    cases hrow with
    | @cons _ v _ row hv hrow =>
      obtain ⟨hs, hshort⟩ := List.forall_mem_cons.mp hshort
      have hlen : (data ++ [r.put b v d]).length = n + 1 := by
        rw [List.length_append, hn]
        rfl
      obtain ⟨ds', hput, hholds⟩ := ih hrow hshort hlen
      refine ⟨r.put b v d :: ds', ?_, fun data' hdata => ?_⟩
      · have hmod : (data ++ d :: ds).modify b.buffer (r.put b v) =
            data ++ [r.put b v d] ++ ds := by
          rw [hb.buffer_eq, ← hn, modify_append_cons]
          exact List.append_cons ..
        rw [Cmdb.putRow, hmod, hput, List.append_assoc]
        rfl
      · have hget : data'[n]? = some (r.put b v d) := by
          obtain ⟨rest, rfl⟩ := hdata
          simp [← hn]
        rw [List.append_cons] at hdata
        have hhead : HoldsAt data' v (a, some n) ↔ v.Plain type := by
          rw [← hb.put_is_iff hr hv hs]
          constructor
          · rintro ⟨_, _, ⟨⟩, hget', his⟩
            obtain rfl := Option.some.inj (hget.symm.trans hget')
            exact his
          · exact fun his => ⟨n, _, rfl, hget, his⟩
        rw [List.forall₂_cons, List.forall₂_cons, hhead, hholds _ hdata]

end Placeholders

/-! ## Binding a row -/

omit [DecidableEq A] in
theorem onResults_bind {β : Type} {p : ListProg A ℕ α} {a : α} {m' : ListMem A ℕ}
    (hp : p m.list = (.ok a, m')) (f : α → RowProg A β) :
    (onResults p >>= f) m = f a { m with list := m' } := by
  have hrun : onResults p m = (.ok a, { m with list := m' }) := by
    rw [onResults, hp]
    rfl
  exact bind_run_ok hrun f

omit [DecidableEq A] in
theorem ailsaInitData_bind (f : ℕ → RowProg A α) :
    (ailsaInitData >>= f) m = f m.data.length { m with data := m.data ++ [.null] } := rfl

/-- The first column gets an element at the end of the list, and is bound to its data. -/
theorem bindColumns_cons (al : Allocator A (Option ℕ)) (hknown : ailsaSetMyType type ≠ none)
    (h : m.list.Has l ls) : ∃ a b d m₁, BoundTo m.data.length type b d ∧
      m₁.list.Has (l ++ [(a, some m.data.length)]) ls ∧ m₁.data = m.data ++ [d] ∧
      ∀ columns, bindColumns al (type :: columns) m =
        (bindColumns al columns >>= fun (retval, binds) => pure (retval, b :: binds)) m₁ := by
  obtain ⟨field, b, d, hfield, hset, hb⟩ := exists_boundTo hknown m.data.length
  obtain ⟨ml, hins, hml⟩ := h.insert al m.data.length
  refine ⟨al.calloc m.list.heap, b, d, ⟨ml, m.data ++ [d]⟩, hb, hml, rfl, fun columns => ?_⟩
  have hwrite : (m.data ++ [DbData.null]).set m.data.length d = m.data ++ [d] := by
    rw [List.set_append_right _ _ (Nat.le_refl _), Nat.sub_self]
    rfl
  rw [bindColumns, ailsaInitData_bind, onResults_bind (m := ⟨m.list, m.data ++ [DbData.null]⟩)
    ((calloc_bind _).trans hins), if_neg (not_not.mpr rfl), hfield]
  dsimp only
  rw [hset]
  dsimp only
  rw [modify_bind_run, hwrite]

/-- Each column gets a placeholder at the end of the list. -/
theorem bindColumns_returns : ∀ {columns : List MysqlType} {m : RowMem A}
    {l : List (A × Option ℕ)}, (∀ type ∈ columns, ailsaSetMyType type ≠ none) → m.list.Has l ls →
      Returns (bindColumns al columns) m fun x m' => ∃ ds cells, x.1 = 0 ∧
        Placeholders m.data.length columns x.2 ds cells ∧ m'.list.Has (l ++ cells) ls ∧
        m'.data = m.data ++ ds
  | [], m, l, _, h => returns_pure ⟨[], [], rfl, .nil, (List.append_nil l).symm ▸ h,
      (List.append_nil _).symm⟩
  | type :: columns, m, l, hknown, h => by
    obtain ⟨htype, hknown⟩ := List.forall_mem_cons.mp hknown
    obtain ⟨a, b, d, m₁, hb, hm₁, hdata₁, hcons⟩ := bindColumns_cons al htype h
    obtain ⟨⟨retval, binds⟩, m', hrun, ds, cells, rfl, hplace, hm', hdata⟩ :=
      bindColumns_returns hknown hm₁
    refine ⟨(0, b :: binds), m', ?_, d :: ds, (a, some m.data.length) :: cells, rfl, ?_, ?_, ?_⟩
    · rw [hcons, bind_run_ok hrun]
      rfl
    · refine .cons hb ?_
      rwa [hdata₁, List.length_append] at hplace
    · rw [List.append_cons]
      exact hm'
    · rw [hdata, hdata₁, List.append_assoc]
      rfl

/-- A column of another type stops the program. -/
theorem bindColumns_exit (al : Allocator A (Option ℕ)) : ∀ {columns : List MysqlType}
    {m : RowMem A} {l : List (A × Option ℕ)}, (∃ type ∈ columns, ailsaSetMyType type = none) →
      m.list.Has l ls →
        ∃ m', bindColumns al columns m = (.error (.exit ailsaInvalidDbtype), m')
  | type :: columns, m, l, hunknown, h => by
    by_cases htype : ailsaSetMyType type = none
    · obtain ⟨ml, hins, -⟩ := h.insert al m.data.length
      refine ⟨⟨ml, m.data ++ [.null]⟩, ?_⟩
      rw [bindColumns, ailsaInitData_bind, onResults_bind (m := ⟨m.list, m.data ++ [DbData.null]⟩)
        ((calloc_bind _).trans hins), if_neg (not_not.mpr rfl), htype]
      rfl
    · obtain ⟨a, b, d, m₁, -, hm₁, -, hcons⟩ := bindColumns_cons al htype h
      have hrest : ∃ type ∈ columns, ailsaSetMyType type = none := by
        obtain ⟨type', hmem, hnone⟩ := hunknown
        obtain rfl | hmem := List.mem_cons.mp hmem
        · exact absurd hnone htype
        · exact ⟨type', hmem, hnone⟩
      obtain ⟨m', hexit⟩ := bindColumns_exit al hrest hm₁
      exact ⟨m', (hcons columns).trans (bind_run_error hexit _)⟩

/-! ## Fetching the rows -/

/-- Behind the elements `l` of the list are placeholders for a row, to which the columns are
bound. -/
def RowMem.Waits (m : RowMem A) (r : MysqlResult) (binds : List MysqlBind) (data : List DbData)
    (l : List (A × Option ℕ)) (ls : List (List (A × Option ℕ))) : Prop :=
  ∃ ds cells, Placeholders data.length r.columns binds ds cells ∧ m.list.Has (l ++ cells) ls ∧
    m.data = data ++ ds

/-- The calls for the result succeed. -/
structure MysqlResult.Served (r : MysqlResult) : Prop where
  metadata : r.metadata = true
  bindResult : ∀ binds, r.bindResult binds = 0
  storeResult : r.storeResult = 0

/-- The elements at the end are taken out. -/
theorem removeEmptyLoop_returns : ∀ (n : ℕ) (data : Option ℕ) {m : ListMem A ℕ}
    {cells : List (A × Option ℕ)}, m.Has (l ++ cells) ls → cells.length = n →
      Returns (removeEmptyLoop n data) m fun _ m' => m'.Has l ls
  | 0, _, m, cells, h, hlen => by
    obtain rfl := List.eq_nil_of_length_eq_zero hlen
    exact returns_pure ((List.append_nil l) ▸ h)
  | n + 1, data, m, cells, h, hlen => by
    obtain rfl | ⟨cells, c, rfl⟩ := List.eq_nil_or_concat' cells
    · cases hlen
    · rw [List.length_append, List.length_singleton, Nat.add_right_cancel_iff] at hlen
      rw [← List.append_assoc] at h
      obtain ⟨m₁, hrem, hm₁⟩ := h.remove_last data
      obtain ⟨u, m', hrun, hm'⟩ := removeEmptyLoop_returns n c.2
        (m := { m₁ with destroyed := m₁.destroyed ++ [c.2] }) ⟨hm₁.list, hm₁.apart⟩ hlen
      refine ⟨u, m', ?_, hm'⟩
      rw [removeEmptyLoop, getList_bind, bind_run_ok hrem]
      exact hrun

theorem ailsaBindResultsMysql_returns (al : Allocator A (Option ℕ)) (binds : List MysqlBind)
    (hr : r.Served) (hcolumns : r.columns ≠ [])
    (hknown : ∀ type ∈ r.columns, ailsaSetMyType type ≠ none) (h : m.list.Has l ls) :
    Returns (ailsaBindResultsMysql al r binds) m fun x m' =>
      x.1 = 0 ∧ m'.Waits r x.2 m.data l ls := by
  obtain ⟨⟨retval, tmp⟩, m', hrun, ds, cells, rfl, hplace, hm', hdata⟩ :=
    bindColumns_returns hknown h
  refine ⟨(r.bindResult tmp, tmp), m', ?_, hr.bindResult tmp, ds, cells, hplace, hm', hdata⟩
  rw [ailsaBindResultsMysql, if_neg hcolumns, hr.metadata, if_neg (by decide), bind_run_ok hrun]
  rfl

/-- The placeholders that are left are taken out. -/
theorem endOfRows_noData (h : m.Waits r binds data l ls) :
    Returns (endOfRows r mysqlNoData) m fun retval m' =>
      retval = 0 ∧ m'.list.Has l ls ∧ m'.data = m.data := by
  obtain ⟨ds, cells, hplace, hm, -⟩ := h
  obtain ⟨u, ml, hrun, hml⟩ := removeEmptyLoop_returns r.columns.length none hm
    hplace.length_eq
  refine ⟨0, ⟨ml, m.data⟩, ?_, rfl, hml, rfl⟩
  rw [endOfRows, if_neg (not_not.mpr rfl), ailsaRemoveEmptyResultsMysql, onResults_bind hrun]
  rfl

/-- The values of the rows that are left come behind `l`, if they are all plain ones. -/
theorem fetchLoop_returns (hr : r.Documented) (hs : r.Served) (hcolumns : r.columns ≠ [])
    (hknown : ∀ type ∈ r.columns, ailsaSetMyType type ≠ none) :
    ∀ {rows : List (List MysqlValue)} {m : RowMem A} {binds : List MysqlBind}
      {data : List DbData} {l : List (A × Option ℕ)},
      (∀ row ∈ rows, List.Forall₂ MysqlValue.Of r.columns row) →
      (∀ row ∈ rows, ∀ v ∈ row, v.Short) → m.Waits r binds data l ls →
        Returns (fetchLoop al r rows binds) m fun _ m' => ∃ cells, m'.list.Has (l ++ cells) ls ∧
          data <+: m'.data ∧ (List.Forall₂ (HoldsAt m'.data) rows.flatten cells ↔
            ∀ row ∈ rows, List.Forall₂ MysqlValue.Plain r.columns row)
  | [], m, binds, data, l, _, _, hwait => by
    have hdata : data <+: m.data := by
      obtain ⟨ds, -, -, -, hdata⟩ := hwait
      exact ⟨ds, hdata.symm⟩
    refine (endOfRows_noData hwait).imp ?_
    rintro _ m' ⟨-, hm', hsame⟩
    exact ⟨[], (List.append_nil l).symm ▸ hm', hsame ▸ hdata,
      iff_of_true .nil (List.forall_mem_nil _)⟩
  | row :: rows, m, binds, data, l, htyped, hshort, ⟨ds, cells, hplace, hm, hdata⟩ => by
    obtain ⟨hrow, htyped⟩ := List.forall_mem_cons.mp htyped
    obtain ⟨hsrow, hshort⟩ := List.forall_mem_cons.mp hshort
    obtain ⟨ds', hput, hholds⟩ := hplace.putRow hr hrow hsrow rfl
    have hlen : row.length = cells.length := hrow.length_eq.symm.trans hplace.length_eq.symm
    let m₁ : RowMem A := ⟨m.list, data ++ ds'⟩
    by_cases hfits : List.Forall₂ MysqlBind.Fits binds row
    · have hfetch := hr.fetch_eq_zero binds row (hplace.suits hrow) hfits
      -- the row is complete, and the next placeholders come behind it
      obtain ⟨⟨_, binds'⟩, m₂, hbind, rfl, hwait⟩ :=
        ailsaBindResultsMysql_returns al binds (m := m₁) hs hcolumns hknown hm
      obtain ⟨retval, m', hrun, cells', hm', hpre, hiff⟩ :=
        fetchLoop_returns hr hs hcolumns hknown htyped hshort hwait
      refine ⟨retval, m', ?_, cells ++ cells', ?_, ?_, ?_⟩
      · rw [fetchLoop, modify_bind_run, hdata, hput, hfetch, if_neg (not_not.mpr rfl),
          bind_run_ok hbind]
        dsimp only
        rw [if_neg (not_not.mpr rfl)]
        exact hrun
      · rwa [← List.append_assoc]
      · exact (List.prefix_append ..).trans hpre
      · rw [List.flatten_cons, List.forall_mem_cons, forall₂_append_iff hlen,
          hholds m'.data hpre, hiff]
    · have hfetch := hr.fetch_truncated binds row (hplace.suits hrow) hfits
      refine ⟨mysqlDataTruncated, m₁, ?_, cells, hm, List.prefix_append .., ?_⟩
      · rw [fetchLoop, modify_bind_run, hdata, hput, hfetch, if_pos (by decide)]
        rfl
      · have hnot : ¬List.Forall₂ MysqlValue.Plain r.columns row :=
          mt (hplace.fits hrow hsrow) hfits
        refine iff_of_false (fun hall => hnot ?_) fun hall =>
          hnot (hall row (List.mem_cons_self ..))
        rw [List.flatten_cons, ← List.append_nil cells, forall₂_append_iff hlen] at hall
        exact (hholds _ (List.prefix_refl _)).mp hall.1

/-! ## The query -/

/-- The statement is prepared, bound and executed. -/
structure QueryServed (cl : MysqlClient) (q : AilsaSqlQuery) (args : List AilsaData) : Prop where
  connects : cl.Connects
  stmtInit : cl.stmtInit = true
  prepare : cl.prepare q.query = 0
  bind : ailsaBindParamsMysql cl q args = some 0
  execute : cl.execute = 0

/-- Every text of the rows is shorter than its buffer. -/
def MysqlResult.ShortTexts (r : MysqlResult) : Prop := ∀ row ∈ r.rows, ∀ v ∈ row, v.Short

/-- The columns are of types that are known, and the values are plain ones. -/
structure MysqlResult.Plain (r : MysqlResult) : Prop where
  known : ∀ type ∈ r.columns, ailsaSetMyType type ≠ none
  rows : ∀ row ∈ r.rows, List.Forall₂ MysqlValue.Plain r.columns row

/-- Behind the elements `l`, whose data is as it was, the list has one element for each value
of the rows, which holds it, and no other. -/
def AppendsRows (r : MysqlResult) (m m' : RowMem A) (l : List (A × Option ℕ))
    (ls : List (List (A × Option ℕ))) : Prop :=
  ∃ cells, m'.list.Has (l ++ cells) ls ∧ cells.length = r.rows.length * r.columns.length ∧
    List.Forall₂ (HoldsAt m'.data) r.rows.flatten cells ∧ m.data <+: m'.data

variable {q : AilsaSqlQuery} {args : List AilsaData} {cl : MysqlClient}

theorem MysqlResult.length_flatten (r : MysqlResult) :
    r.rows.flatten.length = r.rows.length * r.columns.length := by
  have hlen : ∀ row ∈ r.rows, row.length = r.columns.length := fun row hrow =>
    (r.typed row hrow).length_eq.symm
  rw [List.length_flatten, List.map_congr_left hlen, List.map_const', List.sum_replicate_nat]

/-- The query goes on to its result. -/
theorem ailsaArgumentQueryMysql_run (hq : QueryServed cl q args) :
    ailsaArgumentQueryMysql al cl r q args = (do
      let (retval, binds) ← ailsaBindResultsMysql al r []
      if retval ≠ 0 then
        return retval
      if r.storeResult ≠ 0 then
        return r.storeResult
      fetchLoop al r r.rows binds) := by
  have hinit : ailsaMysqlInit cl = 0 := ailsaMysqlInit_eq_zero_iff.mpr hq.connects
  rw [ailsaArgumentQueryMysql, hinit, hq.stmtInit, hq.prepare, hq.bind, hq.execute]
  rfl

theorem ailsaArgumentQueryMysql_returns (al : Allocator A (Option ℕ)) (hq : QueryServed cl q args)
    (hs : r.Served) (hr : r.Documented) (hshort : r.ShortTexts)
    (hknown : ∀ type ∈ r.columns, ailsaSetMyType type ≠ none) (h : m.list.Has l ls) :
    Returns (ailsaArgumentQueryMysql al cl r q args) m fun _ m' => ∃ cells,
      m'.list.Has (l ++ cells) ls ∧ m.data <+: m'.data ∧
        (List.Forall₂ (HoldsAt m'.data) r.rows.flatten cells ↔
          ∀ row ∈ r.rows, List.Forall₂ MysqlValue.Plain r.columns row) := by
  rw [ailsaArgumentQueryMysql_run hq]
  by_cases hcolumns : r.columns = []
  · -- without a column there is no value, and nothing is bound
    have hrow : ∀ row ∈ r.rows, row = [] := fun row hrow =>
      List.forall₂_nil_left_iff.mp (hcolumns ▸ r.typed row hrow)
    refine ⟨ailsaNoFields, m, ?_, [], (List.append_nil l).symm ▸ h, List.prefix_refl _, ?_⟩
    · rw [ailsaBindResultsMysql, if_pos hcolumns]
      rfl
    · rw [List.flatten_eq_nil_iff.mpr hrow]
      refine iff_of_true .nil fun row hmem => ?_
      rw [hrow row hmem, hcolumns]
      exact .nil
  · obtain ⟨⟨_, binds⟩, m₁, hbind, rfl, hwait⟩ :=
      ailsaBindResultsMysql_returns al [] hs hcolumns hknown h
    obtain ⟨retval, m', hrun, hpost⟩ :=
      fetchLoop_returns hr hs hcolumns hknown r.typed hshort hwait
    refine ⟨retval, m', ?_, hpost⟩
    rw [bind_run_ok hbind]
    dsimp only
    rw [if_neg (not_not.mpr rfl), hs.storeResult, if_neg (not_not.mpr rfl)]
    exact hrun

/-- At a column of a type that is not known the program stops. -/
theorem ailsaArgumentQueryMysql_exit (al : Allocator A (Option ℕ)) (hq : QueryServed cl q args)
    (hs : r.Served) (hunknown : ∃ type ∈ r.columns, ailsaSetMyType type = none)
    (h : m.list.Has l ls) :
    ∃ m', ailsaArgumentQueryMysql al cl r q args m = (.error (.exit ailsaInvalidDbtype), m') := by
  have hcolumns : r.columns ≠ [] := by
    obtain ⟨type, hmem, -⟩ := hunknown
    exact List.ne_nil_of_mem hmem
  obtain ⟨m', hexit⟩ := bindColumns_exit al hunknown h
  have hbind : ailsaBindResultsMysql al r [] m = (.error (.exit ailsaInvalidDbtype), m') := by
    rw [ailsaBindResultsMysql, if_neg hcolumns, hs.metadata, if_neg (by decide)]
    exact bind_run_error hexit _
  refine ⟨m', ?_⟩
  rw [ailsaArgumentQueryMysql_run hq]
  exact bind_run_error hbind _

omit [DecidableEq A] in
/-- The elements that were appended are told by the list. -/
theorem appended_unique {m : ListMem A ℕ} {cells' : List (A × Option ℕ)}
    (h : m.Has (l ++ cells) ls) (h' : m.Has (l ++ cells') ls) : cells = cells' :=
  List.append_cancel_left (h.holds.wellFormed.unique h'.holds.wellFormed)

theorem plain_of_appends (hq : QueryServed cl q args) (hs : r.Served) (hr : r.Documented)
    (hshort : r.ShortTexts) (h : m.list.Has l ls)
    (happ : Returns (ailsaArgumentQueryMysql al cl r q args) m fun _ m' =>
      AppendsRows r m m' l ls) : r.Plain := by
  obtain ⟨code, m', hrun, cells, hm', -, hall, -⟩ := happ
  have hknown : ∀ type ∈ r.columns, ailsaSetMyType type ≠ none := by
    intro type hmem hnone
    obtain ⟨_, hexit⟩ := ailsaArgumentQueryMysql_exit al hq hs ⟨type, hmem, hnone⟩ h
    cases hrun.symm.trans hexit
  obtain ⟨_, m₁, hrun₁, cells₁, hm₁, -, hiff⟩ :=
    ailsaArgumentQueryMysql_returns al hq hs hr hshort hknown h
  obtain ⟨-, rfl⟩ := Prod.mk.inj (hrun.symm.trans hrun₁)
  obtain rfl := appended_unique hm' hm₁
  exact ⟨hknown, hiff.mp hall⟩

/-- The list gets the values of the rows and nothing else exactly if the types of the columns
are known, no value is `NULL`, and the numbers fit four bytes, or two for a `smallint`. -/
theorem appends_rows_iff (al : Allocator A (Option ℕ)) (hq : QueryServed cl q args) (hs : r.Served)
    (hr : r.Documented) (hshort : r.ShortTexts) (h : m.list.Has l ls) :
    Returns (ailsaArgumentQueryMysql al cl r q args) m (fun _ m' => AppendsRows r m m' l ls) ↔
      r.Plain := by
  refine ⟨plain_of_appends hq hs hr hshort h, fun hplain => ?_⟩
  refine (ailsaArgumentQueryMysql_returns al hq hs hr hshort hplain.known h).imp ?_
  rintro _ m' ⟨cells, hm', hdata, hiff⟩
  have hall := hiff.mpr hplain.rows
  exact ⟨cells, hm', hall.length_eq.symm.trans r.length_flatten, hall, hdata⟩

/-! ## Samples -/

/-- A result, and a library that does what is documented. -/
def mysqlResult (columns : List MysqlType) (rows : List (List MysqlValue))
    (typed : ∀ row ∈ rows, List.Forall₂ MysqlValue.Of columns row) : MysqlResult where
  columns := columns
  rows := rows
  typed := typed
  metadata := true
  bindResult _ := 0
  storeResult := 0
  fetch binds row := if List.Forall₂ MysqlBind.Fits binds row then 0 else mysqlDataTruncated
  put
    | _, .text s, .text buf => .text (s.map some ++ none :: buf.drop (s.length + 1))
    | _, .number n, .number _ => .number (n % 2 ^ 32).toNat
    | _, .number n, .small _ => .small (n.bmod (2 ^ 16))
    | _, .time t, .time _ => .time t
    | _, _, d => d

theorem mysqlResult_served {typed} : (mysqlResult columns rows typed).Served :=
  ⟨rfl, fun _ => rfl, rfl⟩

theorem mysqlResult_documented {typed} : (mysqlResult columns rows typed).Documented where
  fetch_eq_zero _ _ _ hfits := if_pos hfits
  fetch_truncated _ _ _ hfits := if_neg hfits
  put_null _ d := by cases d <;> rfl
  put_text _ s buf _ _ _ := ⟨_, rfl, buf.drop (s.length + 1), rfl⟩
  put_long _ n _ := ⟨(n % 2 ^ 32).toNat, by omega, rfl, fun hlo hhi => by omega⟩
  put_short _ n _ _ := by
    refine ⟨n.bmod (2 ^ 16), ?_, ?_, rfl, ?_⟩
    · exact Int.le_bmod (by decide)
    · exact Int.bmod_lt (by decide)
    · exact fun hlo hhi => Int.bmod_eq_of_le hlo hhi
  put_time _ _ _ _ := rfl

/-- `DUP_IP_NET_RANGE`. -/
def dupIpNetRange : AilsaSqlQuery where
  query := "SELECT destination, count(*) c FROM records WHERE type = 'A' ".toList ++
    "AND destination LIKE ? GROUP BY destination HAVING c > 1".toList
  number := 1
  fields := [.text]

/-- A client whose calls succeed. -/
def servedClient : MysqlClient := ⟨true, true, true, fun _ => 0, fun _ => 1, fun _ => 0, 0, 0⟩

theorem queryServed_dupIpNetRange :
    QueryServed servedClient dupIpNetRange [.text "10.0.0.%".toList] :=
  ⟨⟨rfl, rfl⟩, rfl, rfl, rfl, rfl⟩

/-- Two addresses, the first with `count` records. -/
def duplicates (count : Fin (2 ^ 64)) : MysqlResult :=
  mysqlResult [.varString, .longlong]
    [[.text "10.0.0.5".toList, .number count], [.text "10.0.0.6".toList, .number 2]]
    (List.forall_mem_cons.mpr ⟨.cons trivial (.cons ⟨by omega, by omega⟩ .nil),
      List.forall_mem_singleton.mpr (.cons trivial (.cons ⟨by decide, by decide⟩ .nil))⟩)

theorem shortTexts_duplicates (count : Fin (2 ^ 64)) : (duplicates count).ShortTexts := by
  have hrow (ip : CStr) (n : ℤ) (hip : ip.length < configLen) :
      ∀ v ∈ [MysqlValue.text ip, .number n], v.Short :=
    List.forall_mem_cons.mpr ⟨hip, List.forall_mem_singleton.mpr trivial⟩
  exact List.forall_mem_cons.mpr ⟨hrow _ _ (by decide),
    List.forall_mem_singleton.mpr (hrow _ _ (by decide))⟩

/-- A list with an element, and its data. -/
def resultsMem : RowMem ℕ :=
  ⟨⟨heapOf none [(1, some 0)], ailListOf [(1, some 0)], []⟩, [.number 5]⟩

theorem has_resultsMem : resultsMem.list.Has [(1, some 0)] [] := ⟨rfl, apart_heapOf (by decide)⟩

/-- Two rows of two columns come behind the element. -/
theorem appends_rows_iff_duplicates : ∃ code m',
    ailsaArgumentQueryMysql freeAddress servedClient (duplicates 3) dupIpNetRange
        [.text "10.0.0.%".toList] resultsMem = (.ok code, m') ∧
      AppendsRows (duplicates 3) resultsMem m' [(1, some 0)] [] := by
  have hplain : (duplicates 3).Plain := by
    refine ⟨by decide, List.forall_mem_cons.mpr ⟨.cons trivial (.cons ?_ .nil),
      List.forall_mem_singleton.mpr (.cons trivial (.cons ?_ .nil))⟩⟩
    · exact ⟨by decide, by decide⟩
    · exact ⟨by decide, by decide⟩
  exact (appends_rows_iff freeAddress queryServed_dupIpNetRange mysqlResult_served
    mysqlResult_documented (shortTexts_duplicates 3) has_resultsMem).mpr hplain

/-- A count of `2 ^ 32` does not fit the buffer : the fetch of its row is the last one. -/
theorem not_appendsRows : ¬∃ code m',
    ailsaArgumentQueryMysql freeAddress servedClient (duplicates 4294967296) dupIpNetRange
        [.text "10.0.0.%".toList] resultsMem = (.ok code, m') ∧
      AppendsRows (duplicates 4294967296) resultsMem m' [(1, some 0)] [] := by
  intro happ
  have hplain : (duplicates 4294967296).Plain := plain_of_appends queryServed_dupIpNetRange
    mysqlResult_served mysqlResult_documented (shortTexts_duplicates 4294967296) has_resultsMem
    happ
  obtain ⟨hrow, -⟩ := List.forall_mem_cons.mp hplain.rows
  obtain ⟨-, hrow⟩ := List.forall₂_cons.mp hrow
  obtain ⟨hwide, -⟩ := List.forall₂_cons.mp hrow
  exact absurd hwide.2 (by decide)

end Cmdb
