import Mathlib.Tactic.Ring
import Cmdb.CBuffer
import Cmdb.SqlBackends

/-!
# Statements on several rows

`ailsa_multiple_query` and `ailsa_multiple_delete` write the text of a statement and the
types of its parameters into buffers they measure beforehand. `Mem` holds the functions on
buffers, where a write behind the end has no result.

* `createDeleteMulti_eq` : the text of a deletion, for every number of rows;
* `Mem.cmdbCreateMulti_eq`, `Mem.cmdbCreateMulti_refines` : the text of an insertion and its
  types, those of `cmdbCreateMulti` as long as the number of parameters is an
  `unsigned int`;
* `insertsRows_iff` : the parameters are bound as for the single insertions iff their
  number is an `int`.
-/

namespace Cmdb

open CString CBuffer

/-! ## The functions on buffers -/

namespace Mem

/-- `cmdb_create_value_string`. -/
def cmdbCreateValueString (query : AilsaSqlQuery) : Option Buf := do
  let value ← sprintf (CBuffer.calloc (query.number * 3 + 4)) 0 ", (".toList
  let value ← (List.range query.number).foldlM (fun value _ => do
    let len ← strlen value
    sprintf value len "?, ".toList) value
  let len ← strlen value
  sprintf value (len - 2) ")".toList

/-- `cmdb_insert_fields_array` : the number of rows is that of an `unsigned int`. -/
def cmdbInsertFieldsArray (n tot : ℕ) (f : List DbType) : Option (List DbType) :=
  let u := tot % 2 ^ 32 / n
  (List.range u).foldlM (fun m i => (List.range n).foldlM (fun m j =>
    let k := if 0 < i then (i * n + j) % 2 ^ 32 else j
    store m k (f.getD j .null)) m) (List.replicate tot .null)

/-- `cmdb_create_multi`. A statement without parameters divides by `0`. -/
def cmdbCreateMulti (query : AilsaSqlQuery) (total : ℕ) : Option (Except ℤ AilsaSqlMulti) :=
  if total = 0 then some (.error ailsaNoData)
  else if query.number = 0 then none
  else do
    let lenQ := query.query.length
    let values ← cmdbCreateValueString query
    let lenS ← strlen values
    let lenT := total / query.number
    let u ← cmdbInsertFieldsArray query.number total query.fields
    let q ← sprintf (CBuffer.calloc (lenS * lenT + lenQ)) 0 query.query
    let (q, _) ← (List.range (lenT - 1)).foldlM (fun (q, lenQ) _ => do
      let q ← sprintf q lenQ (text values)
      return (q, lenQ + lenS)) (q, lenQ)
    return .ok
      { query := text q
        number := query.number
        total := total % 2 ^ 32
        fields := u }

/-- `cmdb_create_delete_multi`. The types are allocated twice as large as they are. -/
def cmdbCreateDeleteMulti (query : AilsaSqlQuery) (total : ℕ) :
    Option (Except ℤ AilsaSqlMulti) :=
  if total = 0 then some (.error ailsaNoData)
  else if query.number ≠ 1 then some (.error ailsaWrongListLenght)
  else do
    let lenQ := query.query.length
    let field := query.fields.headD .null
    let q ← sprintf (CBuffer.calloc (total * 3 + 3 + lenQ)) 0 (snprintf (lenQ + 1) query.query)
    match strrchr (text q) '=' with
    | none => some (.error ailsaQueryFail)
    | some tmp => do
      let q ← sprintf q tmp "IN (".toList
      let (q, ptr, tmp) ← (List.range total).foldlM (fun (q, ptr, tmp) i => do
        let q ← sprintf q tmp "?, ".toList
        let ptr ← store ptr i field
        return (q, ptr, tmp + 3)) (q, List.replicate (2 * total) DbType.null, tmp + 4)
      let q ← sprintf q (tmp - 2) ")".toList
      return .ok
        { query := text q
          number := query.number
          total := total % 2 ^ 32
          fields := ptr }

end Mem

/-! ## Placeholders -/

/-- `n` placeholders between commas. -/
def placeholders (n : ℕ) : CStr := [',', ' '].intercalate (List.replicate n ['?'])

/-- One more row of `n` placeholders. -/
def rowGroup (n : ℕ) : CStr := ", (".toList ++ placeholders n ++ ")".toList

/-- What a loop over `n` placeholders has written. -/
def openPlaceholders (n : ℕ) : CStr := (List.replicate n "?, ".toList).flatten

theorem openPlaceholders_succ (n : ℕ) :
    openPlaceholders (n + 1) = openPlaceholders n ++ "?, ".toList := by
  rw [openPlaceholders, openPlaceholders, List.replicate_succ', List.flatten_append]
  simp

theorem length_openPlaceholders (n : ℕ) : (openPlaceholders n).length = n * 3 := by
  simp [openPlaceholders]

theorem openPlaceholders_eq : ∀ {n : ℕ}, 0 < n → openPlaceholders n = placeholders n ++ [',', ' ']
  | 1, _ => rfl
  | n + 2, _ => by
    have hplace : placeholders (n + 2) = "?, ".toList ++ placeholders (n + 1) := by
      rw [placeholders, List.replicate_succ, List.replicate_succ, List.intercalate_cons_cons]
      rfl
    rw [hplace, List.append_assoc, ← openPlaceholders_eq n.succ_pos, openPlaceholders,
      List.replicate_succ, List.flatten_cons, ← openPlaceholders]

theorem length_placeholders {n : ℕ} (hn : 0 < n) : (placeholders n).length + 2 = n * 3 := by
  rw [← length_openPlaceholders, openPlaceholders_eq hn]
  simp

theorem length_rowGroup {n : ℕ} (hn : 0 < n) : (rowGroup n).length = n * 3 + 2 := by
  rw [← length_placeholders hn]
  unfold rowGroup
  simp

theorem count_rowGroup {n : ℕ} (hn : 0 < n) : (rowGroup n).count '?' = n := by
  have h : (openPlaceholders n).count '?' = n := by
    rw [openPlaceholders, List.count_flatten, List.map_replicate, List.sum_replicate_nat]
    simp
  rw [openPlaceholders_eq hn, List.count_append] at h
  unfold rowGroup
  rw [List.count_append, List.count_append]
  simpa using h

/-- The text of the list model is the one of the buffer. -/
theorem cmdbCreateValueString_eq {query : AilsaSqlQuery} (hn : 0 < query.number) :
    cmdbCreateValueString query = rowGroup query.number := by
  unfold rowGroup
  rw [cmdbCreateValueString, ← openPlaceholders, openPlaceholders_eq hn, ← List.append_assoc,
    List.length_append, List.length_cons, List.length_singleton, Nat.add_sub_cancel,
    List.take_left]

/-! ## The insertion -/

/-- The types of `c` parameters, row after row of `n`. -/
def cyclicFields (n : ℕ) (f : List DbType) (c : ℕ) : List DbType :=
  (List.range c).map fun i => f.getD (i % n) .null

theorem length_cyclicFields (n : ℕ) (f : List DbType) (c : ℕ) :
    (cyclicFields n f c).length = c := by
  rw [cyclicFields, List.length_map, List.length_range]

theorem cyclicFields_succ (n : ℕ) (f : List DbType) (c : ℕ) :
    cyclicFields n f (c + 1) = cyclicFields n f c ++ [f.getD (c % n) .null] := by
  rw [cyclicFields, List.range_succ, List.map_append, cyclicFields]
  rfl

theorem cyclicFields_mul (n : ℕ) (f : List DbType) : ∀ u : ℕ,
    cyclicFields n f (u * n) = (List.replicate u ((List.range n).map fun j =>
      f.getD j .null)).flatten
  | 0 => by rw [Nat.zero_mul]; rfl
  | u + 1 => by
    have hrow : (List.range n).map (fun j => f.getD ((u * n + j) % n) .null) =
        (List.range n).map fun j => f.getD j .null := by
      refine List.map_congr_left fun j hj => ?_
      rw [mul_comm, Nat.mul_add_mod, Nat.mod_eq_of_lt (List.mem_range.mp hj)]
    rw [List.replicate_succ', List.flatten_append, ← cyclicFields_mul n f u, Nat.succ_mul,
      cyclicFields, List.range_add, List.map_append, List.map_map, List.flatten_singleton, ← hrow]
    rfl

namespace Mem

variable {query : AilsaSqlQuery} {total : ℕ}

/-- The row group fits into the buffer measured for it. -/
theorem cmdbCreateValueString_holds (hn : 0 < query.number) :
    ∃ buf, cmdbCreateValueString query = some buf ∧ Holds buf (rowGroup query.number) := by
  have hopen : ", (".toList.length = 3 := rfl
  have hplace : "?, ".toList.length = 3 := rfl
  have hclose : ")".toList.length = 1 := rfl
  obtain ⟨b₀, hb₀, hlen₀, hold₀⟩ := (holds_calloc (by omega : 0 < query.number * 3 + 4)).sprintf_end
    (t := ", (".toList) (by rw [length_calloc, hopen, List.length_nil]; omega)
  obtain ⟨b₁, hb₁, hlen₁, hold₁⟩ := foldlM_range (n := query.number)
    (f := fun value _ => do
      let len ← strlen value
      sprintf value len "?, ".toList)
    (fun i buf => buf.length = query.number * 3 + 4 ∧
      Holds buf (", (".toList ++ openPlaceholders i))
    (fun i hi buf ⟨hlen, hold⟩ => by
      obtain ⟨buf', hbuf', hlen', hold'⟩ := hold.sprintf_end (t := "?, ".toList) (by
        rw [List.length_append, length_openPlaceholders, hopen, hplace, hlen]
        omega)
      refine ⟨buf', ?_, hlen'.trans hlen, ?_⟩
      · rw [hold.strlen_eq]
        exact hbuf'
      · rwa [openPlaceholders_succ, ← List.append_assoc])
    (s := b₀) ⟨by rw [hlen₀, length_calloc], by simpa [openPlaceholders] using hold₀⟩
  have hlast : (", (".toList ++ openPlaceholders query.number).length - 2 =
      (", (".toList ++ placeholders query.number).length := by
    rw [openPlaceholders_eq hn, ← List.append_assoc, List.length_append, List.length_cons,
      List.length_singleton, Nat.add_sub_cancel]
  obtain ⟨b₂, hb₂, -, hold₂⟩ := hold₁.sprintf (t := ")".toList)
    (p := (", (".toList ++ openPlaceholders query.number).length - 2) (Nat.sub_le _ _) (by
      rw [List.length_append, length_openPlaceholders, hopen, hclose, hlen₁]
      omega)
  refine ⟨b₂, ?_, ?_⟩
  · rw [List.length_nil] at hb₀
    simp only [cmdbCreateValueString, hb₀, Option.bind_eq_bind, Option.bind_some]
    simp only [Option.bind_eq_bind] at hb₁
    rw [hb₁, Option.bind_some, hold₁.strlen_eq, Option.bind_some, hb₂]
  · rwa [hlast, openPlaceholders_eq hn, ← List.append_assoc, List.take_left] at hold₂

/-- The loops fill in one full row after another. -/
theorem cmdbInsertFieldsArray_eq {n tot : ℕ} (hn : 0 < n) (f : List DbType) :
    cmdbInsertFieldsArray n tot f = some (cyclicFields n f (tot % 2 ^ 32 / n * n) ++
      List.replicate (tot - tot % 2 ^ 32 / n * n) .null) := by
  have hfull := Nat.div_mul_le_self (tot % 2 ^ 32) n
  have hmod : tot % 2 ^ 32 < 2 ^ 32 := Nat.mod_lt _ (by decide)
  have hle := Nat.mod_le tot (2 ^ 32)
  obtain ⟨m, hm, rfl⟩ := foldlM_range (n := tot % 2 ^ 32 / n)
    (f := fun m i => (List.range n).foldlM (fun m j =>
      let k := if 0 < i then (i * n + j) % 2 ^ 32 else j
      store m k (f.getD j .null)) m)
    (fun i m => m = cyclicFields n f (i * n) ++ List.replicate (tot - i * n) .null)
    (fun i hi m hm => by
      have hrow : i * n + n ≤ tot % 2 ^ 32 / n * n := by
        rw [← Nat.succ_mul]
        exact Nat.mul_le_mul_right _ hi
      obtain ⟨m', hm', rfl⟩ := foldlM_range (n := n)
        (f := fun m j =>
          let k := if 0 < i then (i * n + j) % 2 ^ 32 else j
          store m k (f.getD j .null))
        (fun j m => m = cyclicFields n f (i * n + j) ++
          List.replicate (tot - (i * n + j)) .null)
        (fun j hj m hm => by
          have hk : (if 0 < i then (i * n + j) % 2 ^ 32 else j) = i * n + j := by
            split_ifs with hi0
            · exact Nat.mod_eq_of_lt (by omega)
            · obtain rfl : i = 0 := by omega
              rw [Nat.zero_mul, Nat.zero_add]
          have hfield : (i * n + j) % n = j := by
            rw [Nat.mul_comm, Nat.mul_add_mod, Nat.mod_eq_of_lt hj]
          refine ⟨_, ?_, rfl⟩
          dsimp only
          rw [hm, hk, store_append_replicate (length_cyclicFields ..).symm (by omega),
            ← Nat.add_assoc, cyclicFields_succ, hfield, Nat.sub_sub])
        (s := m) hm
      exact ⟨_, hm', by rw [Nat.succ_mul]⟩)
    (s := List.replicate tot .null) (by simp [cyclicFields])
  exact hm

theorem flatten_replicate_succ (k : ℕ) (s : CStr) :
    (List.replicate (k + 1) s).flatten = (List.replicate k s).flatten ++ s := by
  rw [List.replicate_succ', List.flatten_append]
  simp

/-- The loop of `cmdb_create_multi`, behind the text in the buffer. -/
theorem rowsLoop_run (t : CStr) (k : ℕ) {buf : Buf} {text : CStr} (hbuf : Holds buf text)
    (hfit : text.length + k * t.length < buf.length) :
    ∃ buf', (List.range k).foldlM (fun (q, lenQ) _ => do
        let q ← sprintf q lenQ t
        return (q, lenQ + t.length)) (buf, text.length) =
      some (buf', text.length + k * t.length) ∧
      buf'.length = buf.length ∧ Holds buf' (text ++ (List.replicate k t).flatten) := by
  obtain ⟨⟨buf', lenQ⟩, hrun, hlen, hold, rfl⟩ := foldlM_range (n := k)
    (f := fun (q, lenQ) _ => do
      let q ← sprintf q lenQ t
      return (q, lenQ + t.length))
    (fun i (q, lenQ) => q.length = buf.length ∧
      Holds q (text ++ (List.replicate i t).flatten) ∧ lenQ = text.length + i * t.length)
    (fun i hi (q, lenQ) ⟨hlen, hq, hlenQ⟩ => by
      have hcut : (text ++ (List.replicate i t).flatten).length = lenQ := by
        rw [hlenQ, List.length_append, List.length_flatten, List.map_replicate,
          List.sum_replicate_nat]
      have hrows : (i + 1) * t.length ≤ k * t.length := Nat.mul_le_mul_right _ hi
      rw [Nat.succ_mul] at hrows
      obtain ⟨q', hq', hlen', hold'⟩ := hq.sprintf_end (t := t) (by omega)
      rw [hcut] at hq'
      refine ⟨(q', lenQ + t.length), ?_, hlen'.trans hlen, ?_, ?_⟩
      · simp [hq']
      · rwa [flatten_replicate_succ, ← List.append_assoc]
      · rw [hlenQ, Nat.succ_mul, Nat.add_assoc])
    (s := (buf, text.length))
    ⟨rfl, (List.append_nil text).symm ▸ hbuf, by rw [Nat.zero_mul, Nat.add_zero]⟩
  exact ⟨buf', hrun, hlen, hold⟩

/-- From one row on, the statement fits into its buffer. The number of parameters and the
rows of types are cut to an `unsigned int`. A list shorter than a row is not measured : its
buffer has no cell for the `NUL`. -/
theorem cmdbCreateMulti_eq (hn : 0 < query.number) (hle : query.number ≤ total) :
    cmdbCreateMulti query total = some (.ok
      { query := query.query ++
          (List.replicate (total / query.number - 1) (rowGroup query.number)).flatten
        number := query.number
        total := total % 2 ^ 32
        fields := cyclicFields query.number query.fields
            (total % 2 ^ 32 / query.number * query.number) ++
          List.replicate (total - total % 2 ^ 32 / query.number * query.number) .null }) := by
  obtain ⟨values, hvalues, hold⟩ := cmdbCreateValueString_holds hn
  have hpos : 0 < (rowGroup query.number).length := by rw [length_rowGroup hn]; omega
  obtain ⟨k, hk⟩ := Nat.exists_eq_succ_of_ne_zero (Nat.div_pos hle hn).ne'
  have hsize : (rowGroup query.number).length * (k + 1) =
      k * (rowGroup query.number).length + (rowGroup query.number).length := by ring
  obtain ⟨b₀, hb₀, hlen₀, hold₀⟩ := (holds_calloc (n :=
      (rowGroup query.number).length * (k + 1) + query.query.length) (by omega)).sprintf_end
    (t := query.query) (by rw [length_calloc, List.length_nil]; omega)
  obtain ⟨b₁, hb₁, -, hold₁⟩ := rowsLoop_run (rowGroup query.number) k hold₀ (by
    rw [List.nil_append, hlen₀, length_calloc]
    omega)
  rw [List.length_nil] at hb₀
  rw [List.nil_append] at hold₁ hb₁
  rw [cmdbCreateMulti, if_neg (by omega), if_neg hn.ne', hvalues]
  simp only [Option.bind_eq_bind, Option.bind_some, hold.strlen_eq, hold.text_eq,
    cmdbInsertFieldsArray_eq hn, hk, Nat.succ_sub_one, hb₀]
  simp only [Option.bind_eq_bind] at hb₁
  rw [hb₁, Option.bind_some]
  simp only [hold₁.text_eq, Option.pure_def]

/-- As long as the number of parameters is an `unsigned int`, the buffers hold what
`cmdb_create_multi` is modelled to return. -/
theorem cmdbCreateMulti_refines (hn : 0 < query.number) (hle : query.number ≤ total)
    (htotal : total < 2 ^ 32) :
    cmdbCreateMulti query total = Cmdb.cmdbCreateMulti query total := by
  rw [cmdbCreateMulti_eq hn hle, Nat.mod_eq_of_lt htotal, Cmdb.cmdbCreateMulti,
    if_neg (by omega), if_neg hn.ne', Cmdb.cmdbCreateValueString_eq hn,
    Cmdb.cmdbInsertFieldsArray, cyclicFields_mul]

end Mem

/-! ## The deletion -/

/-- The loop of `cmdb_create_delete_multi`, behind the text in the buffer. -/
theorem placeholderLoop_run (field : DbType) (total : ℕ) {buf : Buf} {text : CStr}
    (hbuf : Holds buf text) (hfit : text.length + total * 3 < buf.length) :
    ∃ buf', (List.range total).foldlM (fun (q, ptr, tmp) i => do
        let q ← sprintf q tmp "?, ".toList
        let ptr ← store ptr i field
        return (q, ptr, tmp + 3)) (buf, List.replicate (2 * total) .null, text.length) =
      some (buf', List.replicate total field ++ List.replicate total .null,
        text.length + total * 3) ∧
      buf'.length = buf.length ∧ Holds buf' (text ++ openPlaceholders total) := by
  have hplace : "?, ".toList.length = 3 := rfl
  obtain ⟨⟨buf', ptr, tmp⟩, hrun, hlen, hold, rfl, rfl⟩ := foldlM_range (n := total)
    (f := fun (q, ptr, tmp) i => do
      let q ← sprintf q tmp "?, ".toList
      let ptr ← store ptr i field
      return (q, ptr, tmp + 3))
    (fun i (q, ptr, tmp) => q.length = buf.length ∧ Holds q (text ++ openPlaceholders i) ∧
      ptr = List.replicate i field ++ List.replicate (2 * total - i) DbType.null ∧
      tmp = text.length + i * 3)
    (fun i hi (q, ptr, tmp) ⟨hlen, hq, hptr, htmp⟩ => by
      have hcells : (text ++ openPlaceholders i).length = tmp := by
        rw [List.length_append, length_openPlaceholders, htmp]
      obtain ⟨q', hq', hlen', hold'⟩ := hq.sprintf_end (t := "?, ".toList) (by omega)
      rw [hcells] at hq'
      refine ⟨(q', List.replicate (i + 1) field ++ List.replicate (2 * total - (i + 1)) .null,
        tmp + 3), ?_, hlen'.trans hlen, ?_, rfl, by omega⟩
      · simp only [hq', Option.bind_eq_bind, Option.bind_some, hptr]
        rw [store_append_replicate List.length_replicate.symm (by omega), List.replicate_succ']
        rfl
      · rwa [openPlaceholders_succ, ← List.append_assoc])
    (s := (buf, List.replicate (2 * total) .null, text.length))
    ⟨rfl, (List.append_nil text).symm ▸ hbuf, rfl, rfl⟩
  refine ⟨buf', hrun.trans ?_, hlen, hold⟩
  rw [Nat.two_mul, Nat.add_sub_cancel]

/-- For a query that ends in `= ?`, `cmdb_create_delete_multi` writes an `IN` with a
placeholder for each of the `total` elements and as many types, inside its buffers. -/
theorem createDeleteMulti_eq (query : AilsaSqlQuery) (stem : CStr) (total : ℕ)
    (hnumber : query.number = 1) (hquery : query.query = stem ++ "= ?".toList)
    (htotal : 0 < total) :
    Mem.cmdbCreateDeleteMulti query total = some (.ok
      { query := stem ++ "IN (".toList ++ placeholders total ++ ")".toList
        number := 1
        total := total % 2 ^ 32
        fields := List.replicate total (query.fields.headD .null) ++
          List.replicate total .null }) := by
  have hin : "IN (".toList.length = 4 := rfl
  have hclose : ")".toList.length = 1 := rfl
  have hlenQ : query.query.length = stem.length + 3 := by rw [hquery, List.length_append]; rfl
  have hcopy : snprintf (query.query.length + 1) query.query = query.query :=
    snprintf_of_length_lt (Nat.lt_succ_self _)
  have hlast : strrchr query.query '=' = some stem.length := by
    rw [hquery]
    exact strrchr_append_cons (by decide) stem
  obtain ⟨b₀, hb₀, hlen₀, hold₀⟩ := (holds_calloc (n := total * 3 + 3 + query.query.length)
    (by omega)).sprintf_end (t := query.query) (by rw [length_calloc, List.length_nil]; omega)
  rw [length_calloc] at hlen₀
  rw [List.nil_append] at hold₀
  obtain ⟨b₁, hb₁, hlen₁, hold₁⟩ := hold₀.sprintf (p := stem.length) (t := "IN (".toList)
    (by omega) (by omega)
  have htake : query.query.take stem.length = stem := by rw [hquery, List.take_left]
  rw [htake] at hold₁
  obtain ⟨b₂, hb₂, hlen₂, hold₂⟩ := placeholderLoop_run (query.fields.headD .null) total hold₁
    (by rw [List.length_append, hin]; omega)
  have hend : (stem ++ "IN (".toList).length = stem.length + 4 := by rw [List.length_append, hin]
  rw [hend] at hb₂
  have hopen : (stem ++ "IN (".toList ++ openPlaceholders total).length =
      stem.length + 4 + total * 3 := by rw [List.length_append, hend, length_openPlaceholders]
  have hback : stem.length + 4 + total * 3 - 2 =
      (stem ++ "IN (".toList ++ placeholders total).length := by
    have := length_placeholders htotal
    rw [List.length_append, hend]
    omega
  obtain ⟨b₃, hb₃, -, hold₃⟩ := hold₂.sprintf (p := stem.length + 4 + total * 3 - 2)
    (t := ")".toList) (by omega) (by omega)
  rw [hback, openPlaceholders_eq htotal, ← List.append_assoc, List.take_left] at hold₃
  rw [List.length_nil] at hb₀
  rw [Mem.cmdbCreateDeleteMulti, if_neg htotal.ne', if_neg (not_not_intro hnumber)]
  simp only [Option.bind_eq_bind, Option.bind_some, hcopy, hb₀, hold₀.text_eq, hlast, hb₁]
  simp only [Option.bind_eq_bind] at hb₂
  rw [hb₂, Option.bind_some]
  simp only [hb₃, Option.bind_some, hold₃.text_eq, hnumber, Option.pure_def]

/-- `DELETE_REVERSE_RECORD` -/
def deleteReverseRecord : AilsaSqlQuery where
  query := "DELETE FROM rev_records WHERE rev_record_id = ?".toList
  number := 1
  fields := [.lint]

/-- three records -/
theorem createDeleteMulti_eq_three :
    Mem.cmdbCreateDeleteMulti deleteReverseRecord 3 = some (.ok
      { query := "DELETE FROM rev_records WHERE rev_record_id ".toList ++ "IN (".toList ++
          placeholders 3 ++ ")".toList
        number := 1
        total := 3 % 2 ^ 32
        fields := List.replicate 3 .lint ++ List.replicate 3 .null }) :=
  createDeleteMulti_eq deleteReverseRecord "DELETE FROM rev_records WHERE rev_record_id ".toList 3
    rfl (by decide +kernel) (by decide)

/-! ## Binding the parameters -/

/-- One call of `sqlite3_bind_` : the position of the parameter, and the value at its type. -/
structure BindCall where
  position : ℕ
  field : DbType
  data : AilsaData
deriving DecidableEq, Repr

/-- The same value `d` positions on. -/
def BindCall.shift (d : ℕ) (call : BindCall) : BindCall :=
  { call with position := d + call.position }

/-- The `switch` of `ailsa_bind_arguments_sqlite`, at the `i`-th parameter; `none` is a text
read where a number stands. -/
def bindCall (i : ℕ) (data : AilsaData) (field : DbType) : Except (Option ℤ) BindCall :=
  match field, data with
  | .text, .number _ => .error none
  | .text, .text _ => .ok ⟨i + 1, field, data⟩
  | .lint, _ => .ok ⟨i + 1, field, data⟩
  | .float, _ => .ok ⟨i + 1, field, data⟩
  | .sint, _ => .ok ⟨i + 1, field, data⟩
  | _, _ => .error (some ailsaInvalidDbtype)

/-- The calls of `ailsa_bind_arguments_sqlite` for `t` parameters, from the `i`-th on, where
the library takes each value. The position is an `int`, and leaves it at `2^31`. -/
def bindCalls (f : List DbType) : ℕ → ℕ → List AilsaData → Except (Option ℤ) (List BindCall)
  | _, 0, _ => .ok []
  | _, _ + 1, [] => .error (some ailsaWrongListLenght)
  | i, t + 1, data :: args =>
    if 2 ^ 31 ≤ i + 1 then .error none
    else do
      let call ← bindCall i data (f.getD i .null)
      let calls ← bindCalls f (i + 1) t args
      return call :: calls

/-- The parts of a statement take the parameters in order, each as many as it has
placeholders. -/
def splitParams {α : Type} : List CStr → List α → List (List α)
  | [], _ => []
  | part :: parts, params =>
    params.take (part.count '?') :: splitParams parts (params.drop (part.count '?'))

/-- The `j`-th `n` elements of a data list. -/
def dataRow (n : ℕ) (data : List AilsaData) (j : ℕ) : List AilsaData := (data.drop (n * j)).take n

/-- What `k` single insertions bind, one after the other. -/
def singleInserts (query : AilsaSqlQuery) (data : List AilsaData) (k : ℕ) :
    Except (Option ℤ) (List (List BindCall)) :=
  (List.range k).mapM fun j => bindCalls query.fields 0 query.number (dataRow query.number data j)

/-- The rows, each at the positions of its group. -/
def groupRows (n : ℕ) (rows : List (List BindCall)) : List (List BindCall) :=
  rows.mapIdx fun j row => row.map (BindCall.shift (n * j))

/-- The statement inserts `k` rows : its text is the query and `k - 1` more groups of
placeholders, its types are those of the query over and over, and each group is bound to
the row the single insertion binds. -/
structure InsertsRows (query : AilsaSqlQuery) (data : List AilsaData) (k : ℕ)
    (rows : List (List BindCall)) (sql : AilsaSqlMulti) : Prop where
  query_eq : sql.query = query.query ++ (List.replicate (k - 1) (rowGroup query.number)).flatten
  fields_eq : sql.fields = (List.range (query.number * k)).map fun i =>
    query.fields.getD (i % query.number) .null
  bound : ∃ calls, bindCalls sql.fields 0 sql.total data = .ok calls ∧
    splitParams (query.query :: List.replicate (k - 1) (rowGroup query.number)) calls =
      groupRows query.number rows

section Binding

variable {f g : List DbType} {i d t t' : ℕ} {args args' : List AilsaData} {calls : List BindCall}

theorem bindCall_shift {data : AilsaData} {field : DbType} {call : BindCall}
    (h : bindCall i data field = .ok call) :
    bindCall (d + i) data field = .ok (call.shift d) := by
  cases field <;> cases data <;> cases h <;> rfl

/-- A bound list has as many calls as parameters, and their positions are `int`s. -/
theorem bindCalls_ok : ∀ {i t : ℕ} {args : List AilsaData} {calls : List BindCall},
    bindCalls f i t args = .ok calls → calls.length = t ∧ (0 < t → i + t < 2 ^ 31)
  | i, 0, args, calls, h => by
    cases h
    exact ⟨rfl, nofun⟩
  | i, t + 1, [], calls, h => by cases h
  | i, t + 1, data :: args, calls, h => by
    rw [bindCalls] at h
    split_ifs at h with hint
    obtain ⟨call, hcall, h⟩ := bind_eq_ok.mp h
    obtain ⟨calls', hcalls, h⟩ := bind_eq_ok.mp h
    cases h
    obtain ⟨hlen, hpos⟩ := bindCalls_ok hcalls
    refine ⟨by rw [List.length_cons, hlen], fun _ => ?_⟩
    rcases t.eq_zero_or_pos with rfl | ht
    · omega
    · have := hpos ht
      omega

/-- The same types `d` positions on bind the same values there. -/
theorem bindCalls_shift : ∀ {i t : ℕ} {args : List AilsaData} {calls : List BindCall},
    bindCalls f i t args = .ok calls → (∀ m, i ≤ m → m < i + t → g.getD (d + m) .null =
      f.getD m .null) → d + i + t < 2 ^ 31 →
    bindCalls g (d + i) t args = .ok (calls.map (BindCall.shift d))
  | i, 0, args, calls, h, _, _ => by
    cases h
    rfl
  | i, t + 1, [], calls, h, _, _ => by cases h
  | i, t + 1, data :: args, calls, h, hg, hint => by
    rw [bindCalls, if_neg (by omega)] at h
    obtain ⟨call, hcall, h⟩ := bind_eq_ok.mp h
    obtain ⟨calls', hcalls, h⟩ := bind_eq_ok.mp h
    cases h
    have hrest := bindCalls_shift (i := i + 1) hcalls
      (fun m hm hmt => hg m (by omega) (by omega)) (by omega)
    rw [bindCalls, if_neg (by omega), hg i (Nat.le_refl _) (by omega), bindCall_shift hcall,
      ok_bind, Nat.add_assoc, hrest]
    rfl

/-- The parameters in front first, then the others. -/
theorem bindCalls_append : ∀ {i t : ℕ} {args : List AilsaData} {calls calls' : List BindCall},
    args.length = t → bindCalls f i t args = .ok calls →
    bindCalls f (i + t) t' args' = .ok calls' →
    bindCalls f i (t + t') (args ++ args') = .ok (calls ++ calls')
  | i, 0, [], calls, calls', _, h, h' => by
    cases h
    rwa [Nat.zero_add, List.nil_append, List.nil_append]
  | i, t + 1, data :: args, calls, calls', hlen, h, h' => by
    rw [bindCalls] at h
    split_ifs at h with hint
    obtain ⟨call, hcall, h⟩ := bind_eq_ok.mp h
    obtain ⟨rest, hrest, h⟩ := bind_eq_ok.mp h
    cases h
    have happ := bindCalls_append (Nat.succ.inj hlen) hrest
      (by rwa [Nat.add_assoc, Nat.add_comm 1])
    rw [Nat.add_right_comm, List.cons_append, bindCalls, if_neg hint, hcall, ok_bind, happ]
    rfl

theorem bindArgumentSqlite_cases {cl : SqliteClient} (hcl : ∀ j, cl.bind j = 0) (i : ℕ)
    (data : AilsaData) (field : DbType) :
    (∃ call, bindCall i data field = .ok call ∧ bindArgumentSqlite cl i data field = some 0) ∨
    (bindCall i data field = .error none ∧ bindArgumentSqlite cl i data field = none) ∨
    (bindCall i data field = .error (some ailsaInvalidDbtype) ∧
      bindArgumentSqlite cl i data field = some ailsaInvalidDbtype) := by
  cases field <;> cases data <;> simp [bindArgumentSqlite, bindCall, hcl]

/-- Where the library takes each value, the code is the one of the calls. -/
theorem ailsaBindArgumentsSqlite_eq {cl : SqliteClient} (hcl : ∀ j, cl.bind j = 0) :
    ∀ {i t : ℕ} {args : List AilsaData}, i + t < 2 ^ 31 →
      ailsaBindArgumentsSqlite cl i t args (f.drop i) =
        match bindCalls f i t args with
        | .ok _ => some 0
        | .error e => e
  | i, 0, args, _ => by cases args <;> rfl
  | i, t + 1, [], _ => rfl
  | i, t + 1, data :: args, hint => by
    have hrest : ailsaBindArgumentsSqlite cl (i + 1) t args (f.drop (i + 1)) =
        match bindCalls f (i + 1) t args with
        | .ok _ => some 0
        | .error e => e := ailsaBindArgumentsSqlite_eq hcl (by omega)
    have hpos : ¬2 ^ 31 ≤ i + 1 := by omega
    rw [ailsaBindArgumentsSqlite, bindCalls, if_neg hpos, List.headD_eq_head?_getD,
      List.head?_drop, ← List.getD_eq_getElem?_getD, List.tail_drop, hrest]
    rcases bindArgumentSqlite_cases hcl i data (f.getD i .null) with
      ⟨call, hcall, hcode⟩ | ⟨hcall, hcode⟩ | ⟨hcall, hcode⟩
    · rw [hcode, hcall, ok_bind]
      rcases bindCalls f (i + 1) t args with e | calls <;> rfl
    · rw [hcode, hcall]
      rfl
    · rw [hcode, hcall]
      rfl

end Binding

/-! ### Rows -/

section

variable {α : Type}

/-- Parts of `n` placeholders take the rows of length `n`. -/
theorem splitParams_flatten {n : ℕ} : ∀ {parts : List CStr} {rows : List (List α)},
    parts.length = rows.length → (∀ part ∈ parts, part.count '?' = n) →
      (∀ row ∈ rows, row.length = n) → splitParams parts rows.flatten = rows
  | [], [], _, _, _ => rfl
  | part :: parts, row :: rows, hlen, hparts, hrows => by
    obtain ⟨hpart, hparts⟩ := List.forall_mem_cons.mp hparts
    obtain ⟨hrow, hrows⟩ := List.forall_mem_cons.mp hrows
    rw [splitParams, hpart, ← hrow, List.flatten_cons, List.take_left, List.drop_left,
      splitParams_flatten (Nat.succ.inj hlen) hparts hrows]

theorem length_flatten_of_forall {n : ℕ} : ∀ {rows : List (List α)},
    (∀ row ∈ rows, row.length = n) → rows.flatten.length = n * rows.length
  | [], _ => rfl
  | row :: rows, h => by
    obtain ⟨hrow, hrows⟩ := List.forall_mem_cons.mp h
    rw [List.flatten_cons, List.length_append, hrow, length_flatten_of_forall hrows,
      List.length_cons, Nat.mul_succ, Nat.add_comm]

/-- The parts take no parameter twice. -/
theorem length_flatten_splitParams_le : ∀ (parts : List CStr) (params : List α),
    (splitParams parts params).flatten.length ≤ params.length
  | [], _ => Nat.zero_le _
  | part :: parts, params => by
    have ih := length_flatten_splitParams_le parts (params.drop (part.count '?'))
    rw [List.length_drop] at ih
    rw [splitParams, List.flatten_cons, List.length_append, List.length_take]
    omega

end

section Rows

variable {query : AilsaSqlQuery} {data : List AilsaData} {k : ℕ} {rows : List (List BindCall)}

theorem singleInserts_ok (h : singleInserts query data k = .ok rows) :
    rows.length = k ∧ ∀ j (hj : j < rows.length),
      bindCalls query.fields 0 query.number (dataRow query.number data j) = .ok rows[j] := by
  have hall := mapM_eq_ok_iff.mp h
  have hlen := hall.length_eq
  rw [List.length_range] at hlen
  refine ⟨hlen.symm, fun j hj => ?_⟩
  have hget := hall.get (i := j) (by rw [List.length_range]; omega) hj
  simpa using hget

theorem length_of_mem_groupRows (h : singleInserts query data k = .ok rows) :
    ∀ row ∈ groupRows query.number rows, row.length = query.number := by
  intro row hrow
  obtain ⟨j, hj, rfl⟩ := List.mem_mapIdx.mp hrow
  rw [List.length_map]
  exact (bindCalls_ok ((singleInserts_ok h).2 j hj)).1

theorem length_groupRows (h : singleInserts query data k = .ok rows) :
    (groupRows query.number rows).length = k := by
  rw [groupRows, List.length_mapIdx, (singleInserts_ok h).1]

/-- The first `m` rows are bound one behind the other. -/
theorem bindCalls_rows (h : singleInserts query data k = .ok rows)
    (hdata : data.length = query.number * k) (hint : data.length < 2 ^ 31) : ∀ m ≤ k,
    bindCalls (cyclicFields query.number query.fields (query.number * k)) 0 (query.number * m)
      (data.take (query.number * m)) = .ok (groupRows query.number (rows.take m)).flatten := by
  intro m hm
  obtain ⟨hlen, hrow⟩ := singleInserts_ok h
  induction m with
  | zero => rfl
  | succ m ih =>
    have hfit : query.number * m + query.number ≤ query.number * k := by
      rw [← Nat.mul_succ]
      exact Nat.mul_le_mul_left _ hm
    have hshift := bindCalls_shift (d := query.number * m)
      (g := cyclicFields query.number query.fields (query.number * k)) (hrow m (by omega))
      (fun c _ hc => by
        rw [cyclicFields, List.getD_eq_getElem?_getD, List.getElem?_map,
          List.getElem?_range (by omega), Option.map_some, Option.getD_some, Nat.mul_add_mod,
          Nat.mod_eq_of_lt (by omega)])
      (by omega)
    have hfirst := ih (by omega)
    rw [Nat.add_zero] at hshift
    rw [Nat.mul_succ, List.take_add, bindCalls_append (by rw [List.length_take]; omega) hfirst
      (by rwa [Nat.zero_add]), List.take_add_one, List.getElem?_eq_getElem (by omega), groupRows,
      groupRows, Option.toList_some, List.mapIdx_append, List.flatten_append, List.length_take,
      Nat.min_eq_left (by omega)]
    simp

/-- The rows of a statement have `int` positions. -/
theorem lt_of_insertsRows {sql : AilsaSqlMulti} (hn : 0 < query.number) (hk : 0 < k)
    (hdata : data.length = query.number * k) (hrows : singleInserts query data k = .ok rows)
    (hsql : Mem.cmdbCreateMulti query data.length = some (.ok sql))
    (h : InsertsRows query data k rows sql) : data.length < 2 ^ 31 := by
  have hle : query.number ≤ data.length := hdata ▸ Nat.le_mul_of_pos_right _ hk
  rw [Mem.cmdbCreateMulti_eq hn hle, Option.some.injEq, Except.ok.injEq] at hsql
  obtain ⟨calls, hcalls, hsplit⟩ := h.bound
  obtain ⟨hcount, hint⟩ := bindCalls_ok hcalls
  have htotal : sql.total = data.length % 2 ^ 32 := by rw [← hsql]
  have hall := length_flatten_splitParams_le
    (query.query :: List.replicate (k - 1) (rowGroup query.number)) calls
  rw [hsplit, length_flatten_of_forall (length_of_mem_groupRows hrows), length_groupRows hrows,
    ← hdata, hcount] at hall
  have hmod := Nat.mod_le data.length (2 ^ 32)
  have := hint (by omega)
  omega

/-- As long as the number of parameters is an `int`, the statement is bound to the rows. -/
theorem exists_insertsRows (hn : 0 < query.number) (hk : 0 < k)
    (hdata : data.length = query.number * k) (hplace : query.query.count '?' = query.number)
    (hrows : singleInserts query data k = .ok rows) (hint : data.length < 2 ^ 31) :
    ∃ sql, Mem.cmdbCreateMulti query data.length = some (.ok sql) ∧
      InsertsRows query data k rows sql := by
  have hle : query.number ≤ data.length := hdata ▸ Nat.le_mul_of_pos_right _ hk
  have hk' : data.length / query.number = k := by rw [hdata, Nat.mul_div_cancel_left _ hn]
  refine ⟨_, Mem.cmdbCreateMulti_eq hn hle, ?_, ?_, ?_⟩
  · rw [hk']
  · rw [Nat.mod_eq_of_lt (by omega), hk', Nat.mul_comm k, ← hdata, Nat.sub_self,
      List.replicate_zero, List.append_nil, hdata]
    rfl
  · refine ⟨(groupRows query.number rows).flatten, ?_, ?_⟩
    · have hall := bindCalls_rows hrows hdata hint k le_rfl
      rw [← hdata, List.take_length, ← (singleInserts_ok hrows).1, List.take_length] at hall
      rw [Nat.mod_eq_of_lt (by omega), hk', Nat.mul_comm k, ← hdata, Nat.sub_self,
        List.replicate_zero, List.append_nil]
      exact hall
    · refine splitParams_flatten ?_ ?_ (length_of_mem_groupRows hrows)
      · rw [length_groupRows hrows, List.length_cons, List.length_replicate]
        omega
      · refine List.forall_mem_cons.mpr ⟨hplace, fun part hpart => ?_⟩
        rw [List.eq_of_mem_replicate hpart, count_rowGroup hn]

/-- `INSERT_SERVICE_TYPE` -/
def insertServiceType : AilsaSqlQuery where
  query := "INSERT INTO service_type (service, detail) VALUES (?, ?)".toList
  number := 2
  fields := [.text, .text]

/-- two services -/
def twoServices : List AilsaData :=
  [.text "dns".toList, .text "name service".toList, .text "smtp".toList, .text "mail".toList]

end Rows

end Cmdb
