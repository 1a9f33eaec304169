import Mathlib.Data.Char
import Mathlib.Data.List.Basic
import Mathlib.Data.List.Lex
import Mathlib.Data.Int.Notation

/-!
# Statements with placeholders

A part of SQL, from the text of a statement to what it finds : `SELECT` from one table or from two
that are joined, and `DELETE`, with conditions that compare columns to placeholders and look
for a value in a sub-select. `parse` reads a text, `Statement.Resolves` says that the tables
have the columns it names, and `prepare` does both. `Cond.Holds` is the meaning of a condition,
with the values of the placeholders as an argument; `NULL` equals nothing, and a placeholder
that is not bound is `NULL`. There is no negation, so a condition that is not true need not be
told apart from one that is false.
-/

namespace Sql

abbrev Name := List Char

/-! ## Values -/

inductive Value
  | null
  | int (n : ℤ)
  | text (s : List Char)
deriving DecidableEq, Repr

namespace Value

/-- `a = b` is true. -/
def Equals (a b : Value) : Prop := a ≠ null ∧ a = b

instance (a b : Value) : Decidable (a.Equals b) := inferInstanceAs (Decidable (_ ∧ _))

/-- The order of the answers : `NULL`, numbers, texts. -/
def le : Value → Value → Bool
  | null, _ => true
  | int _, null => false
  | int m, int n => m ≤ n
  | int _, text _ => true
  | text s, text t => s ≤ t
  | text _, _ => false

variable {a b : Value} {m n : ℤ} {s t : List Char}

@[simp] theorem not_null_equals : ¬null.Equals b := fun h => h.1 rfl

@[simp] theorem not_equals_null : ¬a.Equals null := fun h => h.1 h.2

@[simp] theorem int_equals_int : (int m).Equals (int n) ↔ m = n := by simp [Equals]

theorem nat_equals_nat {i j : ℕ} : (int i).Equals (int j) ↔ i = j :=
  int_equals_int.trans Int.ofNat_inj

@[simp] theorem text_equals_text : (text s).Equals (text t) ↔ s = t := by simp [Equals]

end Value

/-! ## Statements -/

structure Column where
  qualifier : Option Name
  name : Name
deriving DecidableEq, Repr

/-- A condition. The placeholders are numbered from `0` as they stand in the text. -/
inductive Cond
  | param (c : Column) (i : ℕ)
  | column (c d : Column)
  | and (v w : Cond)
  | or (v w : Cond)
  | inSelect (c : Column) (column table : Name) (w : Cond)
deriving DecidableEq, Repr

inductive Source
  | table (t : Name)
  | join (t a u b : Name) (on : Cond)
deriving DecidableEq, Repr

structure Select where
  columns : List Column
  source : Source
  cond : Cond
  orderBy : List Column
  descending : Bool
  limit : Option ℕ
deriving DecidableEq, Repr

inductive Statement
  | select (s : Select)
  | delete (t : Name) (w : Cond)
deriving DecidableEq, Repr

/-- The columns that are compared to placeholders. -/
def Cond.params : Cond → List (Column × ℕ)
  | param c i => [(c, i)]
  | column _ _ => []
  | and v w => v.params ++ w.params
  | or v w => v.params ++ w.params
  | inSelect _ _ _ w => w.params

def Statement.cond : Statement → Cond
  | select s => s.cond
  | delete _ w => w

/-! ## Reading a text -/

inductive Token
  | word (w : Name)
  | dot | comma | equals | placeholder | lparen | rparen
deriving DecidableEq, Repr

/-- The word whose letters `w` were read last first, if there is one. -/
def flush (w : List Char) (ts : List Token) : List Token :=
  if w = [] then ts else .word w.reverse :: ts

/-- The tokens of a text, behind the letters `w` of a word. Case does not matter. -/
def lex : List Char → List Char → Option (List Token)
  | w, [] => some (flush w [])
  | w, c :: s =>
    if c.isAlphanum ∨ c = '_' then lex (c.toLower :: w) s
    else do
      let ts ← lex [] s
      match c with
      | ' ' => some (flush w ts)
      | '.' => some (flush w (.dot :: ts))
      | ',' => some (flush w (.comma :: ts))
      | '=' => some (flush w (.equals :: ts))
      | '?' => some (flush w (.placeholder :: ts))
      | '(' => some (flush w (.lparen :: ts))
      | ')' => some (flush w (.rparen :: ts))
      | _ => none

/-- The tokens that are left, and the number of placeholders read. -/
structure ReadState where
  tokens : List Token
  params : ℕ

abbrev Reader (α : Type) := StateT ReadState Option α

def next : Reader Token := do
  let s ← get
  match s.tokens with
  | [] => failure
  | t :: ts =>
    set { s with tokens := ts }
    return t

def expect (t : Token) : Reader Unit := do
  let t' ← next
  guard (t' = t)

def keyword (w : String) : Reader Unit := expect (.word w.toList)

def word : Reader Name := do
  match ← next with
  | .word w => return w
  | _ => failure

/-- The next token is `t`, which is read then. -/
def accept (t : Token) : Reader Bool := do
  let s ← get
  if s.tokens.head? = some t then
    let _ ← next
    return true
  return false

def column : Reader Column := do
  let w ← word
  if ← accept .dot then
    return ⟨some w, ← word⟩
  return ⟨none, w⟩

/-- `c = ?`, `c = d` or `c IN (SELECT d FROM t WHERE ..)`. -/
def comparison (cond : Reader Cond) : Reader Cond := do
  let c ← column
  if ← accept .equals then
    if ← accept .placeholder then
      let s ← get
      set { s with params := s.params + 1 }
      return .param c s.params
    return .column c (← column)
  keyword "in"
  expect .lparen
  keyword "select"
  let d ← word
  keyword "from"
  let t ← word
  keyword "where"
  let w ← cond
  expect .rparen
  return .inSelect c d t w

def atom (cond : Reader Cond) : Reader Cond := do
  if ← accept .lparen then
    let w ← cond
    expect .rparen
    return w
  comparison cond

/-- Several `p` with `op` between them, behind `v`. -/
def chainRest (op : String) (mk : Cond → Cond → Cond) (p : Reader Cond) : ℕ → Cond → Reader Cond
  | 0, v => return v
  | n + 1, v => do
    if ← accept (.word op.toList) then
      let w ← p
      chainRest op mk p n (mk v w)
    else return v

def chain (op : String) (mk : Cond → Cond → Cond) (p : Reader Cond) (n : ℕ) : Reader Cond := do
  chainRest op mk p n (← p)

/-- A condition with at most `n` brackets one in another : `AND` binds before `OR`. -/
def cond : ℕ → Reader Cond
  | 0 => failure
  | n + 1 => chain "or" .or (chain "and" .and (atom (cond n)) n) n

def columnsRest : ℕ → Reader (List Column)
  | 0 => return []
  | n + 1 => do
    if ← accept .comma then
      return (← column) :: (← columnsRest n)
    return []

def columns (n : ℕ) : Reader (List Column) := do
  return (← column) :: (← columnsRest n)

def source (n : ℕ) : Reader Source := do
  let t ← word
  let s ← get
  if s.tokens.head? = some (.word "where".toList) then
    return .table t
  let a ← word
  keyword "join"
  let u ← word
  let b ← word
  keyword "on"
  return .join t a u b (← cond n)

/-- A number in digits. -/
def number (w : Name) : Option ℕ :=
  w.foldlM (fun m c => if c.isDigit then some (10 * m + (c.toNat - '0'.toNat)) else none) 0

def selectStatement (n : ℕ) : Reader Statement := do
  let columns' ← columns n
  keyword "from"
  let source ← source n
  keyword "where"
  let w ← cond n
  let ordered ← accept (.word "order".toList)
  let orderBy ← if ordered then do
      keyword "by"
      columns n
    else pure []
  let descending ← accept (.word "desc".toList)
  if ← accept (.word "limit".toList) then
    let m ← number (← word)
    return .select ⟨columns', source, w, orderBy, descending, some m⟩
  return .select ⟨columns', source, w, orderBy, descending, none⟩

def statement (n : ℕ) : Reader Statement := do
  if ← accept (.word "delete".toList) then
    keyword "from"
    let t ← word
    keyword "where"
    return .delete t (← cond n)
  keyword "select"
  selectStatement n

/-- The statement of a text, all of which is read. -/
def parse (text : List Char) : Option Statement := do
  let ts ← lex [] text
  let (s, rest) ← statement ts.length ⟨ts, 0⟩
  guard (rest.tokens = [])
  return s

/-! ## Tables -/

structure Table where
  columns : List Name
  rows : List (Name → Value)

/-- The value of a column by its name. -/
def valueOf {R : Type} (columns : List (Name × (R → Value))) (r : R) : Name → Value := fun c =>
  (columns.lookup c).elim .null fun f => f r

/-- A table of rows whose columns are read with functions. -/
def Table.ofColumns {R : Type} (columns : List (Name × (R → Value))) (rows : List R) : Table where
  columns := columns.map Prod.fst
  rows := rows.map (valueOf columns)

abbrev Tables := Name → Option Table

/-- What the columns of a condition are worth. -/
abbrev Row := Column → Value

/-- A row of the only table. -/
def ofTable (r : Name → Value) : Row := fun c => r c.name

/-- A row of two tables that go by `a` and `b`. -/
def ofJoin (a b : Name) (r r' : Name → Value) : Row := fun c =>
  if c.qualifier = some a then r c.name
  else if c.qualifier = some b then r' c.name
  else .null

variable (tables : Tables) (args : ℕ → Value)

def rowsOf (t : Name) : List (Name → Value) := (tables t).elim [] Table.rows

/-! ## Meaning -/

def Cond.Holds : Cond → Row → Prop
  | param c i, r => (r c).Equals (args i)
  | column c d, r => (r c).Equals (r d)
  | and v w, r => v.Holds r ∧ w.Holds r
  | or v w, r => v.Holds r ∨ w.Holds r
  | inSelect c d t w, r =>
    ∃ r' ∈ rowsOf tables t, w.Holds (ofTable r') ∧ (r c).Equals (r' d)

instance Cond.decidableHolds : (w : Cond) → (r : Row) → Decidable (w.Holds tables args r)
  | param _ _, _ => inferInstanceAs (Decidable (Value.Equals _ _))
  | column _ _, _ => inferInstanceAs (Decidable (Value.Equals _ _))
  | and v w, r =>
    have := decidableHolds v r
    have := decidableHolds w r
    inferInstanceAs (Decidable (_ ∧ _))
  | or v w, r =>
    have := decidableHolds v r
    have := decidableHolds w r
    inferInstanceAs (Decidable (_ ∨ _))
  | inSelect c d t w, r =>
    have := fun r' => decidableHolds w (ofTable r')
    inferInstanceAs (Decidable (∃ r' ∈ rowsOf tables t, _ ∧ (r c).Equals (r' d)))

/-- The rows a `SELECT` goes over. -/
def Source.rows : Source → List Row
  | table t => (rowsOf tables t).map ofTable
  | join t a u b on =>
    ((rowsOf tables t).flatMap fun r => (rowsOf tables u).map (ofJoin a b r)).filter fun r =>
      on.Holds tables args r

namespace Select

variable (s : Select)

/-- The rows it finds. -/
def found : List Row := (s.source.rows tables args).filter fun r => s.cond.Holds tables args r

/-- `ORDER BY`, the first column first. -/
def leOn : List Column → Row → Row → Bool
  | [], _, _ => true
  | c :: cs, r, r' => if r c = r' c then leOn cs r r' else (r c).le (r' c)

/-- `r` comes before `r'`, or at the same place. -/
def before (r r' : Row) : Bool :=
  if s.descending then leOn s.orderBy r' r else leOn s.orderBy r r'

/-- The rows of the answer, in order. -/
def rows : List Row :=
  let sorted := (s.found tables args).mergeSort s.before
  s.limit.elim sorted sorted.take

/-- The answer. -/
def answer : List (List Value) := (s.rows tables args).map fun r => s.columns.map r

end Select

/-! ## Resolving names -/

namespace Table

/-- `c` is a column of the table, which goes by `a`. -/
def Has (t : Table) (a : Option Name) (c : Column) : Prop := c.qualifier = a ∧ c.name ∈ t.columns

instance (t : Table) (a : Option Name) (c : Column) : Decidable (t.Has a c) :=
  inferInstanceAs (Decidable (_ ∧ _))

end Table

/-- The columns of a condition are among those in `scope`. -/
def Cond.resolves : Cond → (Column → Bool) → Bool
  | param c _, scope => scope c
  | column c d, scope => scope c && scope d
  | and v w, scope => v.resolves scope && w.resolves scope
  | or v w, scope => v.resolves scope && w.resolves scope
  | inSelect c d t w, scope => scope c &&
    (tables t).any fun t => t.Has none ⟨none, d⟩ && w.resolves fun c => t.Has none c

/-- The columns of a source. -/
def Source.scope : Source → Column → Bool
  | table t, c => (tables t).any fun t => t.Has none c
  | join t a u b _, c => (tables t).any (fun t => t.Has (some a) c) ||
    (tables u).any fun u => u.Has (some b) c

/-- The tables have the columns the statement names. -/
def Statement.resolves : Statement → Bool
  | select s => (s.columns ++ s.orderBy).all (s.source.scope tables) &&
    s.cond.resolves tables (s.source.scope tables) &&
    match s.source with
    | .table _ => true
    | .join _ _ _ _ on => on.resolves tables (s.source.scope tables)
  | delete t w => (tables t).any fun t => w.resolves tables fun c => t.Has none c

/-- The statement of a text, whose columns the tables have. -/
def prepare (text : List Char) : Option Statement :=
  (parse text).filter fun s => s.resolves tables

/-! ## Answers -/

variable {tables args} {s : Select}

/-- Without a limit the answer is what is found, in some order. -/
theorem Select.rows_perm (h : s.limit = none) :
    (s.rows tables args).Perm (s.found tables args) := by
  rw [Select.rows, h]
  exact List.mergeSort_perm _ _

/-- Without an order it is what is found, as the table has it. -/
theorem Select.rows_eq_found (horder : s.orderBy = []) (h : s.limit = none) :
    s.rows tables args = s.found tables args := by
  rw [Select.rows, h]
  refine List.mergeSort_of_pairwise (List.pairwise_of_forall fun r r' => ?_)
  rw [Select.before, horder]
  split <;> rfl

section OfColumns

variable {R R' : Type} {columns : List (Name × (R → Value))} {rs : List R} {t : Name}
  {columns' : List (Name × (R' → Value))} {rs' : List R'} {u : Name}

theorem rowsOf_ofColumns (h : tables t = some (.ofColumns columns rs)) :
    rowsOf tables t = rs.map (valueOf columns) := by
  rw [rowsOf, h]
  rfl

theorem Cond.holds_inSelect (h : tables t = some (.ofColumns columns rs)) {c : Column} {d : Name}
    {w : Cond} {r : Row} : (inSelect c d t w).Holds tables args r ↔
      ∃ x ∈ rs, w.Holds tables args (ofTable (valueOf columns x)) ∧
        (r c).Equals (valueOf columns x d) := by
  rw [Cond.Holds, rowsOf_ofColumns h]
  simp only [List.mem_map, exists_exists_and_eq_and]

theorem Source.rows_table (h : tables t = some (.ofColumns columns rs)) :
    (table t).rows tables args = rs.map fun x => ofTable (valueOf columns x) := by
  rw [Source.rows, rowsOf_ofColumns h, List.map_map]
  rfl

/-- The pairs of rows that are joined. -/
theorem Source.rows_join (h : tables t = some (.ofColumns columns rs))
    (h' : tables u = some (.ofColumns columns' rs')) {a b : Name} {on : Cond} :
    (join t a u b on).rows tables args =
      ((rs.product rs').filter fun x => on.Holds tables args
        (ofJoin a b (valueOf columns x.1) (valueOf columns' x.2))).map
        fun x => ofJoin a b (valueOf columns x.1) (valueOf columns' x.2) := by
  have hpairs : (rs.map (valueOf columns)).flatMap (fun r =>
      (rs'.map (valueOf columns')).map (ofJoin a b r)) =
      (rs.product rs').map fun x => ofJoin a b (valueOf columns x.1) (valueOf columns' x.2) := by
    simp only [List.product, List.flatMap_map, List.map_flatMap, List.map_map]
    rfl
  rw [Source.rows, rowsOf_ofColumns h, rowsOf_ofColumns h', hpairs, List.filter_map]
  rfl

/-- What is found among rows that are read from `l`. -/
theorem Select.found_map {l : List R} {f : R → Row} (h : s.source.rows tables args = l.map f) :
    s.found tables args = (l.filter fun x => s.cond.Holds tables args (f x)).map f := by
  rw [Select.found, h, List.filter_map]
  rfl

end OfColumns

theorem prepare_eq_some {text : List Char} {s : Statement} (hp : parse text = some s)
    (hr : s.resolves tables = true) : prepare tables text = some s := by
  rw [prepare, hp]
  exact if_pos hr

theorem prepare_eq_none {text : List Char} (hp : parse text = none) :
    prepare tables text = none := by
  rw [prepare, hp]
  rfl

end Sql
