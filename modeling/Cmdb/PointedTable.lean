import Mathlib.Data.List.Nodup

/-!
# A table with a row that is pointed to

Rows with an id and a key, and a second table that holds at most one reference to an id.
What `Step`s do to it : rows are added under new ids and keys, rows go together with the
reference to them, and the reference is set, or moved if there is one. Each keeps `Ok`.
-/

/-- The rows, by id and key, and the ids in the table of the reference. -/
structure PointedTable (κ : Type) where
  rows : List (ℕ × κ)
  ref : List ℕ

namespace PointedTable

variable {κ : Type}

/-- The ids of the rows. -/
def ids (t : PointedTable κ) : List ℕ := t.rows.map Prod.fst

/-- The keys of the rows. -/
def keys (t : PointedTable κ) : List κ := t.rows.map Prod.snd

variable {t t' : PointedTable κ} {id id' : ℕ} {key : κ}

/-- Ids and keys are unique, ids are no zeros, and the one reference is that of a row. -/
structure Ok (t : PointedTable κ) : Prop where
  ids : t.ids.Nodup
  keys : t.keys.Nodup
  pos : ∀ id ∈ t.ids, 0 < id
  one : t.ref.length ≤ 1
  refers : ∀ id ∈ t.ref, id ∈ t.ids

theorem ok_empty : Ok (⟨[], []⟩ : PointedTable κ) :=
  ⟨List.nodup_nil, List.nodup_nil, nofun, Nat.zero_le _, nofun⟩

/-- A key is that of one row. -/
theorem Ok.id_unique (h : t.Ok) (hid : (id, key) ∈ t.rows) (hid' : (id', key) ∈ t.rows) :
    id = id' :=
  congrArg Prod.fst (List.inj_on_of_nodup_map h.keys hid hid' rfl)

/-- What may happen to the table. -/
inductive Step (t : PointedTable κ) : PointedTable κ → Prop
  | same : t.Step t
  | add {id : ℕ} {key : κ} (hpos : 0 < id) (hid : id ∉ t.ids) (hkey : key ∉ t.keys) :
    t.Step { t with rows := t.rows ++ [(id, key)] }
  | remove {t' : PointedTable κ} (hrows : t'.rows.Sublist t.rows) (href : t'.ref.Sublist t.ref)
    (hleft : ∀ id ∈ t'.ref, id ∈ t'.ids) : t.Step t'
  | point {id : ℕ} (hid : id ∈ t.ids) (href : t.ref = []) :
    t.Step { t with ref := t.ref ++ [id] }
  | move {id : ℕ} (hid : id ∈ t.ids) : t.Step { t with ref := t.ref.map fun _ => id }

/-- Every step keeps the table. -/
theorem Step.ok (hstep : t.Step t') (h : t.Ok) : t'.Ok := by
  cases hstep with
  | same => exact h
  | @add id key hpos hid hkey =>
    have hids : (t.rows ++ [(id, key)]).map Prod.fst = t.ids ++ [id] := List.map_append
    have hkeys : (t.rows ++ [(id, key)]).map Prod.snd = t.keys ++ [key] := List.map_append
    refine ⟨?_, ?_, fun i hi => ?_, h.one, fun i hi => ?_⟩
    · rw [PointedTable.ids, hids]
      exact List.nodup_append_comm.mp (List.nodup_cons.mpr ⟨hid, h.ids⟩)
    · rw [PointedTable.keys, hkeys]
      exact List.nodup_append_comm.mp (List.nodup_cons.mpr ⟨hkey, h.keys⟩)
    · rw [PointedTable.ids, hids] at hi
      obtain hi | hi := List.mem_append.mp hi
      · exact h.pos i hi
      · rwa [List.mem_singleton.mp hi]
    · rw [PointedTable.ids, hids]
      exact List.mem_append_left _ (h.refers i hi)
  | remove hrows href hleft =>
    have hsub := hrows.map Prod.fst
    exact ⟨h.ids.sublist hsub, h.keys.sublist (hrows.map Prod.snd),
      fun i hi => h.pos i (hsub.subset hi), Nat.le_trans href.length_le h.one, hleft⟩
  | @point id hid href =>
    refine ⟨h.ids, h.keys, h.pos, ?_, fun i hi => ?_⟩
    · rw [href]
      exact Nat.le_refl 1
    · rw [href] at hi
      rwa [List.mem_singleton.mp hi]
  | move hid =>
    refine ⟨h.ids, h.keys, h.pos, ?_, fun i hi => ?_⟩
    · rw [List.length_map]
      exact h.one
    · obtain ⟨-, -, rfl⟩ := List.mem_map.mp hi
      exact hid

/-! ## Tables of rows with an id and a key -/

section

variable {α : Type} {ident : α → ℕ} {name : α → κ} {rows : List α} {ref : List ℕ}

/-- The table of `rows`. -/
def of (ident : α → ℕ) (name : α → κ) (rows : List α) (ref : List ℕ) : PointedTable κ :=
  ⟨rows.map fun a => (ident a, name a), ref⟩

@[simp] theorem of_ref : (of ident name rows ref).ref = ref := rfl

@[simp] theorem of_ids : (of ident name rows ref).ids = rows.map ident := List.map_map

@[simp] theorem of_keys : (of ident name rows ref).keys = rows.map name := List.map_map

theorem mem_of_rows : (id, key) ∈ (of ident name rows ref).rows ↔
    ∃ a ∈ rows, ident a = id ∧ name a = key := by
  simp only [of, List.mem_map, Prod.mk.injEq]

theorem of_append (a : α) : of ident name (rows ++ [a]) ref =
    { of ident name rows ref with
      rows := (of ident name rows ref).rows ++ [(ident a, name a)] } :=
  congrArg (PointedTable.mk · ref) List.map_append

theorem step_of_append {a : α} (hpos : 0 < ident a) (hid : ident a ∉ rows.map ident)
    (hkey : name a ∉ rows.map name) :
    (of ident name rows ref).Step (of ident name (rows ++ [a]) ref) := by
  rw [of_append]
  exact .add hpos (by rwa [of_ids]) (by rwa [of_keys])

/-- Rows go together with the references to them. -/
theorem step_of_filter {p : α → Bool} {q : ℕ → Bool} (hok : (of ident name rows ref).Ok)
    (h : ∀ a ∈ rows, q (ident a) = true → p a = true) :
    (of ident name rows ref).Step (of ident name (rows.filter p) (ref.filter q)) := by
  refine .remove (List.filter_sublist.map _) List.filter_sublist fun i hi => ?_
  obtain ⟨hi, hq⟩ := List.mem_filter.mp hi
  obtain ⟨a, ha, rfl⟩ := List.mem_map.mp (of_ids ▸ hok.refers i hi)
  rw [of_ids]
  exact List.mem_map_of_mem (List.mem_filter.mpr ⟨ha, h a ha hq⟩)

end

/-- Once there is a reference, it is moved. -/
theorem Ok.move_eq (h : t.Ok) (href : t.ref ≠ []) : (t.ref.map fun _ => id) = [id] := by
  obtain ⟨i, hi⟩ := List.length_eq_one_iff.mp
    (Nat.le_antisymm h.one (List.length_pos_iff.mpr href))
  rw [hi]
  rfl

end PointedTable
