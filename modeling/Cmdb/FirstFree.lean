import Mathlib.Data.List.Nodup
import Mathlib.Order.Lattice

/-!
# Requests that take the first free slot

A list of requests is gone through, and each takes the first slot of its key that is still
free, or none. `count_served` : of the requests with a key as many are served as there are
slots of the key, if there are that many. So every key is served once at most exactly if no
key has two free slots and two requests (`nodup_served_iff`).
-/

namespace FirstFree

/-- Slots with a key, that are free or taken. Taking one leaves its key. -/
structure Slots (S K : Type*) where
  key : S → K
  free : S → Bool
  take : S → S
  key_take : ∀ s, key (take s) = key s
  free_take : ∀ s, free (take s) = false

variable {S R K : Type*} [DecidableEq K] (σ : Slots S K) (key : R → K)

/-- The slots after the first free one of key `k` was taken. -/
def takeFirst (k : K) : List S → Option (List S)
  | [] => none
  | s :: l =>
    if σ.key s = k ∧ σ.free s = true then some (σ.take s :: l)
    else (takeFirst k l).map (s :: ·)

/-- The requests that are served, in order, and the slots that are left. -/
def serve : List R → List S → List R × List S
  | [], l => ([], l)
  | r :: rs, l =>
    match takeFirst σ (key r) l with
    | some l' => (r :: (serve rs l').1, (serve rs l').2)
    | none => serve rs l

/-- The number of free slots of a key. -/
def freeAt (l : List S) (k : K) : ℕ := l.countP fun s => σ.key s = k ∧ σ.free s = true

variable {σ} {key} {k : K} {l l' : List S}

theorem takeFirst_cons (k : K) (s : S) (l : List S) : takeFirst σ k (s :: l) =
    if σ.key s = k ∧ σ.free s = true then some (σ.take s :: l)
    else (takeFirst σ k l).map (s :: ·) := rfl

theorem takeFirst_eq_none : ∀ {l : List S}, takeFirst σ k l = none ↔ freeAt σ l k = 0
  | [] => by simp [takeFirst, freeAt]
  | s :: l => by
    have ih := takeFirst_eq_none (l := l)
    rw [takeFirst_cons, freeAt, List.countP_cons]
    by_cases h : σ.key s = k ∧ σ.free s = true
    · simp [h]
    · rw [if_neg h, Option.map_eq_none_iff, ih, freeAt]
      simp [h]

/-- Taking a slot of key `k` leaves one free slot less there, and as many elsewhere. -/
theorem freeAt_takeFirst : ∀ {l l' : List S}, takeFirst σ k l = some l' →
    ∀ n, freeAt σ l n = freeAt σ l' n + if k = n then 1 else 0
  | s :: l, l', h, n => by
    rw [takeFirst_cons] at h
    by_cases hs : σ.key s = k ∧ σ.free s = true
    · rw [if_pos hs, Option.some_inj] at h
      subst h
      obtain ⟨rfl, hfree⟩ := hs
      simp [freeAt, List.countP_cons, hfree, σ.free_take]
    · rw [if_neg hs, Option.map_eq_some_iff] at h
      obtain ⟨l'', hl, rfl⟩ := h
      have ih := freeAt_takeFirst hl n
      unfold freeAt at ih ⊢
      rw [List.countP_cons, List.countP_cons, ih]
      omega

theorem map_key_takeFirst : ∀ {l l' : List S}, takeFirst σ k l = some l' →
    l'.map σ.key = l.map σ.key
  | s :: l, l', h => by
    rw [takeFirst_cons] at h
    split_ifs at h
    · cases h
      rw [List.map_cons, List.map_cons, σ.key_take]
    · obtain ⟨l'', hl, rfl⟩ := Option.map_eq_some_iff.mp h
      rw [List.map_cons, List.map_cons, map_key_takeFirst hl]

/-! ## What is served -/

theorem serve_sublist : ∀ (rs : List R) (l : List S), (serve σ key rs l).1.Sublist rs
  | [], _ => List.Sublist.refl _
  | r :: rs, l => by
    rw [serve]
    rcases takeFirst σ (key r) l with _ | l'
    · exact (serve_sublist rs l).cons r
    · exact (serve_sublist rs l').cons_cons r

/-- As many requests of a key are served as there are, or as there are free slots. -/
theorem count_served (n : K) : ∀ (rs : List R) (l : List S),
    ((serve σ key rs l).1.map key).count n = min (freeAt σ l n) ((rs.map key).count n)
  | [], l => by simp [serve]
  | r :: rs, l => by
    rw [serve, List.map_cons, List.count_cons]
    simp only [beq_iff_eq]
    rcases h : takeFirst σ (key r) l with _ | l'
    · rw [count_served n rs l]
      by_cases hr : key r = n
      · rw [← hr, takeFirst_eq_none.mp h, Nat.zero_min, Nat.zero_min]
      · rw [if_neg hr, Nat.add_zero]
    · rw [List.map_cons, List.count_cons, count_served n rs l', freeAt_takeFirst h n]
      simp only [beq_iff_eq]
      omega

/-- Every key is served once at most exactly if no key has both two free slots and two
requests. -/
theorem nodup_served_iff (rs : List R) (l : List S) :
    ((serve σ key rs l).1.map key).Nodup ↔
      ∀ n, freeAt σ l n ≤ 1 ∨ (rs.map key).count n ≤ 1 := by
  rw [List.nodup_iff_count]
  refine forall_congr' fun n => ?_
  rw [count_served]
  omega

/-- A key is served exactly if it has a free slot and a request. -/
theorem mem_served_iff (rs : List R) (l : List S) (n : K) :
    n ∈ (serve σ key rs l).1.map key ↔ 0 < freeAt σ l n ∧ n ∈ rs.map key := by
  rw [← List.count_pos_iff, count_served, ← List.count_pos_iff, Nat.lt_min]

end FirstFree
