/-
Tables as lists of rows of which no two have one key, and the statements that
name their row by it: an `INSERT` into a table with UNIQUE constraints, an
`UPDATE … WHERE key = k` and a `DELETE … WHERE key = k`. What each does to the
row under a key is one equation.
-/
import AtomaProxy.Base.Bigint
import Mathlib.Data.List.Nodup

namespace Base

universe u v

section

variable {ρ : Type u} {κ : Type v} [DecidableEq κ]

/-- The row under a key. -/
def rowOf (key : ρ → κ) (k : κ) (rows : List ρ) : Option ρ := rows.find? fun r => key r = k

/-- `INSERT`: `clash` says which rows a constraint forbids beside the new one. -/
def insertNew (clash : ρ → Bool) (row : ρ) (rows : List ρ) : Except SqlError (List ρ) :=
  if rows.any clash then .error .uniqueViolation else .ok (rows ++ [row])

/-- `UPDATE … WHERE key = k`, of columns that are not the key's. -/
def updateWhere (key : ρ → κ) (k : κ) (f : ρ → ρ) (rows : List ρ) : List ρ :=
  rows.map fun r => if key r = k then f r else r

/-- `DELETE … WHERE key = k`. -/
def deleteWhere (key : ρ → κ) (k : κ) (rows : List ρ) : List ρ := rows.filter fun r => key r ≠ k

/-- The key is one: a PRIMARY KEY. -/
def Keyed (key : ρ → κ) (rows : List ρ) : Prop := (rows.map key).Nodup

variable {key : ρ → κ} {rows : List ρ} {k k' : κ} {row : ρ}

theorem insertNew_ok {clash : ρ → Bool} {rows' : List ρ} :
    insertNew clash row rows = .ok rows' ↔ (∀ r ∈ rows, clash r = false) ∧ rows' = rows ++ [row] := by
  unfold insertNew
  split
  · next h =>
    obtain ⟨r, hr, hclash⟩ := List.any_eq_true.1 h
    refine iff_of_false (fun h => nomatch h) fun h => ?_
    rw [h.1 r hr] at hclash
    cases hclash
  · next h =>
    rw [List.any_eq_true, not_exists] at h
    simp only [Except.ok.injEq, eq_comm (a := rows'), iff_and_self]
    exact fun _ r hr => Bool.eq_false_of_not_eq_true fun hclash => h r ⟨hr, hclash⟩

theorem insertNew_error {clash : ρ → Bool} {e : SqlError} (h : insertNew clash row rows = .error e) :
    ∃ r ∈ rows, clash r = true := by
  unfold insertNew at h
  split at h
  · next hany => exact List.any_eq_true.1 hany
  · cases h

theorem key_of_rowOf (h : rowOf key k rows = .some row) : key row = k := by
  simpa using List.find?_some h

theorem mem_of_rowOf (h : rowOf key k rows = .some row) : row ∈ rows := List.mem_of_find?_eq_some h

theorem rowOf_eq_none : rowOf key k rows = .none ↔ ∀ r ∈ rows, key r ≠ k := by
  simp [rowOf, List.find?_eq_none]

/-- Where the key is one, the rows are those found by their keys. -/
theorem Keyed.mem_iff (h : Keyed key rows) : row ∈ rows ↔ rowOf key (key row) rows = .some row := by
  refine ⟨fun hmem => ?_, mem_of_rowOf⟩
  cases hfound : rowOf key (key row) rows with
  | none => exact absurd rfl (rowOf_eq_none.1 hfound row hmem)
  | some r =>
    rw [List.inj_on_of_nodup_map h (mem_of_rowOf hfound) hmem (key_of_rowOf hfound)]

theorem Keyed.append (h : Keyed key rows) (hnew : rowOf key (key row) rows = .none) :
    Keyed key (rows ++ [row]) := by
  rw [Keyed, List.map_append, List.nodup_append]
  refine ⟨h, List.nodup_singleton _, fun a ha b hb hab => ?_⟩
  obtain ⟨r, hr, rfl⟩ := List.mem_map.1 ha
  obtain rfl := List.mem_singleton.1 hb
  exact rowOf_eq_none.1 hnew r hr hab

omit [DecidableEq κ] in
theorem Keyed.filter (h : Keyed key rows) (p : ρ → Bool) : Keyed key (rows.filter p) :=
  List.Nodup.sublist (List.filter_sublist.map key) h

theorem Keyed.deleteWhere (h : Keyed key rows) (k : κ) : Keyed key (deleteWhere key k rows) := h.filter _

/-- `DELETE` under any condition: the row under a key goes where it meets it. -/
theorem Keyed.rowOf_filter (h : Keyed key rows) (p : ρ → Bool) :
    rowOf key k (rows.filter p) = (rowOf key k rows).filter p := by
  cases hrow : rowOf key k rows with
  | none =>
    rw [Option.filter_none, rowOf_eq_none]
    exact fun r hr => rowOf_eq_none.1 hrow r (List.mem_of_mem_filter hr)
  | some row =>
    have hmem := mem_of_rowOf hrow
    have hkey := key_of_rowOf hrow
    rw [Option.filter_some]
    split
    · next hp =>
      rw [← hkey]
      exact (h.filter p).mem_iff.1 (List.mem_filter.2 ⟨hmem, hp⟩)
    · next hp =>
      refine rowOf_eq_none.2 fun r hr hrkey => hp ?_
      obtain ⟨hr, hpr⟩ := List.mem_filter.1 hr
      rw [← List.inj_on_of_nodup_map h hr hmem (hrkey.trans hkey.symm)]
      exact hpr

/-- A column that `f` leaves is left. -/
theorem map_updateWhere {γ : Type*} {g : ρ → γ} {f : ρ → ρ} (hg : ∀ r, g (f r) = g r) :
    (updateWhere key k f rows).map g = rows.map g := by
  rw [updateWhere, List.map_map]
  refine List.map_congr_left fun r _ => ?_
  simp only [Function.comp]
  split
  · exact hg r
  · rfl

theorem Keyed.updateWhere (h : Keyed key rows) {f : ρ → ρ} (hf : ∀ r, key (f r) = key r) (k : κ) :
    Keyed key (updateWhere key k f rows) := by
  rw [Keyed, map_updateWhere hf]
  exact h

theorem rowOf_append (hnew : rowOf key (key row) rows = .none) :
    rowOf key k (rows ++ [row]) = if k = key row then .some row else rowOf key k rows := by
  unfold rowOf at hnew ⊢
  rw [List.find?_append, List.find?_singleton]
  by_cases hk : key row = k
  · rw [if_pos (decide_eq_true hk), if_pos hk.symm, ← hk, hnew, Option.none_or]
  · rw [if_neg fun h => hk (of_decide_eq_true h), if_neg fun h => hk h.symm, Option.or_none]

theorem rowOf_updateWhere {f : ρ → ρ} (hf : ∀ r, key (f r) = key r) :
    rowOf key k (updateWhere key k' f rows) = if k = k' then (rowOf key k rows).map f else rowOf key k rows := by
  induction rows with
  | nil => simp [rowOf, updateWhere]
  | cons r rows ih =>
    have hkey : key (if key r = k' then f r else r) = key r := by
      split
      · exact hf r
      · rfl
    unfold rowOf updateWhere at ih ⊢
    rw [List.map_cons, List.find?_cons, List.find?_cons, hkey]
    by_cases hk : key r = k
    · simp only [hk, decide_true, Option.map_some]
      split <;> rfl
    · simp only [hk, decide_false]
      exact ih

theorem rowOf_deleteWhere : rowOf key k (deleteWhere key k' rows) = if k = k' then .none else rowOf key k rows := by
  induction rows with
  | nil => simp [rowOf, deleteWhere]
  | cons r rows ih =>
    unfold rowOf deleteWhere at ih ⊢
    rw [List.filter_cons]
    by_cases hr : key r = k'
    · simp only [hr, ne_eq, not_true_eq_false, decide_false, Bool.false_eq_true, if_false, List.find?_cons]
      rw [ih]
      split
      · rfl
      · next hk => rw [decide_eq_false fun h => hk h.symm]
    · simp only [hr, ne_eq, not_false_eq_true, decide_true, if_true, List.find?_cons]
      by_cases hk : key r = k
      · simp only [hk, decide_true]
        rw [if_neg fun h => hr (hk.trans h)]
      · simp only [hk, decide_false]
        exact ih

end

end Base
