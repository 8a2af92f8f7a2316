/-
Tables of aggregates: an event is added to the row under its key, which it
makes where there is none (`INSERT … ON CONFLICT DO UPDATE SET x = x + …`). The
row under a key is then the fold of the events of that key, in their order, and
what is measured of the rows adds up to what is measured of the events.
-/
import AtomaProxy.Base.Rows
import Mathlib.Algebra.BigOperators.Group.List.Basic

namespace Base

universe u v w

section

variable {ε : Type u} {κ : Type v} {ν : Type w} [DecidableEq κ]

/-- How events are added up: what the first one of a key makes, and what the others add to. -/
structure Aggregation (ε : Type u) (κ : Type v) (ν : Type w) where
  key : ε → κ
  first : ε → ν
  add : ν → ε → Except SqlError ν

namespace Aggregation

variable (agg : Aggregation ε κ ν)

/-- An event more. -/
def addTo (value : Option ν) (e : ε) : Except SqlError ν :=
  match value with
  | .none => .ok (agg.first e)
  | .some v => agg.add v e

/-- `INSERT … ON CONFLICT (key) DO UPDATE`. -/
def upsert (rows : List (κ × ν)) (e : ε) : Except SqlError (List (κ × ν)) :=
  let row := rowOf Prod.fst (agg.key e) rows
  (agg.addTo (row.map Prod.snd) e).map fun value =>
    if row.isSome then updateWhere Prod.fst (agg.key e) (fun r => (r.1, value)) rows
    else rows ++ [(agg.key e, value)]

/-- The events added up, nothing where there are none. -/
def total (events : List ε) : Except SqlError (Option ν) :=
  events.foldlM (fun value e => (agg.addTo value e).map .some) .none

/-- The events of a key. -/
def under (k : κ) (events : List ε) : List ε := events.filter fun e => agg.key e = k

/-- The rows are the events added up, key by key. -/
structure Sums (events : List ε) (rows : List (κ × ν)) : Prop where
  keyed : Keyed Prod.fst rows
  total : ∀ k, agg.total (agg.under k events) = .ok ((rowOf Prod.fst k rows).map Prod.snd)

variable {agg} {events : List ε} {rows rows' : List (κ × ν)} {e : ε}

omit [DecidableEq κ] in
theorem total_concat {value : Option ν} (h : agg.total events = .ok value) (e : ε) :
    agg.total (events ++ [e]) = (agg.addTo value e).map .some := by
  unfold total at h ⊢
  rw [List.foldlM_append, h]
  simp only [bind, Except.bind, List.foldlM_cons, List.foldlM_nil, pure, Except.pure, Except.map]
  cases agg.addTo value e <;> rfl

omit [DecidableEq κ] in
/-- The last event is added to the sum of those before it. -/
theorem total_concat_ok {value' : Option ν} (h : agg.total (events ++ [e]) = .ok value') :
    ∃ value v, agg.total events = .ok value ∧ agg.addTo value e = .ok v ∧ value' = .some v := by
  cases htotal : agg.total events with
  | error err =>
    unfold total at h htotal
    rw [List.foldlM_append, htotal] at h
    cases h
  | ok value =>
    rw [total_concat htotal] at h
    cases hadd : agg.addTo value e with
    | error err =>
      rw [hadd] at h
      cases h
    | ok v =>
      rw [hadd] at h
      exact ⟨value, v, rfl, hadd, (Except.ok.inj h).symm⟩

omit [DecidableEq κ] in
/-- Events that add up to nothing are none. -/
theorem eq_nil_of_total (h : agg.total events = .ok .none) : events = [] := by
  rcases List.eq_nil_or_concat events with rfl | ⟨init, last, rfl⟩
  · rfl
  · rw [List.concat_eq_append] at h
    obtain ⟨_, _, _, _, hnone⟩ := total_concat_ok h
    cases hnone

theorem under_concat (k : κ) (events : List ε) (e : ε) :
    agg.under k (events ++ [e]) = agg.under k events ++ if agg.key e = k then [e] else [] := by
  rw [under, List.filter_append]
  by_cases hk : agg.key e = k
  · simp [under, hk]
  · simp [under, hk]

theorem upsert_ok (h : agg.upsert rows e = .ok rows') :
    ∃ value, agg.addTo ((rowOf Prod.fst (agg.key e) rows).map Prod.snd) e = .ok value ∧
      rows' = if (rowOf Prod.fst (agg.key e) rows).isSome then
        updateWhere Prod.fst (agg.key e) (fun r => (r.1, value)) rows else rows ++ [(agg.key e, value)] := by
  unfold upsert at h
  dsimp only at h
  cases hvalue : agg.addTo ((rowOf Prod.fst (agg.key e) rows).map Prod.snd) e with
  | error err =>
    rw [hvalue] at h
    cases h
  | ok value =>
    rw [hvalue] at h
    exact ⟨value, rfl, (Except.ok.inj h).symm⟩

theorem sums_nil : agg.Sums [] [] := ⟨List.nodup_nil, fun _ => rfl⟩

/-- **An event that is added is added up with the others of its key.** -/
theorem Sums.upsert (h : agg.Sums events rows) (hupsert : agg.upsert rows e = .ok rows') :
    agg.Sums (events ++ [e]) rows' := by
  obtain ⟨value, hvalue, rfl⟩ := upsert_ok hupsert
  have htotal : agg.total (agg.under (agg.key e) events ++ [e]) = .ok (.some value) := by
    rw [total_concat (h.total (agg.key e)), hvalue]
    rfl
  have hkeep : ∀ k, k ≠ agg.key e → agg.under k (events ++ [e]) = agg.under k events := fun k hk => by
    rw [under_concat, if_neg fun heq => hk heq.symm, List.append_nil]
  have hself : agg.under (agg.key e) (events ++ [e]) = agg.under (agg.key e) events ++ [e] := by
    rw [under_concat, if_pos rfl]
  cases hrow : rowOf Prod.fst (agg.key e) rows with
  | none =>
    rw [Option.isSome_none, if_neg Bool.false_ne_true]
    refine ⟨h.keyed.append hrow, fun k => ?_⟩
    rw [rowOf_append hrow]
    by_cases hk : k = agg.key e
    · rw [hk, if_pos rfl, hself, htotal]
      rfl
    · rw [if_neg hk, hkeep k hk, h.total k]
  | some row =>
    rw [Option.isSome_some, if_pos rfl]
    refine ⟨h.keyed.updateWhere ?_ _, fun k => ?_⟩
    · exact fun _ => rfl
    rw [@rowOf_updateWhere _ _ _ _ _ k (agg.key e) (fun r => (r.1, value)) fun _ => rfl]
    by_cases hk : k = agg.key e
    · rw [hk, if_pos rfl, hself, htotal, hrow]
      rfl
    · rw [if_neg hk, hkeep k hk, h.total k]

/-- It is refused exactly if they do not add up with it. -/
theorem Sums.upsert_error (h : agg.Sums events rows) {err : SqlError} :
    agg.upsert rows e = .error err ↔ agg.total (agg.under (agg.key e) events ++ [e]) = .error err := by
  rw [total_concat (h.total (agg.key e)), Aggregation.upsert]
  cases agg.addTo ((rowOf Prod.fst (agg.key e) rows).map Prod.snd) e with
  | ok value => exact iff_of_false nofun nofun
  | error err' =>
    show Except.error err' = .error err ↔ Except.error err' = .error err
    rw [Except.error.injEq, Except.error.injEq]

/-- A row is the sum of its key's events, of which there are some. -/
theorem Sums.of_mem (h : agg.Sums events rows) {row : κ × ν} (hmem : row ∈ rows) :
    agg.total (agg.under row.1 events) = .ok (.some row.2) := by
  rw [h.total row.1, h.keyed.mem_iff.1 hmem]
  rfl

/-- Each event has its row. -/
theorem Sums.exists_row (h : agg.Sums events rows) (hmem : e ∈ events) : ∃ row ∈ rows, row.1 = agg.key e := by
  cases hrow : rowOf Prod.fst (agg.key e) rows with
  | some row => exact ⟨row, mem_of_rowOf hrow, key_of_rowOf hrow⟩
  | none =>
    have htotal := h.total (agg.key e)
    rw [hrow] at htotal
    have hunder : e ∈ agg.under (agg.key e) events := List.mem_filter.2 ⟨hmem, decide_eq_true rfl⟩
    rw [eq_nil_of_total htotal] at hunder
    cases hunder

end Aggregation

/-! ## Totals over the keys -/

/-- Over keys of which each event has its own once, the events of the keys are the events. -/
theorem sum_under {A : Type _} [AddCommMonoid A] {key : ε → κ} {keys : List κ} (hnodup : keys.Nodup) (w : ε → A)
    {events : List ε} (hkeys : ∀ e ∈ events, key e ∈ keys) :
    (keys.map fun k => ((events.filter fun e => key e = k).map w).sum).sum = (events.map w).sum := by
  induction events with
  | nil => simp
  | cons e events ih =>
    have hsplit : ∀ k, (((e :: events).filter fun e => key e = k).map w).sum =
        (if key e = k then w e else 0) + ((events.filter fun e => key e = k).map w).sum := by
      intro k
      rw [List.filter_cons]
      by_cases hk : key e = k
      · rw [if_pos (decide_eq_true hk), if_pos hk, List.map_cons, List.sum_cons]
      · rw [if_neg fun h => hk (of_decide_eq_true h), if_neg hk, zero_add]
    simp only [hsplit]
    rw [List.sum_map_add, ih fun e he => hkeys e (List.mem_cons_of_mem _ he), List.map_cons, List.sum_cons]
    congr 1
    -- of the keys one is the event's
    have hone : ∀ {keys : List κ}, keys.Nodup → key e ∈ keys → (keys.map fun k => if key e = k then w e else 0).sum = w e := by
      intro keys hnodup hmem
      induction keys with
      | nil => cases hmem
      | cons k keys ih =>
        rw [List.map_cons, List.sum_cons]
        rw [List.nodup_cons] at hnodup
        rcases List.mem_cons.1 hmem with rfl | hmem
        · rw [if_pos rfl, List.sum_eq_zero, add_zero]
          intro x hx
          obtain ⟨k, hk, rfl⟩ := List.mem_map.1 hx
          exact if_neg fun heq : key e = k => hnodup.1 (heq ▸ hk)
        · rw [if_neg fun heq : key e = k => hnodup.1 (heq ▸ hmem), zero_add, ih hnodup.2 hmem]
    exact hone hnodup (hkeys e List.mem_cons_self)

end

end Base
