/-
What the rows of a table add up to. A table is a function, so a sum over all
its rows is a sum with finite support; with finitely many rows, a row that is
written changes the sum by what it is more than the one it replaces.
-/
import AtomaProxy.Base.Table
import Mathlib.Algebra.BigOperators.Finprod
import Mathlib.Tactic.Abel

namespace Base

namespace Table

universe u

variable {κ ρ : Type u} {A : Type _}

/-- Only so many rows are stored. -/
def FinitelyMany (t : Table κ ρ) : Prop := ∃ keys : Finset κ, ∀ k, t k ≠ .none → k ∈ keys

theorem finitelyMany_empty : FinitelyMany (fun _ => .none : Table κ ρ) := ⟨∅, fun _ h => absurd rfl h⟩

theorem FinitelyMany.update [DecidableEq κ] {t : Table κ ρ} (h : t.FinitelyMany) (k : κ) (row : ρ) :
    FinitelyMany (Function.update t k (.some row)) := by
  obtain ⟨keys, hkeys⟩ := h
  refine ⟨insert k keys, fun k' hk' => ?_⟩
  rw [Finset.mem_insert]
  by_cases hkey : k' = k
  · exact .inl hkey
  · rw [Function.update_of_ne hkey] at hk'
    exact .inr (hkeys k' hk')

section Total

variable [AddCommMonoid A] {f : κ → ρ → A} {t : Table κ ρ}

/-- What is measured of the row stored under a key, nothing where none is. -/
def measured (f : κ → ρ → A) (t : Table κ ρ) (k : κ) : A := (t k).elim 0 (f k)

/-- The sum over all rows. -/
noncomputable def total (f : κ → ρ → A) (t : Table κ ρ) : A := ∑ᶠ k, measured f t k

theorem measured_some {k : κ} {row : ρ} (h : t k = .some row) : measured f t k = f k row := by
  rw [measured, h]
  rfl

theorem measured_none {k : κ} (h : t k = .none) : measured f t k = 0 := by
  rw [measured, h]
  rfl

theorem measured_support {keys : Finset κ} (h : ∀ k, t k ≠ .none → k ∈ keys) :
    Function.support (measured f t) ⊆ ↑keys := fun k hk => h k fun hnone => hk (measured_none hnone)

theorem total_eq_sum {keys : Finset κ} (h : ∀ k, t k ≠ .none → k ∈ keys) : total f t = ∑ k ∈ keys, measured f t k :=
  finsum_eq_sum_of_support_subset _ (measured_support h)

theorem total_empty : total f (fun _ => .none : Table κ ρ) = 0 := finsum_zero

theorem total_congr {g : κ → ρ → A} (h : ∀ k row, t k = .some row → f k row = g k row) : total f t = total g t := by
  refine finsum_congr fun k => ?_
  cases hrow : t k with
  | none => rw [measured_none hrow, measured_none hrow]
  | some row => rw [measured_some hrow, measured_some hrow, h k row hrow]

/-- **A row that is written counts instead of the one that was there.** -/
theorem total_update [DecidableEq κ] (h : t.FinitelyMany) (k : κ) (row : ρ) :
    total f (Function.update t k (.some row)) + measured f t k = total f t + f k row := by
  obtain ⟨keys, hkeys⟩ := h
  have hold : ∀ k', t k' ≠ .none → k' ∈ insert k keys := fun k' hk' => Finset.mem_insert_of_mem (hkeys k' hk')
  have hnew : ∀ k', Function.update t k (.some row) k' ≠ .none → k' ∈ insert k keys := by
    intro k' hk'
    by_cases hkey : k' = k
    · exact hkey ▸ Finset.mem_insert_self k keys
    · rw [Function.update_of_ne hkey] at hk'
      exact hold k' hk'
  have hself : measured f (Function.update t k (.some row)) k = f k row :=
    measured_some (Function.update_self _ _ _)
  have hothers : ∑ k' ∈ (insert k keys).erase k, measured f (Function.update t k (.some row)) k' =
      ∑ k' ∈ (insert k keys).erase k, measured f t k' := by
    refine Finset.sum_congr rfl fun k' hk' => ?_
    rw [measured, Function.update_of_ne (Finset.ne_of_mem_erase hk')]
    rfl
  rw [total_eq_sum hnew, total_eq_sum hold, ← Finset.add_sum_erase _ _ (Finset.mem_insert_self k keys),
    ← Finset.add_sum_erase _ (measured f t) (Finset.mem_insert_self k keys), hself, hothers]
  abel

/-- With no negative rows, each is at most their sum. -/
theorem measured_le_total [PartialOrder A] [IsOrderedAddMonoid A] (h : t.FinitelyMany)
    (h0 : ∀ k row, t k = .some row → 0 ≤ f k row) (k : κ) : measured f t k ≤ total f t := by
  obtain ⟨keys, hkeys⟩ := h
  refine single_le_finsum k (keys.finite_toSet.subset (measured_support hkeys)) fun k' => ?_
  cases hrow : t k' with
  | none => rw [measured_none hrow]
  | some row => exact (h0 k' row hrow).trans_eq (measured_some hrow).symm

end Total

end Table

end Base
