/-
Registers whose last writer wins. A write is stamped, and takes effect where
its stamp is greater than that of the write there is; whatever the order they
come in, what is left of a list of writes is one of the greatest stamp.
-/
import Mathlib.Order.Lattice
import Mathlib.Data.List.Induction

namespace Base

section

variable {ρ τ : Type _} [LinearOrder τ] (stamp : ρ → τ)

def lastWrite (current : Option ρ) (x : ρ) : Option ρ :=
  match current with
  | .none => .some x
  | .some y => if stamp y < stamp x then .some x else .some y

/-- The register after the writes. -/
def lastWriter (xs : List ρ) : Option ρ := xs.foldl (lastWrite stamp) .none

variable {stamp}

theorem lastWriter_append_singleton (xs : List ρ) (x : ρ) :
    lastWriter stamp (xs ++ [x]) = lastWrite stamp (lastWriter stamp xs) x := by
  rw [lastWriter, List.foldl_append]
  rfl

/-- A write that is no newer changes nothing. -/
theorem lastWrite_of_le {x y : ρ} (h : stamp x ≤ stamp y) : lastWrite stamp (.some y) x = .some y :=
  if_neg (not_lt_of_ge h)

theorem lastWrite_of_lt {x y : ρ} (h : stamp y < stamp x) : lastWrite stamp (.some y) x = .some x := if_pos h

variable (stamp) in
/-- Once written, a register stays so. -/
theorem lastWrite_isSome (current : Option ρ) (x : ρ) : ∃ y, lastWrite stamp current x = .some y := by
  unfold lastWrite
  split
  · exact ⟨_, rfl⟩
  · split
    · exact ⟨_, rfl⟩
    · exact ⟨_, rfl⟩

variable (stamp) in
theorem lastWriter_of_mem {xs : List ρ} {x : ρ} (h : x ∈ xs) : ∃ y, lastWriter stamp xs = .some y := by
  rcases List.eq_nil_or_concat xs with rfl | ⟨ys, y, rfl⟩
  · exact absurd h List.not_mem_nil
  · rw [List.concat_eq_append, lastWriter_append_singleton]
    exact lastWrite_isSome stamp _ _

/-- **What is left is a write of the greatest stamp.** -/
theorem lastWriter_greatest : ∀ {xs : List ρ} {x : ρ}, lastWriter stamp xs = .some x →
    x ∈ xs ∧ ∀ y ∈ xs, stamp y ≤ stamp x := by
  intro xs
  induction xs using List.reverseRecOn with
  | nil =>
    intro x h
    cases h
  | append_singleton xs z ih =>
    intro x h
    rw [lastWriter_append_singleton] at h
    cases hxs : lastWriter stamp xs with
    | none =>
      -- nothing was written before
      have hnone : ∀ y, y ∉ xs := fun y hy => by
        obtain ⟨w, hw⟩ := lastWriter_of_mem stamp hy
        rw [hw] at hxs
        cases hxs
      rw [hxs] at h
      cases h
      refine ⟨List.mem_append_right xs List.mem_cons_self, fun y hy => ?_⟩
      rcases List.mem_append.1 hy with hy | hy
      · exact absurd hy (hnone y)
      · rw [List.mem_singleton.1 hy]
    | some y =>
      obtain ⟨hmem, hle⟩ := ih hxs
      rw [hxs] at h
      rcases lt_or_ge (stamp y) (stamp z) with hlt | hge
      · rw [lastWrite_of_lt hlt] at h
        cases h
        refine ⟨List.mem_append_right xs List.mem_cons_self, fun w hw => ?_⟩
        rcases List.mem_append.1 hw with hw | hw
        · exact ((hle w hw).trans_lt hlt).le
        · rw [List.mem_singleton.1 hw]
      · rw [lastWrite_of_le hge] at h
        cases h
        refine ⟨List.mem_append_left [z] hmem, fun w hw => ?_⟩
        rcases List.mem_append.1 hw with hw | hw
        · exact hle w hw
        · rw [List.mem_singleton.1 hw]
          exact hge

end

end Base
