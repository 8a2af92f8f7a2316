/-
Logs, the oldest entry first, of which each entry is accounted for by the
entries before it.
-/
import Mathlib.Data.List.Basic

namespace Base

variable {α : Type _} {P : List α → α → Prop} {log : List α}

/-- What came before an entry accounts for it as `P` says. -/
def Justified (P : List α → α → Prop) (log : List α) : Prop :=
  ∀ before a after, log = before ++ a :: after → P before a

theorem justified_nil : Justified P [] := fun before a after h =>
  absurd h.symm (List.append_ne_nil_of_right_ne_nil before (List.cons_ne_nil a after))

theorem Justified.concat (h : Justified P log) {a : α} (ha : P log a) : Justified P (log ++ [a]) := by
  intro before b after hsplit
  rcases List.eq_nil_or_concat after with hnil | ⟨rest, last, hlast⟩
  · subst hnil
    obtain ⟨hlog, hb⟩ := List.append_inj' hsplit rfl
    rw [← hlog, ← List.singleton_inj.1 hb]
    exact ha
  · rw [hlast, List.concat_eq_append, ← List.cons_append, ← List.append_assoc] at hsplit
    obtain ⟨hlog, _⟩ := List.append_inj' hsplit rfl
    exact h before b rest hlog

/-- Every entry of a log has entries before it that account for it. -/
theorem Justified.of_mem (h : Justified P log) {a : α} (hmem : a ∈ log) : ∃ before, before <+: log ∧ P before a := by
  obtain ⟨before, after, hsplit⟩ := List.append_of_mem hmem
  exact ⟨before, ⟨a :: after, hsplit.symm⟩, h before a after hsplit⟩

end Base
