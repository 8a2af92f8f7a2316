/-
Tables as lists of rows, for the statements that range over rows instead of
naming one by its key: an upsert that replaces every column, a grouping with
`HAVING bool_and(…)`, `ORDER BY … DESC LIMIT 1`, and the row an unordered
result is answered with. The order of the rows means nothing.
-/
import Mathlib.Data.List.Dedup
import Mathlib.Data.List.Sort

namespace Base

universe u v

variable {ρ : Type u} {κ : Type v} [DecidableEq κ]

/-- `INSERT … ON CONFLICT (key) DO UPDATE` of every column: the row takes the place of the one with its key. -/
def putRow (key : ρ → κ) (row : ρ) (rows : List ρ) : List ρ := row :: rows.filter fun r => key r ≠ key row

theorem mem_putRow {key : ρ → κ} {row r : ρ} {rows : List ρ} :
    r ∈ putRow key row rows ↔ r = row ∨ r ∈ rows ∧ key r ≠ key row := by
  rw [putRow, List.mem_cons, List.mem_filter, decide_eq_true_iff]

/-- `GROUP BY group HAVING bool_and(p)`: the groups all of whose rows are as `p` says. -/
def havingAll (group : ρ → κ) (p : ρ → Bool) (rows : List ρ) : List κ :=
  ((rows.map group).dedup).filter fun g => rows.all fun r => group r ≠ g || p r

theorem mem_havingAll {group : ρ → κ} {p : ρ → Bool} {rows : List ρ} {g : κ} :
    g ∈ havingAll group p rows ↔ (∃ r ∈ rows, group r = g) ∧ ∀ r ∈ rows, group r = g → p r = true := by
  simp only [havingAll, List.mem_filter, List.mem_dedup, List.mem_map, List.all_eq_true, Bool.or_eq_true,
    decide_eq_true_iff, ne_eq, ← imp_iff_not_or]

/-- A row of an unordered result, as `fetch_optional` takes one: `pick` says which. -/
def fetchOptional {α : Type u} (rows : List α) (pick : Nat) : Option α := rows[pick % rows.length]?

theorem mem_of_fetchOptional {α : Type u} {rows : List α} {pick : Nat} {a : α}
    (h : fetchOptional rows pick = .some a) : a ∈ rows := List.mem_of_getElem? h

/-- Each row is one that may be fetched. -/
theorem fetchOptional_of_mem {α : Type u} {rows : List α} {a : α} (h : a ∈ rows) :
    ∃ pick, fetchOptional rows pick = .some a := by
  obtain ⟨n, hn, hget⟩ := List.getElem_of_mem h
  refine ⟨n, ?_⟩
  rw [fetchOptional, Nat.mod_eq_of_lt hn, List.getElem?_eq_getElem hn, hget]

theorem fetchOptional_isSome {α : Type u} {rows : List α} {pick : Nat} :
    (fetchOptional rows pick).isSome = true ↔ ∃ a, a ∈ rows := by
  cases rows with
  | nil => simp [fetchOptional]
  | cons a rows =>
    have hlt : pick % (a :: rows).length < (a :: rows).length := Nat.mod_lt _ (Nat.succ_pos _)
    rw [fetchOptional, List.getElem?_eq_getElem hlt]
    exact ⟨fun _ => ⟨a, List.mem_cons_self⟩, fun _ => rfl⟩

section Latest

variable {β : Type v} [LinearOrder β] {f : ρ → β} {rows : List ρ}

/-- `ORDER BY f DESC LIMIT 1`. -/
def latestBy (f : ρ → β) (rows : List ρ) : Option ρ := (rows.insertionSort fun a b => f b ≤ f a).head?

/-- The row it takes is one that no other is greater than. -/
theorem latestBy_eq_some {r : ρ} (h : latestBy f rows = .some r) : r ∈ rows ∧ ∀ r' ∈ rows, f r' ≤ f r := by
  have : IsTrans ρ fun a b => f b ≤ f a := ⟨fun _ _ _ hab hbc => le_trans hbc hab⟩
  have : Std.Total fun a b : ρ => f b ≤ f a := ⟨fun a b => le_total (f b) (f a)⟩
  have hsorted := List.pairwise_insertionSort (fun a b => f b ≤ f a) rows
  have hmem := fun r' => @List.mem_insertionSort _ (fun a b => f b ≤ f a) _ rows r'
  rw [latestBy] at h
  cases hs : rows.insertionSort fun a b => f b ≤ f a with
  | nil =>
    rw [hs] at h
    cases h
  | cons a rest =>
    rw [hs] at h hsorted hmem
    rw [List.head?_cons, Option.some.injEq] at h
    subst h
    refine ⟨(hmem a).1 List.mem_cons_self, fun r' hr' => ?_⟩
    rcases List.mem_cons.1 ((hmem r').2 hr') with rfl | hrest
    · exact le_refl _
    · exact List.rel_of_pairwise_cons hsorted hrest

theorem latestBy_eq_none : latestBy f rows = .none ↔ rows = [] := by
  rw [latestBy, List.head?_eq_none_iff, ← List.length_eq_zero_iff, List.length_insertionSort,
    List.length_eq_zero_iff]

end Latest

end Base
