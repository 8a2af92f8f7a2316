/-
Database tables keyed by their primary key, and the three statement shapes a
program runs on one key: an `UPDATE … WHERE key = k AND …`, an `INSERT`, and
an `INSERT … ON CONFLICT DO UPDATE`. Each is given by what it does to a row;
what it does to the table, and that every other key keeps its row, is proved
here once.
-/
import AtomaProxy.Base.Bigint
import Mathlib.Logic.Function.Basic

namespace Base

universe u

/-- A table: the row stored under each primary key. -/
abbrev Table (κ ρ : Type _) := κ → Option ρ

namespace Table

variable {κ ρ : Type u} [DecidableEq κ]

/-- `UPDATE … WHERE key = k AND …`. `f` is its effect on the row, `none` where the row does not meet the
rest of the clause. Answers whether a row was affected. -/
def updateRow (t : Table κ ρ) (k : κ) (f : ρ → Except SqlError (Option ρ)) : Except SqlError (Bool × Table κ ρ) :=
  match t k with
  | .none => .ok (false, t)
  | .some row => do
    match ← f row with
    | .none => .ok (false, t)
    | .some row' => .ok (true, Function.update t k (.some row'))

/-- `INSERT` of a row under a new key. -/
def insertRow (t : Table κ ρ) (k : κ) (row : Except SqlError ρ) : Except SqlError (Table κ ρ) := do
  let row ← row
  match t k with
  | .none => .ok (Function.update t k (.some row))
  | .some _ => .error .uniqueViolation

/-- `INSERT … ON CONFLICT (key) DO UPDATE`: `f` is the effect on a row that is there already. -/
def upsertRow (t : Table κ ρ) (k : κ) (row : ρ) (f : ρ → Except SqlError ρ) : Except SqlError (Table κ ρ) :=
  match t k with
  | .none => .ok (Function.update t k (.some row))
  | .some old => do .ok (Function.update t k (.some (← f old)))

theorem updateRow_true {t t' : Table κ ρ} {k f} : updateRow t k f = .ok (true, t') ↔
    ∃ row row', t k = .some row ∧ f row = .ok (.some row') ∧ t' = Function.update t k (.some row') := by
  unfold updateRow
  cases hk : t k with
  | none => simp
  | some row =>
    simp only [ok_bind_iff, Option.some.injEq, exists_and_left]
    constructor
    · rintro ⟨r, hf, hr⟩
      cases r with
      | none => cases hr
      | some row' =>
        simp only [Except.ok.injEq, Prod.mk.injEq, true_and] at hr
        exact ⟨row, rfl, row', hf, hr.symm⟩
    · rintro ⟨_, rfl, row', hf, rfl⟩
      exact ⟨.some row', hf, rfl⟩

theorem updateRow_false {t t' : Table κ ρ} {k f} : updateRow t k f = .ok (false, t') ↔
    t' = t ∧ ∀ row, t k = .some row → f row = .ok .none := by
  unfold updateRow
  cases hk : t k with
  | none => simp [eq_comm]
  | some row =>
    simp only [ok_bind_iff, Option.some.injEq, forall_eq']
    constructor
    · rintro ⟨r, hf, hr⟩
      cases r with
      | some row' => cases hr
      | none =>
        simp only [Except.ok.injEq, Prod.mk.injEq, true_and] at hr
        exact ⟨hr.symm, hf⟩
    · rintro ⟨rfl, hf⟩
      exact ⟨.none, hf, rfl⟩

theorem updateRow_error {t : Table κ ρ} {k f e} : updateRow t k f = .error e ↔
    ∃ row, t k = .some row ∧ f row = .error e := by
  unfold updateRow
  cases hk : t k with
  | none => simp
  | some row =>
    simp only [Option.some.injEq, exists_eq_left']
    cases hf : f row with
    | error e' => simp [bind, Except.bind]
    | ok r => cases r <;> simp [bind, Except.bind]

/-- The row an `UPDATE` leaves: its own result, or the old row where it fails or its clause is not met. -/
def rowAfter (f : ρ → Except SqlError (Option ρ)) (row : ρ) : ρ :=
  match f row with
  | .ok (.some row') => row'
  | _ => row

theorem rowAfter_of_ok {f : ρ → Except SqlError (Option ρ)} {row row'} (h : f row = .ok (.some row')) :
    rowAfter f row = row' := by
  simp only [rowAfter, h]

theorem rowAfter_of_not {f : ρ → Except SqlError (Option ρ)} {row} (h : ∀ row', f row ≠ .ok (.some row')) :
    rowAfter f row = row := by
  unfold rowAfter
  split
  · next row' hf => exact absurd hf (h row')
  · rfl

/-- The table an `UPDATE` leaves, also where it fails. -/
def after (t : Table κ ρ) (k : κ) (f : ρ → Except SqlError (Option ρ)) : Table κ ρ :=
  match t.updateRow k f with
  | .ok (_, t') => t'
  | .error _ => t

/-- An `UPDATE` on one key: that key's row, and no other. -/
theorem after_apply (t : Table κ ρ) (k : κ) (f) (k' : κ) :
    t.after k f k' = if k' = k then (t k).map (rowAfter f) else t k' := by
  unfold after rowAfter
  cases hu : t.updateRow k f with
  | error e =>
    obtain ⟨row, hrow, he⟩ := updateRow_error.1 hu
    split
    · next h => simp only [h, hrow, he, Option.map_some]
    · rfl
  | ok r =>
    obtain ⟨_ | _, t'⟩ := r
    · obtain ⟨rfl, hnone⟩ := updateRow_false.1 hu
      split
      · next h =>
        subst h
        cases hrow : t' k' with
        | none => simp only [hrow, Option.map_none]
        | some row => simp only [hrow, Option.map_some, hnone row hrow]
      · rfl
    · obtain ⟨row, row', hrow, hf, rfl⟩ := updateRow_true.1 hu
      split
      · next h => simp only [h, Function.update_self, hrow, hf, Option.map_some]
      · next h => exact Function.update_of_ne h _ _

theorem insertRow_ok {t t' : Table κ ρ} {k row} : insertRow t k row = .ok t' ↔
    ∃ r, row = .ok r ∧ t k = .none ∧ t' = Function.update t k (.some r) := by
  unfold insertRow
  simp only [ok_bind_iff]
  cases hk : t k <;> simp [eq_comm]

theorem upsertRow_ok {t t' : Table κ ρ} {k row f} : upsertRow t k row f = .ok t' ↔
    ∃ row', (t k = .none ∧ row' = row ∨ ∃ old, t k = .some old ∧ f old = .ok row') ∧
      t' = Function.update t k (.some row') := by
  unfold upsertRow
  cases hk : t k with
  | none => simp [eq_comm]
  | some old =>
    simp only [ok_bind_iff, Except.ok.injEq, Option.some.injEq, exists_eq_left', reduceCtorEq, false_and, false_or]
    simp only [eq_comm]

end Table

end Base
