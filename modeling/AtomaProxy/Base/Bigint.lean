/-
PostgreSQL's `bigint` arithmetic and the errors a statement can end with.

`bigint` operators are checked: a sum or difference out of range ends the
statement with an error and no row changes. A sum of several terms is
evaluated left to right, so a statement can fail on a partial sum; with no
negative term that happens only where the whole sum is out of range too.
-/
import AtomaProxy.Base.Checked
import Mathlib.Algebra.BigOperators.Group.List.Basic

namespace Base

/-- How a statement fails. -/
inductive SqlError where
  /-- "bigint out of range" -/
  | outOfRange
  /-- a CHECK constraint is violated -/
  | checkViolation
  /-- a PRIMARY KEY or UNIQUE constraint is violated -/
  | uniqueViolation
  /-- the statement names a column its tables do not have -/
  | undefinedColumn
  /-- `fetch_one` finds no row -/
  | rowNotFound
  /-- the database does not answer -/
  | unavailable
  deriving DecidableEq, Repr

theorem ok_bind_iff {ε α β : Type _} {x : Except ε α} {f : α → Except ε β} {b : β} :
    (x >>= f) = .ok b ↔ ∃ a, x = .ok a ∧ f a = .ok b := by
  cases x with
  | error e => exact ⟨fun h => (nomatch h), fun ⟨_, h, _⟩ => (nomatch h)⟩
  | ok a => exact ⟨fun h => ⟨a, rfl, h⟩, fun ⟨_, h, hf⟩ => by cases h; exact hf⟩

/-- The range check of a `bigint` operator. -/
def bigint (z : Int) : Except SqlError Int64 :=
  match i64OfInt? z with
  | .some a => .ok a
  | .none => .error .outOfRange

def bigintAdd (a b : Int64) : Except SqlError Int64 := bigint (a.toInt + b.toInt)

def bigintSub (a b : Int64) : Except SqlError Int64 := bigint (a.toInt - b.toInt)

/-- What a column of the type `integer` takes of a `bigint`. -/
def int4 (a : Int64) : Except SqlError Int64 :=
  if -2147483648 ≤ a.toInt ∧ a.toInt < 2147483648 then .ok a else .error .outOfRange

@[simp] theorem int4_eq_ok {a b : Int64} :
    int4 a = .ok b ↔ (-2147483648 ≤ a.toInt ∧ a.toInt < 2147483648) ∧ a = b := by
  unfold int4
  split
  · next h => rw [Except.ok.injEq, and_iff_right h]
  · next h => exact iff_of_false (by rintro ⟨⟩) fun hb => h hb.1

/-- `a + b₁ + … + bₙ`, evaluated left to right. -/
def bigintSum (a : Int64) : List Int64 → Except SqlError Int64
  | [] => .ok a
  | b :: bs => do bigintSum (← bigintAdd a b) bs

theorem bigint_eq_ok {z : Int} {c : Int64} : bigint z = .ok c ↔ c.toInt = z := by
  rw [← i64OfInt?_eq_some, bigint]
  cases i64OfInt? z <;> simp

@[simp] theorem bigintAdd_eq_ok {a b c : Int64} : bigintAdd a b = .ok c ↔ c.toInt = a.toInt + b.toInt :=
  bigint_eq_ok

@[simp] theorem bigintSub_eq_ok {a b c : Int64} : bigintSub a b = .ok c ↔ c.toInt = a.toInt - b.toInt :=
  bigint_eq_ok

theorem bigintAdd_zero (a : Int64) : bigintAdd 0 a = .ok a := bigintAdd_eq_ok.2 (Int.zero_add a.toInt).symm

/-- The sum of the integers a list of `bigint` values holds. -/
def intSum (bs : List Int64) : Int := (bs.map Int64.toInt).sum

@[simp] theorem intSum_nil : intSum [] = 0 := rfl

@[simp] theorem intSum_cons (b : Int64) (bs) : intSum (b :: bs) = b.toInt + intSum bs := by simp [intSum]

theorem intSum_nonneg {bs : List Int64} (h : ∀ b ∈ bs, 0 ≤ b.toInt) : 0 ≤ intSum bs := by
  induction bs with
  | nil => simp
  | cons b bs ih =>
    have hb := h b (by simp)
    have hbs := ih fun x hx => h x (by simp [hx])
    simp only [intSum_cons]
    omega

/-- With no negative term, a sum is computed exactly where it is in range. -/
theorem bigintSum_eq_ok {bs : List Int64} (h : ∀ b ∈ bs, 0 ≤ b.toInt) :
    ∀ {a c : Int64}, bigintSum a bs = .ok c ↔ c.toInt = a.toInt + intSum bs := by
  induction bs with
  | nil =>
    intro a c
    simp only [bigintSum, Except.ok.injEq, intSum_nil, Int.add_zero]
    exact ⟨fun h => h ▸ rfl, fun h => (Int64.toInt_inj.1 h).symm⟩
  | cons b bs ih =>
    intro a c
    have hb := h b (by simp)
    have hbs := fun x hx => h x (List.mem_cons_of_mem b hx)
    have hnn := intSum_nonneg hbs
    simp only [bigintSum, ok_bind_iff, bigintAdd_eq_ok, ih hbs, intSum_cons]
    constructor
    · rintro ⟨d, hd, hc⟩
      omega
    · intro hc
      have hd : InI64 (a.toInt + b.toInt) := by
        have := inI64_toInt a
        have := inI64_toInt c
        unfold InI64 at *
        omega
      exact ⟨Int64.ofInt (a.toInt + b.toInt), toInt_ofInt hd, by rw [toInt_ofInt hd]; omega⟩

/-- With no negative term, a sum fails only where it exceeds every `bigint`. -/
theorem lt_of_bigintSum_eq_error {a : Int64} {bs : List Int64} {e} (h : ∀ b ∈ bs, 0 ≤ b.toInt)
    (he : bigintSum a bs = .error e) (c : Int64) : c.toInt < a.toInt + intSum bs := by
  by_contra hc
  have hnn := intSum_nonneg h
  have hin : InI64 (a.toInt + intSum bs) := by
    have := inI64_toInt a
    have := inI64_toInt c
    unfold InI64 at *
    omega
  rw [(bigintSum_eq_ok h).2 (toInt_ofInt hin)] at he
  cases he

end Base
