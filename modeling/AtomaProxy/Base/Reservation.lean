/-
Reservation ledgers: a limit, what has been spent of it, and the amounts
reserved and not yet settled. An amount is reserved before a cost is known,
and settled at the cost once it is; what is settled is spent, the rest of the
reservation is free again.

Amounts live in any ordered group and take up part of the limit through a
`Gauge`, so that an amount can have several components that share one limit.
A `Ledger` carries its invariant, and the operations are partial where they
would break it: a value of this type cannot have overdrawn its limit.
-/
import AtomaProxy.Base.Machine
import Mathlib.Algebra.Order.BigOperators.Group.Multiset
import Mathlib.Algebra.Order.Group.Int
import Mathlib.Data.Int.ConditionallyCompleteOrder
import Mathlib.Algebra.BigOperators.Group.Multiset.Basic
import Mathlib.Tactic.Abel
import Mathlib.Tactic.Linarith

namespace Base

theorem sum_erase {A : Type _} [AddCommGroup A] [DecidableEq A] {held : Multiset A} {a : A} (h : a ∈ held) :
    (held.erase a).sum = held.sum - a := by
  rw [eq_sub_iff_add_eq, add_comm, Multiset.sum_erase h]

/-- Of several holders, one that holds something else in place of what it held. -/
theorem sum_map_set {P A : Type _} [AddCommMonoid A] (f : P → A) : ∀ {l : List P} {n : Nat} {p : P} (p' : P),
    l[n]? = .some p → ((l.set n p').map f).sum + f p = (l.map f).sum + f p'
  | q :: l, 0, p, p', h => by
    obtain rfl : q = p := Option.some.inj h
    simp only [List.set_cons_zero, List.map_cons, List.sum_cons]
    rw [add_comm (f p'), add_assoc, add_comm (f p'), ← add_assoc, add_comm (f q)]
  | q :: l, n + 1, p, p', h => by
    have hrest : l[n]? = .some p := h
    simp only [List.set_cons_succ, List.map_cons, List.sum_cons]
    rw [add_assoc, sum_map_set f p' hrest, add_assoc]

variable {A : Type _} [AddCommGroup A] [PartialOrder A] [IsOrderedAddMonoid A]

/-- How much of the limit an amount takes up. -/
structure Gauge (A : Type _) [AddCommGroup A] [PartialOrder A] where
  size : A →+ Int
  nonneg : ∀ {a : A}, 0 ≤ a → 0 ≤ size a

/-- A reservation ledger that has not overdrawn its limit. -/
structure Ledger (g : Gauge A) where
  limit : Int
  spent : A
  held : Multiset A
  spent_nonneg : 0 ≤ spent
  held_nonneg : ∀ a ∈ held, 0 ≤ a
  within : g.size (spent + held.sum) ≤ limit

namespace Ledger

variable {g : Gauge A}

theorem held_sum_nonneg (l : Ledger g) : 0 ≤ l.held.sum := Multiset.sum_nonneg l.held_nonneg

/-- The ledger nothing was reserved from. -/
def fresh (g : Gauge A) (limit : Int) (h : 0 ≤ limit) : Ledger g where
  limit := limit
  spent := 0
  held := 0
  spent_nonneg := le_refl 0
  held_nonneg := by simp
  within := by simpa using h

/-- What a reservation of `a` would bring the ledger to. -/
def need (l : Ledger g) (a : A) : Int := g.size (l.spent + l.held.sum + a)

/-- Raises the limit. -/
def raise (l : Ledger g) (n : Int) (hn : 0 ≤ n) : Ledger g :=
  { l with limit := l.limit + n, within := by have := l.within; omega }

/-- Reserves `a`, which the limit must leave room for. -/
def reserve (l : Ledger g) (a : A) (ha : 0 ≤ a) (hl : l.need a ≤ l.limit) : Ledger g :=
  { l with
    held := a ::ₘ l.held
    held_nonneg := by
      intro b hb
      rcases Multiset.mem_cons.1 hb with rfl | hb
      · exact ha
      · exact l.held_nonneg b hb
    within := by
      have h : l.spent + (a ::ₘ l.held).sum = l.spent + l.held.sum + a := by
        rw [Multiset.sum_cons]
        abel
      rw [h]
      exact hl }

variable [DecidableEq A]

/-- Settles one reservation of `a` at the cost `b`. -/
def settle (l : Ledger g) (a b : A) (ha : a ∈ l.held) (hb : 0 ≤ b) (hba : b ≤ a) : Ledger g :=
  { l with
    spent := l.spent + b
    held := l.held.erase a
    spent_nonneg := add_nonneg l.spent_nonneg hb
    held_nonneg := fun c hc => l.held_nonneg c (Multiset.mem_of_mem_erase hc)
    within := by
      have h : l.spent + l.held.sum = l.spent + b + (l.held.erase a).sum + (a - b) := by
        rw [sum_erase ha]
        abel
      have hl := l.within
      rw [h, map_add] at hl
      have := g.nonneg (sub_nonneg.2 hba)
      omega }

/-- What can be asked of a ledger. -/
inductive Op (A : Type _) where
  | raise (n : Int)
  | reserve (a : A)
  | settle (a b : A)

open Classical in
/-- The abstract machine: an operation that would break the invariant cannot happen. -/
noncomputable def machine (g : Gauge A) : Machine (Ledger g) (Op A) where
  step
    | l, .raise n => if hn : 0 ≤ n then .some (l.raise n hn) else .none
    | l, .reserve a => if h : 0 ≤ a ∧ l.need a ≤ l.limit then .some (l.reserve a h.1 h.2) else .none
    | l, .settle a b =>
      if h : a ∈ l.held ∧ 0 ≤ b ∧ b ≤ a then .some (l.settle a b h.1 h.2.1 h.2.2) else .none

theorem run_raise {l : Ledger g} {n : Int} (hn : 0 ≤ n) :
    (machine g).run l [.raise n] = .some (l.raise n hn) := by
  simp [Machine.run, machine, hn]

theorem run_reserve {l : Ledger g} {a : A} (ha : 0 ≤ a) (hl : l.need a ≤ l.limit) :
    (machine g).run l [.reserve a] = .some (l.reserve a ha hl) := by
  simp [Machine.run, machine, ha, hl]

theorem run_settle {l : Ledger g} {a b : A} (ha : a ∈ l.held) (hb : 0 ≤ b) (hba : b ≤ a) :
    (machine g).run l [.settle a b] = .some (l.settle a b ha hb hba) := by
  simp [Machine.run, machine, ha, hb, hba]

end Ledger

end Base
