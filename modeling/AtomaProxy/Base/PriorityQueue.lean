/-
Priority queues: what a binary heap is to a program that pushes to it, pops
its least elements while they meet a test, and takes out one that meets
another.

A queue is the list of its elements in order, and an element pushed goes to
its place in it. A `BinaryHeap` visits its elements in no order that its
documentation names; where that shows, a parameter says which one it was.
-/
import AtomaProxy.Base.Records
import Mathlib.Algebra.BigOperators.Group.List.Basic
import Mathlib.Algebra.Ring.Int.Defs
import Mathlib.Data.List.Sort
import Mathlib.Data.List.TakeWhile
import Mathlib.Data.Multiset.Basic

namespace Base

/-- The elements, least first. -/
structure PriorityQueue (α : Type _) [LinearOrder α] where
  items : List α
  sorted : items.Pairwise (· ≤ ·)

namespace PriorityQueue

variable {α : Type _} [LinearOrder α]

def empty : PriorityQueue α := ⟨[], .nil⟩

def push (q : PriorityQueue α) (a : α) : PriorityQueue α :=
  ⟨q.items.orderedInsert (· ≤ ·) a, q.sorted.orderedInsert a _⟩

/-- The least element, and the queue without it. -/
def pop (q : PriorityQueue α) : Option (α × PriorityQueue α) :=
  match q with
  | ⟨[], _⟩ => .none
  | ⟨a :: items, h⟩ => .some (a, ⟨items, h.of_cons⟩)

/-- The loop that pops while the least element meets `p`: what it popped, and what it left. -/
def popWhile (p : α → Bool) (q : PriorityQueue α) : List α × PriorityQueue α :=
  (q.items.takeWhile p, ⟨q.items.dropWhile p, q.sorted.sublist (List.dropWhile_sublist p)⟩)

/-- `retain` that drops the first element it visits that meets `p`: `pick` says which of those is the first. -/
def takeFirst (pick : Nat) (p : α → Bool) (q : PriorityQueue α) : Option (α × PriorityQueue α) :=
  (fetchOptional (q.items.filter p) pick).map fun a => (a, ⟨q.items.erase a, q.sorted.sublist List.erase_sublist⟩)

variable {p : α → Bool} {q q' : PriorityQueue α} {a : α}

theorem items_push : (q.push a).items.Perm (a :: q.items) := List.perm_orderedInsert _ a q.items

theorem mem_push {b : α} : b ∈ (q.push a).items ↔ b = a ∨ b ∈ q.items := List.mem_orderedInsert _

/-- One round of the loop. -/
theorem popWhile_eq : q.popWhile p =
    match q.pop with
    | .some (a, rest) => if p a = true then (a :: (rest.popWhile p).1, (rest.popWhile p).2) else ([], q)
    | .none => ([], q) := by
  obtain ⟨items, h⟩ := q
  cases items with
  | nil => rfl
  | cons a items =>
    unfold popWhile pop
    dsimp only
    by_cases hp : p a = true
    · rw [if_pos hp]
      simp only [List.takeWhile_cons_of_pos hp, List.dropWhile_cons_of_pos hp]
    · rw [if_neg hp]
      simp only [List.takeWhile_cons_of_neg hp, List.dropWhile_cons_of_neg hp]

theorem popWhile_append : (q.popWhile p).1 ++ (q.popWhile p).2.items = q.items := List.takeWhile_append_dropWhile

theorem mem_of_mem_popped (h : a ∈ (q.popWhile p).1) : a ∈ q.items ∧ p a = true :=
  ⟨(List.takeWhile_sublist p).mem h, List.mem_takeWhile_imp h⟩

theorem mem_of_mem_left (h : a ∈ (q.popWhile p).2.items) : a ∈ q.items := (List.dropWhile_sublist p).mem h

/-- Where a test that an element meets is met by the lesser ones, no element that is left meets it. -/
theorem popWhile_left (hp : ∀ {a b : α}, p b = true → a ≤ b → p a = true) (h : a ∈ (q.popWhile p).2.items) :
    p a = false := by
  obtain ⟨items, hsorted⟩ := q
  induction items with
  | nil => cases h
  | cons b items ih =>
    unfold popWhile at h
    dsimp only at h
    cases hb : p b with
    | true =>
      rw [List.dropWhile_cons_of_pos hb] at h
      exact ih hsorted.of_cons h
    | false =>
      cases ha : p a with
      | false => rfl
      | true =>
        -- `b` comes first, so it is at most `a`
        rw [List.dropWhile_cons_of_neg (by rw [hb]; exact Bool.false_ne_true)] at h
        rcases List.mem_cons.1 h with rfl | h
        · exact ha.symm.trans hb
        · rw [hp ha (List.rel_of_pairwise_cons hsorted h)] at hb
          cases hb

/-- Each element that meets the test may be the first that is visited. -/
theorem takeFirst_of_mem (h : a ∈ q.items) (ha : p a = true) :
    ∃ pick q', q.takeFirst pick p = .some (a, q') ∧ q'.items = q.items.erase a := by
  obtain ⟨pick, hpick⟩ := fetchOptional_of_mem (List.mem_filter.2 ⟨h, ha⟩)
  refine ⟨pick, ⟨q.items.erase a, q.sorted.sublist List.erase_sublist⟩, ?_, rfl⟩
  rw [takeFirst, hpick]
  rfl

theorem of_takeFirst {pick : Nat} (h : q.takeFirst pick p = .some (a, q')) :
    a ∈ q.items ∧ p a = true ∧ q'.items = q.items.erase a := by
  obtain ⟨b, hb, he⟩ := Option.map_eq_some_iff.1 h
  cases he
  obtain ⟨hmem, hp⟩ := List.mem_filter.1 (mem_of_fetchOptional hb)
  exact ⟨hmem, hp, rfl⟩

theorem takeFirst_isSome {pick : Nat} : (q.takeFirst pick p).isSome = true ↔ ∃ a ∈ q.items, p a = true := by
  rw [takeFirst, Option.isSome_map, fetchOptional_isSome]
  simp only [List.mem_filter]

/-! ## What the elements add up to -/

/-- The sum of the elements' measures. -/
def total (f : α → Int) (q : PriorityQueue α) : Int := (q.items.map f).sum

variable (f : α → Int)

theorem total_push : (q.push a).total f = f a + q.total f := by
  rw [total, (items_push.map f).sum_eq, List.map_cons, List.sum_cons]
  rfl

theorem total_popWhile : ((q.popWhile p).1.map f).sum + (q.popWhile p).2.total f = q.total f := by
  rw [total, total, ← List.sum_append, ← List.map_append, popWhile_append]

theorem total_takeFirst {pick : Nat} (h : q.takeFirst pick p = .some (a, q')) : f a + q'.total f = q.total f := by
  obtain ⟨hmem, _, hleft⟩ := of_takeFirst h
  rw [total, total, hleft, ((List.perm_cons_erase hmem).map f).sum_eq, List.map_cons, List.sum_cons]

end PriorityQueue

end Base
