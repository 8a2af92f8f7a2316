/-
Two runs of a program that may differ in their errors. Two computations are
alike, up to a relation on errors and one on values, where they send the same
and end alike; what is built from parts that are alike is alike. With an
equivalence that forgets what errors keep to themselves this says that nothing
else depends on it.
-/
import AtomaProxy.Base.Effect

namespace Base

section

variable {ε δ α β : Type _} {E : ε → ε → Prop}

/-- The same value, or errors that are related. -/
def ExceptAlike (E : ε → ε → Prop) : Except ε α → Except ε α → Prop
  | .ok a, .ok b => a = b
  | .error e, .error e' => E e e'
  | _, _ => False

theorem ExceptAlike.refl (hE : ∀ e, E e e) (x : Except ε α) : ExceptAlike E x x := by
  cases x with
  | ok a => exact rfl
  | error e => exact hE e

theorem ExceptAlike.bind {x y : Except ε α} {f g : α → Except ε β} (hxy : ExceptAlike E x y)
    (hfg : ∀ a, ExceptAlike E (f a) (g a)) : ExceptAlike E (x >>= f) (y >>= g) := by
  cases x with
  | ok a =>
    cases y with
    | ok b =>
      obtain rfl : a = b := hxy
      exact hfg a
    | error e => exact hxy.elim
  | error e =>
    cases y with
    | ok b => exact hxy.elim
    | error e' => exact hxy

/-- Errors that are made from others are related where they are made so. -/
theorem ExceptAlike.mapError {D : δ → δ → Prop} {x y : Except δ α} {f g : δ → ε} (hxy : ExceptAlike D x y)
    (hfg : ∀ d d', D d d' → E (f d) (g d')) : ExceptAlike E (x.mapError f) (y.mapError g) := by
  cases x with
  | ok a =>
    cases y with
    | ok b => exact hxy
    | error e => exact hxy.elim
  | error e =>
    cases y with
    | ok b => exact hxy.elim
    | error e' => exact hfg e e' hxy

/-- The same kind of ending, values and errors related. -/
def Ending.Alike (E : ε → ε → Prop) (R : α → α → Prop) : Ending ε α → Ending ε α → Prop
  | .ok a, .ok b => R a b
  | .err e, .err e' => E e e'
  | .panic, .panic => True
  | _, _ => False

theorem Ending.Alike.refl {R : α → α → Prop} (hE : ∀ e, E e e) (hR : ∀ a, R a a) (x : Ending ε α) :
    Ending.Alike E R x x := by
  cases x with
  | ok a => exact hR a
  | err e => exact hE e
  | panic => trivial

end

namespace Eff

variable {ω ε α β : Type _} {E : ε → ε → Prop} {R : α → α → Prop} {S : β → β → Prop}

/-- They send the same and end alike. -/
structure Alike (E : ε → ε → Prop) (R : α → α → Prop) (x y : Eff ω ε α) : Prop where
  sent : x.sent = y.sent
  ending : Ending.Alike E R x.ending y.ending

theorem Alike.refl (hE : ∀ e, E e e) (hR : ∀ a, R a a) (x : Eff ω ε α) : x.Alike E R x :=
  ⟨rfl, Ending.Alike.refl hE hR x.ending⟩

theorem alike_pure {a b : α} (h : R a b) : (Pure.pure a : Eff ω ε α).Alike E R (Pure.pure b) := ⟨rfl, h⟩

theorem alike_fail {e e' : ε} (h : E e e') : (fail e : Eff ω ε α).Alike E R (fail e') := ⟨rfl, h⟩

theorem alike_ofExcept {x y : Except ε α} (h : ExceptAlike E x y) : (ofExcept x : Eff ω ε α).Alike E Eq (ofExcept y) := by
  cases x with
  | ok a =>
    cases y with
    | ok b => exact ⟨rfl, h⟩
    | error e => exact h.elim
  | error e =>
    cases y with
    | ok b => exact h.elim
    | error e' => exact ⟨rfl, h⟩

variable {x y : Eff ω ε α}

/-- How two computations that are alike end: with values, with errors, or both in a panic. -/
theorem Alike.cases (h : x.Alike E R y) :
    (∃ a b, x.ending = .ok a ∧ y.ending = .ok b ∧ R a b) ∨
      (∃ e e', x.ending = .err e ∧ y.ending = .err e' ∧ E e e') ∨ x.ending = .panic ∧ y.ending = .panic := by
  have hend := h.ending
  cases hx : x.ending with
  | ok a =>
    cases hy : y.ending with
    | ok b =>
      rw [hx, hy] at hend
      exact .inl ⟨a, b, rfl, rfl, hend⟩
    | err e | panic =>
      rw [hx, hy] at hend
      exact hend.elim
  | err e =>
    cases hy : y.ending with
    | err e' =>
      rw [hx, hy] at hend
      exact .inr (.inl ⟨e, e', rfl, rfl, hend⟩)
    | ok b | panic =>
      rw [hx, hy] at hend
      exact hend.elim
  | panic =>
    cases hy : y.ending with
    | panic => exact .inr (.inr ⟨rfl, rfl⟩)
    | ok b | err e =>
      rw [hx, hy] at hend
      exact hend.elim

theorem Alike.bind {f g : α → Eff ω ε β} (hxy : x.Alike E R y) (hfg : ∀ a b, R a b → (f a).Alike E S (g b)) :
    (x >>= f).Alike E S (y >>= g) := by
  rcases hxy.cases with ⟨a, b, hx, hy, hab⟩ | ⟨e, e', hx, hy, he⟩ | ⟨hx, hy⟩
  · rw [bind_ok _ hx, bind_ok _ hy]
    exact ⟨by rw [hxy.sent, (hfg a b hab).sent], (hfg a b hab).ending⟩
  · rw [bind_err _ hx, bind_err _ hy]
    exact ⟨hxy.sent, he⟩
  · rw [bind_panic _ hx, bind_panic _ hy]
    exact ⟨hxy.sent, trivial⟩

theorem Alike.handle {f g : ε → Eff ω ε α} (hxy : x.Alike E R y) (hfg : ∀ e e', E e e' → (f e).Alike E R (g e')) :
    (x.handle f).Alike E R (y.handle g) := by
  rcases hxy.cases with ⟨a, b, hx, hy, hab⟩ | ⟨e, e', hx, hy, he⟩ | ⟨hx, hy⟩
  · rw [handle_ok hx, handle_ok hy]
    exact ⟨hxy.sent, hab⟩
  · rw [handle_err hx, handle_err hy]
    exact ⟨by rw [hxy.sent, (hfg e e' he).sent], (hfg e e' he).ending⟩
  · rw [handle_panic hx, handle_panic hy]
    exact ⟨hxy.sent, trivial⟩

theorem Alike.spawned {e : ε} (hxy : x.Alike E R y) (he : E e e) : (x.spawned e).Alike E R (y.spawned e) := by
  refine ⟨by rw [sent_spawned, sent_spawned, hxy.sent], ?_⟩
  unfold Eff.spawned
  rcases hxy.cases with ⟨a, b, hx, hy, hab⟩ | ⟨e, e', hx, hy, he⟩ | ⟨hx, hy⟩
  · rw [hx, hy]
    exact hab
  · rw [hx, hy]
    exact he
  · rw [hx, hy]
    exact he

end Eff

end Base
