/-
Computations that send events and end with a value, an error or a panic: the
shape of an asynchronous request handler that talks to another task through a
channel. `Eff ω ε α` is the list of what was sent together with the ending,
so that what a handler sends along every path, panics included, is a
statement about a list.
-/
import Mathlib.Data.List.Basic

namespace Base

/-- How a computation ends. -/
inductive Ending (ε α : Type _) where
  | ok (a : α)
  | err (e : ε)
  | panic
  deriving DecidableEq, Repr

def Ending.ofExcept {ε α : Type _} : Except ε α → Ending ε α
  | .ok a => .ok a
  | .error e => .err e

@[simp] theorem mapError_eq_ok {ε δ α : Type _} {x : Except ε α} {f : ε → δ} {a} :
    x.mapError f = .ok a ↔ x = .ok a := by
  cases x <;> simp [Except.mapError]

/-- Every error that `x` can be is as `P` says. -/
def ErrorsAre {ε α : Type _} (P : ε → Prop) (x : Except ε α) : Prop := ∀ e, x = .error e → P e

section ErrorsAre

variable {ε δ α β : Type _} {P : ε → Prop}

theorem errorsAre_ok (a : α) : ErrorsAre P (.ok a) := fun _ => (nomatch ·)

theorem errorsAre_error {e : ε} (h : P e) : ErrorsAre P (.error e : Except ε α) := by
  intro e' he
  cases he
  exact h

theorem errorsAre_mapError {x : Except δ α} {f : δ → ε} (h : ∀ e, P (f e)) : ErrorsAre P (x.mapError f) := by
  cases x with
  | ok a => exact errorsAre_ok a
  | error e => exact errorsAre_error (h e)

theorem ErrorsAre.bind {x : Except ε α} {f : α → Except ε β} (hx : ErrorsAre P x)
    (hf : ∀ a, x = .ok a → ErrorsAre P (f a)) : ErrorsAre P (x >>= f) := by
  cases x with
  | ok a => exact hf a rfl
  | error e => exact errorsAre_error (hx e rfl)

end ErrorsAre

namespace Ending

variable {ε α β : Type _}

def isErr : Ending ε α → Bool
  | .err _ => true
  | _ => false

@[simp] theorem ofExcept_ne_panic (x : Except ε α) : Ending.ofExcept x ≠ .panic := by
  cases x <;> simp [ofExcept]

@[simp] theorem ofExcept_eq_ok {x : Except ε α} {a} : Ending.ofExcept x = .ok a ↔ x = .ok a := by
  cases x <;> simp [ofExcept]

@[simp] theorem ofExcept_ok (a : α) : (Ending.ofExcept (.ok a) : Ending ε α) = .ok a := rfl

@[simp] theorem ofExcept_error (e : ε) : (Ending.ofExcept (.error e) : Ending ε α) = .err e := rfl

def bind (x : Ending ε α) (f : α → Ending ε β) : Ending ε β :=
  match x with
  | .ok a => f a
  | .err e => .err e
  | .panic => .panic

instance : Monad (Ending ε) where
  pure := Ending.ok
  bind := Ending.bind

@[simp] theorem pure_eq (a : α) : (Pure.pure a : Ending ε α) = .ok a := rfl

@[simp] theorem ok_bind (a : α) (f : α → Ending ε β) : Ending.ok a >>= f = f a := rfl

@[simp] theorem err_bind (e : ε) (f : α → Ending ε β) : Ending.err e >>= f = .err e := rfl

@[simp] theorem panic_bind (f : α → Ending ε β) : (Ending.panic : Ending ε α) >>= f = .panic := rfl

theorem bind_eq_ok {x : Ending ε α} {f : α → Ending ε β} {b} :
    x >>= f = .ok b ↔ ∃ a, x = .ok a ∧ f a = .ok b := by
  cases x <;> simp

theorem bind_eq_panic {x : Ending ε α} {f : α → Ending ε β} :
    x >>= f = .panic ↔ x = .panic ∨ ∃ a, x = .ok a ∧ f a = .panic := by
  cases x <;> simp

end Ending

/-- A computation: what it sent, in order, and how it ended. -/
structure Eff (ω ε α : Type _) where
  sent : List ω
  ending : Ending ε α

namespace Eff

variable {ω ε α β : Type _}

def pure (a : α) : Eff ω ε α := ⟨[], .ok a⟩

def bind (x : Eff ω ε α) (f : α → Eff ω ε β) : Eff ω ε β :=
  match x.ending with
  | .ok a => ⟨x.sent ++ (f a).sent, (f a).ending⟩
  | .err e => ⟨x.sent, .err e⟩
  | .panic => ⟨x.sent, .panic⟩

instance : Monad (Eff ω ε) where
  pure := Eff.pure
  bind := Eff.bind

def send (w : ω) : Eff ω ε Unit := ⟨[w], .ok ()⟩

def fail (e : ε) : Eff ω ε α := ⟨[], .err e⟩

/-- `unwrap` on a failure, an index out of range. -/
def panicked : Eff ω ε α := ⟨[], .panic⟩

def ofExcept : Except ε α → Eff ω ε α
  | .ok a => ⟨[], .ok a⟩
  | .error e => ⟨[], .err e⟩

def ofEnding (r : Ending ε α) : Eff ω ε α := ⟨[], r⟩

/-- A `match` on the ending that has an arm for errors; a panic goes through it. -/
def handle (x : Eff ω ε α) (onErr : ε → Eff ω ε α) : Eff ω ε α :=
  match x.ending with
  | .ok a => ⟨x.sent, .ok a⟩
  | .err e => ⟨x.sent ++ (onErr e).sent, (onErr e).ending⟩
  | .panic => ⟨x.sent, .panic⟩

/-- `tokio::spawn(x).await.map_err(…)?`: a task that panics is an error of its spawner. -/
def spawned (x : Eff ω ε α) (joinError : ε) : Eff ω ε α :=
  match x.ending with
  | .ok a => ⟨x.sent, .ok a⟩
  | .err e => ⟨x.sent, .err e⟩
  | .panic => ⟨x.sent, .err joinError⟩

section Lemmas

variable (a : α) (e : ε) (w : ω) (x : Eff ω ε α) (f : α → Eff ω ε β)

@[simp] theorem sent_pure : (Pure.pure a : Eff ω ε α).sent = [] := rfl
@[simp] theorem ending_pure : (Pure.pure a : Eff ω ε α).ending = .ok a := rfl
@[simp] theorem sent_send : (send w : Eff ω ε Unit).sent = [w] := rfl
@[simp] theorem ending_send : (send w : Eff ω ε Unit).ending = .ok () := rfl
@[simp] theorem sent_fail : (fail e : Eff ω ε α).sent = [] := rfl
@[simp] theorem ending_fail : (fail e : Eff ω ε α).ending = .err e := rfl
@[simp] theorem sent_panicked : (panicked : Eff ω ε α).sent = [] := rfl
@[simp] theorem ending_panicked : (panicked : Eff ω ε α).ending = .panic := rfl
@[simp] theorem sent_ofEnding (r : Ending ε α) : (ofEnding r : Eff ω ε α).sent = [] := rfl
@[simp] theorem ending_ofEnding (r : Ending ε α) : (ofEnding r : Eff ω ε α).ending = r := rfl

@[simp] theorem sent_ofExcept (r : Except ε α) : (ofExcept r : Eff ω ε α).sent = [] := by
  cases r <;> rfl

@[simp] theorem sent_spawned : (x.spawned e).sent = x.sent := by
  unfold spawned
  split <;> rfl

variable {a e x}

theorem bind_ok (h : x.ending = .ok a) : x >>= f = ⟨x.sent ++ (f a).sent, (f a).ending⟩ := by
  show Eff.bind x f = _
  simp only [Eff.bind, h]

theorem bind_err (h : x.ending = .err e) : x >>= f = ⟨x.sent, .err e⟩ := by
  show Eff.bind x f = _
  simp only [Eff.bind, h]

theorem bind_panic (h : x.ending = .panic) : x >>= f = ⟨x.sent, .panic⟩ := by
  show Eff.bind x f = _
  simp only [Eff.bind, h]

theorem handle_ok {g : ε → Eff ω ε α} (h : x.ending = .ok a) : x.handle g = ⟨x.sent, .ok a⟩ := by
  rw [handle, h]

theorem handle_err {g : ε → Eff ω ε α} (h : x.ending = .err e) :
    x.handle g = ⟨x.sent ++ (g e).sent, (g e).ending⟩ := by
  rw [handle, h]

theorem handle_panic {g : ε → Eff ω ε α} (h : x.ending = .panic) : x.handle g = ⟨x.sent, .panic⟩ := by
  rw [handle, h]

/-- What comes after a computation that sends nothing adds nothing to what it sent. -/
theorem sent_bind_of_quiet {f : α → Eff ω ε β} (h : ∀ a, (f a).sent = []) : (x >>= f).sent = x.sent := by
  cases hx : x.ending with
  | ok a => rw [bind_ok _ hx, h, List.append_nil]
  | err e => rw [bind_err _ hx]
  | panic => rw [bind_panic _ hx]

/-- What a computation ends with is what its parts end with. -/
theorem ending_bind {f : α → Eff ω ε β} : (x >>= f).ending = x.ending >>= fun a => (f a).ending := by
  cases hx : x.ending with
  | ok a => rw [bind_ok _ hx, Ending.ok_bind]
  | err e => rw [bind_err _ hx, Ending.err_bind]
  | panic => rw [bind_panic _ hx, Ending.panic_bind]

variable (a e)

@[simp] theorem pure_bind : (Pure.pure a : Eff ω ε α) >>= f = f a := rfl

@[simp] theorem ofExcept_ok_bind : (ofExcept (.ok a) : Eff ω ε α) >>= f = f a := rfl

@[simp] theorem ofExcept_error_bind : (ofExcept (.error e) : Eff ω ε α) >>= f = fail e := rfl

@[simp] theorem ofEnding_ok_bind : (ofEnding (.ok a) : Eff ω ε α) >>= f = f a := rfl

@[simp] theorem ofEnding_err_bind : (ofEnding (.err e) : Eff ω ε α) >>= f = fail e := rfl

@[simp] theorem ofEnding_panic_bind : (ofEnding .panic : Eff ω ε α) >>= f = panicked := rfl

@[simp] theorem fail_bind : (fail e : Eff ω ε α) >>= f = fail e := rfl

@[simp] theorem panicked_bind : (panicked : Eff ω ε α) >>= f = panicked := rfl

@[simp] theorem send_bind (g : Unit → Eff ω ε β) :
    (send w : Eff ω ε Unit) >>= g = ⟨w :: (g ()).sent, (g ()).ending⟩ := rfl

end Lemmas

/-! ## What everything sent has in common -/

/-- Everything `x` sends is as `P` says. -/
def Sends (P : ω → Prop) (x : Eff ω ε α) : Prop := ∀ w ∈ x.sent, P w

section Sends

variable {P : ω → Prop} {x : Eff ω ε α}

theorem sends_of_nil (h : x.sent = []) : x.Sends P := by
  intro w hw
  rw [h] at hw
  cases hw

theorem Sends.mono {Q : ω → Prop} (hx : x.Sends P) (h : ∀ w, P w → Q w) : x.Sends Q := fun w hw => h w (hx w hw)

theorem sends_send {w : ω} (h : P w) : (send w : Eff ω ε Unit).Sends P := by
  intro w' hw'
  rw [sent_send, List.mem_singleton] at hw'
  exact hw' ▸ h

theorem Sends.bind {f : α → Eff ω ε β} (hx : x.Sends P) (hf : ∀ a, x.ending = .ok a → (f a).Sends P) :
    (x >>= f).Sends P := by
  intro w hw
  cases hend : x.ending with
  | ok a =>
    rw [bind_ok _ hend, List.mem_append] at hw
    exact hw.elim (hx w) (hf a hend w)
  | err e =>
    rw [bind_err _ hend] at hw
    exact hx w hw
  | panic =>
    rw [bind_panic _ hend] at hw
    exact hx w hw

theorem Sends.handle {g : ε → Eff ω ε α} (hx : x.Sends P) (hg : ∀ e, (g e).Sends P) : (x.handle g).Sends P := by
  intro w hw
  cases hend : x.ending with
  | ok a =>
    rw [handle_ok hend] at hw
    exact hx w hw
  | err e =>
    rw [handle_err hend, List.mem_append] at hw
    exact hw.elim (hx w) (hg e w)
  | panic =>
    rw [handle_panic hend] at hw
    exact hx w hw

theorem Sends.spawned {e : ε} (hx : x.Sends P) : (x.spawned e).Sends P := by
  intro w hw
  rw [sent_spawned] at hw
  exact hx w hw

end Sends

end Eff

end Base
