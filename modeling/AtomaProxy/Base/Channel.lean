/-
First-in first-out channels of many senders and one receiver. A channel
remembers what was received, so that what was sent to it is what was received
and then what still waits, and the order needs no proof of its own: receiving
moves the boundary between the two.
-/
import Mathlib.Data.List.Basic

namespace Base

structure Channel (ε : Type _) where
  received : List ε
  queue : List ε
  isOpen : Bool

namespace Channel

variable {ε : Type _}

/-- Nothing was sent. -/
def fresh : Channel ε := ⟨[], [], true⟩

/-- Everything that was sent, in order. -/
def sent (c : Channel ε) : List ε := c.received ++ c.queue

def send (c : Channel ε) (x : ε) : Option (Channel ε) :=
  if c.isOpen then .some { c with queue := c.queue ++ [x] } else .none

/-- The next message, `none` where none waits. -/
def recv (c : Channel ε) : Option (ε × Channel ε) :=
  match c.queue with
  | [] => .none
  | x :: queue => .some (x, { c with received := c.received ++ [x], queue })

/-- The last sender is gone. -/
def close (c : Channel ε) : Channel ε := { c with isOpen := false }

/-- One message after the other; where the receiver is gone they are lost. -/
def sendAll (c : Channel ε) (xs : List ε) : Channel ε := xs.foldl (fun c x => (c.send x).getD c) c

/-- Nothing waits, and nothing will. -/
abbrev Disconnected (c : Channel ε) : Prop := c.queue.isEmpty = true ∧ c.isOpen = false

theorem send_some {c c' : Channel ε} {x : ε} (h : c.send x = .some c') :
    c'.sent = c.sent ++ [x] ∧ c'.received = c.received := by
  unfold send at h
  split at h
  · cases h
    exact ⟨(List.append_assoc c.received c.queue [x]).symm, rfl⟩
  · cases h

theorem recv_some {c c' : Channel ε} {x : ε} (h : c.recv = .some (x, c')) :
    c.queue.head? = .some x ∧ c'.sent = c.sent ∧ c'.received = c.received ++ [x] := by
  unfold recv at h
  split at h
  · cases h
  · next y queue hq =>
    cases h
    refine ⟨by rw [hq, List.head?_cons], ?_, rfl⟩
    simp only [sent, hq, List.append_assoc, List.singleton_append]

/-- What waits was waiting, or was sent now. -/
theorem mem_queue_sendAll {xs : List ε} {x : ε} : ∀ {c : Channel ε}, x ∈ (c.sendAll xs).queue → x ∈ c.queue ∨ x ∈ xs := by
  induction xs with
  | nil => exact .inl
  | cons y xs ih =>
    intro c h
    rcases ih h with hqueue | hmem
    · dsimp only at hqueue
      cases hsend : c.send y with
      | none =>
        rw [hsend] at hqueue
        exact .inl hqueue
      | some c' =>
        rw [hsend, Option.getD_some] at hqueue
        unfold send at hsend
        split at hsend
        · cases hsend
          rcases List.mem_append.1 hqueue with hqueue | hlast
          · exact .inl hqueue
          · exact .inr (List.mem_singleton.1 hlast ▸ List.mem_cons_self)
        · cases hsend
    · exact .inr (List.mem_cons_of_mem y hmem)

/-- What waits can be received. -/
theorem recv_of_head {c : Channel ε} {x : ε} (h : c.queue.head? = .some x) :
    ∃ c', c.recv = .some (x, c') ∧ c'.received = c.received ++ [x] := by
  unfold recv
  cases hq : c.queue with
  | nil =>
    rw [hq] at h
    cases h
  | cons y queue =>
    rw [hq] at h
    cases h
    exact ⟨_, rfl, rfl⟩

/-- What was received came first. -/
theorem received_eq_take (c : Channel ε) : c.received = c.sent.take c.received.length := by
  rw [sent, List.take_left]

theorem queue_eq_drop (c : Channel ε) : c.queue = c.sent.drop c.received.length := by
  rw [sent, List.drop_left]

end Channel

end Base
