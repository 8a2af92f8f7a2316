/-
The locks that `nodes_create_lock` keeps in memory: for each stack the units
locked on it and until when, the first to expire first.

The map's queues are a function of the stack: where the map has no entry the
queue is empty, and an entry whose queue is empty is one that nothing tells
from none. Instants are nanoseconds since the clock's origin, and the state
manager's channel is open.
-/
import AtomaProxy.Base.PriorityQueue
import AtomaProxy.Server.Settlement
import Mathlib.Data.Prod.Lex

namespace AtomaProxy

open Base

/-- `Instant`, in nanoseconds. -/
abbrev Instant := Nat

/-- `instant + Duration::from_secs(seconds)`, which panics where the seconds overflow the clock's `i64`. -/
def Instant.addSecs (instant : Instant) (seconds : UInt64) : Option Instant :=
  if instant / 1000000000 + seconds.toNat < 2 ^ 63 then .some (instant + seconds.toNat * 1000000000) else .none

structure LockedDetails where
  expiresAt : Instant
  maxNumTokens : Int64
  deriving Repr

/-- The derived order: by the time, then by the units. -/
def LockedDetails.rank (lock : LockedDetails) : Nat ×ₗ Int := toLex (lock.expiresAt, lock.maxNumTokens.toInt)

theorem LockedDetails.rank_injective : Function.Injective LockedDetails.rank := by
  intro a b h
  have hpair := Prod.ext_iff.1 (toLex_inj.1 h)
  rw [LockedDetails.mk.injEq]
  exact ⟨hpair.1, Int64.toInt_inj.1 hpair.2⟩

instance : LinearOrder LockedDetails := LinearOrder.lift' LockedDetails.rank LockedDetails.rank_injective

theorem LockedDetails.expiresAt_le {a b : LockedDetails} (h : a ≤ b) : a.expiresAt ≤ b.expiresAt := by
  rcases Prod.Lex.le_iff.1 (show a.rank ≤ b.rank from h) with hlt | heq
  · exact le_of_lt hlt
  · exact le_of_eq heq.1

/-- `lock.expires_at < now`. -/
def LockedDetails.expired (now : Instant) (lock : LockedDetails) : Bool := lock.expiresAt < now

/-- `stack_locked_compute_units`. -/
abbrev Locks := Int64 → PriorityQueue LockedDetails

def Locks.empty : Locks := fun _ => .empty

/-- The lock that `lock_compute_units_in_memory` pushes, `none` where it panics. -/
def newLock (timeout : UInt64) (maxNumTokens : Int64) (start : Instant) : Option LockedDetails :=
  (start.addSecs timeout).map fun expiresAt => ⟨expiresAt, maxNumTokens⟩

/-- `lock_compute_units_in_memory`. -/
def lockComputeUnitsInMemory (locks : Locks) (stackSmallId : Int64) (timeout : UInt64) (maxNumTokens : Int64)
    (start : Instant) : Option Locks :=
  (newLock timeout maxNumTokens start).map fun lock =>
    Function.update locks stackSmallId ((locks stackSmallId).push lock)

/-- The loop that pops a stack's expired locks, and releases each. -/
def pruneStack (locks : Locks) (stackSmallId : Int64) (now : Instant) : List StateManagerEvent × Locks :=
  let popped := (locks stackSmallId).popWhile (LockedDetails.expired now)
  (popped.1.map fun lock => .updateStackNumTokens stackSmallId lock.maxNumTokens 0,
    Function.update locks stackSmallId popped.2)

/-- `prune_compute_units_in_memory`, the map giving its entries in the order of `keys`. -/
def pruneComputeUnitsInMemory (locks : Locks) (now : Instant) : List Int64 → List StateManagerEvent × Locks
  | [] => ([], locks)
  | stackSmallId :: keys =>
    let (sent, locks) := pruneStack locks stackSmallId now
    let (sent', locks') := pruneComputeUnitsInMemory locks now keys
    (sent ++ sent', locks')

/-- What `find_stacks_meeting_criteria_and_prune` did; what it answers, as does its only caller
`verify_stack_for_confidential_compute`, is whether it removed a lock. -/
structure FoundStack where
  sent : List StateManagerEvent
  locks : Locks
  removed : Option LockedDetails

def findStacksMeetingCriteriaAndPrune (locks : Locks) (stackSmallId minUnits : Int64) (now : Instant) (pick : Nat) :
    FoundStack :=
  let pruned := pruneStack locks stackSmallId now
  match (pruned.2 stackSmallId).takeFirst pick fun lock => minUnits ≤ lock.maxNumTokens with
  | .some (lock, left) => ⟨pruned.1, Function.update pruned.2 stackSmallId left, .some lock⟩
  | .none => ⟨pruned.1, pruned.2, .none⟩

/-! ## What they do to the locks -/

variable {locks : Locks} {stackSmallId : Int64} {now : Instant}

theorem pruneStack_self : (pruneStack locks stackSmallId now).2 stackSmallId =
    ((locks stackSmallId).popWhile (LockedDetails.expired now)).2 := Function.update_self _ _ _

theorem pruneStack_of_ne {id : Int64} (h : id ≠ stackSmallId) : (pruneStack locks stackSmallId now).2 id = locks id :=
  Function.update_of_ne h _ _

/-- A lock that is left by a prune of its stack has not expired. -/
theorem not_expired_of_pruned {lock : LockedDetails}
    (h : lock ∈ ((pruneStack locks stackSmallId now).2 stackSmallId).items) : lock.expired now = false := by
  rw [pruneStack_self] at h
  refine PriorityQueue.popWhile_left (fun {a b} hb hle => ?_) h
  exact decide_eq_true (lt_of_le_of_lt (LockedDetails.expiresAt_le hle) (of_decide_eq_true hb))

/-- A prune keeps no lock that was not there. -/
theorem mem_of_pruned {id : Int64} {lock : LockedDetails}
    (h : lock ∈ ((pruneStack locks stackSmallId now).2 id).items) : lock ∈ (locks id).items := by
  by_cases hid : id = stackSmallId
  · subst hid
    rw [pruneStack_self] at h
    exact PriorityQueue.mem_of_mem_left h
  · rwa [pruneStack_of_ne hid] at h

/-- A lock that has not expired is left. -/
theorem mem_pruned {id : Int64} {lock : LockedDetails} (h : lock ∈ (locks id).items)
    (htime : lock.expired now = false) : lock ∈ ((pruneStack locks stackSmallId now).2 id).items := by
  by_cases hid : id = stackSmallId
  · subst hid
    rw [pruneStack_self]
    rw [← @PriorityQueue.popWhile_append _ _ (LockedDetails.expired now)] at h
    rcases List.mem_append.1 h with hpopped | hleft
    · rw [(PriorityQueue.mem_of_mem_popped hpopped).2] at htime
      cases htime
    · exact hleft
  · rwa [pruneStack_of_ne hid]

/-- **What a removed lock is**: one of the stack's, that has not expired and has the units. -/
theorem of_findStacks {minUnits : Int64} {pick : Nat} {lock : LockedDetails}
    (h : (findStacksMeetingCriteriaAndPrune locks stackSmallId minUnits now pick).removed = .some lock) :
    lock ∈ (locks stackSmallId).items ∧ lock.expired now = false ∧ minUnits ≤ lock.maxNumTokens := by
  unfold findStacksMeetingCriteriaAndPrune at h
  dsimp only at h
  split at h
  · next found left htake =>
    cases h
    obtain ⟨hmem, hunits, _⟩ := PriorityQueue.of_takeFirst htake
    exact ⟨mem_of_pruned hmem, not_expired_of_pruned hmem, of_decide_eq_true hunits⟩
  · cases h

/-- A lock is removed if there is such a one. -/
theorem findStacks_isSome {minUnits : Int64} {pick : Nat} {lock : LockedDetails}
    (hmem : lock ∈ (locks stackSmallId).items) (htime : lock.expired now = false) (hunits : minUnits ≤ lock.maxNumTokens) :
    (findStacksMeetingCriteriaAndPrune locks stackSmallId minUnits now pick).removed.isSome = true := by
  have hsome : (((pruneStack locks stackSmallId now).2 stackSmallId).takeFirst pick fun lock =>
      decide (minUnits ≤ lock.maxNumTokens)).isSome = true :=
    PriorityQueue.takeFirst_isSome.2 ⟨lock, mem_pruned hmem htime, decide_eq_true hunits⟩
  unfold findStacksMeetingCriteriaAndPrune
  dsimp only
  split
  · rfl
  · next hnone =>
    rw [hnone] at hsome
    cases hsome

/-- What is in the queues after it was there before. -/
theorem mem_of_findStacks {minUnits id : Int64} {pick : Nat} {lock : LockedDetails}
    (h : lock ∈ ((findStacksMeetingCriteriaAndPrune locks stackSmallId minUnits now pick).locks id).items) :
    lock ∈ (locks id).items := by
  unfold findStacksMeetingCriteriaAndPrune at h
  dsimp only at h
  split at h
  · next found left htake =>
    obtain ⟨_, _, hleft⟩ := PriorityQueue.of_takeFirst htake
    dsimp only at h
    by_cases hid : id = stackSmallId
    · subst hid
      rw [Function.update_self, hleft] at h
      exact mem_of_pruned (List.mem_of_mem_erase h)
    · rw [Function.update_of_ne hid] at h
      exact mem_of_pruned h
  · exact mem_of_pruned h

end AtomaProxy
