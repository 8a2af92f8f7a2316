/-
`LockGuard`, and the purchases of stacks that it keeps apart: for each user
and task one at a time.

A guard holds a clone of the `Arc` of the one shared map, so the map is part
of the state and a guard is its key. A caller takes its guard as soon as it
has a node and calls `acquire_new_stack`, which moves the guard into the task
it spawns: from there on the guard lives exactly as long as that task, however
it ends. A caller that gets none goes on to `get_stack_if_locked`, which only
reads the map.
-/
import AtomaProxy.Base.Exclusive
import AtomaProxy.Base.Machine
import AtomaProxy.Server.CreateLock

namespace AtomaProxy

open Base

/-- `users_buy_stack_lock_map`. -/
abbrev BuyStackLocks := Table (Int64 × Int64) Bool

structure LockGuard where
  key : Int64 × Int64
  locked : Bool
  deriving DecidableEq, Repr

namespace LockGuard

/-- The guard, where there is one, and the map it leaves. -/
def tryLock (map : BuyStackLocks) (key : Int64 × Int64) : Option LockGuard × BuyStackLocks :=
  match map key with
  | .some _ => (.none, map)
  | .none => (.some ⟨key, true⟩, Function.update map key (.some true))

def drop (guard : LockGuard) (map : BuyStackLocks) : BuyStackLocks :=
  if guard.locked then Function.update map guard.key .none else map

end LockGuard

/-- The key that the callers of `acquire_new_stack` lock. -/
def Purchase.lockKey (p : Purchase) : Int64 × Int64 := (p.userId, p.node.taskSmallId)

/-- Where a purchase that holds a guard is. -/
inductive Buying where
  /-- the caller has the guard -/
  | called
  /-- its task waits for `DeductFromUsdc` -/
  | deducting
  /-- its task is past that -/
  | acquiring (phase : Acquiring)
  deriving DecidableEq

/-- A live guard, and the purchase it was moved to. -/
structure Buyer where
  guard : LockGuard
  purchase : Purchase
  phase : Buying
  deriving DecidableEq

structure BuyState where
  map : BuyStackLocks
  buyers : Multiset Buyer

def BuyState.start : BuyState := ⟨fun _ => .none, 0⟩

/-- The live guards. -/
def BuyState.guards (s : BuyState) : Multiset LockGuard := s.buyers.map Buyer.guard

/-- What can happen. -/
inductive BuyEvent where
  /-- a caller has its node: `get_cheapest_node_and_acquire_new_stack` or `nodes_create_lock` -/
  | tryLock (p : Purchase)
  /-- `acquire_new_stack` spawns its task -/
  | spawn (b : Buyer)
  | deductFromUsdc (b : Buyer) (reply : Except AtomaStateManagerError Unit)
  | acquireNewStackEntry (b : Buyer) (answers : EntryAnswers)
  | newStackAcquired (b : Buyer) (reply : Except AtomaStateManagerError Unit)
  | refundUsdc (b : Buyer)
  /-- the caller's future is dropped -/
  | cancelled (b : Buyer)
  /-- a panic, or the end of the runtime -/
  | stopped (b : Buyer)

namespace BuyState

variable (s : BuyState)

/-- What holds the guard goes, and drops it. -/
def release (b : Buyer) : BuyState := ⟨b.guard.drop s.map, s.buyers.erase b⟩

def advance (b : Buyer) (phase : Buying) : BuyState := { s with buyers := { b with phase } ::ₘ s.buyers.erase b }

/-- The task goes on as an answer says. -/
def goOn (b : Buyer) : Continued → BuyState
  | .waits phase => s.advance b (.acquiring phase)
  | .ended _ => s.release b

end BuyState

def buyStep (s : BuyState) : BuyEvent → Option BuyState
  | .tryLock p =>
    match LockGuard.tryLock s.map p.lockKey with
    | (.some guard, map) => .some ⟨map, ⟨guard, p, .called⟩ ::ₘ s.buyers⟩
    | (.none, map) => .some { s with map }
  | .spawn b => if b ∈ s.buyers ∧ b.phase = .called then .some (s.advance b .deducting) else .none
  | .deductFromUsdc b reply =>
    if b ∈ s.buyers ∧ b.phase = .deducting then .some (s.goOn b (b.purchase.afterDeduct reply)) else .none
  | .acquireNewStackEntry b answers =>
    if b ∈ s.buyers ∧ b.phase = .acquiring .entry then
      .some (s.goOn b (b.purchase.afterEntry (acquireNewStackEntry answers)))
    else .none
  | .newStackAcquired b reply =>
    match b.phase with
    | .acquiring (.newStackAcquired event) =>
      if b ∈ s.buyers then .some (s.goOn b (b.purchase.afterNewStackAcquired event reply)) else .none
    | _ => .none
  | .refundUsdc b =>
    match b.phase with
    | .acquiring (.refund error) => if b ∈ s.buyers then .some (s.goOn b (Purchase.afterRefund error)) else .none
    | _ => .none
  | .cancelled b =>
    if b ∈ s.buyers then
      -- the task that was spawned goes on without its caller
      if b.phase = .called then .some (s.release b) else .some s
    else .none
  | .stopped b => if b ∈ s.buyers then .some (s.release b) else .none

def buyMachine : Machine BuyState BuyEvent := ⟨buyStep⟩

/-! ## What a step can do -/

theorem LockGuard.tryLock_of_free {map : BuyStackLocks} {key : Int64 × Int64} (h : map key = .none) :
    LockGuard.tryLock map key = (.some ⟨key, true⟩, Function.update map key (.some true)) := by
  unfold LockGuard.tryLock
  rw [h]

theorem LockGuard.tryLock_of_held {map : BuyStackLocks} {key : Int64 × Int64} (h : map key ≠ .none) :
    LockGuard.tryLock map key = (.none, map) := by
  unfold LockGuard.tryLock
  split
  · rfl
  · next hnone => exact absurd hnone h

/-- `nodes_create_lock` goes on to buy a stack exactly where the key of its purchase is free. -/
theorem NodesCreateLockRequest.afterCheapestNode_deducts_iff {request : NodesCreateLockRequest} {userId : Int64}
    {node : CheapestNode} {map : BuyStackLocks} :
    request.afterCheapestNode userId (.ok (.some node))
        (LockGuard.tryLock map (purchase userId node).lockKey).1.isSome =
      .waits (.deductFromUsdc (purchase userId node)) ↔ map (purchase userId node).lockKey = .none := by
  unfold afterCheapestNode
  dsimp only
  by_cases hfree : map (purchase userId node).lockKey = .none
  · rw [LockGuard.tryLock_of_free hfree]
    exact iff_of_true rfl hfree
  · rw [LockGuard.tryLock_of_held hfree]
    exact iff_of_false (by rintro ⟨⟩) hfree

/-- A step takes a guard for a purchase whose key is free, or changes nothing, or has a purchase go on with its
guard, or ends one and drops its guard. -/
inductive BuyState.Does (s s' : BuyState) : Prop where
  | locks (p : Purchase) (free : s.map p.lockKey = .none)
      (eq : s' = ⟨Function.update s.map p.lockKey (.some true), ⟨⟨p.lockKey, true⟩, p, .called⟩ ::ₘ s.buyers⟩)
  | nothing (eq : s' = s)
  | advances (b : Buyer) (mem : b ∈ s.buyers) (phase : Buying) (eq : s' = s.advance b phase)
  | releases (b : Buyer) (mem : b ∈ s.buyers) (eq : s' = s.release b)

theorem BuyState.Does.goOn {s : BuyState} {b : Buyer} (mem : b ∈ s.buyers) (c : Continued) : s.Does (s.goOn b c) := by
  cases c with
  | waits phase => exact .advances b mem _ rfl
  | ended result => exact .releases b mem rfl

/-- **Inversion.** A step is one of these. -/
theorem buyStep_does {s s' : BuyState} {ev : BuyEvent} (h : buyStep s ev = .some s') : s.Does s' := by
  cases ev with
  | tryLock p =>
    unfold buyStep at h
    dsimp only at h
    by_cases hfree : s.map p.lockKey = .none
    · rw [LockGuard.tryLock_of_free hfree] at h
      exact .locks p hfree (Option.some.inj h).symm
    · rw [LockGuard.tryLock_of_held hfree] at h
      exact .nothing (Option.some.inj h).symm
  | spawn b =>
    obtain ⟨hmem, h⟩ := Option.ite_none_right_eq_some.1 h
    exact .advances b hmem.1 .deducting (Option.some.inj h).symm
  | deductFromUsdc b reply =>
    obtain ⟨hmem, h⟩ := Option.ite_none_right_eq_some.1 h
    exact Option.some.inj h ▸ .goOn hmem.1 _
  | acquireNewStackEntry b answers =>
    obtain ⟨hmem, h⟩ := Option.ite_none_right_eq_some.1 h
    exact Option.some.inj h ▸ .goOn hmem.1 _
  | newStackAcquired b reply =>
    unfold buyStep at h
    dsimp only at h
    split at h
    · obtain ⟨hmem, h⟩ := Option.ite_none_right_eq_some.1 h
      exact Option.some.inj h ▸ .goOn hmem _
    · cases h
  | refundUsdc b =>
    unfold buyStep at h
    dsimp only at h
    split at h
    · obtain ⟨hmem, h⟩ := Option.ite_none_right_eq_some.1 h
      exact Option.some.inj h ▸ .goOn hmem _
    · cases h
  | cancelled b =>
    obtain ⟨hmem, h⟩ := Option.ite_none_right_eq_some.1 h
    split at h
    · exact .releases b hmem (Option.some.inj h).symm
    · exact .nothing (Option.some.inj h).symm
  | stopped b =>
    obtain ⟨hmem, h⟩ := Option.ite_none_right_eq_some.1 h
    exact .releases b hmem (Option.some.inj h).symm

/-! ## The map and the live guards -/

/-- What is known of a state: the keys of the live guards are held, each guard is locked and of its purchase, and the
entries of the map say that they are locked. -/
structure BuyState.Inv (s : BuyState) : Prop where
  exclusive : Exclusive (fun b : Buyer => b.guard.key) s.map s.buyers
  guards : ∀ b ∈ s.buyers, b.guard = ⟨b.purchase.lockKey, true⟩
  entries : ∀ key locked, s.map key = .some locked → locked = true

theorem BuyState.Inv.start : BuyState.start.Inv where
  exclusive := .empty
  guards _ hb := absurd hb (Multiset.notMem_zero _)
  entries := by rintro key locked ⟨⟩

/-- A purchase that goes drops its guard, and that its key's entry. -/
theorem BuyState.Inv.release_map {s : BuyState} (h : s.Inv) {b : Buyer} (hb : b ∈ s.buyers) :
    (s.release b).map = Function.update s.map b.guard.key .none := by
  show b.guard.drop s.map = _
  rw [LockGuard.drop, h.guards b hb, if_pos rfl]

theorem BuyState.Inv.step {s s' : BuyState} {ev : BuyEvent} (h : s.Inv) (hstep : buyStep s ev = .some s') : s'.Inv := by
  cases buyStep_does hstep with
  | locks p hfree heq =>
    subst heq
    refine ⟨@Exclusive.acquire _ _ _ _ _ _ _ h.exclusive ⟨⟨p.lockKey, true⟩, p, .called⟩ hfree true, fun b hb => ?_,
      fun key locked hkey => ?_⟩
    · rcases Multiset.mem_cons.1 hb with rfl | hb
      · rfl
      · exact h.guards b hb
    · dsimp only at hkey
      rw [Function.update_apply] at hkey
      split at hkey
      · exact (Option.some.inj hkey).symm
      · exact h.entries key locked hkey
  | nothing heq => exact heq ▸ h
  | advances b hmem phase heq =>
    subst heq
    refine ⟨h.exclusive.exchange hmem rfl, fun b' hb' => ?_, h.entries⟩
    rcases Multiset.mem_cons.1 hb' with rfl | hb'
    · exact h.guards b hmem
    · exact h.guards b' (Multiset.mem_of_mem_erase hb')
  | releases b hmem heq =>
    subst heq
    have hmap := h.release_map hmem
    refine ⟨?_, fun b' hb' => h.guards b' (Multiset.mem_of_mem_erase hb'), fun key locked hkey => ?_⟩
    · rw [hmap]
      exact h.exclusive.release hmem
    · rw [hmap, Function.update_apply] at hkey
      split at hkey
      · cases hkey
      · exact h.entries key locked hkey

theorem BuyState.Inv.run {evs : List BuyEvent} {s : BuyState} (h : buyMachine.run BuyState.start evs = .some s) : s.Inv :=
  Machine.run_invariant (C := fun _ _ => True) (fun hi _ hstep => hi.step hstep) .start
    (Machine.guarded_of_forall (fun _ _ => trivial) evs _) h

/-- A step has a purchase go on with its guard, or leaves its key free. -/
theorem BuyState.Inv.goes_on {s s' : BuyState} {ev : BuyEvent} (h : s.Inv) (hstep : buyStep s ev = .some s') {b : Buyer}
    (hb : b ∈ s.buyers) : (∃ phase, { b with phase } ∈ s'.buyers) ∨ s'.map b.guard.key = .none := by
  cases buyStep_does hstep with
  | locks p hfree heq => exact .inl ⟨b.phase, heq ▸ Multiset.mem_cons_of_mem hb⟩
  | nothing heq => exact .inl ⟨b.phase, heq ▸ hb⟩
  | advances b' hmem phase heq =>
    subst heq
    by_cases hbb : b = b'
    · exact .inl ⟨phase, hbb ▸ Multiset.mem_cons_self _ _⟩
    · exact .inl ⟨b.phase, Multiset.mem_cons_of_mem ((Multiset.mem_erase_of_ne hbb).2 hb)⟩
  | releases b' hmem heq =>
    subst heq
    by_cases hbb : b = b'
    · rw [h.release_map hmem, hbb]
      exact .inr (Function.update_self _ _ _)
    · exact .inl ⟨b.phase, (Multiset.mem_erase_of_ne hbb).2 hb⟩

/-- **Purchases of stacks exclude each other.** After every run there is one live guard at the most for a key, and the
map has entries for the keys of the live guards and no others; where a key has an entry, `try_lock` gives no guard and
changes nothing; a guard that is dropped takes its own entry with it and no other; so there is one purchase at the most
for a user and a task, and where there is none the key is free; and each step has a purchase go on with its guard, or
ends it and leaves its key free. -/
theorem purchases_exclusive {evs : List BuyEvent} {s : BuyState} (h : buyMachine.run BuyState.start evs = .some s) :
    (∀ key, Multiset.card (s.guards.filter fun guard => guard.key = key) ≤ 1) ∧
      (∀ key, s.map key = if key ∈ s.guards.map LockGuard.key then .some true else .none) ∧
      (∀ p : Purchase, s.map p.lockKey ≠ .none →
        LockGuard.tryLock s.map p.lockKey = (.none, s.map) ∧ buyStep s (.tryLock p) = .some s) ∧
      (∀ guard ∈ s.guards, ∀ key, guard.drop s.map key = if key = guard.key then .none else s.map key) ∧
      (∀ userId taskSmallId, Multiset.card (s.buyers.filter fun b =>
        b.purchase.userId = userId ∧ b.purchase.node.taskSmallId = taskSmallId) ≤ 1) ∧
      (∀ userId taskSmallId,
        (∀ b ∈ s.buyers, ¬ (b.purchase.userId = userId ∧ b.purchase.node.taskSmallId = taskSmallId)) →
        (LockGuard.tryLock s.map (userId, taskSmallId)).1 = .some ⟨(userId, taskSmallId), true⟩) ∧
      ∀ b ∈ s.buyers, ∀ ev s', buyStep s ev = .some s' →
        (∃ phase, { b with phase } ∈ s'.buyers) ∨ s'.map (b.purchase.userId, b.purchase.node.taskSmallId) = .none := by
  have hi := BuyState.Inv.run h
  have hkeys : ∀ b ∈ s.buyers, b.guard.key = (b.purchase.userId, b.purchase.node.taskSmallId) :=
    fun b hb => congrArg LockGuard.key (hi.guards b hb)
  have hmap : s.guards.map LockGuard.key = s.buyers.map fun b => b.guard.key := Multiset.map_map _ _ _
  refine ⟨fun key => ?_, fun key => ?_, fun p hheld => ?_, fun guard hguard key => ?_, fun userId taskSmallId => ?_,
    fun userId taskSmallId hnone => ?_, fun b hb ev s' hstep => ?_⟩
  · rw [BuyState.guards, Multiset.filter_map, Multiset.card_map]
    exact hi.exclusive.card_le_one key
  · rw [hmap]
    split
    · next hmem =>
      obtain ⟨locked, hlocked⟩ := Option.ne_none_iff_exists'.1 ((hi.exclusive.present key).2 hmem)
      rw [hlocked, hi.entries key locked hlocked]
    · next hmem => exact not_not.1 fun hne => hmem ((hi.exclusive.present key).1 hne)
  · have htry := LockGuard.tryLock_of_held hheld
    refine ⟨htry, ?_⟩
    unfold buyStep
    dsimp only
    rw [htry]
  · obtain ⟨b, hb, rfl⟩ := Multiset.mem_map.1 hguard
    have hdrop : b.guard.drop s.map = Function.update s.map b.guard.key .none := hi.release_map hb
    rw [hdrop, Function.update_apply]
  · refine le_trans (Multiset.card_le_card ?_) (hi.exclusive.card_le_one (userId, taskSmallId))
    refine le_of_eq (Multiset.filter_congr fun b hb => ?_)
    rw [hkeys b hb, Prod.mk.injEq]
  · rw [LockGuard.tryLock_of_free]
    exact hi.exclusive.free fun b hb hkey => hnone b hb (Prod.mk.inj ((hkeys b hb).symm.trans hkey))
  · rw [← hkeys b hb]
    exact hi.goes_on hstep hb

/-- A purchase by a user of a task. -/
def taskPurchaseExample (userId : Int64) : Purchase := ⟨userId, ⟨7, 100, 10000, 3⟩, 200, "/v1/chat/completions"⟩

/-- One user's call, a second one that finds the key taken, and another user's; the first one's task is spawned, and
ends as its deduction fails. -/
def buyExample : List BuyEvent :=
  [.tryLock (taskPurchaseExample 1), .tryLock (taskPurchaseExample 1), .tryLock (taskPurchaseExample 2),
    .spawn ⟨⟨(1, 7), true⟩, taskPurchaseExample 1, .called⟩,
    .deductFromUsdc ⟨⟨(1, 7), true⟩, taskPurchaseExample 1, .deducting⟩ (.error .insufficientBalance)]

/-- The first user's key is free again, and the other's is not. -/
theorem purchases_exclusive_example : ∃ s, buyMachine.run BuyState.start buyExample = .some s ∧
    (∀ key, Multiset.card (s.guards.filter fun guard => guard.key = key) ≤ 1) ∧
    s.map (1, 7) = .none ∧ s.map (2, 7) = .some true := by
  have hrun : buyMachine.run BuyState.start buyExample = .some ⟨_, _⟩ := rfl
  exact ⟨_, hrun, (purchases_exclusive hrun).1, by decide, by decide⟩

end AtomaProxy
