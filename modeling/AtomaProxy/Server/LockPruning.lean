/-
The map of the locks in memory as the program holds it, a heap under each
stack that has an entry: what pruning and searching it release, remove and
leave, also where the state manager no longer receives.

The queues of `LockedDetails` are these heaps without their layout, and the
last result is that the two agree.
-/
import AtomaProxy.Base.HeapLibrary
import AtomaProxy.Base.Table
import AtomaProxy.Server.CreateLock

namespace AtomaProxy

open Base Base.HeapLibrary

variable {lib : HeapLibrary LockedDetails}

/-- `stack_locked_compute_units`. -/
abbrev LockMap (lib : HeapLibrary LockedDetails) := Table Int64 lib.Heap

/-- The release of a lock. -/
def LockedDetails.release (stackSmallId : Int64) (lock : LockedDetails) : StateManagerEvent :=
  .updateStackNumTokens stackSmallId lock.maxNumTokens 0

/-- The error of `update_state_manager`. -/
def updateStateManagerError (endpoint : String) : AtomaProxyError :=
  .internalError "Error updating stack num tokens: sending on a closed channel" .none endpoint

/-- The closure of `retain`, over the locks that are visited: whether one was found, and those kept. -/
def retainLoop (minUnits : Int64) : Bool → List LockedDetails → Bool × List LockedDetails
  | found, [] => (found, [])
  | found, lock :: locks =>
    if !found && decide (lock.maxNumTokens ≥ minUnits) then retainLoop minUnits true locks
    else
      let (found', kept) := retainLoop minUnits found locks
      (found', lock :: kept)

/-- What a search leaves of the map, the events it sent, and its result. -/
structure FoundInMap (lib : HeapLibrary LockedDetails) where
  map : LockMap lib
  sent : List StateManagerEvent
  result : Except AtomaProxyError Bool

namespace LockMap

/-- The locks of a stack. -/
def locksOf (m : LockMap lib) (stackSmallId : Int64) : List LockedDetails := (m stackSmallId).elim [] lib.visit

/-- The rest of the search, once the stack's heap is pruned. -/
def removeOne (m : LockMap lib) (stackSmallId minUnits : Int64) (details : lib.Heap) (sent : List StateManagerEvent) :
    FoundInMap lib :=
  if (lib.visit details).isEmpty then ⟨Function.update m stackSmallId .none, sent, .ok false⟩
  else
    let (foundAndRemoved, kept) := retainLoop minUnits false (lib.visit details)
    let details := lib.retain details kept
    if foundAndRemoved ∧ (lib.visit details).isEmpty then ⟨Function.update m stackSmallId .none, sent, .ok true⟩
    else ⟨Function.update m stackSmallId (.some details), sent, .ok foundAndRemoved⟩

/-- `find_stacks_meeting_criteria_and_prune`. The state manager accepts the `n`-th event or does not. -/
def findStacksMeetingCriteriaAndPrune (m : LockMap lib) (accepts : Nat → Bool) (stackSmallId minUnits : Int64)
    (now : Instant) (endpoint : String) : FoundInMap lib :=
  match m stackSmallId with
  | .none => ⟨m, [], .ok false⟩
  | .some details =>
    let pruned := lib.popWhile (LockedDetails.expired now) accepts 0 details
    let sent := pruned.popped.map (LockedDetails.release stackSmallId)
    if pruned.finished then m.removeOne stackSmallId minUnits pruned.left sent
    else ⟨Function.update m stackSmallId (.some pruned.left), sent, .error (updateStateManagerError endpoint)⟩

/-- `prune_compute_units_in_memory`, after `n` events; the map gives its entries in the order of `keys`. -/
def pruneComputeUnitsInMemory (accepts : Nat → Bool) (now : Instant) :
    List Int64 → Nat → LockMap lib → LockMap lib × List StateManagerEvent × Except AtomaProxyError Unit
  | [], _, m => (m, [], .ok ())
  | stackSmallId :: keys, n, m =>
    match m stackSmallId with
    | .none => pruneComputeUnitsInMemory accepts now keys n m
    | .some details =>
      let pruned := lib.popWhile (LockedDetails.expired now) accepts n details
      let sent := pruned.popped.map (LockedDetails.release stackSmallId)
      let m' := Function.update m stackSmallId (.some pruned.left)
      if pruned.finished then
        let (m'', sent', result) := pruneComputeUnitsInMemory accepts now keys (n + sent.length) m'
        (m'', sent ++ sent', result)
      else (m', sent, .error (updateStateManagerError nodesCreateLockPath))

end LockMap

/-- An event is of the stack. -/
def StateManagerEvent.ofStack (stackSmallId : Int64) : StateManagerEvent → Bool
  | .updateStackNumTokens id _ _ => id = stackSmallId
  | _ => false

/-- What a search of a stack with the locks `locks` is to do, where what it sends is accepted. -/
structure FindsAndPrunes (locks : List LockedDetails) (stackSmallId minUnits : Int64) (now : Instant)
    (found : FoundInMap lib) : Prop where
  /-- each expired lock is released, once and with its own units -/
  released : found.sent.Perm ((locks.filter (LockedDetails.expired now)).map (LockedDetails.release stackSmallId))
  answers : ∃ answer, found.result = .ok answer ∧
    (answer = true ↔ ∃ lock ∈ locks, lock.expired now = false ∧ minUnits ≤ lock.maxNumTokens)
  /-- one lock with the units is removed, and every other one that has not expired is left -/
  removes : found.result = .ok true → ∃ lock, minUnits ≤ lock.maxNumTokens ∧
    (locks.filter fun lock => !lock.expired now).Perm (lock :: found.map.locksOf stackSmallId)
  keeps : found.result = .ok false →
    (locks.filter fun lock => !lock.expired now).Perm (found.map.locksOf stackSmallId)
  entry : found.map stackSmallId = .none ↔ found.map.locksOf stackSmallId = []

/-! ## The two parts of a search -/

/-- An expired lock's predecessors are expired. -/
theorem LockedDetails.expired_of_le {now : Instant} {a b : LockedDetails} (hb : b.expired now = true) (hle : a ≤ b) :
    a.expired now = true :=
  decide_eq_true (lt_of_le_of_lt (LockedDetails.expiresAt_le hle) (of_decide_eq_true hb))

theorem retainLoop_true (minUnits : Int64) : ∀ locks, retainLoop minUnits true locks = (true, locks)
  | [] => rfl
  | lock :: locks => by
    unfold retainLoop
    rw [retainLoop_true minUnits locks]
    rfl

/-- The first lock with the units is dropped, and no other. -/
theorem retainLoop_false (minUnits : Int64) : ∀ locks : List LockedDetails,
    (∃ lock kept, minUnits ≤ lock.maxNumTokens ∧ locks.Perm (lock :: kept) ∧
        retainLoop minUnits false locks = (true, kept)) ∨
      ((∀ lock ∈ locks, ¬ minUnits ≤ lock.maxNumTokens) ∧ retainLoop minUnits false locks = (false, locks))
  | [] => .inr ⟨fun _ h => absurd h List.not_mem_nil, rfl⟩
  | lock :: locks => by
    by_cases hunits : minUnits ≤ lock.maxNumTokens
    · refine .inl ⟨lock, locks, hunits, .refl _, ?_⟩
      unfold retainLoop
      rw [Bool.not_false, Bool.true_and, if_pos (decide_eq_true hunits), retainLoop_true]
    · have hstep : retainLoop minUnits false (lock :: locks) =
          ((retainLoop minUnits false locks).1, lock :: (retainLoop minUnits false locks).2) := by
        rw [retainLoop, Bool.not_false, Bool.true_and, if_neg fun h => hunits (of_decide_eq_true h)]
      rcases retainLoop_false minUnits locks with ⟨found, kept, hfound, hperm, heq⟩ | ⟨hnone, heq⟩
      · refine .inl ⟨found, lock :: kept, hfound, (hperm.cons lock).trans (.swap found lock kept), ?_⟩
        rw [hstep, heq]
      · refine .inr ⟨fun lock' hmem => ?_, ?_⟩
        · rcases List.mem_cons.1 hmem with rfl | hmem
          · exact hunits
          · exact hnone lock' hmem
        · rw [hstep, heq]

namespace LockMap

variable {m : LockMap lib} {stackSmallId minUnits : Int64} {now : Instant} {accepts : Nat → Bool} {endpoint : String}

theorem locksOf_update (id : Int64) (entry : Option lib.Heap) (other : Int64) :
    locksOf (Function.update m id entry) other = if other = id then entry.elim [] lib.visit else m.locksOf other := by
  unfold locksOf
  rw [Function.update_apply]
  split <;> rfl

theorem locksOf_none (h : m stackSmallId = .none) : m.locksOf stackSmallId = [] := by
  rw [locksOf, h]
  rfl

theorem locksOf_some {details : lib.Heap} (h : m stackSmallId = .some details) :
    m.locksOf stackSmallId = lib.visit details := by
  rw [locksOf, h]
  rfl

/-- An entry that is not an empty heap is missing exactly if there are no locks. -/
theorem update_eq_none_iff {entry : Option lib.Heap} (hne : ∀ details, entry = .some details → lib.visit details ≠ []) :
    Function.update m stackSmallId entry stackSmallId = .none ↔
      locksOf (Function.update m stackSmallId entry) stackSmallId = [] := by
  rw [locksOf_update, if_pos rfl, Function.update_self]
  cases entry with
  | none => exact iff_of_true rfl rfl
  | some details => exact iff_of_false (by rintro ⟨⟩) (hne details rfl)

/-- What the search of a pruned heap answers, removes and leaves. -/
theorem removeOne_spec (details : lib.Heap) (sent : List StateManagerEvent) :
    let found := m.removeOne stackSmallId minUnits details sent
    found.sent = sent ∧ (found.map stackSmallId = .none ↔ found.map.locksOf stackSmallId = []) ∧
      ((∃ lock, minUnits ≤ lock.maxNumTokens ∧ found.result = .ok true ∧
          (lib.visit details).Perm (lock :: found.map.locksOf stackSmallId)) ∨
        ((∀ lock ∈ lib.visit details, ¬ minUnits ≤ lock.maxNumTokens) ∧ found.result = .ok false ∧
          (lib.visit details).Perm (found.map.locksOf stackSmallId))) := by
  dsimp only
  have hremoved : ∀ {entry : Option lib.Heap}, locksOf (Function.update m stackSmallId entry) stackSmallId =
      entry.elim [] lib.visit := by
    intro entry
    rw [locksOf_update, if_pos rfl]
  unfold removeOne
  split
  · next hempty =>
    rw [List.isEmpty_iff] at hempty
    refine ⟨rfl, update_eq_none_iff (by rintro _ ⟨⟩), .inr ⟨?_, rfl, ?_⟩⟩
    · rw [hempty]
      exact fun _ h => absurd h List.not_mem_nil
    · rw [hempty, hremoved]
      exact .refl _
  · next hnonempty =>
    rw [List.isEmpty_iff] at hnonempty
    rcases retainLoop_false minUnits (lib.visit details) with ⟨lock, kept, hunits, hperm, heq⟩ | ⟨hnone, heq⟩
    · have hkept := lib.visit_retain details kept
      rw [heq]
      dsimp only
      split
      · next h =>
        have hnil := List.isEmpty_iff.1 h.2
        refine ⟨rfl, update_eq_none_iff (by rintro _ ⟨⟩), .inl ⟨lock, hunits, rfl, ?_⟩⟩
        rw [hnil] at hkept
        rw [hremoved]
        exact hperm.trans (hkept.symm.cons lock)
      · next h =>
        have hne : lib.visit (lib.retain details kept) ≠ [] := fun hnil => h ⟨rfl, List.isEmpty_iff.2 hnil⟩
        refine ⟨rfl, update_eq_none_iff ?_, .inl ⟨lock, hunits, rfl, ?_⟩⟩
        · rintro _ ⟨⟩
          exact hne
        · rw [hremoved]
          exact hperm.trans (hkept.symm.cons lock)
    · have hkept := lib.visit_retain details (lib.visit details)
      rw [heq]
      dsimp only
      rw [if_neg fun h => Bool.false_ne_true h.1]
      refine ⟨rfl, update_eq_none_iff ?_, .inr ⟨hnone, rfl, ?_⟩⟩
      · rintro _ ⟨⟩ hnil
        rw [hnil] at hkept
        exact hnonempty hkept.nil_eq.symm
      · rw [hremoved]
        exact hkept.symm

/-- What it answers and leaves in the stack's entry does not depend on the rest of the map. -/
theorem removeOne_congr (m m' : LockMap lib) (details : lib.Heap) (sent sent' : List StateManagerEvent) :
    (m.removeOne stackSmallId minUnits details sent).result = (m'.removeOne stackSmallId minUnits details sent').result ∧
      (m.removeOne stackSmallId minUnits details sent).map stackSmallId =
        (m'.removeOne stackSmallId minUnits details sent').map stackSmallId := by
  unfold removeOne
  split
  · dsimp only
    rw [Function.update_self, Function.update_self]
    exact ⟨rfl, rfl⟩
  · dsimp only
    split <;>
    · dsimp only
      rw [Function.update_self, Function.update_self]
      exact ⟨rfl, rfl⟩

theorem removeOne_of_ne (details : lib.Heap) (sent : List StateManagerEvent) {other : Int64} (h : other ≠ stackSmallId) :
    (m.removeOne stackSmallId minUnits details sent).map other = m other := by
  unfold removeOne
  split
  · exact Function.update_of_ne h _ _
  · dsimp only
    split <;> exact Function.update_of_ne h _ _

/-! ## A search that went through, and one that did not -/

/-- A search whose events were accepted does what it is to do. -/
theorem finds_and_prunes
    (hsent : ∀ e, (m.findStacksMeetingCriteriaAndPrune accepts stackSmallId minUnits now endpoint).result ≠ .error e) :
    FindsAndPrunes (m.locksOf stackSmallId) stackSmallId minUnits now
      (m.findStacksMeetingCriteriaAndPrune accepts stackSmallId minUnits now endpoint) := by
  unfold findStacksMeetingCriteriaAndPrune at hsent ⊢
  cases hentry : m stackSmallId with
  | none =>
    have hnil := locksOf_none hentry
    rw [hnil]
    exact {
      released := .refl _
      answers := ⟨false, rfl, iff_of_false Bool.false_ne_true fun ⟨_, h, _⟩ => absurd h List.not_mem_nil⟩
      removes := fun h => by cases h
      keeps := fun _ => .of_eq hnil.symm
      entry := iff_of_true hentry hnil
    }
  | some details =>
    rw [hentry] at hsent
    rw [locksOf_some hentry]
    dsimp only at hsent ⊢
    by_cases hfinished : (lib.popWhile (LockedDetails.expired now) accepts 0 details).finished = true
    · rw [if_pos hfinished]
      obtain ⟨hpopped, hleft⟩ :=
        @popWhile_split _ _ lib (LockedDetails.expired now) accepts LockedDetails.expired_of_le 0 details hfinished
      set pruned := lib.popWhile (LockedDetails.expired now) accepts 0 details
      set sent := pruned.popped.map (LockedDetails.release stackSmallId)
      obtain ⟨hsame, hentry', hfound⟩ :=
        @removeOne_spec lib m stackSmallId minUnits pruned.left sent
      have hmem : ∀ lock, lock ∈ lib.visit pruned.left ↔ lock ∈ lib.visit details ∧ lock.expired now = false := by
        intro lock
        rw [← hleft.mem_iff, List.mem_filter, Bool.not_eq_true']
      refine {
        released := ?_
        answers := ?_
        removes := fun h => ?_
        keeps := fun h => ?_
        entry := hentry'
      }
      · rw [hsame]
        exact hpopped.map _
      · rcases hfound with ⟨lock, hunits, hok, hperm⟩ | ⟨hnone, hok, hperm⟩
        · have hlock := (hmem lock).1 (hperm.symm.subset List.mem_cons_self)
          exact ⟨true, hok, iff_of_true rfl ⟨lock, hlock.1, hlock.2, hunits⟩⟩
        · exact ⟨false, hok, iff_of_false Bool.false_ne_true fun ⟨lock, hlock, htime, hunits⟩ =>
            hnone lock ((hmem lock).2 ⟨hlock, htime⟩) hunits⟩
      · rcases hfound with ⟨lock, hunits, -, hperm⟩ | ⟨-, hok, -⟩
        · exact ⟨lock, hunits, hleft.trans hperm⟩
        · rw [hok] at h
          cases h
      · rcases hfound with ⟨-, -, hok, -⟩ | ⟨-, -, hperm⟩
        · rw [hok] at h
          cases h
        · exact hleft.trans hperm
    · rw [if_neg hfinished] at hsent
      exact absurd rfl (hsent _)

/-- Where every event is accepted there is no error. -/
theorem findStacks_ok (haccepts : ∀ n, accepts n = true) :
    ∃ answer, (m.findStacksMeetingCriteriaAndPrune accepts stackSmallId minUnits now endpoint).result = .ok answer := by
  unfold findStacksMeetingCriteriaAndPrune
  cases m stackSmallId with
  | none => exact ⟨false, rfl⟩
  | some details =>
    have hfinished : (lib.popWhile (LockedDetails.expired now) accepts 0 details).finished = true :=
      popLoop_finished haccepts
    dsimp only
    rw [if_pos hfinished]
    rcases (removeOne_spec _ _).2.2 with ⟨-, -, hok, -⟩ | ⟨-, hok, -⟩
    · exact ⟨true, hok⟩
    · exact ⟨false, hok⟩

/-- Where an event is not, the locks that are gone are those released. -/
theorem findStacks_error {e : AtomaProxyError}
    (herror : (m.findStacksMeetingCriteriaAndPrune accepts stackSmallId minUnits now endpoint).result = .error e) :
    let found := m.findStacksMeetingCriteriaAndPrune accepts stackSmallId minUnits now endpoint
    ∃ released, found.sent = released.map (LockedDetails.release stackSmallId) ∧
      (m.locksOf stackSmallId).Perm (released ++ found.map.locksOf stackSmallId) := by
  unfold findStacksMeetingCriteriaAndPrune at herror ⊢
  cases hentry : m stackSmallId with
  | none =>
    rw [hentry] at herror
    cases herror
  | some details =>
    rw [hentry] at herror
    dsimp only at herror ⊢
    rw [locksOf_some hentry]
    split
    · next hfinished =>
      rw [if_pos hfinished] at herror
      rcases (removeOne_spec _ _).2.2 with ⟨-, -, hok, -⟩ | ⟨-, hok, -⟩ <;>
      · rw [hok] at herror
        cases herror
    · refine ⟨_, rfl, ?_⟩
      rw [locksOf_update, if_pos rfl]
      exact popLoop_perm.1

/-- It touches the entry of its own stack alone. -/
theorem findStacks_of_ne {other : Int64} (h : other ≠ stackSmallId) :
    (m.findStacksMeetingCriteriaAndPrune accepts stackSmallId minUnits now endpoint).map other = m other := by
  unfold findStacksMeetingCriteriaAndPrune
  split
  · rfl
  · dsimp only
    split
    · exact removeOne_of_ne _ _ h
    · exact Function.update_of_ne h _ _

/-! ## A search after a prune of every stack -/

/-- A prune leaves of a stack with an entry what the loop leaves of its heap, and of the stack's releases sends those of
the locks the loop pops. -/
theorem prune_spec (haccepts : ∀ n, accepts n = true) {keys : List Int64} (hkeys : keys.Nodup) (n : Nat)
    (m : LockMap lib) :
    let pruned := pruneComputeUnitsInMemory accepts now keys n m
    let loop := lib.popWhile (LockedDetails.expired now) accepts 0
    pruned.2.2 = .ok () ∧
      pruned.1 stackSmallId =
        (if stackSmallId ∈ keys then (m stackSmallId).map fun details => (loop details).left else m stackSmallId) ∧
      pruned.2.1.filter (StateManagerEvent.ofStack stackSmallId) =
        if stackSmallId ∈ keys then
          (m stackSmallId).elim [] fun details => (loop details).popped.map (LockedDetails.release stackSmallId)
        else [] := by
  dsimp only
  induction keys generalizing n m with
  | nil =>
    rw [if_neg List.not_mem_nil, if_neg List.not_mem_nil]
    exact ⟨rfl, rfl, rfl⟩
  | cons key keys ih =>
    obtain ⟨hnot, hkeys⟩ := List.nodup_cons.1 hkeys
    unfold pruneComputeUnitsInMemory
    cases hentry : m key with
    | none =>
      obtain ⟨hok, hleft, hsent⟩ := ih hkeys n m
      refine ⟨hok, hleft.trans ?_, hsent.trans ?_⟩
      all_goals
        by_cases hid : stackSmallId = key
        · subst hid
          rw [if_neg hnot, hentry]
          simp
        · simp [hid]
    | some details =>
      have hfinished : (lib.popWhile (LockedDetails.expired now) accepts n details).finished = true :=
        popLoop_finished haccepts
      have hloop : lib.popWhile (LockedDetails.expired now) accepts n details =
          lib.popWhile (LockedDetails.expired now) accepts 0 details := popLoop_eq haccepts 0
      dsimp only
      rw [if_pos hfinished, hloop]
      obtain ⟨hok, hleft, hsent⟩ := ih hkeys
        (n + ((lib.popWhile (LockedDetails.expired now) accepts 0 details).popped.map
          (LockedDetails.release key)).length)
        (Function.update m key (.some (lib.popWhile (LockedDetails.expired now) accepts 0 details).left))
      refine ⟨hok, hleft.trans ?_, ?_⟩
      · by_cases hid : stackSmallId = key
        · subst hid
          rw [if_neg hnot, if_pos List.mem_cons_self, Function.update_self, hentry]
          rfl
        · rw [Function.update_of_ne hid]
          simp [hid]
      · rw [List.filter_append, hsent]
        by_cases hid : stackSmallId = key
        · subst hid
          rw [if_neg hnot, if_pos List.mem_cons_self, hentry, List.append_nil]
          exact List.filter_eq_self.2 fun e he => by
            obtain ⟨lock, -, rfl⟩ := List.mem_map.1 he
            exact decide_eq_true rfl
        · rw [Function.update_of_ne hid, List.filter_eq_nil_iff.2 fun e he => ?_]
          · simp [hid]
          · obtain ⟨lock, -, rfl⟩ := List.mem_map.1 he
            exact fun h => hid (of_decide_eq_true h).symm

/-- After a prune the search answers, leaves and sends, with what the prune sent, as without it. -/
theorem findStacks_of_pruned (haccepts : ∀ n, accepts n = true) {keys : List Int64} (hkeys : keys.Nodup)
    (hmem : ∀ key, key ∈ keys ↔ m key ≠ .none) :
    let found := m.findStacksMeetingCriteriaAndPrune accepts stackSmallId minUnits now endpoint
    let pruned := pruneComputeUnitsInMemory accepts now keys 0 m
    let after := pruned.1.findStacksMeetingCriteriaAndPrune (fun n => accepts (pruned.2.1.length + n)) stackSmallId
      minUnits now endpoint
    pruned.2.2 = .ok () ∧ after.result = found.result ∧ after.map stackSmallId = found.map stackSmallId ∧
      (pruned.2.1 ++ after.sent).filter (StateManagerEvent.ofStack stackSmallId) = found.sent := by
  dsimp only
  obtain ⟨hok, hleft, hsent⟩ := @prune_spec lib stackSmallId now accepts haccepts keys hkeys 0 m
  set pruned := pruneComputeUnitsInMemory accepts now keys 0 m with hpruned
  refine ⟨hok, ?_⟩
  rw [List.filter_append, hsent]
  cases hentry : m stackSmallId with
  | none =>
    have hnot : stackSmallId ∉ keys := fun h => (hmem stackSmallId).1 h hentry
    rw [if_neg hnot, hentry] at hleft
    unfold findStacksMeetingCriteriaAndPrune
    rw [hleft, hentry, if_neg hnot]
    exact ⟨rfl, hleft.trans hentry.symm, rfl⟩
  | some details =>
    have hin : stackSmallId ∈ keys := (hmem stackSmallId).2 fun h => by rw [hentry] at h; cases h
    rw [if_pos hin, hentry, Option.map_some] at hleft
    unfold findStacksMeetingCriteriaAndPrune
    rw [hleft, hentry, if_pos hin]
    have hfinished : (lib.popWhile (LockedDetails.expired now) accepts 0 details).finished = true :=
      popLoop_finished haccepts
    -- none of the locks that are left has expired
    have hnone : ∀ lock ∈ lib.visit (lib.popWhile (LockedDetails.expired now) accepts 0 details).left,
        lock.expired now = false := popLoop_left LockedDetails.expired_of_le (le_refl _) hfinished
    have hagain := @popLoop_of_none _ _ lib (LockedDetails.expired now) (fun n => accepts (pruned.2.1.length + n)) _ hnone
      (lib.visit (lib.popWhile (LockedDetails.expired now) accepts 0 details).left).length 0
    dsimp only
    rw [if_pos hfinished, popWhile, hagain]
    obtain ⟨hresult, hmap⟩ := @removeOne_congr lib stackSmallId minUnits pruned.1 m
      (lib.popWhile (LockedDetails.expired now) accepts 0 details).left []
      ((lib.popWhile (LockedDetails.expired now) accepts 0 details).popped.map (LockedDetails.release stackSmallId))
    refine ⟨hresult, hmap, ?_⟩
    rw [(removeOne_spec _ _).1]
    simp only [List.map_nil, if_true, (removeOne_spec _ _).1, List.filter_nil, List.append_nil, Option.elim_some]

end LockMap

/-- **What searching a stack's locks does**, whatever the layout of its heap: it releases the expired locks, answers
whether there is one with the units, removes one such lock and keeps the others; where an event is not accepted it keeps
each lock that it has not released; and a prune of every stack right before it makes no difference to the stack. -/
theorem find_stacks_meeting_criteria_and_prune (lib : HeapLibrary LockedDetails) (m : LockMap lib)
    (accepts : Nat → Bool) (stackSmallId minUnits : Int64) (now : Instant) (endpoint : String) :
    let found := m.findStacksMeetingCriteriaAndPrune accepts stackSmallId minUnits now endpoint
    ((∀ n, accepts n = true) → ∀ e, found.result ≠ .error e) ∧
      ((∀ e, found.result ≠ .error e) → FindsAndPrunes (m.locksOf stackSmallId) stackSmallId minUnits now found) ∧
      (∀ e, found.result = .error e → ∃ released, found.sent = released.map (LockedDetails.release stackSmallId) ∧
        (m.locksOf stackSmallId).Perm (released ++ found.map.locksOf stackSmallId)) ∧
      (∀ other, other ≠ stackSmallId → found.map other = m other) ∧
      ((∀ n, accepts n = true) → ∀ keys : List Int64, keys.Nodup → (∀ key, key ∈ keys ↔ m key ≠ .none) →
        let pruned := LockMap.pruneComputeUnitsInMemory accepts now keys 0 m
        let after := pruned.1.findStacksMeetingCriteriaAndPrune (fun n => accepts (pruned.2.1.length + n)) stackSmallId
          minUnits now endpoint
        pruned.2.2 = .ok () ∧ after.result = found.result ∧
          (after.map.locksOf stackSmallId).Perm (found.map.locksOf stackSmallId) ∧
          ((pruned.2.1 ++ after.sent).filter (StateManagerEvent.ofStack stackSmallId)).Perm found.sent) := by
  refine ⟨fun haccepts e he => ?_, LockMap.finds_and_prunes, fun e he => LockMap.findStacks_error he,
    fun other h => LockMap.findStacks_of_ne h, fun haccepts keys hkeys hmem => ?_⟩
  · obtain ⟨answer, hok⟩ := @LockMap.findStacks_ok lib m stackSmallId minUnits now accepts endpoint haccepts
    rw [hok] at he
    cases he
  · obtain ⟨hpruned, hresult, hmap, hsent⟩ :=
      @LockMap.findStacks_of_pruned lib m stackSmallId minUnits now accepts endpoint haccepts keys hkeys hmem
    refine ⟨hpruned, hresult, ?_, .of_eq hsent⟩
    rw [LockMap.locksOf, LockMap.locksOf, hmap]

/-- A lock of five units that has expired and one of twenty that has not: the first is released, the second removed. -/
example :
    let locks := (PriorityQueue.empty.push (⟨3, 5⟩ : LockedDetails)).push ⟨10, 20⟩
    let m : LockMap (PriorityQueue.library LockedDetails) := Function.update (fun _ => .none) 1 (.some locks)
    let found := m.findStacksMeetingCriteriaAndPrune (fun _ => true) 1 10 7 nodesCreateLockPath
    found.sent = [.updateStackNumTokens 1 5 0] ∧ found.result = .ok true ∧ found.map 1 = .none :=
  ⟨rfl, rfl, rfl⟩

/-! ## The queues without their layout -/

/-- The heaps of a map hold the locks of the queues. -/
def LockMap.Holds (m : LockMap lib) (locks : Locks) : Prop := ∀ id, (m.locksOf id).Perm (locks id).items

section

variable {locks : Locks} {stackSmallId minUnits : Int64} {now : Instant} {lock : LockedDetails}

/-- A search of the queues may remove each lock with the units that a prune leaves. -/
theorem findStacks_removes (hmem : lock ∈ ((pruneStack locks stackSmallId now).2 stackSmallId).items)
    (hunits : minUnits ≤ lock.maxNumTokens) :
    ∃ pick left, left.items = ((pruneStack locks stackSmallId now).2 stackSmallId).items.erase lock ∧
      findStacksMeetingCriteriaAndPrune locks stackSmallId minUnits now pick =
        ⟨(pruneStack locks stackSmallId now).1,
          Function.update (pruneStack locks stackSmallId now).2 stackSmallId left, .some lock⟩ := by
  obtain ⟨pick, left, htake, hleft⟩ := @PriorityQueue.takeFirst_of_mem _ _
    (fun lock : LockedDetails => decide (minUnits ≤ lock.maxNumTokens)) _ lock hmem (decide_eq_true hunits)
  refine ⟨pick, left, hleft, ?_⟩
  unfold findStacksMeetingCriteriaAndPrune
  dsimp only
  rw [htake]

/-- It removes none where there is none. -/
theorem findStacks_none (hnone : ∀ lock ∈ ((pruneStack locks stackSmallId now).2 stackSmallId).items,
      ¬ minUnits ≤ lock.maxNumTokens) (pick : Nat) :
    findStacksMeetingCriteriaAndPrune locks stackSmallId minUnits now pick =
      ⟨(pruneStack locks stackSmallId now).1, (pruneStack locks stackSmallId now).2, .none⟩ := by
  unfold findStacksMeetingCriteriaAndPrune
  dsimp only
  split
  · next found left htake =>
    obtain ⟨hmem, hunits, -⟩ := PriorityQueue.of_takeFirst htake
    exact absurd (of_decide_eq_true hunits) (hnone found hmem)
  · rfl

end

/-- Where a stack's locks are those of its queue and the rest is untouched, the heaps hold the locks of the queues. -/
theorem LockMap.Holds.of_entry {m m' : LockMap lib} {locks locks' : Locks} (hm : m.Holds locks) {id : Int64}
    (hself : (m'.locksOf id).Perm (locks' id).items) (hmap : ∀ other, other ≠ id → m' other = m other)
    (hlocks : ∀ other, other ≠ id → locks' other = locks other) : m'.Holds locks' := by
  intro other
  by_cases h : other = id
  · exact h ▸ hself
  · rw [LockMap.locksOf, hmap other h, hlocks other h]
    exact hm other

/-- **The search over queues refines**: where the state manager receives, a search of the map does what one of the
queues does, for some lock that is the first to be visited, and the heaps go on holding the locks of the queues. -/
theorem LockMap.findStacks_refines {m : LockMap lib} {locks : Locks} (hm : m.Holds locks) {accepts : Nat → Bool}
    (haccepts : ∀ n, accepts n = true) (stackSmallId minUnits : Int64) (now : Instant) (endpoint : String) :
    let found := m.findStacksMeetingCriteriaAndPrune accepts stackSmallId minUnits now endpoint
    ∃ pick, let abstract := AtomaProxy.findStacksMeetingCriteriaAndPrune locks stackSmallId minUnits now pick
      found.sent = abstract.sent ∧ found.result = .ok abstract.removed.isSome ∧ found.map.Holds abstract.locks := by
  have hother : ∀ other, other ≠ stackSmallId →
      (m.findStacksMeetingCriteriaAndPrune accepts stackSmallId minUnits now endpoint).map other = m other :=
    fun other h => findStacks_of_ne h
  have hpruned : ∀ other, other ≠ stackSmallId → (pruneStack locks stackSmallId now).2 other = locks other :=
    fun other h => pruneStack_of_ne h
  dsimp only
  unfold findStacksMeetingCriteriaAndPrune at hother ⊢
  cases hentry : m stackSmallId with
  | none =>
    have hnil := locksOf_none hentry
    have hitems : (locks stackSmallId).items = [] := (hnil ▸ hm stackSmallId).nil_eq.symm
    have hleft : ((pruneStack locks stackSmallId now).2 stackSmallId).items = [] := by
      rw [pruneStack_self]
      show (locks stackSmallId).items.dropWhile _ = []
      rw [hitems, List.dropWhile_nil]
    refine ⟨0, ?_⟩
    rw [findStacks_none (fun lock h => by rw [hleft] at h; exact absurd h List.not_mem_nil)]
    refine ⟨?_, rfl, hm.of_entry ?_ (fun _ _ => rfl) hpruned⟩
    · show [] = ((locks stackSmallId).items.takeWhile _).map _
      rw [hitems]
      rfl
    · exact .of_eq (hnil.trans hleft.symm)
  | some details =>
    have hfinished : (lib.popWhile (LockedDetails.expired now) accepts 0 details).finished = true :=
      popLoop_finished haccepts
    obtain ⟨hpopped, hleft⟩ := @popWhile_queue _ _ lib (LockedDetails.expired now) accepts
      LockedDetails.expired_of_le 0 details (locks stackSmallId) (locksOf_some hentry ▸ hm stackSmallId) hfinished
    rw [← pruneStack_self] at hleft
    rw [hentry] at hother
    dsimp only at hother ⊢
    rw [if_pos hfinished] at hother ⊢
    set sent := (lib.popWhile (LockedDetails.expired now) accepts 0 details).popped.map
      (LockedDetails.release stackSmallId) with hsent
    have hsame : sent = (pruneStack locks stackSmallId now).1 := by
      rw [hsent, hpopped]
      rfl
    obtain ⟨hkept, -, ⟨lock, hunits, hok, hperm⟩ | ⟨hnone, hok, hperm⟩⟩ := @removeOne_spec lib m stackSmallId minUnits
      (lib.popWhile (LockedDetails.expired now) accepts 0 details).left sent
    · obtain ⟨pick, left, hitems, heq⟩ :=
        findStacks_removes (hleft.subset (hperm.symm.subset List.mem_cons_self)) hunits
      refine ⟨pick, ?_⟩
      rw [heq]
      refine ⟨hkept.trans hsame, hok, hm.of_entry ?_ hother fun other h => ?_⟩
      · dsimp only
        rw [Function.update_self, hitems]
        have herase := (hperm.symm.trans hleft).erase lock
        rwa [List.erase_cons_head] at herase
      · exact (Function.update_of_ne h _ _).trans (hpruned other h)
    · refine ⟨0, ?_⟩
      rw [findStacks_none fun lock h => hnone lock (hleft.symm.subset h)]
      exact ⟨hkept.trans hsame, hok, hm.of_entry (hperm.symm.trans hleft) hother hpruned⟩

end AtomaProxy
