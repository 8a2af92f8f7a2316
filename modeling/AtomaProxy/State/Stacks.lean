/-
The `stacks` table and the seven statements that touch its compute-unit
columns, with the tables their clauses read.

The five reserving statements differ in which row they take and in what they
ask of it; what they do to it is one thing, `Stack.addLocked`. Where a
statement scans for a row (`LIMIT 1`) the row the scan stops at is an
argument: `pick` is any row at all, and one that does not meet the clauses is
not taken. The table's CHECK is evaluated on every row written.
-/
import AtomaProxy.State.Errors

namespace AtomaProxy

open Base

/-- A row of `stacks`, under its `stack_small_id`. -/
structure Stack where
  owner : String
  stackId : String
  taskSmallId : Int64
  selectedNodeId : Int64
  numComputeUnits : Int64
  pricePerOneMillionComputeUnits : Int64
  alreadyComputedUnits : Int64
  lockedComputeUnits : Int64
  inSettlePeriod : Bool
  numTotalMessages : Int64
  userId : Int64
  isClaimed : Bool
  isLocked : Bool
  deriving DecidableEq, Repr

/-- `check_compute_units_constraint`. -/
def Stack.check (row : Stack) : Except SqlError Stack := do
  let total ← bigintAdd row.alreadyComputedUnits row.lockedComputeUnits
  if total ≤ row.numComputeUnits then .ok row else .error .checkViolation

/-- `SET locked_compute_units = locked_compute_units + units`. -/
def Stack.addLocked (units : Int64) (row : Stack) : Except SqlError Stack := do
  let lockedComputeUnits ← bigintAdd row.lockedComputeUnits units
  Stack.check { row with lockedComputeUnits }

/-- `num_compute_units - already_computed_units - locked_compute_units >= units`. -/
def Stack.hasFree (units : Int64) (row : Stack) : Except SqlError Bool := do
  let unspent ← bigintSub row.numComputeUnits row.alreadyComputedUnits
  let free ← bigintSub unspent row.lockedComputeUnits
  .ok (units ≤ free)

/-- `already_computed_units + locked_compute_units + units <= num_compute_units`. -/
def Stack.fits (units : Int64) (row : Stack) : Except SqlError Bool := do
  let total ← bigintSum row.alreadyComputedUnits [row.lockedComputeUnits, units]
  .ok (total ≤ row.numComputeUnits)

/-- A reserving `UPDATE`: where the row meets the clauses, the units are added to its locked ones. -/
def Stack.reserveWhere (clauses : Stack → Except SqlError Bool) (units : Int64) (row : Stack) :
    Except SqlError (Option Stack) := do
  if ← clauses row then .ok (.some (← row.addLocked units)) else .ok .none

/-- A row of `tasks`, under its `task_small_id`. -/
structure Task where
  modelName : Option String
  isDeprecated : Bool
  securityLevel : Int64
  deriving DecidableEq, Repr

/-- A row of `node_public_keys`. -/
structure NodePublicKey where
  nodeSmallId : Int64
  keyRotationCounter : Int64
  publicKey : List UInt8
  isValid : Bool
  deriving DecidableEq, Repr

/-- The tables the clauses read beside `stacks`: tasks, the `is_claimed` of each stack's settlement ticket,
the nodes' public keys and the counters of the key rotations. -/
structure Catalog where
  tasks : Table Int64 Task
  ticketIsClaimed : Table Int64 Bool
  nodePublicKeys : List NodePublicKey
  keyRotations : List Int64

/-- `SELECT MAX(key_rotation_counter) FROM key_rotations`. -/
def Catalog.latestRotation (c : Catalog) : Option Int := (c.keyRotations.map Int64.toInt).max?

/-- The `valid_nodes` of the latest rotation: a node and a key all of whose rows are valid. -/
def Catalog.validNodes (c : Catalog) : List (Int64 × List UInt8) :=
  let latest := c.nodePublicKeys.filter fun k => c.latestRotation = .some k.keyRotationCounter.toInt
  let groups := (latest.map fun k => (k.nodeSmallId, k.publicKey)).dedup
  groups.filter fun g => latest.all fun k => (k.nodeSmallId, k.publicKey) ≠ g || k.isValid

/-- The `stacks` table, the values its UNIQUE column `stack_id` holds, and the other tables. -/
structure StackTables where
  rows : Table Int64 Stack
  stackIds : List String
  catalog : Catalog

/-- The row a scan stopped at, updated and returned (`RETURNING *`), with its key; without one nothing is. -/
def StackTables.reservePicked (s : StackTables) (pick : Option Int64)
    (clauses : Int64 → Stack → Except SqlError Bool) (units : Int64) :
    Except AtomaStateManagerError (Option (Int64 × Stack) × StackTables) :=
  match pick with
  | .none => .ok (.none, s)
  | .some id => do
    let (affected, rows) ← query (s.rows.updateRow id (Stack.reserveWhere (clauses id) units))
    .ok (if affected then (rows id).map (id, ·) else .none, { s with rows })

/-! ## The clauses of the five reserving statements -/

/-- `get_stacks_for_model`, not confidential: the joins are by key, the left one may have no row. -/
def Stack.forModel (c : Catalog) (model : String) (freeUnits userId id : Int64) (row : Stack) :
    Except SqlError Bool := do
  let free ← row.hasFree freeUnits
  .ok (((c.tasks row.taskSmallId).any fun task => task.modelName = .some model) && free &&
    row.userId = userId && !row.isClaimed && !row.isLocked && !row.inSettlePeriod &&
    c.ticketIsClaimed id != .some true)

/-- `get_stacks_for_task`. -/
def Stack.forTask (taskSmallId freeUnits userId _id : Int64) (row : Stack) : Except SqlError Bool := do
  let free ← row.hasFree freeUnits
  .ok (row.taskSmallId = taskSmallId && free && row.userId = userId && !row.isClaimed && !row.isLocked &&
    !row.inSettlePeriod)

/-- `select_node_public_key_for_encryption`: a stack in its settle period is not left out. -/
def Stack.forEncryption (c : Catalog) (model : String) (maxNumTokens userId _id : Int64) (row : Stack) :
    Except SqlError Bool := do
  let free ← row.hasFree maxNumTokens
  .ok ((c.validNodes.any fun n => n.1 = row.selectedNodeId) &&
    ((c.tasks row.taskSmallId).any fun task =>
      task.modelName = .some model && task.securityLevel = 1 && !task.isDeprecated) &&
    free && !row.isClaimed && !row.isLocked && row.userId = userId)

/-- `get_available_stack_with_compute_units`: claimed and locked stacks are not left out. -/
def Stack.available (publicKey : String) (numComputeUnits _id : Int64) (row : Stack) : Except SqlError Bool := do
  let free ← row.hasFree numComputeUnits
  .ok (row.owner = publicKey && free && !row.inSettlePeriod)

/-! ## The statements -/

/-- `get_stacks_for_model`. Its confidential form joins on `stacks.node_small_id`, a column the table does not
have, and fails whatever the tables hold. -/
def getStacksForModel (s : StackTables) (pick : Option Int64) (model : String) (freeUnits userId : Int64)
    (isConfidential : Bool) : Except AtomaStateManagerError (Option (Int64 × Stack) × StackTables) :=
  if isConfidential then query (.error .undefinedColumn)
  else s.reservePicked pick (Stack.forModel s.catalog model freeUnits userId) freeUnits

/-- `get_stacks_for_task`. -/
def getStacksForTask (s : StackTables) (pick : Option Int64) (taskSmallId freeUnits userId : Int64) :
    Except AtomaStateManagerError (Option (Int64 × Stack) × StackTables) :=
  s.reservePicked pick (Stack.forTask taskSmallId freeUnits userId) freeUnits

/-- `select_node_public_key_for_encryption`. -/
def selectNodePublicKeyForEncryption (s : StackTables) (pick : Option Int64) (model : String)
    (maxNumTokens userId : Int64) : Except AtomaStateManagerError (Option (Int64 × Stack) × StackTables) :=
  s.reservePicked pick (Stack.forEncryption s.catalog model maxNumTokens userId) maxNumTokens

/-- `get_available_stack_with_compute_units`. -/
def getAvailableStackWithComputeUnits (s : StackTables) (stackSmallId : Int64) (publicKey : String)
    (numComputeUnits : Int64) : Except AtomaStateManagerError (Option (Int64 × Stack) × StackTables) :=
  s.reservePicked (.some stackSmallId) (Stack.available publicKey numComputeUnits) numComputeUnits

/-- `lock_compute_units`. -/
def lockComputeUnits (s : StackTables) (stackSmallId availableComputeUnits : Int64) :
    Except AtomaStateManagerError (Option (Int64 × Stack) × StackTables) := do
  let (row, s') ← s.reservePicked (.some stackSmallId) (fun _ => Stack.fits availableComputeUnits)
    availableComputeUnits
  if row.isSome then .ok (row, s') else .error .stackNotFound

/-- What `StackCreatedEvent` carries. -/
structure StackCreatedEvent where
  owner : String
  stackId : String
  stackSmallId : UInt64
  taskSmallId : UInt64
  selectedNodeId : UInt64
  numComputeUnits : UInt64
  pricePerOneMillionComputeUnits : UInt64
  deriving DecidableEq, Repr

/-- `Stack::from(event)`, for the user who acquired it. -/
def StackCreatedEvent.toStack (event : StackCreatedEvent) (userId : Int64) : Stack where
  owner := event.owner
  stackId := event.stackId
  taskSmallId := event.taskSmallId.toInt64
  selectedNodeId := event.selectedNodeId.toInt64
  numComputeUnits := event.numComputeUnits.toInt64
  pricePerOneMillionComputeUnits := event.pricePerOneMillionComputeUnits.toInt64
  alreadyComputedUnits := 0
  lockedComputeUnits := 0
  inSettlePeriod := false
  numTotalMessages := 0
  userId
  isClaimed := false
  isLocked := false

/-- `insert_new_stack`. -/
def insertNewStack (s : StackTables) (stackSmallId : Int64) (stack : Stack) :
    Except AtomaStateManagerError StackTables := do
  if stack.stackId ∈ s.stackIds then
    query (.error .uniqueViolation)
  else
    let rows ← query (s.rows.insertRow stackSmallId stack.check)
    .ok { s with rows, stackIds := stack.stackId :: s.stackIds }

/-- `handle_stack_created_event`: the new stack starts with the units of the request it was bought for. -/
def handleStackCreatedEvent (s : StackTables) (event : StackCreatedEvent) (lockedComputeUnits userId : Int64) :
    Except AtomaStateManagerError StackTables :=
  insertNewStack s event.stackSmallId.toInt64 { event.toStack userId with lockedComputeUnits }

/-- What `update_stack_num_tokens` does to the row. -/
def Stack.settle (estimatedTotalTokens totalTokens : Int64) (row : Stack) : Except SqlError (Option Stack) := do
  let alreadyComputedUnits ← bigintAdd row.alreadyComputedUnits totalTokens
  let lockedComputeUnits ← bigintSub row.lockedComputeUnits estimatedTotalTokens
  let numTotalMessages ← bigintAdd row.numTotalMessages (if totalTokens > 0 then 1 else 0)
  .ok (.some (← Stack.check { row with alreadyComputedUnits, lockedComputeUnits, numTotalMessages }))

/-- `update_stack_num_tokens`. -/
def updateStackNumTokens (s : StackTables) (stackSmallId estimatedTotalTokens totalTokens : Int64) :
    Except AtomaStateManagerError StackTables := do
  let (affected, rows) ← query (s.rows.updateRow stackSmallId (Stack.settle estimatedTotalTokens totalTokens))
  if affected then .ok { s with rows } else .error .stackNotFound

/-- `lock_stack` and `update_stack_claimed`: no compute-unit column. -/
def Stack.setFlags (claim : Bool) (row : Stack) : Except SqlError (Option Stack) := do
  .ok (.some (← Stack.check { row with isClaimed := row.isClaimed || claim, isLocked := true }))

def lockStack (s : StackTables) (stackSmallId : Int64) : StackTables :=
  { s with rows := s.rows.after stackSmallId (Stack.setFlags false) }

def updateStackClaimed (s : StackTables) (stackSmallId : Int64) : StackTables :=
  { s with rows := s.rows.after stackSmallId (Stack.setFlags true) }

/-! ## What the statements can do -/

/-- A reservation that returns a row added its units to that row's, and changed nothing else. -/
theorem StackTables.reservePicked_some {s s' : StackTables} {pick clauses units id row'}
    (h : s.reservePicked pick clauses units = .ok (.some (id, row'), s')) : ∃ row, s.rows id = .some row ∧
      row.addLocked units = .ok row' ∧ s' = { s with rows := Function.update s.rows id (.some row') } := by
  cases pick with
  | none => cases h
  | some k =>
    simp only [reservePicked, ok_bind_iff, query_eq_ok, Except.ok.injEq, Prod.mk.injEq] at h
    obtain ⟨⟨affected, rows⟩, hu, hr, rfl⟩ := h
    cases affected with
    | false => cases hr
    | true =>
      obtain ⟨row, row₁, hrow, hf, rfl⟩ := Table.updateRow_true.1 hu
      simp only [if_true, Function.update_self, Option.map_some, Option.some.injEq, Prod.mk.injEq] at hr
      obtain ⟨rfl, rfl⟩ := hr
      refine ⟨row, hrow, ?_, rfl⟩
      simp only [Stack.reserveWhere, ok_bind_iff] at hf
      obtain ⟨met, _, hf⟩ := hf
      split at hf
      · simp only [ok_bind_iff, Except.ok.injEq, Option.some.injEq] at hf
        obtain ⟨_, hadd, rfl⟩ := hf
        exact hadd
      · cases hf

theorem StackTables.reservePicked_none {s s' : StackTables} {pick clauses units}
    (h : s.reservePicked pick clauses units = .ok (.none, s')) : s' = s := by
  cases pick with
  | none =>
    simp only [reservePicked, Except.ok.injEq, Prod.mk.injEq, true_and] at h
    exact h.symm
  | some k =>
    simp only [reservePicked, ok_bind_iff, query_eq_ok, Except.ok.injEq, Prod.mk.injEq] at h
    obtain ⟨⟨affected, rows⟩, hu, hr, rfl⟩ := h
    cases affected with
    | false =>
      rw [(Table.updateRow_false.1 hu).1]
    | true =>
      obtain ⟨row, row₁, hrow, hf, rfl⟩ := Table.updateRow_true.1 hu
      simp only [if_true, Function.update_self, Option.map_some, reduceCtorEq] at hr

theorem Stack.of_check {row row' : Stack} (h : row.check = .ok row') : row' = row ∧
    row.alreadyComputedUnits.toInt + row.lockedComputeUnits.toInt ≤ row.numComputeUnits.toInt := by
  simp only [Stack.check, ok_bind_iff, bigintAdd_eq_ok] at h
  obtain ⟨total, ht, h⟩ := h
  split at h
  · next hle =>
    rw [Int64.le_iff_toInt_le, ht] at hle
    exact ⟨(Except.ok.inj h).symm, hle⟩
  · cases h

/-- What a settlement does to a stack's row. -/
theorem updateStackNumTokens_ok {s s' : StackTables} {id estimate total : Int64} :
    updateStackNumTokens s id estimate total = .ok s' ↔ ∃ row row', s.rows id = .some row ∧
      row.settle estimate total = .ok (.some row') ∧
      s' = { s with rows := Function.update s.rows id (.some row') } := by
  simp only [updateStackNumTokens, ok_bind_iff, query_eq_ok]
  constructor
  · intro h
    obtain ⟨⟨affected, rows⟩, hu, h⟩ := h
    cases affected with
    | false => cases h
    | true =>
      obtain ⟨row, row', hrow, hf, rfl⟩ := Table.updateRow_true.1 hu
      cases h
      exact ⟨row, row', hrow, hf, rfl⟩
  · intro h
    obtain ⟨row, row', hrow, hf, rfl⟩ := h
    exact ⟨(true, _), Table.updateRow_true.2 ⟨row, row', hrow, hf, rfl⟩, rfl⟩

/-- A stack is stored for its user, under an id that had none. -/
theorem handleStackCreatedEvent_ok {s s' : StackTables} {event : StackCreatedEvent} {units userId : Int64}
    (h : handleStackCreatedEvent s event units userId = .ok s') :
    let row := { event.toStack userId with lockedComputeUnits := units }
    s.rows event.stackSmallId.toInt64 = .none ∧ row.check = .ok row ∧
      s'.rows = Function.update s.rows event.stackSmallId.toInt64 (.some row) := by
  simp only [handleStackCreatedEvent, insertNewStack] at h
  split at h
  · cases h
  · simp only [ok_bind_iff, query_eq_ok, Table.insertRow_ok, Except.ok.injEq] at h
    obtain ⟨rows, ⟨row', hcheck, hnone, rfl⟩, rfl⟩ := h
    obtain rfl := (Stack.of_check hcheck).1
    exact ⟨hnone, hcheck, rfl⟩

end AtomaProxy
