/-
The marketplace: the tables `tasks` and `node_subscriptions`, the events of
the chain that write them, and the queries that read them.

A pair of a task and a node has a row while it is subscribed, with the terms
announced last: a subscription beside a row is refused, an update without one
is lost, and an unsubscription forgets what was before it. So the table is a
function of the events handled, which is what the cheapest node is taken from.
Nothing but the events ties the two tables; no foreign key does.
-/
import AtomaProxy.Base.Machine
import AtomaProxy.Base.Rows
import AtomaProxy.State.NodeKeys

namespace AtomaProxy

open Base

/-- A row of `tasks` with all its columns. -/
structure RegisteredTask extends Task where
  taskSmallId : Int64
  taskId : String
  role : Int16
  validUntilEpoch : Option Int64
  deprecatedAtEpoch : Option Int64
  minimumReputationScore : Option Int16
  deriving DecidableEq, Repr

structure TaskRegisteredEvent where
  taskId : String
  taskSmallId : UInt64
  role : UInt16
  modelName : Option String
  securityLevel : UInt16
  minimumReputationScore : Option UInt8
  deriving DecidableEq, Repr

/-- `From<TaskRegisteredEvent> for Task`. -/
def TaskRegisteredEvent.toTask (event : TaskRegisteredEvent) : RegisteredTask where
  taskId := event.taskId
  taskSmallId := event.taskSmallId.toInt64
  role := event.role.toInt16
  modelName := event.modelName
  isDeprecated := false
  validUntilEpoch := .none
  deprecatedAtEpoch := .none
  securityLevel := Int64.ofNat event.securityLevel.toNat
  minimumReputationScore := event.minimumReputationScore.map fun score => Int16.ofNat score.toNat

structure Registry where
  tasks : List RegisteredTask
  subscriptions : List NodeSubscription
  deriving DecidableEq, Repr

/-- The PRIMARY KEY of `node_subscriptions`. -/
def NodeSubscription.key (row : NodeSubscription) : Int64 × Int64 := (row.taskSmallId, row.nodeSmallId)

namespace Registry

def empty : Registry := ⟨[], []⟩

/-! ## The statements -/

/-- `insert_new_task`, which leaves out one column. -/
def insertNewTask (s : Registry) (task : RegisteredTask) : Except AtomaStateManagerError Registry := do
  let tasks ← query (insertNew (fun r => r.taskSmallId = task.taskSmallId || r.taskId = task.taskId)
    { task with deprecatedAtEpoch := .none } s.tasks)
  .ok { s with tasks }

def deprecateTask (s : Registry) (taskSmallId epoch : Int64) : Registry :=
  let tasks := updateWhere RegisteredTask.taskSmallId taskSmallId
    (fun task => { task with isDeprecated := true, deprecatedAtEpoch := .some epoch }) s.tasks
  { s with tasks }

def subscribeNodeToTask (s : Registry)
    (nodeSmallId taskSmallId pricePerOneMillionComputeUnits maxNumComputeUnits : Int64) :
    Except AtomaStateManagerError Registry := do
  let subscriptions ← query (insertNew (fun r => r.key = (taskSmallId, nodeSmallId))
    ⟨nodeSmallId, taskSmallId, pricePerOneMillionComputeUnits, maxNumComputeUnits, true⟩ s.subscriptions)
  .ok { s with subscriptions }

def updateNodeSubscription (s : Registry)
    (nodeSmallId taskSmallId pricePerOneMillionComputeUnits maxNumComputeUnits : Int64) : Registry :=
  let subscriptions := updateWhere NodeSubscription.key (taskSmallId, nodeSmallId)
    (fun row => { row with pricePerOneMillionComputeUnits, maxNumComputeUnits }) s.subscriptions
  { s with subscriptions }

def unsubscribeNodeFromTask (s : Registry) (nodeSmallId taskSmallId : Int64) : Registry :=
  { s with subscriptions := deleteWhere NodeSubscription.key (taskSmallId, nodeSmallId) s.subscriptions }

/-! ## The queries -/

def getTasksForModel (s : Registry) (model : String) : List RegisteredTask :=
  s.tasks.filter fun task => task.modelName = .some model && task.isDeprecated = false

/-- `SELECT COUNT(*) … > 0`. -/
def isNodeSubscribedToTask (s : Registry) (nodeSmallId taskSmallId : Int64) : Bool :=
  0 < s.subscriptions.countP fun r => r.nodeSmallId = nodeSmallId && r.taskSmallId = taskSmallId

/-- The join: a task once for each of its rows that the node has. -/
def getSubscribedTasks (s : Registry) (nodeSmallId : Int64) : List RegisteredTask :=
  s.tasks.flatMap fun task =>
    (s.subscriptions.filter fun r => r.taskSmallId = task.taskSmallId && r.nodeSmallId = nodeSmallId).map fun _ => task

def getAllNodeSubscriptionsForTask (s : Registry) (taskSmallId : Int64) : List NodeSubscription :=
  s.subscriptions.filter fun r => r.taskSmallId = taskSmallId

/-- What the other statements' clauses read of `tasks`. -/
def readBy (s : Registry) (c : Catalog) : Catalog :=
  { c with tasks := fun id => (rowOf RegisteredTask.taskSmallId id s.tasks).map RegisteredTask.toTask }

end Registry

/-! ## The events -/

/-- The terms of `NodeSubscribedToTaskEvent` and `NodeSubscriptionUpdatedEvent`. -/
structure SubscriptionTerms where
  pricePerOneMillionComputeUnits : UInt64
  maxNumComputeUnits : UInt64
  deriving DecidableEq, Repr

inductive RegistryEvent where
  | taskRegistered (event : TaskRegisteredEvent)
  | taskDeprecation (taskSmallId epoch : UInt64)
  | nodeSubscribedToTask (nodeSmallId taskSmallId : UInt64) (terms : SubscriptionTerms)
  | nodeSubscriptionUpdated (nodeSmallId taskSmallId : UInt64) (terms : SubscriptionTerms)
  | nodeUnsubscribedFromTask (nodeSmallId taskSmallId : UInt64)
  deriving DecidableEq, Repr

/-- `handle_new_task_event` to `handle_node_task_unsubscription_event`, as `handle_atoma_event` calls them. -/
def Registry.handleEvent (s : Registry) : RegistryEvent → Except AtomaStateManagerError Registry
  | .taskRegistered event => s.insertNewTask event.toTask
  | .taskDeprecation taskSmallId epoch => .ok (s.deprecateTask taskSmallId.toInt64 epoch.toInt64)
  | .nodeSubscribedToTask nodeSmallId taskSmallId terms =>
    s.subscribeNodeToTask nodeSmallId.toInt64 taskSmallId.toInt64 terms.pricePerOneMillionComputeUnits.toInt64
      terms.maxNumComputeUnits.toInt64
  | .nodeSubscriptionUpdated nodeSmallId taskSmallId terms =>
    .ok (s.updateNodeSubscription nodeSmallId.toInt64 taskSmallId.toInt64 terms.pricePerOneMillionComputeUnits.toInt64
      terms.maxNumComputeUnits.toInt64)
  | .nodeUnsubscribedFromTask nodeSmallId taskSmallId =>
    .ok (s.unsubscribeNodeFromTask nodeSmallId.toInt64 taskSmallId.toInt64)

/-- An event and whether the database fails it: either way the loop goes on, an error being logged. -/
def registryMachine : Machine Registry (RegistryEvent × Bool) where
  step s ev :=
    match answered ev.2 (s.handleEvent ev.1) with
    | .ok s' => .some s'
    | .error _ => .some s

/-- The events the database answered, in order. -/
def handledEvents (evs : List (RegistryEvent × Bool)) : List RegistryEvent :=
  evs.filterMap fun ev => if ev.2 then .none else .some ev.1

/-! ## What was announced -/

/-- The small ids as the tables store them. -/
abbrev PairKey := Int64 × Int64

def pairKey (nodeSmallId taskSmallId : UInt64) : PairKey := (taskSmallId.toInt64, nodeSmallId.toInt64)

namespace RegistryEvent

/-- The terms the event subscribes the pair with. -/
def subscribed (k : PairKey) : RegistryEvent → Option SubscriptionTerms
  | nodeSubscribedToTask node task terms => if pairKey node task = k then .some terms else .none
  | _ => .none

/-- The terms the event updates the pair's subscription to. -/
def updated (k : PairKey) : RegistryEvent → Option SubscriptionTerms
  | nodeSubscriptionUpdated node task terms => if pairKey node task = k then .some terms else .none
  | _ => .none

def unsubscribes (k : PairKey) : RegistryEvent → Bool
  | nodeUnsubscribedFromTask node task => pairKey node task = k
  | _ => false

end RegistryEvent

/-- The events after the pair's last unsubscription. -/
def sinceUnsubscribed (k : PairKey) (history : List RegistryEvent) : List RegistryEvent :=
  (history.reverse.takeWhile fun e => !e.unsubscribes k).reverse

/-- The first subscription since then and what follows it. -/
def sinceSubscribed (k : PairKey) (history : List RegistryEvent) : List RegistryEvent :=
  (sinceUnsubscribed k history).dropWhile fun e => (e.subscribed k).isNone

/-- **What a pair offers after a history**: the terms of its last update since it was subscribed, or those it was
subscribed with; nothing where it is not subscribed since its last unsubscription. -/
def offered (k : PairKey) (history : List RegistryEvent) : Option SubscriptionTerms :=
  (sinceSubscribed k history).head?.bind fun e =>
    (e.subscribed k).map fun terms => ((sinceSubscribed k history).filterMap (·.updated k)).getLast?.getD terms

/-- The row of an offer. -/
def SubscriptionTerms.row (k : PairKey) (terms : SubscriptionTerms) : NodeSubscription where
  nodeSmallId := k.2
  taskSmallId := k.1
  pricePerOneMillionComputeUnits := terms.pricePerOneMillionComputeUnits.toInt64
  maxNumComputeUnits := terms.maxNumComputeUnits.toInt64
  valid := true

/-! ## A history, one event more -/

section

variable {k : PairKey} {history : List RegistryEvent} {e : RegistryEvent}

theorem sinceUnsubscribed_concat : sinceUnsubscribed k (history ++ [e]) =
    if e.unsubscribes k then [] else sinceUnsubscribed k history ++ [e] := by
  rw [sinceUnsubscribed, List.reverse_append, List.reverse_singleton, List.singleton_append, List.takeWhile_cons]
  cases e.unsubscribes k with
  | true => rfl
  | false => rw [Bool.not_false, if_pos rfl, List.reverse_cons, if_neg Bool.false_ne_true, sinceUnsubscribed]

/-- An event updates, subscribes or unsubscribes a pair, and no two of these. -/
theorem updated_of_subscribed (h : (e.subscribed k).isSome = true) : e.updated k = .none := by
  cases e with
  | nodeSubscribedToTask node task terms => rfl
  | _ => cases h

/-- The subscription that is still in force. -/
theorem subscribed_head {e₀ : RegistryEvent} {rest : List RegistryEvent} (h : sinceSubscribed k history = e₀ :: rest) :
    ∃ terms, e₀.subscribed k = .some terms := by
  have hhead := List.head?_dropWhile_not (fun e => (RegistryEvent.subscribed k e).isNone) (sinceUnsubscribed k history)
  rw [← sinceSubscribed, h] at hhead
  exact Option.isSome_iff_exists.1 (by simpa using hhead)

theorem offered_of_since {e₀ : RegistryEvent} {rest : List RegistryEvent} {terms : SubscriptionTerms}
    (h : sinceSubscribed k history = e₀ :: rest) (hterms : e₀.subscribed k = .some terms) :
    offered k history = .some (((e₀ :: rest).filterMap (·.updated k)).getLast?.getD terms) := by
  rw [offered, h, List.head?_cons, Option.bind_some, hterms, Option.map_some]

/-- **What an event does to an offer.** -/
theorem offered_concat : offered k (history ++ [e]) =
    if e.unsubscribes k then .none
    else match offered k history with
      | .some terms => .some ((e.updated k).getD terms)
      | .none => e.subscribed k := by
  cases hu : e.unsubscribes k with
  | true =>
    rw [offered, sinceSubscribed, sinceUnsubscribed_concat, hu]
    rfl
  | false =>
    rw [if_neg Bool.false_ne_true]
    have hsince : sinceSubscribed k (history ++ [e]) =
        if (sinceSubscribed k history).isEmpty then [e].dropWhile fun e => (e.subscribed k).isNone
        else sinceSubscribed k history ++ [e] := by
      rw [sinceSubscribed, sinceUnsubscribed_concat, hu, if_neg Bool.false_ne_true, List.dropWhile_append]
      rfl
    cases hold : sinceSubscribed k history with
    | nil =>
      have hnone : offered k history = .none := by rw [offered, hold]; rfl
      rw [hold, List.isEmpty_nil, if_pos rfl, List.dropWhile_cons] at hsince
      rw [hnone, offered, hsince]
      cases hs : e.subscribed k with
      | none => rfl
      | some terms =>
        have hup := updated_of_subscribed (k := k) (e := e) (by rw [hs, Option.isSome_some])
        simp [hs, hup]
    | cons e₀ rest =>
      obtain ⟨terms, hterms⟩ := subscribed_head hold
      rw [hold, List.isEmpty_cons, if_neg Bool.false_ne_true, List.cons_append] at hsince
      rw [offered_of_since hold hterms, offered_of_since hsince hterms, ← List.cons_append, List.filterMap_append,
        List.getLast?_append]
      cases hup : e.updated k with
      | none => simp [hup]
      | some terms' => simp [hup]

end

/-! ## The table follows the history -/

/-- The table an event leaves, also where it is refused. -/
def Registry.after (s : Registry) (e : RegistryEvent) : Registry :=
  match s.handleEvent e with
  | .ok s' => s'
  | .error _ => s

/-- The rows of `node_subscriptions` are the offers of the history. -/
structure Registry.Follows (history : List RegistryEvent) (s : Registry) : Prop where
  keyed : Keyed NodeSubscription.key s.subscriptions
  offers : ∀ k, rowOf NodeSubscription.key k s.subscriptions = (offered k history).map (SubscriptionTerms.row k)

namespace Registry

variable {history : List RegistryEvent} {s : Registry} {e : RegistryEvent}

/-- An event that names no pair. -/
theorem Follows.of_same (h : s.Follows history) {s' : Registry} (hs : s'.subscriptions = s.subscriptions)
    (he : ∀ k, e.subscribed k = .none ∧ e.updated k = .none ∧ e.unsubscribes k = false) :
    s'.Follows (history ++ [e]) where
  keyed := hs ▸ h.keyed
  offers k := by
    obtain ⟨h1, h2, h3⟩ := he k
    rw [hs, h.offers k, offered_concat, h1, h2, h3]
    cases offered k history <;> rfl

theorem insertNewTask_subscriptions {task : RegisteredTask} {s' : Registry} (h : s.insertNewTask task = .ok s') :
    s'.subscriptions = s.subscriptions := by
  obtain ⟨tasks, _, h⟩ := ok_bind_iff.1 h
  cases h
  rfl

theorem Follows.subscribe (h : s.Follows history) (node task : UInt64) (terms : SubscriptionTerms) :
    (s.after (.nodeSubscribedToTask node task terms)).Follows
      (history ++ [.nodeSubscribedToTask node task terms]) := by
  have hadd : ∀ k, offered k (history ++ [.nodeSubscribedToTask node task terms]) =
      match offered k history with
      | .some old => .some old
      | .none => if pairKey node task = k then .some terms else .none := fun k => offered_concat
  unfold Registry.after handleEvent
  dsimp only
  cases hsub : s.subscribeNodeToTask node.toInt64 task.toInt64 terms.pricePerOneMillionComputeUnits.toInt64
      terms.maxNumComputeUnits.toInt64 with
  | ok s' =>
    obtain ⟨subscriptions, hinsert, hs'⟩ := ok_bind_iff.1 hsub
    cases hs'
    obtain ⟨hclash, rfl⟩ := insertNew_ok.1 (query_eq_ok.1 hinsert)
    have hnone : rowOf NodeSubscription.key (pairKey node task) s.subscriptions = .none :=
      rowOf_eq_none.2 fun r hr => of_decide_eq_false (hclash r hr)
    refine ⟨h.keyed.append hnone, fun k => ?_⟩
    dsimp only
    rw [rowOf_append hnone, h.offers k, hadd k]
    split
    · next hk =>
      have hk : k = pairKey node task := hk
      subst hk
      rw [h.offers, Option.map_eq_none_iff] at hnone
      rw [hnone, if_pos rfl]
      rfl
    · next hk =>
      have hk : pairKey node task ≠ k := fun heq => hk heq.symm
      cases offered k history with
      | none => rw [if_neg hk]
      | some old => rfl
  | error err =>
    -- the row is there already, and the event is lost
    have hsome : (offered (pairKey node task) history).isSome = true := by
      have hclash : ∃ r ∈ s.subscriptions, r.key = pairKey node task := by
        cases hinsert : insertNew (fun r => r.key = (task.toInt64, node.toInt64)) (terms.row (pairKey node task))
            s.subscriptions with
        | ok rows =>
          have hok : s.subscribeNodeToTask node.toInt64 task.toInt64 terms.pricePerOneMillionComputeUnits.toInt64
              terms.maxNumComputeUnits.toInt64 = .ok { s with subscriptions := rows } :=
            ok_bind_iff.2 ⟨rows, query_eq_ok.2 hinsert, rfl⟩
          rw [hok] at hsub
          cases hsub
        | error e =>
          obtain ⟨r, hr, hkey⟩ := insertNew_error hinsert
          exact ⟨r, hr, of_decide_eq_true hkey⟩
      obtain ⟨r, hr, hkey⟩ := hclash
      have hrow := h.keyed.mem_iff.1 hr
      rw [hkey, h.offers] at hrow
      obtain ⟨old, hold, _⟩ := Option.map_eq_some_iff.1 hrow
      rw [hold, Option.isSome_some]
    refine ⟨h.keyed, fun k => ?_⟩
    dsimp only
    rw [h.offers k, hadd k]
    cases hold : offered k history with
    | some old => rfl
    | none =>
      by_cases hk : pairKey node task = k
      · rw [hk, hold] at hsome
        cases hsome
      · rw [if_neg hk]

theorem Follows.update (h : s.Follows history) (node task : UInt64) (terms : SubscriptionTerms) :
    (s.after (.nodeSubscriptionUpdated node task terms)).Follows
      (history ++ [.nodeSubscriptionUpdated node task terms]) := by
  have hadd : ∀ k, offered k (history ++ [.nodeSubscriptionUpdated node task terms]) =
      (offered k history).map fun old => if pairKey node task = k then terms else old := by
    intro k
    refine offered_concat.trans ?_
    cases offered k history with
    | none => rfl
    | some old =>
      show Option.some ((if pairKey node task = k then Option.some terms else .none).getD old) = _
      split <;> simp_all
  refine ⟨h.keyed.updateWhere ?_ _, fun k => ?_⟩
  · exact fun _ => rfl
  · refine (rowOf_updateWhere ?_).trans ?_
    · exact fun _ => rfl
    · rw [h.offers k, hadd k, Option.map_map, Option.map_map]
      show (if k = pairKey node task then _ else _) = _
      by_cases hk : k = pairKey node task
      · subst hk
        rw [if_pos rfl]
        simp only [if_true]
        rfl
      · have hk' : pairKey node task ≠ k := fun heq => hk heq.symm
        rw [if_neg hk]
        simp only [hk', if_false]
        rfl

theorem Follows.unsubscribe (h : s.Follows history) (node task : UInt64) :
    (s.after (.nodeUnsubscribedFromTask node task)).Follows (history ++ [.nodeUnsubscribedFromTask node task]) := by
  have hadd : ∀ k, offered k (history ++ [.nodeUnsubscribedFromTask node task]) =
      if k = pairKey node task then .none else offered k history := by
    intro k
    rw [offered_concat]
    simp only [RegistryEvent.unsubscribes, decide_eq_true_eq, eq_comm (a := k)]
    split
    · rfl
    · cases offered k history <;> rfl
  refine ⟨h.keyed.deleteWhere _, fun k => rowOf_deleteWhere.trans ?_⟩
  rw [h.offers k, hadd k]
  show (if k = pairKey node task then _ else _) = _
  split <;> rfl

/-- **Step lemma.** -/
theorem Follows.handle (h : s.Follows history) (e : RegistryEvent) : (s.after e).Follows (history ++ [e]) := by
  cases e with
  | taskRegistered event =>
    refine h.of_same ?_ fun _ => ⟨rfl, rfl, rfl⟩
    unfold Registry.after handleEvent
    dsimp only
    split
    · next s' hinsert => exact insertNewTask_subscriptions hinsert
    · rfl
  | taskDeprecation id epoch => exact h.of_same rfl fun _ => ⟨rfl, rfl, rfl⟩
  | nodeSubscribedToTask node task terms => exact h.subscribe node task terms
  | nodeSubscriptionUpdated node task terms => exact h.update node task terms
  | nodeUnsubscribedFromTask node task => exact h.unsubscribe node task

end Registry

/-! ## The tasks -/

/-- The epochs of the deprecations of a small id, in order. -/
def deprecations (taskSmallId : Int64) (history : List RegistryEvent) : List UInt64 :=
  history.filterMap fun
    | .taskDeprecation id epoch => if id.toInt64 = taskSmallId then .some epoch else .none
    | _ => .none

/-- A task after its deprecations. -/
def RegisteredTask.deprecatedBy (task : RegisteredTask) (epochs : List UInt64) : RegisteredTask :=
  match epochs.getLast? with
  | .none => task
  | .some epoch => { task with isDeprecated := true, deprecatedAtEpoch := .some epoch.toInt64 }

/-- The row is that of a registration in the history and of the deprecations after it. -/
def RegisteredTask.From (history : List RegistryEvent) (task : RegisteredTask) : Prop :=
  ∃ before event after, history = before ++ .taskRegistered event :: after ∧
    task = event.toTask.deprecatedBy (deprecations event.taskSmallId.toInt64 after)

/-- The rows of `tasks` are registrations of the history, and each registration has its row or was beside one with
its small id or its id. -/
structure Registry.Registers (history : List RegistryEvent) (s : Registry) : Prop where
  keyed : Keyed RegisteredTask.taskSmallId s.tasks
  registered : ∀ task ∈ s.tasks, task.From history
  present : ∀ event, .taskRegistered event ∈ history →
    ∃ task ∈ s.tasks, task.taskSmallId = event.taskSmallId.toInt64 ∨ task.taskId = event.taskId

namespace Registry

variable {history : List RegistryEvent} {s : Registry} {e : RegistryEvent}

@[simp] theorem deprecatedBy_taskSmallId (task : RegisteredTask) (epochs : List UInt64) :
    (task.deprecatedBy epochs).taskSmallId = task.taskSmallId := by
  unfold RegisteredTask.deprecatedBy
  split <;> rfl

theorem deprecatedBy_concat (task : RegisteredTask) (epochs : List UInt64) (epoch : UInt64) :
    task.deprecatedBy (epochs ++ [epoch]) =
      { task.deprecatedBy epochs with isDeprecated := true, deprecatedAtEpoch := .some epoch.toInt64 } := by
  unfold RegisteredTask.deprecatedBy
  rw [List.getLast?_concat]
  cases epochs.getLast? <;> rfl

theorem deprecations_concat {id : Int64} : deprecations id (history ++ [e]) =
    deprecations id history ++ deprecations id [e] := List.filterMap_append

/-- An event that deprecates no row of the task's small id. -/
theorem from_concat {task : RegisteredTask} (h : task.From history) (he : deprecations task.taskSmallId [e] = []) :
    task.From (history ++ [e]) := by
  obtain ⟨before, event, after, rfl, rfl⟩ := h
  rw [deprecatedBy_taskSmallId] at he
  have he : deprecations event.taskSmallId.toInt64 [e] = [] := he
  refine ⟨before, event, after ++ [e], by simp, ?_⟩
  rw [deprecations_concat, he, List.append_nil]

theorem Registers.of_same (h : s.Registers history) {s' : Registry} (hs : s'.tasks = s.tasks)
    (he : ∀ id, deprecations id [e] = []) (hreg : ∀ event, e ≠ .taskRegistered event) :
    s'.Registers (history ++ [e]) where
  keyed := hs ▸ h.keyed
  registered task htask := from_concat (h.registered task (hs ▸ htask)) (he _)
  present event hevent := by
    rw [hs]
    rcases List.mem_append.1 hevent with hevent | hevent
    · exact h.present event hevent
    · exact absurd (List.mem_singleton.1 hevent).symm (hreg event)

theorem Registers.register (h : s.Registers history) (event : TaskRegisteredEvent) :
    (s.after (.taskRegistered event)).Registers (history ++ [.taskRegistered event]) := by
  have hold : ∀ task ∈ s.tasks, task.From (history ++ [.taskRegistered event]) := fun task htask =>
    from_concat (h.registered task htask) rfl
  unfold Registry.after handleEvent insertNewTask
  dsimp only
  cases hinsert : insertNew (fun r => r.taskSmallId = event.toTask.taskSmallId || r.taskId = event.toTask.taskId)
      { event.toTask with deprecatedAtEpoch := .none } s.tasks with
  | ok tasks =>
    obtain ⟨hclash, rfl⟩ := insertNew_ok.1 hinsert
    have hnone : rowOf RegisteredTask.taskSmallId event.taskSmallId.toInt64 s.tasks = .none := by
      refine rowOf_eq_none.2 fun r hr hid => ?_
      have hno := hclash r hr
      rw [Bool.or_eq_false_iff] at hno
      exact of_decide_eq_false hno.1 hid
    have hkeep : ∀ r ∈ s.tasks, r ∈ s.tasks ++ [event.toTask] := fun r hr => List.mem_append_left _ hr
    refine ⟨h.keyed.append hnone, fun task htask => ?_, fun event' hevent => ?_⟩
    · rcases List.mem_append.1 htask with htask | htask
      · exact hold task htask
      · rw [List.mem_singleton.1 htask]
        exact ⟨history, event, [], rfl, rfl⟩
    · rcases List.mem_append.1 hevent with hevent | hevent
      · obtain ⟨task, htask, hsame⟩ := h.present event' hevent
        exact ⟨task, hkeep task htask, hsame⟩
      · cases List.mem_singleton.1 hevent
        exact ⟨event.toTask, List.mem_append_right _ List.mem_cons_self, .inl rfl⟩
  | error err =>
    refine ⟨h.keyed, hold, fun event' hevent => ?_⟩
    rcases List.mem_append.1 hevent with hevent | hevent
    · exact h.present event' hevent
    · cases List.mem_singleton.1 hevent
      obtain ⟨r, hr, hclash⟩ := insertNew_error hinsert
      simp only [Bool.or_eq_true, decide_eq_true_eq] at hclash
      exact ⟨r, hr, hclash⟩

theorem Registers.deprecate (h : s.Registers history) (id epoch : UInt64) :
    (s.after (.taskDeprecation id epoch)).Registers (history ++ [.taskDeprecation id epoch]) := by
  have hrow : ∀ task' ∈ (s.after (.taskDeprecation id epoch)).tasks, ∃ task ∈ s.tasks, task' =
      if task.taskSmallId = id.toInt64 then
        { task with isDeprecated := true, deprecatedAtEpoch := .some epoch.toInt64 } else task := by
    intro task' htask'
    obtain ⟨task, htask, heq⟩ := List.mem_map.1 htask'
    exact ⟨task, htask, heq.symm⟩
  refine ⟨h.keyed.updateWhere ?_ _, fun task' htask' => ?_, fun event hevent => ?_⟩
  · exact fun _ => rfl
  · obtain ⟨task, htask, rfl⟩ := hrow task' htask'
    by_cases hid : task.taskSmallId = id.toInt64
    · obtain ⟨before, event, after, rfl, rfl⟩ := h.registered task htask
      rw [if_pos hid]
      rw [deprecatedBy_taskSmallId] at hid
      have hid : id.toInt64 = event.taskSmallId.toInt64 := hid.symm
      refine ⟨before, event, after ++ [.taskDeprecation id epoch], by simp, ?_⟩
      have hone : deprecations event.taskSmallId.toInt64 [.taskDeprecation id epoch] = [epoch] := by
        simp [deprecations, hid]
      rw [deprecations_concat, hone, deprecatedBy_concat]
    · rw [if_neg hid]
      refine from_concat (h.registered task htask) ?_
      simp [deprecations, Ne.symm hid]
  · rcases List.mem_append.1 hevent with hevent | hevent
    · obtain ⟨task, htask, hsame⟩ := h.present event hevent
      refine ⟨_, List.mem_map_of_mem htask, ?_⟩
      dsimp only
      split
      · exact hsame
      · exact hsame
    · cases List.mem_singleton.1 hevent

theorem Registers.handle (h : s.Registers history) (e : RegistryEvent) : (s.after e).Registers (history ++ [e]) := by
  cases e with
  | taskRegistered event => exact h.register event
  | taskDeprecation id epoch => exact h.deprecate id epoch
  | nodeSubscribedToTask node task terms =>
    refine h.of_same ?_ (fun _ => rfl) nofun
    unfold Registry.after
    split
    · next s' hsub =>
      obtain ⟨subscriptions, _, hs'⟩ := ok_bind_iff.1 hsub
      cases hs'
      rfl
    · rfl
  | nodeSubscriptionUpdated node task terms => exact h.of_same rfl (fun _ => rfl) nofun
  | nodeUnsubscribedFromTask node task => exact h.of_same rfl (fun _ => rfl) nofun

/-- **Run lemma.** -/
theorem follows_run {evs : List (RegistryEvent × Bool)} (h : registryMachine.run .empty evs = .some s) :
    s.Follows (handledEvents evs) ∧ s.Registers (handledEvents evs) := by
  refine @Machine.run_history _ _ registryMachine
    (fun evs s => s.Follows (handledEvents evs) ∧ s.Registers (handledEvents evs)) ?_ evs [] .empty s ?_ h
  · intro evs s ev s' hs hstep
    obtain ⟨e, fails⟩ := ev
    cases fails with
    | true =>
      cases hstep
      simpa [handledEvents] using hs
    | false =>
      have hafter : s' = s.after e := by
        simp only [registryMachine, answered_false] at hstep
        unfold Registry.after
        split at hstep <;> simp_all
      have hhandled : handledEvents (evs ++ [(e, false)]) = handledEvents evs ++ [e] := by simp [handledEvents]
      rw [hafter, hhandled]
      exact ⟨hs.1.handle e, hs.2.handle e⟩
  · refine ⟨⟨List.nodup_nil, fun _ => rfl⟩, ⟨List.nodup_nil, fun _ h => absurd h List.not_mem_nil, ?_⟩⟩
    exact fun _ h => absurd h List.not_mem_nil

/-! ## The cheapest offer -/

/-- Offers of the pair are for the model: its task is one of the model and not deprecated and, for a confidential
request, asks for confidential compute of a node that has a key. -/
def Eligible (s : Registry) (c : Catalog) (model : String) (isConfidential : Bool) (k : PairKey) : Prop :=
  (isConfidential = true → k.2 ∈ c.purchasableNodes) ∧
    ∃ task ∈ s.tasks, task.taskSmallId = k.1 ∧ task.isDeprecated = false ∧ task.modelName = .some model ∧
      (isConfidential = true → task.securityLevel = 1)

variable {c : Catalog} {model : String} {isConfidential : Bool} {pick : Nat} {row : NodeSubscription}

/-- The rows are the offers. -/
theorem Follows.mem_iff (hf : s.Follows history) : row ∈ s.subscriptions ↔
    ∃ terms, offered row.key history = .some terms ∧ row = terms.row row.key := by
  rw [hf.keyed.mem_iff, hf.offers, Option.map_eq_some_iff]
  simp only [eq_comm (b := row)]

/-- The rows that are ordered by price are the offers for the model. -/
theorem mem_offers (hf : s.Follows history) (hr : s.Registers history) :
    row ∈ (s.readBy c).offers s.subscriptions model isConfidential ↔
      (∃ terms, offered row.key history = .some terms ∧ row = terms.row row.key) ∧
        s.Eligible c model isConfidential row.key := by
  have htask : (((s.readBy c).tasks row.taskSmallId).any fun task =>
      !task.isDeprecated && task.modelName = .some model && (!isConfidential || task.securityLevel = 1)) = true ↔
        ∃ task ∈ s.tasks, task.taskSmallId = row.key.1 ∧ task.isDeprecated = false ∧ task.modelName = .some model ∧
          (isConfidential = true → task.securityLevel = 1) := by
    simp only [readBy, Option.any_map]
    rw [Option.any_eq_true]
    constructor
    · intro h
      obtain ⟨task, htask, hall⟩ := h
      refine ⟨task, mem_of_rowOf htask, key_of_rowOf htask, ?_⟩
      simp only [Bool.and_eq_true, Bool.not_eq_true', decide_eq_true_eq, Bool.or_eq_true] at hall
      refine ⟨hall.1.1, hall.1.2, fun hconf => ?_⟩
      rw [hconf] at hall
      exact hall.2.resolve_left Bool.noConfusion
    · intro h
      obtain ⟨task, htask, hid, hdep, hmodel, hlevel⟩ := h
      have hfound := hr.keyed.mem_iff.1 htask
      rw [hid] at hfound
      refine ⟨task, hfound, ?_⟩
      cases isConfidential with
      | true => simp [hdep, hmodel, hlevel rfl]
      | false => simp [hdep, hmodel]
  rw [Catalog.offers, List.mem_filter]
  show row ∈ s.subscriptions ∧ _ ↔ _
  rw [hf.mem_iff]
  simp only [Bool.and_eq_true]
  rw [htask]
  constructor
  · intro h
    obtain ⟨hoffer, ⟨hnode, _⟩, hsold⟩ := h
    refine ⟨hoffer, ⟨fun hconf => ?_, hsold⟩⟩
    rw [hconf] at hnode
    exact of_decide_eq_true hnode
  · intro h
    obtain ⟨⟨terms, hoffer, hterms⟩, hnode, hsold⟩ := h
    refine ⟨⟨terms, hoffer, hterms⟩, ⟨?_, by rw [hterms]; rfl⟩, hsold⟩
    cases hconf : isConfidential with
    | true => exact decide_eq_true (hnode hconf)
    | false => rfl

/-- A row that no other is cheaper than. -/
theorem exists_cheapest {rows : List NodeSubscription} (h : rows ≠ []) : ∃ row ∈ rows, ∀ other ∈ rows,
    row.pricePerOneMillionComputeUnits ≤ other.pricePerOneMillionComputeUnits := by
  cases hlatest : latestBy (fun r : NodeSubscription => -r.pricePerOneMillionComputeUnits.toInt) rows with
  | none => exact absurd (latestBy_eq_none.1 hlatest) h
  | some row =>
    obtain ⟨hmem, hle⟩ := latestBy_eq_some hlatest
    refine ⟨row, hmem, fun other hother => ?_⟩
    have hother := hle other hother
    rw [Int64.le_iff_toInt_le]
    omega

end Registry

/-- **Main result.** After any run of the chain's events, whichever of them the database fails, the rows of
`node_subscriptions` are what the history of the events handled says is offered, pair by pair, all of them valid; and
a node is subscribed to a task exactly if it offers it. -/
theorem subscriptions_follow_history {evs : List (RegistryEvent × Bool)} {s : Registry}
    (hrun : registryMachine.run .empty evs = .some s) :
    (∀ row, row ∈ s.subscriptions ↔
      ∃ terms, offered row.key (handledEvents evs) = .some terms ∧ row = terms.row row.key) ∧
    ∀ nodeSmallId taskSmallId, s.isNodeSubscribedToTask nodeSmallId taskSmallId = true ↔
      (offered (taskSmallId, nodeSmallId) (handledEvents evs)).isSome = true := by
  have h := (Registry.follows_run hrun).1
  refine ⟨fun row => h.mem_iff, fun nodeSmallId taskSmallId => ?_⟩
  rw [Registry.isNodeSubscribedToTask, decide_eq_true_eq, List.countP_pos_iff, ← Option.isSome_map, ← h.offers]
  constructor
  · intro hex
    obtain ⟨row, hmem, hkey⟩ := hex
    simp only [Bool.and_eq_true, decide_eq_true_eq] at hkey
    have hrow := h.keyed.mem_iff.1 hmem
    rw [NodeSubscription.key, hkey.1, hkey.2] at hrow
    rw [hrow, Option.isSome_some]
  · intro hsome
    obtain ⟨row, hrow⟩ := Option.isSome_iff_exists.1 hsome
    have hkey : row.key = (taskSmallId, nodeSmallId) := key_of_rowOf hrow
    obtain ⟨htask, hnode⟩ := Prod.mk.inj hkey
    exact ⟨row, mem_of_rowOf hrow, by simp [htask, hnode]⟩

/-- Two nodes subscribe to a task; the first becomes the dearer one, and a second subscription of it is lost. -/
def registryExample : List (RegistryEvent × Bool) :=
  [(.taskRegistered ⟨"task", 1, 0, .some "model", 0, .none⟩, false), (.nodeSubscribedToTask 4 1 ⟨7, 100⟩, false),
    (.nodeSubscribedToTask 5 1 ⟨9, 100⟩, false), (.nodeSubscriptionUpdated 4 1 ⟨11, 100⟩, false),
    (.nodeSubscribedToTask 4 1 ⟨1, 100⟩, false), (.nodeUnsubscribedFromTask 5 1, true)]

theorem subscriptions_follow_history_example : ∃ s, registryMachine.run .empty registryExample = .some s ∧
    s.isNodeSubscribedToTask 4 1 = true :=
  ⟨_, rfl, ((@subscriptions_follow_history registryExample _ rfl).2 4 1).2 (by decide)⟩

/-- **Main result.** After any run, the cheapest node for a model is one whose offer stands by the history, for a task
that was registered with the model and not deprecated since, and no offer of the model is cheaper; none is found
where the model is not offered at all. -/
theorem cheapest_offer_stands {evs : List (RegistryEvent × Bool)} {s : Registry}
    (hrun : registryMachine.run .empty evs = .some s) (c : Catalog) (pick : Nat) (model : String)
    (isConfidential : Bool) :
    (∀ row, getCheapestNodeForModel (s.readBy c) s.subscriptions pick model isConfidential = .some row →
      (∃ terms, offered row.key (handledEvents evs) = .some terms ∧ row = terms.row row.key) ∧
        s.Eligible c model isConfidential row.key ∧
        ∀ k terms, offered k (handledEvents evs) = .some terms → s.Eligible c model isConfidential k →
          row.pricePerOneMillionComputeUnits ≤ terms.pricePerOneMillionComputeUnits.toInt64) ∧
    (getCheapestNodeForModel (s.readBy c) s.subscriptions pick model isConfidential = .none ↔
      ∀ k, s.Eligible c model isConfidential k → offered k (handledEvents evs) = .none) := by
  obtain ⟨hf, hr⟩ := Registry.follows_run hrun
  have hoffers : ∀ row, row ∈ (s.readBy c).offers s.subscriptions model isConfidential ↔
      (∃ terms, offered row.key (handledEvents evs) = .some terms ∧ row = terms.row row.key) ∧
        s.Eligible c model isConfidential row.key := fun row => Registry.mem_offers hf hr
  constructor
  · intro row hrow
    have hmem := mem_of_fetchOptional hrow
    rw [List.mem_filter, List.all_eq_true] at hmem
    obtain ⟨hoffer, heligible⟩ := (hoffers row).1 hmem.1
    refine ⟨hoffer, heligible, fun k terms hterms hk => ?_⟩
    have hother : terms.row k ∈ (s.readBy c).offers s.subscriptions model isConfidential :=
      (hoffers (terms.row k)).2 ⟨⟨terms, hterms, rfl⟩, hk⟩
    exact of_decide_eq_true (hmem.2 _ hother)
  · rw [← Option.not_isSome_iff_eq_none, getCheapestNodeForModel, fetchOptional_isSome]
    constructor
    · intro hnone k hk
      cases hterms : offered k (handledEvents evs) with
      | none => rfl
      | some terms =>
        have hother := (hoffers (terms.row k)).2 ⟨⟨terms, hterms, rfl⟩, hk⟩
        obtain ⟨row, hmem, hle⟩ := Registry.exists_cheapest (List.ne_nil_of_mem hother)
        refine absurd ⟨row, List.mem_filter.2 ⟨hmem, ?_⟩⟩ hnone
        exact List.all_eq_true.2 fun other ho => decide_eq_true (hle other ho)
    · intro hnone hsome
      obtain ⟨row, hmem⟩ := hsome
      obtain ⟨⟨terms, hterms, _⟩, heligible⟩ := (hoffers row).1 (List.mem_of_mem_filter hmem)
      rw [hnone row.key heligible] at hterms
      cases hterms

/-- A catalog without keys. -/
def keylessCatalog : Catalog := ⟨fun _ => .none, fun _ => .none, [], []⟩

theorem cheapest_offer_stands_example : ∃ s, registryMachine.run .empty registryExample = .some s ∧
    ∀ row, getCheapestNodeForModel (s.readBy keylessCatalog) s.subscriptions 0 "model" false = .some row →
      s.Eligible keylessCatalog "model" false row.key :=
  ⟨_, rfl, fun row hrow => ((@cheapest_offer_stands registryExample _ rfl keylessCatalog 0 "model" false).1 row hrow).2.1⟩

/-- **Main result.** After any run, each task's row is its registration's, deprecated exactly by the deprecations of
its small id that were handled after it, and a registration is missing only where its small id or its id was taken. -/
theorem tasks_follow_history {evs : List (RegistryEvent × Bool)} {s : Registry}
    (hrun : registryMachine.run .empty evs = .some s) :
    (∀ task ∈ s.tasks, task.From (handledEvents evs)) ∧ Keyed RegisteredTask.taskSmallId s.tasks ∧
      ∀ event, .taskRegistered event ∈ handledEvents evs →
        ∃ task ∈ s.tasks, task.taskSmallId = event.taskSmallId.toInt64 ∨ task.taskId = event.taskId :=
  have h := (Registry.follows_run hrun).2
  ⟨h.registered, h.keyed, h.present⟩

theorem tasks_follow_history_example : ∃ s, registryMachine.run .empty registryExample = .some s ∧
    ∀ task ∈ s.tasks, task.From (handledEvents registryExample) :=
  ⟨_, rfl, (@tasks_follow_history registryExample _ rfl).1⟩

end AtomaProxy
