/-
When the kept lists of best nodes are the latest: over any run of rounds,
requests and metric updates, a model's list is that of its last successful
query.

A list that is kept is never replaced, a failing query cancels those that have
not completed, and a sample without a readable node is a panic. So the lists
stay the latest exactly if every round brings the same list again, or a
model's first one before any query of the round fails, and no such sample.
-/
import AtomaProxy.Base.Machine
import AtomaProxy.State.Metrics
import Mathlib.Data.List.Basic

namespace AtomaProxy

open Base

namespace Completion

variable (config : MetricsCollectionConfig)

/-- The list of a query that succeeds. -/
def success (c : Completion) : Option (List Int64) :=
  match c.retrieve config with
  | .ok nodes => .some nodes
  | _ => .none

/-- The same, if the query is the model's. -/
def listFor (model : String) (c : Completion) : Option (List Int64) :=
  if c.model = model then c.success config else .none

end Completion

/-- The list of the first query for a model that succeeds. -/
def earliestList (config : MetricsCollectionConfig) (model : String) (completions : List Completion) :
    Option (List Int64) :=
  completions.findSome? (Completion.listFor config model)

/-- The list of the last one. -/
def latestList (config : MetricsCollectionConfig) (model : String) (completions : List Completion) :
    Option (List Int64) :=
  completions.reverse.findSome? (Completion.listFor config model)

/-- A request that waits for its answer: the list that was the latest of its model, and what it was answered. -/
structure MetricsAnswer where
  model : String
  latest : Option (List Int64)
  answer : Except MetricsServiceError (List Int64)

/-- It was answered the latest list, or with an error where there was none. -/
def MetricsAnswer.Fresh (a : MetricsAnswer) : Prop :=
  match a.latest with
  | .some nodes => a.answer = .ok nodes
  | .none => ∃ e, a.answer = .error e

/-- The task, with the latest list of each model and the answers given so far. -/
structure MetricsRun where
  task : MetricsTask
  latest : String → Option (List Int64)
  answers : List MetricsAnswer

namespace MetricsRun

variable (config : MetricsCollectionConfig)

/-- Where a task starts. -/
def start : MetricsRun where
  task := { status := .running, collector := ⟨fun _ _ => .none⟩, bestAvailableNodes := fun _ => .none }
  latest _ := .none
  answers := []

/-- The answers after an event. -/
def answersAfter (s : MetricsRun) : MetricsTaskEvent → List MetricsAnswer
  | .requestBestAvailableModels (.some (model, true)) =>
    s.answers ++ [⟨model, s.latest model, s.task.answer (.some (model, true))⟩]
  | _ => s.answers

/-- The latest lists after an event: a round brings those of its queries that succeed. -/
def latestAfter (s : MetricsRun) : MetricsTaskEvent → String → Option (List Int64)
  | .timer completions => fun model => (latestList config model completions).or (s.latest model)
  | _ => s.latest

/-- A round's queries are those of the configured models, in any order. -/
def Asks (completions : List Completion) : Prop :=
  (completions.map fun c => (c.modality, c.model)).Perm config.models

instance (completions : List Completion) : Decidable (Asks config completions) :=
  inferInstanceAs (Decidable (List.Perm _ _))

def machine : Machine MetricsRun MetricsTaskEvent where
  step s event :=
    let s' := ⟨s.task.handle config event, s.latestAfter config event, s.answersAfter event⟩
    match s.task.status, event with
    | .running, .timer completions => if Asks config completions then .some s' else .none
    | .running, _ => .some s'
    | _, _ => .none

def Configured (model : String) : Prop := ∃ modality, (modality, model) ∈ config.models

/-- The task goes on unless it is shut down, every configured model's list is the latest, and so was every one sent. -/
structure ListsFresh (s : MetricsRun) : Prop where
  status : s.task.status ≠ .panicked
  kept : ∀ model, Configured config model → s.task.bestAvailableNodes model = s.latest model
  answered : ∀ a ∈ s.answers, Configured config a.model → a.Fresh

/-- The queries that complete before one of the round fails. -/
def inTime (completions : List Completion) : List Completion :=
  completions.takeWhile fun c => (c.success config).isSome

/-- A round after which the kept lists are the latest again: every list is the one that is kept already, or the
model's first and in time; and the query that fails first has not samples without a readable node. -/
structure RoundKeeps (kept : BestAvailableNodes) (completions : List Completion) : Prop where
  same : ∀ model nodes, latestList config model completions = .some nodes → kept model = .some nodes ∨
    kept model = .none ∧ earliestList config model (inTime config completions) = .some nodes
  readable : ∀ c ∈ (completions.dropWhile fun c => (c.success config).isSome).head?, c.retrieve config ≠ .panic

/-- The condition on each event of a run. -/
def Keeps (s : MetricsRun) : MetricsTaskEvent → Prop
  | .timer completions => RoundKeeps config s.task.bestAvailableNodes completions
  | _ => True

/-! ## A round -/

variable {config}

theorem listFor_eq_some {model : String} {c : Completion} {nodes : List Int64} :
    c.listFor config model = .some nodes ↔ c.model = model ∧ c.success config = .some nodes := by
  simp [Completion.listFor]

theorem inTime_cons (c : Completion) (completions : List Completion) : inTime config (c :: completions) =
    if (c.success config).isSome then c :: inTime config completions else [] := List.takeWhile_cons

variable (config) in
/-- A round ends as its first failing query does, and brings the lists of those before it that are not kept yet. -/
theorem collect_spec (completions : List Completion) : ∀ kept : BestAvailableNodes,
    (∀ model, (collectBestAvailableNodes config kept completions).1 model =
      (kept model).or (earliestList config model (inTime config completions))) ∧
    ((collectBestAvailableNodes config kept completions).2 = .panic ↔
      ∃ c ∈ (completions.dropWhile fun c => (c.success config).isSome).head?, c.retrieve config = .panic) := by
  induction completions with
  | nil =>
    intro kept
    simp [collectBestAvailableNodes, inTime, earliestList]
  | cons c completions ih =>
    intro kept
    rw [collectBestAvailableNodes]
    cases hc : c.retrieve config with
    | ok nodes =>
      obtain ⟨hlists, hpanic⟩ := ih (kept.orInsert c.model nodes)
      have hsuccess : c.success config = .some nodes := by simp [Completion.success, hc]
      refine ⟨fun model => ?_, ?_⟩
      · rw [hlists, inTime_cons, if_pos (by simp [hsuccess])]
        unfold earliestList
        rw [List.findSome?_cons]
        by_cases hmodel : c.model = model
        · subst hmodel
          cases hkept : kept c.model with
          | none => simp [BestAvailableNodes.orInsert, Completion.listFor, hsuccess, hkept]
          | some old => simp [BestAvailableNodes.orInsert, hkept]
        · simp [BestAvailableNodes.orInsert, Completion.listFor, hmodel, Ne.symm hmodel]
      · rw [hpanic, List.dropWhile_cons, if_pos (by simp [hsuccess])]
    | err e =>
      have hsuccess : c.success config = .none := by simp [Completion.success, hc]
      simp [inTime, earliestList, hsuccess, hc]
    | panic =>
      have hsuccess : c.success config = .none := by simp [Completion.success, hc]
      simp [inTime, earliestList, hsuccess, hc]

/-- A model with a list in a round is configured. -/
theorem configured_of_latestList {completions : List Completion} (h : Asks config completions) {model : String}
    {nodes : List Int64} (hlist : latestList config model completions = .some nodes) : Configured config model := by
  obtain ⟨c, hc, hfor⟩ := List.exists_of_findSome?_eq_some hlist
  obtain ⟨rfl, -⟩ := listFor_eq_some.1 hfor
  exact ⟨c.modality, h.mem_iff.1 (List.mem_map.2 ⟨c, List.mem_reverse.1 hc, rfl⟩)⟩

/-- A model without a list in a round has none in time. -/
theorem earliestList_inTime_eq_none {completions : List Completion} {model : String}
    (h : latestList config model completions = .none) :
    earliestList config model (inTime config completions) = .none := by
  rw [latestList, List.findSome?_eq_none_iff] at h
  rw [earliestList, List.findSome?_eq_none_iff]
  exact fun c hc => h c (List.mem_reverse.2 ((List.takeWhile_prefix _).mem hc))

/-- **A round keeps the lists the latest exactly if it meets the condition.** -/
theorem onTimer_fresh_iff {s : MetricsRun} (h : ListsFresh config s) {completions : List Completion}
    (hrunning : s.task.status = .running) (hasks : Asks config completions) :
    ListsFresh config ⟨s.task.onTimer config completions, s.latestAfter config (.timer completions), s.answers⟩ ↔
      RoundKeeps config s.task.bestAvailableNodes completions := by
  obtain ⟨hlists, hpanic⟩ := collect_spec config completions s.task.bestAvailableNodes
  have hkept : (s.task.onTimer config completions).bestAvailableNodes =
      (collectBestAvailableNodes config s.task.bestAvailableNodes completions).1 := by
    unfold MetricsTask.onTimer
    split <;> simp_all
  have hstatus : (s.task.onTimer config completions).status = .panicked ↔
      (collectBestAvailableNodes config s.task.bestAvailableNodes completions).2 = .panic := by
    unfold MetricsTask.onTimer
    split <;> simp_all
  constructor
  · intro h'
    refine ⟨fun model nodes hlist => ?_, fun c hc hp => h'.status (hstatus.2 (hpanic.2 ⟨c, hc, hp⟩))⟩
    have hmodel := h'.kept model (configured_of_latestList hasks hlist)
    simp only [hkept, hlists, latestAfter, hlist, Option.some_or] at hmodel
    cases hold : s.task.bestAvailableNodes model with
    | none => exact .inr ⟨rfl, by simpa [hold] using hmodel⟩
    | some old => exact .inl (by simpa [hold] using hmodel)
  · intro hround
    refine ⟨?_, fun model hmodel => ?_, h.answered⟩
    · rw [ne_eq, hstatus, hpanic]
      rintro ⟨c, hc, hp⟩
      exact hround.readable c hc hp
    · simp only [hkept, hlists, latestAfter, ← h.kept model hmodel]
      cases hlist : latestList config model completions with
      | none => simp [earliestList_inTime_eq_none hlist]
      | some nodes =>
        rcases hround.same model nodes hlist with hold | ⟨hold, hfirst⟩
        · simp [hold]
        · simp [hold, hfirst]

theorem answer_eq (task : MetricsTask) (model : String) : task.answer (.some (model, true)) =
    match task.bestAvailableNodes model with
    | .none => .error (.modelNotFound model)
    | .some nodes => .ok nodes := rfl

/-- A request is answered the list that is kept. -/
theorem answer_fresh {s : MetricsRun} (h : ListsFresh config s) {model : String} (hmodel : Configured config model) :
    MetricsAnswer.Fresh ⟨model, s.latest model, s.task.answer (.some (model, true))⟩ := by
  rw [← h.kept model hmodel, answer_eq]
  unfold MetricsAnswer.Fresh
  dsimp only
  split
  · next nodes hkept => rw [hkept]
  · next hkept => exact ⟨.modelNotFound model, by rw [hkept]⟩

/-! ## Runs -/

theorem step_cases {s s' : MetricsRun} {event : MetricsTaskEvent} (h : (machine config).step s event = .some s') :
    s.task.status = .running ∧ (∀ completions, event = .timer completions → Asks config completions) ∧
      s' = ⟨s.task.handle config event, s.latestAfter config event, s.answersAfter event⟩ := by
  simp only [machine] at h
  split at h
  · next completions hrunning =>
    split at h
    · next hasks =>
      refine ⟨hrunning, fun completions' heq => ?_, by simpa using h.symm⟩
      cases heq
      exact hasks
    · cases h
  · next hrunning hno =>
    exact ⟨hrunning, fun completions heq => absurd heq (hno completions), by simpa using h.symm⟩
  · cases h

/-- **What each event does.** Between the rounds there is nothing that could make a list old. -/
theorem step_fresh_iff {s s' : MetricsRun} {event : MetricsTaskEvent} (h : ListsFresh config s)
    (hstep : (machine config).step s event = .some s') : ListsFresh config s' ↔ Keeps config s event := by
  obtain ⟨hrunning, hasks, rfl⟩ := step_cases hstep
  cases event with
  | timer completions => exact onTimer_fresh_iff h hrunning (hasks completions rfl)
  | collectedMetrics received =>
    refine iff_of_true ?_ trivial
    cases received with
    | none => exact h
    | some received => exact ⟨h.status, h.kept, h.answered⟩
  | requestBestAvailableModels received =>
    refine iff_of_true ⟨h.status, h.kept, ?_⟩ trivial
    unfold answersAfter
    split
    · next model heq =>
      intro a ha hmodel
      rcases List.mem_append.1 ha with ha | ha
      · exact h.answered a ha hmodel
      · rw [List.mem_singleton] at ha
        subst ha
        exact answer_fresh h hmodel
    · exact h.answered
  | shutdownSignal changed =>
    refine iff_of_true ?_ trivial
    rcases changed with _ | _ | _
    · exact ⟨by simp [MetricsTask.handle, MetricsTask.onShutdownSignal], h.kept, h.answered⟩
    · exact ⟨h.status, h.kept, h.answered⟩
    · exact ⟨by simp [MetricsTask.handle, MetricsTask.onShutdownSignal], h.kept, h.answered⟩

theorem start_fresh : ListsFresh config start where
  status := by simp [start]
  kept _ _ := rfl
  answered := by simp [start]

variable (config) in
/-- **Main result.** In every state of a run of the task each configured model's list is the latest, every request was
answered so and no reply has ended it, exactly if each round of the run meets the condition. -/
theorem lists_fresh_iff {events : List MetricsTaskEvent} {s : MetricsRun}
    (hrun : (machine config).run start events = .some s) :
    (machine config).Always (ListsFresh config) start events ↔ (machine config).Guarded (Keeps config) start events :=
  Machine.always_iff_guarded (fun h => h) (fun h _ hstep hfresh => (step_fresh_iff h hstep).1 hfresh)
    (fun h _ hkeeps hstep => (step_fresh_iff h hstep).2 hkeeps) start_fresh
    (Machine.guarded_of_forall (fun _ _ => trivial) events start) hrun

end MetricsRun

/-! ## Examples -/

/-- An endpoint of one node. -/
def endpointOf (nodeSmallId : String) : MetricsEndpoint := fun _ _ => .ok ⟨[⟨[("node_small_id", nodeSmallId)]⟩]⟩

/-- One that does not answer in time. -/
def endpointDown : MetricsEndpoint := fun _ _ => .error (.reqwest "operation timed out")

/-- One whose sample names no node. -/
def endpointWithoutNode : MetricsEndpoint := fun _ _ => .ok ⟨[⟨[]⟩]⟩

def metricsConfigExample : MetricsCollectionConfig where
  metricsUrl := "http://prometheus:9090"
  models := [(.chatCompletions, "llama"), (.embeddings, "bge")]
  topK := .none

def roundExample (llama bge : MetricsEndpoint) : MetricsTaskEvent :=
  .timer [⟨.chatCompletions, "llama", llama⟩, ⟨.embeddings, "bge", bge⟩]

/-- A node that stays the best, and a request of it. -/
def metricsEventsExample : List MetricsTaskEvent :=
  [roundExample (endpointOf "7") (endpointOf "8"), .requestBestAvailableModels (.some ("llama", true)),
    roundExample (endpointOf "7") (endpointOf "8")]

theorem latestList_example {model : String} {nodes : List Int64} (h : latestList metricsConfigExample model
      [⟨.chatCompletions, "llama", endpointOf "7"⟩, ⟨.embeddings, "bge", endpointOf "8"⟩] = .some nodes) :
    model = "llama" ∧ nodes = [7] ∨ model = "bge" ∧ nodes = [8] := by
  obtain ⟨c, hc, hfor⟩ := List.exists_of_findSome?_eq_some h
  obtain ⟨rfl, hsuccess⟩ := MetricsRun.listFor_eq_some.1 hfor
  simp only [List.reverse_cons, List.reverse_nil, List.nil_append, List.cons_append, List.mem_cons, List.not_mem_nil,
    or_false] at hc
  rcases hc with rfl | rfl
  · exact .inr ⟨rfl, (Option.some.inj hsuccess).symm⟩
  · exact .inl ⟨rfl, (Option.some.inj hsuccess).symm⟩

/-- A first round in time, and one with the same lists: what the request is answered is the latest. -/
theorem lists_fresh_iff_example :
    (MetricsRun.machine metricsConfigExample).Always (MetricsRun.ListsFresh metricsConfigExample) MetricsRun.start
      metricsEventsExample := by
  refine (MetricsRun.lists_fresh_iff metricsConfigExample rfl).2 <| (Machine.guarded_cons rfl).2
    ⟨⟨fun model nodes h => .inr ⟨rfl, ?_⟩, by decide⟩, (Machine.guarded_cons rfl).2
      ⟨trivial, (Machine.guarded_cons rfl).2 ⟨⟨fun model nodes h => .inl ?_, by decide⟩, trivial⟩⟩⟩
  · rcases latestList_example h with ⟨rfl, rfl⟩ | ⟨rfl, rfl⟩
    · decide
    · decide
  · rcases latestList_example h with ⟨rfl, rfl⟩ | ⟨rfl, rfl⟩
    · decide
    · decide

/-- A list that has changed, the list of a model whose query completes after a failing one, and a sample without a
node. -/
theorem lists_fresh_fails :
    ¬ (MetricsRun.machine metricsConfigExample).Always (MetricsRun.ListsFresh metricsConfigExample) MetricsRun.start
      [roundExample (endpointOf "7") (endpointOf "8"), roundExample (endpointOf "9") (endpointOf "8")] ∧
    ¬ (MetricsRun.machine metricsConfigExample).Always (MetricsRun.ListsFresh metricsConfigExample) MetricsRun.start
      [roundExample endpointDown (endpointOf "8")] ∧
    ¬ (MetricsRun.machine metricsConfigExample).Always (MetricsRun.ListsFresh metricsConfigExample) MetricsRun.start
      [roundExample endpointWithoutNode (endpointOf "8")] := by
  refine ⟨fun h => ?_, fun h => ?_, fun h => ?_⟩
  · have := (h.2 _ rfl).2 _ rfl
    have := this.kept "llama" ⟨.chatCompletions, by decide⟩
    revert this
    decide
  · have := (h.2 _ rfl).kept "bge" ⟨.embeddings, by decide⟩
    revert this
    decide
  · exact (h.2 _ rfl).status rfl

end AtomaProxy
