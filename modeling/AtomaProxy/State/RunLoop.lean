/-
The loop of `AtomaStateManager::run`: which events it goes on after, and in
what order it handles them.

It receives from three channels and from the shutdown signal, in whatever
order they are ready. The handlers of the chain's and of the state manager's
events may do anything: an error of theirs is logged, and so is the closing of
the state manager's and the p2p channel. The result of `handle_p2p_event` is
the loop's own, by its `?`, and so an error of a p2p event ends it; a panic of
any handler does too.
-/
import AtomaProxy.Base.Channel
import AtomaProxy.Base.Effect
import AtomaProxy.Base.Machine
import AtomaProxy.State.Nodes
import Mathlib.Algebra.BigOperators.Group.List.Basic

namespace AtomaProxy

open Base

/-- The channels of `run`, named for their receivers. -/
inductive Source where
  | eventSubscriber
  | stateManager
  | p2p
  deriving DecidableEq, Repr

/-- A message: an event, which on the p2p channel comes with a sender or without. -/
inductive Delivery (α μ : Type) where
  | atomaEvent (event : α)
  | stateManagerEvent (event : μ)
  | p2pEvent (event : AtomaP2pEvent) (hasSender : Bool)

/-- What handling an event meets. Of `handle_atoma_event` and `handle_state_manager_event` it is what they do. -/
inductive Handling where
  | logged (nodes : Nodes) (ending : Ending AtomaStateManagerError Unit)
  | p2p (answers : P2pAnswers) (receiver : OneshotSender)

inductive LoopEnd where
  | shutdown
  /-- nobody can signal a shutdown any more -/
  | shutdownClosed
  | eventSubscriberClosed
  | error (e : AtomaStateManagerError)
  | panic
  deriving DecidableEq

inductive LoopStatus where
  | running
  | ended (how : LoopEnd)
  deriving DecidableEq

/-- The `watch` channel of the signal, as its receiver sees it. -/
structure ShutdownSignal where
  value : Bool
  changed : Bool
  isOpen : Bool
  deriving DecidableEq

section

variable {α μ : Type}

def Delivery.source : Delivery α μ → Source
  | .atomaEvent _ => .eventSubscriber
  | .stateManagerEvent _ => .stateManager
  | .p2pEvent .. => .p2p

/-- `if let Err(e) = … { error!(…) }`. -/
def afterLogged : Ending AtomaStateManagerError Unit → LoopStatus
  | .ok () => .running
  | .err _ => .running
  | .panic => .ended .panic

/-- `handle_p2p_event(…).await?`. -/
def afterP2p : Except AtomaStateManagerError Unit → LoopStatus
  | .ok () => .running
  | .error e => .ended (.error e)

/-- The arm of an event received. -/
def handleDelivery (nodes : Nodes) : Delivery α μ → Handling → Option (Nodes × LoopStatus)
  | .atomaEvent _, .logged nodes' ending => .some (nodes', afterLogged ending)
  | .stateManagerEvent _, .logged nodes' ending => .some (nodes', afterLogged ending)
  | .p2pEvent event hasSender, .p2p answers receiver =>
    let handled := handleP2pEvent nodes answers event (if hasSender then .some receiver else .none)
    .some (handled.nodes, afterP2p handled.result)
  | _, _ => .none

/-- The arm of a channel that is closed. -/
def afterClosed : Source → LoopStatus
  | .eventSubscriber => .ended .eventSubscriberClosed
  | .stateManager => .running
  | .p2p => .running

/-- The arm of the shutdown signal, `none` where it is not ready. -/
def afterShutdownChanged (signal : ShutdownSignal) : Option LoopStatus :=
  if signal.changed then .some (if signal.value then .ended .shutdown else .running)
  else if signal.isOpen then .none
  else .some (.ended .shutdownClosed)

/-! ## Runs -/

variable (α μ) in
structure LoopState where
  channels : Source → Channel (Delivery α μ)
  signal : ShutdownSignal
  nodes : Nodes
  status : LoopStatus

def LoopState.start (nodes : Nodes) : LoopState α μ := ⟨fun _ => .fresh, ⟨false, false, true⟩, nodes, .running⟩

variable (α μ) in
inductive LoopEvent where
  | send (d : Delivery α μ)
  | close (src : Source)
  | signal (value : Bool)
  | closeSignal
  /-- the loop receives the channel's next event, and handles it -/
  | receive (src : Source) (handling : Handling)
  /-- the loop hears that the channel is closed -/
  | closed (src : Source)
  | shutdownChanged

def loopStep (s : LoopState α μ) (ev : LoopEvent α μ) : Option (LoopState α μ) :=
  if s.status ≠ .running then .none
  else
    match ev with
    | .send d => do
      let c ← (s.channels d.source).send d
      .some { s with channels := Function.update s.channels d.source c }
    | .close src => .some { s with channels := Function.update s.channels src (s.channels src).close }
    | .signal value => if s.signal.isOpen then .some { s with signal := ⟨value, true, true⟩ } else .none
    | .closeSignal => .some { s with signal.isOpen := false }
    | .receive src handling => do
      let (d, c) ← (s.channels src).recv
      let (nodes, status) ← handleDelivery s.nodes d handling
      .some { s with channels := Function.update s.channels src c, nodes, status }
    | .closed src =>
      if (s.channels src).Disconnected then .some { s with status := afterClosed src } else .none
    | .shutdownChanged => do
      let status ← afterShutdownChanged s.signal
      .some { s with signal.changed := false, status }

def loopMachine : Machine (LoopState α μ) (LoopEvent α μ) := ⟨loopStep⟩

/-- What was sent to a channel, in order. -/
def LoopEvent.sentTo (src : Source) : LoopEvent α μ → List (Delivery α μ)
  | .send d => if d.source = src then [d] else []
  | _ => []

/-- How often the loop received from it. -/
def LoopEvent.receipts (src : Source) : LoopEvent α μ → Nat
  | .receive src' _ => if src' = src then 1 else 0
  | _ => 0

def LoopEnd.Expected : LoopEnd → Prop
  | .shutdown => True
  | .shutdownClosed => True
  | .eventSubscriberClosed => True
  | .error _ => False
  | .panic => False

/-- What a run that came to `s` is to be: the loop ended on shutdown or with the event subscriber's channel, if it
did; each channel's events were handled in the order they were sent, none left out; and while the loop runs, the
next event of any channel can be handled, whatever its handler does. -/
structure Resilient (evs : List (LoopEvent α μ)) (s : LoopState α μ) : Prop where
  ends : ∀ how, s.status = .ended how → how.Expected
  handled : ∀ src, (s.channels src).received =
    (evs.flatMap (LoopEvent.sentTo src)).take (evs.map (LoopEvent.receipts src)).sum
  waiting : ∀ src, (s.channels src).queue =
    (evs.flatMap (LoopEvent.sentTo src)).drop (evs.map (LoopEvent.receipts src)).sum
  served : s.status = .running → ∀ src d, (s.channels src).queue.head? = .some d →
    ∀ handling, (handleDelivery s.nodes d handling).isSome = true →
      ∃ s', loopStep s (.receive src handling) = .some s' ∧ (s'.channels src).received = (s.channels src).received ++ [d]

/-- The handling of an event that the loop goes on after: a p2p registration finds the metrics collector receiving
and its statement does not fail, an ownership check comes with a sender whose receiver still waits; and no handler
panics. -/
def Delivery.GoesOn : Delivery α μ → Handling → Prop
  | .p2pEvent (.nodeMetricsRegistrationEvent ..) _, .p2p answers _ => answers.metricsOpen = true ∧ answers.fails = false
  | .p2pEvent (.verifyNodeSmallIdOwnership ..) hasSender, .p2p _ receiver => hasSender = true ∧ receiver = .waiting
  | _, .logged _ ending => ending ≠ .panic
  | _, _ => True

/-- The condition, on the event that is received next. -/
def LoopEvent.GoesOn (s : LoopState α μ) : LoopEvent α μ → Prop
  | .receive src handling => ∀ d, (s.channels src).queue.head? = .some d → d.GoesOn handling
  | _ => True

/-! ## What a step does -/

/-- The loop goes on, or ended as it should. -/
def LoopStatus.Expected (status : LoopStatus) : Prop := ∀ how, status = .ended how → how.Expected

theorem LoopStatus.expected_running : LoopStatus.running.Expected := fun _ h => nomatch h

theorem LoopStatus.expected_ended {how : LoopEnd} : (LoopStatus.ended how).Expected ↔ how.Expected :=
  ⟨fun h => h how rfl, fun h how' heq => by cases heq; exact h⟩

theorem afterLogged_expected {ending : Ending AtomaStateManagerError Unit} :
    (afterLogged ending).Expected ↔ ending ≠ .panic := by
  cases ending with
  | ok => exact iff_of_true LoopStatus.expected_running (by rintro ⟨⟩)
  | err e => exact iff_of_true LoopStatus.expected_running (by rintro ⟨⟩)
  | panic => exact iff_of_false (fun h => LoopStatus.expected_ended.1 h) (fun h => h rfl)

theorem afterP2p_expected {result : Except AtomaStateManagerError Unit} :
    (afterP2p result).Expected ↔ result = .ok () := by
  cases result with
  | ok => exact iff_of_true LoopStatus.expected_running rfl
  | error e => exact iff_of_false (fun h => LoopStatus.expected_ended.1 h) (by rintro ⟨⟩)

/-- A check is handled where there is somebody to answer. -/
theorem handleP2pEvent_verification (t : Nodes) (answers : P2pAnswers) (id : UInt64) (suiAddress : String)
    (hasSender : Bool) (receiver : OneshotSender) :
    (handleP2pEvent t answers (.verifyNodeSmallIdOwnership id suiAddress)
      (if hasSender then .some receiver else .none)).result = .ok () ↔ hasSender = true ∧ receiver = .waiting := by
  cases hasSender with
  | false => exact iff_of_false (by rintro ⟨⟩) (by rintro ⟨⟨⟩, _⟩)
  | true =>
    cases receiver with
    | waiting => exact iff_of_true rfl ⟨rfl, rfl⟩
    | dropped => exact iff_of_false (by rintro ⟨⟩) (by rintro ⟨_, ⟨⟩⟩)

/-- **The loop goes on after an event exactly if its handling meets the condition.** -/
theorem handleDelivery_expected {nodes nodes' : Nodes} {d : Delivery α μ} {handling : Handling} {status : LoopStatus}
    (h : handleDelivery nodes d handling = .some (nodes', status)) : status.Expected ↔ d.GoesOn handling := by
  cases handling with
  | logged nodes'' ending =>
    cases d with
    | atomaEvent event =>
      cases h
      exact afterLogged_expected
    | stateManagerEvent event =>
      cases h
      exact afterLogged_expected
    | p2pEvent event hasSender => cases h
  | p2p answers receiver =>
    cases d with
    | atomaEvent event => cases h
    | stateManagerEvent event => cases h
    | p2pEvent event hasSender =>
      cases h
      rw [afterP2p_expected]
      cases event with
      | nodeMetricsRegistrationEvent url id timestamp country =>
        exact (handleP2pEvent_registration nodes answers url id timestamp country _).2.1
      | verifyNodeSmallIdOwnership id suiAddress => exact handleP2pEvent_verification nodes answers id suiAddress _ _

theorem afterClosed_expected (src : Source) : (afterClosed src).Expected := by
  cases src with
  | eventSubscriber => exact LoopStatus.expected_ended.2 trivial
  | stateManager => exact LoopStatus.expected_running
  | p2p => exact LoopStatus.expected_running

theorem afterShutdownChanged_expected {signal : ShutdownSignal} {status : LoopStatus}
    (h : afterShutdownChanged signal = .some status) : status.Expected := by
  unfold afterShutdownChanged at h
  split at h
  · split at h
    · cases h
      exact LoopStatus.expected_ended.2 trivial
    · cases h
      exact LoopStatus.expected_running
  · split at h
    · cases h
    · cases h
      exact LoopStatus.expected_ended.2 trivial

/-- The channel that a step leaves: one that it sent to, received from or closed, or the one there was. -/
theorem update_channel {channels : Source → Channel (Delivery α μ)} {src : Source} {c : Channel (Delivery α μ)}
    {added : List (Delivery α μ)} (received : Nat) (hsent : c.sent = (channels src).sent ++ added)
    (hreceived : c.received.length = (channels src).received.length + received) (src' : Source) :
    (Function.update channels src c src').sent = (channels src').sent ++ (if src = src' then added else []) ∧
      (Function.update channels src c src').received.length =
        (channels src').received.length + if src = src' then received else 0 := by
  by_cases h : src = src'
  · subst h
    rw [Function.update_self, if_pos rfl, if_pos rfl]
    exact ⟨hsent, hreceived⟩
  · rw [Function.update_of_ne (Ne.symm h), if_neg h, if_neg h, List.append_nil, Nat.add_zero]
    exact ⟨rfl, rfl⟩

variable {s s' : LoopState α μ} {ev : LoopEvent α μ}

/-- What a step does to the status, and to what was sent to and received from each channel. -/
theorem loopStep_does (h : loopStep s ev = .some s') :
    s.status = .running ∧ (s'.status.Expected ↔ ev.GoesOn s) ∧ ∀ src,
      (s'.channels src).sent = (s.channels src).sent ++ ev.sentTo src ∧
        (s'.channels src).received.length = (s.channels src).received.length + ev.receipts src := by
  unfold loopStep at h
  split at h
  · cases h
  · next hrunning =>
    rw [not_not] at hrunning
    have hexpected : s.status.Expected := hrunning ▸ LoopStatus.expected_running
    have hsame : ∀ src, (s.channels src).sent = (s.channels src).sent ++ [] ∧
        (s.channels src).received.length = (s.channels src).received.length + 0 :=
      fun src => ⟨(List.append_nil _).symm, rfl⟩
    refine ⟨hrunning, ?_⟩
    cases ev with
    | send d =>
      obtain ⟨c, hc, heq⟩ := Option.bind_eq_some_iff.1 h
      cases heq
      obtain ⟨hsent, hreceived⟩ := Channel.send_some hc
      refine ⟨iff_of_true hexpected trivial, fun src => ?_⟩
      have hupdate := update_channel 0 hsent (congrArg List.length hreceived) src
      rw [ite_self] at hupdate
      exact hupdate
    | close src =>
      cases h
      refine ⟨iff_of_true hexpected trivial, fun src' => ?_⟩
      have hsent : (s.channels src).close.sent = (s.channels src).sent ++ [] := (List.append_nil _).symm
      have hupdate := update_channel 0 hsent rfl src'
      rw [ite_self, ite_self] at hupdate
      exact hupdate
    | signal value =>
      dsimp only at h
      split at h
      · cases h
        exact ⟨iff_of_true hexpected trivial, hsame⟩
      · cases h
    | closeSignal =>
      cases h
      exact ⟨iff_of_true hexpected trivial, hsame⟩
    | receive src handling =>
      obtain ⟨⟨d, c⟩, hrecv, h⟩ := Option.bind_eq_some_iff.1 h
      obtain ⟨⟨nodes, status⟩, hhandle, heq⟩ := Option.bind_eq_some_iff.1 h
      cases heq
      obtain ⟨hhead, hsent, hreceived⟩ := Channel.recv_some hrecv
      constructor
      · show status.Expected ↔ ∀ d', (s.channels src).queue.head? = .some d' → d'.GoesOn handling
        simp only [hhead, Option.some.injEq, forall_eq']
        exact handleDelivery_expected hhandle
      · intro src'
        have hlength : c.received.length = (s.channels src).received.length + 1 := by
          rw [hreceived, List.length_append, List.length_singleton]
        have hupdate := update_channel 1 (hsent.trans (List.append_nil _).symm) hlength src'
        rw [ite_self] at hupdate
        exact hupdate
    | closed src =>
      dsimp only at h
      split at h
      · cases h
        exact ⟨iff_of_true (afterClosed_expected src) trivial, hsame⟩
      · cases h
    | shutdownChanged =>
      obtain ⟨status, hstatus, heq⟩ := Option.bind_eq_some_iff.1 h
      cases heq
      exact ⟨iff_of_true (afterShutdownChanged_expected hstatus) trivial, hsame⟩

/-- While the loop runs, the next event of a channel can be handled. -/
theorem loopStep_serves {src : Source} {d : Delivery α μ} {handling : Handling} (hrunning : s.status = .running)
    (hhead : (s.channels src).queue.head? = .some d) (hhandles : (handleDelivery s.nodes d handling).isSome = true) :
    ∃ s', loopStep s (.receive src handling) = .some s' ∧
      (s'.channels src).received = (s.channels src).received ++ [d] := by
  obtain ⟨c, hrecv, hreceived⟩ := Channel.recv_of_head hhead
  obtain ⟨⟨nodes, status⟩, hhandle⟩ := Option.isSome_iff_exists.1 hhandles
  refine ⟨{ s with channels := Function.update s.channels src c, nodes, status }, ?_, ?_⟩
  · unfold loopStep
    rw [if_neg fun hnot => hnot hrunning]
    exact Option.bind_eq_some_iff.2 ⟨(d, c), hrecv, Option.bind_eq_some_iff.2 ⟨(nodes, status), hhandle, rfl⟩⟩
  · show (Function.update s.channels src c src).received = _
    rw [Function.update_self, hreceived]

/-! ## Runs -/

/-- What a run sent to a channel and received from it. -/
theorem loop_run_channels (src : Source) : ∀ {evs : List (LoopEvent α μ)} {s s' : LoopState α μ},
    loopMachine.run s evs = .some s' →
      (s'.channels src).sent = (s.channels src).sent ++ evs.flatMap (LoopEvent.sentTo src) ∧
        (s'.channels src).received.length =
          (s.channels src).received.length + (evs.map (LoopEvent.receipts src)).sum
  | [], s, s', hrun => by
    cases hrun
    exact ⟨(List.append_nil _).symm, rfl⟩
  | ev :: evs, s, s', hrun => by
    obtain ⟨s₁, hstep, hrest⟩ := Machine.run_cons.1 hrun
    obtain ⟨hsent, hreceived⟩ := (loopStep_does hstep).2.2 src
    obtain ⟨hsent', hreceived'⟩ := loop_run_channels src hrest
    rw [hsent', hreceived', hsent, hreceived, List.flatMap_cons, List.map_cons, List.sum_cons, List.append_assoc,
      Nat.add_assoc]
    exact ⟨rfl, rfl⟩

/-- **Main result.** A run of the loop is as it should be exactly if each event it handles meets the condition. -/
theorem run_resilient_iff {nodes : Nodes} {evs : List (LoopEvent α μ)} {s : LoopState α μ}
    (hrun : loopMachine.run (.start nodes) evs = .some s) :
    Resilient evs s ↔ loopMachine.Guarded (fun s ev => ev.GoesOn s) (.start nodes) evs := by
  have hends : s.status.Expected ↔ LoopStatus.running.Expected ∧
      loopMachine.Guarded (fun s ev => ev.GoesOn s) (.start nodes) evs := by
    refine @Machine.run_iff_guarded _ _ loopMachine (fun _ => True) (fun s => s.status.Expected) _ (fun _ _ => trivial)
      ?_ _ (.start nodes) s trivial hrun
    intro s ev s' _ hstep
    obtain ⟨hrunning, hexpected, _⟩ := loopStep_does hstep
    rw [hexpected, hrunning, and_iff_right LoopStatus.expected_running]
  rw [and_iff_right LoopStatus.expected_running] at hends
  have hchannel : ∀ src, (s.channels src).sent = evs.flatMap (LoopEvent.sentTo src) ∧
      (s.channels src).received.length = (evs.map (LoopEvent.receipts src)).sum := by
    intro src
    obtain ⟨hsent, hreceived⟩ := loop_run_channels src hrun
    rw [hsent, hreceived]
    exact ⟨List.nil_append _, Nat.zero_add _⟩
  rw [← hends]
  constructor
  · exact fun h => h.ends
  · intro h
    constructor
    case ends => exact h
    case handled =>
      intro src
      rw [Channel.received_eq_take, (hchannel src).1, (hchannel src).2]
    case waiting =>
      intro src
      rw [Channel.queue_eq_drop, (hchannel src).1, (hchannel src).2]
    case served =>
      intro hrunning src d hhead handling hhandles
      exact loopStep_serves hrunning hhead hhandles

end

/-- A state manager event that fails, and an ownership check after it. -/
def loopExample (receiver : OneshotSender) : List (LoopEvent Unit Unit) :=
  [.send (.stateManagerEvent ()), .send (.p2pEvent (.verifyNodeSmallIdOwnership 1 "0xa") true),
    .receive .stateManager (.logged (fun _ => .none) (.err .channelSendError)),
    .receive .p2p (.p2p ⟨true, false⟩ receiver)]

theorem run_resilient_iff_example : ∃ s : LoopState Unit Unit,
    loopMachine.run (.start fun _ => .none) (loopExample .waiting) = .some s ∧ Resilient (loopExample .waiting) s := by
  obtain ⟨s, hrun⟩ : ∃ s : LoopState Unit Unit,
    loopMachine.run (.start fun _ => .none) (loopExample .waiting) = .some s := ⟨_, rfl⟩
  refine ⟨s, hrun, (run_resilient_iff hrun).2 ?_⟩
  refine (Machine.guarded_cons rfl).2 ⟨trivial, (Machine.guarded_cons rfl).2 ⟨trivial, ?_⟩⟩
  refine (Machine.guarded_cons rfl).2 ⟨fun d hd => ?_, (Machine.guarded_cons rfl).2 ⟨fun d hd => ?_, trivial⟩⟩
  · cases hd
    show Ending.err _ ≠ Ending.panic
    rintro ⟨⟩
  · cases hd
    exact ⟨rfl, rfl⟩

/-- A requester that has gone away ends the loop. -/
theorem run_resilient_fails : ¬ ∀ (nodes : Nodes) (evs : List (LoopEvent Unit Unit)) (s : LoopState Unit Unit),
    loopMachine.run (.start nodes) evs = .some s → Resilient evs s := by
  intro h
  exact (h (fun _ => .none) (loopExample .dropped) _ rfl).ends _ rfl

end AtomaProxy
