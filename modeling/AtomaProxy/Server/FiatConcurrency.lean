/-
Fiat requests in parallel: any number of regular requests, each sending its
events one after the other, and the state manager, which handles them in the
order they come in.

The events come through one queue and are handled one at a time, and of what
it sends a request waits for its lock's answer alone: to send an event and to
handle it is one step here, and the steps of a request fall anywhere between
those of the others. What it does is given with the answers it will get; it
goes on only where the state manager answers its locks so. Where each request settles what it locked, once and at no more than
it locked, the locks that the state manager holds of a user are at any time
those of the user's requests that are midway.
-/
import AtomaProxy.Server.FiatPasses
import AtomaProxy.State.FiatLedger

namespace AtomaProxy

open Base

/-- A request that runs: the events it is still to send, and what the locks among them are answered. -/
structure FiatProcess where
  toSend : List StateManagerEvent
  grants : List Bool

/-- `regular_request`, before it sends anything. -/
def FiatProcess.ofRequest (calls : ServerCalls) (answers : RequestAnswers) (headers : Headers) (body : Value)
    (endpoint : String) : FiatProcess where
  toSend := (regularRequest calls answers headers body endpoint).sent
  grants := [answers.first.granted, answers.second.granted]

structure FiatServer where
  fiat : FiatState
  requests : List FiatProcess

inductive FiatServerStep where
  | arrive (calls : ServerCalls) (answers : RequestAnswers) (headers : Headers) (body : Value) (endpoint : String)
  /-- the `n`th request's next event is sent and handled, on the day `today` -/
  | send (n today : Nat)
  /-- the payment service's credit -/
  | increaseUsdBalance (userId amount : Int64)

/-- The next event of a request, and what it does to the fiat tables; a lock is answered as the request has it. -/
def FiatProcess.sendNext (p : FiatProcess) (s : FiatState) (today : Nat) : Option (FiatState × FiatProcess) :=
  match p.toSend with
  | [] => .none
  | event :: rest =>
    match event with
    | .lockUserFiatBalance userId inputAmount outputAmount =>
      match p.grants with
      | [] => .none
      | granted :: grants =>
        if granted = decide ((handleLockUserFiatBalance s.tables userId inputAmount outputAmount).2 = .ok true) then
          .some (fiatStep s (.lockUserFiatBalance userId inputAmount outputAmount), ⟨rest, grants⟩)
        else .none
    | .updateStackNumTokensFiat e => .some (fiatStep s (.updateStackNumTokensFiat today e), ⟨rest, p.grants⟩)
    | _ => .some (s, ⟨rest, p.grants⟩)

def FiatServer.step (s : FiatServer) : FiatServerStep → Option FiatServer
  | .arrive calls answers headers body endpoint =>
    .some { s with requests := s.requests ++ [.ofRequest calls answers headers body endpoint] }
  | .send n today => do
    let p ← s.requests[n]?
    let (fiat, p') ← p.sendNext s.fiat today
    .some ⟨fiat, s.requests.set n p'⟩
  | .increaseUsdBalance userId amount => .some { s with fiat := fiatStep s.fiat (.increaseUsdBalance userId amount) }

def fiatServerMachine : Machine FiatServer FiatServerStep := ⟨FiatServer.step⟩

/-! ## What a request holds -/

/-- The amounts are not negative, and a settlement is of no more than its estimates. -/
def StateManagerEvent.InBounds : StateManagerEvent → Prop
  | .lockUserFiatBalance _ inputAmount outputAmount => 0 ≤ inputAmount.toInt ∧ 0 ≤ outputAmount.toInt
  | .updateStackNumTokensFiat e => 0 ≤ e.actual ∧ e.actual ≤ e.estimated
  | _ => True

instance : ∀ event : StateManagerEvent, Decidable event.InBounds
  | .lockUserFiatBalance .. => inferInstanceAs (Decidable (_ ∧ _))
  | .updateStackNumTokensFiat _ => inferInstanceAs (Decidable (_ ∧ _))
  | .updateStackNumTokens .. | .updateNodeThroughputPerformance .. | .lockStack _ => isTrue trivial

/-- The lock that a request has to settle next, of a user. -/
def FiatProcess.holds (userId : Int64) (p : FiatProcess) : Multiset (Int × Int) :=
  match lockEvents p.toSend with
  | .settled user input output :: _ => if user = userId then {amounts input output} else 0
  | _ => 0

/-- The request is as one that settles each lock, maybe between a lock and its settlement. -/
structure FiatProcess.Settling (p : FiatProcess) : Prop where
  locks : EachLockSettled p.grants (lockEvents p.toSend) ∨ ∃ userId input output rest,
    lockEvents p.toSend = .settled userId input output :: rest ∧ EachLockSettled p.grants rest
  inBounds : ∀ event ∈ p.toSend, event.InBounds

/-- A request that arrives settles each lock it will be granted, within its bounds; a credit is not negative. -/
def FiatServerStep.Sound : FiatServerStep → Prop
  | .arrive calls answers headers body endpoint =>
    EachLockSettled [answers.first.granted, answers.second.granted]
        (lockEvents (regularRequest calls answers headers body endpoint).sent) ∧
      ∀ event ∈ (regularRequest calls answers headers body endpoint).sent, event.InBounds
  | .send .. => True
  | .increaseUsdBalance _ amount => 0 ≤ amount.toInt

/-- What a request sends next, in one of three ways: something else, a lock that is granted or not, or the
settlement of the lock it holds. -/
inductive FiatProcess.Sends (p : FiatProcess) (s : FiatState) (today : Nat) : FiatState → FiatProcess → Prop where
  | other {p'} : (∀ userId, p'.holds userId = p.holds userId) → p.Sends s today s p'
  | locked {p' u i o} : 0 ≤ i.toInt → 0 ≤ o.toInt → (∀ userId, p.holds userId = 0) →
      (∀ userId, p'.holds userId = if (handleLockUserFiatBalance s.tables u i o).2 = .ok true ∧ u = userId then
        {amounts i o} else 0) → p.Sends s today (fiatStep s (.lockUserFiatBalance u i o)) p'
  | settled {p' e} : 0 ≤ e.actual → e.actual ≤ e.estimated →
      (∀ userId, p.holds userId = if e.userId = userId then {e.estimated} else 0) → (∀ userId, p'.holds userId = 0) →
      p.Sends s today (fiatStep s (.updateStackNumTokensFiat today e)) p'

/-! ## One request -/

theorem lockEvents_cons (event : StateManagerEvent) (rest : List StateManagerEvent) :
    lockEvents (event :: rest) = (lockEvent event).toList ++ lockEvents rest := by
  unfold lockEvents
  cases h : lockEvent event with
  | none => rw [List.filterMap_cons_none h, Option.toList_none, List.nil_append]
  | some e => rw [List.filterMap_cons_some h, Option.toList_some, List.singleton_append]

theorem EachLockSettled.notSettled {grants : List Bool} {events : List LockEvent} (h : EachLockSettled grants events) :
    NotSettled events := by
  intro u i o rest heq
  subst heq
  cases h

/-- Between its locks a request holds nothing. -/
theorem FiatProcess.holds_between {p : FiatProcess} (h : EachLockSettled p.grants (lockEvents p.toSend))
    (userId : Int64) : p.holds userId = 0 := by
  unfold FiatProcess.holds
  split
  · next hlocks => exact absurd hlocks (h.notSettled _ _ _ _)
  · rfl

/-- What is no lock and no settlement leaves the locks and what the request holds. -/
theorem FiatProcess.settling_other {p : FiatProcess} {event : StateManagerEvent} {rest : List StateManagerEvent}
    (h : p.Settling) (hp : p.toSend = event :: rest) (hother : lockEvent event = .none) :
    (∀ userId, FiatProcess.holds userId ⟨rest, p.grants⟩ = p.holds userId) ∧
      FiatProcess.Settling ⟨rest, p.grants⟩ := by
  have hlocks : lockEvents p.toSend = lockEvents rest := by
    rw [hp, lockEvents_cons, hother, Option.toList_none, List.nil_append]
  refine ⟨fun userId => ?_, hlocks ▸ h.locks, fun e he => h.inBounds e (hp ▸ List.mem_cons_of_mem event he)⟩
  unfold FiatProcess.holds
  rw [hlocks]

/-- **What a request sends next**, and it stays one that settles its locks. -/
theorem FiatProcess.Settling.sendNext {p p' : FiatProcess} {s s' : FiatState} {today : Nat} (h : p.Settling)
    (hsend : p.sendNext s today = .some (s', p')) : p.Sends s today s' p' ∧ p'.Settling := by
  unfold FiatProcess.sendNext at hsend
  cases hp : p.toSend with
  | nil =>
    rw [hp] at hsend
    cases hsend
  | cons event rest =>
    have hrest : ∀ e ∈ rest, e.InBounds := fun e he => h.inBounds e (hp ▸ List.mem_cons_of_mem event he)
    have hfirst : event.InBounds := h.inBounds event (hp ▸ List.mem_cons_self)
    rw [hp] at hsend
    cases event with
    | lockUserFiatBalance u i o =>
      have hlocks : lockEvents p.toSend = .locked u i o :: lockEvents rest := by rw [hp]; rfl
      -- a lock is not sent between another one and its settlement
      have hbetween : EachLockSettled p.grants (.locked u i o :: lockEvents rest) := by
        rcases h.locks with h | ⟨_, _, _, _, h, _⟩
        · rwa [← hlocks]
        · exact nomatch hlocks.symm.trans h
      have hnone : ∀ userId, p.holds userId = 0 := FiatProcess.holds_between (hlocks ▸ hbetween)
      cases hgrants : p.grants with
      | nil =>
        rw [hgrants] at hbetween
        cases hbetween
      | cons granted grants =>
        rw [hgrants] at hsend hbetween
        dsimp only at hsend
        split at hsend
        · next hgranted =>
          cases hsend
          generalize hevents : lockEvents rest = events at hbetween
          cases hbetween with
          | @granted _ events _ _ _ hmore =>
            have hok : (handleLockUserFiatBalance s.tables u i o).2 = .ok true := of_decide_eq_true hgranted.symm
            refine ⟨.locked hfirst.1 hfirst.2 hnone fun userId => ?_, .inr ⟨u, i, o, events, hevents, hmore⟩, hrest⟩
            rw [FiatProcess.holds, hevents]
            simp only [hok, true_and]
          | refused hmore =>
            have hno : (handleLockUserFiatBalance s.tables u i o).2 ≠ .ok true := of_decide_eq_false hgranted.symm
            refine ⟨.locked hfirst.1 hfirst.2 hnone fun userId => ?_, .inl (hevents ▸ hmore), hrest⟩
            rw [if_neg fun hyes => hno hyes.1]
            exact FiatProcess.holds_between (p := ⟨rest, grants⟩) (hevents ▸ hmore) userId
        · cases hsend
    | updateStackNumTokensFiat e =>
      have hlocks : lockEvents p.toSend =
          .settled e.userId e.estimatedInputAmount e.estimatedOutputAmount :: lockEvents rest := by rw [hp]; rfl
      have hmore : EachLockSettled p.grants (lockEvents rest) := by
        rcases h.locks with h | ⟨_, _, _, _, h, hmore⟩
        · exact absurd hlocks (h.notSettled _ _ _ _)
        · obtain ⟨_, rfl⟩ := List.cons.inj (hlocks.symm.trans h)
          exact hmore
      cases hsend
      refine ⟨.settled hfirst.1 hfirst.2 (fun userId => ?_) (FiatProcess.holds_between hmore), .inl hmore, hrest⟩
      rw [FiatProcess.holds, hlocks]
      rfl
    | updateStackNumTokens _ _ _ | updateNodeThroughputPerformance _ _ _ | lockStack _ =>
      cases hsend
      obtain ⟨hsame, hsettling⟩ := FiatProcess.settling_other h hp rfl
      exact ⟨.other hsame, hsettling⟩

/-! ## All of them -/

/-- The locks of a user that the requests hold between them. -/
def FiatServer.held (s : FiatServer) (userId : Int64) : Multiset (Int × Int) :=
  (s.requests.map (FiatProcess.holds userId)).sum

/-- The requests settle their locks, and between them hold all that are out. -/
structure FiatServer.Sound (s : FiatServer) : Prop where
  settling : ∀ p ∈ s.requests, p.Settling
  held : ∀ userId, s.fiat.outstanding userId = s.held userId
  tracks : ∀ userId, ∃ l, FiatState.Tracks userId s.fiat l

theorem FiatServer.sound_of_fresh {s : FiatServer} (h : s.fiat.Fresh) (hnone : s.requests = []) : s.Sound where
  settling p hp := by
    rw [hnone] at hp
    cases hp
  held userId := by
    rw [h.outstanding, FiatServer.held, hnone]
    rfl
  tracks := h.tracks

theorem FiatServer.tracks_step {s : FiatState} {event : FiatEvent} (h : ∀ userId, ∃ l, FiatState.Tracks userId s l)
    (ha : event.Allowed s) (userId : Int64) : ∃ l, FiatState.Tracks userId (fiatStep s event) l := by
  obtain ⟨l, hl⟩ := h userId
  obtain ⟨_, l', _, hl'⟩ := fiat_refines userId hl ha rfl
  exact ⟨l', hl'⟩

/-- What one request sends keeps the requests and the tables in step. -/
theorem FiatServer.Sound.sends {s : FiatServer} {n today : Nat} {p p' : FiatProcess} {fiat : FiatState} (h : s.Sound)
    (hp : s.requests[n]? = .some p) (hsends : p.Sends s.fiat today fiat p') (hsettling : p'.Settling) :
    FiatServer.Sound ⟨fiat, s.requests.set n p'⟩ := by
  have hset : ∀ userId, FiatServer.held ⟨fiat, s.requests.set n p'⟩ userId + p.holds userId =
      s.held userId + p'.holds userId := fun userId => sum_map_set _ p' hp
  have hall : ∀ q ∈ s.requests.set n p', q.Settling := by
    intro q hq
    rcases List.mem_or_eq_of_mem_set hq with hq | rfl
    · exact h.settling q hq
    · exact hsettling
  cases hsends with
  | other hsame =>
    refine ⟨hall, fun userId => ?_, h.tracks⟩
    have hheld := hset userId
    rw [hsame, add_left_inj] at hheld
    rw [hheld]
    exact h.held userId
  | @locked _ u i o hi ho hnone hholds =>
    refine ⟨hall, fun userId => ?_, FiatServer.tracks_step h.tracks ⟨hi, ho⟩⟩
    have hheld := hset userId
    rw [hnone, add_zero, hholds] at hheld
    rw [hheld, ← h.held]
    by_cases hok : (handleLockUserFiatBalance s.fiat.tables u i o).2 = .ok true
    · by_cases hu : u = userId
      · subst hu
        simp only [fiatStep, hok, if_true, and_self, Function.update_self, add_comm, Multiset.singleton_add]
      · rw [if_neg fun hyes => hu hyes.2, add_zero]
        exact (@fiatStep_other _ (.lockUserFiatBalance u i o) _ (Ne.symm hu)).1
    · rw [if_neg fun hyes => hok hyes.1, add_zero]
      simp only [fiatStep, hok, if_false]
  | @settled _ e h0 hle hholds hnone =>
    have hmem : e.estimated ∈ s.fiat.outstanding e.userId := by
      have hheld := hset e.userId
      rw [hnone, hholds, if_pos rfl, add_zero] at hheld
      rw [h.held, ← hheld]
      exact Multiset.mem_add.2 (.inr (Multiset.mem_singleton_self _))
    refine ⟨hall, fun userId => ?_, FiatServer.tracks_step h.tracks ⟨hmem, h0, hle⟩⟩
    have hheld := hset userId
    rw [hnone, add_zero, hholds] at hheld
    by_cases hu : e.userId = userId
    · subst hu
      rw [if_pos rfl] at hheld
      refine (Function.update_self e.userId _ _).trans ?_
      rw [h.held, ← hheld, add_comm, Multiset.singleton_add, Multiset.erase_cons_head]
    · rw [if_neg hu, add_zero] at hheld
      rw [hheld, ← h.held]
      exact (@fiatStep_other _ (.updateStackNumTokensFiat today e) _ (Ne.symm hu)).1

/-- Every step of the server, of requests that settle their locks, keeps them in step. -/
theorem FiatServer.Sound.step {s s' : FiatServer} {step : FiatServerStep} (h : s.Sound) (hsound : step.Sound)
    (hstep : fiatServerMachine.step s step = .some s') : s'.Sound := by
  cases step with
  | arrive calls answers headers body endpoint =>
    cases hstep
    refine ⟨fun p hp => ?_, fun userId => ?_, h.tracks⟩
    · rcases List.mem_append.1 hp with hp | hp
      · exact h.settling p hp
      · rw [List.mem_singleton.1 hp]
        exact ⟨.inl hsound.1, hsound.2⟩
    · have hnew : (FiatProcess.ofRequest calls answers headers body endpoint).holds userId = 0 :=
        FiatProcess.holds_between hsound.1 userId
      simp only [FiatServer.held, List.map_append, List.sum_append, List.map_singleton, List.sum_singleton, hnew,
        add_zero]
      exact h.held userId
  | send n today =>
    simp only [fiatServerMachine, FiatServer.step, Option.bind_eq_bind, Option.bind_eq_some_iff, Option.some.injEq,
      Prod.exists] at hstep
    obtain ⟨p, hp, fiat, p', hsend, rfl⟩ := hstep
    obtain ⟨hsends, hsettling⟩ := (h.settling p (List.mem_of_getElem? hp)).sendNext hsend
    exact h.sends hp hsends hsettling
  | increaseUsdBalance u amount =>
    cases hstep
    exact ⟨h.settling, h.held, @FiatServer.tracks_step _ (.increaseUsdBalance u amount) h.tracks hsound⟩

/-- **Main result.** However the events of requests that settle their locks fall between each other, what is locked
of a user is what its requests hold that are midway, what is debited is what the settlements came to, and the balance
covers both; the settlement that a request sends next finds its lock, and once all have sent everything nothing is
locked. -/
theorem fiat_requests_conserve {s s' : FiatServer} {steps : List FiatServerStep} (h : s.fiat.Fresh)
    (hnone : s.requests = []) (hsound : ∀ step ∈ steps, step.Sound)
    (hrun : fiatServerMachine.run s steps = .some s') {userId : Int64} {row : FiatBalance}
    (hrow : s'.fiat.tables.fiatBalances userId = .some row) :
    row.overcharged = (s'.held userId).sum ∧ row.debited = (s'.fiat.settled userId).sum ∧
      row.committed ≤ row.usdBalance.toInt ∧
      (∀ p ∈ s'.requests, ∀ e rest, p.toSend = .updateStackNumTokensFiat e :: rest → e.userId = userId →
        ∃ row', FiatBalance.settle e.estimatedInputAmount e.inputAmount e.estimatedOutputAmount e.outputAmount row =
          .ok (.some row')) ∧
      ((∀ p ∈ s'.requests, p.toSend = []) → row.overcharged = 0) := by
  have hs' : s'.Sound := Machine.run_invariant (fun hi hc hstep => hi.step hc hstep)
    (FiatServer.sound_of_fresh h hnone) (Machine.guarded_of_mem s hsound) hrun
  obtain ⟨l, hl⟩ := hs'.tracks userId
  obtain ⟨hr, hout, hset⟩ := hl row hrow
  have hheld : row.overcharged = (s'.held userId).sum := by rw [hr.held, ← hout, hs'.held]
  refine ⟨hheld, by rw [hr.spent, hset], hr.committed_le, fun p hp e rest hsend hu => ?_, fun hdone => ?_⟩
  · -- the request holds the lock of its settlement, so the lock is out
    have hholds : p.holds userId = {e.estimated} := by
      rw [FiatProcess.holds, hsend]
      exact if_pos hu
    have hmem : e.estimated ∈ l.held := by
      obtain ⟨before, after, hall⟩ := List.append_of_mem hp
      rw [← hout, hs'.held, FiatServer.held, hall, List.map_append, List.sum_append, List.map_cons, List.sum_cons,
        hholds]
      exact Multiset.mem_add.2 (.inr (Multiset.mem_add.2 (.inl (Multiset.mem_singleton_self _))))
    obtain ⟨h0, hle⟩ := (hs'.settling p hp).inBounds _ (hsend ▸ List.mem_cons_self)
    obtain ⟨row', hrow', _⟩ := hr.settle hmem h0 hle
    exact ⟨row', hrow'⟩
  · have hzero : s'.held userId = 0 := List.sum_eq_zero fun held hheld => by
      obtain ⟨p, hp, rfl⟩ := List.mem_map.1 hheld
      rw [FiatProcess.holds, hdone p hp]
      rfl
    rw [hheld, hzero, Multiset.sum_zero]

/-- The answers to a chat whose lock is answered `granted`, and whose node then fails. -/
def failingAnswersExample (granted : Bool) : RequestAnswers where
  first := ⟨answersExample 1000000, .ok granted, .ok ⟨"http://node", "signature"⟩⟩
  firstNode := .answered 500 (.some "Internal Server Error") (.error "no body") []
  second := ⟨answersExample 1000000, .ok false, .ok ⟨"http://node", "signature"⟩⟩
  retryStack := .error (.notFound "no stack" chatCompletionsPath)
  retryProcess := .ok ⟨"http://node", "signature"⟩
  secondNode := .unreachable "connection refused"

/-- A user with a balance for one such chat at a time. -/
def fiatServerExample : FiatServer where
  fiat := { fiatExample with tables.fiatBalances := fun u => if u = 1 then .some (.ofBalance 10000) else .none }
  requests := []

def chatExample (granted : Bool) : FiatServerStep :=
  .arrive serverCallsExample (failingAnswersExample granted) headersExample (bodyExample 8192) chatCompletionsPath

/-- Two chats at once: the second one is refused while the first holds its lock, a third after it is granted. -/
def fiatServerStepsExample : List FiatServerStep :=
  [chatExample true, chatExample false, .send 0 0, .send 1 0, chatExample true, .send 0 0, .send 2 0]

theorem fiatServerExample_fresh : fiatServerExample.fiat.Fresh := by
  refine ⟨fun {u row} h => ⟨10000, by decide, ?_⟩, fun _ => rfl, fun _ => rfl⟩
  simp only [fiatServerExample] at h
  split at h
  · exact (Option.some.inj h).symm
  · cases h

theorem chatExample_sound (granted : Bool) : (chatExample granted).Sound := by
  cases granted with
  | false => exact ⟨.refused .nil, by decide⟩
  | true => exact ⟨.granted .nil, by decide⟩

theorem fiatServerStepsExample_sound : ∀ step ∈ fiatServerStepsExample, step.Sound := by
  intro step hstep
  simp only [fiatServerStepsExample, List.mem_cons, List.not_mem_nil, or_false] at hstep
  rcases hstep with rfl | rfl | rfl | rfl | rfl | rfl | rfl
  exacts [chatExample_sound true, chatExample_sound false, trivial, trivial, chatExample_sound true, trivial, trivial]

theorem fiat_requests_conserve_example : ∃ s', fiatServerMachine.run fiatServerExample fiatServerStepsExample = .some s' ∧
    s'.fiat.tables.fiatBalances 1 = .some ⟨10000, 0, 0, 5, 8192, 0⟩ ∧ (s'.held 1).sum = (5, 8192) := by
  have hsome : (fiatServerMachine.run fiatServerExample fiatServerStepsExample).isSome = true := by decide
  obtain ⟨s', hrun⟩ := Option.isSome_iff_exists.1 hsome
  have hrow : s'.fiat.tables.fiatBalances 1 = .some ⟨10000, 0, 0, 5, 8192, 0⟩ := by
    have hbind : ((fiatServerMachine.run fiatServerExample fiatServerStepsExample).bind fun s =>
        s.fiat.tables.fiatBalances 1) = .some ⟨10000, 0, 0, 5, 8192, 0⟩ := by decide
    rwa [hrun] at hbind
  exact ⟨s', hrun, hrow,
    (fiat_requests_conserve fiatServerExample_fresh rfl fiatServerStepsExample_sound hrun hrow).1.symm⟩

end AtomaProxy
