/-
Whose balance a request changes. Every event of a regular request that locks
or settles a fiat balance is of the user that one of its two checks was
answered with; with what the checks are answered, this is a user who had the
request's token stored, in a session, and had not revoked it.
-/
import AtomaProxy.Server.ApiTokens
import AtomaProxy.Server.FiatConcurrency

namespace AtomaProxy

open Base

/-- The user whose fiat balance the event changes. -/
def StateManagerEvent.chargedUser : StateManagerEvent → Option Int64
  | .lockUserFiatBalance userId _ _ => .some userId
  | .updateStackNumTokensFiat settlement => .some settlement.userId
  | _ => .none

/-- The event changes no fiat balance but those of such users. -/
def StateManagerEvent.ChargesOnly (users : Int64 → Prop) (event : StateManagerEvent) : Prop :=
  ∀ userId, event.chargedUser = .some userId → users userId

/-! ## The request -/

section Charges

variable {users : Int64 → Prop}

/-- What a request locks is its user's. -/
theorem quoted_userId {p : PassAnswers} {headers : Headers} {body : Value} {endpoint : String} {m : StackMetadata}
    (h : p.quoted headers body endpoint = .ok m) : checkAuth headers p.auth.checkAuth endpoint = .ok m.userId := by
  obtain ⟨request, _, hquote⟩ := ok_bind_iff.1 h
  obtain ⟨userId, hauth, hquote⟩ := ok_bind_iff.1 hquote
  obtain ⟨tokenizer, _, hquote⟩ := ok_bind_iff.1 hquote
  obtain ⟨estimate, _, hquote⟩ := ok_bind_iff.1 hquote
  obtain ⟨node, _, hquote⟩ := ok_bind_iff.1 hquote
  obtain ⟨pricing, _, hquote⟩ := ok_bind_iff.1 hquote
  cases hquote
  exact hauth

theorem prepareRequest_userId {processed : Except AtomaProxyError ProcessedRequest} {body : Value} {node : Int64}
    {stackSmallId : Option Int64} {inputPrice outputPrice : Int64} {inputTokens outputTokens : UInt64} {userId : Int64}
    {endpoint : String} {metadata : RequestMetadataExtension} (h : prepareRequest processed body node stackSmallId
      inputPrice outputPrice inputTokens outputTokens userId endpoint = .ok metadata) : metadata.userId = userId := by
  obtain ⟨_, _, h⟩ := ok_bind_iff.1 h
  obtain ⟨_, _, h⟩ := ok_bind_iff.1 h
  obtain ⟨_, _, h⟩ := ok_bind_iff.1 h
  cases h
  rfl

/-- A handler charges the user of its request. -/
theorem charges_of_handlerEvent {metadata : RequestMetadataExtension} (hu : users metadata.userId)
    {event : StateManagerEvent} (h : metadata.HandlerEvent event) : event.ChargesOnly users := by
  intro userId hcharged
  cases event with
  | updateStackNumTokensFiat settlement =>
    obtain rfl := Option.some.inj hcharged
    exact h.2.symm ▸ hu
  | lockUserFiatBalance u i o => exact h.elim
  | updateStackNumTokens _ _ _ => cases hcharged
  | updateNodeThroughputPerformance _ _ _ => cases hcharged
  | lockStack _ => cases hcharged

theorem charges_regularHandler {calls : ServerCalls} {headers : Headers} {body : Value} {answer : NodeAnswer}
    {metadata : RequestMetadataExtension} (hu : users metadata.userId) :
    (regularHandler calls headers body answer metadata).Sends (StateManagerEvent.ChargesOnly users) :=
  (sends_regularHandler calls headers body).mono fun _ => charges_of_handlerEvent hu

/-- A pass locks, and settles where it fails, for the user its check was answered with. -/
theorem charges_authenticate {p : PassAnswers} {headers : Headers} {body : Value} {endpoint : String}
    {next : Value → RequestMetadataExtension → Handler Response}
    (hauth : ∀ userId, checkAuth headers p.auth.checkAuth endpoint = .ok userId → users userId)
    (hnext : ∀ body metadata, users metadata.userId →
      (next body metadata).Sends (StateManagerEvent.ChargesOnly users)) :
    (authenticateMiddleware p headers body endpoint next).Sends (StateManagerEvent.ChargesOnly users) := by
  intro event hevent
  rw [sent_authenticate] at hevent
  cases hquoted : p.quoted headers (withDefaultMaxTokens body) endpoint with
  | error e =>
    rw [hquoted] at hevent
    cases hevent
  | ok m =>
    have hu : users m.userId := hauth _ (quoted_userId hquoted)
    have hafter : (afterLock p (withDefaultMaxTokens body) m endpoint (next (withDefaultMaxTokens body))).Sends
        (StateManagerEvent.ChargesOnly users) := by
      unfold afterLock
      split
      · next metadata hcreate => exact hnext _ _ (prepareRequest_userId hcreate ▸ hu)
      · refine (sends_fiat fun settlement hsettlement userId hcharged => ?_).bind fun _ _ => Eff.sends_of_nil rfl
        rw [← Option.some.inj hcharged, hsettlement]
        exact hu
    rw [hquoted] at hevent
    rcases List.mem_cons.1 hevent with hevent | hevent
    · rw [hevent]
      intro userId hcharged
      exact Option.some.inj hcharged ▸ hu
    · split at hevent
      · exact hafter event hevent
      · cases hevent

theorem charges_lockStack {headers : Headers} {endpoint : String} :
    (headers.lockStack endpoint).Sends (StateManagerEvent.ChargesOnly users) := by
  unfold Headers.lockStack
  split
  · split
    · split
      · exact Eff.sends_send nofun
      · exact Eff.sends_of_nil rfl
    · exact Eff.sends_of_nil rfl
  · exact Eff.sends_of_nil rfl

theorem charges_retryOnStack {calls : ServerCalls} {answers : RequestAnswers} {headers : Headers} {body : Value}
    {metadata : RequestMetadataExtension} (hu : users metadata.userId) :
    (retryOnStack calls answers headers body metadata).Sends (StateManagerEvent.ChargesOnly users) := by
  unfold retryOnStack
  refine Eff.Sends.bind (Eff.sends_of_nil (Eff.sent_ofExcept _)) fun node _ => ?_
  cases node.stackSmallId with
  | none => exact Eff.sends_of_nil rfl
  | some stackSmallId =>
    dsimp only
    split
    · next retried hretried => exact charges_regularHandler (prepareRequest_userId hretried ▸ hu)
    · exact (Eff.sends_send nofun).bind fun _ _ => Eff.sends_of_nil rfl

/-- **A request charges only users that its checks were answered with.** -/
theorem charges_regularRequest {calls : ServerCalls} {answers : RequestAnswers} {headers : Headers} {body : Value}
    {endpoint : String} (hfirst : ∀ userId, checkAuth headers answers.first.auth.checkAuth endpoint = .ok userId →
      users userId) (hsecond : ∀ metadataEndpoint userId,
        checkAuth headers answers.second.auth.checkAuth metadataEndpoint = .ok userId → users userId) :
    (regularRequest calls answers headers body endpoint).Sends (StateManagerEvent.ChargesOnly users) := by
  refine charges_authenticate hfirst fun body metadata hu => sends_intoResponse ?_
  unfold handleLockedStackMiddleware
  split
  · split
    · exact Eff.sends_of_nil rfl
    · refine (charges_regularHandler hu).bind fun response _ => ?_
      split
      · refine charges_lockStack.bind fun _ _ => charges_authenticate (fun userId hauth => ?_) fun _ _ hu =>
          charges_regularHandler hu
        exact hsecond metadata.endpoint userId hauth
      · exact charges_retryOnStack hu
      · exact Eff.sends_of_nil rfl
  · exact Eff.sends_of_nil rfl

end Charges

/-! ## The checks -/

/-- What the check of that name is answered with, where this is it. -/
def HandledTokenEvent.replyTo (request : Nat) : HandledTokenEvent → Option (Except StatementError Int64)
  | .authenticated check _ userId => if check = request then .some (.ok userId) else .none
  | .failed (.isApiTokenValid check _) e => if check = request then .some (.error e) else .none
  | _ => .none

/-- What the check of that name was answered with. -/
def TokenServer.replyTo (s : TokenServer) (request : Nat) : Option (Except StatementError Int64) :=
  s.handled.findSome? (HandledTokenEvent.replyTo request)

/-- A check that was answered with a user was handled so. -/
theorem TokenServer.authenticated_of_replyTo {s : TokenServer} {request : Nat} {userId : Int64}
    (h : s.replyTo request = .some (.ok userId)) : ∃ before apiToken after,
      s.handled = before ++ .authenticated request apiToken userId :: after := by
  obtain ⟨before, handled, after, hall, hreply, _⟩ := List.findSome?_eq_some_iff.1 h
  unfold HandledTokenEvent.replyTo at hreply
  split at hreply
  · next check apiToken user =>
    split at hreply
    · next hcheck =>
      cases hreply
      exact ⟨before, apiToken, after, hcheck ▸ hall⟩
    · cases hreply
  · split at hreply
    · cases hreply
    · cases hreply
  · cases hreply

/-- A check that lets a request in was answered with its user. -/
theorem checkAuth_replied {headers : Headers} {debug : StatementError → String} {endpoint endpoint' : String}
    {reply : Option (Except StatementError Int64)} {userId : Int64}
    (h : checkAuth headers (checkAuthReply debug endpoint reply) endpoint' = .ok userId) :
    reply = .some (.ok userId) := by
  unfold checkAuth at h
  split at h
  · split at h
    · unfold checkAuthReply at h
      split at h
      · cases h
      · cases h
      · cases h
        rfl
    · cases h
  · cases h

/-! ## Main result -/

section

variable {auth : Auth} {c : TokenCrypto} {steps : List TokenServerStep} {s : TokenServer}

/-- The token was stored for the user, by a request of a session of this user's, and since then not revoked: so the
events handled until the check of that name say, which was answered with the user. -/
def HeldAtCheck (auth : Auth) (c : TokenCrypto) (steps : List TokenServerStep) (s : TokenServer) (request : Nat)
    (token : String) (userId : Int64) : Prop :=
  (∃ before after id, s.handled = before ++ .authenticated request token userId :: after ∧
    heldBy token before = .some (id, userId)) ∧
  ∃ now t fails jwt apiToken name claims, .generateApiToken now t fails jwt apiToken name ∈ steps ∧
    auth.getClaimsFromToken c now t fails jwt = .ok claims ∧ claims.userId = userId ∧ cut 255 apiToken = token

/-- A check that was answered with a user was of a token that the user held. -/
theorem heldAtCheck_of_replyTo (hrun : (tokenServerMachine auth c).run .empty steps = .some s) {request : Nat}
    {userId : Int64} (h : s.replyTo request = .some (.ok userId)) : ∃ headers token,
      .checkAuth request headers ∈ steps ∧ bearerToken headers = .some token ∧
        HeldAtCheck auth c steps s request token userId := by
  have hfollows := TokenServer.follows_run hrun
  -- whatever is handled was sent, and so asked for
  have hasked : ∀ handled ∈ s.handled, TokenServer.Authorized auth c steps handled.event := by
    intro handled hmem
    refine TokenServer.authorized_run hrun _ (List.mem_append_left _ ?_)
    rw [← hfollows.received]
    exact List.mem_map_of_mem hmem
  obtain ⟨before, token, after, hall⟩ := TokenServer.authenticated_of_replyTo h
  obtain ⟨headers, hcheck, hbearer⟩ := hasked (.authenticated request token userId) (by rw [hall]; simp)
  obtain ⟨id, hheld⟩ := hfollows.accounted before _ after hall
  refine ⟨headers, token, hcheck, hbearer, ⟨before, after, id, hall, hheld⟩, ?_⟩
  rcases @TokenServer.stored_of_heldBy _ [] _ _ hheld with hnone | ⟨apiToken, name, hstored, htoken⟩
  · cases hnone
  · obtain ⟨now, t, fails, jwt, claims, hmem, hclaims, huser⟩ := hasked (.stored id userId apiToken name) (by
      rw [hall]
      exact List.mem_append_left _ hstored)
    exact ⟨now, t, fails, jwt, apiToken, name, claims, hmem, hclaims, huser, htoken⟩

/-- **Main result.** Whatever token requests, revocations and checks come before and in between, an event of a regular
request that locks or settles a fiat balance is of a user who held the token of the request's headers when one of its
two checks was handled. -/
theorem charged_user_held_token (hrun : (tokenServerMachine auth c).run .empty steps = .some s)
    {calls : ServerCalls} {answers : RequestAnswers} {headers : Headers} {body : Value} {endpoint : String}
    {debug : StatementError → String} {first second : Nat}
    (hchecks : ∀ request headers', request = first ∨ request = second → .checkAuth request headers' ∈ steps →
      headers'.authorization = headers.authorization)
    (hfirst : answers.first.auth.checkAuth = checkAuthReply debug endpoint (s.replyTo first))
    (hsecond : answers.second.auth.checkAuth = checkAuthReply debug endpoint (s.replyTo second))
    {event : StateManagerEvent} (hevent : event ∈ (regularRequest calls answers headers body endpoint).sent)
    {userId : Int64} (hcharged : event.chargedUser = .some userId) : ∃ request token,
      (request = first ∨ request = second) ∧ bearerToken headers = .some token ∧
        HeldAtCheck auth c steps s request token userId := by
  have hheld : ∀ request userId, request = first ∨ request = second → s.replyTo request = .some (.ok userId) →
      ∃ request token, (request = first ∨ request = second) ∧ bearerToken headers = .some token ∧
        HeldAtCheck auth c steps s request token userId := by
    intro request userId hrequest hreply
    obtain ⟨headers', token, hcheck, hbearer, hheld⟩ := heldAtCheck_of_replyTo hrun hreply
    refine ⟨request, token, hrequest, ?_, hheld⟩
    rw [bearerToken, hchecks request headers' hrequest hcheck] at hbearer
    exact hbearer
  refine @charges_regularRequest (fun userId => ∃ request token, (request = first ∨ request = second) ∧
    bearerToken headers = .some token ∧ HeldAtCheck auth c steps s request token userId) _ _ _ _ _ ?_ ?_ event hevent
    userId hcharged
  · intro userId hauth
    rw [hfirst] at hauth
    exact hheld first userId (.inl rfl) (checkAuth_replied hauth)
  · intro metadataEndpoint userId hauth
    rw [hsecond] at hauth
    exact hheld second userId (.inr rfl) (checkAuth_replied hauth)

/-- The answers to a chat whose two checks are answered as the state manager did. -/
def checkedAnswersExample (s : TokenServer) : RequestAnswers :=
  let answered (request : Nat) : PassAnswers :=
    ⟨{ answersExample 1000000 with checkAuth := checkAuthReply (fun _ => "error") chatCompletionsPath (s.replyTo request) },
      .ok true, .ok ⟨"http://node", "signature"⟩⟩
  { failingAnswersExample true with first := answered 0, second := answered 1 }

theorem apiTokensExample_checks (request : Nat) (headers : Headers)
    (h : .checkAuth request headers ∈ apiTokensExample) : headers.authorization = headersExample.authorization := by
  simp only [apiTokensExample, List.mem_cons, List.not_mem_nil, or_false, reduceCtorEq, false_or,
    TokenServerStep.checkAuth.injEq] at h
  rcases h with ⟨_, rfl⟩ | ⟨_, rfl⟩
  · rfl
  · rfl

/-- The chat is charged to the user 7, whose token its first check finds; at the second one it is revoked. -/
theorem charged_user_held_token_example : ∃ s,
    (tokenServerMachine secretAuth tokensOfSeven).run .empty apiTokensExample = .some s ∧
      .lockUserFiatBalance 7 5 8192 ∈ (regularRequest serverCallsExample (checkedAnswersExample s) headersExample
        (bodyExample 8192) chatCompletionsPath).sent ∧
      ∃ request token, (request = 0 ∨ request = 1) ∧ bearerToken headersExample = .some token ∧
        HeldAtCheck secretAuth tokensOfSeven apiTokensExample s request token 7 := by
  have hsome : ((tokenServerMachine secretAuth tokensOfSeven).run .empty apiTokensExample).isSome = true := by decide
  obtain ⟨s, hrun⟩ := Option.isSome_iff_exists.1 hsome
  have hlock : .lockUserFiatBalance 7 5 8192 ∈ (regularRequest serverCallsExample (checkedAnswersExample s) headersExample
      (bodyExample 8192) chatCompletionsPath).sent := by
    have hall : ((tokenServerMachine secretAuth tokensOfSeven).run .empty apiTokensExample).map (fun s =>
        (regularRequest serverCallsExample (checkedAnswersExample s) headersExample (bodyExample 8192)
          chatCompletionsPath).sent.head?) = .some (.some (.lockUserFiatBalance 7 5 8192)) := by decide
    rw [hrun, Option.map_some, Option.some.injEq] at hall
    exact List.mem_of_head? hall
  exact ⟨s, hrun, hlock, charged_user_held_token hrun (fun request headers _ h => apiTokensExample_checks request headers h)
    rfl rfl hlock rfl⟩

end

end AtomaProxy
