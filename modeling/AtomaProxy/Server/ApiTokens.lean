/-
API tokens: the table `api_tokens`, the requests that store and revoke a
token, and the check that each request to the proxy begins with.

The three reach the state manager over one channel, the first two without an
answer. A token is handed out before it is stored, and a revocation is
acknowledged before it is made; since the channel keeps their order, a check
that is sent after either is answered after it.
-/
import AtomaProxy.Auth.Accounts
import AtomaProxy.Base.Channel
import AtomaProxy.Server.Middleware

namespace AtomaProxy

open Base

/-! ## The table -/

/-- A row of `api_tokens`, times in seconds. -/
structure ApiToken where
  id : Int64
  userId : Int64
  token : String
  name : String
  lastUsedTimestamp : Option Int
  createdAt : Int
  deriving DecidableEq, Repr

/-- `SET last_used_timestamp = now()`. -/
def ApiToken.usedAt (now : Int) (row : ApiToken) : ApiToken := { row with lastUsedTimestamp := .some now }

structure ApiTokens where
  rows : List ApiToken
  /-- The last number of the sequence of the ids. -/
  lastId : Nat
  deriving Repr

/-- `RIGHT(token, 4)`. -/
def lastFour (token : String) : String := String.ofList (token.toList.drop (token.length - 4))

namespace ApiTokens

/-- `store_api_token`, with the id of the row. -/
def storeApiToken (t : ApiTokens) (now : Int) (skipped : Nat) (userId : Int64) (apiToken name : String) :
    Except StatementError (ApiTokens × Int64) := do
  let token ← varchar 255 apiToken
  let name ← textArgument name
  let id ← nextval t.lastId skipped
  let row : ApiToken := ⟨Int64.ofNat id, userId, token, name, .none, now⟩
  let rows ← (insertNew (fun r => r.token = token) row t.rows).mapError .sql
  .ok (⟨rows, id⟩, row.id)

def deleteApiToken (t : ApiTokens) (userId apiTokenId : Int64) : ApiTokens :=
  { t with rows := t.rows.filter fun r => ¬(r.userId = userId ∧ r.id = apiTokenId) }

/-- `UPDATE api_tokens … WHERE token = $1 RETURNING user_id`. -/
def isApiTokenValid (t : ApiTokens) (now : Int) (apiToken : String) : Except StatementError (ApiTokens × Int64) := do
  let apiToken ← textArgument apiToken
  match rowOf ApiToken.token apiToken t.rows with
  | .some row =>
    .ok ({ t with rows := updateWhere ApiToken.token apiToken (ApiToken.usedAt now) t.rows }, row.userId)
  | .none => .error (.sql .rowNotFound)

def getApiTokensForUser (t : ApiTokens) (userId : Int64) : List TokenResponse :=
  (t.rows.filter fun r => r.userId = userId).map fun r =>
    ⟨r.id, lastFour r.token, r.lastUsedTimestamp, r.createdAt, r.name⟩

end ApiTokens

/-! ## The requests -/

/-- The token that `check_auth` asks about. -/
def bearerToken (headers : Headers) : Option String := do
  let auth ← headers.authorization.bind headerToStr
  if "Bearer ".toList.isPrefixOf auth.toList then .some (String.ofList (auth.toList.drop 7)) else .none

/-- What `check_auth` makes of the answer, which is `none` where its sender was dropped. -/
def checkAuthReply (debug : StatementError → String) (endpoint : String) :
    Option (Except StatementError Int64) → Except AtomaProxyError Int64
  | .none => .error (.internalError "Failed to receive IsApiTokenValid result: RecvError(())" .none endpoint)
  | .some (.error e) => .error (.authError ("Invalid or missing api token for request: " ++ debug e) endpoint)
  | .some (.ok userId) => .ok userId

/-- The events of these requests; a check comes with what names it. -/
inductive ApiTokenEvent where
  | token (event : TokenEvent)
  | isApiTokenValid (request : Nat) (apiToken : String)
  deriving DecidableEq, Repr

/-- An event that was handled, and what its statement did. -/
inductive HandledTokenEvent where
  | stored (id userId : Int64) (apiToken name : String)
  | revoked (userId apiTokenId : Int64)
  | authenticated (request : Nat) (apiToken : String) (userId : Int64)
  | failed (event : ApiTokenEvent) (e : StatementError)
  /-- an event on the refresh tokens, which are not here -/
  | other (event : TokenEvent)
  deriving DecidableEq, Repr

def HandledTokenEvent.event : HandledTokenEvent → ApiTokenEvent
  | .stored _ userId apiToken name => .token (.storeNewApiToken userId apiToken name)
  | .revoked userId apiTokenId => .token (.revokeApiToken userId apiTokenId)
  | .authenticated request apiToken _ => .isApiTokenValid request apiToken
  | .failed event _ => event
  | .other event => .token event

structure TokenServer where
  tokens : ApiTokens
  events : Channel ApiTokenEvent
  /-- the events handled so far -/
  handled : List HandledTokenEvent

def TokenServer.empty : TokenServer := ⟨⟨[], 0⟩, .fresh, []⟩

/-- A request, with the refresh tokens as they are at its check, and whether that check fails; and the state manager. -/
inductive TokenServerStep where
  | generateApiToken (now : Nat) (t : RefreshTokens) (fails : Bool) (jwt apiToken name : String)
  | revokeApiToken (now : Nat) (t : RefreshTokens) (fails : Bool) (jwt : String) (apiTokenId : Int64)
  | checkAuth (request : Nat) (headers : Headers)
  | handleEvent (now : Int) (skipped : Nat) (fails : Bool)

namespace TokenServer

/-- The state manager's statement for an event, and what it did. -/
def handleTokenEvent (t : ApiTokens) (now : Int) (skipped : Nat) (fails : Bool) (event : ApiTokenEvent) :
    ApiTokens × HandledTokenEvent :=
  if fails then (t, .failed event (.sql .unavailable))
  else match event with
  | .token (.storeNewApiToken userId apiToken name) =>
    match t.storeApiToken now skipped userId apiToken name with
    | .ok (t', id) => (t', .stored id userId apiToken name)
    | .error e => (t, .failed event e)
  | .token (.revokeApiToken userId apiTokenId) =>
    (t.deleteApiToken userId apiTokenId, .revoked userId apiTokenId)
  | .token (.storeRefreshToken userId refreshTokenHash) => (t, .other (.storeRefreshToken userId refreshTokenHash))
  | .isApiTokenValid request apiToken =>
    match t.isApiTokenValid now apiToken with
    | .ok (t', userId) => (t', .authenticated request apiToken userId)
    | .error e => (t, .failed event e)

/-- Events are sent, the channel being open. -/
def sendAll (s : TokenServer) (events : List ApiTokenEvent) : TokenServer :=
  { s with events := events.foldl (fun channel event => (channel.send event).getD channel) s.events }

def step (auth : Auth) (c : TokenCrypto) (s : TokenServer) : TokenServerStep → Option TokenServer
  | .generateApiToken now t fails jwt apiToken name =>
    .some (s.sendAll ((auth.generateApiToken c now t fails jwt apiToken name).sent.map .token))
  | .revokeApiToken now t fails jwt apiTokenId =>
    .some (s.sendAll ((auth.revokeApiToken c now t fails jwt apiTokenId).sent.map .token))
  | .checkAuth request headers =>
    .some (s.sendAll ((bearerToken headers).toList.map (.isApiTokenValid request)))
  | .handleEvent now skipped fails =>
    s.events.recv.map fun (event, events) =>
      let (tokens, handled) := handleTokenEvent s.tokens now skipped fails event
      ⟨tokens, events, s.handled ++ [handled]⟩

end TokenServer

def tokenServerMachine (auth : Auth) (c : TokenCrypto) : Machine TokenServer TokenServerStep :=
  ⟨TokenServer.step auth c⟩

/-! ## What the events handled say -/

/-- The id and the user of a token, after an event that was handled; the column is a `VARCHAR(255)`. -/
def heldAfter (apiToken : String) (held : Option (Int64 × Int64)) : HandledTokenEvent → Option (Int64 × Int64)
  | .stored id userId token _ => if cut 255 token = apiToken then .some (id, userId) else held
  | .revoked userId id => if held = .some (id, userId) then .none else held
  | _ => held

/-- The id and the user of a token: it was stored so, and not revoked by the user since. -/
def heldBy (apiToken : String) (handled : List HandledTokenEvent) : Option (Int64 × Int64) :=
  handled.foldl (heldAfter apiToken) .none

theorem heldBy_concat (apiToken : String) (handled : List HandledTokenEvent) (h : HandledTokenEvent) :
    heldBy apiToken (handled ++ [h]) = heldAfter apiToken (heldBy apiToken handled) h := by
  rw [heldBy, List.foldl_append]
  rfl

/-- What the events before one say of it. -/
def HandledTokenEvent.AccountedFor (before : List HandledTokenEvent) : HandledTokenEvent → Prop
  | .stored id _ apiToken _ => heldBy (cut 255 apiToken) before = .none ∧
      ∀ id' userId token name, .stored id' userId token name ∈ before → id' ≠ id
  | .authenticated _ apiToken userId => ∃ id, heldBy apiToken before = .some (id, userId)
  | .failed (.isApiTokenValid _ apiToken) e => e = .sql .unavailable ∨ heldBy apiToken before = .none
  | _ => True

/-! ## The table follows the events -/

def ApiToken.holder (row : ApiToken) : Int64 × Int64 := (row.id, row.userId)

namespace ApiTokens

variable {t t' : ApiTokens} {handled : List HandledTokenEvent} {now : Int} {skipped : Nat} {userId : Int64}
variable {apiToken name : String}

/-- The rows are the tokens held, under ids that no token had. -/
structure Follows (t : ApiTokens) (handled : List HandledTokenEvent) : Prop where
  ids : Keyed ApiToken.id t.rows
  tokens : Keyed ApiToken.token t.rows
  clean : ∀ row ∈ t.rows, textArgument row.token = .ok row.token
  below : ∀ row ∈ t.rows, row.id.toInt ≤ t.lastId
  belowStored : ∀ (id userId : Int64) (apiToken name : String),
    .stored id userId apiToken name ∈ handled → id.toInt ≤ (t.lastId : Int)
  held : ∀ apiToken, (rowOf ApiToken.token apiToken t.rows).map ApiToken.holder = heldBy apiToken handled

theorem storeApiToken_ok {id : Int64} (h : t.storeApiToken now skipped userId apiToken name = .ok (t', id)) :
    t'.rows = t.rows ++ [⟨id, userId, cut 255 apiToken, name, .none, now⟩] ∧
      rowOf ApiToken.token (cut 255 apiToken) t.rows = .none ∧ textArgument (cut 255 apiToken) = .ok (cut 255 apiToken) ∧
      t.lastId < t'.lastId ∧ id.toInt = t'.lastId := by
  obtain ⟨token, htoken, h₁⟩ := ok_bind_iff.1 h
  obtain ⟨text, htext, h₂⟩ := ok_bind_iff.1 h₁
  obtain ⟨last, hlast, h₃⟩ := ok_bind_iff.1 h₂
  obtain ⟨rows, hrows, hok⟩ := ok_bind_iff.1 h₃
  obtain ⟨rfl, hclean⟩ := varchar_ok htoken
  obtain rfl := (textArgument_ok.1 htext).2
  obtain ⟨hlater, hbound⟩ := nextval_ok hlast
  obtain ⟨hclash, rfl⟩ := insertNew_ok.1 (mapError_eq_ok.1 hrows)
  cases hok
  refine ⟨rfl, rowOf_eq_none.2 fun r hr => of_decide_eq_false (hclash r hr), hclean, hlater, ?_⟩
  exact Int64.toInt_ofNat_of_lt hbound

theorem isApiTokenValid_ok (h : t.isApiTokenValid now apiToken = .ok (t', userId)) :
    ∃ row, rowOf ApiToken.token apiToken t.rows = .some row ∧ row.userId = userId ∧
      t' = ⟨updateWhere ApiToken.token apiToken (ApiToken.usedAt now) t.rows, t.lastId⟩ := by
  obtain ⟨text, htext, hok⟩ := ok_bind_iff.1 h
  obtain rfl := (textArgument_ok.1 htext).2
  split at hok
  · next row hrow =>
    cases hok
    exact ⟨row, hrow, rfl, rfl⟩
  · cases hok

/-- A check that its statement refuses is of a token that there is not. -/
theorem isApiTokenValid_error {e : StatementError} (hclean : ∀ row ∈ t.rows, textArgument row.token = .ok row.token)
    (h : t.isApiTokenValid now apiToken = .error e) : rowOf ApiToken.token apiToken t.rows = .none := by
  cases hrow : rowOf ApiToken.token apiToken t.rows with
  | none => rfl
  | some row =>
    have htext := hclean row (mem_of_rowOf hrow)
    rw [key_of_rowOf hrow] at htext
    have hok : t.isApiTokenValid now apiToken = .ok (_, row.userId) :=
      ok_bind_iff.2 ⟨apiToken, htext, by rw [hrow]⟩
    rw [hok] at h
    cases h

theorem follows_empty : (⟨[], 0⟩ : ApiTokens).Follows [] :=
  ⟨List.nodup_nil, List.nodup_nil, nofun, nofun, nofun, fun _ => rfl⟩

/-- An event that holds and frees no token. -/
theorem Follows.of_held (h : t.Follows handled) {e : HandledTokenEvent}
    (he : ∀ apiToken held, heldAfter apiToken held e = held)
    (hstored : ∀ id userId apiToken name, e ≠ .stored id userId apiToken name) : t.Follows (handled ++ [e]) where
  ids := h.ids
  tokens := h.tokens
  clean := h.clean
  below := h.below
  belowStored id userId apiToken name hmem := by
    rcases List.mem_append.1 hmem with hmem | hmem
    · exact h.belowStored id userId apiToken name hmem
    · exact absurd (List.mem_singleton.1 hmem).symm (hstored id userId apiToken name)
  held apiToken := by
    rw [heldBy_concat, he]
    exact h.held apiToken

theorem Follows.store (h : t.Follows handled) {id : Int64}
    (hstore : t.storeApiToken now skipped userId apiToken name = .ok (t', id)) :
    t'.Follows (handled ++ [.stored id userId apiToken name]) ∧
      (HandledTokenEvent.stored id userId apiToken name).AccountedFor handled := by
  obtain ⟨hrows, hfree, hclean, hlater, hid⟩ := storeApiToken_ok hstore
  have hfresh : ∀ r ∈ t.rows, r.id ≠ id := by
    intro r hr hsame
    have := h.below r hr
    rw [hsame, hid] at this
    omega
  refine ⟨⟨?_, ?_, ?_, ?_, ?_, fun token => ?_⟩, ?_, ?_⟩
  · rw [hrows]
    exact h.ids.append (rowOf_eq_none.2 hfresh)
  · rw [hrows]
    exact h.tokens.append hfree
  · intro row hrow
    rw [hrows] at hrow
    rcases List.mem_append.1 hrow with hrow | hrow
    · exact h.clean row hrow
    · rw [List.mem_singleton.1 hrow]
      exact hclean
  · intro row hrow
    rw [hrows] at hrow
    rcases List.mem_append.1 hrow with hrow | hrow
    · have := h.below row hrow
      omega
    · rw [List.mem_singleton.1 hrow]
      exact hid.le
  · intro id' userId' apiToken' name' hmem
    rcases List.mem_append.1 hmem with hmem | hmem
    · have := h.belowStored id' userId' apiToken' name' hmem
      omega
    · cases List.mem_singleton.1 hmem
      exact hid.le
  · rw [hrows, heldBy_concat, rowOf_append hfree, ← h.held token, heldAfter]
    by_cases htoken : cut 255 apiToken = token
    · rw [if_pos htoken.symm, if_pos htoken]
      rfl
    · rw [if_neg fun hk => htoken hk.symm, if_neg htoken]
  · rw [← h.held, hfree]
    rfl
  · intro id' userId' apiToken' name' hmem hsame
    have := h.belowStored id' userId' apiToken' name' hmem
    rw [hsame, hid] at this
    omega

theorem Follows.revoke (h : t.Follows handled) (apiTokenId : Int64) :
    (t.deleteApiToken userId apiTokenId).Follows (handled ++ [.revoked userId apiTokenId]) where
  ids := h.ids.filter _
  tokens := h.tokens.filter _
  clean row hrow := h.clean row (List.mem_of_mem_filter hrow)
  below row hrow := h.below row (List.mem_of_mem_filter hrow)
  belowStored id userId' apiToken name hmem := by
    rcases List.mem_append.1 hmem with hmem | hmem
    · exact h.belowStored id userId' apiToken name hmem
    · cases List.mem_singleton.1 hmem
  held apiToken := by
    rw [heldBy_concat, deleteApiToken, h.tokens.rowOf_filter, ← h.held, heldAfter]
    cases rowOf ApiToken.token apiToken t.rows with
    | none => rfl
    | some row =>
      rw [Option.filter_some, Option.map_some, ApiToken.holder]
      by_cases hrow : row.userId = userId ∧ row.id = apiTokenId
      · rw [if_neg (by simp [hrow]), if_pos (by rw [hrow.1, hrow.2])]
        rfl
      · rw [if_pos (decide_eq_true hrow), if_neg fun hsame => hrow ?_]
        · rfl
        · obtain ⟨hid, huser⟩ := Prod.mk.inj (Option.some.inj hsame)
          exact ⟨huser, hid⟩

/-- A use of a token is written into its row. -/
theorem Follows.used (h : t.Follows handled) (now : Int) (apiToken : String) :
    ApiTokens.Follows ⟨updateWhere ApiToken.token apiToken (ApiToken.usedAt now) t.rows, t.lastId⟩ handled where
  ids := by
    rw [Keyed, map_updateWhere (f := ApiToken.usedAt now) fun _ => rfl]
    exact h.ids
  tokens := h.tokens.updateWhere (f := ApiToken.usedAt now) (fun _ => rfl) _
  clean row hrow := by
    obtain ⟨row', hrow', heq⟩ := List.mem_map.1 hrow
    have htoken : row.token = row'.token := by
      rw [← heq]
      split
      · rfl
      · rfl
    rw [htoken]
    exact h.clean row' hrow'
  below row hrow := by
    obtain ⟨row', hrow', heq⟩ := List.mem_map.1 hrow
    have hid : row.id = row'.id := by
      rw [← heq]
      split
      · rfl
      · rfl
    rw [hid]
    exact h.below row' hrow'
  belowStored := h.belowStored
  held token := by
    rw [← h.held, rowOf_updateWhere (f := ApiToken.usedAt now) fun _ => rfl]
    split
    · rw [Option.map_map]
      rfl
    · rfl

theorem Follows.check (h : t.Follows handled) (request : Nat)
    (hcheck : t.isApiTokenValid now apiToken = .ok (t', userId)) :
    t'.Follows (handled ++ [.authenticated request apiToken userId]) ∧
      (HandledTokenEvent.authenticated request apiToken userId).AccountedFor handled := by
  obtain ⟨row, hrow, huser, rfl⟩ := isApiTokenValid_ok hcheck
  refine ⟨(h.used now apiToken).of_held (fun _ _ => rfl) (fun _ _ _ _ => HandledTokenEvent.noConfusion), row.id, ?_⟩
  rw [← h.held, hrow, ← huser]
  rfl

end ApiTokens

/-! ## Runs -/

namespace TokenServer

/-- **Step lemma**, of the state manager. -/
theorem follows_handle {t : ApiTokens} {handled : List HandledTokenEvent} (h : t.Follows handled) (now : Int)
    (skipped : Nat) (fails : Bool) (event : ApiTokenEvent) :
    (handleTokenEvent t now skipped fails event).1.Follows
        (handled ++ [(handleTokenEvent t now skipped fails event).2]) ∧
      (handleTokenEvent t now skipped fails event).2.AccountedFor handled ∧
      (handleTokenEvent t now skipped fails event).2.event = event := by
  have hfailed : ∀ e, t.Follows (handled ++ [.failed event e]) := fun e =>
    h.of_held (fun _ _ => rfl) fun _ _ _ _ => HandledTokenEvent.noConfusion
  unfold handleTokenEvent
  split
  · refine ⟨hfailed _, ?_, rfl⟩
    cases event with
    | token event => trivial
    | isApiTokenValid request apiToken => exact .inl rfl
  · split
    · next userId apiToken name =>
      split
      · next t' id hstore =>
        obtain ⟨hfollows, haccounted⟩ := h.store hstore
        exact ⟨hfollows, haccounted, rfl⟩
      · exact ⟨hfailed _, trivial, rfl⟩
    · next userId apiTokenId => exact ⟨h.revoke apiTokenId, trivial, rfl⟩
    · exact ⟨h.of_held (fun _ _ => rfl) fun _ _ _ _ => HandledTokenEvent.noConfusion, trivial, rfl⟩
    · next request apiToken =>
      split
      · next t' userId hcheck =>
        obtain ⟨hfollows, haccounted⟩ := h.check request hcheck
        exact ⟨hfollows, haccounted, rfl⟩
      · next e herror =>
        refine ⟨hfailed _, .inr ?_, rfl⟩
        rw [← h.held, ApiTokens.isApiTokenValid_error h.clean herror]
        rfl

variable {auth : Auth} {c : TokenCrypto} {s s' : TokenServer}

/-- The table is as the events handled say, each of them is accounted for, and they are those received. -/
structure Follows (s : TokenServer) : Prop where
  table : s.tokens.Follows s.handled
  accounted : Justified (fun before h => h.AccountedFor before) s.handled
  received : s.handled.map HandledTokenEvent.event = s.events.received

/-- Sending leaves what was received, and adds what was sent. -/
theorem foldl_send (events : List ApiTokenEvent) (channel : Channel ApiTokenEvent) :
    (events.foldl (fun channel event => (channel.send event).getD channel) channel).received = channel.received ∧
      ∀ event ∈ (events.foldl (fun channel event => (channel.send event).getD channel) channel).sent,
        event ∈ channel.sent ∨ event ∈ events := by
  induction events generalizing channel with
  | nil => exact ⟨rfl, fun event h => .inl h⟩
  | cons event events ih =>
    rw [List.foldl_cons]
    obtain ⟨hreceived, hsent⟩ := ih ((channel.send event).getD channel)
    cases hsend : channel.send event with
    | none =>
      rw [hsend, Option.getD_none] at hreceived hsent
      refine ⟨hreceived, fun event' hevent' => (hsent event' hevent').imp_right (List.mem_cons_of_mem _)⟩
    | some channel' =>
      rw [hsend, Option.getD_some] at hreceived hsent
      obtain ⟨hsent', hreceived'⟩ := Channel.send_some hsend
      refine ⟨hreceived.trans hreceived', fun event' hevent' => ?_⟩
      rcases hsent event' hevent' with hevent' | hevent'
      · rw [hsent', List.mem_append, List.mem_singleton] at hevent'
        rcases hevent' with hevent' | rfl
        · exact .inl hevent'
        · exact .inr List.mem_cons_self
      · exact .inr (List.mem_cons_of_mem _ hevent')

theorem Follows.sendAll (h : s.Follows) (events : List ApiTokenEvent) : (s.sendAll events).Follows where
  table := h.table
  accounted := h.accounted
  received := h.received.trans (foldl_send events s.events).1.symm

/-- **Step lemma.** -/
theorem Follows.step {step : TokenServerStep} (h : s.Follows) (hstep : s.step auth c step = .some s') : s'.Follows := by
  cases step with
  | generateApiToken now t fails jwt apiToken name =>
    cases hstep
    exact h.sendAll _
  | revokeApiToken now t fails jwt apiTokenId =>
    cases hstep
    exact h.sendAll _
  | checkAuth request headers =>
    cases hstep
    exact h.sendAll _
  | handleEvent now skipped fails =>
    obtain ⟨⟨event, events⟩, hrecv, hs'⟩ := Option.map_eq_some_iff.1 hstep
    obtain ⟨_, _, hreceived⟩ := Channel.recv_some hrecv
    obtain ⟨htable, haccounted, hevent⟩ := follows_handle h.table now skipped fails event
    rw [← hs']
    refine ⟨htable, h.accounted.concat haccounted, ?_⟩
    rw [List.map_append, h.received, List.map_singleton, hevent]
    exact hreceived.symm

/-- **Run lemma.** -/
theorem follows_run {steps : List TokenServerStep} (hrun : (tokenServerMachine auth c).run .empty steps = .some s) :
    s.Follows :=
  @Machine.run_invariant _ _ (tokenServerMachine auth c) Follows (fun _ _ => True) (fun hi _ hstep => hi.step hstep)
    steps .empty s ⟨ApiTokens.follows_empty, justified_nil, rfl⟩
    (Machine.guarded_of_forall (fun _ _ => trivial) steps TokenServer.empty) hrun

/-- A token that was stored is held under its id exactly as long as no revocation of it by its user was handled: no
other event frees it, and its id is not given again. -/
theorem heldBy_iff_not_revoked {before middle : List HandledTokenEvent} {id userId : Int64} {apiToken name : String}
    (h : Justified (fun before h => h.AccountedFor before)
      (before ++ .stored id userId apiToken name :: middle)) :
    heldBy (cut 255 apiToken) (before ++ .stored id userId apiToken name :: middle) = .some (id, userId) ↔
      .revoked userId id ∉ middle := by
  induction middle using List.reverseRecOn with
  | nil =>
    rw [heldBy_concat, heldAfter, if_pos rfl]
    exact iff_of_true rfl List.not_mem_nil
  | append_singleton middle e ih =>
    rw [← List.cons_append, ← List.append_assoc] at h ⊢
    have haccounted := h _ e [] rfl
    have ih := ih fun before' a after hsplit => h before' a (after ++ [e]) (by rw [hsplit]; simp)
    rw [heldBy_concat, List.mem_append, not_or, ← ih, List.mem_singleton]
    cases e with
    | stored id' userId' apiToken' name' =>
      rw [heldAfter]
      split
      · next hsame =>
        -- the token was free, and the id is another
        obtain ⟨hfree, hother⟩ := haccounted
        rw [hsame] at hfree
        rw [hfree]
        refine iff_of_false (fun hid => ?_) fun hheld => nomatch hheld.1
        refine hother id userId apiToken name (by simp) ?_
        exact (Prod.mk.inj (Option.some.inj hid)).1.symm
      · exact (and_iff_left HandledTokenEvent.noConfusion).symm
    | revoked userId' id' =>
      rw [heldAfter]
      split
      · next hheld =>
        refine iff_of_false (fun hnone => nomatch hnone) fun hboth => hboth.2 ?_
        obtain ⟨hid, huser⟩ := Prod.mk.inj (Option.some.inj (hheld.symm.trans hboth.1))
        rw [hid, huser]
      · next hnot =>
        refine (and_iff_left_of_imp fun hheld hsame => hnot ?_).symm
        cases hsame
        exact hheld
    | authenticated request apiToken' userId' => exact (and_iff_left HandledTokenEvent.noConfusion).symm
    | failed event e => exact (and_iff_left HandledTokenEvent.noConfusion).symm
    | other event => exact (and_iff_left HandledTokenEvent.noConfusion).symm

/-- Who holds a token at the end of some events held it before them, or it was stored for them among these. -/
theorem stored_of_heldBy {apiToken : String} {before middle : List HandledTokenEvent} {holder : Int64 × Int64}
    (h : heldBy apiToken (before ++ middle) = .some holder) : heldBy apiToken before = .some holder ∨
      ∃ token name, .stored holder.1 holder.2 token name ∈ middle ∧ cut 255 token = apiToken := by
  induction middle using List.reverseRecOn with
  | nil =>
    rw [List.append_nil] at h
    exact .inl h
  | append_singleton middle e ih =>
    have hkeep : heldBy apiToken (before ++ middle) = .some holder → heldBy apiToken before = .some holder ∨
        ∃ token name, .stored holder.1 holder.2 token name ∈ middle ++ [e] ∧ cut 255 token = apiToken := by
      intro hheld
      refine (ih hheld).imp_right fun hstored => ?_
      obtain ⟨token, name, hmem, htoken⟩ := hstored
      exact ⟨token, name, List.mem_append_left _ hmem, htoken⟩
    rw [← List.append_assoc, heldBy_concat] at h
    unfold heldAfter at h
    split at h
    · next id userId token name =>
      split at h
      · next htoken =>
        obtain rfl := Option.some.inj h
        exact .inr ⟨token, name, List.mem_append_right _ List.mem_cons_self, htoken⟩
      · exact hkeep h
    · split at h
      · cases h
      · exact hkeep h
    · exact hkeep h

/-- The event was asked for in the run: a change by a request whose claims `get_claims_from_token` accepted, of the
claims' user. -/
def Authorized (auth : Auth) (c : TokenCrypto) (steps : List TokenServerStep) : ApiTokenEvent → Prop
  | .token (.storeNewApiToken userId apiToken name) => ∃ now t fails jwt claims,
      .generateApiToken now t fails jwt apiToken name ∈ steps ∧
        auth.getClaimsFromToken c now t fails jwt = .ok claims ∧ claims.userId = userId
  | .token (.revokeApiToken userId apiTokenId) => ∃ now t fails jwt claims,
      .revokeApiToken now t fails jwt apiTokenId ∈ steps ∧
        auth.getClaimsFromToken c now t fails jwt = .ok claims ∧ claims.userId = userId
  | .token (.storeRefreshToken ..) => False
  | .isApiTokenValid request apiToken => ∃ headers,
      .checkAuth request headers ∈ steps ∧ bearerToken headers = .some apiToken

theorem Authorized.mono {steps steps' : List TokenServerStep} {event : ApiTokenEvent}
    (h : Authorized auth c steps event) (hsub : steps ⊆ steps') : Authorized auth c steps' event := by
  unfold Authorized at h ⊢
  split at h
  · obtain ⟨now, t, fails, jwt, claims, hmem, hclaims⟩ := h
    exact ⟨now, t, fails, jwt, claims, hsub hmem, hclaims⟩
  · obtain ⟨now, t, fails, jwt, claims, hmem, hclaims⟩ := h
    exact ⟨now, t, fails, jwt, claims, hsub hmem, hclaims⟩
  · exact h
  · obtain ⟨headers, hmem, htoken⟩ := h
    exact ⟨headers, hsub hmem, htoken⟩

theorem sends_generateApiToken (now : Nat) (t : RefreshTokens) (fails : Bool) (jwt apiToken name : String) :
    (auth.generateApiToken c now t fails jwt apiToken name).Sends fun event => ∃ claims,
      auth.getClaimsFromToken c now t fails jwt = .ok claims ∧
        event = .storeNewApiToken claims.userId apiToken name := by
  refine Eff.Sends.bind (Eff.sends_of_nil rfl) fun claims hclaims => ?_
  exact Eff.Sends.bind (Eff.sends_send ⟨claims, hclaims, rfl⟩) fun _ _ => Eff.sends_of_nil rfl

theorem sends_revokeApiToken (now : Nat) (t : RefreshTokens) (fails : Bool) (jwt : String) (apiTokenId : Int64) :
    (auth.revokeApiToken c now t fails jwt apiTokenId).Sends fun event => ∃ claims,
      auth.getClaimsFromToken c now t fails jwt = .ok claims ∧ event = .revokeApiToken claims.userId apiTokenId :=
  Eff.Sends.bind (Eff.sends_of_nil rfl) fun claims hclaims => Eff.sends_send ⟨claims, hclaims, rfl⟩

theorem authorized_send {steps : List TokenServerStep} (h : ∀ event ∈ s.events.sent, Authorized auth c steps event)
    {step : TokenServerStep} {events : List ApiTokenEvent}
    (hevents : ∀ event ∈ events, Authorized auth c (steps ++ [step]) event) :
    ∀ event ∈ (s.sendAll events).events.sent, Authorized auth c (steps ++ [step]) event := by
  intro event hevent
  rcases (foldl_send events s.events).2 event hevent with hevent | hevent
  · exact (h event hevent).mono (List.subset_append_left _ _)
  · exact hevents event hevent

theorem authorized_step {steps : List TokenServerStep} (h : ∀ event ∈ s.events.sent, Authorized auth c steps event)
    {step : TokenServerStep} (hstep : s.step auth c step = .some s') :
    ∀ event ∈ s'.events.sent, Authorized auth c (steps ++ [step]) event := by
  have hlast : ∀ {step : TokenServerStep}, step ∈ steps ++ [step] := List.mem_append_right _ List.mem_cons_self
  cases step with
  | generateApiToken now t fails jwt apiToken name =>
    cases hstep
    refine authorized_send h fun event hevent => ?_
    obtain ⟨event, hsent, rfl⟩ := List.mem_map.1 hevent
    obtain ⟨claims, hclaims, rfl⟩ := sends_generateApiToken now t fails jwt apiToken name event hsent
    exact ⟨now, t, fails, jwt, claims, hlast, hclaims, rfl⟩
  | revokeApiToken now t fails jwt apiTokenId =>
    cases hstep
    refine authorized_send h fun event hevent => ?_
    obtain ⟨event, hsent, rfl⟩ := List.mem_map.1 hevent
    obtain ⟨claims, hclaims, rfl⟩ := sends_revokeApiToken now t fails jwt apiTokenId event hsent
    exact ⟨now, t, fails, jwt, claims, hlast, hclaims, rfl⟩
  | checkAuth request headers =>
    cases hstep
    refine authorized_send h fun event hevent => ?_
    obtain ⟨apiToken, htoken, rfl⟩ := List.mem_map.1 hevent
    exact ⟨headers, hlast, Option.mem_toList.1 htoken⟩
  | handleEvent now skipped fails =>
    obtain ⟨⟨event, events⟩, hrecv, hs'⟩ := Option.map_eq_some_iff.1 hstep
    obtain ⟨_, hsent, _⟩ := Channel.recv_some hrecv
    rw [← hs']
    intro event' hevent'
    rw [show events.sent = s.events.sent from hsent] at hevent'
    exact (h event' hevent').mono (List.subset_append_left _ _)

theorem authorized_run {steps : List TokenServerStep} (hrun : (tokenServerMachine auth c).run .empty steps = .some s) :
    ∀ event ∈ s.events.sent, Authorized auth c steps event :=
  @Machine.run_history _ _ (tokenServerMachine auth c)
    (fun steps s => ∀ event ∈ s.events.sent, Authorized auth c steps event) (fun h hstep => authorized_step h hstep) steps [] TokenServer.empty s nofun hrun

end TokenServer

/-! ## Main results -/

section

variable {auth : Auth} {c : TokenCrypto} {steps : List TokenServerStep} {s : TokenServer}

/-- **Main result.** After any run, the events are handled in the order they were sent; each check of a token is
answered with the user of whom it is held by the events before it, or finds it held by none where the database does
not fail; and the tokens listed for a user are those that are held by the user. -/
theorem api_tokens_follow_events (hrun : (tokenServerMachine auth c).run .empty steps = .some s) :
    s.handled.map HandledTokenEvent.event <+: s.events.sent ∧
      Justified (fun before h => h.AccountedFor before) s.handled ∧
        ∀ userId id, (∃ response ∈ s.tokens.getApiTokensForUser userId, response.id = id) ↔
          ∃ apiToken, heldBy apiToken s.handled = .some (id, userId) := by
  have h := TokenServer.follows_run hrun
  refine ⟨?_, h.accounted, fun userId id => ?_⟩
  · rw [h.received]
    exact List.prefix_append _ _
  · constructor
    · intro hlisted
      obtain ⟨response, hresponse, hid⟩ := hlisted
      obtain ⟨row, hrow, rfl⟩ := List.mem_map.1 hresponse
      obtain ⟨hmem, huser⟩ := List.mem_filter.1 hrow
      refine ⟨row.token, ?_⟩
      rw [← h.table.held, h.table.tokens.mem_iff.1 hmem, ← hid, ← of_decide_eq_true huser]
      rfl
    · intro hheld
      obtain ⟨apiToken, hheld⟩ := hheld
      rw [← h.table.held] at hheld
      obtain ⟨row, hrow, hholder⟩ := Option.map_eq_some_iff.1 hheld
      obtain ⟨hid, huser⟩ := Prod.mk.inj hholder
      exact ⟨_, List.mem_map_of_mem (List.mem_filter.2 ⟨mem_of_rowOf hrow, decide_eq_true huser⟩), hid⟩

/-- **Main result.** In any run, a check that comes after a token was stored is answered with the token's user, as long
as no revocation of it by this user was handled in between and the database does not fail; and once one was, no check
is answered with the token unless it was stored anew. -/
theorem token_good_until_revoked (hrun : (tokenServerMachine auth c).run .empty steps = .some s)
    {before middle after : List HandledTokenEvent} {id userId : Int64} {apiToken name : String}
    {check : HandledTokenEvent} {request : Nat}
    (hhandled : s.handled = before ++ .stored id userId apiToken name :: middle ++ check :: after)
    (hcheck : check.event = .isApiTokenValid request (cut 255 apiToken)) :
    (.revoked userId id ∉ middle → check = .authenticated request (cut 255 apiToken) userId ∨
      check = .failed (.isApiTokenValid request (cut 255 apiToken)) (.sql .unavailable)) ∧
    (.revoked userId id ∈ middle → ∀ user, check = .authenticated request (cut 255 apiToken) user →
      ∃ id' token name', .stored id' user token name' ∈ middle ∧ id' ≠ id ∧ cut 255 token = cut 255 apiToken) := by
  have haccounted := (TokenServer.follows_run hrun).accounted
  have hcheckAccounted := haccounted _ check after hhandled
  have hbefore : Justified (fun before h => h.AccountedFor before)
      (before ++ .stored id userId apiToken name :: middle) := by
    intro before' e after' hsplit
    refine haccounted before' e (after' ++ check :: after) ?_
    rw [hhandled, hsplit, List.append_assoc, List.cons_append]
  have hheld := TokenServer.heldBy_iff_not_revoked hbefore
  constructor
  · intro hnot
    rw [← hheld] at hnot
    cases check with
    | authenticated request' apiToken' user =>
      cases hcheck
      obtain ⟨id', hid'⟩ := hcheckAccounted
      rw [hnot] at hid'
      cases hid'
      exact .inl rfl
    | failed event e =>
      cases hcheck
      rcases hcheckAccounted with rfl | hnone
      · exact .inr rfl
      · rw [hnot] at hnone
        cases hnone
    | stored id' userId' apiToken' name' => cases hcheck
    | revoked userId' id' => cases hcheck
    | other event => cases hcheck
  · intro hrevoked user hcheck
    rw [hcheck] at hcheckAccounted
    obtain ⟨id', hid'⟩ := hcheckAccounted
    rw [List.append_cons] at hid'
    rcases TokenServer.stored_of_heldBy hid' with hfirst | ⟨token, name', hmem, htoken⟩
    · rw [heldBy_concat, heldAfter, if_pos rfl] at hfirst
      rw [← List.append_cons, ← hfirst] at hid'
      exact absurd hrevoked (hheld.1 hid')
    · obtain ⟨first, rest, hmiddle⟩ := List.append_of_mem hmem
      refine ⟨id', token, name', hmem, fun hid => ?_, htoken⟩
      have hstored := hbefore (before ++ .stored id userId apiToken name :: first) (.stored id' user token name') rest
        (by rw [hmiddle, List.append_assoc, List.cons_append])
      exact hstored.2 id userId apiToken name (by simp) hid.symm

/-- **Main result.** In any run, whatever is stored, revoked or checked was asked for: a token is stored, and revoked,
only for the user of an access token that was valid and not revoked when it was asked for. -/
theorem token_events_authorized (hrun : (tokenServerMachine auth c).run .empty steps = .some s) :
    ∀ h ∈ s.handled, TokenServer.Authorized auth c steps h.event := by
  intro h hmem
  refine TokenServer.authorized_run hrun h.event ?_
  have hreceived := List.mem_map_of_mem (f := HandledTokenEvent.event) hmem
  rw [(TokenServer.follows_run hrun).received] at hreceived
  exact List.mem_append_left _ hreceived

/-- Access tokens of the user 7. -/
def tokensOfSeven : TokenCrypto where
  encode _ _ := "jwt"
  decode _ token := if token = "jwt" then .ok ⟨7, 1000, .some "hash"⟩ else .error "InvalidToken"
  hash := id

def secretAuth : Auth := ⟨"secret", 1, 1⟩

/-- The row of the refresh token. -/
def rowOfSeven : RefreshTokens := Function.update (fun _ => .none) "hash" (.some 7)

/-- A token is handed out, checked before it is stored, revoked, and checked again. -/
def apiTokensExample : List TokenServerStep :=
  [.generateApiToken 10 rowOfSeven false "jwt" "token" "name",
    .checkAuth 0 ⟨.some "Bearer token", .none, .none⟩, .handleEvent 11 0 false,
    .revokeApiToken 12 rowOfSeven false "jwt" 1, .checkAuth 1 ⟨.some "Bearer token", .none, .none⟩,
    .handleEvent 13 0 false, .handleEvent 14 0 false, .handleEvent 15 0 false]

theorem api_tokens_follow_events_example : ∃ s,
    (tokenServerMachine secretAuth tokensOfSeven).run .empty apiTokensExample = .some s ∧
      s.handled.map HandledTokenEvent.event <+: s.events.sent :=
  ⟨_, rfl, (@api_tokens_follow_events secretAuth tokensOfSeven apiTokensExample _ rfl).1⟩

theorem token_good_until_revoked_example : ∃ s check,
    (tokenServerMachine secretAuth tokensOfSeven).run .empty apiTokensExample = .some s ∧
      s.handled[1]? = .some check ∧ (check = .authenticated 0 (cut 255 "token") 7 ∨
        check = .failed (.isApiTokenValid 0 (cut 255 "token")) (.sql .unavailable)) :=
  ⟨_, _, rfl, rfl, (@token_good_until_revoked secretAuth tokensOfSeven apiTokensExample _ rfl [] [] _ 1 7 "token" "name"
    _ 0 rfl rfl).1 List.not_mem_nil⟩

theorem token_events_authorized_example : ∃ s,
    (tokenServerMachine secretAuth tokensOfSeven).run .empty apiTokensExample = .some s ∧
      ∀ h ∈ s.handled, TokenServer.Authorized secretAuth tokensOfSeven apiTokensExample h.event :=
  ⟨_, rfl, @token_events_authorized secretAuth tokensOfSeven apiTokensExample _ rfl⟩

end

end AtomaProxy
