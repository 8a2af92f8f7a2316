/-
The runs of the sessions: logins, access tokens, revocations and operations,
with the clock between them; and which operations go on with a token whose
session has ended.

Nothing looks at a refresh token's expiry once an access token is derived from
it, and three operations do not look at the store. So an access token outlives
its session until it expires itself, which it does after days and not minutes.
-/
import AtomaProxy.Auth.Sessions
import AtomaProxy.Base.Machine

namespace AtomaProxy

open Base

/-- A login that issued its refresh token, and whether its hash was stored. -/
structure Login where
  userId : Int64
  second : Nat
  token : String
  stored : Bool
  deriving DecidableEq, Repr

/-- An access token, the refresh token it is derived from, and the claims and the expiry of the two. -/
structure DerivedToken where
  accessToken : String
  claims : Claims
  refreshToken : String
  refreshExp : UInt64
  deriving DecidableEq, Repr

/-- The clock, the access tokens derived, and the users and hashes whose rows were revoked. -/
structure SessionLedger where
  now : Nat
  derived : List DerivedToken
  revoked : List (Int64 × String)

/-- An operation whose check accepted its token, and the ledger there was then. -/
structure Acceptance where
  op : AuthOperation
  jwt : String
  ledger : SessionLedger

structure SessionState where
  refreshTokens : RefreshTokens
  ledger : SessionLedger
  /-- the logins, latest first -/
  logins : List Login
  /-- those that were handed their tokens -/
  sessions : List Login
  accepted : List Acceptance

def SessionState.start (now : Nat) : SessionState := ⟨fun _ => .none, ⟨now, [], []⟩, [], [], []⟩

/-- What can happen. A statement that the database does not answer `fails`. -/
inductive SessionEvent where
  /-- `register`, `check_user_password` or `check_google_id_token`, which have found the user -/
  | login (userId : Int64) (storeFails checkFails : Bool)
  | generateAccessToken (refreshToken : String) (fails : Bool)
  | revokeRefreshToken (userId : Int64) (refreshTokenHash : String) (fails : Bool)
  | operation (op : AuthOperation) (jwt : String) (fails : Bool)
  | tick (seconds : Nat)

section

variable (auth : Auth) (c : TokenCrypto)

namespace SessionState

variable (s : SessionState)

/-- What `generate_access_token` derives. -/
def derive? (refreshToken : String) (fails : Bool) : Option DerivedToken :=
  match auth.validateToken c s.ledger.now refreshToken true,
    auth.accessTokenClaims c s.ledger.now s.refreshTokens fails refreshToken with
  | .ok refresh, .ok claims => .some ⟨c.encode auth.secretKey claims, claims, refreshToken, refresh.exp⟩
  | _, _ => .none

def hold (d : DerivedToken) : SessionState := { s with ledger := { s.ledger with derived := d :: s.ledger.derived } }

/-- `StoreRefreshToken` is handled; where it fails, that is logged. -/
def issue (userId : Int64) (refreshTokenHash token : String) (fails : Bool) : SessionState × Login :=
  match answered fails (s.refreshTokens.storeRefreshToken userId refreshTokenHash) with
  | .ok refreshTokens =>
    ({ s with refreshTokens, logins := ⟨userId, s.ledger.now, token, true⟩ :: s.logins },
      ⟨userId, s.ledger.now, token, true⟩)
  | .error _ =>
    ({ s with logins := ⟨userId, s.ledger.now, token, false⟩ :: s.logins }, ⟨userId, s.ledger.now, token, false⟩)

/-- The rest of a login. -/
def handOut (login : Login) (fails : Bool) : SessionState :=
  match s.derive? auth c login.token fails with
  | .some d => { s.hold d with sessions := login :: s.sessions }
  | .none => s

def revoke (userId : Int64) (refreshTokenHash : String) : SessionState :=
  if s.refreshTokens refreshTokenHash = .some userId then
    { s with
      refreshTokens := s.refreshTokens.deleteRefreshToken userId refreshTokenHash
      ledger := { s.ledger with revoked := (userId, refreshTokenHash) :: s.ledger.revoked } }
  else s

end SessionState

def sessionStep (s : SessionState) : SessionEvent → SessionState
  | .login userId storeFails checkFails =>
    match auth.generateRefreshToken c s.ledger.now userId with
    | ⟨[.storeRefreshToken userId refreshTokenHash], .ok token⟩ =>
      let (s, login) := s.issue userId refreshTokenHash token storeFails
      s.handOut auth c login checkFails
    | _ => s
  | .generateAccessToken refreshToken fails =>
    match s.derive? auth c refreshToken fails with
    | .some d => s.hold d
    | .none => s
  | .revokeRefreshToken userId refreshTokenHash fails =>
    if fails then s else s.revoke userId refreshTokenHash
  | .operation op jwt fails =>
    match op.check auth c s.ledger.now s.refreshTokens fails jwt with
    | .ok _ => { s with accepted := ⟨op, jwt, s.ledger⟩ :: s.accepted }
    | _ => s
  | .tick seconds => { s with ledger := { s.ledger with now := s.ledger.now + seconds } }

def sessionMachine : Machine SessionState SessionEvent where
  step s ev := .some (sessionStep auth c s ev)

/-- The refresh token was revoked, or it has expired. -/
def DerivedToken.SessionEnded (ledger : SessionLedger) (d : DerivedToken) : Prop :=
  (d.claims.userId, c.hash d.refreshToken) ∈ ledger.revoked ∨ d.refreshExp.toNat ≤ ledger.now

/-- No operation was accepted with an access token whose session had ended. -/
def SessionState.RefusesEnded (s : SessionState) : Prop :=
  ∀ a ∈ s.accepted, ∀ d ∈ a.ledger.derived, d.accessToken = a.jwt → ¬ d.SessionEnded c a.ledger

/-- The condition: an operation with an access token whose session has ended is one that consults the store, which
does not hold the refresh token's hash or does not answer; or the access token has expired, by more than the leeway. -/
def SessionEvent.Refused (s : SessionState) : SessionEvent → Prop
  | .operation op jwt fails => ∀ d ∈ s.ledger.derived, d.accessToken = jwt → d.SessionEnded c s.ledger →
      (op.consultsStore = true ∧ (fails = true ∨ s.refreshTokens (c.hash d.refreshToken) ≠ .some d.claims.userId)) ∨
        d.claims.exp.toNat + leeway < s.ledger.now
  | _ => True

end

/-! ## What is known of the derived tokens -/

section

variable {auth : Auth} {c : TokenCrypto} {s : SessionState}

variable (auth c) in
/-- The refresh token of a user that expires then. -/
abbrev Auth.refreshToken (userId : Int64) (exp : UInt64) : String := c.encode auth.secretKey ⟨userId, exp, .none⟩

variable (auth c) in
/-- The access token derived from it. -/
abbrev Auth.derivedToken (userId : Int64) (refreshExp accessExp : UInt64) : DerivedToken :=
  let claims : Claims := ⟨userId, accessExp, .some (c.hash (auth.refreshToken c userId refreshExp))⟩
  ⟨c.encode auth.secretKey claims, claims, auth.refreshToken c userId refreshExp, refreshExp⟩

/-- A refresh token that is issued says whose it is and when it expires, and its hash is sent to be stored. -/
theorem Auth.generateRefreshToken_of_ok {now : Nat} {userId : Int64} {exp : UInt64}
    (h : expiration auth.refreshTokenLifetime now = .ok exp) :
    auth.generateRefreshToken c now userId =
      ⟨[.storeRefreshToken userId (c.hash (auth.refreshToken c userId exp))], .ok (auth.refreshToken c userId exp)⟩ := by
  unfold Auth.generateRefreshToken
  rw [h]
  rfl

theorem SessionState.derive?_eq_some {refreshToken : String} {fails : Bool} {d : DerivedToken} :
    s.derive? auth c refreshToken fails = .some d ↔ ∃ refresh claims,
      auth.validateToken c s.ledger.now refreshToken true = .ok refresh ∧
        auth.accessTokenClaims c s.ledger.now s.refreshTokens fails refreshToken = .ok claims ∧
        d = ⟨c.encode auth.secretKey claims, claims, refreshToken, refresh.exp⟩ := by
  unfold derive?
  constructor
  · intro h
    split at h
    · next refresh claims hrefresh hclaims => exact ⟨refresh, claims, hrefresh, hclaims, (Option.some.inj h).symm⟩
    · cases h
  · rintro ⟨refresh, claims, hrefresh, hclaims, rfl⟩
    rw [hrefresh, hclaims]

/-- From a refresh token whose row is there an access token is derived. -/
theorem SessionState.derive?_of_row (hc : c.Lawful) {userId : Int64} {refreshExp accessExp : UInt64}
    (hrow : s.refreshTokens (c.hash (auth.refreshToken c userId refreshExp)) = .some userId)
    (hexp : s.ledger.now ≤ refreshExp.toNat + leeway)
    (haccess : expiration auth.accessTokenLifetime s.ledger.now = .ok accessExp) :
    s.derive? auth c (auth.refreshToken c userId refreshExp) false =
      .some (auth.derivedToken c userId refreshExp accessExp) := by
  have hvalid : auth.validateToken c s.ledger.now (auth.refreshToken c userId refreshExp) true =
      .ok ⟨userId, refreshExp, .none⟩ := Auth.validateToken_eq_ok.2 ⟨hc.decode_encode _ _, hexp, rfl⟩
  exact SessionState.derive?_eq_some.2
    ⟨_, _, hvalid, Auth.accessTokenClaims_eq_ok.2 ⟨_, accessExp, hvalid, rfl, hrow, haccess, rfl⟩, rfl⟩

/-- What is derived is what `generate_access_token` returns. -/
theorem SessionState.generateAccessToken_of_derive {refreshToken : String} {fails : Bool} {d : DerivedToken}
    (h : s.derive? auth c refreshToken fails = .some d) :
    auth.generateAccessToken c s.ledger.now s.refreshTokens fails refreshToken = .ok d.accessToken := by
  obtain ⟨refresh, claims, -, hclaims, rfl⟩ := SessionState.derive?_eq_some.1 h
  rw [Auth.generateAccessToken, hclaims]
  rfl

variable (auth c) in
/-- The access token encodes the claims, the claims carry the refresh token's hash, and the refresh token says whose
it is. -/
structure DerivedToken.Well (d : DerivedToken) : Prop where
  accessToken : d.accessToken = c.encode auth.secretKey d.claims
  hash : d.claims.refreshTokenHash = .some (c.hash d.refreshToken)
  refresh : c.decode auth.secretKey d.refreshToken = .ok ⟨d.claims.userId, d.refreshExp, .none⟩

theorem DerivedToken.Well.of_derive {refreshToken : String} {fails : Bool} {d : DerivedToken}
    (h : s.derive? auth c refreshToken fails = .some d) : d.Well auth c := by
  obtain ⟨refresh, claims, hrefresh, hclaims, rfl⟩ := SessionState.derive?_eq_some.1 h
  obtain ⟨refresh', exp, hrefresh', -, -, -, rfl⟩ := Auth.accessTokenClaims_eq_ok.1 hclaims
  cases hrefresh.symm.trans hrefresh'
  obtain ⟨hdecode, -, hkind⟩ := Auth.validateToken_eq_ok.1 hrefresh
  refine ⟨rfl, rfl, hdecode.trans ?_⟩
  rw [← Option.isNone_iff_eq_none.1 hkind]

/-- A derived token passes a check as long as it has not expired, by more than the leeway, and where the check
consults the store, as long as that holds the refresh token's hash. -/
theorem DerivedToken.Well.check_iff (hc : c.Lawful) {d : DerivedToken} (hd : d.Well auth c) {op : AuthOperation}
    {now : Nat} {t : RefreshTokens} {fails : Bool} :
    (∃ claims, op.check auth c now t fails d.accessToken = .ok claims) ↔ now ≤ d.claims.exp.toNat + leeway ∧
      (op.consultsStore = true → fails = false ∧ t (c.hash d.refreshToken) = .some d.claims.userId) := by
  have hdecode : c.decode auth.secretKey d.accessToken = .ok d.claims := by
    rw [hd.accessToken, hc.decode_encode]
  simp only [AuthOperation.check_eq_ok, Auth.validateToken_eq_ok, hdecode]
  constructor
  · rintro ⟨claims, ⟨hclaims, hexp, -⟩, hstore⟩
    cases hclaims
    refine ⟨hexp, fun hop => ?_⟩
    obtain ⟨hfails, hash, hhash, hrow⟩ := hstore hop
    cases hd.hash.symm.trans hhash
    exact ⟨hfails, hrow⟩
  · rintro ⟨hexp, hstore⟩
    refine ⟨d.claims, ⟨rfl, hexp, ?_⟩, fun hop => ?_⟩
    · rw [hd.hash]
      rfl
    · obtain ⟨hfails, hrow⟩ := hstore hop
      exact ⟨hfails, _, hd.hash, hrow⟩

/-! ## What a step leaves of the ledger and of the acceptances -/

namespace SessionState

variable {userId : Int64} {refreshTokenHash token refreshToken : String} {fails : Bool}

@[simp] theorem issue_ledger : (s.issue userId refreshTokenHash token fails).1.ledger = s.ledger := by
  unfold issue
  split <;> rfl

@[simp] theorem issue_accepted : (s.issue userId refreshTokenHash token fails).1.accepted = s.accepted := by
  unfold issue
  split <;> rfl

@[simp] theorem handOut_accepted (login : Login) : (s.handOut auth c login fails).accepted = s.accepted := by
  unfold handOut
  split <;> rfl

@[simp] theorem revoke_accepted : (s.revoke userId refreshTokenHash).accepted = s.accepted := by
  unfold revoke
  split <;> rfl

@[simp] theorem revoke_derived : (s.revoke userId refreshTokenHash).ledger.derived = s.ledger.derived := by
  unfold revoke
  split <;> rfl

theorem handOut_of_derive {login : Login} {d : DerivedToken} (h : s.derive? auth c login.token fails = .some d) :
    s.handOut auth c login fails = { s.hold d with sessions := login :: s.sessions } := by
  rw [handOut, h]

/-- A row is deleted, and its user and hash are revoked. -/
theorem revoke_of_row (h : s.refreshTokens refreshTokenHash = .some userId) :
    s.revoke userId refreshTokenHash =
      { s with
        refreshTokens := Function.update s.refreshTokens refreshTokenHash .none
        ledger := { s.ledger with revoked := (userId, refreshTokenHash) :: s.ledger.revoked } } := by
  rw [revoke, if_pos h, RefreshTokens.deleteRefreshToken, if_pos h]

theorem mem_handOut {login : Login} {d : DerivedToken} (h : d ∈ (s.handOut auth c login fails).ledger.derived) :
    d ∈ s.ledger.derived ∨ s.derive? auth c login.token fails = .some d := by
  unfold handOut at h
  split at h
  · next d' hd' =>
    rcases List.mem_cons.1 h with rfl | h
    · exact .inr hd'
    · exact .inl h
  · exact .inl h

/-- A hash that has no row is stored. -/
theorem issue_of_free (h : s.refreshTokens refreshTokenHash = .none) :
    s.issue userId refreshTokenHash token false =
      ({ s with
          refreshTokens := Function.update s.refreshTokens refreshTokenHash (.some userId)
          logins := ⟨userId, s.ledger.now, token, true⟩ :: s.logins },
        ⟨userId, s.ledger.now, token, true⟩) := by
  have hinsert : s.refreshTokens.storeRefreshToken userId refreshTokenHash =
      .ok (Function.update s.refreshTokens refreshTokenHash (.some userId)) :=
    query_eq_ok.2 (Table.insertRow_ok.2 ⟨userId, rfl, h, rfl⟩)
  rw [issue, answered_false, hinsert]

/-- A login issues a token and hands it out, or it panics on the token's expiry. -/
theorem step_login (s : SessionState) (userId : Int64) (storeFails checkFails : Bool) :
    sessionStep auth c s (.login userId storeFails checkFails) = s ∨
      ∃ exp, expiration auth.refreshTokenLifetime s.ledger.now = .ok exp ∧
        sessionStep auth c s (.login userId storeFails checkFails) =
          let issued := s.issue userId (c.hash (auth.refreshToken c userId exp)) (auth.refreshToken c userId exp)
            storeFails
          issued.1.handOut auth c issued.2 checkFails := by
  unfold sessionStep
  dsimp only
  cases hexp : expiration auth.refreshTokenLifetime s.ledger.now with
  | ok exp =>
    rw [Auth.generateRefreshToken_of_ok hexp]
    exact .inr ⟨exp, rfl, rfl⟩
  | err e =>
    rw [Auth.generateRefreshToken, hexp]
    exact .inl rfl
  | panic =>
    rw [Auth.generateRefreshToken, hexp]
    exact .inl rfl

/-- Only an operation is accepted. -/
theorem step_accepted {ev : SessionEvent} (h : ∀ op jwt fails, ev ≠ .operation op jwt fails) :
    (sessionStep auth c s ev).accepted = s.accepted := by
  cases ev with
  | login userId storeFails checkFails =>
    rcases @step_login auth c s userId storeFails checkFails with heq | ⟨exp, -, heq⟩
    · rw [heq]
    · rw [heq, handOut_accepted, issue_accepted]
  | generateAccessToken refreshToken fails =>
    unfold sessionStep
    dsimp only
    split <;> rfl
  | revokeRefreshToken userId refreshTokenHash fails =>
    unfold sessionStep
    dsimp only
    split
    · rfl
    · exact revoke_accepted
  | operation op jwt fails => exact absurd rfl (h op jwt fails)
  | tick seconds => rfl

/-- A token is derived in a login or by itself, and of a refresh token that is valid then. -/
theorem step_derived {ev : SessionEvent} (h : ∀ d ∈ s.ledger.derived, d.Well auth c) :
    ∀ d ∈ (sessionStep auth c s ev).ledger.derived, d.Well auth c := by
  intro d hd
  cases ev with
  | login userId storeFails checkFails =>
    rcases @step_login auth c s userId storeFails checkFails with heq | ⟨exp, -, heq⟩
    · exact h d (heq ▸ hd)
    · rw [heq] at hd
      rcases mem_handOut hd with hd | hd
      · rw [issue_ledger] at hd
        exact h d hd
      · exact .of_derive hd
  | generateAccessToken refreshToken fails =>
    unfold sessionStep at hd
    dsimp only at hd
    split at hd
    · next d' hd' =>
      rcases List.mem_cons.1 hd with rfl | hd
      · exact .of_derive hd'
      · exact h d hd
    · exact h d hd
  | revokeRefreshToken userId refreshTokenHash fails =>
    unfold sessionStep at hd
    dsimp only at hd
    split at hd
    · exact h d hd
    · rw [revoke_derived] at hd
      exact h d hd
  | operation op jwt fails =>
    unfold sessionStep at hd
    dsimp only at hd
    split at hd <;> exact h d hd
  | tick seconds => exact h d hd

/-- A step accepts no operation for a session that has ended exactly if it meets the condition. -/
theorem refusesEnded_step (hc : c.Lawful) {ev : SessionEvent} (h : ∀ d ∈ s.ledger.derived, d.Well auth c) :
    (sessionStep auth c s ev).RefusesEnded c ↔ s.RefusesEnded c ∧ ev.Refused c s := by
  by_cases hop : ∃ op jwt fails, ev = .operation op jwt fails
  · obtain ⟨op, jwt, fails, rfl⟩ := hop
    -- the condition is that no matching token of an ended session passes the check
    have hrefused : SessionEvent.Refused c s (.operation op jwt fails) ↔
        ((∃ claims, op.check auth c s.ledger.now s.refreshTokens fails jwt = .ok claims) →
          ∀ d ∈ s.ledger.derived, d.accessToken = jwt → ¬ d.SessionEnded c s.ledger) := by
      have hiff : ∀ d ∈ s.ledger.derived, d.accessToken = jwt →
          ((op.consultsStore = true ∧ (fails = true ∨ s.refreshTokens (c.hash d.refreshToken) ≠ .some d.claims.userId)) ∨
              d.claims.exp.toNat + leeway < s.ledger.now ↔
            ¬ ∃ claims, op.check auth c s.ledger.now s.refreshTokens fails jwt = .ok claims) := by
        rintro d hd rfl
        rw [(h d hd).check_iff hc, not_and_or, Nat.not_le, Classical.not_imp, not_and_or, Bool.not_eq_false, or_comm]
      constructor
      · intro hr hok d hd hjwt hended
        exact (hiff d hd hjwt).1 (hr d hd hjwt hended) hok
      · intro hr d hd hjwt hended
        exact (hiff d hd hjwt).2 fun hok => hr hok d hd hjwt hended
    rw [hrefused]
    unfold sessionStep RefusesEnded
    dsimp only
    split
    · next claims hok =>
      rw [List.forall_mem_cons, and_comm]
      exact and_congr Iff.rfl ⟨fun hr _ => hr, fun hr => hr ⟨claims, hok⟩⟩
    · next hnot =>
      refine ⟨fun hr => ⟨hr, fun hok => ?_⟩, And.left⟩
      obtain ⟨claims, hok⟩ := hok
      exact absurd hok (hnot claims)
  · have haccepted := @step_accepted auth c s ev fun op jwt fails heq => hop ⟨op, jwt, fails, heq⟩
    have hrefused : ev.Refused c s := by
      cases ev with
      | operation op jwt fails => exact absurd ⟨op, jwt, fails, rfl⟩ hop
      | _ => trivial
    unfold RefusesEnded
    rw [haccepted]
    exact ⟨fun hr => ⟨hr, hrefused⟩, And.left⟩

end SessionState

/-- The login of a user whose token has no row: it hands out the token with an access token. -/
theorem SessionState.login_of_free (hc : c.Lawful) {userId : Int64} {exp accessExp : UInt64}
    (hfree : s.refreshTokens (c.hash (auth.refreshToken c userId exp)) = .none)
    (hexp : expiration auth.refreshTokenLifetime s.ledger.now = .ok exp) (hnow : s.ledger.now ≤ exp.toNat + leeway)
    (haccess : expiration auth.accessTokenLifetime s.ledger.now = .ok accessExp) :
    sessionStep auth c s (.login userId false false) =
      let login : Login := ⟨userId, s.ledger.now, auth.refreshToken c userId exp, true⟩
      { s with
        refreshTokens := Function.update s.refreshTokens (c.hash (auth.refreshToken c userId exp)) (.some userId)
        ledger := { s.ledger with derived := auth.derivedToken c userId exp accessExp :: s.ledger.derived }
        logins := login :: s.logins
        sessions := login :: s.sessions } := by
  unfold sessionStep
  dsimp only
  rw [Auth.generateRefreshToken_of_ok hexp]
  dsimp only
  rw [SessionState.issue_of_free hfree]
  exact SessionState.handOut_of_derive (SessionState.derive?_of_row hc (Function.update_self _ _ _) hnow haccess)

/-- Where a session is revoked right after its login, its access token goes on to read the user's Sui address. -/
theorem SessionState.reads_after_revocation (hc : c.Lawful) {now : Nat} {userId : Int64} {exp accessExp : UInt64}
    (hexp : expiration auth.refreshTokenLifetime now = .ok exp) (hnow : now ≤ exp.toNat + leeway)
    (haccess : expiration auth.accessTokenLifetime now = .ok accessExp) (haccessNow : now ≤ accessExp.toNat + leeway)
    (address : Option String) :
    let d := auth.derivedToken c userId exp accessExp
    let op := AuthOperation.getSuiAddress fun _ => .ok address
    ∃ s, (sessionMachine auth c).run (SessionState.start now)
        [.login userId false false, .revokeRefreshToken userId (c.hash d.refreshToken) false,
          .operation op d.accessToken false] = .some s ∧
      op.ending auth c s.ledger.now s.refreshTokens false d.accessToken = .ok () ∧ ¬ s.RefusesEnded c := by
  intro d op
  have hlogin := @login_of_free auth c (start now) hc userId exp accessExp rfl hexp hnow haccess
  have hrevoke := @revoke_of_row (sessionStep auth c (start now) (.login userId false false)) userId
    (c.hash d.refreshToken) (by rw [hlogin]; exact Function.update_self _ _ _)
  generalize hs : (sessionStep auth c (start now) (.login userId false false)).revoke userId (c.hash d.refreshToken) = s
    at hrevoke
  have hledger : s.ledger = ⟨now, [d], [(userId, c.hash d.refreshToken)]⟩ := by
    rw [hrevoke, hlogin]
    rfl
  have hvalid : auth.validateToken c s.ledger.now d.accessToken false = .ok d.claims :=
    Auth.validateToken_eq_ok.2 ⟨hc.decode_encode _ _, by rw [hledger]; exact haccessNow, rfl⟩
  have hcheck : op.check auth c s.ledger.now s.refreshTokens false d.accessToken = .ok d.claims :=
    AuthOperation.check_eq_ok.2 ⟨hvalid, fun h => by cases h⟩
  have haccepts : sessionStep auth c s (.operation op d.accessToken false) =
      { s with accepted := ⟨op, d.accessToken, s.ledger⟩ :: s.accepted } := by
    unfold sessionStep
    dsimp only
    rw [hcheck]
  refine ⟨sessionStep auth c s (.operation op d.accessToken false),
    Machine.run_cons.2 ⟨_, rfl, Machine.run_cons.2 ⟨s, hs ▸ rfl, Machine.run_cons.2 ⟨_, rfl, rfl⟩⟩⟩, ?_⟩
  rw [haccepts]
  constructor
  · show auth.getSuiAddress c s.ledger.now d.accessToken _ >>= _ = _
    rw [Auth.getSuiAddress, hvalid]
    rfl
  · intro hrefuses
    have hmem : d ∈ s.ledger.derived := by
      rw [hledger]
      exact List.mem_cons_self
    refine hrefuses _ List.mem_cons_self d hmem rfl (.inl ?_)
    rw [hledger]
    exact List.mem_cons_self

end

end AtomaProxy
