/-
The sessions of a user are independent of each other as long as no two of its
logins fall into one second.

A refresh token says whose it is and in which second it expires, and nothing
else. So two logins of a user in one second are handed the same token: its
hash is there already, storing it again fails and that is only logged, and
revoking one of the two sessions revokes the other.
-/
import AtomaProxy.Auth.SessionRevocation

namespace AtomaProxy

open Base

section

variable (auth : Auth) (c : TokenCrypto)

/-- The tokens handed out are distinct as hashes, and each was stored by its login. Where its row was not revoked, a
token is valid, and the access tokens derived from it pass the checks of every operation until they expire. -/
structure SessionState.Independent (s : SessionState) : Prop where
  distinct : (s.sessions.map fun login => c.hash login.token).Nodup
  stored : ∀ login ∈ s.sessions, login.stored = true
  valid : ∀ login ∈ s.sessions, (login.userId, c.hash login.token) ∉ s.ledger.revoked →
    s.refreshTokens.isRefreshTokenValid login.userId (c.hash login.token) = true
  usable : ∀ login ∈ s.sessions, (login.userId, c.hash login.token) ∉ s.ledger.revoked →
    ∀ d ∈ s.ledger.derived, d.refreshToken = login.token → s.ledger.now ≤ d.claims.exp.toNat + leeway →
      ∀ op : AuthOperation, ∃ claims, op.check auth c s.ledger.now s.refreshTokens false d.accessToken = .ok claims

/-- The condition: no earlier login of the user in the same second had its token stored. -/
def SessionEvent.AloneInItsSecond (s : SessionState) : SessionEvent → Prop
  | .login userId _ _ => ∀ login ∈ s.logins, login.userId = userId → login.second = s.ledger.now → login.stored = false
  | _ => True

/-- A login succeeds: the database answers, and the clock and the lifetimes are within their ranges. -/
def SessionEvent.Succeeds (s : SessionState) : SessionEvent → Prop
  | .login _ storeFails checkFails => storeFails = false ∧ checkFails = false ∧
      (∃ exp, expiration auth.refreshTokenLifetime s.ledger.now = .ok exp ∧ s.ledger.now ≤ exp.toNat + leeway) ∧
      ∃ accessExp, expiration auth.accessTokenLifetime s.ledger.now = .ok accessExp
  | _ => True

/-- What is known of the logins: their tokens, which differ in hash where they were stored; the rows of the table,
which are those of the logins that were stored and not revoked; and which logins are sessions. -/
structure SessionState.Kept (s : SessionState) : Prop where
  derived : ∀ d ∈ s.ledger.derived, d.Well auth c
  tokens : ∀ login ∈ s.logins, ∃ exp, expiration auth.refreshTokenLifetime login.second = .ok exp ∧
    login.token = auth.refreshToken c login.userId exp
  distinct : s.logins.Pairwise fun login login' => login.stored = true → login'.stored = true →
    c.hash login.token ≠ c.hash login'.token
  rows : ∀ hash userId, s.refreshTokens hash = .some userId →
    ∃ login ∈ s.logins, login.stored = true ∧ login.userId = userId ∧ c.hash login.token = hash
  kept : ∀ login ∈ s.logins, login.stored = true → (login.userId, c.hash login.token) ∉ s.ledger.revoked →
    s.refreshTokens (c.hash login.token) = .some login.userId
  sessions : s.sessions.Sublist s.logins
  stored : ∀ login ∈ s.sessions, login.stored = true

end

variable {auth : Auth} {c : TokenCrypto} {s : SessionState}

theorem SessionState.Kept.start (now : Nat) : (SessionState.start now).Kept auth c where
  derived _ h := absurd h List.not_mem_nil
  tokens _ h := absurd h List.not_mem_nil
  distinct := .nil
  rows := by rintro hash userId ⟨⟩
  kept _ h := absurd h List.not_mem_nil
  sessions := .slnil
  stored _ h := absurd h List.not_mem_nil

theorem SessionState.Kept.independent (hc : c.Lawful) (h : s.Kept auth c) : s.Independent auth c where
  distinct := by
    rw [List.Nodup, List.pairwise_map]
    exact (h.distinct.sublist h.sessions).imp_of_mem fun hl hl' hne => hne (h.stored _ hl) (h.stored _ hl')
  stored := h.stored
  valid login hl hrevoked :=
    RefreshTokens.isRefreshTokenValid_iff.2 (h.kept login (h.sessions.mem hl) (h.stored login hl) hrevoked)
  usable login hl hrevoked d hd hrefresh hexp op := by
    have hwell := h.derived d hd
    obtain ⟨exp, -, htoken⟩ := h.tokens login (h.sessions.mem hl)
    have hrow := h.kept login (h.sessions.mem hl) (h.stored login hl) hrevoked
    -- the token says that the two are of one user
    have hdecode := hwell.refresh
    rw [hrefresh, htoken, hc.decode_encode] at hdecode
    have huser : d.claims.userId = login.userId := (congrArg Claims.userId (Except.ok.inj hdecode)).symm
    exact (hwell.check_iff hc).2 ⟨hexp, fun _ => ⟨rfl, by rw [hrefresh, huser]; exact hrow⟩⟩

/-- Two tokens of one hash are of one user and one second. -/
theorem refreshToken_injective (hc : c.Lawful) {userId userId' : Int64} {second second' : Nat} {exp exp' : UInt64}
    (hexp : expiration auth.refreshTokenLifetime second = .ok exp)
    (hexp' : expiration auth.refreshTokenLifetime second' = .ok exp')
    (h : c.hash (auth.refreshToken c userId exp) = c.hash (auth.refreshToken c userId' exp')) :
    userId = userId' ∧ second = second' := by
  have hclaims := congrArg (c.decode auth.secretKey) (hc.hash_injective h)
  rw [hc.decode_encode, hc.decode_encode, Except.ok.injEq, Claims.mk.injEq] at hclaims
  obtain ⟨huser, rfl, -⟩ := hclaims
  have hsecond := (expiration_eq_ok.1 hexp).1.symm.trans (expiration_eq_ok.1 hexp').1
  exact ⟨huser, by omega⟩

/-- A login that is alone in its second has a hash without a row. -/
theorem SessionState.Kept.free (hc : c.Lawful) (h : s.Kept auth c) {userId : Int64} {exp : UInt64}
    (hexp : expiration auth.refreshTokenLifetime s.ledger.now = .ok exp)
    (halone : ∀ login ∈ s.logins, login.userId = userId → login.second = s.ledger.now → login.stored = false) :
    s.refreshTokens (c.hash (auth.refreshToken c userId exp)) = .none ∧
      ∀ login ∈ s.logins, login.stored = true → c.hash (auth.refreshToken c userId exp) ≠ c.hash login.token := by
  have hne : ∀ login ∈ s.logins, login.stored = true →
      c.hash (auth.refreshToken c userId exp) ≠ c.hash login.token := by
    intro login hl hstored heq
    obtain ⟨exp', hexp', htoken⟩ := h.tokens login hl
    rw [htoken] at heq
    obtain ⟨huser, hsecond⟩ := refreshToken_injective hc hexp hexp' heq
    rw [halone login hl huser.symm hsecond.symm] at hstored
    cases hstored
  refine ⟨?_, hne⟩
  by_contra hrow
  obtain ⟨userId', hrow⟩ := Option.ne_none_iff_exists'.1 hrow
  obtain ⟨login, hl, hstored, -, hhash⟩ := h.rows _ _ hrow
  exact hne login hl hstored hhash.symm

/-! ## What a step keeps -/

namespace SessionState

variable {userId : Int64} {exp : UInt64} {fails : Bool}

/-- A login whose statement is not answered leaves no row. -/
theorem issue_of_fails {refreshTokenHash token : String} : s.issue userId refreshTokenHash token true =
    ({ s with logins := ⟨userId, s.ledger.now, token, false⟩ :: s.logins }, ⟨userId, s.ledger.now, token, false⟩) := rfl

/-- A login that issued its token and was stored. -/
theorem Kept.issue_stored (h : s.Kept auth c) (hexp : expiration auth.refreshTokenLifetime s.ledger.now = .ok exp)
    (hfree : s.refreshTokens (c.hash (auth.refreshToken c userId exp)) = .none)
    (hne : ∀ login ∈ s.logins, login.stored = true →
      c.hash (auth.refreshToken c userId exp) ≠ c.hash login.token) :
    (s.issue userId (c.hash (auth.refreshToken c userId exp)) (auth.refreshToken c userId exp) false).1.Kept auth c := by
  rw [issue_of_free hfree]
  exact {
    derived := h.derived
    tokens := List.forall_mem_cons.2 ⟨⟨exp, hexp, rfl⟩, h.tokens⟩
    distinct := List.pairwise_cons.2 ⟨fun login hl _ hstored => hne login hl hstored, h.distinct⟩
    rows := fun hash userId' hrow => by
      dsimp only at hrow
      rw [Function.update_apply] at hrow
      split at hrow
      · next hhash =>
        cases hrow
        exact ⟨_, List.mem_cons_self, rfl, rfl, hhash.symm⟩
      · obtain ⟨login, hl, hlogin⟩ := h.rows hash userId' hrow
        exact ⟨login, List.mem_cons_of_mem _ hl, hlogin⟩
    kept := List.forall_mem_cons.2 ⟨fun _ _ => Function.update_self _ _ _, fun login hl hstored hrevoked =>
      (Function.update_of_ne (hne login hl hstored).symm _ _).trans (h.kept login hl hstored hrevoked)⟩
    sessions := h.sessions.cons _
    stored := h.stored
  }

/-- A login that issued its token and was not. -/
theorem Kept.issue_failed (h : s.Kept auth c) (hexp : expiration auth.refreshTokenLifetime s.ledger.now = .ok exp) :
    (s.issue userId (c.hash (auth.refreshToken c userId exp)) (auth.refreshToken c userId exp) true).1.Kept auth c where
  derived := h.derived
  tokens := List.forall_mem_cons.2 ⟨⟨exp, hexp, rfl⟩, h.tokens⟩
  distinct := List.pairwise_cons.2 ⟨fun _ _ hstored => (Bool.false_ne_true hstored).elim, h.distinct⟩
  rows hash userId' hrow :=
    let ⟨login, hl, hlogin⟩ := h.rows hash userId' hrow
    ⟨login, List.mem_cons_of_mem _ hl, hlogin⟩
  kept := List.forall_mem_cons.2 ⟨fun hstored => (Bool.false_ne_true hstored).elim, h.kept⟩
  sessions := h.sessions.cons _
  stored := h.stored

theorem Kept.hold (h : s.Kept auth c) {refreshToken : String} {d : DerivedToken}
    (hd : s.derive? auth c refreshToken fails = .some d) : (s.hold d).Kept auth c :=
  { h with derived := List.forall_mem_cons.2 ⟨.of_derive hd, h.derived⟩ }

/-- A login that is alone in its second is a session with a row of its own, or it is none. -/
theorem Kept.login (hc : c.Lawful) (h : s.Kept auth c) {storeFails checkFails : Bool}
    (halone : SessionEvent.AloneInItsSecond s (.login userId storeFails checkFails)) :
    (sessionStep auth c s (.login userId storeFails checkFails)).Kept auth c := by
  rcases @step_login auth c s userId storeFails checkFails with heq | ⟨exp, hexp, heq⟩
  · rw [heq]
    exact h
  obtain ⟨hfree, hne⟩ := h.free hc hexp halone
  rw [heq]
  dsimp only
  cases storeFails with
  | false =>
    have hissued := h.issue_stored hexp hfree hne
    rw [issue_of_free hfree] at hissued ⊢
    dsimp only at hissued ⊢
    rw [handOut]
    split
    · next d hd =>
      have hheld := hissued.hold hd
      exact { hheld with
        sessions := h.sessions.cons_cons _
        stored := List.forall_mem_cons.2 ⟨rfl, h.stored⟩ }
    · exact hissued
  | true =>
    have hissued := @Kept.issue_failed auth c s userId exp h hexp
    rw [issue_of_fails] at hissued ⊢
    dsimp only at hissued ⊢
    rw [handOut]
    split
    · next d hd =>
      -- nothing is derived of a token that has no row
      obtain ⟨refresh, claims, -, hclaims, -⟩ := derive?_eq_some.1 hd
      obtain ⟨_, _, _, _, hrow, _⟩ := Auth.accessTokenClaims_eq_ok.1 hclaims
      rw [show s.refreshTokens (c.hash (auth.refreshToken c userId exp)) = _ from hrow] at hfree
      cases hfree
    · exact hissued

/-- A revocation deletes the row of one login. -/
theorem Kept.revoke (h : s.Kept auth c) (userId : Int64) (refreshTokenHash : String) :
    (s.revoke userId refreshTokenHash).Kept auth c := by
  by_cases hrow : s.refreshTokens refreshTokenHash = .some userId
  · rw [revoke_of_row hrow]
    exact { h with
      rows := fun hash userId' hrow' => by
        dsimp only at hrow'
        rw [Function.update_apply] at hrow'
        split at hrow'
        · cases hrow'
        · exact h.rows hash userId' hrow'
      kept := fun login hl hstored hrevoked => by
        obtain ⟨hnot, hrevoked⟩ := not_or.1 (List.mem_cons.not.1 hrevoked)
        have hkept := h.kept login hl hstored hrevoked
        have hhash : c.hash login.token ≠ refreshTokenHash := by
          rintro rfl
          rw [hkept, Option.some.injEq] at hrow
          exact hnot (hrow ▸ rfl)
        exact (Function.update_of_ne hhash _ _).trans hkept }
  · rw [SessionState.revoke, if_neg hrow]
    exact h

theorem Kept.step (hc : c.Lawful) (h : s.Kept auth c) {ev : SessionEvent} (halone : ev.AloneInItsSecond s) :
    (sessionStep auth c s ev).Kept auth c := by
  cases ev with
  | login userId storeFails checkFails => exact h.login hc halone
  | generateAccessToken refreshToken fails =>
    unfold sessionStep
    dsimp only
    split
    · next d hd => exact h.hold hd
    · exact h
  | revokeRefreshToken userId refreshTokenHash fails =>
    unfold sessionStep
    dsimp only
    split
    · exact h
    · exact h.revoke userId refreshTokenHash
  | operation op jwt fails =>
    unfold sessionStep
    dsimp only
    split
    · exact { h with }
    · exact h
  | tick seconds => exact { h with }

/-! ## A second login in one second -/

/-- A hash that has a row is not stored again. -/
theorem issue_of_row {refreshTokenHash token : String} {owner : Int64}
    (h : s.refreshTokens refreshTokenHash = .some owner) : s.issue userId refreshTokenHash token false =
      ({ s with logins := ⟨userId, s.ledger.now, token, false⟩ :: s.logins }, ⟨userId, s.ledger.now, token, false⟩) := by
  have hinsert : s.refreshTokens.storeRefreshToken userId refreshTokenHash =
      .error (.databaseConnectionError .uniqueViolation) := by
    unfold RefreshTokens.storeRefreshToken Table.insertRow
    rw [h]
    rfl
  rw [issue, answered_false, hinsert]

/-- The login of a user whose token has a row already: it hands out the token nevertheless. -/
theorem login_of_row (hc : c.Lawful) {accessExp : UInt64}
    (hrow : s.refreshTokens (c.hash (auth.refreshToken c userId exp)) = .some userId)
    (hexp : expiration auth.refreshTokenLifetime s.ledger.now = .ok exp) (hnow : s.ledger.now ≤ exp.toNat + leeway)
    (haccess : expiration auth.accessTokenLifetime s.ledger.now = .ok accessExp) :
    sessionStep auth c s (.login userId false false) =
      let login : Login := ⟨userId, s.ledger.now, auth.refreshToken c userId exp, false⟩
      { s with
        ledger := { s.ledger with derived := auth.derivedToken c userId exp accessExp :: s.ledger.derived }
        logins := login :: s.logins
        sessions := login :: s.sessions } := by
  unfold sessionStep
  dsimp only
  rw [Auth.generateRefreshToken_of_ok hexp]
  dsimp only
  rw [issue_of_row hrow]
  exact handOut_of_derive (derive?_of_row hc hrow hnow haccess)

/-- A login that succeeds while an earlier one of its user in that second is a session is handed the token of that one:
either it could not store it, or the two are sessions with one token. -/
theorem Kept.alone_of_independent (hc : c.Lawful) (h : s.Kept auth c) (hsessions : ∀ login ∈ s.logins, login ∈ s.sessions)
    {ev : SessionEvent} (hsucceeds : ev.Succeeds auth s) (hindependent : (sessionStep auth c s ev).Independent auth c) :
    ev.AloneInItsSecond s := by
  cases ev with
  | login userId storeFails checkFails =>
    obtain ⟨rfl, rfl, ⟨exp, hexp, hnow⟩, accessExp, haccess⟩ := hsucceeds
    rintro login hl rfl hsecond
    exfalso
    obtain ⟨exp', hexp', htoken⟩ := h.tokens login hl
    rw [hsecond] at hexp'
    cases hexp.symm.trans hexp'
    cases hrow : s.refreshTokens (c.hash (auth.refreshToken c login.userId exp)) with
    | none =>
      have hdistinct := hindependent.distinct
      rw [login_of_free hc hrow hexp hnow haccess] at hdistinct
      refine (List.nodup_cons.1 hdistinct).1 ?_
      rw [← htoken]
      exact List.mem_map.2 ⟨login, hsessions login hl, rfl⟩
    | some owner =>
      obtain ⟨other, hother, -, rfl, hhash⟩ := h.rows _ _ hrow
      obtain ⟨exp'', hexp'', htoken''⟩ := h.tokens other hother
      rw [htoken''] at hhash
      rw [(refreshToken_injective hc hexp'' hexp hhash).1] at hrow
      have hstored := hindependent.stored
      rw [login_of_row hc hrow hexp hnow haccess] at hstored
      exact Bool.false_ne_true (hstored _ List.mem_cons_self)
  | _ => trivial

/-- Where every login succeeds and is alone in its second, every login is a session. -/
theorem Kept.sessions_step (hc : c.Lawful) (h : s.Kept auth c) (hsessions : ∀ login ∈ s.logins, login ∈ s.sessions)
    {ev : SessionEvent} (hsucceeds : ev.Succeeds auth s) (halone : ev.AloneInItsSecond s) :
    ∀ login ∈ (sessionStep auth c s ev).logins, login ∈ (sessionStep auth c s ev).sessions := by
  cases ev with
  | login userId storeFails checkFails =>
    obtain ⟨rfl, rfl, ⟨exp, hexp, hnow⟩, accessExp, haccess⟩ := hsucceeds
    rw [login_of_free hc (h.free hc hexp halone).1 hexp hnow haccess]
    exact List.forall_mem_cons.2 ⟨List.mem_cons_self, fun login hl => List.mem_cons_of_mem _ (hsessions login hl)⟩
  | generateAccessToken refreshToken fails =>
    unfold sessionStep
    dsimp only
    split <;> exact hsessions
  | revokeRefreshToken userId refreshTokenHash fails =>
    unfold sessionStep SessionState.revoke
    dsimp only
    split
    · exact hsessions
    · split <;> exact hsessions
  | operation op jwt fails =>
    unfold sessionStep
    dsimp only
    split <;> exact hsessions
  | tick seconds => exact hsessions

end SessionState

/-- **When sessions are independent.** In every run in which no login falls into the second of an earlier one of its
user that was stored, the tokens handed out are distinct and stored, and each that was not revoked stays valid and the
access tokens derived from it usable; and where all logins succeed, in no other run. -/
theorem sessions_independent_iff (auth : Auth) {c : TokenCrypto} (hc : c.Lawful) (now : Nat) {evs : List SessionEvent}
    {s : SessionState} (h : (sessionMachine auth c).run (SessionState.start now) evs = .some s) :
    ((sessionMachine auth c).Guarded (fun s ev => ev.AloneInItsSecond s) (SessionState.start now) evs →
        (sessionMachine auth c).Always (SessionState.Independent auth c) (SessionState.start now) evs) ∧
      ((sessionMachine auth c).Guarded (fun s ev => ev.Succeeds auth s) (SessionState.start now) evs →
        ((sessionMachine auth c).Always (SessionState.Independent auth c) (SessionState.start now) evs ↔
          (sessionMachine auth c).Guarded (fun s ev => ev.AloneInItsSecond s) (SessionState.start now) evs)) := by
  constructor
  · refine @Machine.always_of_guarded _ _ (sessionMachine auth c) (SessionState.Kept auth c) (SessionState.Independent auth c)
      (fun s ev => ev.AloneInItsSecond s) (fun hkept => hkept.independent hc) (fun hkept halone hstep => ?_) evs _
      (.start now)
    exact Option.some.inj hstep ▸ hkept.step hc halone
  · intro hsucceeds
    refine @Machine.always_iff_guarded _ _ (sessionMachine auth c)
      (fun s => s.Kept auth c ∧ ∀ login ∈ s.logins, login ∈ s.sessions) (SessionState.Independent auth c)
      (fun s ev => ev.AloneInItsSecond s) (fun s ev => ev.Succeeds auth s) (fun hi => hi.1.independent hc)
      (fun hi hev hstep hp => ?_) (fun hi hev halone hstep => ?_) evs _ s
      ⟨.start now, fun login hl => absurd hl List.not_mem_nil⟩ hsucceeds h
    · exact hi.1.alone_of_independent hc hi.2 hev (Option.some.inj hstep ▸ hp)
    · exact Option.some.inj hstep ▸ ⟨hi.1.step hc halone, hi.1.sessions_step hc hi.2 hev halone⟩

/-- Two logins of a user, a second apart. -/
theorem sessions_independent_example :
    let auth : Auth := ⟨"secret", 60, 7⟩
    let c := TokenCrypto.plain
    let evs : List SessionEvent := [.login 1 false false, .tick 1, .login 1 false false]
    ((sessionMachine auth c).Guarded (fun s ev => ev.AloneInItsSecond s) (SessionState.start 1750000000) evs →
        (sessionMachine auth c).Always (SessionState.Independent auth c) (SessionState.start 1750000000) evs) ∧
      ((sessionMachine auth c).Guarded (fun s ev => ev.Succeeds auth s) (SessionState.start 1750000000) evs →
        ((sessionMachine auth c).Always (SessionState.Independent auth c) (SessionState.start 1750000000) evs ↔
          (sessionMachine auth c).Guarded (fun s ev => ev.AloneInItsSecond s) (SessionState.start 1750000000) evs)) :=
  sessions_independent_iff _ TokenCrypto.plain_lawful _ rfl

/-- Two logins of a user in one second are handed one token, and a revocation ends both sessions. -/
theorem SessionState.one_token_in_one_second (hc : c.Lawful) {now : Nat} {userId : Int64} {exp accessExp : UInt64}
    (hexp : expiration auth.refreshTokenLifetime now = .ok exp) (hnow : now ≤ exp.toNat + leeway)
    (haccess : expiration auth.accessTokenLifetime now = .ok accessExp) :
    let token := auth.refreshToken c userId exp
    ∃ s s', (sessionMachine auth c).run (SessionState.start now)
        [.login userId false false, .login userId false false] = .some s ∧
      s.sessions.map Login.token = [token, token] ∧ ¬ s.Independent auth c ∧
      (sessionMachine auth c).run s [.revokeRefreshToken userId (c.hash token) false] = .some s' ∧
      ∀ login ∈ s'.sessions, s'.refreshTokens.isRefreshTokenValid login.userId (c.hash login.token) = false := by
  intro token
  have hfirst := @login_of_free auth c (start now) hc userId exp accessExp rfl hexp hnow haccess
  generalize hs : sessionStep auth c (start now) (.login userId false false) = s at hfirst
  have hrow : s.refreshTokens (c.hash token) = .some userId := by
    rw [hfirst]
    exact Function.update_self _ _ _
  have hnow' : s.ledger.now = now := by rw [hfirst]; rfl
  have hsecond := login_of_row hc hrow (hnow' ▸ hexp) (hnow' ▸ hnow) (hnow' ▸ haccess)
  generalize hs₂ : sessionStep auth c s (.login userId false false) = s₂ at hsecond
  have hsessions : s₂.sessions = [⟨userId, now, token, false⟩, ⟨userId, now, token, true⟩] := by
    rw [hsecond, hnow', hfirst]
    rfl
  have hrevoke := @revoke_of_row s₂ userId (c.hash token) (by rw [hsecond]; exact hrow)
  refine ⟨s₂, s₂.revoke userId (c.hash token), ?_, ?_, fun hindependent => ?_, rfl, fun login hl => ?_⟩
  · rw [← hs₂, ← hs]
    rfl
  · rw [hsessions]
    rfl
  · have hdistinct := hindependent.distinct
    rw [hsessions] at hdistinct
    exact (List.nodup_cons.1 hdistinct).1 List.mem_cons_self
  · rw [hrevoke] at hl ⊢
    have htoken : login.token = token := by
      rw [show s₂.sessions = _ from hsessions] at hl
      rcases List.mem_cons.1 hl with rfl | hl
      · rfl
      · rw [List.mem_singleton.1 hl]
    rw [htoken]
    refine decide_eq_false fun hrow => ?_
    cases (Function.update_self _ _ _).symm.trans hrow

/-- So they are with the lifetimes that are documented, sixty minutes and seven days. -/
theorem sessions_independent_fails :
    let auth : Auth := ⟨"secret", 60, 7⟩
    let c := TokenCrypto.plain
    let token := auth.refreshToken c 1 1750604800
    ∃ s s', (sessionMachine auth c).run (SessionState.start 1750000000)
        [.login 1 false false, .login 1 false false] = .some s ∧
      s.sessions.map Login.token = [token, token] ∧ ¬ s.Independent auth c ∧
      (sessionMachine auth c).run s [.revokeRefreshToken 1 (c.hash token) false] = .some s' ∧
      ∀ login ∈ s'.sessions, s'.refreshTokens.isRefreshTokenValid login.userId (c.hash login.token) = false :=
  @SessionState.one_token_in_one_second ⟨"secret", 60, 7⟩ _ TokenCrypto.plain_lawful 1750000000 1 1750604800 1755184000
    (expiration_eq_ok.2 (by decide)) (by decide) (expiration_eq_ok.2 (by decide))

end AtomaProxy
