/-
Sessions: a login issues a refresh token and stores its hash, an access token
is derived from a refresh token and carries that hash, and an operation checks
the access token it is called with.

There are two checks. `validate_token` looks at the token alone: its signature,
its expiry and which of the two kinds it is. `get_claims_from_token` then asks
the state manager whether the refresh token's hash is still stored. Each
operation makes one or the other.

Signing and hashing are the libraries', and parameters here; clocks are in
seconds, as the tokens' expiries are.
-/
import AtomaProxy.Auth.UsdcPayment
import AtomaProxy.Base.Table

namespace AtomaProxy

open Base

/-- What a token says. A refresh token carries no hash, an access token the hash of the refresh token it is derived
from. -/
structure Claims where
  userId : Int64
  exp : UInt64
  refreshTokenHash : Option String
  deriving DecidableEq, Repr

/-- `jsonwebtoken` and `hash_string`. -/
structure TokenCrypto where
  /-- `encode`, with the default header -/
  encode : String → Claims → String
  /-- the part of `decode` that does not look at the clock: the signature, and the claims -/
  decode : String → String → Except String Claims
  /-- Blake2b, in hex -/
  hash : String → String

/-- What the code relies on: a token that was encoded decodes to its claims, and hashes do not collide. -/
structure TokenCrypto.Lawful (c : TokenCrypto) : Prop where
  decode_encode : ∀ secret claims, c.decode secret (c.encode secret claims) = .ok claims
  hash_injective : Function.Injective c.hash

/-- What the tokens are configured with. -/
structure Auth where
  secretKey : String
  /-- in minutes, as it is documented -/
  accessTokenLifetime : UInt64
  /-- in days -/
  refreshTokenLifetime : UInt64
  deriving DecidableEq, Repr

/-- `leeway` of a default `Validation`, in seconds. -/
def leeway : Nat := 60

/-- The last second of `chrono`'s calendar. -/
def maxTimestamp : Int := 8210266876799

/-- `usize::try_from((Utc::now() + Duration::days(lifetime as i64)).timestamp()).unwrap()`. The duration and the sum
panic out of range, and so does a time before the epoch; of the three the calendar's range is the narrowest. -/
def expiration (lifetime : UInt64) (now : Nat) : Ending AuthError UInt64 :=
  let timestamp : Int := now + lifetime.toInt64.toInt * 86400
  if 0 ≤ timestamp ∧ timestamp ≤ maxTimestamp then .ok (UInt64.ofNat timestamp.toNat) else .panic

/-- An expiry is `lifetime` days from now. -/
theorem expiration_eq_ok {lifetime : UInt64} {now : Nat} {exp : UInt64} : expiration lifetime now = .ok exp ↔
    (exp.toNat : Int) = now + lifetime.toInt64.toInt * 86400 ∧ (exp.toNat : Int) ≤ maxTimestamp := by
  unfold expiration maxTimestamp
  dsimp only
  split
  · next h =>
    have hnat : (UInt64.ofNat (now + lifetime.toInt64.toInt * 86400).toNat).toNat =
        (now + lifetime.toInt64.toInt * 86400).toNat :=
      UInt64.toNat_ofNat_of_lt' (by show _ < 2 ^ 64; omega)
    rw [Ending.ok.injEq, ← UInt64.toNat_inj, hnat]
    omega
  · next h =>
    refine iff_of_false (by rintro ⟨⟩) ?_
    omega

/-! ## The table of refresh tokens -/

/-- `refresh_tokens`, whose `token_hash` is unique: the user of each hash. -/
abbrev RefreshTokens := Table String Int64

namespace RefreshTokens

def isRefreshTokenValid (t : RefreshTokens) (userId : Int64) (refreshTokenHash : String) : Bool :=
  t refreshTokenHash = .some userId

def storeRefreshToken (t : RefreshTokens) (userId : Int64) (refreshTokenHash : String) :
    Except AtomaStateManagerError RefreshTokens :=
  query (t.insertRow refreshTokenHash (.ok userId))

def deleteRefreshToken (t : RefreshTokens) (userId : Int64) (refreshTokenHash : String) : RefreshTokens :=
  if t refreshTokenHash = .some userId then Function.update t refreshTokenHash .none else t

end RefreshTokens

/-- `TokenResponse`, times in seconds. -/
structure TokenResponse where
  id : Int64
  tokenLast4 : String
  lastUsedTimestamp : Option Int
  createdAt : Int
  name : String
  deriving DecidableEq, Repr

/-- The events on tokens that are sent and not waited for. -/
inductive TokenEvent where
  | storeRefreshToken (userId : Int64) (refreshTokenHash : String)
  | storeNewApiToken (userId : Int64) (apiToken name : String)
  | revokeApiToken (userId apiTokenId : Int64)
  deriving DecidableEq, Repr

namespace Auth

variable (auth : Auth) (c : TokenCrypto)

def generateRefreshToken (now : Nat) (userId : Int64) : Eff TokenEvent AuthError String := do
  let exp ← .ofEnding (expiration auth.refreshTokenLifetime now)
  let token := c.encode auth.secretKey ⟨userId, exp, .none⟩
  .send (.storeRefreshToken userId (c.hash token))
  pure token

def validateToken (now : Nat) (token : String) (isRefresh : Bool) : Except AuthError Claims := do
  let claims ← (c.decode auth.secretKey token).mapError .jsonWebTokenError
  if claims.exp.toNat + leeway < now then .error (.jsonWebTokenError "ExpiredSignature")
  else if claims.refreshTokenHash.isNone ≠ isRefresh then .error .notRefreshToken
  else .ok claims

/-- `IsRefreshTokenValid`, which the database may not answer. -/
def checkRefreshTokenValidity (t : RefreshTokens) (fails : Bool) (userId : Int64) (refreshTokenHash : String) :
    Except AuthError Bool :=
  (answered fails (.ok (t.isRefreshTokenValid userId refreshTokenHash))).mapError .atomaStateManagerError

/-- The claims that `generate_access_token` encodes. -/
def accessTokenClaims (now : Nat) (t : RefreshTokens) (fails : Bool) (refreshToken : String) :
    Ending AuthError Claims := do
  let claims ← .ofExcept (auth.validateToken c now refreshToken true)
  let refreshTokenHash := c.hash refreshToken
  let valid ← .ofExcept (checkRefreshTokenValidity t fails claims.userId refreshTokenHash)
  if !valid then .err .invalidRefreshToken
  else
    -- `Duration::days`, of a lifetime in minutes
    let exp ← expiration auth.accessTokenLifetime now
    pure ⟨claims.userId, exp, .some refreshTokenHash⟩

def generateAccessToken (now : Nat) (t : RefreshTokens) (fails : Bool) (refreshToken : String) :
    Ending AuthError String := do
  let claims ← auth.accessTokenClaims c now t fails refreshToken
  pure (c.encode auth.secretKey claims)

def getClaimsFromToken (now : Nat) (t : RefreshTokens) (fails : Bool) (jwt : String) : Ending AuthError Claims := do
  let claims ← .ofExcept (auth.validateToken c now jwt false)
  match claims.refreshTokenHash with
  | .none => .panic
  | .some refreshTokenHash =>
    let valid ← .ofExcept (checkRefreshTokenValidity t fails claims.userId refreshTokenHash)
    if !valid then .err .revokedToken else pure claims

/-! ## The operations -/

section

variable (now : Nat) (t : RefreshTokens) (fails : Bool) (jwt : String)

/-- The token is random: it is given. -/
def generateApiToken (apiToken name : String) : Eff TokenEvent AuthError String := do
  let claims ← .ofEnding (auth.getClaimsFromToken c now t fails jwt)
  .send (.storeNewApiToken claims.userId apiToken name)
  pure apiToken

def revokeApiToken (apiTokenId : Int64) : Eff TokenEvent AuthError Unit := do
  let claims ← .ofEnding (auth.getClaimsFromToken c now t fails jwt)
  .send (.revokeApiToken claims.userId apiTokenId)

/-- `answer` is what the state manager answers for a user. -/
def getAllApiTokens (answer : Int64 → Except AtomaStateManagerError (List TokenResponse)) :
    Ending AuthError (List TokenResponse) := do
  let claims ← auth.getClaimsFromToken c now t fails jwt
  .ofExcept ((answer claims.userId).mapError .atomaStateManagerError)

def getUserIdFromToken : Ending AuthError Int64 := do
  let claims ← auth.getClaimsFromToken c now t fails jwt
  pure claims.userId

def getSuiAddress (answer : Int64 → Except AtomaStateManagerError (Option String)) :
    Ending AuthError (Option String) := do
  let claims ← .ofExcept (auth.validateToken c now jwt false)
  .ofExcept ((answer claims.userId).mapError .atomaStateManagerError)

end

end Auth

/-- An operation, with what it is given besides its token and what it is answered. -/
inductive AuthOperation where
  | generateApiToken (apiToken name : String)
  | revokeApiToken (apiTokenId : Int64)
  | getAllApiTokens (answer : Int64 → Except AtomaStateManagerError (List TokenResponse))
  | getUserIdFromToken
  | updateSuiAddress (w : WalletCrypto) (signature : String)
  | usdcPayment (cfg : AuthConfig) (w : WalletCrypto) (transactionDigest : String)
    (zkProofSignature : Option String) (inserted : Except AtomaStateManagerError Unit) (answers : PaymentAnswers)
  | getSuiAddress (answer : Int64 → Except AtomaStateManagerError (Option String))

namespace AuthOperation

/-- Its check is `get_claims_from_token`. -/
def consultsStore : AuthOperation → Bool
  | .generateApiToken .. | .revokeApiToken .. | .getAllApiTokens .. | .getUserIdFromToken => true
  | .updateSuiAddress .. | .usdcPayment .. | .getSuiAddress .. => false

variable (auth : Auth) (c : TokenCrypto) (now : Nat) (t : RefreshTokens) (fails : Bool) (jwt : String)

/-- The check of the token it begins with. -/
def check (op : AuthOperation) : Ending AuthError Claims :=
  if op.consultsStore then auth.getClaimsFromToken c now t fails jwt
  else .ofExcept (auth.validateToken c now jwt false)

/-- How it ends. -/
def ending : AuthOperation → Ending AuthError Unit
  | .generateApiToken apiToken name =>
    (auth.generateApiToken c now t fails jwt apiToken name).ending >>= fun _ => pure ()
  | .revokeApiToken apiTokenId => (auth.revokeApiToken c now t fails jwt apiTokenId).ending
  | .getAllApiTokens answer => auth.getAllApiTokens c now t fails jwt answer >>= fun _ => pure ()
  | .getUserIdFromToken => auth.getUserIdFromToken c now t fails jwt >>= fun _ => pure ()
  | .updateSuiAddress w signature =>
    (AtomaProxy.updateSuiAddress w ((auth.validateToken c now jwt false).map Claims.userId) signature).ending
  | .usdcPayment cfg w transactionDigest zkProofSignature inserted answers =>
    (AtomaProxy.usdcPayment cfg w ((auth.validateToken c now jwt false).map Claims.userId) transactionDigest
      zkProofSignature inserted answers).ending
  | .getSuiAddress answer => auth.getSuiAddress c now jwt answer >>= fun _ => pure ()

end AuthOperation

/-! ## What the checks accept -/

section

variable {auth : Auth} {c : TokenCrypto} {now : Nat} {t : RefreshTokens} {fails : Bool}

theorem Auth.validateToken_eq_ok {token : String} {isRefresh : Bool} {claims : Claims} :
    auth.validateToken c now token isRefresh = .ok claims ↔ c.decode auth.secretKey token = .ok claims ∧
      now ≤ claims.exp.toNat + leeway ∧ claims.refreshTokenHash.isNone = isRefresh := by
  unfold Auth.validateToken
  simp only [ok_bind_iff, mapError_eq_ok]
  constructor
  · rintro ⟨claims', hdecode, h⟩
    split at h
    · cases h
    · next hexp =>
      split at h
      · cases h
      · next hkind =>
        cases h
        exact ⟨hdecode, Nat.not_lt.1 hexp, not_not.1 hkind⟩
  · rintro ⟨hdecode, hexp, hkind⟩
    exact ⟨claims, hdecode, by rw [if_neg (Nat.not_lt.2 hexp), if_neg (not_not.2 hkind)]⟩

theorem Auth.checkRefreshTokenValidity_eq_ok {userId : Int64} {refreshTokenHash : String} {valid : Bool} :
    Auth.checkRefreshTokenValidity t fails userId refreshTokenHash = .ok valid ↔
      fails = false ∧ t.isRefreshTokenValid userId refreshTokenHash = valid := by
  unfold Auth.checkRefreshTokenValidity
  rw [mapError_eq_ok, answered_eq_ok, Except.ok.injEq]

theorem RefreshTokens.isRefreshTokenValid_iff {userId : Int64} {refreshTokenHash : String} :
    t.isRefreshTokenValid userId refreshTokenHash = true ↔ t refreshTokenHash = .some userId := decide_eq_true_iff

/-- The claims encoded in an access token: those of the refresh token, which is valid, with an expiry of its own. -/
theorem Auth.accessTokenClaims_eq_ok {refreshToken : String} {claims : Claims} :
    auth.accessTokenClaims c now t fails refreshToken = .ok claims ↔ ∃ refresh exp,
      auth.validateToken c now refreshToken true = .ok refresh ∧ fails = false ∧
        t (c.hash refreshToken) = .some refresh.userId ∧ expiration auth.accessTokenLifetime now = .ok exp ∧
        claims = ⟨refresh.userId, exp, .some (c.hash refreshToken)⟩ := by
  unfold Auth.accessTokenClaims
  simp only [Ending.bind_eq_ok, Ending.ofExcept_eq_ok, Auth.checkRefreshTokenValidity_eq_ok]
  constructor
  · rintro ⟨refresh, hvalidate, valid, ⟨hfails, hvalid⟩, h⟩
    split at h
    · cases h
    · next hnot =>
      obtain ⟨exp, hexp, h⟩ := Ending.bind_eq_ok.1 h
      cases h
      rw [Bool.not_eq_true', Bool.not_eq_false] at hnot
      exact ⟨refresh, exp, hvalidate, hfails, RefreshTokens.isRefreshTokenValid_iff.1 (hvalid.trans hnot), hexp, rfl⟩
  · rintro ⟨refresh, exp, hvalidate, hfails, hrow, hexp, rfl⟩
    refine ⟨refresh, hvalidate, true, ⟨hfails, RefreshTokens.isRefreshTokenValid_iff.2 hrow⟩, ?_⟩
    rw [if_neg (by simp), hexp]
    rfl

/-- `get_claims_from_token` is the check of the token, and of the row of its refresh token's hash. -/
theorem Auth.getClaimsFromToken_eq_ok {jwt : String} {claims : Claims} :
    auth.getClaimsFromToken c now t fails jwt = .ok claims ↔ auth.validateToken c now jwt false = .ok claims ∧
      fails = false ∧ ∃ refreshTokenHash, claims.refreshTokenHash = .some refreshTokenHash ∧
        t refreshTokenHash = .some claims.userId := by
  unfold Auth.getClaimsFromToken
  rw [Ending.bind_eq_ok]
  simp only [Ending.ofExcept_eq_ok]
  constructor
  · rintro ⟨claims', hvalidate, h⟩
    split at h
    · cases h
    · next refreshTokenHash hhash =>
      obtain ⟨valid, hvalid, h⟩ := Ending.bind_eq_ok.1 h
      obtain ⟨hfails, hvalid⟩ := Auth.checkRefreshTokenValidity_eq_ok.1 (Ending.ofExcept_eq_ok.1 hvalid)
      split at h
      · cases h
      · next hnot =>
        cases h
        rw [Bool.not_eq_true', Bool.not_eq_false] at hnot
        exact ⟨hvalidate, hfails, refreshTokenHash, hhash, RefreshTokens.isRefreshTokenValid_iff.1 (hvalid.trans hnot)⟩
  · rintro ⟨hvalidate, hfails, refreshTokenHash, hhash, hrow⟩
    refine ⟨claims, hvalidate, ?_⟩
    rw [hhash]
    have hvalid := Auth.checkRefreshTokenValidity_eq_ok.2 ⟨hfails, RefreshTokens.isRefreshTokenValid_iff.2 hrow⟩
    dsimp only
    rw [hvalid]
    rfl

namespace AuthOperation

variable {op : AuthOperation} {jwt : String}

theorem check_eq_ok {claims : Claims} : op.check auth c now t fails jwt = .ok claims ↔
    auth.validateToken c now jwt false = .ok claims ∧ (op.consultsStore = true → fails = false ∧
      ∃ refreshTokenHash, claims.refreshTokenHash = .some refreshTokenHash ∧ t refreshTokenHash = .some claims.userId) := by
  unfold check
  split
  · next h => simp only [Auth.getClaimsFromToken_eq_ok, h, true_implies]
  · next h =>
    rw [Ending.ofExcept_eq_ok]
    exact ⟨fun hvalidate => ⟨hvalidate, fun hstore => absurd hstore h⟩, And.left⟩

/-- The operations that are given the user of the token look at nothing else of it. -/
theorem validateToken_of_user {userId : Int64}
    (h : (Eff.ofExcept ((auth.validateToken c now jwt false).map Claims.userId) : Eff AuthEvent AuthError Int64).ending =
      .ok userId) : ∃ claims, Ending.ofExcept (auth.validateToken c now jwt false) = .ok claims := by
  cases hvalidate : auth.validateToken c now jwt false with
  | ok claims => exact ⟨claims, rfl⟩
  | error e =>
    rw [hvalidate] at h
    cases h

/-- An operation succeeds only where its check accepts the token. -/
theorem check_of_ending (h : op.ending auth c now t fails jwt = .ok ()) :
    ∃ claims, op.check auth c now t fails jwt = .ok claims := by
  cases op with
  | generateApiToken apiToken name =>
    obtain ⟨_, h, _⟩ := Ending.bind_eq_ok.1 h
    rw [Auth.generateApiToken, Eff.ending_bind] at h
    obtain ⟨claims, h, _⟩ := Ending.bind_eq_ok.1 h
    exact ⟨claims, h⟩
  | revokeApiToken apiTokenId =>
    rw [ending, Auth.revokeApiToken, Eff.ending_bind] at h
    obtain ⟨claims, h, _⟩ := Ending.bind_eq_ok.1 h
    exact ⟨claims, h⟩
  | getAllApiTokens answer =>
    obtain ⟨_, h, _⟩ := Ending.bind_eq_ok.1 h
    obtain ⟨claims, h, _⟩ := Ending.bind_eq_ok.1 h
    exact ⟨claims, h⟩
  | getUserIdFromToken =>
    obtain ⟨_, h, _⟩ := Ending.bind_eq_ok.1 h
    obtain ⟨claims, h, _⟩ := Ending.bind_eq_ok.1 h
    exact ⟨claims, h⟩
  | updateSuiAddress w signature =>
    rw [ending, AtomaProxy.updateSuiAddress, Eff.ending_bind] at h
    obtain ⟨userId, h, _⟩ := Ending.bind_eq_ok.1 h
    exact validateToken_of_user h
  | usdcPayment cfg w transactionDigest zkProofSignature inserted answers =>
    rw [ending, AtomaProxy.usdcPayment, Eff.ending_bind] at h
    obtain ⟨userId, h, _⟩ := Ending.bind_eq_ok.1 h
    exact validateToken_of_user h
  | getSuiAddress answer =>
    obtain ⟨_, h, _⟩ := Ending.bind_eq_ok.1 h
    obtain ⟨claims, h, _⟩ := Ending.bind_eq_ok.1 h
    exact ⟨claims, h⟩

end AuthOperation

end

/-! ## Lawful tokens -/

/-- The `k` lowest bits, the lowest first. -/
def bits : Nat → Nat → List Char
  | 0, _ => []
  | k + 1, n => (if n % 2 = 1 then '1' else '0') :: bits k (n / 2)

def ofBits : List Char → Nat
  | [] => 0
  | bit :: bs => (if bit = '1' then 1 else 0) + 2 * ofBits bs

theorem length_bits : ∀ k n, (bits k n).length = k
  | 0, _ => rfl
  | k + 1, n => congrArg Nat.succ (length_bits k (n / 2))

theorem ofBits_bits : ∀ k n, ofBits (bits k n) = n % 2 ^ k
  | 0, n => (Nat.mod_one n).symm
  | k + 1, n => by
    rw [bits, ofBits, ofBits_bits k (n / 2), Nat.pow_succ', Nat.mod_mul]
    split <;> simp <;> omega

/-- Tokens that anyone could make: the key, and after it the claims. The hash of a token is the token. -/
def TokenCrypto.plain : TokenCrypto where
  encode secret claims := String.ofList (secret.toList ++ bits 64 claims.userId.toUInt64.toNat ++
    bits 64 claims.exp.toNat ++ claims.refreshTokenHash.elim [] fun hash => '.' :: hash.toList)
  decode secret token :=
    let claims := token.toList.drop secret.length
    if token.toList.take secret.length = secret.toList then
      .ok ⟨(UInt64.ofNat (ofBits (claims.take 64))).toInt64, UInt64.ofNat (ofBits ((claims.drop 64).take 64)),
        match claims.drop 128 with
        | [] => .none
        | _ :: hash => .some (String.ofList hash)⟩
    else .error "InvalidSignature"
  hash token := token

theorem TokenCrypto.plain_lawful : TokenCrypto.plain.Lawful where
  decode_encode := by
    rintro secret ⟨userId, exp, hash⟩
    have htake : ∀ l, (secret.toList ++ l).take secret.length = secret.toList := fun l =>
      List.take_left' String.length_toList
    have hdrop : ∀ l, (secret.toList ++ l).drop secret.length = l := fun l =>
      List.drop_left' String.length_toList
    have htake64 : ∀ n l, (bits 64 n ++ l).take 64 = bits 64 n := fun n l => List.take_left' (length_bits 64 n)
    have hdrop64 : ∀ n l, (bits 64 n ++ l).drop 64 = l := fun n l => List.drop_left' (length_bits 64 n)
    have hbits : ∀ n : UInt64, UInt64.ofNat (ofBits (bits 64 n.toNat)) = n := fun n => by
      rw [ofBits_bits, Nat.mod_eq_of_lt n.toNat_lt, UInt64.ofNat_toNat]
    unfold plain
    dsimp only
    rw [String.toList_ofList, List.append_assoc, List.append_assoc, htake, hdrop, if_pos rfl, htake64, hdrop64, htake64,
      hbits, hbits, ← @List.drop_drop _ 64 64, hdrop64, hdrop64]
    cases hash with
    | none => rfl
    | some hash => simp
  hash_injective := fun _ _ h => h
end AtomaProxy
