/-
Accounts: the table `users`, the statements on it, and the three ways to sign
in, each of which ends with the user whose tokens are issued.

An account is its email's. A registration takes an email that has none; a
Google sign-in takes the email's, and makes it where there is none; a password
login asks for the salt under the email and then for the user with the salted
password's hash, with anything in between. No statement changes a row, so what
the first question was answered still holds at the second.
-/
import AtomaProxy.Auth.Sessions
import AtomaProxy.Base.Log
import AtomaProxy.Base.Machine
import AtomaProxy.Base.Rows

namespace AtomaProxy

open Base

/-! ## The table -/

/-- A row of `users`, in the columns that signing in reads or writes. -/
structure User where
  id : Int64
  email : String
  passwordHash : Option String
  passwordSalt : String
  deriving DecidableEq, Repr

structure UserProfile where
  email : String
  deriving DecidableEq, Repr

/-- The errors of statements that write texts under ids of their own. -/
inductive StatementError where
  /-- a text with a NUL in it -/
  | invalidText
  /-- "value too long for type character varying(n)" -/
  | valueTooLong (n : Nat)
  /-- the sequence of the ids has no more -/
  | sequenceExhausted
  | sql (e : SqlError)
  deriving DecidableEq, Repr

structure Users where
  rows : List User
  /-- The last number of the sequence of the ids. -/
  lastId : Nat
  deriving Repr

def Users.empty : Users := ⟨[], 0⟩

/-- A text that a statement is given. -/
def textArgument (text : String) : Except StatementError String :=
  if '\x00' ∈ text.toList then .error .invalidText else .ok text

/-- The part of a text that a column of type `VARCHAR(n)` holds. -/
def cut (n : Nat) (text : String) : String := String.ofList (text.toList.take n)

/-- A text as the value of such a column: one that is too long is cut where all it loses is blanks, and refused
elsewhere. -/
def varchar (n : Nat) (text : String) : Except StatementError String := do
  let text ← textArgument text
  if (text.toList.drop n).all (· = ' ') then .ok (cut n text) else .error (.valueTooLong n)

/-- `nextval`. The numbers in between went to statements that failed or had no use for theirs. -/
def nextval (last skipped : Nat) : Except StatementError Nat :=
  if last + skipped + 1 < 2 ^ 63 then .ok (last + skipped + 1) else .error .sequenceExhausted

def storedEmail (email : String) : String := cut 50 email

namespace Users

/-- `INSERT INTO users … ON CONFLICT (email) DO NOTHING RETURNING id`. -/
def register (t : Users) (profile : UserProfile) (passwordHash passwordSalt : String) (skipped : Nat) :
    Except StatementError (Users × Option Int64) := do
  let email ← varchar 50 profile.email
  let passwordHash ← textArgument passwordHash
  let passwordSalt ← textArgument passwordSalt
  let id ← nextval t.lastId skipped
  match rowOf User.email email t.rows with
  | .some _ => .ok (⟨t.rows, id⟩, .none)
  | .none =>
    let row : User := ⟨Int64.ofNat id, email, .some passwordHash, passwordSalt⟩
    .ok (⟨t.rows ++ [row], id⟩, .some row.id)

/-- `INSERT INTO users … ON CONFLICT (email) DO UPDATE SET email = EXCLUDED.email RETURNING id`. -/
def oauth (t : Users) (email passwordSalt : String) (skipped : Nat) : Except StatementError (Users × Int64) := do
  let email ← varchar 50 email
  let passwordSalt ← textArgument passwordSalt
  let id ← nextval t.lastId skipped
  match rowOf User.email email t.rows with
  | .some row => .ok (⟨updateWhere User.email email (fun r => { r with email }) t.rows, id⟩, row.id)
  | .none =>
    let row : User := ⟨Int64.ofNat id, email, .none, passwordSalt⟩
    .ok (⟨t.rows ++ [row], id⟩, row.id)

def getPasswordSalt (t : Users) (email : String) : Except StatementError (Option String) := do
  let email ← textArgument email
  .ok ((rowOf User.email email t.rows).map User.passwordSalt)

def getUserIdByEmailPassword (t : Users) (email hashedPassword : String) : Except StatementError (Option Int64) := do
  let email ← textArgument email
  let hashedPassword ← textArgument hashedPassword
  .ok ((t.rows.find? fun r => r.email = email ∧ r.passwordHash = .some hashedPassword).map User.id)

end Users

/-! ## Signing in -/

/-- `google::Claims`. -/
structure GoogleClaims where
  iss : String
  sub : String
  aud : String
  exp : UInt64
  email : Option String
  deriving DecidableEq, Repr

/-- `jsonwebtoken` on Google's tokens. -/
structure GoogleCrypto (Key : Type) where
  /-- `decode_header`, of which the `kid` is read -/
  decodeHeader : String → Except String (Option String)
  /-- the part of `decode` that validates no claim: the signature under RS256, and the claims -/
  decode : Key → String → Except String GoogleClaims

/-- `GoogleError`, of what a sign-in can end with. -/
inductive GoogleError where
  | decodingKeyError (text : String)
  | missingKid
  | emailNotFound
  deriving DecidableEq, Repr

/-- `AuthError`, of what a sign-in can end with before its tokens are issued. -/
inductive AccountError where
  | atomaStateManagerError (e : StatementError)
  | userAlreadyRegistered
  | passwordNotValidOrUserNotFound
  | googleError (e : GoogleError)
  deriving DecidableEq, Repr

def ISS : String := "https://accounts.google.com"

section

variable {Key : Type}

def verifyGoogleIdToken (c : GoogleCrypto Key) (now : Nat) (idToken audience : String)
    (publicKeys : String → Option Key) : Except GoogleError GoogleClaims := do
  let header ← (c.decodeHeader idToken).mapError .decodingKeyError
  let .some kid := header | .error .missingKid
  let .some decodingKey := publicKeys kid | .error (.decodingKeyError "InvalidToken")
  let claims ← (c.decode decodingKey idToken).mapError .decodingKeyError
  if claims.exp.toNat + leeway < now then .error (.decodingKeyError "ExpiredSignature")
  else if claims.iss ≠ ISS then .error (.decodingKeyError "InvalidIssuer")
  else if claims.aud ≠ audience then .error (.decodingKeyError "InvalidAudience")
  else .ok claims

/-- What is hashed of a password. -/
def salted (passwordSalt password : String) : String := passwordSalt ++ ":" ++ password

/-- What signing in is configured with. -/
structure SignInConfig (Key : Type) where
  hash : String → String
  google : GoogleCrypto Key
  googleClientId : String
  googlePublicKeys : String → Option Key

variable (cfg : SignInConfig Key)

/-- `check_google_id_token`, up to its event: the email. -/
def SignInConfig.googleEmail (now : Nat) (idToken : String) : Except AccountError String := do
  let claims ← (verifyGoogleIdToken cfg.google now idToken cfg.googleClientId cfg.googlePublicKeys).mapError .googleError
  let .some email := claims.email | .error (.googleError .emailNotFound)
  .ok email

/-- `send_event_with_response` with an event that the state manager answers by one of these statements. -/
def usersAnswer {α : Type} (fails : Bool) (x : Except StatementError α) : Except AccountError α :=
  (if fails then .error (.sql .unavailable) else x).mapError .atomaStateManagerError

/-- `.ok_or_else(…)?` on an answer. -/
def orElse {α : Type} (e : AccountError) : Option α → Except AccountError α
  | .some a => .ok a
  | .none => .error e

/-- `register`, with the table afterwards: a refusal consumes an id too. -/
def SignInConfig.register (t : Users) (profile : UserProfile) (password passwordSalt : String) (skipped : Nat)
    (fails : Bool) : Users × Except AccountError Int64 :=
  match usersAnswer fails (t.register profile (cfg.hash (salted passwordSalt password)) passwordSalt skipped) with
  | .ok (t', answer) => (t', orElse .userAlreadyRegistered answer)
  | .error e => (t, .error e)

def SignInConfig.checkGoogleIdToken (t : Users) (now : Nat) (idToken passwordSalt : String) (skipped : Nat)
    (fails : Bool) : Users × Except AccountError (String × Int64) :=
  match cfg.googleEmail now idToken with
  | .error e => (t, .error e)
  | .ok email =>
    match usersAnswer fails (t.oauth email passwordSalt skipped) with
    | .ok (t', userId) => (t', .ok (email, userId))
    | .error e => (t, .error e)

/-- The first question of `check_user_password`. -/
def SignInConfig.passwordSalt (t : Users) (email : String) (fails : Bool) : Except AccountError String := do
  let answer ← usersAnswer fails (t.getPasswordSalt email)
  orElse .passwordNotValidOrUserNotFound answer

/-- Its second question. -/
def SignInConfig.passwordUser (t : Users) (email password passwordSalt : String) (fails : Bool) :
    Except AccountError Int64 := do
  let answer ← usersAnswer fails (t.getUserIdByEmailPassword email (cfg.hash (salted passwordSalt password)))
  orElse .passwordNotValidOrUserNotFound answer

/-! ## Runs -/

/-- A sign-in that named a user. -/
inductive SignIn where
  | registered (email password passwordSalt : String) (userId : Int64)
  | google (email : String) (userId : Int64)
  | loggedIn (email password : String) (userId : Int64)
  deriving DecidableEq, Repr

def SignIn.email : SignIn → String
  | .registered email .. | .google email _ | .loggedIn email .. => email

def SignIn.userId : SignIn → Int64
  | .registered _ _ _ userId | .google _ userId | .loggedIn _ _ userId => userId

/-- A password login between its two questions. -/
structure SaltedLogin where
  email : String
  password : String
  passwordSalt : String
  deriving DecidableEq, Repr

structure Accounts where
  users : Users
  saltedLogins : List SaltedLogin
  /-- the sign-ins so far -/
  signIns : List SignIn

def Accounts.empty : Accounts := ⟨.empty, [], []⟩

/-- The salts are random: they are given. -/
inductive AccountStep where
  | register (profile : UserProfile) (password passwordSalt : String) (skipped : Nat) (fails : Bool)
  | checkGoogleIdToken (now : Nat) (idToken passwordSalt : String) (skipped : Nat) (fails : Bool)
  | passwordSalt (email password : String) (fails : Bool)
  /-- the `n`th login goes on -/
  | passwordUser (n : Nat) (fails : Bool)

def Accounts.step (s : Accounts) : AccountStep → Option Accounts
  | .register profile password passwordSalt skipped fails =>
    let (users, answer) := cfg.register s.users profile password passwordSalt skipped fails
    match answer with
    | .ok userId =>
      let signIn := SignIn.registered profile.email password passwordSalt userId
      .some { s with users, signIns := s.signIns ++ [signIn] }
    | .error _ => .some { s with users }
  | .checkGoogleIdToken now idToken passwordSalt skipped fails =>
    let (users, answer) := cfg.checkGoogleIdToken s.users now idToken passwordSalt skipped fails
    match answer with
    | .ok (email, userId) => .some { s with users, signIns := s.signIns ++ [.google email userId] }
    | .error _ => .some { s with users }
  | .passwordSalt email password fails =>
    match SignInConfig.passwordSalt s.users email fails with
    | .ok passwordSalt => .some { s with saltedLogins := s.saltedLogins ++ [⟨email, password, passwordSalt⟩] }
    | .error _ => .some s
  | .passwordUser n fails =>
    s.saltedLogins[n]?.map fun login =>
      let saltedLogins := s.saltedLogins.eraseIdx n
      match cfg.passwordUser s.users login.email login.password login.passwordSalt fails with
      | .ok userId =>
        { s with saltedLogins, signIns := s.signIns ++ [.loggedIn login.email login.password userId] }
      | .error _ => { s with saltedLogins }

def accountsMachine : Machine Accounts AccountStep := ⟨Accounts.step cfg⟩

end

/-! ## What the statements do -/

theorem textArgument_ok {text value : String} :
    textArgument text = .ok value ↔ '\x00' ∉ text.toList ∧ value = text := by
  unfold textArgument
  split
  · next h => exact iff_of_false (fun h => nomatch h) fun hno => hno.1 h
  · next h => simp only [Except.ok.injEq, eq_comm (a := value), h, not_false_eq_true, true_and]

@[simp] theorem cut_cut (n : Nat) (text : String) : cut n (cut n text) = cut n text := by
  rw [cut, cut, String.toList_ofList, List.take_take, Nat.min_self]

theorem varchar_ok {n : Nat} {text value : String} (h : varchar n text = .ok value) :
    value = cut n text ∧ textArgument value = .ok value := by
  obtain ⟨text, htext, hvalue⟩ := ok_bind_iff.1 h
  obtain ⟨hclean, rfl⟩ := textArgument_ok.1 htext
  split at hvalue
  · cases hvalue
    refine ⟨rfl, textArgument_ok.2 ⟨fun hmem => hclean ?_, rfl⟩⟩
    rw [cut, String.toList_ofList] at hmem
    exact List.mem_of_mem_take hmem
  · cases hvalue

theorem nextval_ok {last skipped id : Nat} (h : nextval last skipped = .ok id) : last < id ∧ id < 2 ^ 63 := by
  unfold nextval at h
  split at h
  · cases h
    omega
  · cases h

/-- A row as the table takes it. -/
structure User.Stored (row : User) : Prop where
  short : storedEmail row.email = row.email
  clean : textArgument row.email = .ok row.email
  cleanHash : ∀ passwordHash, row.passwordHash = .some passwordHash → textArgument passwordHash = .ok passwordHash

namespace Users

/-- The table as runs leave it. -/
structure Sound (t : Users) : Prop where
  ids : Keyed User.id t.rows
  emails : Keyed User.email t.rows
  below : ∀ row ∈ t.rows, row.id.toInt ≤ t.lastId
  bound : t.lastId < 2 ^ 63
  stored : ∀ row ∈ t.rows, row.Stored

/-- The statement leaves the rows. -/
structure Keeps (t t' : Users) : Prop where
  rows : t'.rows = t.rows
  later : t.lastId ≤ t'.lastId
  bound : t.lastId < 2 ^ 63 → t'.lastId < 2 ^ 63

/-- The statement makes the row of an email that has none. -/
structure Adds (t t' : Users) (row : User) : Prop where
  rows : t'.rows = t.rows ++ [row]
  fresh : rowOf User.email row.email t.rows = .none
  id : row.id = Int64.ofNat t'.lastId
  later : t.lastId < t'.lastId
  bound : t'.lastId < 2 ^ 63
  stored : row.Stored

variable {t t' : Users} {row : User}

theorem Keeps.refl (t : Users) : t.Keeps t := ⟨rfl, Nat.le_refl _, id⟩

/-- A registration finds its email taken, or makes its row. -/
theorem register_ok {profile : UserProfile} {passwordHash passwordSalt : String} {skipped : Nat}
    {answer : Option Int64} (h : t.register profile passwordHash passwordSalt skipped = .ok (t', answer)) :
    (t.Keeps t' ∧ answer = .none) ∨
      ∃ userId, t.Adds t' ⟨userId, storedEmail profile.email, .some passwordHash, passwordSalt⟩ ∧
        answer = .some userId := by
  obtain ⟨email, hemail, h₁⟩ := ok_bind_iff.1 h
  obtain ⟨hash, hhash, h₂⟩ := ok_bind_iff.1 h₁
  obtain ⟨salt, hsalt, h₃⟩ := ok_bind_iff.1 h₂
  obtain ⟨id, hid, hinsert⟩ := ok_bind_iff.1 h₃
  obtain ⟨rfl, hclean⟩ := varchar_ok hemail
  obtain rfl := (textArgument_ok.1 hhash).2
  obtain rfl := (textArgument_ok.1 hsalt).2
  obtain ⟨hlater, hbound⟩ := nextval_ok hid
  split at hinsert
  · cases hinsert
    exact .inl ⟨⟨rfl, hlater.le, fun _ => hbound⟩, rfl⟩
  · next hfresh =>
    cases hinsert
    refine .inr ⟨_, ⟨rfl, hfresh, rfl, hlater, hbound, cut_cut 50 _, hclean, ?_⟩, rfl⟩
    intro passwordHash hpassword
    cases hpassword
    exact hhash

/-- A Google sign-in finds the email's row, or makes it. -/
theorem oauth_ok {email passwordSalt : String} {skipped : Nat} {userId : Int64}
    (h : t.oauth email passwordSalt skipped = .ok (t', userId)) :
    (t.Keeps t' ∧ ∃ row ∈ t.rows, row.email = storedEmail email ∧ row.id = userId) ∨
      t.Adds t' ⟨userId, storedEmail email, .none, passwordSalt⟩ := by
  obtain ⟨value, hemail, h₁⟩ := ok_bind_iff.1 h
  obtain ⟨salt, hsalt, h₂⟩ := ok_bind_iff.1 h₁
  obtain ⟨id, hid, hinsert⟩ := ok_bind_iff.1 h₂
  obtain ⟨rfl, hclean⟩ := varchar_ok hemail
  obtain rfl := (textArgument_ok.1 hsalt).2
  obtain ⟨hlater, hbound⟩ := nextval_ok hid
  split at hinsert
  · next row hrow =>
    cases hinsert
    have hsame : updateWhere User.email (storedEmail email) (fun r => { r with email := storedEmail email }) t.rows =
        t.rows := by
      refine (List.map_congr_left fun r _ => ?_).trans (List.map_id t.rows)
      split
      · next hr => rw [← hr, id_eq]
      · rfl
    exact .inl ⟨⟨hsame, hlater.le, fun _ => hbound⟩, row, mem_of_rowOf hrow, key_of_rowOf hrow, rfl⟩
  · next hfresh =>
    cases hinsert
    exact .inr ⟨rfl, hfresh, rfl, hlater, hbound, cut_cut 50 _, hclean, nofun⟩

theorem getPasswordSalt_ok {email passwordSalt : String} (h : t.getPasswordSalt email = .ok (.some passwordSalt)) :
    ∃ row ∈ t.rows, row.email = email ∧ row.passwordSalt = passwordSalt := by
  obtain ⟨text, htext, hanswer⟩ := ok_bind_iff.1 h
  obtain rfl := (textArgument_ok.1 htext).2
  obtain ⟨row, hrow, hsalt⟩ := Option.map_eq_some_iff.1 (Except.ok.inj hanswer)
  exact ⟨row, mem_of_rowOf hrow, key_of_rowOf hrow, hsalt⟩

theorem getUserIdByEmailPassword_ok {email hashedPassword : String} {userId : Int64}
    (h : t.getUserIdByEmailPassword email hashedPassword = .ok (.some userId)) :
    ∃ row ∈ t.rows, row.email = email ∧ row.passwordHash = .some hashedPassword ∧ row.id = userId := by
  obtain ⟨text, htext, h₁⟩ := ok_bind_iff.1 h
  obtain ⟨hash, hhash, hanswer⟩ := ok_bind_iff.1 h₁
  obtain rfl := (textArgument_ok.1 htext).2
  obtain rfl := (textArgument_ok.1 hhash).2
  obtain ⟨row, hrow, hid⟩ := Option.map_eq_some_iff.1 (Except.ok.inj hanswer)
  have hfound : row.email = text ∧ row.passwordHash = .some hash := by simpa using List.find?_some hrow
  exact ⟨row, List.mem_of_find?_eq_some hrow, hfound.1, hfound.2, hid⟩

theorem Sound.keep (h : t.Sound) (hk : t.Keeps t') : t'.Sound where
  ids := by
    rw [hk.rows]
    exact h.ids
  emails := by
    rw [hk.rows]
    exact h.emails
  below row hrow := by
    rw [hk.rows] at hrow
    exact (h.below row hrow).trans (Int.ofNat_le.2 hk.later)
  bound := hk.bound h.bound
  stored row hrow := by
    rw [hk.rows] at hrow
    exact h.stored row hrow

theorem Sound.getPasswordSalt (h : t.Sound) (hrow : row ∈ t.rows) :
    t.getPasswordSalt row.email = .ok (.some row.passwordSalt) := by
  refine ok_bind_iff.2 ⟨row.email, (h.stored row hrow).clean, ?_⟩
  rw [h.emails.mem_iff.1 hrow]
  rfl

/-- The email's row is the only one that the question for a password's hash looks at. -/
theorem Sound.getUserIdByEmailPassword (h : t.Sound) (hrow : row ∈ t.rows) {hashedPassword : String}
    (hhash : row.passwordHash = .some hashedPassword) :
    t.getUserIdByEmailPassword row.email hashedPassword = .ok (.some row.id) := by
  have hstored := h.stored row hrow
  refine ok_bind_iff.2 ⟨row.email, hstored.clean, ok_bind_iff.2 ⟨hashedPassword, hstored.cleanHash _ hhash, ?_⟩⟩
  cases hfound : t.rows.find? fun r => r.email = row.email ∧ r.passwordHash = .some hashedPassword with
  | none =>
    rw [List.find?_eq_none] at hfound
    exact absurd (decide_eq_true ⟨rfl, hhash⟩) (hfound row hrow)
  | some r =>
    have hr : r.email = row.email ∧ r.passwordHash = .some hashedPassword := by simpa using List.find?_some hfound
    rw [List.inj_on_of_nodup_map h.emails (List.mem_of_find?_eq_some hfound) hrow hr.1]
    rfl

theorem Adds.toInt_id (ha : t.Adds t' row) : row.id.toInt = t'.lastId := by
  rw [ha.id]
  exact Int64.toInt_ofNat_of_lt ha.bound

/-- The new row's id was no row's. -/
theorem Adds.fresh_id (ha : t.Adds t' row) (h : t.Sound) : ∀ r ∈ t.rows, r.id ≠ row.id := by
  intro r hr hid
  have hbelow := h.below r hr
  rw [hid, ha.toInt_id] at hbelow
  have := ha.later
  omega

theorem Sound.add (h : t.Sound) (ha : t.Adds t' row) : t'.Sound where
  ids := by
    rw [ha.rows]
    exact h.ids.append (rowOf_eq_none.2 (ha.fresh_id h))
  emails := by
    rw [ha.rows]
    exact h.emails.append ha.fresh
  below r hr := by
    rw [ha.rows] at hr
    rcases List.mem_append.1 hr with hr | hr
    · have := h.below r hr
      have := ha.later
      omega
    · rw [List.mem_singleton.1 hr, ha.toInt_id]
  bound := ha.bound
  stored r hr := by
    rw [ha.rows] at hr
    rcases List.mem_append.1 hr with hr | hr
    · exact h.stored r hr
    · rw [List.mem_singleton.1 hr]
      exact ha.stored

end Users

/-! ## What a sign-in rests on -/

/-- The row is the one that the sign-in named. -/
def User.Answers (hash : String → String) (row : User) : SignIn → Prop
  | .registered email password passwordSalt userId =>
    row = ⟨userId, storedEmail email, .some (hash (salted passwordSalt password)), passwordSalt⟩
  | .google email userId => row.id = userId ∧ row.email = storedEmail email
  | .loggedIn email password userId =>
    row.id = userId ∧ row.email = email ∧ row.passwordHash = .some (hash (salted row.passwordSalt password))

/-- A registration is its account's first sign-in, and a password login follows a registration of the account, with a
password of the same salted hash. -/
def AccountedFor (hash : String → String) (before : List SignIn) : SignIn → Prop
  | .registered _ _ _ userId => ∀ earlier ∈ before, earlier.userId ≠ userId
  | .google .. => True
  | .loggedIn email password userId => ∃ registeredEmail registeredPassword passwordSalt,
      .registered registeredEmail registeredPassword passwordSalt userId ∈ before ∧
        storedEmail registeredEmail = email ∧
        hash (salted passwordSalt password) = hash (salted passwordSalt registeredPassword)

section

variable {Key : Type} {cfg : SignInConfig Key}

theorem usersAnswer_ok {α : Type} {fails : Bool} {x : Except StatementError α} {a : α}
    (h : usersAnswer fails x = .ok a) : x = .ok a := by
  unfold usersAnswer at h
  rw [mapError_eq_ok] at h
  split at h
  · cases h
  · exact h

theorem orElse_ok {α : Type} {e : AccountError} {answer : Option α} {a : α} (h : orElse e answer = .ok a) :
    answer = .some a := by
  cases answer with
  | none => cases h
  | some b =>
    cases h
    rfl

/-- A registration that is refused leaves the rows; another makes its account. -/
theorem SignInConfig.register_cases (cfg : SignInConfig Key) (t : Users) (profile : UserProfile)
    (password passwordSalt : String) (skipped : Nat) (fails : Bool) :
    (∃ t' e, t.Keeps t' ∧ cfg.register t profile password passwordSalt skipped fails = (t', .error e)) ∨
      ∃ t' userId, t.Adds t' ⟨userId, storedEmail profile.email, .some (cfg.hash (salted passwordSalt password)),
        passwordSalt⟩ ∧ cfg.register t profile password passwordSalt skipped fails = (t', .ok userId) := by
  unfold register
  split
  · next t' answer hanswer =>
    rcases Users.register_ok (usersAnswer_ok hanswer) with ⟨hkeeps, rfl⟩ | ⟨userId, hadds, rfl⟩
    · exact .inl ⟨t', _, hkeeps, rfl⟩
    · exact .inr ⟨t', userId, hadds, rfl⟩
  · next e _ => exact .inl ⟨t, e, .refl t, rfl⟩

theorem SignInConfig.checkGoogleIdToken_cases (cfg : SignInConfig Key) (t : Users) (now : Nat)
    (idToken passwordSalt : String) (skipped : Nat) (fails : Bool) :
    (∃ t' e, t.Keeps t' ∧ cfg.checkGoogleIdToken t now idToken passwordSalt skipped fails = (t', .error e)) ∨
      ∃ t' email userId, cfg.checkGoogleIdToken t now idToken passwordSalt skipped fails = (t', .ok (email, userId)) ∧
        ((t.Keeps t' ∧ ∃ row ∈ t.rows, row.email = storedEmail email ∧ row.id = userId) ∨
          t.Adds t' ⟨userId, storedEmail email, .none, passwordSalt⟩) := by
  unfold checkGoogleIdToken
  split
  · next e _ => exact .inl ⟨t, e, .refl t, rfl⟩
  · next email _ =>
    split
    · next t' userId hanswer => exact .inr ⟨t', email, userId, rfl, Users.oauth_ok (usersAnswer_ok hanswer)⟩
    · next e _ => exact .inl ⟨t, e, .refl t, rfl⟩

theorem SignInConfig.passwordSalt_ok {t : Users} {email passwordSalt : String} {fails : Bool}
    (h : SignInConfig.passwordSalt t email fails = .ok passwordSalt) :
    ∃ row ∈ t.rows, row.email = email ∧ row.passwordSalt = passwordSalt := by
  obtain ⟨answer, hanswer, hsome⟩ := ok_bind_iff.1 h
  obtain rfl := orElse_ok hsome
  exact Users.getPasswordSalt_ok (usersAnswer_ok hanswer)

theorem SignInConfig.passwordUser_ok {t : Users} {email password passwordSalt : String} {fails : Bool}
    {userId : Int64} (h : cfg.passwordUser t email password passwordSalt fails = .ok userId) :
    ∃ row ∈ t.rows, row.email = email ∧ row.passwordHash = .some (cfg.hash (salted passwordSalt password)) ∧
      row.id = userId := by
  obtain ⟨answer, hanswer, hsome⟩ := ok_bind_iff.1 h
  obtain rfl := orElse_ok hsome
  exact Users.getUserIdByEmailPassword_ok (usersAnswer_ok hanswer)

theorem User.Answers.id_eq {row : User} {signIn : SignIn} (h : row.Answers cfg.hash signIn) :
    row.id = signIn.userId := by
  cases signIn with
  | registered email password passwordSalt userId => exact congrArg User.id h
  | google email userId => exact h.1
  | loggedIn email password userId => exact h.1

namespace Accounts

structure Sound (cfg : SignInConfig Key) (s : Accounts) : Prop where
  users : s.users.Sound
  salts : ∀ login ∈ s.saltedLogins, ∃ row ∈ s.users.rows,
    row.email = login.email ∧ row.passwordSalt = login.passwordSalt
  answered : ∀ signIn ∈ s.signIns, ∃ row ∈ s.users.rows, row.Answers cfg.hash signIn
  registered : ∀ row ∈ s.users.rows, ∀ passwordHash, row.passwordHash = .some passwordHash → ∃ email password,
    .registered email password row.passwordSalt row.id ∈ s.signIns ∧
      row.Answers cfg.hash (.registered email password row.passwordSalt row.id)
  accounted : Justified (AccountedFor cfg.hash) s.signIns

variable {s s' : Accounts} {t' : Users} {row : User} {signIn : SignIn}

theorem sound_empty : Accounts.empty.Sound cfg where
  users := ⟨List.nodup_nil, List.nodup_nil, nofun, by decide, nofun⟩
  salts := nofun
  answered := nofun
  registered := nofun
  accounted := justified_nil

/-- The rows and the sign-ins are left. -/
theorem Sound.keep (h : s.Sound cfg) (hk : s.users.Keeps t') : { s with users := t' }.Sound cfg where
  users := h.users.keep hk
  salts := by
    rw [hk.rows]
    exact h.salts
  answered := by
    rw [hk.rows]
    exact h.answered
  registered := by
    rw [hk.rows]
    exact h.registered
  accounted := h.accounted

/-- A sign-in of an account that there is. -/
theorem Sound.again (h : s.Sound cfg) (hrow : row ∈ s.users.rows) (hanswers : row.Answers cfg.hash signIn)
    (haccounted : AccountedFor cfg.hash s.signIns signIn) :
    { s with signIns := s.signIns ++ [signIn] }.Sound cfg where
  users := h.users
  salts := h.salts
  answered signIn' hsignIn := by
    rcases List.mem_append.1 hsignIn with hsignIn | hsignIn
    · exact h.answered signIn' hsignIn
    · rw [List.mem_singleton.1 hsignIn]
      exact ⟨row, hrow, hanswers⟩
  registered row hrow passwordHash hhash := by
    obtain ⟨email, password, hmem, hanswers⟩ := h.registered row hrow passwordHash hhash
    exact ⟨email, password, List.mem_append_left _ hmem, hanswers⟩
  accounted := h.accounted.concat haccounted

/-- The sign-in that makes its account. -/
theorem Sound.add (h : s.Sound cfg) (ha : s.users.Adds t' row) (hanswers : row.Answers cfg.hash signIn)
    (haccounted : AccountedFor cfg.hash s.signIns signIn)
    (hpassword : row.passwordHash ≠ .none → ∃ email password,
      signIn = .registered email password row.passwordSalt row.id) :
    { s with users := t', signIns := s.signIns ++ [signIn] }.Sound cfg where
  users := h.users.add ha
  salts login hlogin := by
    obtain ⟨row', hrow', hsame⟩ := h.salts login hlogin
    rw [ha.rows]
    exact ⟨row', List.mem_append_left _ hrow', hsame⟩
  answered signIn' hsignIn := by
    rw [ha.rows]
    rcases List.mem_append.1 hsignIn with hsignIn | hsignIn
    · obtain ⟨row', hrow', hanswers'⟩ := h.answered signIn' hsignIn
      exact ⟨row', List.mem_append_left _ hrow', hanswers'⟩
    · rw [List.mem_singleton.1 hsignIn]
      exact ⟨row, List.mem_append_right _ List.mem_cons_self, hanswers⟩
  registered row' hrow' passwordHash hhash := by
    rw [ha.rows] at hrow'
    rcases List.mem_append.1 hrow' with hrow' | hrow'
    · obtain ⟨email, password, hmem, hanswers'⟩ := h.registered row' hrow' passwordHash hhash
      exact ⟨email, password, List.mem_append_left _ hmem, hanswers'⟩
    · rw [List.mem_singleton.1 hrow'] at hhash ⊢
      obtain ⟨email, password, hsignIn⟩ := hpassword (by rw [hhash]; exact Option.some_ne_none _)
      rw [hsignIn] at hanswers ⊢
      exact ⟨email, password, List.mem_append_right _ List.mem_cons_self, hanswers⟩
  accounted := h.accounted.concat haccounted

/-- The id of a new row is no earlier sign-in's. -/
theorem Sound.fresh_id (h : s.Sound cfg) (ha : s.users.Adds t' row) : ∀ signIn ∈ s.signIns, signIn.userId ≠ row.id := by
  intro signIn hsignIn hid
  obtain ⟨row', hrow', hanswers⟩ := h.answered signIn hsignIn
  exact ha.fresh_id h.users row' hrow' ((User.Answers.id_eq hanswers).trans hid)

/-- A password login is of a registered account: the row that gave the salt is the one found with the hash. -/
theorem Sound.accounted_login (h : s.Sound cfg) {login : SaltedLogin} (hlogin : login ∈ s.saltedLogins)
    (hrow : row ∈ s.users.rows) (hemail : row.email = login.email)
    (hhash : row.passwordHash = .some (cfg.hash (salted login.passwordSalt login.password))) :
    row.Answers cfg.hash (.loggedIn login.email login.password row.id) ∧
      AccountedFor cfg.hash s.signIns (.loggedIn login.email login.password row.id) := by
  obtain ⟨row', hrow', hemail', hsalt⟩ := h.salts login hlogin
  obtain rfl : row = row' := List.inj_on_of_nodup_map h.users.emails hrow hrow' (hemail.trans hemail'.symm)
  obtain ⟨email, password, hmem, hanswers⟩ := h.registered row hrow _ hhash
  rw [← hsalt] at hhash
  refine ⟨⟨rfl, hemail, hhash⟩, email, password, row.passwordSalt, hmem, ?_, ?_⟩
  · rw [← hemail, show row = _ from hanswers]
  · have hregistered : row.passwordHash = .some (cfg.hash (salted row.passwordSalt password)) :=
      congrArg User.passwordHash hanswers
    rw [hhash] at hregistered
    exact Option.some.inj hregistered

/-- **Step lemma.** -/
theorem Sound.step {step : AccountStep} (h : s.Sound cfg) (hstep : s.step cfg step = .some s') : s'.Sound cfg := by
  cases step with
  | register profile password passwordSalt skipped fails =>
    dsimp only [Accounts.step] at hstep
    rcases cfg.register_cases s.users profile password passwordSalt skipped fails with
      ⟨t', e, hkeeps, hanswer⟩ | ⟨t', userId, hadds, hanswer⟩
    · rw [hanswer] at hstep
      cases hstep
      exact h.keep hkeeps
    · rw [hanswer] at hstep
      cases hstep
      exact h.add hadds rfl (h.fresh_id hadds) fun _ => ⟨_, _, rfl⟩
  | checkGoogleIdToken now idToken passwordSalt skipped fails =>
    dsimp only [Accounts.step] at hstep
    rcases cfg.checkGoogleIdToken_cases s.users now idToken passwordSalt skipped fails with
      ⟨t', e, hkeeps, hanswer⟩ | ⟨t', email, userId, hanswer, hcase⟩
    · rw [hanswer] at hstep
      cases hstep
      exact h.keep hkeeps
    · rw [hanswer] at hstep
      cases hstep
      rcases hcase with ⟨hkeeps, row, hrow, hemail, hid⟩ | hadds
      · rw [← hkeeps.rows] at hrow
        exact (h.keep hkeeps).again hrow ⟨hid, hemail⟩ trivial
      · exact h.add hadds ⟨rfl, rfl⟩ trivial fun hpassword => absurd rfl hpassword
  | passwordSalt email password fails =>
    dsimp only [Accounts.step] at hstep
    split at hstep
    · next passwordSalt hsalt =>
      cases hstep
      refine { h with salts := fun login hlogin => ?_ }
      rcases List.mem_append.1 hlogin with hlogin | hlogin
      · exact h.salts login hlogin
      · rw [List.mem_singleton.1 hlogin]
        exact SignInConfig.passwordSalt_ok hsalt
    · cases hstep
      exact h
  | passwordUser n fails =>
    obtain ⟨login, hlogin, hs'⟩ := Option.map_eq_some_iff.1 hstep
    have herased : { s with saltedLogins := s.saltedLogins.eraseIdx n }.Sound cfg :=
      { h with salts := fun login hlogin => h.salts login (List.mem_of_mem_eraseIdx hlogin) }
    dsimp only at hs'
    split at hs'
    · next userId huser =>
      obtain ⟨row, hrow, hemail, hhash, rfl⟩ := SignInConfig.passwordUser_ok huser
      obtain ⟨hanswers, haccounted⟩ := h.accounted_login (List.mem_of_getElem? hlogin) hrow hemail hhash
      rw [← hs']
      exact herased.again hrow hanswers haccounted
    · rw [← hs']
      exact herased

/-- **Run lemma.** -/
theorem Sound.run {steps : List AccountStep} (h : s.Sound cfg) (hrun : (accountsMachine cfg).run s steps = .some s') :
    s'.Sound cfg :=
  @Machine.run_invariant _ _ (accountsMachine cfg) (Sound cfg) (fun _ _ => True) (fun hi _ hstep => hi.step hstep)
    steps s s' h (Machine.guarded_of_forall (fun _ _ => trivial) steps s) hrun

theorem Sound.of_run {steps : List AccountStep} (hrun : (accountsMachine cfg).run .empty steps = .some s) :
    s.Sound cfg := sound_empty.run hrun

/-- The row that a sign-in named has the part of its email that is stored. -/
theorem Sound.row_of_signIn (h : s.Sound cfg) (hsignIn : signIn ∈ s.signIns) :
    ∃ row ∈ s.users.rows, row.id = signIn.userId ∧ row.email = storedEmail signIn.email := by
  obtain ⟨row, hrow, hanswers⟩ := h.answered signIn hsignIn
  refine ⟨row, hrow, hanswers.id_eq, ?_⟩
  cases signIn with
  | registered email password passwordSalt userId => exact congrArg User.email hanswers
  | google email userId => exact hanswers.2
  | loggedIn email password userId =>
    rw [← (h.users.stored row hrow).short]
    exact congrArg storedEmail hanswers.2.1

/-- The sign-ins so far stay. -/
theorem signIns_step {step : AccountStep} (hstep : s.step cfg step = .some s') : s.signIns <+: s'.signIns := by
  cases step with
  | register profile password passwordSalt skipped fails =>
    dsimp only [Accounts.step] at hstep
    split at hstep
    · cases hstep
      exact List.prefix_append _ _
    · cases hstep
      exact List.prefix_rfl
  | checkGoogleIdToken now idToken passwordSalt skipped fails =>
    dsimp only [Accounts.step] at hstep
    split at hstep
    · cases hstep
      exact List.prefix_append _ _
    · cases hstep
      exact List.prefix_rfl
  | passwordSalt email password fails =>
    dsimp only [Accounts.step] at hstep
    split at hstep
    · cases hstep
      exact List.prefix_rfl
    · cases hstep
      exact List.prefix_rfl
  | passwordUser n fails =>
    obtain ⟨login, _, hs'⟩ := Option.map_eq_some_iff.1 hstep
    dsimp only at hs'
    split at hs'
    · rw [← hs']
      exact List.prefix_append _ _
    · exact hs' ▸ List.prefix_rfl

theorem signIns_run {steps : List AccountStep} (hrun : (accountsMachine cfg).run s steps = .some s') :
    s.signIns <+: s'.signIns :=
  @Machine.run_invariant _ _ (accountsMachine cfg) (fun t => s.signIns <+: t.signIns) (fun _ _ => True)
    (fun hi _ hstep => hi.trans (signIns_step hstep)) steps s s' List.prefix_rfl
    (Machine.guarded_of_forall (fun _ _ => trivial) steps s) hrun

end Accounts

/-! ## Main results -/

/-- **Main result.** After any run of registrations, Google sign-ins and password logins, in any order and whichever of
their statements fail, two sign-ins named one user exactly if their emails are stored as one. -/
theorem account_of_email {steps : List AccountStep} {s : Accounts}
    (hrun : (accountsMachine cfg).run .empty steps = .some s) :
    ∀ a ∈ s.signIns, ∀ b ∈ s.signIns, a.userId = b.userId ↔ storedEmail a.email = storedEmail b.email := by
  intro a ha b hb
  have hsound := Accounts.Sound.of_run hrun
  obtain ⟨rowa, hrowa, hida, hemaila⟩ := hsound.row_of_signIn ha
  obtain ⟨rowb, hrowb, hidb, hemailb⟩ := hsound.row_of_signIn hb
  rw [← hida, ← hidb, ← hemaila, ← hemailb]
  constructor
  · intro hid
    rw [List.inj_on_of_nodup_map hsound.users.ids hrowa hrowb hid]
  · intro hemail
    rw [List.inj_on_of_nodup_map hsound.users.emails hrowa hrowb hemail]

/-- **Main result.** After any run, each registration that named a user is the first sign-in of the user, and each
password login follows a registration of the user under the email, with a password whose salted hash is the same; so no
password ever opens an account that a Google sign-in made. -/
theorem logins_follow_registration {steps : List AccountStep} {s : Accounts}
    (hrun : (accountsMachine cfg).run .empty steps = .some s) :
    Justified (AccountedFor cfg.hash) s.signIns ∧
      ∀ before after email userId, s.signIns = before ++ .google email userId :: after →
        (∀ earlier ∈ before, earlier.userId ≠ userId) →
          ∀ loginEmail password, .loggedIn loginEmail password userId ∉ s.signIns := by
  have hsound := Accounts.Sound.of_run hrun
  refine ⟨hsound.accounted, fun before after email userId hsplit hfirst loginEmail password hlogin => ?_⟩
  obtain ⟨beforeLogin, hsub, hregistered⟩ := hsound.accounted.of_mem hlogin
  obtain ⟨registeredEmail, registeredPassword, passwordSalt, hmem, _⟩ := hregistered
  obtain ⟨first, rest, hsplit'⟩ := List.append_of_mem (hsub.subset hmem)
  have hnew := hsound.accounted first _ rest hsplit'
  -- neither the Google sign-in nor the registration can be the earlier of the two
  rw [hsplit] at hsplit'
  rcases List.append_eq_append_iff.1 hsplit' with ⟨middle, hfirst', hafter⟩ | ⟨middle, hbefore, hrest⟩
  · cases middle with
    | nil => cases hafter
    | cons signIn middle =>
      obtain ⟨rfl, _⟩ := List.cons.inj hafter
      exact hnew (.google email userId) (by rw [hfirst']; simp) rfl
  · cases middle with
    | nil => cases hrest
    | cons signIn middle =>
      obtain ⟨rfl, _⟩ := List.cons.inj hrest
      exact hfirst (.registered registeredEmail registeredPassword passwordSalt userId) (by rw [hbefore]; simp) rfl

/-- **Main result.** Once registered, a password signs in for good: at any later time the salt is the registration's, and
however much later the second question names the account's user, for a password exactly if its salted hash is that of
the one registered. -/
theorem registered_password_signs_in {steps later : List AccountStep} {s s' : Accounts}
    (hrun : (accountsMachine cfg).run .empty steps = .some s) (hlater : (accountsMachine cfg).run s later = .some s')
    {email password passwordSalt : String} {userId : Int64}
    (hregistered : .registered email password passwordSalt userId ∈ s.signIns) :
    SignInConfig.passwordSalt s.users (storedEmail email) false = .ok passwordSalt ∧
      ∀ tried user, cfg.passwordUser s'.users (storedEmail email) tried passwordSalt false = .ok user ↔
        user = userId ∧ cfg.hash (salted passwordSalt tried) = cfg.hash (salted passwordSalt password) := by
  have hsound := Accounts.Sound.of_run hrun
  have hsound' := hsound.run hlater
  constructor
  · obtain ⟨row, hrow, hanswers⟩ := hsound.answered _ hregistered
    have hsalt := hsound.users.getPasswordSalt hrow
    rw [show row = _ from hanswers] at hsalt
    rw [SignInConfig.passwordSalt, hsalt]
    rfl
  · intro tried user
    obtain ⟨row, hrow, hanswers⟩ := hsound'.answered _ ((Accounts.signIns_run hlater).subset hregistered)
    constructor
    · intro hok
      obtain ⟨row', hrow', hemail, hhash, hid⟩ := SignInConfig.passwordUser_ok hok
      obtain rfl : row' = row := List.inj_on_of_nodup_map hsound'.users.emails hrow' hrow
        (hemail.trans (congrArg User.email hanswers).symm)
      rw [show row' = _ from hanswers] at hhash hid
      exact ⟨hid.symm, (Option.some.inj hhash).symm⟩
    · intro htried
      obtain ⟨rfl, hhash⟩ := htried
      have huser := hsound'.users.getUserIdByEmailPassword hrow (congrArg User.passwordHash hanswers)
      rw [show row = _ from hanswers] at huser
      rw [SignInConfig.passwordUser, hhash, huser]
      rfl

/-- Passwords in the clear, and a Google whose tokens are emails. -/
def clearSignIns : SignInConfig Unit where
  hash := id
  google := ⟨fun _ => .ok (.some "kid"), fun _ idToken => .ok ⟨ISS, "sub", "client", 1000, .some idToken⟩⟩
  googleClientId := "client"
  googlePublicKeys := fun _ => .some ()

/-- An account is registered and another is Google's, which takes the first one's too while its password login is
between its questions. -/
def accountsExample : List AccountStep :=
  [.register ⟨"a@x"⟩ "secret" "salt" 0 false, .passwordSalt "a@x" "secret" false,
    .checkGoogleIdToken 10 "b@x" "pepper" 2 false, .checkGoogleIdToken 10 "a@x" "pepper" 0 false,
    .register ⟨"b@x"⟩ "mine" "salt" 0 false, .passwordUser 0 false]

theorem account_of_email_example : ∃ s, (accountsMachine clearSignIns).run .empty accountsExample = .some s ∧
    ∀ a ∈ s.signIns, ∀ b ∈ s.signIns, a.userId = b.userId ↔ storedEmail a.email = storedEmail b.email :=
  ⟨_, rfl, @account_of_email _ clearSignIns accountsExample _ rfl⟩

theorem logins_follow_registration_example :
    ∃ s, (accountsMachine clearSignIns).run .empty accountsExample = .some s ∧
      .loggedIn "a@x" "secret" 1 ∈ s.signIns ∧ Justified (AccountedFor clearSignIns.hash) s.signIns :=
  ⟨_, rfl, by decide, (@logins_follow_registration _ clearSignIns accountsExample _ rfl).1⟩

theorem registered_password_signs_in_example :
    ∃ s, (accountsMachine clearSignIns).run .empty accountsExample = .some s ∧
      clearSignIns.passwordUser s.users (storedEmail "a@x") "secret" "salt" false = .ok 1 :=
  ⟨_, rfl, ((@registered_password_signs_in _ clearSignIns accountsExample [] _ _ rfl rfl "a@x" "secret" "salt" 1
    (by decide)).2 "secret" 1).2 ⟨rfl, rfl⟩⟩

end

end AtomaProxy
