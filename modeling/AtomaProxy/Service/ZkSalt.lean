/-
`get_zk_salt`: the salt of a user's zkLogin address is read, and where there
is none one is generated and written.

The two are separate statements, and the `UPDATE` asks for the user's id
alone: two requests that both read nothing both write, and the first has by
then returned a salt that is lost. What is proved is that nothing else goes
wrong: over any number of requests of any users, in any order of their
statements, the salts returned are the stored ones exactly if no request
writes over the salt of another.
-/
import AtomaProxy.Auth.Errors
import AtomaProxy.Base.Machine

namespace AtomaProxy

open Base

/-- The column `zk_salt` of the table `users`, under its `id`. -/
abbrev ZkSalts := Table Int64 (Option String)

namespace ZkSalts

/-- `get_zk_salt` of the state manager. -/
def getZkSalt (t : ZkSalts) (userId : Int64) : Option String := (t userId).join

/-- `set_zk_salt`: a user that is not there is not an error. -/
def setZkSalt (t : ZkSalts) (userId : Int64) (zkSalt : String) : ZkSalts :=
  t.after userId fun _ => .ok (.some (.some zkSalt))

end ZkSalts

inductive StatusCode where
  | unauthorized
  | internalServerError
  deriving DecidableEq, Repr

/-- Where a request waits once its user is known. -/
inductive ZkSaltPhase where
  /-- for `get_zk_salt` -/
  | get
  /-- for `set_zk_salt`, of the salt it generated -/
  | set (zkSalt : String)
  deriving DecidableEq, Repr

/-- What an answer leads to. -/
inductive ZkSaltContinued where
  | waits (phase : ZkSaltPhase)
  | ended (response : Except StatusCode String)

/-- After `get_user_id_from_token`. -/
def afterGetUserId (token : Except AuthError Int64) : Except StatusCode Int64 := token.mapError fun _ => .unauthorized

/-- After `get_zk_salt`; `generated` are the sixteen random bytes, in base64. -/
def afterGetZkSalt (generated : String) : Except AtomaStateManagerError (Option String) → ZkSaltContinued
  | .ok (.some zkSalt) => .ended (.ok zkSalt)
  | .ok .none => .waits (.set generated)
  | .error _ => .ended (.error .internalServerError)

/-- After `set_zk_salt`. -/
def afterSetZkSalt (zkSalt : String) : Except AtomaStateManagerError Unit → ZkSaltContinued
  | .ok () => .ended (.ok zkSalt)
  | .error _ => .ended (.error .internalServerError)

/-! ## Requests in any order -/

structure ZkSaltRequest where
  userId : Int64
  phase : ZkSaltPhase
  deriving DecidableEq, Repr

/-- The column, the requests that have not ended, and the salts returned, latest first. -/
structure ZkSaltState where
  users : ZkSalts
  requests : List ZkSaltRequest
  returned : List (Int64 × String)

inductive ZkSaltEvent where
  /-- a request comes, and its token is looked at -/
  | request (token : Except AuthError Int64)
  /-- a request reads; a statement that the database does not answer `fails` -/
  | getZkSalt (userId : Int64) (generated : String) (fails : Bool)
  /-- a request writes -/
  | setZkSalt (userId : Int64) (zkSalt : String) (fails : Bool)
  /-- a request's client is gone -/
  | cancelled (request : ZkSaltRequest)

/-- The request goes on. -/
def ZkSaltState.goOn (s : ZkSaltState) (r : ZkSaltRequest) : ZkSaltContinued → ZkSaltState
  | .waits phase => { s with requests := { r with phase } :: s.requests.erase r }
  | .ended (.ok zkSalt) =>
    { s with requests := s.requests.erase r, returned := (r.userId, zkSalt) :: s.returned }
  | .ended (.error _) => { s with requests := s.requests.erase r }

def zkSaltStep (s : ZkSaltState) : ZkSaltEvent → Option ZkSaltState
  | .request token =>
    match afterGetUserId token with
    | .ok userId => .some { s with requests := ⟨userId, .get⟩ :: s.requests }
    | .error _ => .some s
  | .getZkSalt userId generated fails =>
    let r : ZkSaltRequest := ⟨userId, .get⟩
    if r ∈ s.requests then
      .some (s.goOn r (afterGetZkSalt generated (answered fails (.ok (s.users.getZkSalt userId)))))
    else .none
  | .setZkSalt userId zkSalt fails =>
    let r : ZkSaltRequest := ⟨userId, .set zkSalt⟩
    if r ∈ s.requests then
      match answered fails (.ok (s.users.setZkSalt userId zkSalt)) with
      | .ok users => .some ({ s with users }.goOn r (afterSetZkSalt zkSalt (.ok ())))
      | .error e => .some (s.goOn r (afterSetZkSalt zkSalt (.error e)))
    else .none
  | .cancelled r => if r ∈ s.requests then .some { s with requests := s.requests.erase r } else .none

def zkSaltMachine : Machine ZkSaltState ZkSaltEvent := ⟨zkSaltStep⟩

/-- A user's requests return one salt, and it is the stored one. -/
structure ZkSaltState.Stable (s : ZkSaltState) : Prop where
  same : ∀ u a b, (u, a) ∈ s.returned → (u, b) ∈ s.returned → a = b
  stored : ∀ u a, (u, a) ∈ s.returned → s.users.getZkSalt u = .some a

/-- The condition: a salt is written to a user who has none, or the same. -/
def ZkSaltEvent.Sets (s : ZkSaltState) : ZkSaltEvent → Prop
  | .setZkSalt userId zkSalt false => s.users userId = .some .none ∨ s.users userId = .some (.some zkSalt)
  | _ => True

/-! ## What a step can do -/

theorem ZkSalts.getZkSalt_setZkSalt {t : ZkSalts} {u : Int64} {row : Option String} (h : t u = .some row)
    (zkSalt : String) (v : Int64) :
    (t.setZkSalt u zkSalt).getZkSalt v = if v = u then .some zkSalt else t.getZkSalt v := by
  unfold getZkSalt setZkSalt
  rw [Table.after_apply]
  split
  · rw [h]
    rfl
  · rfl

/-- What a write returns is stored where there is a row for it. -/
theorem ZkSalts.row_of_getZkSalt_setZkSalt {t : ZkSalts} {u : Int64} {zkSalt salt : String}
    (h : (t.setZkSalt u zkSalt).getZkSalt u = .some salt) : ∃ row, t u = .some row := by
  cases hrow : t u with
  | some row => exact ⟨row, rfl⟩
  | none =>
    unfold getZkSalt setZkSalt at h
    rw [Table.after_apply, if_pos rfl, hrow] at h
    cases h

/-- What a step does to the column, to what was returned, and to the requests that are about to write. -/
inductive ZkSaltState.Does (s s' : ZkSaltState) : ZkSaltEvent → Prop where
  | ended {ev} (users : s'.users = s.users) (returned : s'.returned = s.returned)
    (requests : ∀ u salt, ⟨u, .set salt⟩ ∈ s'.requests → ⟨u, .set salt⟩ ∈ s.requests) (sets : ev.Sets s) :
    Does s s' ev
  | found {u generated salt} (stored : s.users.getZkSalt u = .some salt) (users : s'.users = s.users)
    (returned : s'.returned = (u, salt) :: s.returned)
    (requests : ∀ v salt, ⟨v, .set salt⟩ ∈ s'.requests → ⟨v, .set salt⟩ ∈ s.requests) :
    Does s s' (.getZkSalt u generated false)
  | generated {u generated} (stored : s.users.getZkSalt u = .none) (users : s'.users = s.users)
    (returned : s'.returned = s.returned)
    (requests : ∀ v salt, ⟨v, .set salt⟩ ∈ s'.requests → v = u ∨ ⟨v, .set salt⟩ ∈ s.requests) :
    Does s s' (.getZkSalt u generated false)
  | wrote {u salt} (writing : ⟨u, .set salt⟩ ∈ s.requests) (users : s'.users = s.users.setZkSalt u salt)
    (returned : s'.returned = (u, salt) :: s.returned)
    (requests : ∀ v salt, ⟨v, .set salt⟩ ∈ s'.requests → ⟨v, .set salt⟩ ∈ s.requests) :
    Does s s' (.setZkSalt u salt false)

theorem zkSaltStep_does {s s' : ZkSaltState} {ev : ZkSaltEvent} (h : zkSaltStep s ev = .some s') : s.Does s' ev := by
  cases ev with
  | request token =>
    unfold zkSaltStep afterGetUserId at h
    cases token with
    | error e =>
      cases h
      exact .ended rfl rfl (fun _ _ hr => hr) trivial
    | ok u =>
      cases h
      refine .ended rfl rfl (fun v salt hr => ?_) trivial
      rcases List.mem_cons.1 hr with heq | hr
      · cases heq
      · exact hr
  | cancelled r =>
    unfold zkSaltStep at h
    dsimp only at h
    split at h
    · cases h
      exact .ended rfl rfl (fun _ _ hr => List.mem_of_mem_erase hr) trivial
    · cases h
  | getZkSalt u generated fails =>
    unfold zkSaltStep at h
    dsimp only at h
    split at h
    · cases fails with
      | true =>
        cases h
        exact .ended rfl rfl (fun _ _ hr => List.mem_of_mem_erase hr) trivial
      | false =>
        rw [answered_false] at h
        cases hstored : s.users.getZkSalt u with
        | some salt =>
          rw [hstored] at h
          cases h
          exact .found hstored rfl rfl fun _ _ hr => List.mem_of_mem_erase hr
        | none =>
          rw [hstored] at h
          cases h
          refine .generated hstored rfl rfl fun v salt hr => ?_
          rcases List.mem_cons.1 hr with heq | hr
          · cases heq
            exact .inl rfl
          · exact .inr (List.mem_of_mem_erase hr)
    · cases h
  | setZkSalt u salt fails =>
    unfold zkSaltStep at h
    dsimp only at h
    split at h
    · next hmem =>
      cases fails with
      | true =>
        cases h
        exact .ended rfl rfl (fun _ _ hr => List.mem_of_mem_erase hr) trivial
      | false =>
        cases h
        exact .wrote hmem rfl rfl fun _ _ hr => List.mem_of_mem_erase hr
    · cases h

/-! ## The invariant -/

/-- A salt that is stored while a request is about to write was returned. -/
structure ZkSaltState.Sound (s : ZkSaltState) : Prop where
  stable : s.Stable
  writing : ∀ u salt old, ⟨u, .set salt⟩ ∈ s.requests → s.users.getZkSalt u = .some old → (u, old) ∈ s.returned

theorem ZkSaltState.stable_of_stored {s : ZkSaltState}
    (h : ∀ u a, (u, a) ∈ s.returned → s.users.getZkSalt u = .some a) : s.Stable where
  same u a b ha hb := Option.some.inj ((h u a ha).symm.trans (h u b hb))
  stored := h

/-- What returns stored salts alone, and lets no request write that did not but for a user without one, keeps it. -/
theorem ZkSaltState.Sound.of_users {s s' : ZkSaltState} (h : s.Sound) (husers : s'.users = s.users)
    (hreturned : ∀ u a, (u, a) ∈ s'.returned → s.users.getZkSalt u = .some a) (hmore : s.returned ⊆ s'.returned)
    (hwriting : ∀ u salt old, ⟨u, .set salt⟩ ∈ s'.requests → s.users.getZkSalt u = .some old →
      ⟨u, .set salt⟩ ∈ s.requests) : s'.Sound where
  stable := stable_of_stored (husers ▸ hreturned)
  writing u salt old hmem hold := by
    rw [husers] at hold
    exact hmore (h.writing u salt old (hwriting u salt old hmem hold) hold)

theorem ZkSaltState.Sound.step {s s' : ZkSaltState} {ev : ZkSaltEvent} (h : s.Sound) (hsets : ev.Sets s)
    (hdoes : s.Does s' ev) : s'.Sound := by
  cases hdoes with
  | ended husers hreturned hrequests =>
    refine h.of_users husers ?_ ?_ fun v salt _ hmem _ => hrequests v salt hmem
    · exact hreturned ▸ h.stable.stored
    · exact hreturned ▸ List.Subset.refl _
  | @found u generated salt hstored husers hreturned hrequests =>
    refine h.of_users husers (fun v a hmem => ?_) ?_ fun v salt _ hmem _ => hrequests v salt hmem
    · rw [hreturned] at hmem
      rcases List.mem_cons.1 hmem with heq | hmem
      · cases heq
        exact hstored
      · exact h.stable.stored v a hmem
    · exact hreturned ▸ List.subset_cons_self _ _
  | @generated u generated hstored husers hreturned hrequests =>
    refine h.of_users husers ?_ ?_ fun v salt old hmem hold => ?_
    · exact hreturned ▸ h.stable.stored
    · exact hreturned ▸ List.Subset.refl _
    · rcases hrequests v salt hmem with rfl | hmem
      · rw [hstored] at hold
        cases hold
      · exact hmem
  | @wrote u salt hwriting husers hreturned hrequests =>
    obtain ⟨row, hrow, hkeeps⟩ : ∃ row, s.users u = .some row ∧ ∀ old, row = .some old → old = salt := by
      rcases hsets with hnone | hsame
      · exact ⟨_, hnone, fun old hold => by cases hold⟩
      · exact ⟨_, hsame, fun old hold => (Option.some.inj hold).symm⟩
    have hget : s.users.getZkSalt u = row := by rw [ZkSalts.getZkSalt, hrow, Option.join_some]
    constructor
    · refine stable_of_stored fun v a hmem => ?_
      rw [hreturned] at hmem
      rw [husers, ZkSalts.getZkSalt_setZkSalt hrow]
      rcases List.mem_cons.1 hmem with heq | hmem
      · cases heq
        exact if_pos rfl
      · have hstored := h.stable.stored v a hmem
        split
        · next hv =>
          rw [hv, hget] at hstored
          rw [hkeeps a hstored]
        · exact hstored
    · intro v salt' old hmem hold
      rw [husers, ZkSalts.getZkSalt_setZkSalt hrow] at hold
      rw [hreturned]
      split at hold
      · next hv =>
        cases hold
        rw [hv]
        exact List.mem_cons_self
      · exact List.mem_cons_of_mem _ (h.writing v salt' old (hrequests v salt' hmem) hold)

/-- A write that leaves every salt returned stored is of a user who had none, or the same. -/
theorem ZkSaltState.Sound.sets {s s' : ZkSaltState} {ev : ZkSaltEvent} (h : s.Sound) (hstable : s'.Stable)
    (hdoes : s.Does s' ev) : ev.Sets s := by
  cases hdoes with
  | ended _ _ _ hsets => exact hsets
  | found => trivial
  | generated => trivial
  | @wrote u salt hwriting husers hreturned hrequests =>
    have hnew : (u, salt) ∈ s'.returned := hreturned ▸ List.mem_cons_self
    obtain ⟨row, hrow⟩ := ZkSalts.row_of_getZkSalt_setZkSalt (husers ▸ hstable.stored u salt hnew)
    cases row with
    | none => exact .inl hrow
    | some old =>
      have hget : s.users.getZkSalt u = .some old := by rw [ZkSalts.getZkSalt, hrow, Option.join_some]
      have hold : (u, old) ∈ s'.returned := hreturned ▸ List.mem_cons_of_mem _ (h.writing u salt old hwriting hget)
      rw [hstable.same u old salt hold hnew] at hrow
      exact .inr hrow

/-- **Main result.** From no request in flight, and whatever salts the users have, the salts returned are the stored
ones in every state of a run exactly if each salt it writes is of a user who has none by then, or the same. -/
theorem zk_salt_stable_iff {users : ZkSalts} {evs : List ZkSaltEvent} {s' : ZkSaltState}
    (hrun : zkSaltMachine.run ⟨users, [], []⟩ evs = .some s') :
    zkSaltMachine.Always ZkSaltState.Stable ⟨users, [], []⟩ evs ↔
      zkSaltMachine.Guarded (fun s ev => ev.Sets s) ⟨users, [], []⟩ evs := by
  have hstart : ZkSaltState.Sound ⟨users, [], []⟩ :=
    ⟨ZkSaltState.stable_of_stored fun _ _ h => absurd h List.not_mem_nil, fun _ _ _ h => absurd h List.not_mem_nil⟩
  refine Machine.always_iff_guarded (fun h => h.stable) ?_ ?_ hstart
    (Machine.guarded_of_forall (fun _ _ => trivial) evs _) hrun
  · intro s ev s' h _ hstep hstable
    exact h.sets hstable (zkSaltStep_does hstep)
  · intro s ev s' h _ hsets hstep
    exact h.step hsets (zkSaltStep_does hstep)

/-- User 1, without a salt. -/
def zkSaltExample : ZkSalts := fun u => if u = 1 then .some .none else .none

/-- Two requests of user 1, the second of which comes to read before the first writes, or after. -/
def zkSaltRequests (together : Bool) : List ZkSaltEvent :=
  [.request (.ok 1), .getZkSalt 1 "a" false, .request (.ok 1)] ++
    if together then [.getZkSalt 1 "b" false, .setZkSalt 1 "a" false, .setZkSalt 1 "b" false]
    else [.setZkSalt 1 "a" false, .getZkSalt 1 "b" false]

theorem zk_salt_stable_iff_example :
    zkSaltMachine.Always ZkSaltState.Stable ⟨zkSaltExample, [], []⟩ (zkSaltRequests false) := by
  refine (zk_salt_stable_iff rfl).2 ?_
  refine (Machine.guarded_cons rfl).2 ⟨trivial, ?_⟩
  refine (Machine.guarded_cons rfl).2 ⟨trivial, ?_⟩
  refine (Machine.guarded_cons rfl).2 ⟨trivial, ?_⟩
  refine (Machine.guarded_cons rfl).2 ⟨.inl rfl, ?_⟩
  exact (Machine.guarded_cons rfl).2 ⟨trivial, trivial⟩

/-- Both read nothing, both write, and "a" is lost. -/
theorem zk_salt_fails : ¬ ∀ (users : ZkSalts) (evs : List ZkSaltEvent) (s' : ZkSaltState),
    zkSaltMachine.run ⟨users, [], []⟩ evs = .some s' → s'.Stable := by
  intro h
  have hstable := h zkSaltExample (zkSaltRequests true) _ rfl
  exact absurd (hstable.same 1 "a" "b" (by decide) (by decide)) (by decide)

end AtomaProxy
