/-
Prices of their own: the table `user_model_prices`, the endpoint and the event
that write it, and the price that a request is quoted. A price that is set is a
row more, and the row of the latest time is the price; the table's key lets no
two rows of a user and a model have one time, so that as long as the clock does
not go back the price is the one set last.
-/
import AtomaProxy.Server.ApiTokens
import AtomaProxy.Base.Records

namespace AtomaProxy

open Base

/-! ## The table -/

/-- A row of `user_model_prices`, its time in microseconds. -/
structure UserModelPrice where
  userId : Int64
  modelName : String
  pricing : Pricing
  creationTimestamp : Int
  deriving DecidableEq, Repr

abbrev UserModelPrices := List UserModelPrice

namespace UserModelPrices

/-- The rows of a user and a model. -/
def of (t : UserModelPrices) (userId : Int64) (model : String) : UserModelPrices :=
  t.filter fun r => r.userId = userId ∧ r.modelName = model

/-- `set_custom_pricing`, at the time `now` (`CURRENT_TIMESTAMP`). -/
def setCustomPricing (t : UserModelPrices) (now : Int) (userId : Int64) (model : String) (pricing : Pricing) :
    Except StatementError UserModelPrices := do
  let model ← textArgument model
  (insertNew (fun r => r.userId = userId ∧ r.modelName = model ∧ r.creationTimestamp = now)
    ⟨userId, model, pricing, now⟩ t).mapError .sql

/-- `get_custom_pricing`. -/
def getCustomPricing (t : UserModelPrices) (userId : Int64) (model : String) :
    Except StatementError (Option Pricing) := do
  let model ← textArgument model
  .ok ((latestBy UserModelPrice.creationTimestamp (t.of userId model)).map UserModelPrice.pricing)

end UserModelPrices

/-! ## Setting a price -/

structure SetPriceForUserForModel where
  userId : Int64
  modelName : String
  pricePerOneMillionInputComputeUnits : Int64
  pricePerOneMillionOutputComputeUnits : Int64
  deriving DecidableEq, Repr

def SetPriceForUserForModel.pricing (body : SetPriceForUserForModel) : Pricing :=
  ⟨body.pricePerOneMillionInputComputeUnits, body.pricePerOneMillionOutputComputeUnits⟩

/-- A price that was set. -/
structure PriceSet where
  userId : Int64
  modelName : String
  pricing : Pricing
  deriving DecidableEq, Repr

structure PricingState where
  prices : UserModelPrices
  /-- the prices set so far -/
  set : List PriceSet

/-- `set_pricing_for_user`, and `SetCustomPricing`, whose statement the database may not answer. -/
inductive PricingStep where
  | setPricingForUser (now : Int) (headers : Headers) (body : SetPriceForUserForModel) (fails : Bool)
  | setCustomPricing (now : Int) (userId : Int64) (model : String) (pricing : Pricing) (fails : Bool)

def PricingStep.now : PricingStep → Int
  | .setPricingForUser now .. => now
  | .setCustomPricing now .. => now

namespace PricingState

def empty : PricingState := ⟨[], []⟩

/-- The statement, and whether it set the price. -/
def setPrice (s : PricingState) (now : Int) (userId : Int64) (model : String) (pricing : Pricing) (fails : Bool) :
    PricingState × Except StatementError Unit :=
  match if fails then .error (.sql .unavailable) else s.prices.setCustomPricing now userId model pricing with
  | .ok prices => (⟨prices, s.set ++ [⟨userId, model, pricing⟩]⟩, .ok ())
  | .error e => (s, .error e)

/-- `set_pricing_for_user`, with the status it answers. -/
def setPricingForUser (settingsPassword : String) (s : PricingState) (now : Int) (headers : Headers)
    (body : SetPriceForUserForModel) (fails : Bool) : PricingState × Nat :=
  match bearerToken headers with
  | .none => (s, 401)
  | .some token =>
    if token ≠ settingsPassword then (s, 401)
    else
      let (s', result) := s.setPrice now body.userId body.modelName body.pricing fails
      (s', if result.isOk then 200 else 500)

def step (settingsPassword : String) (s : PricingState) : PricingStep → PricingState
  | .setPricingForUser now headers body fails => (s.setPricingForUser settingsPassword now headers body fails).1
  | .setCustomPricing now userId model pricing fails => (s.setPrice now userId model pricing fails).1

/-- The time of a step is no earlier than that of a row. -/
def ClockRuns (s : PricingState) (step : PricingStep) : Prop :=
  ∀ r ∈ s.prices, r.creationTimestamp ≤ step.now

end PricingState

def pricingMachine (settingsPassword : String) : Machine PricingState PricingStep :=
  ⟨fun s step => .some (s.step settingsPassword step)⟩

/-- The price set last for a user and a model. -/
def lastSet (set : List PriceSet) (userId : Int64) (model : String) : Option Pricing :=
  (set.reverse.find? fun p => p.userId = userId ∧ p.modelName = model).map PriceSet.pricing

/-- The step asks for that price, knowing the password where it is a request. -/
def PricingStep.Asks (settingsPassword : String) (p : PriceSet) : PricingStep → Prop
  | .setPricingForUser _ headers body _ =>
    bearerToken headers = .some settingsPassword ∧ p = ⟨body.userId, body.modelName, body.pricing⟩
  | .setCustomPricing _ userId model pricing _ => p = ⟨userId, model, pricing⟩

/-! ## The table follows what was set -/

theorem lastSet_concat (set : List PriceSet) (p : PriceSet) (userId : Int64) (model : String) :
    lastSet (set ++ [p]) userId model =
      if p.userId = userId ∧ p.modelName = model then .some p.pricing else lastSet set userId model := by
  unfold lastSet
  rw [List.reverse_append, List.reverse_singleton, List.singleton_append, List.find?_cons]
  by_cases h : p.userId = userId ∧ p.modelName = model
  · rw [if_pos h, decide_eq_true h]
    rfl
  · rw [if_neg h, decide_eq_false h]

theorem lastSet_mem {set : List PriceSet} {userId : Int64} {model : String} {pricing : Pricing}
    (h : lastSet set userId model = .some pricing) : ⟨userId, model, pricing⟩ ∈ set := by
  obtain ⟨p, hfound, rfl⟩ := Option.map_eq_some_iff.1 h
  obtain ⟨rfl, rfl⟩ : p.userId = userId ∧ p.modelName = model := by simpa using List.find?_some hfound
  exact List.mem_reverse.1 (List.mem_of_find?_eq_some hfound)

theorem lastSet_eq_none {set : List PriceSet} {userId : Int64} {model : String}
    (h : lastSet set userId model = .none) (pricing : Pricing) : ⟨userId, model, pricing⟩ ∉ set := by
  intro hmem
  have hnone := List.find?_eq_none.1 (Option.map_eq_none_iff.1 h) _ (List.mem_reverse.2 hmem)
  exact hnone (decide_eq_true ⟨rfl, rfl⟩)

theorem of_concat (t : UserModelPrices) (row : UserModelPrice) (userId : Int64) (model : String) :
    UserModelPrices.of (t ++ [row]) userId model =
      if row.userId = userId ∧ row.modelName = model then t.of userId model ++ [row] else t.of userId model := by
  unfold UserModelPrices.of
  rw [List.filter_append, List.filter_singleton]
  by_cases h : row.userId = userId ∧ row.modelName = model
  · rw [if_pos h, decide_eq_true h]
    rfl
  · rw [if_neg h, decide_eq_false h]
    exact List.append_nil _

/-- A row later than all others is the one taken. -/
theorem latestBy_concat {rows : UserModelPrices} {row : UserModelPrice}
    (h : ∀ r ∈ rows, r.creationTimestamp < row.creationTimestamp) :
    latestBy UserModelPrice.creationTimestamp (rows ++ [row]) = .some row := by
  cases hlatest : latestBy UserModelPrice.creationTimestamp (rows ++ [row]) with
  | none => exact absurd (latestBy_eq_none.1 hlatest) (List.append_ne_nil_of_right_ne_nil _ (List.cons_ne_nil _ _))
  | some r =>
    obtain ⟨hmem, hgreatest⟩ := latestBy_eq_some hlatest
    rcases List.mem_append.1 hmem with hold | hnew
    · have hlt := h r hold
      have hle := hgreatest row (List.mem_append_right _ List.mem_cons_self)
      omega
    · rw [List.mem_singleton.1 hnew]

/-- What a statement that succeeds leaves: its row is a later one than those of its user and model. -/
theorem setCustomPricing_ok {t t' : UserModelPrices} {now : Int} {userId : Int64} {model : String} {pricing : Pricing}
    (hclock : ∀ r ∈ t, r.creationTimestamp ≤ now) (h : t.setCustomPricing now userId model pricing = .ok t') :
    t' = t ++ [⟨userId, model, pricing, now⟩] ∧ ∀ r ∈ t.of userId model, r.creationTimestamp < now := by
  obtain ⟨text, htext, hinsert⟩ := ok_bind_iff.1 h
  obtain rfl := (textArgument_ok.1 htext).2
  obtain ⟨hclash, rfl⟩ := insertNew_ok.1 (mapError_eq_ok.1 hinsert)
  refine ⟨rfl, fun r hr => ?_⟩
  obtain ⟨hmem, hof⟩ := List.mem_filter.1 hr
  obtain ⟨huser, hmodel⟩ := of_decide_eq_true hof
  have hother : r.creationTimestamp ≠ now := fun heq => of_decide_eq_false (hclash r hmem) ⟨huser, hmodel, heq⟩
  have := hclock r hmem
  omega

namespace PricingState

/-- The latest rows are the prices set last. -/
def Follows (s : PricingState) : Prop := ∀ userId model,
  (latestBy UserModelPrice.creationTimestamp (s.prices.of userId model)).map UserModelPrice.pricing =
    lastSet s.set userId model

variable {settingsPassword : String} {s s' : PricingState}

theorem Follows.setPrice (h : s.Follows) {now : Int} (hclock : ∀ r ∈ s.prices, r.creationTimestamp ≤ now)
    (userId : Int64) (model : String) (pricing : Pricing) (fails : Bool) :
    (s.setPrice now userId model pricing fails).1.Follows := by
  unfold PricingState.setPrice
  split
  · next prices hset =>
    split at hset
    · cases hset
    · obtain ⟨rfl, hlater⟩ := setCustomPricing_ok hclock hset
      intro userId' model'
      rw [lastSet_concat, of_concat]
      by_cases hsame : userId = userId' ∧ model = model'
      · rw [if_pos hsame, if_pos hsame]
        obtain ⟨rfl, rfl⟩ := hsame
        rw [latestBy_concat hlater]
        rfl
      · rw [if_neg hsame, if_neg hsame]
        exact h userId' model'
  · exact h

/-- **Step lemma.** -/
theorem Follows.step {step : PricingStep} (h : s.Follows) (hclock : s.ClockRuns step) :
    (s.step settingsPassword step).Follows := by
  cases step with
  | setPricingForUser now headers body fails =>
    dsimp only [PricingState.step, setPricingForUser]
    split
    · exact h
    · split
      · exact h
      · exact h.setPrice hclock _ _ _ _
  | setCustomPricing now userId model pricing fails => exact h.setPrice hclock _ _ _ _

/-- A price that a step sets is the one it asks for. -/
theorem set_step (step : PricingStep) : (s.step settingsPassword step).set = s.set ∨
    ∃ p, step.Asks settingsPassword p ∧ (s.step settingsPassword step).set = s.set ++ [p] := by
  have hset : ∀ now userId model pricing fails, (s.setPrice now userId model pricing fails).1.set = s.set ∨
      (s.setPrice now userId model pricing fails).1.set = s.set ++ [⟨userId, model, pricing⟩] := by
    intro now userId model pricing fails
    unfold PricingState.setPrice
    split
    · exact .inr rfl
    · exact .inl rfl
  cases step with
  | setPricingForUser now headers body fails =>
    dsimp only [PricingState.step, setPricingForUser]
    split
    · exact .inl rfl
    · next token htoken =>
      split
      · exact .inl rfl
      · next hpassword =>
        rw [not_ne_iff] at hpassword
        exact (hset _ _ _ _ _).imp_right fun hset => ⟨_, ⟨hpassword ▸ htoken, rfl⟩, hset⟩
  | setCustomPricing now userId model pricing fails =>
    exact (hset _ _ _ _ _).imp_right fun hset => ⟨_, rfl, hset⟩

/-- Every price that was set was asked for. -/
theorem asked_run {steps : List PricingStep} (hrun : (pricingMachine settingsPassword).run .empty steps = .some s) :
    ∀ p ∈ s.set, ∃ step ∈ steps, step.Asks settingsPassword p :=
  @Machine.run_history _ _ (pricingMachine settingsPassword)
    (fun steps s => ∀ p ∈ s.set, ∃ step ∈ steps, step.Asks settingsPassword p) (fun {steps s step s'} h hstep p hp => by
      obtain rfl := Option.some.inj hstep
      have hold : p ∈ s.set → ∃ step' ∈ steps ++ [step], step'.Asks settingsPassword p := fun hp => by
        obtain ⟨step', hmem, hasks⟩ := h p hp
        exact ⟨step', List.mem_append_left _ hmem, hasks⟩
      rcases @set_step settingsPassword s step with hset | ⟨p', hasks, hset⟩
      · exact hold (hset ▸ hp)
      · rw [hset, List.mem_append, List.mem_singleton] at hp
        rcases hp with hp | rfl
        · exact hold hp
        · exact ⟨step, List.mem_append_right _ List.mem_cons_self, hasks⟩) steps [] PricingState.empty s nofun hrun

end PricingState

/-! ## The price of a request -/

/-- The reply to `GetCustomPricing`. -/
def customPricingReply (debug : StatementError → String) (endpoint : String)
    (result : Except StatementError (Option Pricing)) : Except AtomaProxyError (Option Pricing) :=
  result.mapError fun e => .internalError ("Failed to get GetCustomPricing result: " ++ debug e) .none endpoint

/-- A request is quoted its user's price for the model, or its node's. -/
theorem quote_prices {a : AuthAnswers} {request : RequestModel} {endpoint : String} {m : StackMetadata}
    (h : quote a request endpoint = .ok m) : ∃ node custom, a.getCheapestNode m.model = .ok node ∧
      a.getCustomPricing m.userId m.model = .ok custom ∧
      (⟨m.pricePerOneMillionInputComputeUnits, m.pricePerOneMillionOutputComputeUnits⟩ : Pricing) =
        custom.getD ⟨node.pricePerOneMillionComputeUnits, node.pricePerOneMillionComputeUnits⟩ := by
  obtain ⟨userId, _, hquote⟩ := ok_bind_iff.1 h
  obtain ⟨tokenizer, _, hquote⟩ := ok_bind_iff.1 hquote
  obtain ⟨estimate, _, hquote⟩ := ok_bind_iff.1 hquote
  obtain ⟨node, hnode, hquote⟩ := ok_bind_iff.1 hquote
  obtain ⟨custom, hcustom, hquote⟩ := ok_bind_iff.1 hquote
  cases hquote
  exact ⟨node, custom, hnode, hcustom, rfl⟩

theorem getCustomPricing_ok {t : UserModelPrices} {userId : Int64} {model : String} {custom : Option Pricing}
    (h : t.getCustomPricing userId model = .ok custom) :
    custom = (latestBy UserModelPrice.creationTimestamp (t.of userId model)).map UserModelPrice.pricing := by
  obtain ⟨text, htext, hlatest⟩ := ok_bind_iff.1 h
  obtain rfl := (textArgument_ok.1 htext).2
  exact (Except.ok.inj hlatest).symm

section

variable {settingsPassword : String} {steps : List PricingStep} {s : PricingState}

/-- **Main result.** However prices are set and refused, while the clock does not go back: a request is quoted the price
that was set last for its user and model, which someone asked for who knew the password or sent the event; and where
none was set, its node's. -/
theorem quoted_price_last_set (hrun : (pricingMachine settingsPassword).run .empty steps = .some s)
    (hclock : (pricingMachine settingsPassword).Guarded PricingState.ClockRuns .empty steps)
    {debug : StatementError → String} {a : AuthAnswers} {request : RequestModel} {endpoint : String} {m : StackMetadata}
    (ha : ∀ userId model, a.getCustomPricing userId model =
      customPricingReply debug endpoint (s.prices.getCustomPricing userId model))
    (hquote : quote a request endpoint = .ok m) :
    let quoted : Pricing := ⟨m.pricePerOneMillionInputComputeUnits, m.pricePerOneMillionOutputComputeUnits⟩
    (lastSet s.set m.userId m.model = .some quoted ∧
      ∃ step ∈ steps, step.Asks settingsPassword ⟨m.userId, m.model, quoted⟩) ∨
    (∀ pricing, ⟨m.userId, m.model, pricing⟩ ∉ s.set) ∧ ∃ node, a.getCheapestNode m.model = .ok node ∧
      quoted = ⟨node.pricePerOneMillionComputeUnits, node.pricePerOneMillionComputeUnits⟩ := by
  have hfollows : s.Follows := Machine.run_invariant (fun {_ step _} hi hc hstep => by
    obtain rfl := Option.some.inj hstep
    exact PricingState.Follows.step hi hc) (fun _ _ => rfl) hclock hrun
  obtain ⟨node, custom, hnode, hcustom, hquoted⟩ := quote_prices hquote
  rw [ha] at hcustom
  have hlast := getCustomPricing_ok (mapError_eq_ok.1 hcustom)
  rw [hfollows] at hlast
  dsimp only
  rw [hquoted]
  cases custom with
  | some pricing =>
    have hset := hlast.symm
    exact .inl ⟨hset, PricingState.asked_run hrun _ (lastSet_mem hset)⟩
  | none => exact .inr ⟨lastSet_eq_none hlast.symm, node, hnode, rfl⟩

/-- A price is set and set anew, and not set where the password is wrong. -/
def pricingStepsExample : List PricingStep :=
  [.setPricingForUser 10 ⟨.some "Bearer password", .none, .none⟩ ⟨1, "model", 5, 6⟩ false,
    .setPricingForUser 20 ⟨.some "Bearer password", .none, .none⟩ ⟨1, "model", 7, 8⟩ false,
    .setPricingForUser 30 ⟨.some "Bearer guess", .none, .none⟩ ⟨1, "model", 0, 0⟩ false]

def pricedExample : UserModelPrices := [⟨1, "model", ⟨5, 6⟩, 10⟩, ⟨1, "model", ⟨7, 8⟩, 20⟩]

/-- The proxy's calls, answered from these rows. -/
def pricedAnswersExample : AuthAnswers :=
  let reply (userId : Int64) (model : String) : Except AtomaProxyError (Option Pricing) :=
    customPricingReply (fun _ => "error") chatCompletionsPath (pricedExample.getCustomPricing userId model)
  { answersExample 1000000 with getCustomPricing := reply }

theorem pricingStepsExample_guarded :
    (pricingMachine "password").Guarded PricingState.ClockRuns .empty pricingStepsExample := by
  refine (Machine.guarded_cons rfl).2 ⟨nofun, (Machine.guarded_cons rfl).2 ⟨?_, (Machine.guarded_cons rfl).2 ⟨?_, ?_⟩⟩⟩
  · show ∀ r ∈ [(⟨1, "model", ⟨5, 6⟩, 10⟩ : UserModelPrice)], r.creationTimestamp ≤ 20
    decide
  · show ∀ r ∈ pricedExample, r.creationTimestamp ≤ 30
    decide
  · trivial

theorem quoted_price_last_set_example : ∃ s, (pricingMachine "password").run .empty pricingStepsExample = .some s ∧
    lastSet s.set 1 "model" = .some ⟨7, 8⟩ := by
  have hquote : quote pricedAnswersExample (requestExample 8192) chatCompletionsPath =
      .ok ⟨5, 8192, "model", 1, 7, 7, 8⟩ := rfl
  have hresult := @quoted_price_last_set "password" pricingStepsExample _ rfl pricingStepsExample_guarded _ _ _ _ _
    (fun _ _ => rfl) hquote
  refine ⟨_, rfl, ?_⟩
  rcases hresult with hset | hnode
  · exact hset.1
  · obtain ⟨node, hnode, hprice⟩ := hnode.2
    cases hnode
    cases hprice

end

end AtomaProxy
