/-
The usage tables against the fiat balances: what a settled request adds to the
three of them, and when they agree.

They are written by three statements of one event, and two of them only where
there are output tokens. The totals of `usage_per_model` are named for tokens
and added amounts to, so they are what they are named for only where every
request's amounts are its tokens; a request without output tokens is debited
and counted nowhere.
-/
import AtomaProxy.Base.TableTotals
import AtomaProxy.State.FiatLedger

namespace AtomaProxy

open Base

/-! ## What the rows hold, input first -/

def UsagePerModel.tokens (row : UsagePerModel) : Int × Int := amounts row.totalInputTokens row.totalOutputTokens

def UsagePerDay.tokens (row : UsagePerDay) : Int × Int := amounts row.inputTokens row.outputTokens

def UsagePerDay.spent (row : UsagePerDay) : Int × Int := amounts row.inputAmount row.outputAmount

def FiatSettlement.tokens (e : FiatSettlement) : Int × Int := amounts e.inputTokens e.outputTokens

/-- What is measured of the rows of a user, whose id their key starts with. -/
def ofUser {κ ρ : Type} (userId : Int64) (f : ρ → Int × Int) (k : Int64 × κ) (row : ρ) : Int × Int :=
  if k.1 = userId then f row else 0

/-- What a user's row has debited, nothing where there is none. -/
def FiatBalances.debited (t : FiatBalances) (userId : Int64) : Int × Int :=
  Table.measured (fun _ => FiatBalance.debited) t userId

theorem amounts_inj {i o i' o' : Int64} : amounts i o = amounts i' o' ↔ i = i' ∧ o = o' := by
  simp only [amounts, Prod.mk.injEq, Int64.toInt_inj]

theorem amounts_zero : amounts 0 0 = 0 := rfl

theorem exists_amounts {a : Int × Int} (h : InI64 a.1 ∧ InI64 a.2) : ∃ i o : Int64, amounts i o = a :=
  ⟨.ofInt a.1, .ofInt a.2, by rw [amounts, toInt_ofInt h.1, toInt_ofInt h.2]⟩

/-- What is between nothing and amounts that a row holds, a row can hold. -/
theorem fits_of_le {a : Int × Int} {i o : Int64} (h0 : 0 ≤ a) (h : a ≤ amounts i o) : InI64 a.1 ∧ InI64 a.2 := by
  have hi := inI64_toInt i
  have ho := inI64_toInt o
  have h1 : 0 ≤ a.1 := h0.1
  have h2 : 0 ≤ a.2 := h0.2
  have h3 : a.1 ≤ i.toInt := h.1
  have h4 : a.2 ≤ o.toInt := h.2
  unfold InI64 at *
  omega

/-! ## What the statements write -/

theorem UsagePerDay.add_ok {u v w : UsagePerDay} :
    u.add v = .ok w ↔ w.spent = u.spent + v.spent ∧ w.tokens = u.tokens + v.tokens := by
  obtain ⟨ia, it, oa, ot⟩ := w
  simp only [UsagePerDay.add, ok_bind_iff, bigintAdd_eq_ok, Except.ok.injEq, UsagePerDay.mk.injEq, spent, tokens,
    amounts, Prod.mk_add_mk, Prod.mk.injEq]
  constructor
  · rintro ⟨_, h1, _, h2, _, h3, _, h4, rfl, rfl, rfl, rfl⟩
    exact ⟨⟨h1, h3⟩, h2, h4⟩
  · rintro ⟨⟨h1, h3⟩, h2, h4⟩
    exact ⟨_, h1, _, h2, _, h3, _, h4, rfl, rfl, rfl, rfl⟩

theorem UsagePerModel.add_ok {u v w : UsagePerModel} : u.add v = .ok w ↔ w.tokens = u.tokens + v.tokens := by
  obtain ⟨i, o⟩ := w
  simp only [UsagePerModel.add, ok_bind_iff, bigintAdd_eq_ok, Except.ok.injEq, UsagePerModel.mk.injEq, tokens,
    amounts, Prod.mk_add_mk, Prod.mk.injEq]
  constructor
  · rintro ⟨_, h1, _, h2, rfl, rfl⟩
    exact ⟨h1, h2⟩
  · rintro ⟨h1, h2⟩
    exact ⟨_, h1, _, h2, rfl, rfl⟩

theorem UsagePerDay.ext_of {u v : UsagePerDay} (h : u.spent = v.spent) (h' : u.tokens = v.tokens) : u = v := by
  obtain ⟨hi, ho⟩ := amounts_inj.1 h
  obtain ⟨hit, hot⟩ := amounts_inj.1 h'
  cases u
  cases v
  simp only at hi ho hit hot
  rw [hi, ho, hit, hot]

theorem UsagePerModel.ext_of {u v : UsagePerModel} (h : u.tokens = v.tokens) : u = v := by
  obtain ⟨hi, ho⟩ := amounts_inj.1 h
  cases u
  cases v
  simp only at hi ho
  rw [hi, ho]

/-- An upsert that adds leaves what was stored and what is added. -/
theorem updatePerDayTable_ok {s s' : FiatTables} {today u m i it o ot} :
    updatePerDayTable s today u m i it o ot = .ok s' ↔ ∃ row : UsagePerDay,
      row.spent = s.usagePerDay.measured (fun _ => UsagePerDay.spent) (u, m, today) + amounts i o ∧
      row.tokens = s.usagePerDay.measured (fun _ => UsagePerDay.tokens) (u, m, today) + amounts it ot ∧
      s' = { s with usagePerDay := Function.update s.usagePerDay (u, m, today) (.some row) } := by
  simp only [updatePerDayTable, ok_bind_iff, query_eq_ok, Table.upsertRow_ok, Except.ok.injEq]
  cases hrow : s.usagePerDay (u, m, today) with
  | none =>
    rw [Table.measured_none hrow, Table.measured_none hrow, zero_add, zero_add]
    constructor
    · rintro ⟨_, ⟨row, ⟨_, rfl⟩ | ⟨_, hold, _⟩, rfl⟩, rfl⟩
      · exact ⟨_, rfl, rfl, rfl⟩
      · cases hold
    · rintro ⟨row, hspent, htokens, rfl⟩
      exact ⟨_, ⟨row, .inl ⟨rfl, UsagePerDay.ext_of hspent htokens⟩, rfl⟩, rfl⟩
  | some old =>
    rw [Table.measured_some hrow, Table.measured_some hrow]
    constructor
    · rintro ⟨_, ⟨row, ⟨hnone, _⟩ | ⟨_, hold, hadd⟩, rfl⟩, rfl⟩
      · cases hnone
      · cases hold
        obtain ⟨hspent, htokens⟩ := UsagePerDay.add_ok.1 hadd
        exact ⟨row, hspent, htokens, rfl⟩
    · rintro ⟨row, hspent, htokens, rfl⟩
      exact ⟨_, ⟨row, .inr ⟨old, rfl, UsagePerDay.add_ok.2 ⟨hspent, htokens⟩⟩, rfl⟩, rfl⟩

theorem updateUsagePerModel_ok {s s' : FiatTables} {u m i o} :
    updateUsagePerModel s u m i o = .ok s' ↔ ∃ row : UsagePerModel,
      row.tokens = s.usagePerModel.measured (fun _ => UsagePerModel.tokens) (u, m) + amounts i o ∧
      s' = { s with usagePerModel := Function.update s.usagePerModel (u, m) (.some row) } := by
  simp only [updateUsagePerModel, ok_bind_iff, query_eq_ok, Table.upsertRow_ok, Except.ok.injEq]
  cases hrow : s.usagePerModel (u, m) with
  | none =>
    rw [Table.measured_none hrow, zero_add]
    constructor
    · rintro ⟨_, ⟨row, ⟨_, rfl⟩ | ⟨_, hold, _⟩, rfl⟩, rfl⟩
      · exact ⟨_, rfl, rfl⟩
      · cases hold
    · rintro ⟨row, htokens, rfl⟩
      exact ⟨_, ⟨row, .inl ⟨rfl, UsagePerModel.ext_of htokens⟩, rfl⟩, rfl⟩
  | some old =>
    rw [Table.measured_some hrow]
    constructor
    · rintro ⟨_, ⟨row, ⟨hnone, _⟩ | ⟨_, hold, hadd⟩, rfl⟩, rfl⟩
      · cases hnone
      · cases hold
        exact ⟨row, UsagePerModel.add_ok.1 hadd, rfl⟩
    · rintro ⟨row, htokens, rfl⟩
      exact ⟨_, ⟨row, .inr ⟨old, rfl, UsagePerModel.add_ok.2 htokens⟩, rfl⟩, rfl⟩

theorem FiatBalance.debited_settle {estI i estO o : Int64} {row row' : FiatBalance}
    (h : FiatBalance.settle estI i estO o row = .ok (.some row')) : row'.debited = row.debited + amounts i o := by
  simp only [FiatBalance.settle, ok_bind_iff, bigintAdd_eq_ok, bigintSub_eq_ok, Except.ok.injEq,
    Option.some.injEq] at h
  obtain ⟨_, _, input, hinput, _, _, completions, hcompletions, _, _, rfl⟩ := h
  simp only [debited, amounts, hinput, hcompletions, Prod.mk_add_mk]

theorem FiatBalance.debited_lock {i o : Int64} {row row' : FiatBalance}
    (h : FiatBalance.lock i o row = .ok (.some row')) : row'.debited = row.debited := by
  simp only [FiatBalance.lock, ok_bind_iff] at h
  obtain ⟨_, _, h⟩ := h
  split at h
  · simp only [ok_bind_iff, Except.ok.injEq, Option.some.injEq] at h
    obtain ⟨_, _, _, _, rfl⟩ := h
    rfl
  · cases h

theorem FiatBalance.debited_increase {amount : Int64} {row row' : FiatBalance}
    (h : FiatBalance.increase amount row = .ok (.some row')) : row'.debited = row.debited := by
  simp only [FiatBalance.increase, ok_bind_iff, Except.ok.injEq, Option.some.injEq] at h
  obtain ⟨_, _, rfl⟩ := h
  rfl

/-- A statement that leaves what a row has debited leaves what every user has. -/
theorem FiatBalances.debited_after {t : FiatBalances} {u : Int64} {f}
    (h : ∀ {row row'}, f row = .ok (.some row') → row'.debited = row.debited) :
    FiatBalances.debited (t.after u f) = t.debited := by
  funext v
  unfold debited Table.measured
  rw [Table.after_apply]
  split
  · next hv =>
    subst hv
    cases hrow : t v with
    | none => rfl
    | some row =>
      rw [Option.map_some, Option.elim_some, Option.elim_some]
      by_cases hok : ∃ row', f row = .ok (.some row')
      · obtain ⟨row', hrow'⟩ := hok
        rw [Table.rowAfter_of_ok hrow']
        exact h hrow'
      · rw [Table.rowAfter_of_not fun row' hrow' => hok ⟨row', hrow'⟩]
  · rfl

/-! ## Runs -/

/-- The tables, and the settlements whose amounts were debited, latest first. -/
structure UsageState where
  tables : FiatTables
  settled : List FiatSettlement

/-- `update_real_amount_fiat_balance` on the event's values. -/
def FiatSettlement.debit (e : FiatSettlement) (t : FiatBalances) : Except AtomaStateManagerError FiatBalances :=
  updateRealAmountFiatBalance t e.userId e.estimatedInputAmount e.inputAmount e.estimatedOutputAmount e.outputAmount

def usageStep (s : UsageState) : FiatEvent → UsageState
  | .lockUserFiatBalance u i o => { s with tables := (handleLockUserFiatBalance s.tables u i o).1 }
  | .increaseUsdBalance u amount =>
    { s with tables.fiatBalances := s.tables.fiatBalances.after u (FiatBalance.increase amount) }
  | .updateStackNumTokensFiat today e =>
    { tables := (handleUpdateStackNumTokensFiat s.tables today e).1
      settled :=
        match e.debit s.tables.fiatBalances with
        | .ok _ => e :: s.settled
        | .error _ => s.settled }

def usageMachine : Machine UsageState FiatEvent where
  step s ev := .some (usageStep s ev)

/-- Nothing was settled, and nothing counted. -/
structure UsageState.Fresh (s : UsageState) : Prop where
  debited : ∀ u, s.tables.fiatBalances.debited u = 0
  perDay : s.tables.usagePerDay = fun _ => .none
  perModel : s.tables.usagePerModel = fun _ => .none
  settled : s.settled = []

/-- The actual tokens of the user's settled requests for a model. -/
def UsageState.settledTokens (s : UsageState) (userId : Int64) (model : String) : Int × Int :=
  ((s.settled.filter fun e => e.userId = userId ∧ e.modelName = model).map FiatSettlement.tokens).sum

/-- The tables agree on a user. -/
structure UsageState.Reconciled (s : UsageState) (userId : Int64) : Prop where
  perModel : ∀ model, s.tables.usagePerModel.measured (fun _ => UsagePerModel.tokens) (userId, model) =
    s.settledTokens userId model
  perDay : s.tables.usagePerModel.total (ofUser userId UsagePerModel.tokens) =
    s.tables.usagePerDay.total (ofUser userId UsagePerDay.tokens)
  debited : s.tables.usagePerDay.total (ofUser userId UsagePerDay.spent) = s.tables.fiatBalances.debited userId

/-- Tokens and amounts are not negative. -/
def FiatEvent.NonNegative : FiatEvent → Prop
  | .updateStackNumTokensFiat _ e => 0 ≤ e.tokens ∧ 0 ≤ e.actual
  | _ => True

/-- The amounts of a request are its tokens, and it has output tokens if it has any. -/
structure FiatSettlement.CountsAmounts (e : FiatSettlement) : Prop where
  input : e.inputAmount = e.inputTokens
  output : e.outputAmount = e.outputTokens
  counted : e.outputTokens > 0 ∨ e.inputTokens = 0

/-- A settlement that the user's row takes is of a request whose amounts are its tokens. -/
def FiatEvent.KeepsUsage (s : UsageState) : FiatEvent → Prop
  | .updateStackNumTokensFiat _ e => (∃ row row', s.tables.fiatBalances e.userId = .some row ∧
      FiatBalance.settle e.estimatedInputAmount e.inputAmount e.estimatedOutputAmount e.outputAmount row =
        .ok (.some row')) → e.CountsAmounts
  | _ => True

/-! ## One settlement -/

section Settlement

variable {s : FiatTables} {today : Nat} {e : FiatSettlement} {t : FiatBalances}

theorem FiatSettlement.debit_ok {t' : FiatBalances} : e.debit t = .ok t' ↔ ∃ row row', t e.userId = .some row ∧
    FiatBalance.settle e.estimatedInputAmount e.inputAmount e.estimatedOutputAmount e.outputAmount row =
      .ok (.some row') ∧ t' = Function.update t e.userId (.some row') := by
  simp only [debit, updateRealAmountFiatBalance, ok_bind_iff, query_eq_ok, Prod.exists]
  constructor
  · rintro ⟨affected, t'', hupdate, h⟩
    cases affected with
    | false => cases h
    | true =>
      cases h
      exact Table.updateRow_true.1 hupdate
  · intro h
    exact ⟨true, t', Table.updateRow_true.2 h, rfl⟩

theorem FiatSettlement.debited_debit {t' : FiatBalances} (h : e.debit t = .ok t') (u : Int64) :
    t'.debited u = t.debited u + if e.userId = u then e.actual else 0 := by
  obtain ⟨row, row', hrow, hsettle, rfl⟩ := debit_ok.1 h
  unfold FiatBalances.debited
  split
  · next hu =>
    subst hu
    rw [Table.measured_some (Function.update_self _ _ _), Table.measured_some hrow]
    exact FiatBalance.debited_settle hsettle
  · next hu =>
    rw [Table.measured, Function.update_of_ne (Ne.symm hu), add_zero]
    rfl

theorem handled_of_refused {err} (h : e.debit s.fiatBalances = .error err) :
    (handleUpdateStackNumTokensFiat s today e).1 = s := by
  unfold FiatSettlement.debit at h
  unfold handleUpdateStackNumTokensFiat
  rw [h]

theorem handled_uncounted (h : e.debit s.fiatBalances = .ok t) (hout : ¬ e.outputTokens > 0) :
    (handleUpdateStackNumTokensFiat s today e).1 = { s with fiatBalances := t } := by
  unfold FiatSettlement.debit at h
  unfold handleUpdateStackNumTokensFiat
  rw [h]
  dsimp only
  rw [if_neg hout]

/-- What a request with output tokens leaves in the two tables, where both statements succeed. -/
structure FiatSettlement.Counted (e : FiatSettlement) (today : Nat) (s s' : FiatTables) (day : UsagePerDay)
    (model : UsagePerModel) : Prop where
  spent : day.spent =
    s.usagePerDay.measured (fun _ => UsagePerDay.spent) (e.userId, e.modelName, today) + e.actual
  dayTokens : day.tokens =
    s.usagePerDay.measured (fun _ => UsagePerDay.tokens) (e.userId, e.modelName, today) + e.tokens
  modelTokens : model.tokens =
    s.usagePerModel.measured (fun _ => UsagePerModel.tokens) (e.userId, e.modelName) + e.actual
  perDay : s'.usagePerDay = Function.update s.usagePerDay (e.userId, e.modelName, today) (.some day)
  perModel : s'.usagePerModel = Function.update s.usagePerModel (e.userId, e.modelName) (.some model)

/-- A settlement with output tokens is counted, or leaves `usage_per_model`. -/
theorem handled_cases (h : e.debit s.fiatBalances = .ok t) (hout : e.outputTokens > 0) :
    (handleUpdateStackNumTokensFiat s today e).1.fiatBalances = t ∧
      ((∃ day model, e.Counted today s (handleUpdateStackNumTokensFiat s today e).1 day model) ∨
        (handleUpdateStackNumTokensFiat s today e).1.usagePerModel = s.usagePerModel) := by
  unfold FiatSettlement.debit at h
  unfold handleUpdateStackNumTokensFiat
  rw [h]
  dsimp only
  rw [if_pos hout]
  cases hday : updatePerDayTable { s with fiatBalances := t } today e.userId e.modelName e.inputAmount e.inputTokens
      e.outputAmount e.outputTokens with
  | error err => exact ⟨rfl, .inr rfl⟩
  | ok s₂ =>
    obtain ⟨day, hspent, hdayTokens, rfl⟩ := updatePerDayTable_ok.1 hday
    dsimp only
    cases hmodel : updateUsagePerModel
        { s with
          fiatBalances := t
          usagePerDay := Function.update s.usagePerDay (e.userId, e.modelName, today) (.some day) }
        e.userId e.modelName e.inputAmount e.outputAmount with
    | error err => exact ⟨rfl, .inr rfl⟩
    | ok s₃ =>
      obtain ⟨model, hmodelTokens, rfl⟩ := updateUsagePerModel_ok.1 hmodel
      exact ⟨rfl, .inl ⟨day, model, hspent, hdayTokens, hmodelTokens, rfl, rfl⟩⟩

/-- It is counted where the rows have room for what it adds. -/
theorem handled_counted (h : e.debit s.fiatBalances = .ok t) (hout : e.outputTokens > 0) {day : UsagePerDay}
    {model : UsagePerModel}
    (hspent : day.spent =
      s.usagePerDay.measured (fun _ => UsagePerDay.spent) (e.userId, e.modelName, today) + e.actual)
    (hdayTokens : day.tokens =
      s.usagePerDay.measured (fun _ => UsagePerDay.tokens) (e.userId, e.modelName, today) + e.tokens)
    (hmodelTokens : model.tokens =
      s.usagePerModel.measured (fun _ => UsagePerModel.tokens) (e.userId, e.modelName) + e.actual) :
    e.Counted today s (handleUpdateStackNumTokensFiat s today e).1 day model := by
  unfold FiatSettlement.debit at h
  unfold handleUpdateStackNumTokensFiat
  have hday : updatePerDayTable { s with fiatBalances := t } today e.userId e.modelName e.inputAmount e.inputTokens
      e.outputAmount e.outputTokens = .ok _ := updatePerDayTable_ok.2 ⟨day, hspent, hdayTokens, rfl⟩
  have hmodel : updateUsagePerModel
      { s with
        fiatBalances := t
        usagePerDay := Function.update s.usagePerDay (e.userId, e.modelName, today) (.some day) }
      e.userId e.modelName e.inputAmount e.outputAmount = .ok _ := updateUsagePerModel_ok.2 ⟨model, hmodelTokens, rfl⟩
  rw [h]
  dsimp only
  rw [if_pos hout, hday]
  dsimp only
  rw [hmodel]
  exact ⟨hspent, hdayTokens, hmodelTokens, rfl, rfl⟩

end Settlement

/-! ## What a written row changes -/

section Written

variable {κ ρ : Type} {t : Table (Int64 × κ) ρ} {f : ρ → Int × Int} {k : Int64 × κ} {row : ρ} {x : Int × Int}

theorem measured_ofUser {u : Int64} :
    t.measured (ofUser u f) k = if k.1 = u then t.measured (fun _ => f) k else 0 := by
  cases hrow : t k with
  | none => rw [Table.measured_none hrow, Table.measured_none hrow, ite_self]
  | some old =>
    rw [Table.measured_some hrow, Table.measured_some hrow]
    rfl

variable [DecidableEq κ]

/-- A row that has `x` more adds `x` to its user's total. -/
theorem total_ofUser_update (h : t.FinitelyMany) (hrow : f row = t.measured (fun _ => f) k + x) (u : Int64) :
    Table.total (ofUser u f) (Function.update t k (.some row)) =
      t.total (ofUser u f) + if k.1 = u then x else 0 := by
  have htotal := @Table.total_update _ _ _ _ (ofUser u f) _ _ h k row
  rw [measured_ofUser] at htotal
  unfold ofUser at htotal ⊢
  by_cases hu : k.1 = u
  · rw [if_pos hu, if_pos hu, hrow] at htotal
    rw [if_pos hu]
    refine add_right_cancel (b := t.measured (fun _ => f) k) (htotal.trans ?_)
    abel
  · rw [if_neg hu, if_neg hu, add_zero] at htotal
    rw [if_neg hu]
    exact htotal

theorem measured_update (hrow : f row = t.measured (fun _ => f) k + x) (k' : Int64 × κ) :
    Table.measured (fun _ => f) (Function.update t k (.some row)) k' =
      t.measured (fun _ => f) k' + if k = k' then x else 0 := by
  split
  · next hk =>
    subst hk
    rw [Table.measured_some (Function.update_self _ _ _)]
    exact hrow
  · next hk =>
    rw [Table.measured, Function.update_of_ne (Ne.symm hk), add_zero]
    rfl

end Written

/-! ## The invariant -/

/-- The tables agree, and every row counts amounts as tokens. -/
structure UsageState.Sound (s : UsageState) : Prop where
  days : s.tables.usagePerDay.FinitelyMany
  models : s.tables.usagePerModel.FinitelyMany
  dayRows : ∀ k row, s.tables.usagePerDay k = .some row → 0 ≤ row.spent ∧ row.tokens = row.spent
  modelRows : ∀ k row, s.tables.usagePerModel k = .some row → 0 ≤ row.tokens
  reconciled : ∀ u, s.Reconciled u

theorem UsageState.Fresh.sound {s : UsageState} (h : s.Fresh) : s.Sound := by
  obtain ⟨⟨fiatBalances, usagePerDay, usagePerModel⟩, settled⟩ := s
  obtain ⟨hdebited, hday, hmodel, hsettled⟩ := h
  dsimp only at hdebited hday hmodel hsettled
  subst hday hmodel hsettled
  refine ⟨Table.finitelyMany_empty, Table.finitelyMany_empty, fun _ _ h => (nomatch h), fun _ _ h => (nomatch h),
    fun u => ⟨fun m => rfl, ?_, ?_⟩⟩
  · exact Table.total_empty.trans Table.total_empty.symm
  · exact Table.total_empty.trans (hdebited u).symm

theorem settledTokens_cons {s : UsageState} {e : FiatSettlement} {tables : FiatTables} (u : Int64) (m : String) :
    UsageState.settledTokens ⟨tables, e :: s.settled⟩ u m =
      s.settledTokens u m + if (e.userId, e.modelName) = (u, m) then e.tokens else 0 := by
  unfold UsageState.settledTokens
  rw [List.filter_cons]
  by_cases h : e.userId = u ∧ e.modelName = m
  · rw [if_pos (decide_eq_true h), if_pos (Prod.ext h.1 h.2), List.map_cons, List.sum_cons, add_comm]
  · rw [if_neg (fun hd => h (of_decide_eq_true hd)), if_neg (fun hp => h (Prod.mk.inj hp)), add_zero]

namespace UsageState.Sound

variable {s : UsageState} {e : FiatSettlement} {today : Nat} {t : FiatBalances}

theorem measured_nonneg {κ ρ : Type} {t : Table κ ρ} {f : ρ → Int × Int} (h : ∀ k row, t k = .some row → 0 ≤ f row)
    (k : κ) : 0 ≤ t.measured (fun _ => f) k := by
  cases hrow : t k with
  | none => rw [Table.measured_none hrow]
  | some row =>
    rw [Table.measured_some hrow]
    exact h k row hrow

theorem measured_le {κ ρ : Type} {t : Table (Int64 × κ) ρ} {f : ρ → Int × Int} (hfin : t.FinitelyMany)
    (h : ∀ k row, t k = .some row → 0 ≤ f row) (u : Int64) (k : κ) :
    t.measured (fun _ => f) (u, k) ≤ t.total (ofUser u f) := by
  have hrows : ∀ k row, t k = .some row → 0 ≤ ofUser u f k row := by
    intro k row hrow
    unfold ofUser
    split
    · exact h k row hrow
    · exact le_refl 0
  have hle := Table.measured_le_total hfin hrows (u, k)
  rwa [measured_ofUser, if_pos rfl] at hle

/-- A day's row counts tokens as amounts. -/
theorem dayTokens (h : s.Sound) (k : Int64 × String × Nat) :
    s.tables.usagePerDay.measured (fun _ => UsagePerDay.tokens) k =
      s.tables.usagePerDay.measured (fun _ => UsagePerDay.spent) k := by
  cases hrow : s.tables.usagePerDay k with
  | none => rw [Table.measured_none hrow, Table.measured_none hrow]
  | some row => rw [Table.measured_some hrow, Table.measured_some hrow, (h.dayRows k row hrow).2]

/-- So the models' tokens are what the user has debited. -/
theorem modelTokens (h : s.Sound) (u : Int64) :
    s.tables.usagePerModel.total (ofUser u UsagePerModel.tokens) = s.tables.fiatBalances.debited u := by
  rw [(h.reconciled u).perDay, ← (h.reconciled u).debited]
  refine Table.total_congr fun k row hrow => ?_
  unfold ofUser
  rw [(h.dayRows k row hrow).2]

/-- Nothing that a row counts is more than the user has debited. -/
theorem rows_le (h : s.Sound) (u : Int64) (m : String) (day : Nat) :
    s.tables.usagePerDay.measured (fun _ => UsagePerDay.spent) (u, m, day) ≤ s.tables.fiatBalances.debited u ∧
      s.tables.usagePerModel.measured (fun _ => UsagePerModel.tokens) (u, m) ≤ s.tables.fiatBalances.debited u := by
  constructor
  · rw [← (h.reconciled u).debited]
    exact measured_le h.days (fun k row hrow => (h.dayRows k row hrow).1) u (m, day)
  · rw [← h.modelTokens u]
    exact measured_le h.models h.modelRows u m

/-- What a settlement adds to a row, the row has room for. -/
theorem room {c : Int × Int} (h0 : 0 ≤ c) (hle : c ≤ s.tables.fiatBalances.debited e.userId) (hactual : 0 ≤ e.actual)
    (hdebit : e.debit s.tables.fiatBalances = .ok t) : ∃ i o, amounts i o = c + e.actual := by
  obtain ⟨row, row', hrow, hsettle, _⟩ := FiatSettlement.debit_ok.1 hdebit
  have hdebited := FiatBalance.debited_settle hsettle
  unfold FiatBalances.debited at hle
  rw [Table.measured_some hrow] at hle
  have hle' : c + e.actual ≤ row'.debited := by
    rw [hdebited]
    exact add_le_add_left hle e.actual
  exact exists_amounts (fits_of_le (add_nonneg h0 hactual) hle')

/-- A settlement that is counted, of a request whose amounts are its tokens. -/
theorem count (h : s.Sound) {s' : FiatTables} {day : UsagePerDay} {model : UsagePerModel}
    (hcounted : e.Counted today s.tables s' day model) (htokens : e.tokens = e.actual) (hactual : 0 ≤ e.actual)
    (hdebited : ∀ u, s'.fiatBalances.debited u = s.tables.fiatBalances.debited u + if e.userId = u then e.actual else 0) :
    (UsageState.mk s' (e :: s.settled)).Sound := by
  obtain ⟨hspent, hdayTokens, hmodelTokens, hday, hmodel⟩ := hcounted
  have hdayRow : 0 ≤ day.spent ∧ day.tokens = day.spent := by
    constructor
    · rw [hspent]
      exact add_nonneg (measured_nonneg (fun k row hrow => (h.dayRows k row hrow).1) _) hactual
    · rw [hspent, hdayTokens, h.dayTokens, htokens]
  have hmodelRow : 0 ≤ model.tokens := by
    rw [hmodelTokens]
    exact add_nonneg (measured_nonneg h.modelRows _) hactual
  constructor
  case days =>
    show s'.usagePerDay.FinitelyMany
    rw [hday]
    exact h.days.update _ _
  case models =>
    show s'.usagePerModel.FinitelyMany
    rw [hmodel]
    exact h.models.update _ _
  case dayRows =>
    intro k row hrow
    dsimp only at hrow
    rw [hday, Function.update_apply] at hrow
    split at hrow
    · cases hrow
      exact hdayRow
    · exact h.dayRows k row hrow
  case modelRows =>
    intro k row hrow
    dsimp only at hrow
    rw [hmodel, Function.update_apply] at hrow
    split at hrow
    · cases hrow
      exact hmodelRow
    · exact h.modelRows k row hrow
  case reconciled =>
    intro u
    refine ⟨fun m => ?_, ?_, ?_⟩
    · show s'.usagePerModel.measured _ _ = _
      rw [hmodel, measured_update hmodelTokens, (h.reconciled u).perModel m, settledTokens_cons, htokens]
    · show s'.usagePerModel.total _ = s'.usagePerDay.total _
      rw [hmodel, hday, total_ofUser_update h.models hmodelTokens, total_ofUser_update h.days hdayTokens,
        (h.reconciled u).perDay, htokens]
    · show s'.usagePerDay.total _ = _
      rw [hday, total_ofUser_update h.days hspent, (h.reconciled u).debited, hdebited]

/-- A settlement of nothing. -/
theorem countNothing (h : s.Sound) (hdebit : e.debit s.tables.fiatBalances = .ok t) (htokens : e.tokens = 0)
    (hactual : e.actual = 0) : (UsageState.mk { s.tables with fiatBalances := t } (e :: s.settled)).Sound where
  days := h.days
  models := h.models
  dayRows := h.dayRows
  modelRows := h.modelRows
  reconciled := fun u =>
    { perModel := fun m => by
        rw [settledTokens_cons, htokens, ite_self, add_zero]
        exact (h.reconciled u).perModel m
      perDay := (h.reconciled u).perDay
      debited := by
        show s.tables.usagePerDay.total _ = t.debited u
        rw [FiatSettlement.debited_debit hdebit, hactual, ite_self, add_zero]
        exact (h.reconciled u).debited }

/-- **A settlement whose amounts are its tokens keeps the tables in agreement.** -/
theorem settle (h : s.Sound) (hdebit : e.debit s.tables.fiatBalances = .ok t) (hc : e.CountsAmounts)
    (hnonneg : 0 ≤ e.tokens) :
    (UsageState.mk (handleUpdateStackNumTokensFiat s.tables today e).1 (e :: s.settled)).Sound := by
  have htokens : e.tokens = e.actual := by
    rw [FiatSettlement.tokens, FiatSettlement.actual, hc.input, hc.output]
  have hactual : 0 ≤ e.actual := htokens ▸ hnonneg
  by_cases hout : e.outputTokens > 0
  · have hspent0 := measured_nonneg (fun k row hrow => (h.dayRows k row hrow).1) (e.userId, e.modelName, today)
    have hmodel0 := measured_nonneg h.modelRows (e.userId, e.modelName)
    obtain ⟨hdayLe, hmodelLe⟩ := h.rows_le e.userId e.modelName today
    obtain ⟨i, o, hday⟩ := room hspent0 hdayLe hactual hdebit
    obtain ⟨i', o', hmodel⟩ := room hmodel0 hmodelLe hactual hdebit
    have hcounted : e.Counted today s.tables _ ⟨i, i, o, o⟩ ⟨i', o'⟩ :=
      handled_counted hdebit hout hday (by rw [h.dayTokens, htokens]; exact hday) hmodel
    refine h.count hcounted htokens hactual fun u => ?_
    rw [(handled_cases hdebit hout).1, FiatSettlement.debited_debit hdebit]
  · -- a request without output tokens that is not debited either
    have hinput := hc.counted.resolve_left hout
    have houtput : e.outputTokens = 0 := by
      have h0 := (amounts_nonneg.1 hnonneg).2
      rw [gt_iff_lt, Int64.lt_iff_toInt_lt] at hout
      exact Int64.toInt_inj.1 (le_antisymm (Int.not_lt.1 hout) h0)
    have hzero : e.tokens = 0 := by
      rw [FiatSettlement.tokens, hinput, houtput]
      rfl
    rw [handled_uncounted hdebit hout]
    exact h.countNothing hdebit hzero (htokens.symm.trans hzero)

/-- What does not touch the usage tables or what is debited. -/
theorem of_tables (h : s.Sound) {tables : FiatTables} (hday : tables.usagePerDay = s.tables.usagePerDay)
    (hmodel : tables.usagePerModel = s.tables.usagePerModel)
    (hdebited : tables.fiatBalances.debited = s.tables.fiatBalances.debited) :
    (UsageState.mk tables s.settled).Sound := by
  obtain ⟨fiatBalances, usagePerDay, usagePerModel⟩ := tables
  dsimp only at hday hmodel hdebited
  subst hday hmodel
  refine ⟨h.days, h.models, h.dayRows, h.modelRows, fun u => ⟨(h.reconciled u).perModel, (h.reconciled u).perDay, ?_⟩⟩
  show _ = fiatBalances.debited u
  rw [hdebited]
  exact (h.reconciled u).debited

end UsageState.Sound

/-- The step keeps the agreement where it meets the condition. -/
theorem UsageState.Sound.step {s : UsageState} {ev : FiatEvent} (h : s.Sound) (hnonneg : ev.NonNegative)
    (hkeeps : ev.KeepsUsage s) : (usageStep s ev).Sound := by
  cases ev with
  | lockUserFiatBalance u i o =>
    have hrows := handleLockUserFiatBalance_rows s.tables u i o
    refine h.of_tables ?_ ?_ ?_ <;> rw [hrows]
    exact FiatBalances.debited_after FiatBalance.debited_lock
  | increaseUsdBalance u amount =>
    exact h.of_tables rfl rfl (FiatBalances.debited_after FiatBalance.debited_increase)
  | updateStackNumTokensFiat today e =>
    unfold usageStep
    dsimp only
    cases hdebit : e.debit s.tables.fiatBalances with
    | error err =>
      rw [handled_of_refused hdebit]
      exact h
    | ok t =>
      obtain ⟨row, row', hrow, hsettle, _⟩ := FiatSettlement.debit_ok.1 hdebit
      exact h.settle hdebit (hkeeps ⟨row, row', hrow, hsettle⟩) hnonneg.1

/-- **And only where it meets it**: a settlement after which the tables agree is of a request whose amounts are its
tokens. -/
theorem UsageState.Sound.keepsUsage {s : UsageState} {ev : FiatEvent} (h : s.Sound) (hnonneg : ev.NonNegative)
    (hreconciled : ∀ u, (usageStep s ev).Reconciled u) : ev.KeepsUsage s := by
  cases ev with
  | lockUserFiatBalance u i o => trivial
  | increaseUsdBalance u amount => trivial
  | updateStackNumTokensFiat today e =>
    rintro ⟨row, row', hrow, hsettle⟩
    have hdebit : e.debit s.tables.fiatBalances = .ok _ := FiatSettlement.debit_ok.2 ⟨row, row', hrow, hsettle, rfl⟩
    unfold usageStep at hreconciled
    dsimp only at hreconciled
    rw [hdebit] at hreconciled
    have hmodel := (hreconciled e.userId).perModel e.modelName
    rw [settledTokens_cons, if_pos rfl, ← (h.reconciled e.userId).perModel e.modelName] at hmodel
    dsimp only at hmodel
    by_cases hout : e.outputTokens > 0
    · rcases (handled_cases hdebit hout).2 with ⟨day, model, hcounted⟩ | hunchanged
      · rw [hcounted.perModel, measured_update hcounted.modelTokens, if_pos rfl] at hmodel
        obtain ⟨hinput, houtput⟩ := amounts_inj.1 (add_left_cancel hmodel)
        exact ⟨hinput, houtput, .inl hout⟩
      · rw [hunchanged, left_eq_add] at hmodel
        have hzero : e.outputTokens.toInt = 0 := (Prod.ext_iff.1 hmodel).2
        rw [gt_iff_lt, Int64.lt_iff_toInt_lt, hzero] at hout
        exact absurd hout (lt_irrefl _)
    · rw [handled_uncounted hdebit hout, left_eq_add] at hmodel
      have hdebited := (hreconciled e.userId).debited
      rw [handled_uncounted hdebit hout] at hdebited
      dsimp only at hdebited
      rw [(h.reconciled e.userId).debited, FiatSettlement.debited_debit hdebit, if_pos rfl, left_eq_add] at hdebited
      obtain ⟨hinputTokens, houtputTokens⟩ := amounts_inj.1 (hmodel.trans amounts_zero.symm)
      obtain ⟨hinput, houtput⟩ := amounts_inj.1 (hdebited.trans amounts_zero.symm)
      exact ⟨hinput.trans hinputTokens.symm, houtput.trans houtputTokens.symm, .inr hinputTokens⟩

/-- **Main result.** From nothing settled, the tables agree on every user in every state of a run exactly if each
settlement of it that the user's row takes is of a request whose amounts are its tokens, and that has output tokens if
it has any. -/
theorem usage_reconciled_iff {s s' : UsageState} {evs : List FiatEvent} (h : s.Fresh)
    (hnonneg : ∀ ev ∈ evs, ev.NonNegative) (hrun : usageMachine.run s evs = .some s') :
    usageMachine.Always (fun s => ∀ u, s.Reconciled u) s evs ↔
      usageMachine.Guarded (fun s ev => ev.KeepsUsage s) s evs := by
  refine Machine.always_iff_guarded (fun hsound => hsound.reconciled) ?_ ?_ h.sound
    (Machine.guarded_of_mem s hnonneg) hrun
  · intro s ev s' hsound hev hstep hreconciled
    cases hstep
    exact hsound.keepsUsage hev hreconciled
  · intro s ev s' hsound hev hkeeps hstep
    cases hstep
    exact hsound.step hev hkeeps

/-- One user with a balance of 100. -/
def usageExample : UsageState := ⟨fiatExample.tables, []⟩

theorem usageExample_fresh : usageExample.Fresh := by
  refine ⟨fun u => ?_, rfl, rfl, rfl⟩
  unfold FiatBalances.debited Table.measured usageExample fiatExample
  dsimp only
  split <;> rfl

def usageExampleRun (inputAmount outputAmount : Int64) : List FiatEvent :=
  [.lockUserFiatBalance 1 10 20, .updateStackNumTokensFiat 0 ⟨1, "m", 10, inputAmount, 3, 20, outputAmount, 2⟩]

theorem usageExampleRun_nonNegative {i o : Int64} (hi : 0 ≤ i.toInt) (ho : 0 ≤ o.toInt) :
    ∀ ev ∈ usageExampleRun i o, ev.NonNegative := by
  have htokens : 0 ≤ amounts 3 2 := amounts_nonneg.2 ⟨by decide, by decide⟩
  intro ev hev
  rcases List.mem_pair.1 hev with rfl | rfl
  · trivial
  · exact ⟨htokens, amounts_nonneg.2 ⟨hi, ho⟩⟩

theorem usage_reconciled_iff_example :
    usageMachine.Always (fun s => ∀ u, s.Reconciled u) usageExample (usageExampleRun 3 2) := by
  refine (usage_reconciled_iff usageExample_fresh (usageExampleRun_nonNegative (by decide) (by decide)) rfl).2 ?_
  exact (Machine.guarded_cons rfl).2 ⟨trivial, (Machine.guarded_cons rfl).2 ⟨fun _ => ⟨rfl, rfl, .inl (by decide)⟩, trivial⟩⟩

/-- Three and two tokens at amounts of seven and five. -/
theorem usage_reconciled_fails : ¬ ∀ (s s' : UsageState) (evs : List FiatEvent), s.Fresh →
    (∀ ev ∈ evs, ev.NonNegative) → usageMachine.run s evs = .some s' → ∀ u, s'.Reconciled u := by
  intro h
  have hreconciled := h usageExample _ (usageExampleRun 7 5) usageExample_fresh
    (usageExampleRun_nonNegative (by decide) (by decide)) rfl 1
  exact absurd (hreconciled.perModel "m") (by decide)

end AtomaProxy
