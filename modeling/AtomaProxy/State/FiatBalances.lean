/-
The fiat side of the state manager: the `fiat_balances` row of a user, the two
statements that change it, the usage tables the settlement writes after it,
and the handling of the two events that reach them.

`lock_user_fiat_balance` is guarded by what the row has left; the settlement
`update_real_amount_fiat_balance` is not guarded at all. Both are one
statement, so a row changes in all its columns or in none.
-/
import AtomaProxy.State.Errors

namespace AtomaProxy

open Base

/-- A row of `fiat_balances`. -/
structure FiatBalance where
  usdBalance : Int64
  alreadyDebitedInputAmount : Int64
  alreadyDebitedCompletionsAmount : Int64
  overchargedUnsettledInputAmount : Int64
  overchargedUnsettledCompletionsAmount : Int64
  numRequests : Int64
  deriving DecidableEq, Repr

/-- A row as the defaults of the table's columns leave it, at a balance. -/
def FiatBalance.ofBalance (usdBalance : Int64) : FiatBalance := ⟨usdBalance, 0, 0, 0, 0, 0⟩

/-- The terms the guard of the lock adds up, after the first. -/
def FiatBalance.lockTerms (row : FiatBalance) (inputAmount outputAmount : Int64) : List Int64 :=
  [row.alreadyDebitedInputAmount, row.overchargedUnsettledCompletionsAmount,
    row.overchargedUnsettledInputAmount, inputAmount, outputAmount]

/-- What the statement of `lock_user_fiat_balance` does to the user's row. -/
def FiatBalance.lock (inputAmount outputAmount : Int64) (row : FiatBalance) :
    Except SqlError (Option FiatBalance) := do
  let total ← bigintSum row.alreadyDebitedCompletionsAmount (row.lockTerms inputAmount outputAmount)
  if total ≤ row.usdBalance then
    let input ← bigintAdd row.overchargedUnsettledInputAmount inputAmount
    let completions ← bigintAdd row.overchargedUnsettledCompletionsAmount outputAmount
    .ok (.some { row with
      overchargedUnsettledInputAmount := input
      overchargedUnsettledCompletionsAmount := completions })
  else
    .ok .none

/-- What the statement of `update_real_amount_fiat_balance` does to the user's row. -/
def FiatBalance.settle (estimatedInputAmount inputAmount estimatedOutputAmount outputAmount : Int64)
    (row : FiatBalance) : Except SqlError (Option FiatBalance) := do
  let unsettledInput ← bigintSub row.overchargedUnsettledInputAmount estimatedInputAmount
  let debitedInput ← bigintAdd row.alreadyDebitedInputAmount inputAmount
  let unsettledCompletions ← bigintSub row.overchargedUnsettledCompletionsAmount estimatedOutputAmount
  let debitedCompletions ← bigintAdd row.alreadyDebitedCompletionsAmount outputAmount
  -- `i64::from(output_amount > 0)`: a request with no output does not count as one
  let numRequests ← bigintAdd row.numRequests (if outputAmount > 0 then 1 else 0)
  .ok (.some { row with
    overchargedUnsettledInputAmount := unsettledInput
    alreadyDebitedInputAmount := debitedInput
    overchargedUnsettledCompletionsAmount := unsettledCompletions
    alreadyDebitedCompletionsAmount := debitedCompletions
    numRequests := numRequests })

abbrev FiatBalances := Table Int64 FiatBalance

/-- `lock_user_fiat_balance`: whether the one row was affected. -/
def lockUserFiatBalance (t : FiatBalances) (userId inputAmount outputAmount : Int64) :
    Except AtomaStateManagerError (Bool × FiatBalances) :=
  query (t.updateRow userId (FiatBalance.lock inputAmount outputAmount))

/-- `update_real_amount_fiat_balance`. -/
def updateRealAmountFiatBalance (t : FiatBalances)
    (userId estimatedInputAmount inputAmount estimatedOutputAmount outputAmount : Int64) :
    Except AtomaStateManagerError FiatBalances := do
  let (affected, t') ← query (t.updateRow userId
    (FiatBalance.settle estimatedInputAmount inputAmount estimatedOutputAmount outputAmount))
  if affected then .ok t' else .error .insufficientBalance

/-! ## Usage tables -/

/-- A row of `usage_per_day`. -/
structure UsagePerDay where
  inputAmount : Int64
  inputTokens : Int64
  outputAmount : Int64
  outputTokens : Int64
  deriving DecidableEq, Repr

/-- A row of `usage_per_model`. -/
structure UsagePerModel where
  totalInputTokens : Int64
  totalOutputTokens : Int64
  deriving DecidableEq, Repr

/-- The tables the fiat events write. A date is the number of a day. -/
structure FiatTables where
  fiatBalances : FiatBalances
  usagePerDay : Table (Int64 × String × Nat) UsagePerDay
  usagePerModel : Table (Int64 × String) UsagePerModel

def UsagePerDay.add (u v : UsagePerDay) : Except SqlError UsagePerDay := do
  .ok ⟨← bigintAdd u.inputAmount v.inputAmount, ← bigintAdd u.inputTokens v.inputTokens,
    ← bigintAdd u.outputAmount v.outputAmount, ← bigintAdd u.outputTokens v.outputTokens⟩

def UsagePerModel.add (u v : UsagePerModel) : Except SqlError UsagePerModel := do
  .ok ⟨← bigintAdd u.totalInputTokens v.totalInputTokens, ← bigintAdd u.totalOutputTokens v.totalOutputTokens⟩

/-- `update_per_day_table`, on the day `today` (`CURRENT_DATE`). -/
def updatePerDayTable (s : FiatTables) (today : Nat) (userId : Int64) (model : String)
    (inputAmount inputTokens outputAmount outputTokens : Int64) : Except AtomaStateManagerError FiatTables := do
  let row := ⟨inputAmount, inputTokens, outputAmount, outputTokens⟩
  let t ← query (s.usagePerDay.upsertRow (userId, model, today) row fun old => old.add row)
  .ok { s with usagePerDay := t }

/-- `update_usage_per_model`. -/
def updateUsagePerModel (s : FiatTables) (userId : Int64) (modelName : String)
    (inputTokens outputTokens : Int64) : Except AtomaStateManagerError FiatTables := do
  let row := ⟨inputTokens, outputTokens⟩
  let t ← query (s.usagePerModel.upsertRow (userId, modelName) row fun old => old.add row)
  .ok { s with usagePerModel := t }

/-! ## The two events -/

/-- What `UpdateStackNumTokensFiat` carries. -/
structure FiatSettlement where
  userId : Int64
  modelName : String
  estimatedInputAmount : Int64
  inputAmount : Int64
  inputTokens : Int64
  estimatedOutputAmount : Int64
  outputAmount : Int64
  outputTokens : Int64
  deriving DecidableEq, Repr

/-- The `LockUserFiatBalance` arm of `handle_state_manager_event`: the tables after it, and the result the
event's sender is answered with. -/
def handleLockUserFiatBalance (s : FiatTables) (userId inputAmount outputAmount : Int64) :
    FiatTables × Except AtomaStateManagerError Bool :=
  match lockUserFiatBalance s.fiatBalances userId inputAmount outputAmount with
  | .ok (result, t) => ({ s with fiatBalances := t }, .ok result)
  | .error e => (s, .error e)

/-- The `UpdateStackNumTokensFiat` arm. Its three statements are not one transaction: what ran before a
failing one stays. -/
def handleUpdateStackNumTokensFiat (s : FiatTables) (today : Nat) (e : FiatSettlement) :
    FiatTables × Except AtomaStateManagerError Unit :=
  match updateRealAmountFiatBalance s.fiatBalances e.userId e.estimatedInputAmount e.inputAmount
      e.estimatedOutputAmount e.outputAmount with
  | .error err => (s, .error err)
  | .ok t =>
    let s₁ := { s with fiatBalances := t }
    if e.outputTokens > 0 then
      match updatePerDayTable s₁ today e.userId e.modelName e.inputAmount e.inputTokens e.outputAmount
          e.outputTokens with
      | .error err => (s₁, .error err)
      | .ok s₂ =>
        -- the per-model totals are named for tokens; the source passes the amounts
        match updateUsagePerModel s₂ e.userId e.modelName e.inputAmount e.outputAmount with
        | .error err => (s₂, .error err)
        | .ok s₃ => (s₃, .ok ())
    else
      (s₁, .ok ())

/-- The rows after a lock, and when it was granted. -/
theorem handleLockUserFiatBalance_rows (s : FiatTables) (u i o) : (handleLockUserFiatBalance s u i o).1 =
    { s with fiatBalances := s.fiatBalances.after u (FiatBalance.lock i o) } := by
  unfold handleLockUserFiatBalance lockUserFiatBalance Table.after
  cases s.fiatBalances.updateRow u (FiatBalance.lock i o) <;> rfl

theorem handleLockUserFiatBalance_granted {s : FiatTables} {u i o} :
    (handleLockUserFiatBalance s u i o).2 = .ok true ↔
      ∃ row row', s.fiatBalances u = .some row ∧ FiatBalance.lock i o row = .ok (.some row') := by
  unfold handleLockUserFiatBalance lockUserFiatBalance
  constructor
  · intro h
    split at h
    · next result t hl =>
      simp only [Except.ok.injEq] at h
      subst h
      obtain ⟨row, row', hrow, hlock, _⟩ := Table.updateRow_true.1 (query_eq_ok.1 hl)
      exact ⟨row, row', hrow, hlock⟩
    · cases h
  · rintro ⟨row, row', hrow, hlock⟩
    rw [Table.updateRow_true.2 ⟨row, row', hrow, hlock, rfl⟩]
    rfl

/-- A refused lock leaves every table as it was. -/
theorem handleLockUserFiatBalance_refused {s : FiatTables} {u i o}
    (h : (handleLockUserFiatBalance s u i o).2 ≠ .ok true) : (handleLockUserFiatBalance s u i o).1 = s := by
  unfold handleLockUserFiatBalance lockUserFiatBalance at h ⊢
  cases hu : s.fiatBalances.updateRow u (FiatBalance.lock i o) with
  | error e => rfl
  | ok r =>
    obtain ⟨_ | _, t⟩ := r
    · obtain ⟨rfl, _⟩ := Table.updateRow_false.1 hu
      rfl
    · rw [hu] at h
      exact absurd rfl h

theorem updatePerDayTable_fiatBalances {s s' : FiatTables} {today u m i it o ot}
    (h : updatePerDayTable s today u m i it o ot = .ok s') : s'.fiatBalances = s.fiatBalances := by
  simp only [updatePerDayTable, ok_bind_iff, Except.ok.injEq] at h
  obtain ⟨_, _, rfl⟩ := h
  rfl

theorem updateUsagePerModel_fiatBalances {s s' : FiatTables} {u m i o}
    (h : updateUsagePerModel s u m i o = .ok s') : s'.fiatBalances = s.fiatBalances := by
  simp only [updateUsagePerModel, ok_bind_iff, Except.ok.injEq] at h
  obtain ⟨_, _, rfl⟩ := h
  rfl

/-- What the settlement leaves of the rows is up to its first statement alone. -/
theorem handleUpdateStackNumTokensFiat_rows (s : FiatTables) (today) (e : FiatSettlement) :
    (handleUpdateStackNumTokensFiat s today e).1.fiatBalances = s.fiatBalances.after e.userId
      (FiatBalance.settle e.estimatedInputAmount e.inputAmount e.estimatedOutputAmount e.outputAmount) := by
  unfold handleUpdateStackNumTokensFiat updateRealAmountFiatBalance Table.after
  cases hu : s.fiatBalances.updateRow e.userId
      (FiatBalance.settle e.estimatedInputAmount e.inputAmount e.estimatedOutputAmount e.outputAmount) with
  | error err => rfl
  | ok r =>
    obtain ⟨_ | _, t⟩ := r
    · exact (Table.updateRow_false.1 hu).1.symm
    · simp only [query_ok, bind, Except.bind, if_true]
      split
      · split
        · rfl
        · next s₂ h₂ =>
          split
          · exact updatePerDayTable_fiatBalances h₂
          · next s₃ h₃ => exact (updateUsagePerModel_fiatBalances h₃).trans (updatePerDayTable_fiatBalances h₂)
      · rfl

end AtomaProxy
