/-
The USDC side of the state manager: a user's row of `crypto_balances`, the
three statements that change it, and the digests of the payments claimed.

The table's CHECK keeps a balance from going below zero, also where a
statement has no guard of its own.
-/
import AtomaProxy.State.Errors

namespace AtomaProxy

open Base

/-- A row of `crypto_balances`. -/
structure CryptoBalance where
  usdcBalance : Int64
  deriving DecidableEq, Repr

/-- `CHECK (usdc_balance >= 0)`. -/
def CryptoBalance.check (row : CryptoBalance) : Except SqlError CryptoBalance :=
  if row.usdcBalance ≥ 0 then .ok row else .error .checkViolation

def CryptoBalance.add (amount : Int64) (row : CryptoBalance) : Except SqlError CryptoBalance := do
  CryptoBalance.check ⟨← bigintAdd row.usdcBalance amount⟩

/-- What the statement of `deduct_from_usdc` does to the user's row. -/
def CryptoBalance.deduct (balance : Int64) (row : CryptoBalance) : Except SqlError (Option CryptoBalance) := do
  if row.usdcBalance ≥ balance then
    let row ← CryptoBalance.check ⟨← bigintSub row.usdcBalance balance⟩
    .ok (.some row)
  else
    .ok .none

abbrev CryptoBalances := Table Int64 CryptoBalance

/-- `top_up_crypto_balance`: the proposed row meets the CHECK before the conflict is looked at. -/
def topUpCryptoBalance (t : CryptoBalances) (userId balance : Int64) :
    Except AtomaStateManagerError CryptoBalances := do
  let row ← query (CryptoBalance.check ⟨balance⟩)
  query (t.upsertRow userId row (CryptoBalance.add balance))

/-- `deduct_from_usdc`. -/
def deductFromUsdc (t : CryptoBalances) (userId balance : Int64) : Except AtomaStateManagerError CryptoBalances := do
  let (affected, t') ← query (t.updateRow userId (CryptoBalance.deduct balance))
  if affected then .ok t' else .error .insufficientBalance

/-- `refund_usdc`: a user without a row is no error. -/
def refundUsdc (t : CryptoBalances) (userId amount : Int64) : Except AtomaStateManagerError CryptoBalances := do
  let (_, t') ← query (t.updateRow userId fun row => (row.add amount).map .some)
  .ok t'

/-- `usdc_payment_digests`. -/
abbrev UsdcPaymentDigests := Table String Unit

/-- `insert_new_usdc_payment_digest`. -/
def insertNewUsdcPaymentDigest (t : UsdcPaymentDigests) (digest : String) :
    Except AtomaStateManagerError UsdcPaymentDigests :=
  query (t.insertRow digest (.ok ()))

/-! ## What the statements do to a balance -/

/-- The balance of a user, none being nothing. -/
def CryptoBalances.usdc (t : CryptoBalances) (userId : Int64) : Int :=
  (t userId).elim 0 fun row => row.usdcBalance.toInt

theorem CryptoBalance.check_eq_ok {row row' : CryptoBalance} :
    row.check = .ok row' ↔ row' = row ∧ 0 ≤ row.usdcBalance.toInt := by
  have hzero : (0 : Int64).toInt = 0 := rfl
  unfold check
  split
  · next h =>
    rw [ge_iff_le, Int64.le_iff_toInt_le, hzero] at h
    simp [h, eq_comm]
  · next h =>
    rw [ge_iff_le, Int64.le_iff_toInt_le, hzero] at h
    simp [h]

/-- A top-up that succeeds adds its amount, also to a user without a row. -/
theorem topUpCryptoBalance_ok {t t' : CryptoBalances} {u a : Int64} : topUpCryptoBalance t u a = .ok t' ↔
    0 ≤ a.toInt ∧ ∃ b : Int64, b.toInt = t.usdc u + a.toInt ∧ 0 ≤ b.toInt ∧
      t' = Function.update t u (.some ⟨b⟩) := by
  unfold topUpCryptoBalance Table.upsertRow CryptoBalances.usdc
  simp only [ok_bind_iff, query_eq_ok, CryptoBalance.check_eq_ok]
  cases t u with
  | none =>
    simp only [Option.elim_none, Int.zero_add, Except.ok.injEq]
    constructor
    · intro h
      obtain ⟨row, ⟨rfl, ha⟩, rfl⟩ := h
      exact ⟨ha, a, rfl, ha, rfl⟩
    · intro h
      obtain ⟨ha, b, hb, _, rfl⟩ := h
      rw [Int64.toInt_inj] at hb
      exact ⟨_, ⟨rfl, ha⟩, by rw [hb]⟩
  | some old =>
    simp only [Option.elim_some, CryptoBalance.add, ok_bind_iff, bigintAdd_eq_ok, CryptoBalance.check_eq_ok,
      Except.ok.injEq]
    constructor
    · intro h
      obtain ⟨_, ⟨rfl, ha⟩, row, ⟨b, hb, rfl, hpos⟩, rfl⟩ := h
      exact ⟨ha, b, hb, hpos, rfl⟩
    · intro h
      obtain ⟨ha, b, hb, hpos, rfl⟩ := h
      exact ⟨_, ⟨rfl, ha⟩, _, ⟨b, hb, rfl, hpos⟩, rfl⟩

/-- A deduction that succeeds was covered. -/
theorem deductFromUsdc_ok {t t' : CryptoBalances} {u a : Int64} (h : deductFromUsdc t u a = .ok t') :
    (t u).isSome ∧ a.toInt ≤ t.usdc u ∧ ∃ b : Int64, b.toInt = t.usdc u - a.toInt ∧
      t' = Function.update t u (.some ⟨b⟩) := by
  unfold deductFromUsdc at h
  simp only [ok_bind_iff, query_eq_ok] at h
  obtain ⟨⟨affected, t₁⟩, hu, h⟩ := h
  cases affected with
  | false => cases h
  | true =>
    cases h
    obtain ⟨row, row', hrow, hd, rfl⟩ := Table.updateRow_true.1 hu
    unfold CryptoBalance.deduct at hd
    split at hd
    · next hge =>
      simp only [ok_bind_iff, bigintSub_eq_ok, CryptoBalance.check_eq_ok, Except.ok.injEq, Option.some.injEq] at hd
      obtain ⟨b, hb, _, ⟨rfl, _⟩, rfl⟩ := hd
      rw [ge_iff_le, Int64.le_iff_toInt_le] at hge
      unfold CryptoBalances.usdc
      rw [hrow]
      exact ⟨rfl, hge, b, hb, rfl⟩
    · cases hd

/-- A refund to a user with a row, in range, succeeds and adds its amount. -/
theorem refundUsdc_of_fits {t : CryptoBalances} {u a : Int64} (hrow : (t u).isSome) (h0 : 0 ≤ t.usdc u + a.toInt)
    (h : t.usdc u + a.toInt < 2 ^ 63) : ∃ b : Int64, b.toInt = t.usdc u + a.toInt ∧
      refundUsdc t u a = .ok (Function.update t u (.some ⟨b⟩)) := by
  obtain ⟨row, hrow⟩ := Option.isSome_iff_exists.1 hrow
  have husdc : t.usdc u = row.usdcBalance.toInt := by rw [CryptoBalances.usdc, hrow, Option.elim_some]
  rw [husdc] at h0 h ⊢
  have hin : InI64 (row.usdcBalance.toInt + a.toInt) := by
    unfold InI64
    omega
  refine ⟨_, toInt_ofInt hin, ?_⟩
  have hadd : CryptoBalance.add a row = .ok ⟨Int64.ofInt (row.usdcBalance.toInt + a.toInt)⟩ :=
    ok_bind_iff.2 ⟨_, bigintAdd_eq_ok.2 (toInt_ofInt hin),
      CryptoBalance.check_eq_ok.2 ⟨rfl, by rw [toInt_ofInt hin]; exact h0⟩⟩
  have hupd : t.updateRow u (fun row => (row.add a).map .some) = .ok (true, _) :=
    Table.updateRow_true.2 ⟨row, _, hrow, by rw [hadd]; rfl, rfl⟩
  exact ok_bind_iff.2 ⟨_, query_eq_ok.2 hupd, rfl⟩

theorem usdc_update {t : CryptoBalances} {u : Int64} {row : CryptoBalance} (u' : Int64) :
    CryptoBalances.usdc (Function.update t u (.some row)) u' = if u' = u then row.usdcBalance.toInt else t.usdc u' := by
  unfold CryptoBalances.usdc
  split
  · next h => rw [h, Function.update_self, Option.elim_some]
  · next h => rw [Function.update_of_ne h]

theorem insertNewUsdcPaymentDigest_ok {t t' : UsdcPaymentDigests} {digest} :
    insertNewUsdcPaymentDigest t digest = .ok t' ↔ t digest = .none ∧ t' = Function.update t digest (.some ()) := by
  rw [insertNewUsdcPaymentDigest, query_eq_ok, Table.insertRow_ok]
  constructor
  · intro h
    obtain ⟨_, _, hnone, rfl⟩ := h
    exact ⟨hnone, rfl⟩
  · intro h
    exact ⟨(), rfl, h⟩

end AtomaProxy
