/-
The events the proxy sends the state manager, and the two functions that
settle a request: `update_state_manager` for a stack, in tokens, and
`update_state_manager_fiat` for a fiat balance, in amounts.

The fiat amounts are computed in `u128` and converted back with a check. The
product of two `i64` that are not negative always fits a `u128`, so there an
amount is the floor of the exact quotient and the conversion fails exactly
where that floor is too large; a negative factor becomes a number near 2^128.
-/
import AtomaProxy.Base.Effect
import AtomaProxy.Server.Errors
import AtomaProxy.State.FiatBalances

namespace AtomaProxy

open Base

def oneMillion : Nat := 1000000

/-- The events a request's path through the proxy sends. -/
inductive StateManagerEvent where
  | lockUserFiatBalance (userId inputAmount outputAmount : Int64)
  | updateStackNumTokensFiat (e : FiatSettlement)
  | updateStackNumTokens (stackSmallId estimatedTotalTokens totalTokens : Int64)
  | updateNodeThroughputPerformance (modelName : String) (inputTokens outputTokens : Int64)
  | lockStack (stackSmallId : Int64)
  deriving DecidableEq, Repr

abbrev Handler := Eff StateManagerEvent AtomaProxyError

/-- 2^128. -/
def u128Size : Nat := 340282366920938463463374607431768211456

/-- `x as u128`, for an `i64`: a negative number wraps. -/
def u128OfI64 (x : Int64) : Nat := (x.toInt % u128Size).toNat

/-- `tokens as u128 * price as u128 / u128::from(ONE_MILLION)`, the product wrapping. -/
def fiatProduct (tokens price : Int64) : Nat := u128OfI64 tokens * u128OfI64 price % u128Size / oneMillion

/-- `i64::try_from` of it. -/
def fiatAmount (tokens price : Int64) : Option Int64 := i64OfInt? (fiatProduct tokens price)

/-- The conversion's error. -/
def conversionError (what endpoint : String) : AtomaProxyError :=
  .internalError ("Error converting " ++ what ++
    ": out of range integral type conversion attempted") .none endpoint

def convertAmount (tokens price : Int64) (what endpoint : String) : Handler Int64 :=
  match fiatAmount tokens price with
  | .some amount => .ofEnding (.ok amount)
  | .none => .fail (conversionError what endpoint)

/-- `update_state_manager`, its channel open. -/
def updateStateManager (stackSmallId estimatedTotalTokens totalTokens : Int64) : Handler Unit :=
  .send (.updateStackNumTokens stackSmallId estimatedTotalTokens totalTokens)

/-- `update_state_manager_fiat`, its channel open. -/
def updateStateManagerFiat (userId estimatedInputTokens inputTokens estimatedOutputTokens outputTokens
    pricePerOneMillionInputComputeUnits pricePerOneMillionOutputComputeUnits : Int64)
    (modelName endpoint : String) : Handler Unit := do
  let estimatedInputAmount ←
    convertAmount estimatedInputTokens pricePerOneMillionInputComputeUnits "estimated amount" endpoint
  let estimatedOutputAmount ←
    convertAmount estimatedOutputTokens pricePerOneMillionOutputComputeUnits "estimated amount" endpoint
  let inputAmount ← convertAmount inputTokens pricePerOneMillionInputComputeUnits "amount" endpoint
  let outputAmount ← convertAmount outputTokens pricePerOneMillionOutputComputeUnits "amount" endpoint
  .send (.updateStackNumTokensFiat {
    userId, estimatedInputAmount, inputAmount, inputTokens, estimatedOutputAmount, outputAmount, outputTokens,
    modelName })

/-! ## When a settlement is sent -/

theorem u128OfI64_nonneg {x : Int64} (h : 0 ≤ x.toInt) : u128OfI64 x = x.toInt.toNat := by
  have hlt := Int64.toInt_lt x
  have hsize : x.toInt < u128Size := by
    unfold u128Size
    omega
  rw [u128OfI64, Int.emod_eq_of_lt h hsize]

theorem u128OfI64_cast (x : Int64) : (u128OfI64 x : Int) = x.toInt % u128Size :=
  Int.toNat_of_nonneg (Int.emod_nonneg _ (by decide))

/-- The product wraps as the exact one does. -/
theorem fiatProduct_cast (tokens price : Int64) :
    (fiatProduct tokens price : Int) = tokens.toInt * price.toInt % u128Size / 1000000 := by
  rw [fiatProduct, oneMillion]
  push_cast
  rw [u128OfI64_cast, u128OfI64_cast, ← Int.mul_emod]

theorem natAbs_product (tokens price : Int64) :
    (tokens.toInt * price.toInt).natAbs ≤ 85070591730234615865843651857942052864 := by
  have h1 := Int64.toInt_lt tokens
  have h2 := Int64.toInt_lt price
  have h3 := Int64.le_toInt tokens
  have h4 := Int64.le_toInt price
  rw [Int.natAbs_mul]
  calc tokens.toInt.natAbs * price.toInt.natAbs ≤ 9223372036854775808 * 9223372036854775808 :=
        Nat.mul_le_mul (by omega) (by omega)
    _ = 85070591730234615865843651857942052864 := by norm_num

/-- Where the exact product is not negative, the amount is the floor of the exact quotient. -/
theorem fiatProduct_of_nonneg {tokens price : Int64} (h : 0 ≤ tokens.toInt * price.toInt) :
    (fiatProduct tokens price : Int) = tokens.toInt * price.toInt / 1000000 := by
  have hle := natAbs_product tokens price
  have hlt : tokens.toInt * price.toInt < (u128Size : Int) := by
    unfold u128Size
    omega
  rw [fiatProduct_cast, Int.emod_eq_of_lt h hlt]

/-- Where it is negative, the amount is near 2^128. -/
theorem fiatProduct_of_neg {tokens price : Int64} (h : tokens.toInt * price.toInt < 0) :
    2 ^ 63 ≤ fiatProduct tokens price := by
  have hle := natAbs_product tokens price
  have hmod : tokens.toInt * price.toInt % u128Size = tokens.toInt * price.toInt + u128Size := by
    rw [← Int.add_emod_right, Int.emod_eq_of_lt] <;> unfold u128Size <;> omega
  have hcast := fiatProduct_cast tokens price
  rw [hmod] at hcast
  unfold u128Size at hcast
  omega

theorem fiatProduct_nonneg {tokens price : Int64} (ht : 0 ≤ tokens.toInt) (hp : 0 ≤ price.toInt) :
    (fiatProduct tokens price : Int) = tokens.toInt * price.toInt / 1000000 :=
  fiatProduct_of_nonneg (Int.mul_nonneg ht hp)

/-- The conversion gives the floor of the exact quotient, of a product that is not negative. -/
theorem fiatAmount_eq_some {tokens price a : Int64} : fiatAmount tokens price = .some a ↔
    0 ≤ tokens.toInt * price.toInt ∧ a.toInt = tokens.toInt * price.toInt / 1000000 := by
  rw [fiatAmount, i64OfInt?_eq_some]
  by_cases h : 0 ≤ tokens.toInt * price.toInt
  · rw [fiatProduct_of_nonneg h]
    simp only [h, true_and]
  · have hlarge := fiatProduct_of_neg (not_le.1 h)
    have hlt := Int64.toInt_lt a
    constructor
    · intro ha
      omega
    · intro ha
      exact absurd ha.1 h

@[simp] theorem convertAmount_sent (t p : Int64) (w e) : (convertAmount t p w e).sent = [] := by
  unfold convertAmount
  split
  · exact Eff.sent_ofEnding _
  · exact Eff.sent_fail _

theorem convertAmount_some {t p a : Int64} {w e} (h : fiatAmount t p = .some a) :
    convertAmount t p w e = .ofEnding (.ok a) := by
  rw [convertAmount, h]

theorem convertAmount_none {t p : Int64} {w e} (h : fiatAmount t p = .none) :
    convertAmount t p w e = .fail (conversionError w e) := by
  rw [convertAmount, h]

/-- A settlement whose four amounts convert is sent. -/
theorem updateStateManagerFiat_of_some {u ei i eo o pi po : Int64} {m endpoint : String} {aei ai aeo ao}
    (hei : fiatAmount ei pi = .some aei) (heo : fiatAmount eo po = .some aeo) (hi : fiatAmount i pi = .some ai)
    (ho : fiatAmount o po = .some ao) : updateStateManagerFiat u ei i eo o pi po m endpoint =
      ⟨[.updateStackNumTokensFiat ⟨u, m, aei, ai, i, aeo, ao, o⟩], .ok ()⟩ := by
  rw [updateStateManagerFiat, convertAmount_some hei, convertAmount_some heo, convertAmount_some hi,
    convertAmount_some ho]
  rfl

/-- One whose amounts do not all convert is an error, and nothing is sent. -/
theorem updateStateManagerFiat_of_none {u ei i eo o pi po : Int64} {m endpoint : String}
    (h : fiatAmount ei pi = .none ∨ fiatAmount eo po = .none ∨ fiatAmount i pi = .none ∨ fiatAmount o po = .none) :
    ∃ e, updateStateManagerFiat u ei i eo o pi po m endpoint = ⟨[], .err e⟩ := by
  unfold updateStateManagerFiat
  cases hei : fiatAmount ei pi with
  | none => exact ⟨_, by rw [convertAmount_none hei]; exact Eff.bind_err _ rfl⟩
  | some aei =>
    rw [convertAmount_some hei, Eff.bind_ok _ rfl]
    cases heo : fiatAmount eo po with
    | none => exact ⟨_, by rw [convertAmount_none heo, Eff.bind_err _ rfl]; rfl⟩
    | some aeo =>
      rw [convertAmount_some heo, Eff.bind_ok _ rfl]
      cases hi : fiatAmount i pi with
      | none => exact ⟨_, by rw [convertAmount_none hi, Eff.bind_err _ rfl]; rfl⟩
      | some ai =>
        rw [convertAmount_some hi, Eff.bind_ok _ rfl]
        have ho : fiatAmount o po = .none := by simpa [hei, heo, hi] using h
        exact ⟨_, by rw [convertAmount_none ho, Eff.bind_err _ rfl]; rfl⟩

end AtomaProxy
