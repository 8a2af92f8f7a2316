/-
`get_coins_of_value`: the coins a purchase is paid with, taken page by page in
the order the node lists them until their balances reach the value.

The node is a parameter: what it answers to its n-th request may depend on n,
so a page may be answered differently when it is asked for again. Over any
pages that follow on each other the loop takes the shortest non-empty prefix
that reaches the value, and asks for no page behind it.
-/
import AtomaProxy.Auth.WalletSignature
import Mathlib.Algebra.BigOperators.Group.List.Basic
import Mathlib.Data.List.Infix
import Mathlib.Data.UInt

namespace AtomaProxy

structure Coin where
  coinObjectId : String
  balance : UInt64
  deriving DecidableEq, Repr

/-- A page of `coin_read_api().get_coins`. -/
structure Page where
  data : List Coin
  nextCursor : Option String
  hasNextPage : Bool

/-- The wallet's context, and the node behind its client. -/
structure WalletContext where
  getClient : Except String Unit
  activeAddress : Except String SuiAddress
  /-- the n-th request, of an address' coins of a type after a cursor -/
  getCoins : Nat → SuiAddress → Option String → Option String → Except String Page

/-- Where the loop is: `total_balance`, which wraps, and `selected_coins`. -/
structure Selection where
  totalBalance : UInt64
  selectedCoins : List Coin

/-- The loop over a page's coins, and whether it returned. -/
def selectCoins (value : UInt64) (s : Selection) : List Coin → Selection × Bool
  | [] => (s, false)
  | coin :: coins =>
    let s := { totalBalance := s.totalBalance + coin.balance, selectedCoins := s.selectedCoins ++ [coin] }
    if value ≤ s.totalBalance then (s, true) else selectCoins value s coins

/-- A call that ended: the cursors it asked for pages after, where its loops were, and its result. -/
structure CoinsOfValue where
  requested : List (Option String)
  selection : Selection
  result : Except String (List Coin)

def notEnoughCoins : String := "Not enough coins to cover the value"

/-- The loop over the pages, in so many rounds at the most. -/
def selectFromPages (getCoins : Nat → Option String → Except String Page) (value : UInt64) :
    Nat → List (Option String) → Option String → Selection → Option CoinsOfValue
  | 0, _, _, _ => .none
  | rounds + 1, requested, cursor, s =>
    match getCoins requested.length cursor with
    | .error e => .some ⟨requested ++ [cursor], s, .error e⟩
    | .ok page =>
      match selectCoins value s page.data with
      | (s, true) => .some ⟨requested ++ [cursor], s, .ok s.selectedCoins⟩
      | (s, false) =>
        if page.hasNextPage then selectFromPages getCoins value rounds (requested ++ [cursor]) page.nextCursor s
        else .some ⟨requested ++ [cursor], s, .error notEnoughCoins⟩

def getCoinsOfValue (wallet : WalletContext) (coinType : Option String) (value : UInt64) (rounds : Nat) :
    Option CoinsOfValue :=
  match wallet.getClient, wallet.activeAddress with
  | .ok (), .ok address =>
    selectFromPages (fun n cursor => wallet.getCoins n address coinType cursor) value rounds [] .none ⟨0, []⟩
  | .error e, _ => .some ⟨[], ⟨0, []⟩, .error e⟩
  | .ok (), .error e => .some ⟨[], ⟨0, []⟩, .error e⟩

/-! ## Pages and prefixes -/

/-- What the node answers from its n-th request on, each page with the cursor of the next: these pages, and no more. -/
def FollowOn (getCoins : Nat → Option String → Except String Page) : Nat → Option String → List Page → Prop
  | _, _, [] => False
  | n, cursor, [page] => getCoins n cursor = .ok page ∧ page.hasNextPage = false
  | n, cursor, page :: pages =>
    getCoins n cursor = .ok page ∧ page.hasNextPage = true ∧ FollowOn getCoins (n + 1) page.nextCursor pages

/-- The coins of pages, in order. -/
def coinsOf (pages : List Page) : List Coin := pages.flatMap Page.data

/-- The balance of coins, as a natural number. -/
def balanceOf (coins : List Coin) : Nat := (coins.map fun coin => coin.balance.toNat).sum

/-- The shortest prefix with a coin in it that reaches the value. -/
structure ShortestPrefix (value : UInt64) (coins taken : List Coin) : Prop where
  nonempty : taken ≠ []
  isPrefix : taken <+: coins
  reaches : value.toNat ≤ balanceOf taken
  shortest : ∀ shorter, shorter ≠ [] → shorter <+: coins → value.toNat ≤ balanceOf shorter → taken <+: shorter

/-- No prefix with a coin in it reaches the value. -/
def NoPrefix (value : UInt64) (coins : List Coin) : Prop :=
  ∀ taken, taken ≠ [] → taken <+: coins → balanceOf taken < value.toNat

@[simp] theorem balanceOf_nil : balanceOf [] = 0 := rfl

@[simp] theorem balanceOf_append (coins more : List Coin) :
    balanceOf (coins ++ more) = balanceOf coins + balanceOf more := by
  simp [balanceOf]

@[simp] theorem balanceOf_singleton (coin : Coin) : balanceOf [coin] = coin.balance.toNat := by
  simp [balanceOf]

@[simp] theorem coinsOf_cons (page : Page) (pages : List Page) : coinsOf (page :: pages) = page.data ++ coinsOf pages :=
  List.flatMap_cons

@[simp] theorem coinsOf_append (pages more : List Page) : coinsOf (pages ++ more) = coinsOf pages ++ coinsOf more :=
  List.flatMap_append

theorem balanceOf_le {taken coins : List Coin} (h : taken <+: coins) : balanceOf taken ≤ balanceOf coins := by
  obtain ⟨rest, rfl⟩ := h
  simp

theorem noPrefix_nil (value : UInt64) : NoPrefix value [] := by
  intro taken hne h
  simp at h
  exact absurd h hne

/-- One more coin, with which the value is not reached either. -/
theorem NoPrefix.snoc {value : UInt64} {coins : List Coin} {coin : Coin} (h : NoPrefix value coins)
    (hlt : balanceOf (coins ++ [coin]) < value.toNat) : NoPrefix value (coins ++ [coin]) := by
  intro taken hne htaken
  rcases List.prefix_concat_iff.1 htaken with rfl | htaken
  · exact hlt
  · exact h taken hne htaken

/-- The coin with which the value is reached ends the shortest prefix. -/
theorem NoPrefix.shortest {value : UInt64} {coins rest : List Coin} {coin : Coin} (h : NoPrefix value coins)
    (hreach : value.toNat ≤ balanceOf (coins ++ [coin])) :
    ShortestPrefix value (coins ++ [coin] ++ rest) (coins ++ [coin]) where
  nonempty := by simp
  isPrefix := List.prefix_append _ _
  reaches := hreach
  shortest shorter hne hpre hvalue := by
    rcases List.prefix_or_prefix_of_prefix hpre (List.prefix_append (coins ++ [coin]) rest) with hle | hle
    · rcases List.prefix_concat_iff.1 hle with rfl | hle
      · exact List.prefix_rfl
      · have := h shorter hne hle
        omega
    · exact hle

/-! ## The loops -/

/-- The running sum is the balance of the coins: it has not wrapped. -/
def Selection.Exact (s : Selection) : Prop := s.totalBalance.toNat = balanceOf s.selectedCoins

/-- Where no prefix has reached the value before, a page's loop ends with the shortest that does, or goes through. -/
theorem selectCoins_spec (value : UInt64) (coins : List Coin) : ∀ s : Selection, s.Exact →
    NoPrefix value s.selectedCoins → balanceOf (s.selectedCoins ++ coins) < 2 ^ 64 →
    (selectCoins value s coins).1.Exact ∧
      ((selectCoins value s coins).2 = true ∧
          (selectCoins value s coins).1.selectedCoins <+: s.selectedCoins ++ coins ∧
          ¬ (selectCoins value s coins).1.selectedCoins <+: s.selectedCoins ∧
          (∀ rest, ShortestPrefix value (s.selectedCoins ++ coins ++ rest) (selectCoins value s coins).1.selectedCoins) ∨
        (selectCoins value s coins).2 = false ∧
          (selectCoins value s coins).1.selectedCoins = s.selectedCoins ++ coins ∧
          NoPrefix value (s.selectedCoins ++ coins)) := by
  induction coins with
  | nil =>
    intro s hexact hnone _
    refine ⟨hexact, .inr ⟨rfl, ?_, ?_⟩⟩
    · simp [selectCoins]
    · simpa using hnone
  | cons coin coins ih =>
    intro s hexact hnone hbound
    have hadd : (s.totalBalance + coin.balance).toNat = balanceOf (s.selectedCoins ++ [coin]) := by
      unfold Selection.Exact at hexact
      simp only [balanceOf_append, List.append_cons s.selectedCoins coin coins, balanceOf_singleton] at hbound ⊢
      rw [UInt64.toNat_add, hexact, Nat.mod_eq_of_lt (by omega)]
    rw [selectCoins]
    dsimp only
    split
    · next hvalue =>
      rw [UInt64.le_iff_toNat_le, hadd] at hvalue
      refine ⟨hadd, .inl ⟨rfl, by simp, fun hle => ?_, fun rest => ?_⟩⟩
      · have := hle.length_le
        simp at this
      · have := @NoPrefix.shortest value s.selectedCoins (coins ++ rest) coin hnone hvalue
        simpa using this
    · next hvalue =>
      rw [UInt64.le_iff_toNat_le, hadd] at hvalue
      have hmore := ih ⟨s.totalBalance + coin.balance, s.selectedCoins ++ [coin]⟩ hadd (hnone.snoc (by omega))
        (by simpa using hbound)
      simp only [List.append_assoc, List.singleton_append] at hmore
      obtain ⟨hexact', ⟨hdone, hpre, hnot, hshort⟩ | hgone⟩ := hmore
      · exact ⟨hexact', .inl ⟨hdone, hpre, fun hle => hnot (hle.trans (List.prefix_append _ _)), by simpa using hshort⟩⟩
      · exact ⟨hexact', .inr hgone⟩

/-- Over pages that follow on each other the loop ends, with the shortest prefix or after the last page. -/
theorem selectFromPages_spec {getCoins : Nat → Option String → Except String Page} {value : UInt64}
    {pages : List Page} : ∀ {rounds : Nat} {requested : List (Option String)} {cursor : Option String} {s : Selection},
    FollowOn getCoins requested.length cursor pages → pages.length ≤ rounds → s.Exact →
    NoPrefix value s.selectedCoins → balanceOf (s.selectedCoins ++ coinsOf pages) < 2 ^ 64 →
    ∃ call asked page later, selectFromPages getCoins value rounds requested cursor s = .some call ∧
      pages = asked ++ page :: later ∧ call.requested = requested ++ cursor :: asked.map Page.nextCursor ∧
      call.selection.Exact ∧
      (call.result = .ok call.selection.selectedCoins ∧
          ShortestPrefix value (s.selectedCoins ++ coinsOf pages) call.selection.selectedCoins ∧
          call.selection.selectedCoins <+: s.selectedCoins ++ coinsOf (asked ++ [page]) ∧
          ¬ call.selection.selectedCoins <+: s.selectedCoins ++ coinsOf asked ∨
        call.result = .error notEnoughCoins ∧ call.selection.selectedCoins = s.selectedCoins ++ coinsOf pages ∧
          NoPrefix value (s.selectedCoins ++ coinsOf pages)) := by
  induction pages with
  | nil =>
    intro rounds requested cursor s h
    exact h.elim
  | cons page pages ih =>
    intro rounds requested cursor s h hrounds hexact hnone hbound
    obtain ⟨rounds, rfl⟩ : ∃ n, rounds = n + 1 := ⟨rounds - 1, by simp at hrounds; omega⟩
    have hpage : getCoins requested.length cursor = .ok page := by
      cases pages with
      | nil => exact h.1
      | cons _ _ => exact h.1
    rw [coinsOf_cons, ← List.append_assoc] at hbound
    obtain ⟨hexact', hloop⟩ := selectCoins_spec value page.data s hexact hnone (by simp at hbound ⊢; omega)
    rw [selectFromPages, hpage]
    dsimp only
    generalize selectCoins value s page.data = after at hexact' hloop
    obtain ⟨s', found⟩ := after
    dsimp only at hexact' hloop
    rcases hloop with ⟨rfl, hpre, hnot, hshort⟩ | ⟨rfl, hall, hnone'⟩
    · refine ⟨_, [], page, pages, rfl, rfl, by simp, hexact', .inl ⟨rfl, ?_, ?_, ?_⟩⟩
      · have := hshort (coinsOf pages)
        simpa using this
      · simpa [coinsOf] using hpre
      · simpa [coinsOf] using hnot
    · dsimp only
      cases pages with
      | nil =>
        rw [if_neg (by simp [h.2])]
        refine ⟨_, [], page, [], rfl, rfl, by simp, hexact', .inr ⟨rfl, ?_, ?_⟩⟩
        · simpa [coinsOf] using hall
        · simpa [coinsOf] using hnone'
      | cons next pages =>
        obtain ⟨-, hmore, hnext⟩ := h
        rw [if_pos hmore]
        obtain ⟨call, asked, last, later, hcall, hpages, hrequested, hsum, hresult⟩ :=
          @ih rounds (requested ++ [cursor]) page.nextCursor s' (by simpa using hnext)
            (by simp at hrounds ⊢; omega) hexact' (by rwa [hall]) (by rwa [hall])
        refine ⟨call, page :: asked, last, later, hcall, by rw [hpages]; rfl, by simp [hrequested], hsum, ?_⟩
        simpa [hall] using hresult

theorem ShortestPrefix.unique {value : UInt64} {coins taken taken' : List Coin} (h : ShortestPrefix value coins taken)
    (h' : ShortestPrefix value coins taken') : taken = taken' :=
  (h.shortest taken' h'.nonempty h'.isPrefix h'.reaches).eq_of_length_le
    (h'.shortest taken h.nonempty h.isPrefix h.reaches).length_le

theorem NoPrefix.not_shortest {value : UInt64} {coins taken : List Coin} (h : NoPrefix value coins) :
    ¬ ShortestPrefix value coins taken := by
  intro h'
  have := h taken h'.nonempty h'.isPrefix
  have := h'.reaches
  omega

/-- The sum of balances that fit is the sum of the natural numbers. -/
theorem toNat_sum_balance {coins : List Coin} (h : balanceOf coins < 2 ^ 64) :
    (coins.map Coin.balance).sum.toNat = balanceOf coins := by
  induction coins with
  | nil => rfl
  | cons coin coins ih =>
    simp only [balanceOf, List.map_cons, List.sum_cons] at h ih ⊢
    rw [UInt64.toNat_add, ih (by omega), Nat.mod_eq_of_lt (by omega)]

/-- **Main result.** Of the coins that the node lists on pages that follow on each other, and whose balances fit, the
call returns the shortest prefix with a coin in it that reaches the value, and fails exactly if there is none; it asks
for each page once and in order, and for none after the one that completes the prefix; and no sum on the way wraps. -/
theorem coins_of_value_selected {wallet : WalletContext} {coinType : Option String} {value : UInt64}
    {address : SuiAddress} {pages : List Page} {rounds : Nat} (hclient : wallet.getClient = .ok ())
    (haddress : wallet.activeAddress = .ok address)
    (hpages : FollowOn (fun n cursor => wallet.getCoins n address coinType cursor) 0 .none pages)
    (htotal : balanceOf (coinsOf pages) < 2 ^ 64) (hrounds : pages.length ≤ rounds) :
    ∃ call, getCoinsOfValue wallet coinType value rounds = .some call ∧
      (∀ taken, call.result = .ok taken ↔ ShortestPrefix value (coinsOf pages) taken) ∧
      ((∃ e, call.result = .error e) ↔ NoPrefix value (coinsOf pages)) ∧
      (∃ asked page later, pages = asked ++ page :: later ∧ call.requested = .none :: asked.map Page.nextCursor ∧
        ∀ taken, call.result = .ok taken → taken <+: coinsOf (asked ++ [page]) ∧ ¬ taken <+: coinsOf asked) ∧
      call.selection.selectedCoins <+: coinsOf pages ∧
      call.selection.totalBalance = (call.selection.selectedCoins.map Coin.balance).sum ∧
      ∀ counted, counted <+: call.selection.selectedCoins →
        (counted.map Coin.balance).sum.toNat = balanceOf counted := by
  obtain ⟨call, asked, page, later, hcall, hsplit, hrequested, hsum, hresult⟩ :=
    @selectFromPages_spec (fun n cursor => wallet.getCoins n address coinType cursor) value pages rounds [] .none
      ⟨0, []⟩ hpages hrounds rfl (noPrefix_nil value) (by simpa using htotal)
  simp only [List.nil_append] at hrequested hresult
  have hpre : call.selection.selectedCoins <+: coinsOf pages := by
    rcases hresult with ⟨-, hshort, -⟩ | ⟨-, hall, -⟩
    · exact hshort.isPrefix
    · exact hall ▸ List.prefix_rfl
  refine ⟨call, ?_, fun taken => ?_, ?_, ⟨asked, page, later, hsplit, hrequested, fun taken htaken => ?_⟩, hpre, ?_,
    fun counted hcounted => ?_⟩
  · rw [getCoinsOfValue, hclient, haddress]
    exact hcall
  · rcases hresult with ⟨hok, hshort, -⟩ | ⟨herror, -, hnone⟩
    · rw [hok, Except.ok.injEq]
      exact ⟨fun h => h ▸ hshort, fun h => hshort.unique h⟩
    · simp [herror, hnone.not_shortest]
  · rcases hresult with ⟨hok, hshort, -⟩ | ⟨herror, -, hnone⟩
    · simp only [hok, reduceCtorEq, exists_false, false_iff]
      exact fun hnone => hnone.not_shortest hshort
    · simp [herror, hnone]
  · rcases hresult with ⟨hok, -, hin, hnot⟩ | ⟨herror, -⟩
    · rw [hok, Except.ok.injEq] at htaken
      exact htaken ▸ ⟨hin, hnot⟩
    · simp [herror] at htaken
  · rw [← UInt64.toNat_inj, toNat_sum_balance (lt_of_le_of_lt (balanceOf_le hpre) htotal)]
    exact hsum
  · exact toNat_sum_balance (lt_of_le_of_lt (balanceOf_le (hcounted.trans hpre)) htotal)

/-- A wallet whose node lists a coin of 3, then nothing, then coins of 4 and 5. -/
def walletExample : WalletContext where
  getClient := .ok ()
  activeAddress := .ok ⟨"0xa"⟩
  getCoins n _ _ _ :=
    if n = 0 then .ok ⟨[⟨"a", 3⟩], .some "a", true⟩
    else if n = 1 then .ok ⟨[], .some "b", true⟩
    else .ok ⟨[⟨"c", 4⟩, ⟨"d", 5⟩], .none, false⟩

/-- Of them a value of 6 takes the first and the second. -/
theorem coins_of_value_selected_example : ∃ call, getCoinsOfValue walletExample .none 6 3 = .some call ∧
    call.result = .ok [⟨"a", 3⟩, ⟨"c", 4⟩] ∧
    ShortestPrefix 6 [⟨"a", 3⟩, ⟨"c", 4⟩, ⟨"d", 5⟩] [⟨"a", 3⟩, ⟨"c", 4⟩] := by
  obtain ⟨call, hcall, hresult, -⟩ :=
    @coins_of_value_selected walletExample .none 6 ⟨"0xa"⟩
      [⟨[⟨"a", 3⟩], .some "a", true⟩, ⟨[], .some "b", true⟩, ⟨[⟨"c", 4⟩, ⟨"d", 5⟩], .none, false⟩] 3 rfl rfl
      ⟨rfl, rfl, rfl, rfl, rfl, rfl⟩ (by decide) (by decide)
  have hok : call.result = .ok [⟨"a", 3⟩, ⟨"c", 4⟩] := by
    cases hcall
    rfl
  exact ⟨call, hcall, hok, (hresult _).1 hok⟩

end AtomaProxy
