/-
A fragment of PostgreSQL's language, from the text of a query to its answer:
`SELECT * FROM table WHERE …` over comparisons, `IN` lists of bound parameters
and arithmetic with casts to FLOAT.

The tokens are cut character by character, so the tokens of a text that was
put together from pieces are those of its pieces (`scan_append`), except where a
piece ends inside a word or a number: what is open there goes on in the next one.

Ranges are left out: integers have no bound, and a float stands for its number,
which is taken to be one of a finite double.
-/
import AtomaProxy.Base.ShortestDecimal

namespace Base
namespace Sql

/-- How a query fails. -/
inductive Failure where
  | syntaxError
  | undefinedTable
  | undefinedColumn
  | undefinedParameter
  | divisionByZero
  /-- a quotient of numerics, whose scale the fragment leaves out -/
  | unsupported
  /-- more arguments than one query may bind -/
  | tooManyArguments
  /-- as many arguments as the query has parameters are to be bound -/
  | wrongArgumentCount
  deriving DecidableEq, Repr

/-! ## Values -/

/-- A number, of one of the types the fragment tells apart. -/
inductive Value where
  | integer (z : Int)
  | numeric (q : Rat)
  | float (q : Rat)
  deriving DecidableEq, Repr

namespace Value

def number : Value → Rat
  | .integer z => z
  | .numeric q => q
  | .float q => q

def isFloat : Value → Bool
  | .float _ => true
  | _ => false

/-- `CAST(… AS FLOAT)`. -/
def toFloat : Value → Rat
  | .float q => q
  | v => Binary64.round v.number

def neg : Value → Value
  | .integer z => .integer (-z)
  | .numeric q => .numeric (-q)
  | .float q => .float (-q)

/-- As floats where one of them is a float, else exactly. -/
def compare (p : Rat → Rat → Bool) (a b : Value) : Bool :=
  if a.isFloat || b.isFloat then p a.toFloat b.toFloat else p a.number b.number

def sub : Value → Value → Value
  | .integer y, .integer z => .integer (y - z)
  | a, b => if a.isFloat || b.isFloat then .float (Binary64.round (a.toFloat - b.toFloat)) else .numeric (a.number - b.number)

/-- An integer quotient is cut, that of floats rounded. -/
def div (a b : Value) : Except Failure Value :=
  if b.number = 0 then .error .divisionByZero
  else if a.isFloat || b.isFloat then .ok (.float (Binary64.round (a.toFloat / b.toFloat)))
  else
    match a, b with
    | .integer y, .integer z => .ok (.integer (y.tdiv z))
    | _, _ => .error .unsupported

theorem toFloat_of_isFloat {v : Value} (h : v.isFloat = false) : v.toFloat = Binary64.round v.number := by
  cases v with
  | integer z => rfl
  | numeric q => rfl
  | float q => simp [isFloat] at h

@[simp] theorem number_neg (v : Value) : v.neg.number = -v.number := by
  cases v <;> simp [neg, number]

@[simp] theorem isFloat_neg (v : Value) : v.neg.isFloat = v.isFloat := by
  cases v <;> rfl

theorem isFloat_sub {a b : Value} (ha : a.isFloat = false) (hb : b.isFloat = false) : (a.sub b).isFloat = false := by
  cases a <;> cases b <;> simp_all [sub, isFloat]

theorem number_sub {a b : Value} (ha : a.isFloat = false) (hb : b.isFloat = false) :
    (a.sub b).number = a.number - b.number := by
  cases a <;> cases b <;> simp_all [sub, isFloat, number]

theorem div_float {x y : Rat} (hy : y ≠ 0) : div (.float x) (.float y) = .ok (.float (Binary64.round (x / y))) := by
  simp [div, number, isFloat, toFloat, hy]

end Value

/-! ## Tokens -/

inductive Keyword where
  | SELECT | FROM | WHERE | IN | AND | CAST | AS | FLOAT
  deriving DecidableEq, Repr

inductive Token where
  | keyword (k : Keyword)
  /-- a name, in lower case -/
  | name (w : String)
  | literal (v : Value)
  /-- `$n` -/
  | parameter (n : Nat)
  | symbol (c : Char)
  /-- what no token of the fragment begins or goes on with -/
  | junk
  deriving DecidableEq, Repr

def ofWord (w : List Char) : Token :=
  match String.ofList w with
  | "select" => .keyword .SELECT
  | "from" => .keyword .FROM
  | "where" => .keyword .WHERE
  | "in" => .keyword .IN
  | "and" => .keyword .AND
  | "cast" => .keyword .CAST
  | "as" => .keyword .AS
  | "float" => .keyword .FLOAT
  | w => .name w

/-- The token that has begun and not ended. -/
inductive Pending where
  | none
  | word (w : List Char)
  | integer (n : Nat)
  /-- `n`, with so many of its digits behind the point -/
  | decimal (n places : Nat)
  | dollar
  | parameter (n : Nat)
  | junk
  deriving DecidableEq, Repr

/-- What it is when the text ends. -/
def Pending.tokens : Pending → List Token
  | .none => []
  | .word w => [ofWord w]
  | .integer n => [.literal (.integer n)]
  | .decimal n places => [.literal (.numeric (n / 10 ^ places))]
  | .parameter n => [.parameter n]
  | .dollar | .junk => [.junk]

def isWordStart (c : Char) : Bool := c.isAlpha || c = '_'

def digit (c : Char) : Nat := c.toNat - '0'.toNat

/-- A character with no token open. -/
def start (c : Char) : List Token × Pending :=
  if c = ' ' then ([], .none)
  else if isWordStart c then ([], .word [c.toLower])
  else if c.isDigit then ([], .integer (digit c))
  else if c = '$' then ([], .dollar)
  else if c ∈ ['*', '(', ')', ',', '=', '>', '-', '/'] then ([.symbol c], .none)
  else ([], .junk)

/-- A character that ends the open token. -/
def finish (p : Pending) (c : Char) : List Token × Pending := (p.tokens ++ (start c).1, (start c).2)

def step (p : Pending) (c : Char) : List Token × Pending :=
  match p with
  | .none => start c
  | .word w => if isWordStart c || c.isDigit then ([], .word (w ++ [c.toLower])) else finish p c
  | .integer n =>
    if c.isDigit then ([], .integer (10 * n + digit c))
    else if c = '.' then ([], .decimal n 0)
    else if isWordStart c then ([], .junk) else finish p c
  | .decimal n places =>
    if c.isDigit then ([], .decimal (10 * n + digit c) (places + 1))
    else if isWordStart c || c = '.' then ([], .junk) else finish p c
  | .dollar => if c.isDigit then ([], .parameter (digit c)) else ([], .junk)
  | .parameter n =>
    if c.isDigit then ([], .parameter (10 * n + digit c))
    else if isWordStart c then ([], .junk) else finish p c
  | .junk => ([], .junk)

/-- The tokens a text ends, and the one it leaves open. -/
def scan (p : Pending) : List Char → List Token × Pending
  | [] => ([], p)
  | c :: cs => ((step p c).1 ++ (scan (step p c).2 cs).1, (scan (step p c).2 cs).2)

def tokens (text : String) : List Token :=
  (scan .none text.toList).1 ++ (scan .none text.toList).2.tokens

theorem scan_append (p : Pending) (xs ys : List Char) :
    scan p (xs ++ ys) = ((scan p xs).1 ++ (scan (scan p xs).2 ys).1, (scan (scan p xs).2 ys).2) := by
  induction xs generalizing p with
  | nil => rfl
  | cons c cs ih => simp [scan, ih]

theorem scan_append_of {p q r : Pending} {xs ys : List Char} {ts us : List Token} (hx : scan p xs = (ts, q))
    (hy : scan q ys = (us, r)) : scan p (xs ++ ys) = (ts ++ us, r) := by
  rw [scan_append, hx, hy]

/-- Digits go on in an open number, which `opened` is with its value and their count. -/
theorem scan_number {opened : Nat → Nat → Pending}
    (hstep : ∀ {n k c}, c.isDigit → step (opened n k) c = ([], opened (10 * n + digit c) (k + 1)))
    {n k : Nat} {w : List Char} (hw : ∀ c ∈ w, c.isDigit) :
    scan (opened n k) w = ([], opened (Nat.ofDigitChars 10 w n) (k + w.length)) := by
  induction w generalizing n k with
  | nil => rfl
  | cons c cs ih =>
    rw [List.forall_mem_cons] at hw
    rw [scan, hstep hw.1, ih hw.2, Nat.ofDigitChars_cons, List.length_cons, Nat.add_right_comm, Nat.add_assoc]
    rfl

theorem scan_integer {n : Nat} {w : List Char} (hw : ∀ c ∈ w, c.isDigit) :
    scan (.integer n) w = ([], .integer (Nat.ofDigitChars 10 w n)) :=
  @scan_number (fun n _ => .integer n) (fun hc => by simp [step, hc]) n 0 w hw

theorem scan_decimal {n places : Nat} {w : List Char} (hw : ∀ c ∈ w, c.isDigit) :
    scan (.decimal n places) w = ([], .decimal (Nat.ofDigitChars 10 w n) (places + w.length)) :=
  scan_number (fun hc => by simp [step, hc]) hw

theorem scan_parameter {n : Nat} {w : List Char} (hw : ∀ c ∈ w, c.isDigit) :
    scan (.parameter n) w = ([], .parameter (Nat.ofDigitChars 10 w n)) :=
  @scan_number (fun n _ => .parameter n) (fun hc => by simp [step, hc]) n 0 w hw

theorem start_digit {c : Char} (hc : c.isDigit) : start c = ([], .integer (digit c)) := by
  have hspace : c ≠ ' ' := by
    rintro rfl
    simp [Char.isDigit] at hc
  have hunderscore : c ≠ '_' := by
    rintro rfl
    simp [Char.isDigit] at hc
  have halpha : c.isAlpha = false := by
    have hle : c.val ≤ '9'.val := by
      simp only [Char.isDigit, Bool.and_eq_true, decide_eq_true_eq] at hc
      exact hc.2
    by_contra h
    -- a letter comes after the digits
    rcases Bool.or_eq_true_iff.1 (Bool.not_eq_false _ ▸ h) with hupper | hlower
    · exact absurd (UInt32.le_trans (of_decide_eq_true hupper).1 hle) (by decide)
    · exact absurd (UInt32.le_trans (of_decide_eq_true (Bool.and_eq_true_iff.1 hlower).1) hle) (by decide)
  simp [start, isWordStart, hspace, hunderscore, halpha, hc]

theorem scan_digits {w : List Char} (hne : w ≠ []) (hw : ∀ c ∈ w, c.isDigit) :
    scan .none w = ([], .integer (Nat.ofDigitChars 10 w 0)) := by
  cases w with
  | nil => exact absurd rfl hne
  | cons c cs =>
    rw [List.forall_mem_cons] at hw
    simp [scan, step, start_digit hw.1, scan_integer hw.2, Nat.ofDigitChars_cons, digit]

theorem scan_placeholder (n : Nat) : scan .none ('$' :: Nat.toDigits 10 n) = ([], .parameter n) := by
  have hdigits : ∀ c ∈ Nat.toDigits 10 n, c.isDigit := fun c hc =>
    Nat.isDigit_of_mem_toDigits (by norm_num) (by norm_num) hc
  have hn := Nat.ofDigitChars_ten_toDigits (n := n)
  cases hw : Nat.toDigits 10 n with
  | nil => exact absurd hw Nat.toDigits_ne_nil
  | cons c cs =>
    rw [hw] at hdigits hn
    rw [List.forall_mem_cons] at hdigits
    rw [Nat.ofDigitChars_cons, Nat.mul_zero, Nat.zero_add] at hn
    have hdollar : start '$' = ([], .dollar) := rfl
    have hfirst : step .dollar c = ([], .parameter (digit c)) := if_pos hdigits.1
    rw [scan, step, hdollar, scan, hfirst, scan_parameter hdigits.2, digit, hn]
    rfl

/-- **A numeral is one literal of the number it writes.** -/
theorem scan_numeral {text : List Char} {q : Rat} (h : IsNumeral text q) :
    ∃ p v, scan .none text = ([], p) ∧ p.tokens = [.literal v] ∧ v.number = q ∧ v.isFloat = false := by
  cases h with
  | whole hne hw => exact ⟨_, _, scan_digits hne hw, rfl, by simp [Value.number], rfl⟩
  | @pointed w f hne hw hf =>
    have hpoint : scan (.integer (Nat.ofDigitChars 10 w 0)) ('.' :: f)
        = ([], .decimal (Nat.ofDigitChars 10 (w ++ f) 0) f.length) := by
      simp [scan, step, scan_decimal hf, Nat.ofDigitChars_append]
    exact ⟨_, _, scan_append_of (scan_digits hne hw) hpoint, rfl, rfl, rfl⟩

/-! ## Queries -/

inductive Expr where
  | literal (v : Value)
  | column (name : String)
  | neg (e : Expr)
  | toFloat (e : Expr)
  | div (a b : Expr)
  | sub (a b : Expr)
  deriving DecidableEq, Repr

inductive Condition where
  /-- `e IN ($k, …)` -/
  | among (e : Expr) (ks : List Nat)
  | equal (a b : Expr)
  | greater (a b : Expr)
  | both (c d : Condition)
  deriving DecidableEq, Repr

/-- `SELECT * FROM table WHERE condition`. -/
structure Select where
  table : String
  condition : Condition
  deriving DecidableEq, Repr

-- Precedence climbs from a comparison's sides down to a factor: `-` over `/` over the sign.
mutual

def parseFactor : Nat → List Token → Option (Expr × List Token)
  | 0, _ => .none
  | _ + 1, .literal v :: ts => .some (.literal v, ts)
  | _ + 1, .name w :: ts => .some (.column w, ts)
  | n + 1, .symbol '-' :: ts => do
    let (e, ts) ← parseFactor n ts
    .some (.neg e, ts)
  | n + 1, .symbol '(' :: ts => do
    match ← parseSum n ts with
    | (e, .symbol ')' :: ts) => .some (e, ts)
    | _ => .none
  | n + 1, .keyword .CAST :: .symbol '(' :: ts => do
    match ← parseSum n ts with
    | (e, .keyword .AS :: .keyword .FLOAT :: .symbol ')' :: ts) => .some (.toFloat e, ts)
    | _ => .none
  | _ + 1, _ => .none

def parseTerm : Nat → List Token → Option (Expr × List Token)
  | 0, _ => .none
  | n + 1, ts => do
    let (a, ts) ← parseFactor n ts
    parseQuotients n a ts

/-- The divisors after `a`. -/
def parseQuotients : Nat → Expr → List Token → Option (Expr × List Token)
  | 0, _, _ => .none
  | n + 1, a, .symbol '/' :: ts => do
    let (b, ts) ← parseFactor n ts
    parseQuotients n (.div a b) ts
  | _ + 1, a, ts => .some (a, ts)

def parseSum : Nat → List Token → Option (Expr × List Token)
  | 0, _ => .none
  | n + 1, ts => do
    let (a, ts) ← parseTerm n ts
    parseDifferences n a ts

/-- What is subtracted from `a`. -/
def parseDifferences : Nat → Expr → List Token → Option (Expr × List Token)
  | 0, _, _ => .none
  | n + 1, a, .symbol '-' :: ts => do
    let (b, ts) ← parseTerm n ts
    parseDifferences n (.sub a b) ts
  | _ + 1, a, ts => .some (a, ts)

end

/-- The parameters of a list, past its opening bracket. -/
def parseParameters : List Token → Option (List Nat × List Token)
  | .parameter k :: .symbol ',' :: ts => do
    let (ks, ts) ← parseParameters ts
    .some (k :: ks, ts)
  | .parameter k :: .symbol ')' :: ts => .some ([k], ts)
  | _ => .none

def parseComparison (n : Nat) (ts : List Token) : Option (Condition × List Token) := do
  let (a, ts) ← parseSum n ts
  match ts with
  | .keyword .IN :: .symbol '(' :: ts => do
    let (ks, ts) ← parseParameters ts
    .some (.among a ks, ts)
  | .symbol '=' :: ts => do
    let (b, ts) ← parseSum n ts
    .some (.equal a b, ts)
  | .symbol '>' :: ts => do
    let (b, ts) ← parseSum n ts
    .some (.greater a b, ts)
  | _ => .none

def parseCondition : Nat → List Token → Option (Condition × List Token)
  | 0, _ => .none
  | n + 1, ts => do
    match ← parseComparison n ts with
    | (c, .keyword .AND :: ts) => do
      let (d, ts) ← parseCondition n ts
      .some (.both c d, ts)
    | (c, ts) => .some (c, ts)

/-- A token takes the grammar down by five levels at most. -/
def parse : List Token → Option Select
  | .keyword .SELECT :: .symbol '*' :: .keyword .FROM :: .name table :: .keyword .WHERE :: ts =>
    match parseCondition (5 * ts.length + 5) ts with
    | .some (condition, []) => .some { table, condition }
    | _ => .none
  | _ => .none

theorem parseParameters_range (m n : Nat) (ts : List Token) :
    parseParameters ((List.range' m n).flatMap (fun k => [.parameter k, .symbol ',']) ++
      .parameter (m + n) :: .symbol ')' :: ts) = .some (List.range' m (n + 1), ts) := by
  induction n generalizing m with
  | zero => rfl
  | succ n ih =>
    have h := ih (m + 1)
    rw [Nat.add_right_comm, Nat.add_assoc] at h
    simp [List.range'_succ, parseParameters, h]

/-- `SELECT * FROM table WHERE`. -/
def selectTokens (table : String) : List Token :=
  [.keyword .SELECT, .symbol '*', .keyword .FROM, .name table, .keyword .WHERE]

/-- `column IN ($1, …, $n, $(n + 1))`. -/
def amongTokens (column : String) (n : Nat) : List Token :=
  .name column :: .keyword .IN :: .symbol '(' :: (List.range' 1 n).flatMap (fun k => [.parameter k, .symbol ',']) ++
    [.parameter (1 + n), .symbol ')']

theorem parseComparison_among (depth : Nat) (column : String) (n : Nat) (ts : List Token) :
    parseComparison (depth + 4) (amongTokens column n ++ ts) =
      .some (.among (.column column) (List.range' 1 (n + 1)), ts) := by
  simp [parseComparison, amongTokens, parseSum, parseTerm, parseFactor, parseQuotients, parseDifferences,
    parseParameters_range]

theorem parseCondition_last {n : Nat} {ts : List Token} {c : Condition} (h : parseComparison n ts = .some (c, [])) :
    parseCondition (n + 1) ts = .some (c, []) := by
  rw [parseCondition, h]
  rfl

theorem parseCondition_and {n : Nat} {ts us vs : List Token} {c d : Condition}
    (hc : parseComparison n ts = .some (c, .keyword .AND :: us)) (hd : parseCondition n us = .some (d, vs)) :
    parseCondition (n + 1) ts = .some (.both c d, vs) := by
  simp only [parseCondition, hc, hd, Option.bind_eq_bind, Option.bind_some]

theorem parse_select {table : String} {ts : List Token} {condition : Condition}
    (h : parseCondition (5 * ts.length + 5) ts = .some (condition, [])) :
    parse (selectTokens table ++ ts) = .some { table, condition } := by
  simp only [parse, selectTokens, List.cons_append, List.nil_append, h]

/-- The list alone. -/
theorem parse_among (table column : String) (n : Nat) :
    parse (selectTokens table ++ amongTokens column n) =
      .some { table, condition := .among (.column column) (List.range' 1 (n + 1)) } := by
  have hamong := parseComparison_among (5 * (amongTokens column n).length) column n []
  rw [List.append_nil] at hamong
  exact parse_select (parseCondition_last hamong)

/-- The list, and one more comparison. -/
theorem parse_among_and {ts : List Token} {c : Condition} (table column : String) (n : Nat)
    (h : ∀ depth, parseComparison (depth + 15) ts = .some (c, [])) :
    parse (selectTokens table ++ (amongTokens column n ++ .keyword .AND :: ts)) =
      .some { table, condition := .both (.among (.column column) (List.range' 1 (n + 1))) c } := by
  obtain ⟨depth, hdepth⟩ : ∃ depth, 5 * (amongTokens column n ++ .keyword .AND :: ts).length + 5 = depth + 15 + 2 := by
    refine ⟨5 * (amongTokens column n ++ .keyword .AND :: ts).length - 12, ?_⟩
    simp only [amongTokens, List.cons_append, List.length_cons]
    omega
  apply parse_select
  rw [hdepth]
  exact parseCondition_and (parseComparison_among (depth + 12) column n _) (parseCondition_last (h depth))

/-! ## Answers -/

/-- The argument of `$k`. -/
def bound {α : Type _} (arguments : List α) (k : Nat) : Option α :=
  if k = 0 then .none else arguments[k - 1]?

def Expr.eval (row : String → Option Value) : Expr → Except Failure Value
  | .literal v => .ok v
  | .column name =>
    match row name with
    | .some v => .ok v
    | .none => .error .undefinedColumn
  | .neg e => do .ok (← e.eval row).neg
  | .toFloat e => do .ok (.float (← e.eval row).toFloat)
  | .div a b => do (← a.eval row).div (← b.eval row)
  | .sub a b => do .ok ((← a.eval row).sub (← b.eval row))

def argument (arguments : List Value) (k : Nat) : Except Failure Value :=
  match bound arguments k with
  | .some v => .ok v
  | .none => .error .undefinedParameter

def Condition.eval (row : String → Option Value) (arguments : List Value) : Condition → Except Failure Bool
  | .among e ks => do
    let v ← e.eval row
    let vs ← ks.mapM (argument arguments)
    .ok (vs.any (v.compare (· = ·)))
  | .equal a b => do .ok ((← a.eval row).compare (· = ·) (← b.eval row))
  | .greater a b => do .ok ((← a.eval row).compare (· > ·) (← b.eval row))
  | .both c d => do
    let x ← c.eval row arguments
    let y ← d.eval row arguments
    .ok (x && y)

/-- The parameters in the order of the text. -/
def Condition.parameters : Condition → List Nat
  | .among _ ks => ks
  | .equal _ _ | .greater _ _ => []
  | .both c d => c.parameters ++ d.parameters

/-- A table: its name, and a row's columns. -/
structure Relation (ρ : Type _) where
  name : String
  column : ρ → String → Option Value

/-- The rows a condition holds of. It is evaluated on all of them. -/
def filterRows {ρ : Type _} (p : ρ → Except Failure Bool) : List ρ → Except Failure (List ρ)
  | [] => .ok []
  | row :: rows => do
    let keeps ← p row
    let rest ← filterRows p rows
    .ok (if keeps then row :: rest else rest)

/-- The rows that the query selects from the table, which holds `rows`. The driver binds `maxArguments` at most. -/
def fetchAll {ρ : Type _} (maxArguments : Nat) (relation : Relation ρ) (rows : List ρ) (text : String)
    (arguments : List Value) : Except Failure (List ρ) :=
  if maxArguments < arguments.length then .error .tooManyArguments
  else
    match parse (tokens text) with
    | .none => .error .syntaxError
    | .some q =>
      if q.table ≠ relation.name then .error .undefinedTable
      else if q.condition.parameters.foldr max 0 ≠ arguments.length then .error .wrongArgumentCount
      else filterRows (fun row => q.condition.eval (relation.column row) arguments) rows

theorem map_bound_range {α : Type _} (arguments : List α) :
    (List.range' 1 arguments.length).map (bound arguments) = arguments.map .some := by
  apply List.ext_getElem
  · simp
  · intro k h _
    simp at h
    simp [bound, Nat.add_comm 1, h]

theorem foldr_max_range (m n : Nat) : (List.range' (m + 1) n).foldr max 0 = if n = 0 then 0 else m + n := by
  induction n generalizing m with
  | zero => rfl
  | succ n ih =>
    rw [List.range'_succ, List.foldr_cons, ih]
    split <;> simp <;> omega

theorem mapM_argument {arguments : List Value} {ks : List Nat} {vs : List Value}
    (h : ks.map (bound arguments) = vs.map .some) : ks.mapM (argument arguments) = .ok vs := by
  induction ks generalizing vs with
  | nil =>
    cases vs with
    | nil => rfl
    | cons v vs => simp at h
  | cons k ks ih =>
    cases vs with
    | nil => simp at h
    | cons v vs =>
      rw [List.map_cons, List.map_cons, List.cons.injEq] at h
      rw [List.mapM_cons, argument, h.1, ih h.2]
      rfl

theorem filterRows_eq {ρ : Type _} {p : ρ → Except Failure Bool} {keeps : ρ → Bool} {rows : List ρ}
    (h : ∀ row ∈ rows, p row = .ok (keeps row)) : filterRows p rows = .ok (rows.filter keeps) := by
  induction rows with
  | nil => rfl
  | cons row rows ih =>
    rw [List.forall_mem_cons] at h
    rw [filterRows, h.1, ih h.2, List.filter_cons]
    rfl

/-- **A query that is well formed, whose arguments fit and whose condition has a value on each row.** -/
theorem fetchAll_eq {ρ : Type _} {maxArguments : Nat} {relation : Relation ρ} {rows : List ρ} {text : String}
    {arguments : List Value} {q : Select} {keeps : ρ → Bool} (hmax : arguments.length ≤ maxArguments)
    (hq : parse (tokens text) = .some q) (hname : q.table = relation.name)
    (hcount : q.condition.parameters = List.range' 1 arguments.length)
    (heval : ∀ row ∈ rows, q.condition.eval (relation.column row) arguments = .ok (keeps row)) :
    fetchAll maxArguments relation rows text arguments = .ok (rows.filter keeps) := by
  have hmaxParam : q.condition.parameters.foldr max 0 = arguments.length := by
    rw [hcount, foldr_max_range 0]
    split <;> omega
  simp [fetchAll, Nat.not_lt.2 hmax, hq, hname, hmaxParam, filterRows_eq heval]

end Sql
end Base
