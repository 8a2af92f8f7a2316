/-
`build_query_with_in` and the three statements built with it: `get_stacks`,
`get_stacks_by_node_small_ids` and `get_almost_filled_stacks`.

For an empty list the clause is `1=0`, which no row meets, and the builder is
returned without the additional condition. `get_almost_filled_stacks` pushes
its fraction all the same, so there the text goes on inside the zero's own
numeral: a fraction of one makes it `1=01`, which every row meets.
-/
import AtomaProxy.Base.QueryBuilder
import AtomaProxy.State.Stacks

namespace AtomaProxy

open Base

/-- `build_query_with_in`. -/
def buildQueryWithIn {α : Type _} (baseQuery column : String) (values : List α) (additionalConditions : Option String) :
    QueryBuilder α :=
  let builder := QueryBuilder.new baseQuery
  if values.isEmpty then builder.push " WHERE 1=0"
  else
    let builder := ((builder.push " WHERE ").push column).push " IN ("
    let separated := values.foldl Separated.pushBind (builder.separated ", ")
    let builder := (separated.pushUnseparated ")").queryBuilder
    match additionalConditions with
    | .some conditions => (builder.push " AND ").push conditions
    | .none => builder

/-- The table's columns that are numbers, of a row under its `stack_small_id`. -/
def stacksColumn (row : Int64 × Stack) : String → Option Sql.Value
  | "stack_small_id" => .some (.integer row.1.toInt)
  | "task_small_id" => .some (.integer row.2.taskSmallId.toInt)
  | "selected_node_id" => .some (.integer row.2.selectedNodeId.toInt)
  | "num_compute_units" => .some (.integer row.2.numComputeUnits.toInt)
  | "price_per_one_million_compute_units" => .some (.integer row.2.pricePerOneMillionComputeUnits.toInt)
  | "already_computed_units" => .some (.integer row.2.alreadyComputedUnits.toInt)
  | "locked_compute_units" => .some (.integer row.2.lockedComputeUnits.toInt)
  | "num_total_messages" => .some (.integer row.2.numTotalMessages.toInt)
  | "user_id" => .some (.integer row.2.userId.toInt)
  | _ => .none

def stacksRelation : Sql.Relation (Int64 × Stack) where
  name := "stacks"
  column := stacksColumn

/-- `query_builder.build().fetch_all(&self.db)`, each row read by `Stack::from_row`; the failure before `?` wraps it. -/
def fetchStacks (maxArguments : Nat) (rows : List (Int64 × Stack)) (queryBuilder : QueryBuilder Int64) :
    Except Sql.Failure (List (Int64 × Stack)) :=
  Sql.fetchAll maxArguments stacksRelation rows queryBuilder.query
    (queryBuilder.arguments.map fun id => .integer id.toInt)

/-- `get_stacks`. -/
def getStacks (maxArguments : Nat) (rows : List (Int64 × Stack)) (stackSmallIds : List Int64) :
    Except Sql.Failure (List (Int64 × Stack)) :=
  fetchStacks maxArguments rows (buildQueryWithIn "SELECT * FROM stacks" "stack_small_id" stackSmallIds .none)

/-- `get_stacks_by_node_small_ids`. -/
def getStacksByNodeSmallIds (maxArguments : Nat) (rows : List (Int64 × Stack)) (nodeSmallIds : List Int64) :
    Except Sql.Failure (List (Int64 × Stack)) :=
  fetchStacks maxArguments rows (buildQueryWithIn "SELECT * FROM stacks" "selected_node_id" nodeSmallIds .none)

/-- The query of `get_almost_filled_stacks`. -/
def almostFilledQuery (nodeSmallIds : List Int64) (fraction : Binary64) : QueryBuilder Int64 :=
  (buildQueryWithIn "SELECT * FROM stacks" "selected_node_id" nodeSmallIds
    (.some "CAST(already_computed_units AS FLOAT) / CAST(num_compute_units AS FLOAT) > ")).push fraction.display

/-- `get_almost_filled_stacks`. -/
def getAlmostFilledStacks (maxArguments : Nat) (rows : List (Int64 × Stack)) (nodeSmallIds : List Int64)
    (fraction : Binary64) : Except Sql.Failure (List (Int64 × Stack)) :=
  fetchStacks maxArguments rows (almostFilledQuery nodeSmallIds fraction)

/-- The part of its units that a stack has computed: the double that is nearest to their quotient as doubles. -/
def Stack.filledFraction (row : Stack) : Rat :=
  Binary64.round (Binary64.round row.alreadyComputedUnits.toInt / Binary64.round row.numComputeUnits.toInt)

/-- Counts that are doubles themselves: their quotient, rounded once. -/
theorem Stack.filledFraction_eq {row : Stack} {a n : Nat} (ha : row.alreadyComputedUnits.toInt = a)
    (hn : row.numComputeUnits.toInt = n) (halt : a < 2 ^ 53) (hnlt : n < 2 ^ 53) :
    row.filledFraction = Binary64.round (a / n) := by
  have hround {m : Nat} (h : m < 2 ^ 53) : Binary64.round ((m : Int) : Rat) = m := by
    exact_mod_cast Binary64.round_natCast h
  rw [filledFraction, ha, hn, hround halt, hround hnlt]

/-! ## The text -/

section
variable {α : Type _} {baseQuery column table : String}

@[simp] theorem buildQueryWithIn_nil (additionalConditions : Option String) :
    buildQueryWithIn baseQuery column ([] : List α) additionalConditions =
      (QueryBuilder.new baseQuery).push " WHERE 1=0" := rfl

/-- The additional condition follows the list. -/
theorem buildQueryWithIn_some {values : List α} (hne : values ≠ []) (conditions : String) :
    buildQueryWithIn baseQuery column values (.some conditions) =
      ((buildQueryWithIn baseQuery column values .none).push " AND ").push conditions := by
  cases values with
  | nil => exact absurd rfl hne
  | cons v vs => rfl

/-- The k-th argument is the k-th value. -/
theorem buildQueryWithIn_arguments (values : List α) (additionalConditions : Option String) :
    (buildQueryWithIn baseQuery column values additionalConditions).arguments = values := by
  cases values with
  | nil => rfl
  | cons v vs =>
    have h (b : QueryBuilder α) (hb : b.arguments = []) :
        ((v :: vs).foldl Separated.pushBind (b.separated ", ")).queryBuilder.arguments = v :: vs := by
      rw [Separated.foldl_pushBind_arguments]
      simp [QueryBuilder.separated, hb]
    cases additionalConditions with
    | none => exact h _ rfl
    | some conditions => exact h _ rfl

/-- **The list's placeholders, for every length**, where what comes before them is read as itself. -/
theorem scan_buildQueryWithIn (v : α) (vs : List α)
    (hhead : Sql.scan .none (baseQuery ++ " WHERE " ++ column ++ " IN (").toList =
      (Sql.selectTokens table ++ [.name column, .keyword .IN, .symbol '('], .none)) :
    Sql.scan .none (buildQueryWithIn baseQuery column (v :: vs) .none).query.toList =
      (Sql.selectTokens table ++ Sql.amongTokens column vs.length, .none) := by
  let builder : QueryBuilder α := (((QueryBuilder.new baseQuery).push " WHERE ").push column).push " IN ("
  have hfirst := QueryBuilder.scan_pushBind (b := builder) v hhead
  have hrest := Separated.scan_foldl_pushBind (s := (builder.separated ", ").pushBind v) vs rfl rfl hfirst
  have hclose (k : Nat) : Sql.scan (.parameter k) ")".toList = ([.parameter k, .symbol ')'], .none) := rfl
  have hall := Sql.scan_append_of hrest (hclose _)
  rw [← String.toList_append] at hall
  refine Eq.trans hall ?_
  simp [Sql.amongTokens, builder, Separated.pushBind, QueryBuilder.separated]

end

theorem scan_head_node : Sql.scan .none ("SELECT * FROM stacks" ++ " WHERE " ++ "selected_node_id" ++ " IN (").toList =
    (Sql.selectTokens "stacks" ++ [.name "selected_node_id", .keyword .IN, .symbol '('], .none) := by
  simp only [String.toList_append]
  rfl

theorem scan_head_stack : Sql.scan .none ("SELECT * FROM stacks" ++ " WHERE " ++ "stack_small_id" ++ " IN (").toList =
    (Sql.selectTokens "stacks" ++ [.name "stack_small_id", .keyword .IN, .symbol '('], .none) := by
  simp only [String.toList_append]
  rfl

/-- The clause of the empty list, up to its second side. -/
theorem scan_nothing : Sql.scan .none ("SELECT * FROM stacks" ++ " WHERE 1=").toList =
    (Sql.selectTokens "stacks" ++ [.literal (.integer 1), .symbol '='], .none) := by
  simp only [String.toList_append]
  rfl

theorem parse_nothing : Sql.parse (Sql.tokens ("SELECT * FROM stacks" ++ " WHERE 1=0")) =
    .some { table := "stacks", condition := .equal (.literal (.integer 1)) (.literal (.integer 0)) } := by
  have hzero : Sql.scan .none ['0'] = ([], .integer 0) := rfl
  have htext : ("SELECT * FROM stacks" ++ " WHERE 1=0").toList = ("SELECT * FROM stacks" ++ " WHERE 1=").toList ++ ['0'] := by
    simp
  rw [Sql.tokens, htext, Sql.scan_append_of scan_nothing hzero, List.append_nil, List.append_assoc]
  exact Sql.parse_select rfl

/-! ## The answer -/

/-- The list holds of a row exactly when it lists the column's value. -/
theorem eval_among {row : Int64 × Stack} {column : String} {id : Int64}
    (hcolumn : stacksColumn row column = .some (.integer id.toInt)) (ids : List Int64) :
    (Sql.Condition.among (.column column) (List.range' 1 ids.length)).eval (stacksColumn row)
      (ids.map fun id => .integer id.toInt) = .ok (decide (id ∈ ids)) := by
  have hbound := Sql.map_bound_range (ids.map fun id : Int64 => Sql.Value.integer id.toInt)
  rw [List.length_map] at hbound
  have hany : (ids.map fun id : Int64 => Sql.Value.integer id.toInt).any ((Sql.Value.integer id.toInt).compare (· = ·)) =
      decide (id ∈ ids) := by
    rw [Bool.eq_iff_iff]
    simp [Sql.Value.compare, Sql.Value.isFloat, Sql.Value.number, Int64.toInt_inj]
  simp only [Sql.Condition.eval, Sql.Expr.eval, hcolumn, Sql.mapM_argument hbound]
  exact congrArg Except.ok hany

/-- Without an additional condition a list selects the rows that it lists; the empty one selects none. -/
theorem fetchStacks_buildQueryWithIn {maxArguments : Nat} {rows : List (Int64 × Stack)} {column : String}
    {key : Int64 × Stack → Int64} (ids : List Int64) (hmax : ids.length ≤ maxArguments)
    (hcolumn : ∀ row, stacksColumn row column = .some (.integer (key row).toInt))
    (hhead : Sql.scan .none ("SELECT * FROM stacks" ++ " WHERE " ++ column ++ " IN (").toList =
      (Sql.selectTokens "stacks" ++ [.name column, .keyword .IN, .symbol '('], .none)) :
    fetchStacks maxArguments rows (buildQueryWithIn "SELECT * FROM stacks" column ids .none) =
      .ok (rows.filter fun row => key row ∈ ids) := by
  cases ids with
  | nil =>
    unfold fetchStacks
    rw [buildQueryWithIn_nil, QueryBuilder.push_query, QueryBuilder.new_query, QueryBuilder.push_arguments,
      QueryBuilder.new_arguments]
    refine Sql.fetchAll_eq hmax parse_nothing rfl rfl fun row _ => ?_
    simp [Sql.Condition.eval, Sql.Expr.eval, Sql.Value.compare, Sql.Value.isFloat, Sql.Value.number]
    rfl
  | cons id ids =>
    have hscan := scan_buildQueryWithIn id ids hhead
    have hq : Sql.parse (Sql.tokens (buildQueryWithIn "SELECT * FROM stacks" column (id :: ids) .none).query) =
        .some { table := "stacks", condition := .among (.column column) (List.range' 1 (ids.length + 1)) } := by
      rw [Sql.tokens, hscan, Sql.Pending.tokens, List.append_nil]
      exact Sql.parse_among _ _ _
    unfold fetchStacks
    rw [buildQueryWithIn_arguments]
    exact Sql.fetchAll_eq (by simpa using hmax) hq rfl (by simp [Sql.Condition.parameters])
      fun row _ => eval_among (hcolumn row) (id :: ids)

theorem getStacks_eq {maxArguments : Nat} (rows : List (Int64 × Stack)) {ids : List Int64}
    (hmax : ids.length ≤ maxArguments) :
    getStacks maxArguments rows ids = .ok (rows.filter fun row => row.1 ∈ ids) :=
  fetchStacks_buildQueryWithIn ids hmax (fun _ => rfl) scan_head_stack

theorem getStacksByNodeSmallIds_eq {maxArguments : Nat} (rows : List (Int64 × Stack)) {ids : List Int64}
    (hmax : ids.length ≤ maxArguments) :
    getStacksByNodeSmallIds maxArguments rows ids = .ok (rows.filter fun row => row.2.selectedNodeId ∈ ids) :=
  fetchStacks_buildQueryWithIn ids hmax (fun _ => rfl) scan_head_node

/-! ## The additional condition -/

/-- What stands between `AND` and the fraction. -/
def filledTokens : List Sql.Token :=
  [.keyword .CAST, .symbol '(', .name "already_computed_units", .keyword .AS, .keyword .FLOAT, .symbol ')', .symbol '/',
    .keyword .CAST, .symbol '(', .name "num_compute_units", .keyword .AS, .keyword .FLOAT, .symbol ')', .symbol '>']

def filledExpr : Sql.Expr :=
  .div (.toFloat (.column "already_computed_units")) (.toFloat (.column "num_compute_units"))

theorem scan_filled :
    Sql.scan .none (" AND ".toList ++
      "CAST(already_computed_units AS FLOAT) / CAST(num_compute_units AS FLOAT) > ".toList) =
      (.keyword .AND :: filledTokens, .none) := by
  decide +kernel

theorem filledExpr_eval {row : Int64 × Stack} (hpos : 0 < row.2.numComputeUnits.toInt) :
    filledExpr.eval (stacksColumn row) = .ok (.float row.2.filledFraction) := by
  obtain ⟨n, hn⟩ := Int.eq_ofNat_of_zero_le hpos.le
  have hone : 1 ≤ Binary64.round row.2.numComputeUnits.toInt := by
    rw [hn] at hpos ⊢
    exact_mod_cast Binary64.one_le_round (n := n) (by omega)
  have hne : Binary64.round row.2.numComputeUnits.toInt ≠ 0 := by linarith
  have ha : stacksColumn row "already_computed_units" = .some (.integer row.2.alreadyComputedUnits.toInt) := rfl
  have hb : stacksColumn row "num_compute_units" = .some (.integer row.2.numComputeUnits.toInt) := rfl
  simp only [filledExpr, Sql.Expr.eval, ha, hb]
  exact Sql.Value.div_float hne

/-- The fraction's text is the other side of the comparison, and its value there the fraction's. -/
theorem scan_fraction {fraction : Binary64} (hfin : fraction.isFinite) (hnonneg : 0 ≤ fraction.value) :
    ∃ ts p e, Sql.scan .none fraction.display.toList = (ts, p) ∧
      (∀ depth, Sql.parseComparison (depth + 15) (filledTokens ++ (ts ++ p.tokens)) = .some (.greater filledExpr e, [])) ∧
      ∃ w, (∀ row, e.eval row = .ok w) ∧ w.toFloat = fraction.value := by
  obtain ⟨text, q, htext, hq, _, hdisplay⟩ := Binary64.display_cases hfin hnonneg
  obtain ⟨p, v, hscan, hp, hv, hfloat⟩ := Sql.scan_numeral htext
  have htoFloat := Sql.Value.toFloat_of_isFloat hfloat
  rcases hdisplay with hdisplay | ⟨hdisplay, hzero⟩
  · refine ⟨[], p, .literal v, by rw [hdisplay, hscan], fun depth => ?_, v, fun _ => rfl, ?_⟩
    · rw [hp]
      rfl
    · rw [htoFloat, hv, hq]
  · have hminus : Sql.scan .none ['-'] = ([.symbol '-'], .none) := rfl
    have hsigned := Sql.scan_append_of hminus hscan
    refine ⟨[.symbol '-'], p, .neg (.literal v), by rw [hdisplay]; exact hsigned, fun depth => ?_, v.neg, fun _ => rfl, ?_⟩
    · rw [hp]
      rfl
    · rw [Sql.Value.toFloat_of_isFloat (by rw [Sql.Value.isFloat_neg, hfloat]), Sql.Value.number_neg, hv, hzero, neg_zero,
        ← hzero, hq]

/-- A list with something in it: both clauses, for every length. -/
theorem parse_almostFilledQuery {ids : List Int64} (hne : ids ≠ []) {fraction : Binary64} (hfin : fraction.isFinite)
    (hnonneg : 0 ≤ fraction.value) :
    ∃ e w, Sql.parse (Sql.tokens (almostFilledQuery ids fraction).query) =
        .some ⟨"stacks", .both (.among (.column "selected_node_id") (List.range' 1 ids.length)) (.greater filledExpr e)⟩ ∧
      (∀ row, e.eval row = .ok w) ∧ w.toFloat = fraction.value := by
  obtain ⟨ts, p, e, hscan, hparse, w, heval, hw⟩ := scan_fraction hfin hnonneg
  refine ⟨e, w, ?_, heval, hw⟩
  cases ids with
  | nil => exact absurd rfl hne
  | cons id ids =>
    have hall := Sql.scan_append_of (Sql.scan_append_of (scan_buildQueryWithIn id ids scan_head_node) scan_filled) hscan
    have htext : (almostFilledQuery (id :: ids) fraction).query.toList =
        (buildQueryWithIn "SELECT * FROM stacks" "selected_node_id" (id :: ids) .none).query.toList ++
          (" AND ".toList ++ "CAST(already_computed_units AS FLOAT) / CAST(num_compute_units AS FLOAT) > ".toList) ++
          fraction.display.toList := by
      rw [almostFilledQuery, buildQueryWithIn_some (List.cons_ne_nil _ _)]
      simp only [QueryBuilder.push_query, String.toList_append, List.append_assoc]
    have hq := Sql.parse_among_and "stacks" "selected_node_id" ids.length hparse
    rw [Sql.tokens, htext, hall]
    simpa only [List.append_assoc, List.cons_append, List.length_cons] using hq

/-- The rows of a list with something in it. -/
theorem getAlmostFilledStacks_cons {maxArguments : Nat} {rows : List (Int64 × Stack)}
    (hpos : ∀ row ∈ rows, 0 < row.2.numComputeUnits.toInt) {ids : List Int64} (hne : ids ≠ [])
    (hmax : ids.length ≤ maxArguments) {fraction : Binary64} (hfin : fraction.isFinite) (hnonneg : 0 ≤ fraction.value) :
    getAlmostFilledStacks maxArguments rows ids fraction =
      .ok (rows.filter fun row => row.2.selectedNodeId ∈ ids ∧ fraction.value < row.2.filledFraction) := by
  obtain ⟨e, w, hq, heval, hw⟩ := parse_almostFilledQuery hne hfin hnonneg
  have hargs : (almostFilledQuery ids fraction).arguments = ids := buildQueryWithIn_arguments ids _
  unfold getAlmostFilledStacks fetchStacks
  rw [hargs]
  refine Sql.fetchAll_eq (by simpa using hmax) hq rfl (by simp [Sql.Condition.parameters]) fun row hrow => ?_
  have hlist := @eval_among row "selected_node_id" _ rfl ids
  have hfilled : (Sql.Condition.greater filledExpr e).eval (stacksColumn row) (ids.map fun id => .integer id.toInt) =
      .ok (decide (fraction.value < row.2.filledFraction)) := by
    simp only [Sql.Condition.eval, filledExpr_eval (hpos row hrow), heval]
    rw [← hw]
    rfl
  have hname : stacksRelation.column row = stacksColumn row := rfl
  rw [hname, Sql.Condition.eval, hlist, hfilled, Bool.decide_and]
  rfl

/-! ## The empty list -/

/-- The fraction goes on in the zero of `1=0`: what the clause compares is a one and the fraction's text. -/
theorem parse_almostFilledQuery_nil {fraction : Binary64} (hfin : fraction.isFinite) (hnonneg : 0 ≤ fraction.value) :
    ∃ e w, Sql.parse (Sql.tokens (almostFilledQuery [] fraction).query) =
        .some ⟨"stacks", .equal (.literal (.integer 1)) e⟩ ∧
      (∀ row, e.eval row = .ok w) ∧ w.isFloat = false ∧ (w.number = 1 ↔ fraction.value = 1) := by
  obtain ⟨text, q, htext, hq, hone, hdisplay⟩ := Binary64.display_cases hfin hnonneg
  have hquery : (almostFilledQuery [] fraction).query.toList =
      ("SELECT * FROM stacks" ++ " WHERE 1=").toList ++ '0' :: fraction.display.toList := by
    simp [almostFilledQuery]
  rw [Sql.tokens, hquery]
  rcases hdisplay with hdisplay | ⟨hdisplay, hzero⟩
  · obtain ⟨p, v, hscan, hp, hv, hfloat⟩ := Sql.scan_numeral htext.zero_cons
    refine ⟨.literal v, v, ?_, fun _ => rfl, hfloat, by rw [hv, hone]⟩
    rw [hdisplay, Sql.scan_append_of scan_nothing hscan, hp, List.append_nil, List.append_assoc]
    exact Sql.parse_select rfl
  · -- a zero with a sign: `1=0-0`
    obtain ⟨p, v, hscan, hp, hv, hfloat⟩ := Sql.scan_numeral htext
    have hminus : Sql.scan .none ['0', '-'] = ([.literal (.integer 0), .symbol '-'], .none) := rfl
    refine ⟨.sub (.literal (.integer 0)) (.literal v), _, ?_, fun _ => rfl, Sql.Value.isFloat_sub rfl hfloat, ?_⟩
    · have hdifference := Sql.scan_append_of scan_nothing (Sql.scan_append_of hminus hscan)
      have htail : '0' :: '-' :: text = ['0', '-'] ++ text := rfl
      rw [hdisplay, htail, hdifference, hp, List.append_nil, List.append_assoc, List.append_assoc]
      exact Sql.parse_select rfl
    · rw [Sql.Value.number_sub rfl hfloat, hv, ← hq, hzero]
      simp [Sql.Value.number]

/-- What an empty list selects: nothing, but every row for a fraction of one. -/
theorem getAlmostFilledStacks_nil (maxArguments : Nat) (rows : List (Int64 × Stack)) {fraction : Binary64}
    (hfin : fraction.isFinite) (hnonneg : 0 ≤ fraction.value) :
    getAlmostFilledStacks maxArguments rows [] fraction = .ok (rows.filter fun _ => fraction.value = 1) := by
  obtain ⟨e, w, hq, heval, hfloat, hone⟩ := parse_almostFilledQuery_nil hfin hnonneg
  have hargs : (almostFilledQuery [] fraction).arguments = [] := rfl
  unfold getAlmostFilledStacks fetchStacks
  rw [hargs]
  refine Sql.fetchAll_eq (Nat.zero_le _) hq rfl rfl fun row _ => ?_
  have hcompare : (Sql.Value.integer 1).compare (· = ·) w = decide (fraction.value = 1) := by
    have hleft : (Sql.Value.integer 1).isFloat = false := rfl
    simp [Sql.Value.compare, hleft, hfloat, ← hone, Sql.Value.number, eq_comm]
  simp only [Sql.Condition.eval, Sql.Expr.eval, heval]
  exact congrArg Except.ok hcompare

/-- What the driver cannot bind is not asked. -/
theorem getAlmostFilledStacks_tooMany {maxArguments : Nat} {rows : List (Int64 × Stack)} {nodeSmallIds : List Int64}
    (fraction : Binary64) (hmax : maxArguments < nodeSmallIds.length) :
    getAlmostFilledStacks maxArguments rows nodeSmallIds fraction = .error .tooManyArguments := by
  have hargs : (almostFilledQuery nodeSmallIds fraction).arguments = nodeSmallIds :=
    buildQueryWithIn_arguments nodeSmallIds _
  unfold getAlmostFilledStacks fetchStacks
  rw [hargs, Sql.fetchAll, List.length_map, if_pos hmax]

/-! ## What is asked of it -/

/-- The WHERE clause is well formed, and its k-th placeholder is bound to the k-th id. -/
def WellBound (queryBuilder : QueryBuilder Int64) (nodeSmallIds : List Int64) : Prop :=
  ∃ q, Sql.parse (Sql.tokens queryBuilder.query) = .some q ∧
    q.condition.parameters.map (Sql.bound queryBuilder.arguments) = nodeSmallIds.map .some

theorem almostFilledQuery_wellBound (nodeSmallIds : List Int64) {fraction : Binary64} (hfin : fraction.isFinite)
    (hnonneg : 0 ≤ fraction.value) : WellBound (almostFilledQuery nodeSmallIds fraction) nodeSmallIds := by
  have hargs : (almostFilledQuery nodeSmallIds fraction).arguments = nodeSmallIds :=
    buildQueryWithIn_arguments nodeSmallIds _
  by_cases hne : nodeSmallIds = []
  · obtain ⟨e, w, hq, -⟩ := parse_almostFilledQuery_nil hfin hnonneg
    subst hne
    exact ⟨_, hq, rfl⟩
  · obtain ⟨e, w, hq, -⟩ := parse_almostFilledQuery hne hfin hnonneg
    refine ⟨_, hq, ?_⟩
    rw [hargs]
    simpa [Sql.Condition.parameters] using Sql.map_bound_range nodeSmallIds

/-- Exactly the stacks of the nodes listed whose filled fraction is above the given one, the query well formed. -/
def AlmostFilledSelected (maxArguments : Nat) (rows : List (Int64 × Stack)) (nodeSmallIds : List Int64)
    (fraction : Binary64) : Prop :=
  WellBound (almostFilledQuery nodeSmallIds fraction) nodeSmallIds ∧
    getAlmostFilledStacks maxArguments rows nodeSmallIds fraction =
      .ok (rows.filter fun row => row.2.selectedNodeId ∈ nodeSmallIds ∧ fraction.value < row.2.filledFraction)

/-- **A list is answered as asked exactly when the driver binds as many ids and, with no id at all, the fraction is not
one**, or there is no row to select. -/
theorem almost_filled_selected_iff (maxArguments : Nat) (rows : List (Int64 × Stack)) (nodeSmallIds : List Int64)
    (fraction : Binary64) (hpos : ∀ row ∈ rows, 0 < row.2.numComputeUnits.toInt) (hfin : fraction.isFinite)
    (hnonneg : 0 ≤ fraction.value) :
    AlmostFilledSelected maxArguments rows nodeSmallIds fraction ↔
      nodeSmallIds.length ≤ maxArguments ∧ (nodeSmallIds ≠ [] ∨ fraction.value ≠ 1 ∨ rows = []) := by
  have hbound := almostFilledQuery_wellBound nodeSmallIds hfin hnonneg
  unfold AlmostFilledSelected
  by_cases hne : nodeSmallIds = []
  · subst hne
    rw [getAlmostFilledStacks_nil maxArguments rows hfin hnonneg]
    by_cases hone : fraction.value = 1
    · simp [hbound, hone]
    · simp [hbound, hone]
  · by_cases hmax : nodeSmallIds.length ≤ maxArguments
    · simp [hbound, hmax, hne, getAlmostFilledStacks_cons hpos hne hmax hfin hnonneg]
    · simp [getAlmostFilledStacks_tooMany fraction (not_le.1 hmax), hmax]

/-- Nine of its ten units computed. -/
def nineOfTen : Stack where
  owner := "0x1"
  stackId := "0x2"
  taskSmallId := 4
  selectedNodeId := 3
  numComputeUnits := 10
  pricePerOneMillionComputeUnits := 1
  alreadyComputedUnits := 9
  lockedComputeUnits := 0
  inSettlePeriod := false
  numTotalMessages := 0
  userId := 1
  isClaimed := false
  isLocked := false

/-- The bits of 0.8, and a list that names its node twice. -/
theorem almost_filled_selected_iff_example :
    AlmostFilledSelected 65535 [(7, nineOfTen)] [3, 5, 3] ⟨0x3FE999999999999A⟩ :=
  (almost_filled_selected_iff 65535 [(7, nineOfTen)] [3, 5, 3] ⟨0x3FE999999999999A⟩ (by decide) (by decide)
    (by decide +kernel)).2 ⟨by decide, .inl (List.cons_ne_nil _ _)⟩

/-- No node and a fraction of one: the stack is returned. -/
theorem almost_filled_of_no_node :
    getAlmostFilledStacks 65535 [(7, nineOfTen)] [] ⟨0x3FF0000000000000⟩ = .ok [(7, nineOfTen)] ∧
      ¬ AlmostFilledSelected 65535 [(7, nineOfTen)] [] ⟨0x3FF0000000000000⟩ := by
  have hone : (Binary64.mk 0x3FF0000000000000).value = 1 := by decide +kernel
  have hall : getAlmostFilledStacks 65535 [(7, nineOfTen)] [] ⟨0x3FF0000000000000⟩ = .ok [(7, nineOfTen)] := by
    rw [getAlmostFilledStacks_nil 65535 _ (by decide) (by rw [hone]; norm_num)]
    simp [hone]
  refine ⟨hall, fun h => ?_⟩
  have hnone := h.2
  rw [hall] at hnone
  simp at hnone

end AtomaProxy
