import BetweenRows.DataFusion.Plan

/-!
# Evaluating expressions

SQL's meaning of the expressions a plan holds: literals, column references,
the binary operators under three-valued logic, `NOT`, `IS [NOT] NULL` and
negation (`Expr.eval`), and what a predicate's value does to a row
(`ScalarValue.keep?`, `filterRows`). The rows of whole plans are in
`DataFusion.Join`. Function calls, `LIKE`, `IN` lists, casts, `CASE` and
subquery expressions are outside this semantics (`none`), and so are type
errors, which DataFusion reports at planning.
-/

namespace DataFusion

abbrev Row := List (String × ScalarValue)

/-- The rows of each upstream table, by `(schema, table)`. -/
abbrev Upstream := List ((String × String) × List Row)

namespace ScalarValue

def cmp? : ScalarValue → ScalarValue → Option Ordering
  | .boolean a, .boolean b => some (compare a b)
  | .int64 a, .int64 b => some (compare a b)
  | .float64 a, .float64 b => some (compareOfLessAndEq a b)
  | .utf8 a, .utf8 b => some (compare a b)
  | _, _ => none

/-- `AND` under three-valued logic. -/
def and? : ScalarValue → ScalarValue → Option ScalarValue
  | .boolean a, .boolean b => some (.boolean (a && b))
  | .boolean false, .null | .null, .boolean false => some (.boolean false)
  | .boolean true, .null | .null, .boolean true | .null, .null => some .null
  | _, _ => none

/-- `OR` under three-valued logic. -/
def or? : ScalarValue → ScalarValue → Option ScalarValue
  | .boolean a, .boolean b => some (.boolean (a || b))
  | .boolean true, .null | .null, .boolean true => some (.boolean true)
  | .boolean false, .null | .null, .boolean false | .null, .null => some .null
  | _, _ => none

/-- Integer arithmetic; division truncates, and by zero it fails. -/
def arith? (f : Int → Int → Option Int) : ScalarValue → ScalarValue → Option ScalarValue
  | .int64 a, .int64 b => (f a b).map .int64
  | _, _ => none

end ScalarValue

/-- A binary operator on two values; a `NULL` operand gives `NULL` except
where `AND` and `OR` decide without it. -/
def Operator.apply : Operator → ScalarValue → ScalarValue → Option ScalarValue
  | .and, a, b => a.and? b
  | .or, a, b => a.or? b
  | _, .null, _ => some .null
  | _, _, .null => some .null
  | .eq, a, b => (a.cmp? b).map fun o => .boolean (o == .eq)
  | .notEq, a, b => (a.cmp? b).map fun o => .boolean (o != .eq)
  | .lt, a, b => (a.cmp? b).map fun o => .boolean (o == .lt)
  | .ltEq, a, b => (a.cmp? b).map fun o => .boolean (o != .gt)
  | .gt, a, b => (a.cmp? b).map fun o => .boolean (o == .gt)
  | .gtEq, a, b => (a.cmp? b).map fun o => .boolean (o != .lt)
  | .plus, a, b => ScalarValue.arith? (fun x y => some (x + y)) a b
  | .minus, a, b => ScalarValue.arith? (fun x y => some (x - y)) a b
  | .multiply, a, b => ScalarValue.arith? (fun x y => some (x * y)) a b
  | .divide, a, b => ScalarValue.arith? (fun x y => if y = 0 then none else some (x.tdiv y)) a b
  | .stringConcat, .utf8 a, .utf8 b => some (.utf8 (a ++ b))
  | .stringConcat, _, _ => none

def Expr.eval (row : Row) : Expr → Option ScalarValue
  | .column _ name => row.lookup name
  | .literal v => some v
  | .binaryExpr l op r => do op.apply (← l.eval row) (← r.eval row)
  | .not e => do
      match ← e.eval row with
      | .boolean b => some (.boolean !b)
      | .null => some .null
      | _ => none
  | .isNull e => do pure (.boolean ((← e.eval row) == .null))
  | .isNotNull e => do pure (.boolean ((← e.eval row) != .null))
  | .negative e => do
      match ← e.eval row with
      | .int64 i => some (.int64 (-i))
      | .float64 f => some (.float64 (-f))
      | .null => some .null
      | _ => none
  | .aliased e _ _ => e.eval row
  | .like .. | .inList .. | .cast .. | .case .. | .scalarFunction .. | .aggregateFunction ..
  | .scalarSubquery _ | .exists .. | .inSubquery .. => none

/-- What a predicate's value does to a row: `NULL` drops it like `false`. -/
def ScalarValue.keep? : ScalarValue → Option Bool
  | .boolean b => some b
  | .null => some false
  | _ => none

/-- The rows of a list the predicate holds on. -/
def filterRows (p : Expr) : List Row → Option (List Row)
  | [] => some []
  | r :: rs => do
      let v ← p.eval r
      let keep ← v.keep?
      let rest ← filterRows p rs
      pure (if keep then r :: rest else rest)

end DataFusion
