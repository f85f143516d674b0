import Mathlib.Data.List.Basic

/-!
# DataFusion logical plans

The part of DataFusion's `LogicalPlan` and `Expr` that the policy rewrite
reads and builds. A plan node stores its output schema where DataFusion's
does (`Projection`, `Join`, `Union`, `SubqueryAlias`, `Aggregate`); a
`TableScan`'s fields are its columns, qualified by the table reference;
`Filter`, `Sort` and `Limit` pass their input's schema through. The data
types of fields are left out: only qualifiers and names are read, and a
type appears only as the target of a `Cast`.

Two traversals matter, and they differ. `LogicalPlan::inputs` and
`TreeNode::transform_up` walk the plan children only; a plan inside a
subquery *expression* (`ScalarSubquery`, `Exists`, `InSubquery`) is not a
child, and `transform_up` leaves it as it is. `scans` lists every
`TableScan` of a plan, those inside subquery expressions included.
-/

namespace DataFusion

/-- `TableReference`: `Bare`, `Partial` (schema and table) or `Full`. -/
inductive TableReference where
  | bare (table : String)
  | qualified (schema table : String)
  | full (catalog schema table : String)
  deriving DecidableEq, Repr

def TableReference.schema : TableReference → Option String
  | .bare _ => none
  | .qualified s _ => some s
  | .full _ s _ => some s

def TableReference.table : TableReference → String
  | .bare t => t
  | .qualified _ t => t
  | .full _ _ t => t

/-- A `DFSchema` field: its qualifier and name. -/
structure DFField where
  qualifier : Option TableReference
  name : String
  deriving DecidableEq, Repr

inductive TimeUnit where
  | nanosecond
  | microsecond
  deriving DecidableEq, Repr

/-- Arrow's `DataType`: the types `arrow_type_to_string` has an arm for,
which include every target of a `CAST` in a policy template. Every other
type is written as its `Debug` text, which `parse_arrow_type` never reads
back. -/
inductive DataType where
  | int8 | int16 | int32 | int64 | uint32 | float32 | float64
  | boolean | utf8 | date32 | binary
  | time64Nanosecond
  | decimal128 (precision : UInt8) (scale : Int8)
  | timestamp (unit : TimeUnit) (tz : Option String)
  deriving DecidableEq, Repr

/-- A `Float64` holds the exact value of the decimal it was read from; the
rounding to a double is not modelled. -/
inductive ScalarValue where
  | boolean (b : Bool)
  | int64 (i : Int)
  | float64 (f : Rat)
  | utf8 (s : String)
  | null
  deriving DecidableEq, Repr

inductive Operator where
  | eq | notEq | lt | ltEq | gt | gtEq
  | plus | minus | multiply | divide
  | and | or
  | stringConcat
  deriving DecidableEq, Repr

mutual
inductive Expr where
  | column (relation : Option TableReference) (name : String)
  | literal (value : ScalarValue)
  | binaryExpr (left : Expr) (op : Operator) (right : Expr)
  | not (expr : Expr)
  | isNull (expr : Expr)
  | isNotNull (expr : Expr)
  | negative (expr : Expr)
  | like (negated : Bool) (expr pattern : Expr)
  | inList (expr : Expr) (list : List Expr) (negated : Bool)
  | cast (expr : Expr) (dataType : DataType)
  | case (expr : Option Expr) (whenThen : List (Expr × Expr)) (elseExpr : Option Expr)
  | aliased (expr : Expr) (relation : Option TableReference) (name : String)
  | scalarFunction (func : String) (args : List Expr)
  | aggregateFunction (func : String) (args : List Expr)
  | scalarSubquery (subquery : LogicalPlan)
  | exists (subquery : LogicalPlan) (negated : Bool)
  | inSubquery (expr : Expr) (subquery : LogicalPlan) (negated : Bool)

inductive LogicalPlan where
  | tableScan (tableName : TableReference) (columns : List String)
  | projection (exprs : List Expr) (input : LogicalPlan) (schema : List DFField)
  | filter (predicate : Expr) (input : LogicalPlan)
  | join (left right : LogicalPlan) (filter : Option Expr) (schema : List DFField)
  | union (inputs : List LogicalPlan) (schema : List DFField)
  | subqueryAlias (input : LogicalPlan) (aliasName : TableReference) (schema : List DFField)
  | aggregate (input : LogicalPlan) (groupExpr aggrExpr : List Expr) (schema : List DFField)
  | sort (exprs : List Expr) (input : LogicalPlan)
  | limit (skip fetch : Option Nat) (input : LogicalPlan)
  | emptyRelation (produceOneRow : Bool)
end

deriving instance Repr for Expr, LogicalPlan

def Expr.lit (b : Bool) : Expr := .literal (.boolean b)

def Expr.and (l r : Expr) : Expr := .binaryExpr l .and r

namespace LogicalPlan

def schema : LogicalPlan → List DFField
  | tableScan n cols => cols.map fun c => ⟨some n, c⟩
  | projection _ _ s => s
  | filter _ i => i.schema
  | join _ _ _ s => s
  | union _ s => s
  | subqueryAlias _ _ s => s
  | aggregate _ _ _ s => s
  | sort _ i => i.schema
  | limit _ _ i => i.schema
  | emptyRelation _ => []

/-- `LogicalPlan::inputs`: the plan children, without subquery
expressions. -/
def inputs : LogicalPlan → List LogicalPlan
  | tableScan .. => []
  | projection _ i _ => [i]
  | filter _ i => [i]
  | join l r _ _ => [l, r]
  | union is _ => is
  | subqueryAlias i _ _ => [i]
  | aggregate i _ _ _ => [i]
  | sort _ i => [i]
  | limit _ _ i => [i]
  | emptyRelation _ => []

mutual
/-- `TreeNode::transform_up`: rewrite the children first, then the node;
subquery expressions are not children. -/
def transformUp (f : LogicalPlan → LogicalPlan) : LogicalPlan → LogicalPlan
  | tableScan n cols => f (tableScan n cols)
  | projection es i s => f (projection es (transformUp f i) s)
  | filter e i => f (filter e (transformUp f i))
  | join l r e s => f (join (transformUp f l) (transformUp f r) e s)
  | union is s => f (union (transformUpList f is) s)
  | subqueryAlias i a s => f (subqueryAlias (transformUp f i) a s)
  | aggregate i g a s => f (aggregate (transformUp f i) g a s)
  | sort es i => f (sort es (transformUp f i))
  | limit k n i => f (limit k n (transformUp f i))
  | emptyRelation b => f (emptyRelation b)

def transformUpList (f : LogicalPlan → LogicalPlan) : List LogicalPlan → List LogicalPlan
  | [] => []
  | p :: ps => transformUp f p :: transformUpList f ps
end

end LogicalPlan

mutual
/-- Every `TableScan` of a plan, those inside subquery expressions
included. -/
def LogicalPlan.scans : LogicalPlan → List TableReference
  | .tableScan n _ => [n]
  | .projection es i _ => Expr.listScans es ++ i.scans
  | .filter e i => e.scans ++ i.scans
  | .join l r e _ => l.scans ++ r.scans ++ Expr.optionScans e
  | .union is _ => LogicalPlan.listScans is
  | .subqueryAlias i _ _ => i.scans
  | .aggregate i g a _ => i.scans ++ Expr.listScans g ++ Expr.listScans a
  | .sort es i => Expr.listScans es ++ i.scans
  | .limit _ _ i => i.scans
  | .emptyRelation _ => []

def LogicalPlan.listScans : List LogicalPlan → List TableReference
  | [] => []
  | p :: ps => p.scans ++ LogicalPlan.listScans ps

/-- The `TableScan`s inside the subquery expressions of an expression. -/
def Expr.scans : Expr → List TableReference
  | .column .. => []
  | .literal _ => []
  | .binaryExpr l _ r => l.scans ++ r.scans
  | .not e => e.scans
  | .isNull e => e.scans
  | .isNotNull e => e.scans
  | .negative e => e.scans
  | .like _ e p => e.scans ++ p.scans
  | .inList e l _ => e.scans ++ Expr.listScans l
  | .cast e _ => e.scans
  | .case e wt el => Expr.optionScans e ++ Expr.pairsScans wt ++ Expr.optionScans el
  | .aliased e _ _ => e.scans
  | .scalarFunction _ args => Expr.listScans args
  | .aggregateFunction _ args => Expr.listScans args
  | .scalarSubquery p => p.scans
  | .exists p _ => p.scans
  | .inSubquery e p _ => e.scans ++ p.scans

def Expr.listScans : List Expr → List TableReference
  | [] => []
  | e :: es => e.scans ++ Expr.listScans es

def Expr.optionScans : Option Expr → List TableReference
  | none => []
  | some e => e.scans

def Expr.pairsScans : List (Expr × Expr) → List TableReference
  | [] => []
  | (w, t) :: wts => w.scans ++ t.scans ++ Expr.pairsScans wts
end

mutual
/-- `expr_columns`: the columns an expression references, found by
`Expr::apply`, which does not enter subquery plans. -/
def Expr.columns : Expr → List (Option TableReference × String)
  | .column r n => [(r, n)]
  | .literal _ => []
  | .binaryExpr l _ r => l.columns ++ r.columns
  | .not e => e.columns
  | .isNull e => e.columns
  | .isNotNull e => e.columns
  | .negative e => e.columns
  | .like _ e p => e.columns ++ p.columns
  | .inList e l _ => e.columns ++ Expr.listColumns l
  | .cast e _ => e.columns
  | .case e wt el => Expr.optionColumns e ++ Expr.pairsColumns wt ++ Expr.optionColumns el
  | .aliased e _ _ => e.columns
  | .scalarFunction _ args => Expr.listColumns args
  | .aggregateFunction _ args => Expr.listColumns args
  | .scalarSubquery _ => []
  | .exists _ _ => []
  | .inSubquery e _ _ => e.columns

def Expr.listColumns : List Expr → List (Option TableReference × String)
  | [] => []
  | e :: es => e.columns ++ Expr.listColumns es

def Expr.optionColumns : Option Expr → List (Option TableReference × String)
  | none => []
  | some e => e.columns

def Expr.pairsColumns : List (Expr × Expr) → List (Option TableReference × String)
  | [] => []
  | (w, t) :: wts => w.columns ++ t.columns ++ Expr.pairsColumns wts
end

mutual
/-- `Expr::transform` with a rewrite of column references only: every other
node is rebuilt from its rewritten children, and a subquery plan is not a
child. -/
def Expr.mapColumns (f : Option TableReference → String → Expr) : Expr → Expr
  | .column r n => f r n
  | .literal v => .literal v
  | .binaryExpr l op r => .binaryExpr (l.mapColumns f) op (r.mapColumns f)
  | .not e => .not (e.mapColumns f)
  | .isNull e => .isNull (e.mapColumns f)
  | .isNotNull e => .isNotNull (e.mapColumns f)
  | .negative e => .negative (e.mapColumns f)
  | .like neg e p => .like neg (e.mapColumns f) (p.mapColumns f)
  | .inList e l neg => .inList (e.mapColumns f) (Expr.listMapColumns f l) neg
  | .cast e t => .cast (e.mapColumns f) t
  | .case e wt el =>
      .case (Expr.optionMapColumns f e) (Expr.pairsMapColumns f wt) (Expr.optionMapColumns f el)
  | .aliased e r n => .aliased (e.mapColumns f) r n
  | .scalarFunction fn args => .scalarFunction fn (Expr.listMapColumns f args)
  | .aggregateFunction fn args => .aggregateFunction fn (Expr.listMapColumns f args)
  | .scalarSubquery p => .scalarSubquery p
  | .exists p neg => .exists p neg
  | .inSubquery e p neg => .inSubquery (e.mapColumns f) p neg

def Expr.listMapColumns (f : Option TableReference → String → Expr) : List Expr → List Expr
  | [] => []
  | e :: es => e.mapColumns f :: Expr.listMapColumns f es

def Expr.optionMapColumns (f : Option TableReference → String → Expr) : Option Expr → Option Expr
  | none => none
  | some e => some (e.mapColumns f)

def Expr.pairsMapColumns (f : Option TableReference → String → Expr) :
    List (Expr × Expr) → List (Expr × Expr)
  | [] => []
  | (w, t) :: wts => (w.mapColumns f, t.mapColumns f) :: Expr.pairsMapColumns f wts
end

/-- A projection item the policy rewrite builds: a column reference or an
expression aliased (`alias` / `alias_qualified`) to a field. -/
inductive ProjItem where
  | column (qualifier : Option TableReference) (name : String)
  | aliased (expr : Expr) (qualifier : Option TableReference) (name : String)

def ProjItem.expr : ProjItem → Expr
  | .column q n => .column q n
  | .aliased e q n => .aliased e q n

def ProjItem.field : ProjItem → DFField
  | .column q n => ⟨q, n⟩
  | .aliased _ q n => ⟨q, n⟩

/-- `LogicalPlanBuilder::from(input).project(items).build()` -/
def LogicalPlanBuilder.project (input : LogicalPlan) (items : List ProjItem) : LogicalPlan :=
  .projection (items.map ProjItem.expr) input (items.map ProjItem.field)

/-- `LogicalPlanBuilder::from(input).filter(predicate).build()` -/
def LogicalPlanBuilder.filter (input : LogicalPlan) (predicate : Expr) : LogicalPlan :=
  .filter predicate input

end DataFusion
