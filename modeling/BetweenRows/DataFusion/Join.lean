import BetweenRows.DataFusion.Exec

/-!
# The rows of a plan

A plan's rows over the upstream tables, with joins. A row keeps each value
under its output field, qualifier and name, as a `DFSchema` does, and an
inner join keeps, in nested-loop order, the pairs of rows its condition
holds on. A qualified reference reads the field of that table; an
unqualified one needs exactly one field of its name, as DataFusion's column
normalisation does.

An expression is evaluated by `Expr.eval` once each column reference is
replaced by the row's value (`Expr.bindRow`), so that the operators mean
what they mean in `Exec`.
-/

namespace DataFusion

/-- A row of a plan with joins: each value under its output field. -/
abbrev QRow := List (DFField × ScalarValue)

namespace QRow

/-- The value a column reference reads from a row. -/
def resolve (row : QRow) : Option TableReference → String → Option ScalarValue
  | some r, n =>
      (row.find? fun p => p.1.name == n && p.1.qualifier.map TableReference.table == some r.table).map
        (·.2)
  | none, n =>
      match row.filter fun p => p.1.name == n with
      | [(_, v)] => some v
      | _ => none

/-- The row as a client reads it: the values under their field names. -/
def unqualified (row : QRow) : Row :=
  row.map fun p => (p.1.name, p.2)

end QRow

/-- The expression with each column reference the row resolves replaced by
its value; a reference it cannot resolve stays, and fails to evaluate. -/
def Expr.bindRow (row : QRow) (e : Expr) : Expr :=
  e.mapColumns fun r n =>
    match row.resolve r n with
    | some v => .literal v
    | none => .column r n

def Expr.evalIn (row : QRow) (e : Expr) : Option ScalarValue :=
  (e.bindRow row).eval []

/-- The rows a predicate holds on; `NULL` drops a row like `false`. -/
def keepRows (p : Expr) : List QRow → Option (List QRow)
  | [] => some []
  | r :: rs => do
      let v ← p.evalIn r
      let keep ← v.keep?
      let rest ← keepRows p rs
      pure (if keep then r :: rest else rest)

/-- `SubqueryAlias::try_new(input, alias)`: the input's fields under the
alias. -/
def SubqueryAlias.tryNew (input : LogicalPlan) (aliasName : String) : LogicalPlan :=
  .subqueryAlias input (.bare aliasName) (input.schema.map fun f => ⟨some (.bare aliasName), f.name⟩)

/-- `LogicalPlanBuilder::from(left).join_on(right, JoinType::Inner, [on])`:
the condition becomes the join's filter. -/
def LogicalPlanBuilder.joinOn (left right : LogicalPlan) (on : Expr) : LogicalPlan :=
  .join left right (some on) (left.schema ++ right.schema)

namespace LogicalPlan

/-- A plan's rows over the upstream tables. Aggregates, sorts, unions,
limits and empty relations are outside this semantics. -/
def rows (up : Upstream) (defaultSchema : String) : LogicalPlan → Option (List QRow)
  | .tableScan n cols => do
      let rows ← up.lookup (n.schema.getD defaultSchema, n.table)
      rows.mapM fun r => cols.mapM fun c => (r.lookup c).map ((⟨some n, c⟩ : DFField), ·)
  | .projection es i s => do
      let rows ← i.rows up defaultSchema
      rows.mapM fun r => (es.zip s).mapM fun (e, f) => (e.evalIn r).map (f, ·)
  | .filter p i => do
      let rows ← i.rows up defaultSchema
      keepRows p rows
  | .join l r on _ => do
      let ls ← l.rows up defaultSchema
      let rs ← r.rows up defaultSchema
      let pairs := ls.flatMap fun lr => rs.map (lr ++ ·)
      match on with
      | some p => keepRows p pairs
      | none => some pairs
  | .subqueryAlias i a _ => do
      let rows ← i.rows up defaultSchema
      pure (rows.map fun r => r.map fun p => (⟨some a, p.1.name⟩, p.2))
  | .aggregate .. | .sort .. | .union .. | .limit .. | .emptyRelation _ => none

end LogicalPlan

end DataFusion
