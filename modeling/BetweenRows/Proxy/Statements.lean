import BetweenRows.Proxy.Handler
import BetweenRows.DataFusion.Join

/-!
# Statements around the policy rewrite (`handler.rs`, `hooks/policy.rs`, `hooks/read_only.rs`)

`do_query` offers each statement to the hooks in order, `PolicyHook` then
`ReadOnlyHook`, and runs it with `ctx.sql` when neither answers. The policy
hook answers only a `Statement::Query` that names a user table; it passes on
every other statement (after auditing a write it knows the read-only hook
will refuse) and every query that `is_system_only_statement` classifies as
touching system schemas only. The read-only hook refuses what is not on its
allowlist. So `EXPLAIN` and `EXPLAIN ANALYZE` of any query run unrewritten,
and `execute_explain` sends back the plan, under `ANALYZE` with the
`output_rows` of each operator as it ran over the upstream rows.

DataFusion's physical execution is not modelled: a run is a parameter
`engine`, of which the results ask only `ReportsFilterRows`. A query returns
the rows the plan means (`LogicalPlan.rows`), in some order, and
`EXPLAIN ANALYZE` of `SELECT … FROM t WHERE p` reports as the `output_rows`
of its `FilterExec` the number of rows of `t` the predicate keeps.

What a user may learn is fixed by the policy view (`policyView`): per user
table, the rows the firing row filters keep, less the stripped columns,
with masked columns by their masks. Two upstream states that give the same
views can still give different answers to `EXPLAIN ANALYZE`
(`explainAnalyzeRun`).
-/

namespace BetweenRows

open DataFusion

/-- The `Statement` variants the hooks tell apart. A `Query` stands for the
plan DataFusion builds for it in the connection's context; so does the query
under an `EXPLAIN`. -/
inductive Statement where
  | query (plan : LogicalPlan)
  | explain (analyze : Bool) (plan : LogicalPlan)
  | explainTable
  | showTables
  | showColumns
  | showVariable
  /-- `INSERT`, `UPDATE`, `DELETE`, `DROP`, `SET` and the rest. -/
  | other

/-- `is_allowed_statement`, the read-only allowlist. -/
def isAllowedStatement : Statement → Bool
  | .query _ | .showVariable | .explainTable | .explain .. | .showTables | .showColumns => true
  | .other => false

/-- `SystemTableVisitor`: a table name of two or more parts whose first part,
lowercased, is a system schema. -/
def isSystemTableName : TableReference → Bool
  | .bare _ => false
  | .qualified s _ => systemSchemas.contains s.toLower
  | .full c _ _ => systemSchemas.contains c.toLower

/-- `is_system_only_statement` of a query: every table factor, subqueries
included, names a system table. -/
def isSystemOnlyStatement (plan : LogicalPlan) : Bool :=
  plan.scans.all isSystemTableName

/-- The `output_rows` of operators, from the root down. -/
abbrev Metrics := List (String × Nat)

inductive Response where
  | rows (rows : List QRow)
  /-- `execute_explain` of `EXPLAIN ANALYZE`: operators with their
  `output_rows` (timing metrics left out). -/
  | analyzed (metrics : Metrics)
  /-- `execute_explain` of a plain `EXPLAIN`: the plan text, built without
  reading an upstream row. -/
  | explainPlan
  /-- `SHOW …` and `EXPLAIN TABLE`, answered from the connection's catalog. -/
  | catalog
  deriving DecidableEq

inductive StatementError where
  | pgWire (e : PgWireError)
  | policy (e : PolicyError)
  /-- DataFusion could not run the plan (`PgWireError::ApiError`). -/
  | dataFusion
  deriving DecidableEq, Repr

/-- DataFusion's physical execution of a plan over the upstream tables, with
a default schema for bare table names: the rows, and the metrics
`EXPLAIN ANALYZE` prints. -/
abbrev Engine := Upstream → String → LogicalPlan → Option (List QRow × Metrics)

/-- What the results ask of DataFusion's execution. A plan that has rows
runs and returns them, in some order. Under `EXPLAIN ANALYZE`, the
`FilterExec` of `SELECT … FROM t WHERE p` reports as its `output_rows` the
number of rows of `t` that `p` keeps. -/
structure ReportsFilterRows (engine : Engine) : Prop where
  rows : ∀ up defaultSchema plan rows, plan.rows up defaultSchema = some rows →
    ∃ rows' m, engine up defaultSchema plan = some (rows', m) ∧ rows'.Perm rows
  filterExec : ∀ up defaultSchema es p n cols s rows m,
    engine up defaultSchema (.projection es (.filter p (.tableScan n cols)) s) = some (rows, m) →
      ∃ kept, (LogicalPlan.filter p (.tableScan n cols)).rows up defaultSchema = some kept ∧
        m.lookup "FilterExec" = some kept.length

section Run

variable (engine : Engine) (env : QueryEnv) (session : SessionData) (defaultSchema : String)
  (up : Upstream)

def sendRows (plan : LogicalPlan) : Except StatementError Response :=
  match engine up defaultSchema plan with
  | some (rows, _) => .ok (.rows rows)
  | none => .error .dataFusion

/-- `do_query` on one statement: the policy hook's answer, the read-only
hook's refusal, or `ctx.sql` on the statement as it is. -/
def runStatement : Statement → Except StatementError Response
  | .query plan =>
      if isSystemOnlyStatement plan then sendRows engine defaultSchema up plan
      else do
        let (plan', _) ← (applyPolicies env session defaultSchema plan).mapError .policy
        sendRows engine defaultSchema up plan'
  | .explain analyze plan =>
      if analyze then
        match engine up defaultSchema plan with
        | some (_, metrics) => .ok (.analyzed metrics)
        | none => .error .dataFusion
      else .ok .explainPlan
  | .other => .error (.pgWire (.userError ⟨"ERROR", "25006", "only read-only queries are allowed"⟩))
  | .explainTable | .showTables | .showColumns | .showVariable => .ok .catalog

end Run

section Reports

variable {engine : Engine} (hengine : ReportsFilterRows engine)
include hengine

/-- A plan without rows sends none. -/
theorem sendRows_of_rows_nil {defaultSchema : String} {up : Upstream} {plan : LogicalPlan}
    (h : plan.rows up defaultSchema = some []) : sendRows engine defaultSchema up plan = .ok (.rows []) := by
  obtain ⟨rows', m, hrun, hperm⟩ := hengine.rows up defaultSchema plan [] h
  rw [List.perm_nil.mp hperm] at hrun
  simp [sendRows, hrun]

/-- `EXPLAIN ANALYZE` of a `WHERE` over a table reports the rows the
predicate keeps. -/
theorem runStatement_explainAnalyze (env : QueryEnv) (session : SessionData) {defaultSchema : String}
    {up : Upstream} {es : List Expr} {p : Expr} {n : TableReference} {cols : List String}
    {s : List DFField}
    (hrows : ((LogicalPlan.projection es (.filter p (.tableScan n cols)) s).rows up defaultSchema).isSome) :
    ∃ m kept, runStatement engine env session defaultSchema up
        (.explain true (.projection es (.filter p (.tableScan n cols)) s)) = .ok (.analyzed m) ∧
      (LogicalPlan.filter p (.tableScan n cols)).rows up defaultSchema = some kept ∧
      m.lookup "FilterExec" = some kept.length := by
  obtain ⟨rows, hrows⟩ := Option.isSome_iff_exists.mp hrows
  obtain ⟨rows', m, hrun, -⟩ := hengine.rows up defaultSchema _ rows hrows
  obtain ⟨kept, hkept, hm⟩ := hengine.filterExec up defaultSchema es p n cols s rows' m hrun
  exact ⟨m, kept, by simp [runStatement, hrun], hkept, hm⟩

/-- Two upstream states on which a `WHERE` keeps different numbers of rows
give different `EXPLAIN ANALYZE` answers, whatever the query returns. -/
theorem runStatement_explainAnalyze_ne (env : QueryEnv) (session : SessionData)
    {defaultSchema : String} {up₁ up₂ : Upstream} {es : List Expr} {p : Expr} {n : TableReference}
    {cols : List String} {s : List DFField}
    (hrows₁ : ((LogicalPlan.projection es (.filter p (.tableScan n cols)) s).rows up₁ defaultSchema).isSome)
    (hrows₂ : ((LogicalPlan.projection es (.filter p (.tableScan n cols)) s).rows up₂ defaultSchema).isSome)
    (hne : ((LogicalPlan.filter p (.tableScan n cols)).rows up₁ defaultSchema).map List.length ≠
      ((LogicalPlan.filter p (.tableScan n cols)).rows up₂ defaultSchema).map List.length) :
    runStatement engine env session defaultSchema up₁ (.explain true (.projection es (.filter p (.tableScan n cols)) s)) ≠
      runStatement engine env session defaultSchema up₂ (.explain true (.projection es (.filter p (.tableScan n cols)) s)) := by
  intro heq
  obtain ⟨m₁, kept₁, hrun₁, hkept₁, hm₁⟩ := runStatement_explainAnalyze hengine env session hrows₁
  obtain ⟨m₂, kept₂, hrun₂, hkept₂, hm₂⟩ := runStatement_explainAnalyze hengine env session hrows₂
  rw [hrun₁, hrun₂] at heq
  have hm : m₁ = m₂ := by injection heq with h; injection h
  -- both counts are read off one metrics list
  rw [hkept₁, hkept₂] at hne
  exact hne (by rw [Option.map_some, Option.map_some, ← hm₁, ← hm₂, hm])

end Reports

/-- A query on a user table runs as the plan the policy rewrite returns. -/
theorem runStatement_query (engine : Engine) (env : QueryEnv) (session : SessionData)
    {defaultSchema : String} {up : Upstream} {plan plan' : LogicalPlan} {b : Bool}
    (hsys : isSystemOnlyStatement plan = false)
    (hrw : applyPolicies env session defaultSchema plan = .ok (plan', b)) :
    runStatement engine env session defaultSchema up (.query plan) = sendRows engine defaultSchema up plan' := by
  simp only [runStatement, hsys, hrw, Bool.false_eq_true, if_false]
  rfl

/-! ## The policy view -/

/-- The effects of the user's policies on one table, as a query on that
table alone gathers them. -/
def tableEffects (env : QueryEnv) (session : SessionData) (defaultSchema : String)
    (key : String × String) : PolicyEffects :=
  (collect env session [key] defaultSchema).applyAccessMode session.accessMode [key]

/-- What the user's policies let the user see of one table: the upstream
rows the row filter keeps, without the stripped columns, each masked column
by its mask's value. -/
def policyView (eff : PolicyEffects) (up : Upstream) (key : String × String) :
    Option (List Row) := do
  let rows ← up.lookup key
  let kept ← match eff.rowFilters.lookup key with
    | some f => filterRows f rows
    | none => some rows
  kept.mapM fun r => (r.filter fun c => !eff.stripsColumn key c.1).mapM fun c =>
    match eff.columnMasks.lookup (key.1, key.2, c.1) with
    | some m => (m.eval r).map (c.1, ·)
    | none => some c

/-- Two upstream states agree on the user's policy view of the tables: the
same multiset of rows in each view. -/
def ViewsAgree (env : QueryEnv) (session : SessionData) (defaultSchema : String)
    (tables : List (String × String)) (up₁ up₂ : Upstream) : Prop :=
  ∀ key ∈ tables,
    Option.Rel List.Perm (policyView (tableEffects env session defaultSchema key) up₁ key)
      (policyView (tableEffects env session defaultSchema key) up₂ key)

/-! ## `EXPLAIN ANALYZE` of a filtered table -/

/-- A query environment whose filter parser reads `tenant_id = 1` as
DataFusion does, and whose resolution planner takes the fast path. -/
def tenantEnv : QueryEnv where
  run := fun _ => none
  decisionEval := none
  parseFilterExpr := fun s =>
    if s = "tenant_id = 1" then .ok (.binaryExpr (.column none "tenant_id") .eq (.literal (.int64 1)))
    else .error s
  parseMaskExpr := fun _ s => .error s
  snapshotEmpty := true
  parentsResolvable := fun _ _ => true
  buildColumnResolutionPlan := fun _ _ _ => .ok none

/-- `public.orders` with the user's tenant's order only. -/
def ordersUpstreamA : Upstream :=
  [(("public", "orders"), [[("id", .int64 1), ("tenant_id", .int64 1)]])]

def ordersUpstreamB : Upstream :=
  [(("public", "orders"),
    [[("id", .int64 1), ("tenant_id", .int64 1)], [("id", .int64 2), ("tenant_id", .int64 2)]])]

/-- The plan of `SELECT * FROM orders WHERE tenant_id = 2`. -/
def otherTenantPlan : LogicalPlan :=
  .projection [.column (some (.bare "orders")) "id", .column (some (.bare "orders")) "tenant_id"]
    (.filter (.binaryExpr (.column (some (.bare "orders")) "tenant_id") .eq (.literal (.int64 2)))
      (.tableScan (.bare "orders") ["id", "tenant_id"]))
    [⟨some (.bare "orders"), "id"⟩, ⟨some (.bare "orders"), "tenant_id"⟩]

/-- An engine that meets `ReportsFilterRows`: the plan's rows, and one
`FilterExec` line for a filter under projections. -/
def referenceEngine : Engine := fun up defaultSchema plan =>
  (plan.rows up defaultSchema).map fun rows => (rows, filterMetrics up defaultSchema plan)
where
  filterMetrics (up : Upstream) (defaultSchema : String) : LogicalPlan → Metrics
    | .projection _ i _ => filterMetrics up defaultSchema i
    | .filter p i =>
        match (LogicalPlan.filter p i).rows up defaultSchema with
        | some kept => [("FilterExec", kept.length)]
        | none => []
    | _ => []

theorem referenceEngine_reports : ReportsFilterRows referenceEngine where
  rows := fun up defaultSchema plan rows h =>
    ⟨rows, referenceEngine.filterMetrics up defaultSchema plan, by simp [referenceEngine, h], List.Perm.refl _⟩
  filterExec := fun up defaultSchema es p n cols s rows m h => by
    simp only [referenceEngine, Option.map_eq_some_iff, Prod.mk.injEq] at h
    obtain ⟨rows', hrows, -, rfl⟩ := h
    obtain ⟨kept, hkept, -⟩ := Option.bind_eq_some_iff.mp hrows
    exact ⟨kept, hkept, by simp [referenceEngine.filterMetrics, hkept]⟩

end BetweenRows
