import BetweenRows.Policy.Session
import BetweenRows.DataFusion.Plan
import Mathlib.Data.List.Destutter

/-!
# Query-time policy effects (`hooks/policy.rs`)

`apply_policies` first lists the user tables a plan scans
(`collect_user_tables`), then gathers what the session's policies do to
them (`PolicyEffects::collect`): the first firing `table_deny` that matches
a user table denies the query, `column_deny` policies add deny patterns,
and the permit policies add row filters, masks, allow patterns and the set
of tables some `column_allow` permits. `apply_access_mode` then gates the
unpermitted tables of a `policy_required` datasource with `lit(false)`.

Three things come from outside the model and are parameters (`QueryEnv`):
the WASM decision run, the filter and mask parsers (SQL parsing and
`{user.*}` substitution), and the column-resolution planner of
`resolution::graph`.
-/

namespace BetweenRows

open DataFusion

def systemSchemas : List String := ["pg_catalog", "information_schema", "pg_toast"]

/-- `scan_policy_key`: a bare reference resolves against the session's
default schema. -/
def scanPolicyKey (tableName : TableReference) (defaultSchema : String) : String × String :=
  (tableName.schema.getD defaultSchema, tableName.table)

/-- `SYSTEM_SCHEMAS.contains(&df_schema) || table.starts_with("pg_")` -/
def isSystemTable (key : String × String) : Bool :=
  systemSchemas.contains key.1 || "pg_".toList.isPrefixOf key.2.toList

mutual
/-- `collect_tables_inner`: a scan's key unless it is a system table, and
otherwise the keys of the `inputs()`. -/
def collectTablesInner (defaultSchema : String) : LogicalPlan → List (String × String)
  | .tableScan n _ =>
      if isSystemTable (scanPolicyKey n defaultSchema) then [] else [scanPolicyKey n defaultSchema]
  | .projection _ i _ => collectTablesInner defaultSchema i
  | .filter _ i => collectTablesInner defaultSchema i
  | .join l r _ _ => collectTablesInner defaultSchema l ++ collectTablesInner defaultSchema r
  | .union is _ => collectTablesList defaultSchema is
  | .subqueryAlias i _ _ => collectTablesInner defaultSchema i
  | .aggregate i _ _ _ => collectTablesInner defaultSchema i
  | .sort _ i => collectTablesInner defaultSchema i
  | .limit _ _ i => collectTablesInner defaultSchema i
  | .emptyRelation _ => []

def collectTablesList (defaultSchema : String) : List LogicalPlan → List (String × String)
  | [] => []
  | p :: ps => collectTablesInner defaultSchema p ++ collectTablesList defaultSchema ps
end

/-- `collect_user_tables`: `Vec::dedup` drops consecutive repeats. -/
def collectUserTables (plan : LogicalPlan) (defaultSchema : String) : List (String × String) :=
  (collectTablesInner defaultSchema plan).destutter (· ≠ ·)

inductive PolicyError where
  | deniedByPolicy (policyName : String)
  | allColumnsDenied (columns : List String)
  | planTransformation (msg : String)
  deriving DecidableEq, Repr

/-- What the policy rewrite of one query takes from outside this model. -/
structure QueryEnv where
  /-- The WASM decision run with the query's decision context. -/
  run : DecisionFunction → Option Bool
  decisionEval : Option DecisionEvalContext
  /-- `parse_filter_expr(filter_expr, user_vars)` -/
  parseFilterExpr : String → Except String Expr
  /-- `parse_mask_expr(session_context, col, mask_expr, user_vars)` -/
  parseMaskExpr : String → String → Except String Expr
  /-- `snapshot.is_empty()` for the session's relationship snapshot. -/
  snapshotEmpty : Bool
  /-- `snapshot.parents_needed_for(schema, table, filter)` is `Ok`. -/
  parentsResolvable : String × String → Expr → Bool
  /-- `build_column_resolution_plan(schema, table, scan, filter, ..)` -/
  buildColumnResolutionPlan : String × String → LogicalPlan → Expr → Except String (Option LogicalPlan)

/-- Row filters per `(df_schema, table)`. -/
abbrev FilterMap := AList fun _ : String × String => Expr

/-- Masks per `(df_schema, table, column)`. -/
abbrev MaskMap := AList fun _ : String × String × String => Expr

/-- `PolicyEffects`, without the decision results kept for the audit log. -/
structure PolicyEffects where
  defaultSchema : String
  rowFilters : FilterMap := ∅
  columnAllowPatterns : PatternMap := ∅
  columnDenyPatterns : PatternMap := ∅
  columnMasks : MaskMap := ∅
  tablesWithPermit : List (String × String) := []
  deniedByPolicy : Option String := none

/-- `let e = map.entry(key).or_insert_with(|| lit(true)); *e = e.clone().and(filter)` -/
def FilterMap.andInto (m : FilterMap) (key : String × String) (filter : Expr) : FilterMap :=
  m.insert key (((m.lookup key).getD (Expr.lit true)).and filter)

section Collect

variable (env : QueryEnv) (dfToUpstream : List (String × String))
  (userTables : List (String × String))

/-- `evaluate_decision_fn` with the query's run and context. -/
def QueryEnv.fires (p : ResolvedPolicy) : Bool :=
  evaluateDecisionFn env.run env.decisionEval p

/-- `for (df_schema, table) in user_tables { for entry in &policy.targets {
if entry.matches_table(..) { body } } }`, with no `break`. -/
def forEachMatch {σ : Type} (targets : List TargetEntry)
    (body : σ → String × String → TargetEntry → σ) (s : σ) : σ :=
  userTables.foldl
    (fun s k => targets.foldl
      (fun s e => if e.matchesTable k.1 k.2 dfToUpstream then body s k e else s) s) s

/-- The `'deny_check` loop: the name of the first firing `table_deny`
policy with an entry matching a user table. -/
def denyCheck : List ResolvedPolicy → Option String
  | [] => none
  | p :: ps =>
      if p.policyType ≠ .tableDeny then denyCheck ps
      else if !env.fires p then denyCheck ps
      else if userTables.any fun k => p.targets.any (·.matchesTable k.1 k.2 dfToUpstream) then
        some p.name
      else denyCheck ps

/-- One pass of the `column_deny` loop: every matching entry's columns
extend the table's deny patterns. -/
def columnDenyPolicy (m : PatternMap) (p : ResolvedPolicy) : PatternMap :=
  if p.policyType ≠ .columnDeny then m
  else if !env.fires p then m
  else
    forEachMatch dfToUpstream userTables p.targets
      (fun m k e =>
        match e.columns with
        | some cols => m.extend k cols
        | none => m) m

/-- The `RowFilter` arm: the policy's own filter per user table, from its
first matching entry (`break`); a filter that fails to parse is logged and
left out. -/
def rowFilterTables (p : ResolvedPolicy) (filterExpr : String) : FilterMap :=
  userTables.foldl
    (fun m k =>
      if p.targets.any (·.matchesTable k.1 k.2 dfToUpstream) then
        match env.parseFilterExpr filterExpr with
        | .ok filter => m.andInto k filter
        | .error _ => m
      else m) ∅

/-- The `ColumnMask` arm at one matching entry: the first mask of a column
wins; a mask that fails to parse is logged and left out. -/
def maskEntry (maskExpr : String) (masks : MaskMap) (k : String × String)
    (e : TargetEntry) : MaskMap :=
  (e.columns.getD []).foldl
    (fun masks col =>
      if (k.1, k.2, col) ∈ masks then masks
      else
        match env.parseMaskExpr col maskExpr with
        | .ok mask => masks.insert (k.1, k.2, col) mask
        | .error _ => masks) masks

def allowEntry (eff : PolicyEffects) (k : String × String) (e : TargetEntry) : PolicyEffects :=
  { eff with
    tablesWithPermit := eff.tablesWithPermit ++ [k]
    columnAllowPatterns :=
      match e.columns with
      | some cols => eff.columnAllowPatterns.extend k cols
      | none => eff.columnAllowPatterns }

def permitPolicy (eff : PolicyEffects) (p : ResolvedPolicy) : PolicyEffects :=
  if !env.fires p then eff
  else
    match p.policyType with
    | .rowFilter =>
        let filterExpr := p.definitionStr "filter_expression"
        if filterExpr = "" then eff
        else
          -- AND the policy's per-table filters into the global map
          { eff with
            rowFilters := (rowFilterTables env dfToUpstream userTables p filterExpr).entries.foldl
              (fun m e => m.andInto e.1 e.2) eff.rowFilters }
    | .columnMask =>
        let maskExpr := p.definitionStr "mask_expression"
        if maskExpr = "" then eff
        else
          { eff with
            columnMasks := forEachMatch dfToUpstream userTables p.targets
              (maskEntry env maskExpr) eff.columnMasks }
    | .columnAllow => forEachMatch dfToUpstream userTables p.targets allowEntry eff
    -- deny policies were handled by the two loops before
    | .columnDeny | .tableDeny => eff

end Collect

def collect (env : QueryEnv) (session : SessionData) (userTables : List (String × String))
    (defaultSchema : String) : PolicyEffects :=
  let eff : PolicyEffects :=
    { defaultSchema := defaultSchema
      deniedByPolicy := denyCheck env session.dfToUpstream userTables session.denyPolicies
      columnDenyPatterns :=
        session.denyPolicies.foldl (columnDenyPolicy env session.dfToUpstream userTables) ∅ }
  session.permitPolicies.foldl (permitPolicy env session.dfToUpstream userTables) eff

namespace PolicyEffects

def checkDeny (eff : PolicyEffects) : Except PolicyError Unit :=
  match eff.deniedByPolicy with
  | some name => .error (.deniedByPolicy name)
  | none => .ok ()

/-- `apply_access_mode`: in `policy_required` mode a user table no
`column_allow` permits gets the row filter `lit(false)`. -/
def applyAccessMode (eff : PolicyEffects) (accessMode : String)
    (userTables : List (String × String)) : PolicyEffects :=
  if accessMode = "policy_required" then
    { eff with
      rowFilters := userTables.foldl
        (fun m k => if k ∈ eff.tablesWithPermit then m else m.insert k (Expr.lit false))
        eff.rowFilters }
  else eff

/-- The allow and deny checks of `apply_projection_qualified`: a column of
table `key` is stripped when allow patterns exist for the table and none
matches it, or a deny pattern matches it. -/
def stripsColumn (eff : PolicyEffects) (key : String × String) (col : String) : Bool :=
  (match eff.columnAllowPatterns.lookup key with
    | some pats => (expandColumnPatterns pats [col]).isEmpty
    | none => false) ||
  (match eff.columnDenyPatterns.lookup key with
    | some pats => !(expandColumnPatterns pats [col]).isEmpty
    | none => false)

def hasEffects (eff : PolicyEffects) : Bool :=
  !eff.rowFilters.entries.isEmpty || !eff.columnAllowPatterns.entries.isEmpty ||
    !eff.columnDenyPatterns.entries.isEmpty || !eff.columnMasks.entries.isEmpty

end PolicyEffects

end BetweenRows
