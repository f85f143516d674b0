import BetweenRows.Admin.Dto
import BetweenRows.Policy.Effects

/-!
# The policy rewrite of a plan (`hooks/policy.rs`)

`apply_policies` runs, on the plan DataFusion's SQL planner built (before
optimisation):

1. `collect_user_tables`, `PolicyEffects::collect`, `check_deny` and
   `apply_access_mode` (`BetweenRows.Policy.Effects`);
2. `apply_column_mask_at_scan`: above every masked `TableScan`, a
   projection that replaces each masked column not also denied by its mask;
3. `apply_row_filters`: above every `TableScan` with a row filter, a
   `Filter`, or the column-resolution planner's join, or `lit(false)` when
   resolution fails;
4. `apply_projection_qualified`: a top-level projection that drops the
   columns the allow and deny patterns strip.

Steps 2 and 3 are `transform_up` passes and step 1 reads `inputs()`: none of
them enters a subquery expression. A plan whose main tree scans no user
table therefore comes back as it was, whatever its subqueries scan
(`applyPolicies_of_collectUserTables_nil`).
-/

namespace BetweenRows

open DataFusion

namespace PolicyEffects

def maskScan (eff : PolicyEffects) (node : LogicalPlan) : LogicalPlan :=
  match node with
  | .tableScan n _ =>
      let key := scanPolicyKey n eff.defaultSchema
      if !eff.columnMasks.keys.any (fun k => k.1 = key.1 ∧ k.2.1 = key.2) then node
      else
        let schema := node.schema
        let deniedCols :=
          match eff.columnDenyPatterns.lookup key with
          | some pats => expandColumnPatterns pats (schema.map fun f : DFField => f.name)
          | none => []
        -- deny beats mask: a denied column passes through unmasked
        let items := schema.map fun f =>
          if f.name ∉ deniedCols then
            match eff.columnMasks.lookup (key.1, key.2, f.name) with
            | some mask => (ProjItem.aliased mask f.qualifier f.name, true)
            | none => (ProjItem.column f.qualifier f.name, false)
          else (ProjItem.column f.qualifier f.name, false)
        if !items.any (·.2) then node
        else LogicalPlanBuilder.project node (items.map (·.1))
  | _ => node

def applyColumnMaskAtScan (eff : PolicyEffects) (plan : LogicalPlan) : LogicalPlan :=
  if eff.columnMasks.entries.isEmpty then plan else plan.transformUp eff.maskScan

/-- The `deny_wins` set of `precompute_parent_scans`: the keys whose filter
needs a parent the relationship snapshot cannot resolve. -/
def precomputeDenyWins (env : QueryEnv) (rowFilters : FilterMap) : List (String × String) :=
  if env.snapshotEmpty || rowFilters.entries.isEmpty then []
  else (rowFilters.entries.filter fun e => !env.parentsResolvable e.1 e.2).map (·.1)

def rowFilterScan (eff : PolicyEffects) (env : QueryEnv) (denyWins : List (String × String))
    (node : LogicalPlan) : LogicalPlan :=
  match node with
  | .tableScan n cols =>
      let key := scanPolicyKey n eff.defaultSchema
      match eff.rowFilters.lookup key with
      | none => node
      | some filterExpr =>
          if key ∈ denyWins then LogicalPlanBuilder.filter node (Expr.lit false)
          else
            match env.buildColumnResolutionPlan key node filterExpr with
            | .ok (some plan) => plan
            | .ok none =>
                -- the fast path checks that the scan has every column the filter names
                if filterExpr.columns.any (·.2 ∉ cols) then
                  LogicalPlanBuilder.filter node (Expr.lit false)
                else LogicalPlanBuilder.filter node filterExpr
            | .error _ => LogicalPlanBuilder.filter node (Expr.lit false)
  | _ => node

def applyRowFilters (eff : PolicyEffects) (env : QueryEnv) (denyWins : List (String × String))
    (plan : LogicalPlan) : LogicalPlan :=
  if eff.rowFilters.entries.isEmpty then plan
  else plan.transformUp (eff.rowFilterScan env denyWins)

/-- The policy key of an output field (`tref.schema().unwrap_or(default)`,
and `("", "")` for an unqualified field). -/
def fieldKey (eff : PolicyEffects) (f : DFField) : String × String :=
  match f.qualifier with
  | some tref => (tref.schema.getD eff.defaultSchema, tref.table)
  | none => ("", "")

def applyProjectionQualified (eff : PolicyEffects) (plan : LogicalPlan) :
    Except PolicyError LogicalPlan :=
  if eff.columnAllowPatterns.entries.isEmpty && eff.columnDenyPatterns.entries.isEmpty then
    .ok plan
  else
    let items := plan.schema.filterMap fun f =>
      let key := eff.fieldKey f
      if eff.stripsColumn key f.name then none
      else
        match eff.columnMasks.lookup (key.1, key.2, f.name) with
        | some mask => some (ProjItem.aliased mask none f.name)
        | none => some (ProjItem.column f.qualifier f.name)
    if items.isEmpty then .error (.allColumnsDenied (plan.schema.map (·.name)))
    else .ok (LogicalPlanBuilder.project plan items)

end PolicyEffects

/-- `apply_policies`: the rewritten plan and whether any policy had an
effect. -/
def applyPolicies (env : QueryEnv) (session : SessionData) (defaultSchema : String)
    (plan : LogicalPlan) : Except PolicyError (LogicalPlan × Bool) := do
  let userTables := collectUserTables plan defaultSchema
  let eff := collect env session userTables defaultSchema
  eff.checkDeny
  let eff := eff.applyAccessMode session.accessMode userTables
  let hadEffects := eff.hasEffects
  let denyWins := PolicyEffects.precomputeDenyWins env eff.rowFilters
  -- masks first, so that row filters see the raw values below the mask
  let plan := eff.applyColumnMaskAtScan plan
  let plan := eff.applyRowFilters env denyWins plan
  -- the scan-level masks are cleared before the top-level projection
  let plan ← { eff with columnMasks := ∅ }.applyProjectionQualified plan
  pure (plan, hadEffects)

/-! ## A plan without user tables in its main tree -/

section NoUserTables

variable (env : QueryEnv) (dfToUpstream : List (String × String))

theorem denyCheck_nil (ps : List ResolvedPolicy) : denyCheck env dfToUpstream [] ps = none := by
  induction ps with
  | nil => rfl
  | cons p ps ih =>
      unfold denyCheck
      split_ifs with hty hfire hmatch
      · exact ih
      · exact ih
      · simp at hmatch
      · exact ih

theorem columnDenyPolicy_nil (m : PatternMap) (p : ResolvedPolicy) :
    columnDenyPolicy env dfToUpstream [] m p = m := by
  unfold columnDenyPolicy
  split_ifs <;> rfl

theorem permitPolicy_nil (eff : PolicyEffects) (p : ResolvedPolicy) :
    permitPolicy env dfToUpstream [] eff p = eff := by
  unfold permitPolicy
  split_ifs with hfire
  · rfl
  · cases p.policyType with
    | rowFilter =>
        -- with no user table the policy's own filter map is empty
        dsimp only
        split_ifs <;> rfl
    | columnMask =>
        dsimp only
        split_ifs <;> rfl
    | columnAllow => rfl
    | columnDeny => rfl
    | tableDeny => rfl

/-- With no user table, `collect` gathers nothing. -/
theorem collect_nil (session : SessionData) (defaultSchema : String) :
    collect env session [] defaultSchema = { defaultSchema := defaultSchema } := by
  unfold collect
  dsimp only
  rw [List.foldl_fixed' (permitPolicy_nil env _ _), List.foldl_fixed' (columnDenyPolicy_nil env _ _),
    denyCheck_nil]

end NoUserTables

theorem PolicyEffects.applyAccessMode_nil (eff : PolicyEffects) (accessMode : String) :
    eff.applyAccessMode accessMode [] = eff := by
  unfold PolicyEffects.applyAccessMode
  split_ifs <;> rfl

/-- A plan whose main tree (what `inputs()` reaches) scans no user table is
returned unchanged and without effects, whatever the tables its subquery
expressions scan. -/
theorem applyPolicies_of_collectUserTables_nil (env : QueryEnv) (session : SessionData)
    (defaultSchema : String) (plan : LogicalPlan)
    (h : collectUserTables plan defaultSchema = []) :
    applyPolicies env session defaultSchema plan = .ok (plan, false) := by
  simp only [applyPolicies, h, collect_nil, PolicyEffects.applyAccessMode_nil]
  rfl

/-- A session without policies gathers nothing, whatever the tables. -/
theorem collect_of_policies_nil (env : QueryEnv) {session : SessionData}
    (hdeny : session.denyPolicies = []) (hpermit : session.permitPolicies = [])
    (userTables : List (String × String)) (defaultSchema : String) :
    collect env session userTables defaultSchema = { defaultSchema := defaultSchema } := by
  simp only [collect, hdeny, hpermit, List.foldl_nil, denyCheck]

/-- Outside `policy_required` mode, a session without policies leaves every
plan as it is. -/
theorem applyPolicies_of_policies_nil (env : QueryEnv) {session : SessionData}
    (hdeny : session.denyPolicies = []) (hpermit : session.permitPolicies = [])
    (hmode : session.accessMode ≠ "policy_required") (defaultSchema : String)
    (plan : LogicalPlan) :
    applyPolicies env session defaultSchema plan = .ok (plan, false) := by
  simp only [applyPolicies, collect_of_policies_nil env hdeny hpermit,
    PolicyEffects.applyAccessMode, if_neg hmode]
  rfl

/-! ## Subquery expressions -/

/-- A `row_filter` policy on `public.orders`, without a decision function. -/
def ordersFilterPolicy : Policy where
  id := 2
  name := "tenant_orders"
  policyType := .rowFilter
  targets := [⟨["public"], ["orders"], none⟩]
  definition := some (.object [("filter_expression", .string "tenant_id = 1")])
  decisionFunctionId := none
  isEnabled := true
  version := 1

/-- The session of a user assigned `ordersFilterPolicy` on an open
datasource whose schema `public` is exposed as `public`. -/
def ordersFilterSession : SessionData :=
  loadSession "open" [("public", "public")] [] [⟨2, 0⟩] [ordersFilterPolicy] []

/-- The plan of `SELECT 1 WHERE EXISTS (SELECT * FROM orders)`. -/
def existsOrdersPlan : LogicalPlan :=
  .projection [.literal (.int64 1)]
    (.filter
      (.exists
        (.projection [.column (some (.bare "orders")) "id", .column (some (.bare "orders")) "tenant_id"]
          (.tableScan (.bare "orders") ["id", "tenant_id"])
          [⟨some (.bare "orders"), "id"⟩, ⟨some (.bare "orders"), "tenant_id"⟩])
        false)
      (.emptyRelation true))
    [⟨none, "Int64(1)"⟩]

/-- The row filter on `public.orders` fires for the session, the plan scans
`orders` inside its `EXISTS` subquery, and for every query environment
`apply_policies` returns the plan unchanged: no `Filter` above that scan. -/
theorem existsSubqueryRun :
    validateTargets .rowFilter ordersFilterPolicy.targets = .ok () ∧
      (∀ env : QueryEnv, ∀ p ∈ ordersFilterSession.permitPolicies,
        env.fires p = true ∧ p.policyType = .rowFilter ∧
          p.targets.any (·.matchesTable "public" "orders" ordersFilterSession.dfToUpstream) = true) ∧
      scanPolicyKey (.bare "orders") "public" = ("public", "orders") ∧
      TableReference.bare "orders" ∈ existsOrdersPlan.scans ∧
      ∀ env : QueryEnv,
        applyPolicies env ordersFilterSession "public" existsOrdersPlan = .ok (existsOrdersPlan, false) := by
  refine ⟨by decide, ?_, rfl, by decide, fun env => ?_⟩
  · intro env p hp
    have hsession : ordersFilterSession.permitPolicies = [resolvePolicy [⟨2, 0⟩] [] ordersFilterPolicy] :=
      rfl
    rw [hsession, List.mem_singleton] at hp
    subst hp
    exact ⟨rfl, rfl, rfl⟩
  · exact applyPolicies_of_collectUserTables_nil env _ _ _ (by decide)

/-- A `column_mask` policy on `public.users.ssn`, without a decision
function. -/
def ssnMaskPolicy : Policy where
  id := 3
  name := "mask_ssn"
  policyType := .columnMask
  targets := [⟨["public"], ["users"], some ["ssn"]⟩]
  definition := some (.object [("mask_expression", .string "'***-**-' || RIGHT(ssn, 4)")])
  decisionFunctionId := none
  isEnabled := true
  version := 1

def ssnMaskSession : SessionData :=
  loadSession "open" [("public", "public")] [] [⟨3, 0⟩] [ssnMaskPolicy] []

def scalarSsnPlan : LogicalPlan :=
  .projection
    [.scalarSubquery
      (.limit none (some 1)
        (.projection [.column (some (.bare "users")) "ssn"]
          (.tableScan (.bare "users") ["id", "ssn"]) [⟨some (.bare "users"), "ssn"⟩]))]
    (.emptyRelation true) [⟨none, "ssn"⟩]

/-- The mask on `public.users.ssn` fires for the session, the plan reads
`users.ssn` inside a scalar subquery, and for every query environment
`apply_policies` returns the plan unchanged: the raw column reaches the
output. -/
theorem scalarSubqueryMaskRun :
    validateTargets .columnMask ssnMaskPolicy.targets = .ok () ∧
      (∀ env : QueryEnv, ∀ p ∈ ssnMaskSession.permitPolicies,
        env.fires p = true ∧ p.policyType = .columnMask ∧
          p.targets.any (·.matchesTable "public" "users" ssnMaskSession.dfToUpstream) = true) ∧
      TableReference.bare "users" ∈ scalarSsnPlan.scans ∧
      ∀ env : QueryEnv,
        applyPolicies env ssnMaskSession "public" scalarSsnPlan = .ok (scalarSsnPlan, false) := by
  refine ⟨by decide, ?_, by decide, fun env => ?_⟩
  · intro env p hp
    have hsession : ssnMaskSession.permitPolicies = [resolvePolicy [⟨3, 0⟩] [] ssnMaskPolicy] := rfl
    rw [hsession, List.mem_singleton] at hp
    subst hp
    exact ⟨rfl, rfl, rfl⟩
  · exact applyPolicies_of_collectUserTables_nil env _ _ _ (by decide)

end BetweenRows
