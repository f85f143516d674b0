import BetweenRows.Policy.Match
import BetweenRows.Text.Json
import Mathlib.Data.List.Sort

/-!
# Policy sessions (`hooks/policy.rs`, `engine/mod.rs`)

The policy rows a user's effective assignments select, as both enforcement
paths load them: `PolicyHook::load_session` resolves them into a
`SessionData` (permit and deny policies, each sorted by priority) for query
time, and `EngineCache::compute_user_visibility` walks the same rows at
connect time (`BetweenRows.Engine.Visibility`).

A policy with a decision function fires only when the function says so. The
two paths evaluate it differently: `evaluate_decision_fn` at query time, and
`evaluate_visibility_decision_fn` at connect time, which defers functions
whose `evaluate_context` is `"query"`. The WASM run itself is outside the
model: `run df` is its outcome, `none` when it fails.
-/

namespace BetweenRows

/-- `decision_function::Model`, with the fields the policy paths read. -/
structure DecisionFunction where
  id : Nat
  /-- `decision_wasm` is `Some` and non-empty. -/
  compiled : Bool
  evaluateContext : String
  onError : String
  isEnabled : Bool
  deriving DecidableEq, Repr

/-- `policy::Model`, with `policy_type` and `targets` parsed. -/
structure Policy where
  id : Nat
  name : String
  policyType : PolicyType
  targets : List TargetEntry
  /-- The `definition` column, parsed as JSON. -/
  definition : Option Json.JsonValue
  decisionFunctionId : Option Nat
  isEnabled : Bool
  version : Int
  deriving DecidableEq, Repr

/-- An effective `policy_assignment::Model`, as `resolve_effective_assignments`
returns it. -/
structure PolicyAssignment where
  policyId : Nat
  priority : Int
  deriving DecidableEq, Repr

structure ResolvedPolicy where
  id : Nat
  name : String
  policyType : PolicyType
  priority : Int
  targets : List TargetEntry
  definition : Option Json.JsonValue
  decisionFunction : Option DecisionFunction
  deriving DecidableEq, Repr

/-- `SessionData`: the policies, the datasource's access mode and schema
aliases, and the names of the user's roles, which the decision functions'
context carries. -/
structure SessionData where
  permitPolicies : List ResolvedPolicy
  denyPolicies : List ResolvedPolicy
  accessMode : String
  /-- DataFusion schema alias ↦ upstream schema name. -/
  dfToUpstream : List (String × String)
  roles : List String
  deriving DecidableEq, Repr

/-- `definition.get(key).and_then(as_str).unwrap_or_default()` -/
def ResolvedPolicy.definitionStr (p : ResolvedPolicy) (key : String) : String :=
  ((p.definition.bind (·.get? key)).bind Json.JsonValue.asStr?).getD ""

/-- `policy_priority.get(&p.id).copied().unwrap_or(100)`: the least priority
among the policy's assignments. -/
def policyPriority (relevant : List PolicyAssignment) (id : Nat) : Int :=
  match relevant.filter (·.policyId = id) with
  | [] => 100
  | a :: as => as.foldl (fun m b => min m b.priority) a.priority

def resolvePolicy (relevant : List PolicyAssignment) (dfs : List DecisionFunction)
    (p : Policy) : ResolvedPolicy where
  id := p.id
  name := p.name
  policyType := p.policyType
  priority := policyPriority relevant p.id
  targets := p.targets
  definition := p.definition
  decisionFunction := p.decisionFunctionId.bind fun dfId => dfs.find? (·.id = dfId)

/-- `sort_by_key(|p| p.priority)`: a stable sort, as insertion sort on `≤` is. -/
def sortByPriority (ps : List ResolvedPolicy) : List ResolvedPolicy :=
  ps.insertionSort fun a b => a.priority ≤ b.priority

/-- The enabled rows among the policies the assignments name (the query
`id IN policy_ids AND is_enabled`). -/
def loadedPolicies (relevant : List PolicyAssignment) (policies : List Policy) : List Policy :=
  policies.filter fun p => relevant.any (·.policyId = p.id) && p.isEnabled

/-- `PolicyHook::load_session`, from the datasource's access mode and schema
aliases, the names of the user's roles, the user's effective assignments
and the policy and decision function tables. -/
def loadSession (accessMode : String) (dfToUpstream : List (String × String)) (roles : List String)
    (relevant : List PolicyAssignment) (policies : List Policy) (dfs : List DecisionFunction) :
    SessionData :=
  if relevant.isEmpty then ⟨[], [], accessMode, dfToUpstream, roles⟩
  else
    let resolved := (loadedPolicies relevant policies).map (resolvePolicy relevant dfs)
    { permitPolicies := sortByPriority (resolved.filter fun p => !p.policyType.isDeny)
      denyPolicies := sortByPriority (resolved.filter fun p => p.policyType.isDeny)
      accessMode := accessMode
      dfToUpstream := dfToUpstream
      roles := roles }

/-- The query-time evaluation context (`DecisionEvalContext`): whether its
decision context carries query metadata. -/
structure DecisionEvalContext where
  hasQuery : Bool
  deriving DecidableEq, Repr

/-- `evaluate_decision_fn`: whether the policy fires at query time. -/
def evaluateDecisionFn (run : DecisionFunction → Option Bool)
    (decisionEval : Option DecisionEvalContext) (p : ResolvedPolicy) : Bool :=
  match p.decisionFunction with
  | none => true
  | some df =>
      if !df.isEnabled then true
      else if !df.compiled then true
      else
        match decisionEval with
        | none => true
        | some ctx =>
            if df.evaluateContext = "query" ∧ !ctx.hasQuery then true
            else
              match run df with
              | some fire => fire
              -- a failed run fires exactly when `on_error` is `"deny"`
              | none => df.onError = "deny"

/-- `evaluate_visibility_decision_fn`: whether the policy's connect-time
effect applies. -/
def evaluateVisibilityDecisionFn (run : DecisionFunction → Option Bool)
    (df : DecisionFunction) : Bool :=
  if !df.isEnabled then true
  else if df.evaluateContext = "query" then false
  else if !df.compiled then true
  else
    match run df with
    | some fire => fire
    | none => df.onError = "deny"

/-! ## What a session holds -/

theorem mem_loadedPolicies {relevant : List PolicyAssignment} {policies : List Policy}
    {p : Policy} :
    p ∈ loadedPolicies relevant policies ↔
      p ∈ policies ∧ (∃ a ∈ relevant, a.policyId = p.id) ∧ p.isEnabled = true := by
  simp [loadedPolicies]

theorem mem_sortByPriority {ps : List ResolvedPolicy} {p : ResolvedPolicy} :
    p ∈ sortByPriority ps ↔ p ∈ ps :=
  List.mem_insertionSort _

@[simp] theorem resolvePolicy_policyType (relevant : List PolicyAssignment)
    (dfs : List DecisionFunction) (p : Policy) :
    (resolvePolicy relevant dfs p).policyType = p.policyType := rfl

@[simp] theorem resolvePolicy_targets (relevant : List PolicyAssignment)
    (dfs : List DecisionFunction) (p : Policy) :
    (resolvePolicy relevant dfs p).targets = p.targets := rfl

/-- The deny policies of a session are the resolved enabled deny rows the
assignments name. -/
theorem mem_denyPolicies {accessMode : String} {dfToUpstream : List (String × String)}
    {roles : List String} {relevant : List PolicyAssignment} {policies : List Policy} {dfs : List DecisionFunction}
    {p : ResolvedPolicy} :
    p ∈ (loadSession accessMode dfToUpstream roles relevant policies dfs).denyPolicies ↔
      ∃ q ∈ loadedPolicies relevant policies,
        q.policyType.isDeny = true ∧ p = resolvePolicy relevant dfs q := by
  unfold loadSession
  split_ifs with hrel
  · -- no assignment: every row fails the `id IN policy_ids` test
    simp only [List.not_mem_nil, false_iff, not_exists, not_and, mem_loadedPolicies]
    intro q ⟨_, ⟨a, ha, _⟩, _⟩
    simp [List.isEmpty_iff.mp hrel] at ha
  · simp only [mem_sortByPriority, List.mem_filter, List.mem_map]
    constructor
    · rintro ⟨⟨q, hq, rfl⟩, hdeny⟩
      exact ⟨q, hq, hdeny, rfl⟩
    · rintro ⟨q, hq, hdeny, rfl⟩
      exact ⟨⟨q, hq, rfl⟩, hdeny⟩

/-- The permit policies of a session are the resolved enabled permit rows
the assignments name. -/
theorem mem_permitPolicies {accessMode : String} {dfToUpstream : List (String × String)}
    {roles : List String} {relevant : List PolicyAssignment} {policies : List Policy} {dfs : List DecisionFunction}
    {p : ResolvedPolicy} :
    p ∈ (loadSession accessMode dfToUpstream roles relevant policies dfs).permitPolicies ↔
      ∃ q ∈ loadedPolicies relevant policies,
        q.policyType.isDeny = false ∧ p = resolvePolicy relevant dfs q := by
  unfold loadSession
  split_ifs with hrel
  · simp only [List.not_mem_nil, false_iff, not_exists, not_and, mem_loadedPolicies]
    intro q ⟨_, ⟨a, ha, _⟩, _⟩
    simp [List.isEmpty_iff.mp hrel] at ha
  · simp only [mem_sortByPriority, List.mem_filter, List.mem_map, Bool.not_eq_true']
    constructor
    · rintro ⟨⟨q, hq, rfl⟩, hpermit⟩
      exact ⟨q, hq, hpermit, rfl⟩
    · rintro ⟨q, hq, hpermit, rfl⟩
      exact ⟨⟨q, hq, rfl⟩, hpermit⟩

/-- A policy without a decision function always fires at query time. -/
theorem evaluateDecisionFn_of_none {run : DecisionFunction → Option Bool}
    {decisionEval : Option DecisionEvalContext} {p : ResolvedPolicy}
    (h : p.decisionFunction = none) : evaluateDecisionFn run decisionEval p = true := by
  simp [evaluateDecisionFn, h]

end BetweenRows
