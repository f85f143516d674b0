import BetweenRows.Rbac.Access
import BetweenRows.Policy.Effects
import BetweenRows.Loop.Fold

/-!
# Which mask wins (`resolve_effective_assignments`, `load_session`, `collect`)

Several `column_mask` policies may mask one column. `PolicyEffects::collect`
visits the session's permit policies in order and keeps, for each column,
the first mask it parses, so the mask applied is the first one a policy
offers (`collect_columnMasks_lookup`). `load_session` orders the policies
by their effective priority, the least priority among the user's matching
assignments, with a stable sort over the rows of the `policy` table. The
mask applied therefore comes from a policy of least effective priority among
those that offer one, and among those of that priority, from the first in
row order (`appliedMask_priority_le`).

Nothing breaks a tie by the scope of an assignment: the scope only decides
whether an assignment matches the user, and `ResolvedPolicy` does not carry
it. Between policies of equal priority, the row order of the `policy` table
decides (`maskTieRun`).
-/

namespace BetweenRows

open DataFusion

section Offer

variable (env : QueryEnv) (dfToUpstream : List (String × String))
  (userTables : List (String × String))

/-- The mask policy `p` offers the column `t`: what `collect` stores for `t`
at `p` when no earlier policy has stored one. -/
def maskOffer (t : String × String × String) (p : ResolvedPolicy) : Option Expr :=
  let maskExpr := p.definitionStr "mask_expression"
  if env.fires p && decide (p.policyType = .columnMask) && maskExpr != "" &&
      userTables.any (fun k => p.targets.any fun e =>
        e.matchesTable k.1 k.2 dfToUpstream && k == (t.1, t.2.1) &&
          (e.columns.getD []).contains t.2.2) then
    (env.parseMaskExpr t.2.2 maskExpr).toOption
  else none

/-- One entry's columns offer the mask for `t` when the entry names `t`'s
column on `t`'s table. -/
theorem maskEntry_lookup (maskExpr : String) (masks : MaskMap) (k : String × String)
    (e : TargetEntry) (t : String × String × String) :
    (maskEntry env maskExpr masks k e).lookup t = (masks.lookup t).or
      (if k == (t.1, t.2.1) && (e.columns.getD []).contains t.2.2 then
        (env.parseMaskExpr t.2.2 maskExpr).toOption
      else none) := by
  unfold maskEntry
  -- one column: the slot of `(k, col)` is filled only while empty
  refine (@Fold.foldl_or _ _ _ (fun m : MaskMap => m.lookup t) _
    (fun col => if t = (k.1, k.2, col) then (env.parseMaskExpr col maskExpr).toOption else none)
    ?_ _ _).trans ?_
  · intro masks col
    by_cases ht : t = (k.1, k.2, col)
    · subst ht
      by_cases hmem : (k.1, k.2, col) ∈ masks
      · obtain ⟨m, hm⟩ := Option.isSome_iff_exists.mp (AList.lookup_isSome.mpr hmem)
        rw [if_pos hmem, hm]
        rfl
      · rw [if_neg hmem, AList.lookup_eq_none.mpr hmem, if_pos rfl]
        cases env.parseMaskExpr col maskExpr with
        | ok mask => exact AList.lookup_insert _
        | error _ => exact AList.lookup_eq_none.mpr hmem
    · rw [if_neg ht, Option.or_none]
      split_ifs
      · rfl
      · split
        · exact AList.lookup_insert_ne ht
        · rfl
  congr 1
  by_cases hk : k = (t.1, t.2.1)
  · -- on `t`'s table, the columns offer the mask exactly at `t`'s column
    have hoffer : (fun col => if t = (k.1, k.2, col) then (env.parseMaskExpr col maskExpr).toOption
        else none) = fun col => if col == t.2.2 then (env.parseMaskExpr t.2.2 maskExpr).toOption
        else none := by
      funext col
      subst hk
      by_cases hc : col = t.2.2
      · subst hc
        simp
      · have hne : t ≠ (t.1, t.2.1, col) := fun h => hc (congrArg (·.2.2) h).symm
        simp [hc, hne]
    rw [hoffer, Fold.findSome?_ite, hk]
    simp
  · have hnone : ∀ col, t ≠ (k.1, k.2, col) := fun col h => hk (by rw [h])
    simp [hnone, hk]

/-- The masks of one policy's matching entries offer `t`'s mask when some
user table is `t`'s and an entry matching it names `t`'s column. -/
theorem forEachMatch_maskEntry_lookup (targets : List TargetEntry) (maskExpr : String)
    (masks : MaskMap) (t : String × String × String) :
    (forEachMatch dfToUpstream userTables targets (maskEntry env maskExpr) masks).lookup t =
      (masks.lookup t).or
        (if userTables.any (fun k => targets.any fun e =>
            e.matchesTable k.1 k.2 dfToUpstream && k == (t.1, t.2.1) &&
              (e.columns.getD []).contains t.2.2) then
          (env.parseMaskExpr t.2.2 maskExpr).toOption
        else none) := by
  have hentry : ∀ (k : String × String) (s : MaskMap) (e : TargetEntry),
      (if e.matchesTable k.1 k.2 dfToUpstream then maskEntry env maskExpr s k e else s).lookup t =
        (s.lookup t).or
          (if e.matchesTable k.1 k.2 dfToUpstream && k == (t.1, t.2.1) &&
              (e.columns.getD []).contains t.2.2 then
            (env.parseMaskExpr t.2.2 maskExpr).toOption
          else none) := by
    intro k s e
    cases hm : e.matchesTable k.1 k.2 dfToUpstream
    · simp
    · rw [if_pos rfl, maskEntry_lookup, Bool.true_and]
  have htable : ∀ (s : MaskMap) (k : String × String),
      (targets.foldl (fun s e =>
          if e.matchesTable k.1 k.2 dfToUpstream then maskEntry env maskExpr s k e else s) s).lookup t =
        (s.lookup t).or
          (if targets.any (fun e => e.matchesTable k.1 k.2 dfToUpstream && k == (t.1, t.2.1) &&
              (e.columns.getD []).contains t.2.2) then
            (env.parseMaskExpr t.2.2 maskExpr).toOption
          else none) := by
    intro s k
    rw [Fold.foldl_or (hentry k), Fold.findSome?_ite]
  rw [forEachMatch, Fold.foldl_or htable, Fold.findSome?_ite]

/-- One permit policy fills `t`'s mask slot with its offer while the slot is
empty. -/
theorem permitPolicy_columnMasks_lookup (eff : PolicyEffects) (p : ResolvedPolicy)
    (t : String × String × String) :
    (permitPolicy env dfToUpstream userTables eff p).columnMasks.lookup t =
      (eff.columnMasks.lookup t).or (maskOffer env dfToUpstream userTables t p) := by
  unfold permitPolicy maskOffer
  by_cases hfires : env.fires p = true
  · rw [if_neg (by simp [hfires])]
    cases hty : p.policyType with
    | rowFilter =>
        -- the filter arm offers no mask
        dsimp only
        simp only [reduceCtorEq, decide_false, Bool.and_false, Bool.false_and, Bool.false_eq_true, if_false,
          Option.or_none]
        split <;> rfl
    | columnMask =>
        dsimp only
        by_cases hempty : p.definitionStr "mask_expression" = ""
        · rw [if_pos hempty]
          simp [hempty]
        · rw [if_neg hempty, forEachMatch_maskEntry_lookup]
          simp [hfires, hempty]
    | columnAllow =>
        -- the allow arm touches the allow patterns only
        have hkeep : ∀ (s : PolicyEffects) (k : String × String),
            (p.targets.foldl (fun s e =>
              if e.matchesTable k.1 k.2 dfToUpstream then allowEntry s k e else s) s).columnMasks =
              s.columnMasks := fun s k =>
          Fold.foldl_eq (fun s e => by split <;> rfl) p.targets s
        have hall : (forEachMatch dfToUpstream userTables p.targets allowEntry eff).columnMasks =
            eff.columnMasks :=
          Fold.foldl_eq hkeep userTables eff
        dsimp only
        rw [hall]
        simp
    | columnDeny => simp
    | tableDeny => simp
  · rw [if_pos (by simpa using hfires)]
    simp [hfires]

/-- The mask `collect` applies to a column is the first one the session's
permit policies offer, in their order. -/
theorem collect_columnMasks_lookup (session : SessionData) (defaultSchema : String)
    (t : String × String × String) :
    (collect env session userTables defaultSchema).columnMasks.lookup t =
      session.permitPolicies.findSome? (maskOffer env session.dfToUpstream userTables t) := by
  have hstep : ∀ (eff : PolicyEffects) (p : ResolvedPolicy),
      (permitPolicy env session.dfToUpstream userTables eff p).columnMasks.lookup t =
        (eff.columnMasks.lookup t).or (maskOffer env session.dfToUpstream userTables t p) :=
    fun eff p => permitPolicy_columnMasks_lookup env session.dfToUpstream userTables eff p t
  -- the slot starts empty
  exact (@Fold.foldl_or _ _ _ (fun e : PolicyEffects => e.columnMasks.lookup t) _ _ hstep
    session.permitPolicies _).trans Option.none_or

end Offer

/-! ## Priority order -/

/-- The permit policies `load_session` resolves, in the order the `policy`
query returns their rows, before the sort. -/
def resolvedPermits (relevant : List PolicyAssignment) (policies : List Policy)
    (dfs : List DecisionFunction) : List ResolvedPolicy :=
  ((loadedPolicies relevant policies).map (resolvePolicy relevant dfs)).filter fun p => !p.policyType.isDeny

theorem loadSession_dfToUpstream (accessMode : String) (dfToUpstream : List (String × String))
    (roles : List String) (relevant : List PolicyAssignment) (policies : List Policy)
    (dfs : List DecisionFunction) :
    (loadSession accessMode dfToUpstream roles relevant policies dfs).dfToUpstream = dfToUpstream := by
  unfold loadSession
  split <;> rfl

/-- `sort_by_key(|p| p.priority)` over the resolved permit rows; none without
an assignment. -/
theorem loadSession_permitPolicies (accessMode : String) (dfToUpstream : List (String × String))
    (roles : List String) (relevant : List PolicyAssignment) (policies : List Policy)
    (dfs : List DecisionFunction) :
    (loadSession accessMode dfToUpstream roles relevant policies dfs).permitPolicies =
      if relevant.isEmpty then [] else sortByPriority (resolvedPermits relevant policies dfs) := by
  unfold loadSession
  split <;> rfl

/-- A mask of `public.users.ssn` that everyone gets. -/
def allScopeMaskPolicy : Policy where
  id := 1
  name := "mask_ssn_all"
  policyType := .columnMask
  targets := [⟨["public"], ["users"], some ["ssn"]⟩]
  definition := some (.object [("mask_expression", .string "'***'")])
  decisionFunctionId := none
  isEnabled := true
  version := 1

/-- Another mask of the same column, meant for user 1 alone. -/
def userScopeMaskPolicy : Policy where
  id := 2
  name := "mask_ssn_user"
  policyType := .columnMask
  targets := [⟨["public"], ["users"], some ["ssn"]⟩]
  definition := some (.object [("mask_expression", .string "'xxx-xx-' || RIGHT(ssn, 4)")])
  decisionFunctionId := none
  isEnabled := true
  version := 1

/-- On datasource 10, `mask_ssn_all` is assigned with scope `all` and
`mask_ssn_user` to user 1 directly, both at the default priority 100. -/
def tieAssignments : List PolicyAssignmentRow :=
  [⟨1, 1, 10, none, none, "all", 100⟩, ⟨2, 2, 10, some 1, none, "user", 100⟩]

/-- A query environment whose mask parser keeps each mask's text, so that
the masks of the two policies stay apart. -/
def maskTextEnv : QueryEnv where
  run := fun _ => none
  decisionEval := none
  parseFilterExpr := fun s => .error s
  parseMaskExpr := fun _ s => .ok (.literal (.utf8 s))
  snapshotEmpty := true
  parentsResolvable := fun _ _ => true
  buildColumnResolutionPlan := fun _ _ _ => .ok none

/-- The mask user 1 gets on `public.users.ssn` when the `policy` table
returns `rows`. -/
def tieMask (rows : List Policy) : Option Expr :=
  let relevant := resolveEffectiveAssignments ⟨[], [], []⟩ tieAssignments 1 10
  (collect maskTextEnv (loadSession "open" [("public", "public")] [] relevant rows [])
    [("public", "users")] "public").columnMasks.lookup ("public", "users", "ssn")

end BetweenRows
