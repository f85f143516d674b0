import BetweenRows.Admin.Dto
import BetweenRows.Policy.Effects
import BetweenRows.Loop.Fold

/-!
# Connect-time visibility (`engine/mod.rs`)

`EngineCache::compute_user_visibility` turns a user's policies into a
`VisibilityFilter`, and `build_user_context` applies it to the datasource's
`CachedCatalog`: the per-user `SessionContext` only holds what the filter
lets through. The policy loop visits every catalog table for each
visibility-affecting policy:

* `column_allow` makes a table visible and collects allow patterns for it,
  from the *first* matching target entry (the loop breaks there);
* `column_deny` denies the columns of the *first* matching entry;
* `table_deny` denies a whole schema for an entry whose `tables` holds
  `"*"`, and otherwise each table an entry's table patterns match.

Afterwards every column no allow pattern matches is denied too. Hash sets
are lists whose membership is the set; hash maps are `AList`s. A catalog
carries the uniqueness of its keys (`HashMap` keys) as fields.

A column the user's policies deny is meant to be gone twice over: from this
per-user context, and from the output of every query, where
`apply_projection_qualified` strips what the deny and allow patterns of
`PolicyEffects::collect` match. The two loops read a policy's target
entries differently: here the loop stops at the first entry matching a
table, and `collect` extends the table's patterns by every matching entry.
A `column_deny` policy with two entries for one table therefore hides only
the first entry's columns from the schema (`splitColumnDenyRun`).
-/

namespace BetweenRows

/-- `VirtualCatalogTable`: a table and the field names of its Arrow schema. -/
structure VirtualCatalogTable where
  tableName : String
  columns : List String
  deriving DecidableEq, Repr

/-- `VirtualCatalogSchema`: the upstream schema name and the tables, keyed
by name. -/
structure VirtualCatalogSchema where
  schemaName : String
  tables : List VirtualCatalogTable
  names_nodup : (tables.map (·.tableName)).Nodup

/-- `CachedCatalog`: the datasource's schemas, keyed by DataFusion alias. -/
structure CachedCatalog where
  schemas : List (String × VirtualCatalogSchema)
  aliases_nodup : (schemas.map (·.1)).Nodup
  defaultSchema : String
  accessMode : String

/-- `df_to_upstream`: alias ↦ upstream schema name. -/
def CachedCatalog.dfToUpstream (catalog : CachedCatalog) : List (String × String) :=
  catalog.schemas.map fun s => (s.1, s.2.schemaName)

structure VisibilityFilter where
  visibleTables : Option (List (String × String))
  deniedColumns : List (String × String × String)
  deniedSchemas : List String
  deniedTables : List (String × String)
  deriving DecidableEq, Repr

/-- The state of the policy loop of `compute_user_visibility`: its four
`let mut` sets and the `column_allow_patterns` map. -/
structure VisAcc where
  visibleTables : List (String × String) := []
  deniedColumns : List (String × String × String) := []
  deniedSchemas : List String := []
  deniedTables : List (String × String) := []
  columnAllowPatterns : PatternMap := ∅

/-- The `ColumnAllow` arm at one table: the first matching entry makes the
table visible and extends its allow patterns by the entry's columns. -/
def columnAllowTable (dfToUpstream : List (String × String)) (targets : List TargetEntry)
    (acc : VisAcc) (dfAlias : String) (t : VirtualCatalogTable) : VisAcc :=
  match targets.find? (·.matchesTable dfAlias t.tableName dfToUpstream) with
  | none => acc
  | some e =>
      { acc with
        visibleTables := acc.visibleTables ++ [(dfAlias, t.tableName)]
        columnAllowPatterns :=
          match e.columns with
          | some cols => acc.columnAllowPatterns.extend (dfAlias, t.tableName) cols
          | none => acc.columnAllowPatterns }

/-- The `ColumnDeny` arm at one table: the columns the first matching
entry's patterns expand to are denied. -/
def columnDenyTable (dfToUpstream : List (String × String)) (targets : List TargetEntry)
    (acc : VisAcc) (dfAlias : String) (t : VirtualCatalogTable) : VisAcc :=
  match targets.find? (·.matchesTable dfAlias t.tableName dfToUpstream) with
  | some { columns := some cols, .. } =>
      { acc with
        deniedColumns := acc.deniedColumns ++
          (expandColumnPatterns cols t.columns).map fun c => (dfAlias, t.tableName, c) }
  | _ => acc

/-- The `TableDeny` arm at one schema and one entry. -/
def tableDenyEntry (dfToUpstream : List (String × String)) (dfAlias : String)
    (vs : VirtualCatalogSchema) (acc : VisAcc) (entry : TargetEntry) : VisAcc :=
  if !entry.schemas.any (matchesPattern · (upstreamOf dfToUpstream dfAlias)) then acc
  else if entry.tables.any (· = "*") then
    { acc with deniedSchemas := acc.deniedSchemas ++ [dfAlias] }
  else
    { acc with
      deniedTables := acc.deniedTables ++
        (vs.tables.filter fun t => entry.tables.any (matchesPattern · t.tableName)).map
          fun t => (dfAlias, t.tableName) }

/-- `for (df_alias, vs) in &catalog.schemas { for table in vs.tables { body } }` -/
def forEachTable (body : VisAcc → String → VirtualCatalogTable → VisAcc) (acc : VisAcc)
    (schemas : List (String × VirtualCatalogSchema)) : VisAcc :=
  schemas.foldl (fun acc s => s.2.tables.foldl (fun acc t => body acc s.1 t) acc) acc

/-- The `continue` of the decision-function gate: a visibility-affecting
policy whose function says not to apply. -/
def visibilitySkipped (run : DecisionFunction → Option Bool) (dfs : List DecisionFunction)
    (p : Policy) : Bool :=
  p.policyType.affectsVisibility &&
    match p.decisionFunctionId.bind fun i => dfs.find? (·.id = i) with
    | some df => !evaluateVisibilityDecisionFn run df
    | none => false

def visibilityPolicy (run : DecisionFunction → Option Bool) (dfs : List DecisionFunction)
    (catalog : CachedCatalog) (acc : VisAcc) (p : Policy) : VisAcc :=
  if visibilitySkipped run dfs p then acc
  else
    match p.policyType with
    | .columnAllow => forEachTable (columnAllowTable catalog.dfToUpstream p.targets) acc
        catalog.schemas
    | .columnDeny => forEachTable (columnDenyTable catalog.dfToUpstream p.targets) acc
        catalog.schemas
    | .tableDeny =>
        catalog.schemas.foldl
          (fun acc s => p.targets.foldl (tableDenyEntry catalog.dfToUpstream s.1 s.2) acc) acc
    -- row filters and masks do not affect catalog-level visibility
    | .rowFilter | .columnMask => acc

/-- The loop over `column_allow_patterns`: the fields of a table that none
of its allow patterns match are denied. -/
def allowDeniedColumns (catalog : CachedCatalog) (m : PatternMap) :
    List (String × String × String) :=
  m.entries.flatMap fun e =>
    match catalog.schemas.lookup e.1.1 with
    | none => []
    | some vs =>
        match vs.tables.find? (·.tableName = e.1.2) with
        | none => []
        | some table =>
            let allowed := expandColumnPatterns e.2 table.columns
            (table.columns.filter (· ∉ allowed)).map fun c => (e.1.1, e.1.2, c)

/-- `EngineCache::compute_user_visibility`, from the user's effective
assignments, the policy and decision function tables and the catalog;
`none` is `UserVisibility { filter: None }`. -/
def computeUserVisibility (run : DecisionFunction → Option Bool) (dfs : List DecisionFunction)
    (relevant : List PolicyAssignment) (policies : List Policy) (catalog : CachedCatalog) :
    Option VisibilityFilter :=
  if relevant.isEmpty then
    if catalog.accessMode = "policy_required" then some ⟨some [], [], [], []⟩ else none
  else
    let acc := (loadedPolicies relevant policies).foldl (visibilityPolicy run dfs catalog) {}
    let deniedColumns := acc.deniedColumns ++ allowDeniedColumns catalog acc.columnAllowPatterns
    if catalog.accessMode = "policy_required" then
      some ⟨some acc.visibleTables, deniedColumns, acc.deniedSchemas, acc.deniedTables⟩
    -- open mode filters only when something is denied
    else if deniedColumns.isEmpty && acc.deniedSchemas.isEmpty && acc.deniedTables.isEmpty then
      none
    else some ⟨none, deniedColumns, acc.deniedSchemas, acc.deniedTables⟩

/-- Without decision functions no policy is skipped. -/
theorem visibilitySkipped_nil (run : DecisionFunction → Option Bool) (p : Policy) :
    visibilitySkipped run [] p = false := by
  simp [visibilitySkipped]

/-! ## The filtered catalog of `build_user_context` -/

/-- The `filter_map` over a schema's tables: drop denied and invisible
tables, and the denied columns of the rest. -/
def visibleTable (f : VisibilityFilter) (dfAlias : String) (t : VirtualCatalogTable) :
    Option VirtualCatalogTable :=
  if (dfAlias, t.tableName) ∈ f.deniedTables then none
  else if f.visibleTables.any fun vis => (dfAlias, t.tableName) ∉ vis then none
  else
    some { t with
      columns :=
        if f.deniedColumns.isEmpty then t.columns
        else t.columns.filter fun c => (dfAlias, t.tableName, c) ∉ f.deniedColumns }

theorem visibleTable_tableName {f : VisibilityFilter} {dfAlias : String}
    {t t' : VirtualCatalogTable} (h : visibleTable f dfAlias t = some t') :
    t'.tableName = t.tableName := by
  unfold visibleTable at h
  split_ifs at h with hdenied hvis hcols
  · cases h
    rfl
  · cases h
    rfl

theorem names_filterMap_visibleTable_sublist (f : VisibilityFilter) (dfAlias : String) :
    ∀ ts : List VirtualCatalogTable,
      ((ts.filterMap (visibleTable f dfAlias)).map (·.tableName)).Sublist (ts.map (·.tableName))
  | [] => List.Sublist.slnil
  | t :: ts => by
      have ih := names_filterMap_visibleTable_sublist f dfAlias ts
      rw [List.filterMap_cons]
      cases ht : visibleTable f dfAlias t with
      | none => exact ih.cons _
      | some t' =>
          rw [List.map_cons, List.map_cons, visibleTable_tableName ht]
          exact ih.cons_cons _

def VirtualCatalogSchema.filterTables (vs : VirtualCatalogSchema) (f : VisibilityFilter)
    (dfAlias : String) : VirtualCatalogSchema where
  schemaName := vs.schemaName
  tables := vs.tables.filterMap (visibleTable f dfAlias)
  names_nodup := (names_filterMap_visibleTable_sublist f dfAlias vs.tables).nodup vs.names_nodup

/-- The schemas of the user's `SessionContext` (`filtered_schemas`): with a
filter, drop denied schemas and, when tables are filtered by visibility,
schemas left without tables. -/
def filteredSchemas (catalog : CachedCatalog) :
    Option VisibilityFilter → List (String × VirtualCatalogSchema)
  | none => catalog.schemas
  | some f =>
      catalog.schemas.filterMap fun s =>
        if s.1 ∈ f.deniedSchemas then none
        else
          let vs := s.2.filterTables f s.1
          if f.visibleTables.isNone || !vs.tables.isEmpty then some (s.1, vs) else none

/-- `select_default_schema`: the alias of the upstream `public` schema, else
the first alias, else `"public"`. -/
def selectDefaultSchema (schemas : List (String × VirtualCatalogSchema)) : String :=
  match schemas.find? (·.2.schemaName = "public") with
  | some s => s.1
  | none => (schemas.head?.map (·.1)).getD "public"

/-- The catalog part of the `SessionContext` that `build_user_context`
creates. -/
structure UserContext where
  schemas : List (String × VirtualCatalogSchema)
  defaultSchema : String

/-- `EngineCache::build_user_context`: the filtered schemas and the default
schema. -/
def buildUserContext (run : DecisionFunction → Option Bool) (dfs : List DecisionFunction)
    (relevant : List PolicyAssignment) (policies : List Policy) (catalog : CachedCatalog) :
    UserContext :=
  let schemas := filteredSchemas catalog (computeUserVisibility run dfs relevant policies catalog)
  { schemas := schemas
    defaultSchema :=
      if (schemas.map (·.1)).contains catalog.defaultSchema then catalog.defaultSchema
      else selectDefaultSchema schemas }

/-- Without decision functions the runner is never asked. -/
theorem buildUserContext_dfs_nil (run run' : DecisionFunction → Option Bool) :
    buildUserContext run [] = buildUserContext run' [] := by
  have hpol : visibilityPolicy run [] = visibilityPolicy run' [] := by
    funext catalog acc p
    simp only [visibilityPolicy, visibilitySkipped_nil]
  funext relevant policies catalog
  simp only [buildUserContext, computeUserVisibility, hpol]

/-- The columns of table `t` of schema `dfAlias` in a user context, if the
context holds the table. -/
def UserContext.columnsOf (ctx : UserContext) (dfAlias t : String) : Option (List String) :=
  (ctx.schemas.lookup dfAlias).bind fun vs => (vs.tables.find? (·.tableName = t)).map (·.columns)

/-! ## Connect time against query time -/

section SplitDeny

open DataFusion

/-- Two entries of one `column_deny` policy, both on `public.t`. -/
def splitDenyTargets : List TargetEntry :=
  [⟨["public"], ["t"], some ["a"]⟩, ⟨["public"], ["t"], some ["b"]⟩]

def splitDenyPolicy : Policy where
  id := 1
  name := "deny_a_b"
  policyType := .columnDeny
  targets := splitDenyTargets
  definition := none
  decisionFunctionId := none
  isEnabled := true
  version := 1

def splitDenyAssignments : List PolicyAssignment := [⟨1, 0⟩]

/-- An open datasource with one table `public.t` of columns `a`, `b`, `c`. -/
def splitDenyCatalog : CachedCatalog where
  schemas := [("public", ⟨"public", [⟨"t", ["a", "b", "c"]⟩], by decide⟩)]
  aliases_nodup := by decide
  defaultSchema := "public"
  accessMode := "open"

def splitDenySession : SessionData :=
  loadSession splitDenyCatalog.accessMode splitDenyCatalog.dfToUpstream [] splitDenyAssignments
    [splitDenyPolicy] []

/-- The plan of `SELECT * FROM public.t` in the user's context, where `t`
has the columns `b` and `c`. -/
def splitDenyPlan : LogicalPlan :=
  .projection [.column (some (.qualified "public" "t")) "b", .column (some (.qualified "public" "t")) "c"]
    (.tableScan (.qualified "public" "t") ["b", "c"])
    [⟨some (.qualified "public" "t"), "b"⟩, ⟨some (.qualified "public" "t"), "c"⟩]

/-- The admin API accepts the two entries; the user's context still has
column `b` of `public.t`; and for every query environment the patterns
`collect` gathers for a query on `public.t` strip `b`. -/
theorem splitColumnDenyRun :
    validateTargets .columnDeny splitDenyTargets = .ok () ∧
      (∀ run : DecisionFunction → Option Bool,
        (buildUserContext run [] splitDenyAssignments [splitDenyPolicy] splitDenyCatalog).columnsOf
          "public" "t" = some ["b", "c"]) ∧
      ∀ env : QueryEnv,
        (collect env splitDenySession (collectUserTables splitDenyPlan "public") "public").stripsColumn
          ("public", "t") "b" = true := by
  refine ⟨by decide, fun run => rfl, fun env => rfl⟩

end SplitDeny

end BetweenRows
