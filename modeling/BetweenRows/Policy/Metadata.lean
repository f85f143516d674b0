import BetweenRows.Policy.Rewrite

/-!
# Query metadata for decision functions (`extract_query_metadata`)

A decision function with query context reads `ctx.query`: the tables the
query touches, its output columns, its number of joins and three flags.
`extract_metadata_inner` collects them in one pre-order walk of
`LogicalPlan::inputs()`, the walk `collect_tables_inner` makes, and
`Vec::dedup` then drops consecutive repeats from the tables. So the tables a
decision function sees are the user tables the policies are applied to
(`extractQueryMetadata_tables`).

The walk does not enter subquery expressions, and the flag `has_subquery`
is set by every `SubqueryAlias`, which DataFusion also plans for a table
alias (`queryMetadataRun`).
-/

namespace BetweenRows

open DataFusion

/-- `TableRef`: a table as decision functions see it. -/
structure TableRef where
  datasource : String
  schema : String
  table : String
  deriving DecidableEq, Repr

def TableRef.ofKey (datasource : String) (key : String × String) : TableRef :=
  ⟨datasource, key.1, key.2⟩

theorem TableRef.ofKey_injective (datasource : String) : Function.Injective (ofKey datasource) := by
  intro a b h
  simp only [ofKey, TableRef.mk.injEq] at h
  exact Prod.ext h.2.1 h.2.2

structure QueryMetadata where
  tables : List TableRef
  columns : List String
  joinCount : Nat
  hasAggregation : Bool
  hasSubquery : Bool
  hasWhere : Bool
  statementType : String
  deriving DecidableEq, Repr

/-- The `&mut` arguments of `extract_metadata_inner`. -/
structure MetadataAcc where
  tables : List TableRef
  joinCount : Nat
  hasAggregation : Bool
  hasSubquery : Bool
  hasWhere : Bool

mutual
/-- `extract_metadata_inner`: the node's own contribution, then its
`inputs()` in order. -/
def extractMetadataInner (defaultSchema datasourceName : String) (acc : MetadataAcc) :
    LogicalPlan → MetadataAcc
  | .tableScan n _ =>
      let key := scanPolicyKey n defaultSchema
      if isSystemTable key then acc
      else { acc with tables := acc.tables ++ [TableRef.ofKey datasourceName key] }
  | .projection _ i _ => extractMetadataInner defaultSchema datasourceName acc i
  | .filter _ i => extractMetadataInner defaultSchema datasourceName { acc with hasWhere := true } i
  | .join l r _ _ =>
      extractMetadataInner defaultSchema datasourceName
        (extractMetadataInner defaultSchema datasourceName
          { acc with joinCount := acc.joinCount + 1 } l) r
  | .union is _ => extractMetadataList defaultSchema datasourceName acc is
  | .subqueryAlias i _ _ =>
      extractMetadataInner defaultSchema datasourceName { acc with hasSubquery := true } i
  | .aggregate i _ _ _ =>
      extractMetadataInner defaultSchema datasourceName { acc with hasAggregation := true } i
  | .sort _ i => extractMetadataInner defaultSchema datasourceName acc i
  | .limit _ _ i => extractMetadataInner defaultSchema datasourceName acc i
  | .emptyRelation _ => acc

def extractMetadataList (defaultSchema datasourceName : String) (acc : MetadataAcc) :
    List LogicalPlan → MetadataAcc
  | [] => acc
  | p :: ps =>
      extractMetadataList defaultSchema datasourceName
        (extractMetadataInner defaultSchema datasourceName acc p) ps
end

def extractQueryMetadata (plan : LogicalPlan) (defaultSchema datasourceName : String) :
    QueryMetadata :=
  let acc := extractMetadataInner defaultSchema datasourceName ⟨[], 0, false, false, false⟩ plan
  { tables := acc.tables.destutter (· ≠ ·)
    columns := plan.schema.map (·.name)
    joinCount := acc.joinCount
    hasAggregation := acc.hasAggregation
    hasSubquery := acc.hasSubquery
    hasWhere := acc.hasWhere
    statementType := "SELECT" }

mutual
/-- The walk appends to the tables what `collect_tables_inner` lists. -/
theorem extractMetadataInner_tables (defaultSchema datasourceName : String) :
    ∀ (acc : MetadataAcc) (plan : LogicalPlan),
      (extractMetadataInner defaultSchema datasourceName acc plan).tables =
        acc.tables ++ (collectTablesInner defaultSchema plan).map (TableRef.ofKey datasourceName)
  | acc, .tableScan n _ => by
      simp only [extractMetadataInner, collectTablesInner]
      split <;> simp
  | acc, .projection _ i _ => extractMetadataInner_tables defaultSchema datasourceName acc i
  | acc, .filter _ i => extractMetadataInner_tables defaultSchema datasourceName _ i
  | acc, .join l r _ _ => by
      rw [extractMetadataInner, extractMetadataInner_tables, extractMetadataInner_tables,
        collectTablesInner, List.map_append, List.append_assoc]
  | acc, .union is _ => extractMetadataList_tables defaultSchema datasourceName acc is
  | acc, .subqueryAlias i _ _ => extractMetadataInner_tables defaultSchema datasourceName _ i
  | acc, .aggregate i _ _ _ => extractMetadataInner_tables defaultSchema datasourceName _ i
  | acc, .sort _ i => extractMetadataInner_tables defaultSchema datasourceName acc i
  | acc, .limit _ _ i => extractMetadataInner_tables defaultSchema datasourceName acc i
  | acc, .emptyRelation _ => by simp [extractMetadataInner, collectTablesInner]

theorem extractMetadataList_tables (defaultSchema datasourceName : String) :
    ∀ (acc : MetadataAcc) (plans : List LogicalPlan),
      (extractMetadataList defaultSchema datasourceName acc plans).tables =
        acc.tables ++ (collectTablesList defaultSchema plans).map (TableRef.ofKey datasourceName)
  | acc, [] => by simp [extractMetadataList, collectTablesList]
  | acc, p :: ps => by
      rw [extractMetadataList, extractMetadataList_tables, extractMetadataInner_tables,
        collectTablesList, List.map_append, List.append_assoc]
end

/-- The tables a decision function sees are the user tables
`collect_user_tables` gives the policies, tagged with the datasource. -/
theorem extractQueryMetadata_tables (plan : LogicalPlan) (defaultSchema datasourceName : String) :
    (extractQueryMetadata plan defaultSchema datasourceName).tables =
      (collectUserTables plan defaultSchema).map (TableRef.ofKey datasourceName) := by
  simp only [extractQueryMetadata, extractMetadataInner_tables, List.nil_append, collectUserTables]
  exact (List.map_destutter_ne _ (TableRef.ofKey_injective datasourceName)).symm

/-- The plan of `SELECT * FROM orders o`: a table alias is a `SubqueryAlias`. -/
def aliasedOrdersPlan : LogicalPlan :=
  .projection [.column (some (.bare "o")) "id", .column (some (.bare "o")) "tenant_id"]
    (.subqueryAlias (.tableScan (.bare "orders") ["id", "tenant_id"]) (.bare "o")
      [⟨some (.bare "o"), "id"⟩, ⟨some (.bare "o"), "tenant_id"⟩])
    [⟨some (.bare "o"), "id"⟩, ⟨some (.bare "o"), "tenant_id"⟩]

/-- The plan of `SELECT a.id FROM orders a JOIN customers c ON a.customer_id = c.id
JOIN orders b ON b.customer_id = c.id`. -/
def ordersCustomersOrdersPlan : LogicalPlan :=
  let orders (a : String) : LogicalPlan :=
    .subqueryAlias (.tableScan (.bare "orders") ["id", "customer_id"]) (.bare a)
      [⟨some (.bare a), "id"⟩, ⟨some (.bare a), "customer_id"⟩]
  let customers : LogicalPlan :=
    .subqueryAlias (.tableScan (.bare "customers") ["id"]) (.bare "c") [⟨some (.bare "c"), "id"⟩]
  let ac : LogicalPlan :=
    .join (orders "a") customers
      (some (.binaryExpr (.column (some (.bare "a")) "customer_id") .eq (.column (some (.bare "c")) "id")))
      ((orders "a").schema ++ customers.schema)
  .projection [.column (some (.bare "a")) "id"]
    (.join ac (orders "b")
      (some (.binaryExpr (.column (some (.bare "b")) "customer_id") .eq (.column (some (.bare "c")) "id")))
      (ac.schema ++ (orders "b").schema))
    [⟨some (.bare "a"), "id"⟩]

/-- Three queries against datasource `main` whose metadata is not what the
decision-function guide says: `SELECT 1 WHERE EXISTS (SELECT * FROM orders)`
reports no table and no subquery, though it scans `orders` in a subquery;
`SELECT * FROM orders o`, with no subquery, reports one; and the join of
`orders`, `customers` and `orders` again reports `orders` twice. -/
theorem queryMetadataRun :
    TableReference.bare "orders" ∈ existsOrdersPlan.scans ∧
      (extractQueryMetadata existsOrdersPlan "public" "main").tables = [] ∧
      (extractQueryMetadata existsOrdersPlan "public" "main").hasSubquery = false ∧
      (extractQueryMetadata aliasedOrdersPlan "public" "main").hasSubquery = true ∧
      (extractQueryMetadata ordersCustomersOrdersPlan "public" "main").tables =
        [⟨"main", "public", "orders"⟩, ⟨"main", "public", "customers"⟩,
          ⟨"main", "public", "orders"⟩] := by
  refine ⟨by decide, by decide +kernel, by decide +kernel, by decide +kernel, by decide +kernel⟩

end BetweenRows
