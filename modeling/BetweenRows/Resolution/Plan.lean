import Mathlib.Data.List.Sort
import BetweenRows.Resolution.Graph
import BetweenRows.DataFusion.Join
import BetweenRows.Control.Except
import BetweenRows.Loop.Fold

/-!
# The column-resolution plan (`build_column_resolution_plan`)

For a row filter that names columns its table lacks, the planner resolves
each missing column, in name order, with `resolve_column` and one alias
counter. An alias anchor renames the column in the filter. A chain of hops
becomes inner joins of aliased parent scans: the hops of all columns are
deduplicated by their edge, and a hop already joined is not joined again, so
the next hop of the chain hangs off the alias of the earlier join. The
filter, with each resolved column qualified by its chain's last alias, goes
above the joins, and a projection restores the target scan's columns.

The dedup key is the edge alone, whatever alias the hop would hang off. Two
columns whose chains reach one edge through different parent rows therefore
share that join, and the second column is read through the first column's
path (`sharedEdgeRun`).
-/

namespace BetweenRows

open DataFusion

/-- The dedup key of a hop: the six names of its edge. -/
abbrev HopKey := String × String × String × String × String × String

def RelationshipEdge.hopKey (e : RelationshipEdge) : HopKey :=
  (e.childSchema, e.childTable, e.childColumn, e.parentSchema, e.parentTable, e.parentColumn)

/-- `requalify_expr`: an unqualified column renamed by an alias anchor takes
its actual name, one resolved by hops takes its terminal alias as qualifier,
and a reference qualified by the target table is re-qualified by the bare
table name. -/
def requalifyExpr (expr : Expr) (targetTable : String)
    (requalify renameColumns : List (String × String)) : Expr :=
  expr.mapColumns fun r n =>
    match r with
    | none =>
        -- rename beats requalify
        match renameColumns.lookup n, requalify.lookup n with
        | some actual, _ => .column none actual
        | none, some a => .column (some (.bare a)) n
        | none, none => .column none n
    | some rel =>
        if rel.table = targetTable then .column (some (.bare targetTable)) n
        else .column (some rel) n

/-- The unqualified names the filter reads that the target lacks, distinct
and in order, as the `BTreeSet` iterates them. -/
def missingColumns (referenced : List (Option TableReference × String))
    (targetColumns : List String) : List String :=
  (((referenced.filter (·.1.isNone)).map (·.2)).filter (· ∉ targetColumns)).dedup.insertionSort
    (· ≤ ·)

/-- The state of the loop over one chain's hops: the alias the next hop
hangs off, the column's terminal alias, and the dedup map and join list all
columns share. -/
structure ChainAcc where
  prevAlias : String
  finalAlias : String
  dedup : List (HopKey × String)
  orderedHops : List (ResolvedHop × String)

/-- One iteration of `for (i, hop) in chain.hops.into_iter().enumerate()`:
a hop whose edge is joined already is not joined again, and the chain
continues from the existing alias. -/
def dedupHop (hopsLen : Nat) (st : ChainAcc) (hi : ResolvedHop × Nat) : ChainAcc :=
  match st.dedup.lookup hi.1.edge.hopKey with
  | some existing =>
      { st with
        finalAlias := if hi.2 = hopsLen - 1 then existing else st.finalAlias
        prevAlias := existing }
  | none =>
      { st with
        dedup := (hi.1.edge.hopKey, hi.1.alias) :: st.dedup
        prevAlias := hi.1.alias
        orderedHops := st.orderedHops ++ [(hi.1, st.prevAlias)] }

/-- The accumulators of the loop over the missing columns. -/
structure ResolutionAcc where
  aliasCounter : Nat
  terminalAliasByCol : List (String × String)
  renameByCol : List (String × String)
  dedup : List (HopKey × String)
  orderedHops : List (ResolvedHop × String)

def ResolutionAcc.empty : ResolutionAcc := ⟨0, [], [], [], []⟩

/-- One iteration of `for col_name in &missing`. -/
def resolveMissingColumn (targetSchema targetTable : String) (snap : RelationshipSnapshot)
    (acc : ResolutionAcc) (colName : String) : Except ResolutionError ResolutionAcc := do
  let (resolution, aliasCounter) ← resolveColumn targetSchema targetTable colName snap acc.aliasCounter
  match resolution with
  | .alias actual =>
      pure { acc with
        aliasCounter := aliasCounter
        renameByCol := (colName, actual) :: acc.renameByCol }
  | .hops chain =>
      let st := chain.hops.zipIdx.foldl (dedupHop chain.hops.length)
        ⟨targetTable, chain.terminalAlias, acc.dedup, acc.orderedHops⟩
      pure { acc with
        aliasCounter := aliasCounter
        terminalAliasByCol := (colName, st.finalAlias) :: acc.terminalAliasByCol
        dedup := st.dedup
        orderedHops := st.orderedHops }

def resolveMissingColumns (targetSchema targetTable : String) (snap : RelationshipSnapshot)
    (missing : List String) : Except ResolutionError ResolutionAcc :=
  missing.foldlM (resolveMissingColumn targetSchema targetTable snap) .empty

/-- One iteration of the join loop: the parent scan under the hop's alias,
joined on the child alias's child column equal to the parent column. -/
def joinHop (parentScans : List ((String × String) × LogicalPlan)) (builder : LogicalPlan)
    (hc : ResolvedHop × String) : Except ResolutionError LogicalPlan :=
  match parentScans.lookup hc.1.edge.parentKey with
  | none => .error (.missingParentScan hc.1.edge.parentSchema hc.1.edge.parentTable)
  | some parentPlan =>
      let aliased := SubqueryAlias.tryNew parentPlan hc.1.alias
      let left := Expr.column (some (.bare hc.2)) hc.1.edge.childColumn
      let right := Expr.column (some (.bare hc.1.alias)) hc.1.edge.parentColumn
      .ok (LogicalPlanBuilder.joinOn builder aliased (.binaryExpr left .eq right))

/-- `build_column_resolution_plan`. DataFusion's own checks while building
(`PlanBuild`) are not modelled. -/
def buildColumnResolutionPlan (targetSchema targetTable : String) (targetScan : LogicalPlan)
    (filterExpr : Expr) (snap : RelationshipSnapshot)
    (parentScans : List ((String × String) × LogicalPlan)) :
    Except ResolutionError (Option LogicalPlan) := do
  let some targetColumns := snap.columnsByTable.lookup (targetSchema, targetTable)
    | pure none
  let referenced := filterExpr.columns
  if let some (_, name) := referenced.find? fun c => c.1.any (·.table ≠ targetTable) then
    throw (.qualifiedParentRefNotSupported name)
  let missing := missingColumns referenced targetColumns
  if missing.isEmpty then
    return none
  let targetScanColumns := targetScan.schema
  let acc ← resolveMissingColumns targetSchema targetTable snap missing
  let rewritten := requalifyExpr filterExpr targetTable acc.terminalAliasByCol acc.renameByCol
  if acc.orderedHops.isEmpty then
    return some (LogicalPlanBuilder.filter targetScan rewritten)
  let joined ← acc.orderedHops.foldlM (joinHop parentScans) targetScan
  let filtered := LogicalPlanBuilder.filter joined rewritten
  if targetScanColumns.isEmpty then
    return some filtered
  return some (LogicalPlanBuilder.project filtered
    (targetScanColumns.map fun f => .column f.qualifier f.name))

/-! ## What the planner is asked to compute -/

/-- The parent row a hop reaches from a row: a row of the parent table whose
parent column equals the row's child column. -/
def followHop (up : Upstream) (row : Row) (hop : ResolvedHop) : Option Row := do
  let v ← row.lookup hop.edge.childColumn
  let parents ← up.lookup hop.edge.parentKey
  parents.find? fun p =>
    ((p.lookup hop.edge.parentColumn).bind (Operator.eq.apply v)) == some (.boolean true)

/-- The value of `column` reached from a row by following the hops in order. -/
def followChain (up : Upstream) (row : Row) (hops : List ResolvedHop) (column : String) :
    Option ScalarValue := do
  let last ← hops.foldlM (followHop up) row
  last.lookup column

/-- How the specification reads a missing column in a target row: `none` if
it cannot be resolved, `some none` if its chain reaches no parent row. -/
def chainBinding (up : Upstream) (snap : RelationshipSnapshot) (targetSchema targetTable : String)
    (row : Row) (column : String) : Option (Option Expr) :=
  match resolveColumn targetSchema targetTable column snap 0 with
  | .ok (.alias actual, _) => some (some (.column none actual))
  | .ok (.hops chain, _) => some ((followChain up row chain.hops column).map .literal)
  | .error _ => none

/-- The rows a resolved row filter should keep: the target rows whose every
chain reaches a parent row and on which the filter holds, with each missing
column read at the end of its own chain, or from its same-table column. -/
def chainFilterSpec (up : Upstream) (snap : RelationshipSnapshot)
    (targetSchema targetTable : String) (filterExpr : Expr) (rows : List Row) :
    Option (List Row) := do
  let targetColumns ← snap.columnsByTable.lookup (targetSchema, targetTable)
  let missing := missingColumns filterExpr.columns targetColumns
  rows.filterM fun row => do
    let bindings ← missing.mapM fun c => (chainBinding up snap targetSchema targetTable row c).map (c, ·)
    match bindings.mapM fun b => b.2.map (b.1, ·) with
    | none => pure false
    | some subst =>
        let bound := filterExpr.mapColumns fun r n =>
          match r, subst.lookup n with
          | none, some e => e
          | _, _ => .column r n
        let v ← bound.eval row
        v.keep?

/-! ## The joins the planner wires -/

theorem mem_of_lookup_eq_some {α β : Type} [BEq α] [LawfulBEq α] {l : List (α × β)} {k : α}
    {b : β} (h : l.lookup k = some b) : (k, b) ∈ l := by
  obtain ⟨l₁, l₂, rfl, -⟩ := List.lookup_eq_some_iff.mp h
  simp

/-- The aliases the joins so far bring into scope. -/
def joinedAliases (joins : List (ResolvedHop × String)) : List String :=
  joins.map (·.1.alias)

/-- Each join hangs off an alias of `scope` or off an earlier join's alias,
as the join loop brings them into scope. -/
def JoinsInScope : List String → List (ResolvedHop × String) → Prop
  | _, [] => True
  | scope, hc :: hs => hc.2 ∈ scope ∧ JoinsInScope (hc.1.alias :: scope) hs

theorem joinsInScope_append_singleton (hc : ResolvedHop × String) :
    ∀ (scope : List String) (joins : List (ResolvedHop × String)),
      JoinsInScope scope joins → hc.2 ∈ scope ∨ hc.2 ∈ joinedAliases joins →
        JoinsInScope scope (joins ++ [hc])
  | _, [], _, hin => ⟨hin.resolve_right List.not_mem_nil, trivial⟩
  | _, j :: js, ⟨hj, hjs⟩, hin => by
      refine ⟨hj, joinsInScope_append_singleton hc _ js hjs ?_⟩
      rcases hin with hin | hin
      · exact .inl (List.mem_cons_of_mem _ hin)
      · rcases List.mem_cons.mp hin with heq | hin
        · exact .inl (heq ▸ List.mem_cons_self)
        · exact .inr hin

/-- What the loop over one chain keeps: its joins are in scope, each dedup
entry names a join, and the next hop can hang off `prevAlias`. -/
structure ChainAcc.Scoped (targetTable : String) (st : ChainAcc) : Prop where
  joins : JoinsInScope [targetTable] st.orderedHops
  dedup_joined : ∀ p ∈ st.dedup, p.2 ∈ joinedAliases st.orderedHops
  prev_in_scope : st.prevAlias = targetTable ∨ st.prevAlias ∈ joinedAliases st.orderedHops

theorem ChainAcc.Scoped.step {targetTable : String} {st : ChainAcc} (hst : st.Scoped targetTable)
    (n : Nat) (hi : ResolvedHop × Nat) : (dedupHop n st hi).Scoped targetTable := by
  unfold dedupHop
  cases hlook : st.dedup.lookup hi.1.edge.hopKey with
  | some existing =>
      exact ⟨hst.joins, hst.dedup_joined, .inr (hst.dedup_joined _ (mem_of_lookup_eq_some hlook))⟩
  | none =>
      have hnew : hi.1.alias ∈ joinedAliases (st.orderedHops ++ [(hi.1, st.prevAlias)]) := by
        simp [joinedAliases]
      have hold : ∀ a ∈ joinedAliases st.orderedHops,
          a ∈ joinedAliases (st.orderedHops ++ [(hi.1, st.prevAlias)]) := by
        intro a ha
        rw [joinedAliases, List.map_append]
        exact List.mem_append_left _ ha
      refine ⟨joinsInScope_append_singleton _ _ _ hst.joins ?_, ?_, .inr hnew⟩
      · rcases hst.prev_in_scope with heq | hin
        · exact .inl (heq ▸ List.mem_singleton_self _)
        · exact .inr hin
      · intro p hp
        rcases List.mem_cons.mp hp with rfl | hp
        · exact hnew
        · exact hold _ (hst.dedup_joined p hp)

theorem dedupHop_orderedHops_subset {n : Nat} {st : ChainAcc} {hi : ResolvedHop × Nat}
    {x : ResolvedHop × String} (hx : x ∈ st.orderedHops) : x ∈ (dedupHop n st hi).orderedHops := by
  unfold dedupHop
  split
  · exact hx
  · exact List.mem_append_left _ hx

theorem dedupHop_finalAlias_of_ne {n : Nat} {st : ChainAcc} {hi : ResolvedHop × Nat}
    (h : hi.2 ≠ n - 1) : (dedupHop n st hi).finalAlias = st.finalAlias := by
  unfold dedupHop
  split
  · exact if_neg h
  · rfl

/-- At the last hop the column's alias is joined: an existing join's, or
the hop's own, which is the chain's terminal alias. -/
theorem dedupHop_last_joined {targetTable : String} {n : Nat} {st : ChainAcc}
    (hst : st.Scoped targetTable) (hop : ResolvedHop) (hfinal : st.finalAlias = hop.alias) :
    (dedupHop n st (hop, n - 1)).finalAlias ∈
      joinedAliases (dedupHop n st (hop, n - 1)).orderedHops := by
  unfold dedupHop
  cases hlook : st.dedup.lookup hop.edge.hopKey with
  | some existing =>
      dsimp only
      rw [if_pos rfl]
      exact hst.dedup_joined _ (mem_of_lookup_eq_some hlook)
  | none =>
      rw [hfinal]
      simp [joinedAliases]

/-- The loop over a chain whose last alias is the column's keeps the joins
in scope and ends on a joined alias. -/
theorem foldl_dedupHop_scoped {targetTable : String} {hops : List ResolvedHop} {st : ChainAcc}
    (hst : st.Scoped targetTable) (hlast : hops.getLast?.map (·.alias) = some st.finalAlias) :
    (hops.zipIdx.foldl (dedupHop hops.length) st).Scoped targetTable ∧
      (hops.zipIdx.foldl (dedupHop hops.length) st).finalAlias ∈
        joinedAliases (hops.zipIdx.foldl (dedupHop hops.length) st).orderedHops := by
  obtain ⟨init, last, rfl⟩ :=
    (List.eq_nil_or_concat' hops).resolve_left (by rintro rfl; cases hlast)
  have hlen : (init ++ [last]).length - 1 = init.length := by simp
  have hfinal : last.alias = st.finalAlias := by simpa using hlast
  rw [List.zipIdx_append, List.foldl_append, Nat.zero_add, List.zipIdx_singleton,
    List.foldl_cons, List.foldl_nil, ← hlen]
  -- every hop before the last keeps the scope and leaves the final alias
  have hmid : (init.zipIdx.foldl (dedupHop (init ++ [last]).length) st).Scoped targetTable :=
    Fold.foldl_inv (fun s a hs => hs.step _ a) _ _ hst
  have hmid_final : (init.zipIdx.foldl (dedupHop (init ++ [last]).length) st).finalAlias =
      st.finalAlias := by
    refine Fold.foldl_eq_of_mem _ _ fun s hi hmem => dedupHop_finalAlias_of_ne ?_
    have hbound := (List.mem_zipIdx hmem).2.1
    rw [hlen]
    omega
  exact ⟨hmid.step _ _, dedupHop_last_joined hmid last (hmid_final.trans hfinal.symm)⟩

/-- What the loop over the missing columns keeps: the joins are in scope,
and each dedup entry and each resolved column names a join. -/
structure ResolutionAcc.Scoped (targetTable : String) (acc : ResolutionAcc) : Prop where
  joins : JoinsInScope [targetTable] acc.orderedHops
  dedup_joined : ∀ p ∈ acc.dedup, p.2 ∈ joinedAliases acc.orderedHops
  terminal_joined : ∀ p ∈ acc.terminalAliasByCol, p.2 ∈ joinedAliases acc.orderedHops

theorem ResolutionAcc.scoped_empty (targetTable : String) : ResolutionAcc.empty.Scoped targetTable :=
  ⟨trivial, fun _ hp => absurd hp List.not_mem_nil, fun _ hp => absurd hp List.not_mem_nil⟩

theorem ResolutionAcc.Scoped.step {targetSchema targetTable : String} {snap : RelationshipSnapshot}
    {acc acc' : ResolutionAcc} {colName : String} (hacc : acc.Scoped targetTable)
    (h : resolveMissingColumn targetSchema targetTable snap acc colName = .ok acc') :
    acc'.Scoped targetTable := by
  unfold resolveMissingColumn at h
  rw [Except.bind_eq_ok] at h
  obtain ⟨⟨resolution, counter⟩, hres, h⟩ := h
  cases resolution with
  | «alias» actual =>
      cases Except.pure_eq_ok.mp h
      exact ⟨hacc.joins, hacc.dedup_joined, hacc.terminal_joined⟩
  | hops chain =>
      cases Except.pure_eq_ok.mp h
      obtain ⟨hc, -⟩ := resolveColumn_chain hres
      have hst : ChainAcc.Scoped targetTable
          ⟨targetTable, chain.terminalAlias, acc.dedup, acc.orderedHops⟩ :=
        ⟨hacc.joins, hacc.dedup_joined, .inl rfl⟩
      obtain ⟨hscoped, hfinal⟩ := foldl_dedupHop_scoped hst hc.terminal_alias
      refine ⟨hscoped.joins, hscoped.dedup_joined, ?_⟩
      -- earlier columns keep their joins: the loop only appends
      have hgrow : ∀ x ∈ acc.orderedHops,
          x ∈ (chain.hops.zipIdx.foldl (dedupHop chain.hops.length)
            ⟨targetTable, chain.terminalAlias, acc.dedup, acc.orderedHops⟩).orderedHops :=
        fun x hx => Fold.foldl_inv (P := fun s : ChainAcc => x ∈ s.orderedHops)
          (fun _ _ hs => dedupHop_orderedHops_subset hs) _ _ hx
      intro p hp
      rcases List.mem_cons.mp hp with rfl | hp
      · exact hfinal
      · obtain ⟨x, hx, hxa⟩ := List.mem_map.mp (hacc.terminal_joined p hp)
        exact List.mem_map.mpr ⟨x, hgrow x hx, hxa⟩

/-- Every join the planner wires hangs off the target or an earlier join,
and the filter reads each column resolved by hops from a joined alias. -/
theorem resolveMissingColumns_scoped {targetSchema targetTable : String}
    {snap : RelationshipSnapshot} {missing : List String} {acc : ResolutionAcc}
    (h : resolveMissingColumns targetSchema targetTable snap missing = .ok acc) :
    acc.Scoped targetTable :=
  Except.foldlM_inv (fun _ _ _ hb hstep => hb.step hstep) missing
    (ResolutionAcc.scoped_empty targetTable) h

/-- Under well-formed anchors the hops of a chain leave distinct tables, so
their edges are distinct. -/
theorem AnchorChain.hopKeys_nodup {snap : RelationshipSnapshot} {target : String × String}
    {column : String} {chain : ColumnResolution} (hwf : snap.AnchorsLeaveOwnTable)
    (hc : AnchorChain snap target column chain) : (chain.hops.map (·.edge.hopKey)).Nodup := by
  have hchild := hc.visited_nodup
  rw [← hc.anchored.map_childKey hwf] at hchild
  have hmap : chain.hops.map (·.edge.childKey) =
      (chain.hops.map (·.edge.hopKey)).map fun k => (k.1, k.2.1) := by
    rw [List.map_map]
    rfl
  rw [hmap] at hchild
  exact hchild.of_map _

/-- A chain with distinct edges, none joined yet, is joined hop after hop,
each off the alias of the hop before it. -/
theorem foldl_dedupHop_fresh {n : Nat} :
    ∀ (hops : List ResolvedHop) (k : Nat) (st : ChainAcc),
      (hops.map (·.edge.hopKey)).Nodup → (∀ h ∈ hops, st.dedup.lookup h.edge.hopKey = none) →
        ((hops.zipIdx k).foldl (dedupHop n) st).orderedHops =
            st.orderedHops ++ hops.zip (st.prevAlias :: hops.map (·.alias)) ∧
          ((hops.zipIdx k).foldl (dedupHop n) st).finalAlias = st.finalAlias
  | [], _, _, _, _ => by simp
  | h :: hs, k, st, hnodup, hfresh => by
      have hstep : dedupHop n st (h, k) =
          ⟨h.alias, st.finalAlias, (h.edge.hopKey, h.alias) :: st.dedup,
            st.orderedHops ++ [(h, st.prevAlias)]⟩ := by
        simp [dedupHop, hfresh h List.mem_cons_self]
      rw [List.map_cons, List.nodup_cons] at hnodup
      -- the hops after `h` are still fresh: their edges differ from its edge
      have hfresh' : ∀ h' ∈ hs,
          ((h.edge.hopKey, h.alias) :: st.dedup).lookup h'.edge.hopKey = none := by
        intro h' hh'
        have hne : h'.edge.hopKey ≠ h.edge.hopKey := by
          intro heq
          apply hnodup.1
          rw [← heq]
          exact List.mem_map_of_mem hh'
        rw [List.lookup_cons, beq_false_of_ne hne]
        exact hfresh h' (List.mem_cons_of_mem _ hh')
      obtain ⟨hord, hfin⟩ := foldl_dedupHop_fresh hs (k + 1)
        ⟨h.alias, st.finalAlias, (h.edge.hopKey, h.alias) :: st.dedup,
          st.orderedHops ++ [(h, st.prevAlias)]⟩ hnodup.2 hfresh'
      rw [List.zipIdx_cons, List.foldl_cons, hstep]
      refine ⟨?_, hfin⟩
      rw [hord]
      simp

/-- With one missing column, resolved by hops over well-formed anchors, the
joins are the chain's hops in order, the first off the target and each
later one off the hop before it, and the filter reads the column from the
last hop's alias. -/
theorem resolveMissingColumns_single {s t c : String} {snap : RelationshipSnapshot}
    {chain : ColumnResolution} {k : Nat} {acc : ResolutionAcc} (hwf : snap.AnchorsLeaveOwnTable)
    (hres : resolveColumn s t c snap 0 = .ok (.hops chain, k))
    (h : resolveMissingColumns s t snap [c] = .ok acc) :
    acc.orderedHops = chain.hops.zip (t :: chain.hops.map (·.alias)) ∧
      acc.terminalAliasByCol = [(c, chain.terminalAlias)] := by
  rw [resolveMissingColumns, List.foldlM_cons, Except.bind_eq_ok] at h
  obtain ⟨acc₁, h₁, h₂⟩ := h
  cases h₂
  rw [resolveMissingColumn, Except.bind_eq_ok] at h₁
  obtain ⟨⟨resolution, counter⟩, hres', h₁⟩ := h₁
  have hsame : resolveColumn s t c snap ResolutionAcc.empty.aliasCounter = .ok (.hops chain, k) :=
    hres
  rw [hsame] at hres'
  cases hres'
  cases Except.pure_eq_ok.mp h₁
  obtain ⟨hc, -⟩ := resolveColumn_chain hres
  obtain ⟨hord, hfin⟩ := foldl_dedupHop_fresh chain.hops 0
    ⟨t, chain.terminalAlias, ResolutionAcc.empty.dedup, ResolutionAcc.empty.orderedHops⟩
    (hc.hopKeys_nodup hwf) (fun _ _ => rfl)
  refine ⟨by simpa [ResolutionAcc.empty] using hord, ?_⟩
  show [(c, _)] = _
  rw [hfin]

/-! ## Two chains through one edge -/

def ordersCustomerEdge : RelationshipEdge :=
  ⟨1, "public", "orders", "customer_id", "public", "customers", "id"⟩

def ordersBuyerEdge : RelationshipEdge :=
  ⟨2, "public", "orders", "buyer_id", "public", "customers", "id"⟩

def customersAccountEdge : RelationshipEdge :=
  ⟨3, "public", "customers", "account_id", "public", "accounts", "id"⟩

/-- An order's region is its customer's account's, and its tier is its
buyer's account's: both chains end in the edge `customers.account_id →
accounts.id`, one after `orders.customer_id` and one after
`orders.buyer_id`. -/
def sharedEdgeSnapshot : RelationshipSnapshot where
  relationships := [(1, ordersCustomerEdge), (2, ordersBuyerEdge), (3, customersAccountEdge)]
  anchors :=
    [(("public", "orders", "region"), .relationship 1),
      (("public", "orders", "tier"), .relationship 2),
      (("public", "customers", "region"), .relationship 3),
      (("public", "customers", "tier"), .relationship 3)]
  columnsByTable :=
    [(("public", "orders"), ["id", "customer_id", "buyer_id"]),
      (("public", "customers"), ["id", "account_id"]),
      (("public", "accounts"), ["id", "region", "tier"])]

/-- `region = 'eu' AND tier = 'basic'` -/
def sharedEdgeFilter : Expr :=
  .binaryExpr (.binaryExpr (.column none "region") .eq (.literal (.utf8 "eu"))) .and
    (.binaryExpr (.column none "tier") .eq (.literal (.utf8 "basic")))

def ordersScan : LogicalPlan :=
  .tableScan (.qualified "public" "orders") ["id", "customer_id", "buyer_id"]

def sharedEdgeParentScans : List ((String × String) × LogicalPlan) :=
  [(("public", "customers"), .tableScan (.qualified "public" "customers") ["id", "account_id"]),
    (("public", "accounts"), .tableScan (.qualified "public" "accounts") ["id", "region", "tier"])]

/-- One order, by customer 10 (account 100: region eu, tier gold) for
buyer 20 (account 200: region us, tier basic). -/
def sharedEdgeOrders : List Row :=
  [[("id", .int64 1), ("customer_id", .int64 10), ("buyer_id", .int64 20)]]

def sharedEdgeUpstream : Upstream :=
  [(("public", "orders"), sharedEdgeOrders),
    (("public", "customers"),
      [[("id", .int64 10), ("account_id", .int64 100)], [("id", .int64 20), ("account_id", .int64 200)]]),
    (("public", "accounts"),
      [[("id", .int64 100), ("region", .utf8 "eu"), ("tier", .utf8 "gold")],
        [("id", .int64 200), ("region", .utf8 "us"), ("tier", .utf8 "basic")]])]

/-- The tier chain's second hop is deduplicated against the region chain's:
no join follows `__br_anchor_customers_2`, and `tier` is read from
`__br_anchor_accounts_1`, the customer's account. The plan drops the order,
which its own chains keep: its buyer's account is at tier basic. -/
theorem sharedEdgeRun :
    (resolveMissingColumns "public" "orders" sharedEdgeSnapshot ["region", "tier"]).toOption.map
        (fun acc => (acc.orderedHops.map fun hc => (hc.1.alias, hc.2), acc.terminalAliasByCol)) =
      some ([("__br_anchor_customers_0", "orders"),
          ("__br_anchor_accounts_1", "__br_anchor_customers_0"),
          ("__br_anchor_customers_2", "orders")],
        [("tier", "__br_anchor_accounts_1"), ("region", "__br_anchor_accounts_1")]) ∧
    (buildColumnResolutionPlan "public" "orders" ordersScan sharedEdgeFilter sharedEdgeSnapshot
        sharedEdgeParentScans).toOption.join.bind (·.rows sharedEdgeUpstream "public") = some [] ∧
    chainFilterSpec sharedEdgeUpstream sharedEdgeSnapshot "public" "orders" sharedEdgeFilter
        sharedEdgeOrders = some sharedEdgeOrders := by
  refine ⟨by decide +kernel, by decide +kernel, by decide +kernel⟩

end BetweenRows
