import Mathlib.Data.List.Chain
import Mathlib.Data.List.Nodup
import BetweenRows.Text.Decimal
import BetweenRows.Policy.Match

/-!
# Anchor chains (`resolution/graph.rs`)

A row filter may name a column its table does not have. A column anchor
says where the column is: an `Alias` anchor names the target's own column
under another name, and a `Relationship` anchor names a foreign-key edge to
a parent table, whose own anchors may lead further. `resolve_column` walks
the anchors from the target, at most `MAX_DEPTH` hops, until it enters a
table that carries the column, and gives each hop a join alias numbered by
a counter that the columns of one filter share.

The walk is a loop with three exits besides success. Its invariant
(`WalkInv`) is kept by each hop (`WalkInv.push`) and gives, at the hop that
finds the column, everything `AnchorChain` lists (`WalkInv.finish`).
Whether the first hop leaves the target, and each hop the table the one
before it entered, depends on the snapshot: it holds when every
relationship anchor names an edge out of its own table
(`AnchorsLeaveOwnTable`), which the anchor API checks on create and the
session loader does not check again.
-/

namespace BetweenRows

/-- `MAX_DEPTH` -/
def maxDepth : Nat := 3

/-- `ALIAS_PREFIX` -/
def aliasPrefix : String := "__br_anchor_"

/-- A foreign-key edge from a child table's column to a parent table's. -/
structure RelationshipEdge where
  id : Nat
  childSchema : String
  childTable : String
  childColumn : String
  parentSchema : String
  parentTable : String
  parentColumn : String
  deriving DecidableEq, Repr

namespace RelationshipEdge

def childKey (e : RelationshipEdge) : String × String := (e.childSchema, e.childTable)

def parentKey (e : RelationshipEdge) : String × String := (e.parentSchema, e.parentTable)

end RelationshipEdge

inductive AnchorShape where
  | relationship (relId : Nat)
  | «alias» (actual : String)
  deriving DecidableEq, Repr

/-- The session's relationships, anchors and discovered columns. Each
`HashMap` is an association list read by `lookup`. -/
structure RelationshipSnapshot where
  relationships : List (Nat × RelationshipEdge)
  anchors : List ((String × String × String) × AnchorShape)
  columnsByTable : List ((String × String) × List String)

namespace RelationshipSnapshot

variable (snap : RelationshipSnapshot)

def tableHasColumn (schema table column : String) : Bool :=
  ((snap.columnsByTable.lookup (schema, table)).map fun cols => cols.contains column).getD false

def getAnchorShape (schema table column : String) : Option AnchorShape :=
  snap.anchors.lookup (schema, table, column)

def getAnchorEdge (schema table column : String) : Option RelationshipEdge := do
  match ← snap.getAnchorShape schema table column with
  | .relationship relId => snap.relationships.lookup relId
  | .alias _ => none

/-- Every relationship anchor names an edge out of the table it is
registered on: `create_column_anchor` rejects any other with
"relationship.child_table_id does not match anchor.child_table_id". -/
def AnchorsLeaveOwnTable : Prop :=
  ∀ schema table column e, snap.getAnchorEdge schema table column = some e →
    e.childKey = (schema, table)

end RelationshipSnapshot

inductive ResolutionError where
  | noColumnAnchor (schema table column : String)
  | depthLimitExceeded (schema table column : String)
  | chainCycle (schema table column : String)
  | qualifiedParentRefNotSupported (name : String)
  | missingParentScan (schema table : String)
  | unresolvableFilterColumn (schema table column : String)
  | planBuild (msg : String)
  deriving DecidableEq, Repr

structure ResolvedHop where
  «alias» : String
  edge : RelationshipEdge
  deriving DecidableEq, Repr

structure ColumnResolution where
  hops : List ResolvedHop
  terminalAlias : String
  deriving DecidableEq, Repr

inductive ResolvedColumn where
  | hops (chain : ColumnResolution)
  | «alias» (actual : String)
  deriving DecidableEq, Repr

/-- `format!("{}{}_{}", ALIAS_PREFIX, edge.parent_table, *alias_counter)` -/
def anchorAlias (parentTable : String) (counter : Nat) : String :=
  aliasPrefix ++ parentTable ++ "_" ++ toString counter

/-- The loop of `resolve_column`, with `fuel` of its `MAX_DEPTH` iterations
left. The answer carries the alias counter as the loop leaves it; the
callers propagate an error with `?` and never read the counter after one. -/
def resolveColumnLoop (snap : RelationshipSnapshot) (target : String × String) (column : String) :
    Nat → List ResolvedHop → String × String → List (String × String) → Nat →
      Except ResolutionError (ResolvedColumn × Nat)
  | 0, _, _, _, _ => .error (.depthLimitExceeded target.1 target.2 column)
  | fuel + 1, hops, current, visited, counter =>
      match snap.getAnchorEdge current.1 current.2 column with
      | none => .error (.noColumnAnchor current.1 current.2 column)
      | some edge =>
          let hopAlias := anchorAlias edge.parentTable counter
          let hops := hops ++ [⟨hopAlias, edge⟩]
          if snap.tableHasColumn edge.parentSchema edge.parentTable column then
            .ok (.hops ⟨hops, hopAlias⟩, counter + 1)
          -- `visited.insert` answers false for a table already visited
          else if edge.parentKey ∈ visited then
            .error (.chainCycle target.1 target.2 column)
          else
            resolveColumnLoop snap target column fuel hops edge.parentKey
              (visited ++ [edge.parentKey]) (counter + 1)

def resolveColumn (targetSchema targetTable column : String) (snap : RelationshipSnapshot)
    (aliasCounter : Nat) : Except ResolutionError (ResolvedColumn × Nat) :=
  match snap.getAnchorShape targetSchema targetTable column with
  | some (.alias actual) => .ok (.alias actual, aliasCounter)
  | _ =>
      resolveColumnLoop snap (targetSchema, targetTable) column maxDepth []
        (targetSchema, targetTable) [(targetSchema, targetTable)] aliasCounter

/-! ## Walks -/

/-- The tables a walk enters: the target, then each hop's parent. -/
def walkTables (target : String × String) (hops : List ResolvedHop) : List (String × String) :=
  target :: hops.map (·.edge.parentKey)

/-- The table a walk has reached. -/
def walkEnd : String × String → List ResolvedHop → String × String
  | table, [] => table
  | _, h :: hs => walkEnd h.edge.parentKey hs

/-- Each hop's edge is the anchor edge for `column` at the table the walk
has reached before it. -/
def AnchorWalk (snap : RelationshipSnapshot) (column : String) :
    String × String → List ResolvedHop → Prop
  | _, [] => True
  | table, h :: hs =>
      snap.getAnchorEdge table.1 table.2 column = some h.edge ∧
        AnchorWalk snap column h.edge.parentKey hs

@[simp]
theorem walkTables_append_singleton (target : String × String) (hops : List ResolvedHop)
    (h : ResolvedHop) :
    walkTables target (hops ++ [h]) = walkTables target hops ++ [h.edge.parentKey] := by
  simp [walkTables]

@[simp]
theorem walkEnd_append_singleton (h : ResolvedHop) :
    ∀ (target : String × String) (hops : List ResolvedHop),
      walkEnd target (hops ++ [h]) = h.edge.parentKey
  | _, [] => rfl
  | _, _ :: hs => walkEnd_append_singleton h _ hs

theorem anchorWalk_append_singleton {snap : RelationshipSnapshot} {column : String}
    (h : ResolvedHop) : ∀ (target : String × String) (hops : List ResolvedHop),
      AnchorWalk snap column target (hops ++ [h]) ↔
        AnchorWalk snap column target hops ∧
          snap.getAnchorEdge (walkEnd target hops).1 (walkEnd target hops).2 column = some h.edge
  | _, [] => by simp [AnchorWalk, walkEnd]
  | _, h' :: hs => by
      simp only [List.cons_append, AnchorWalk, walkEnd, anchorWalk_append_singleton h _ hs,
        and_assoc]

/-- Two hop aliases with the same text were numbered alike: the counter
follows the last `_`, and a digit is never `_`. -/
theorem anchorAlias_counter_eq {a b : String} {m n : Nat} (h : anchorAlias a m = anchorAlias b n) :
    m = n := by
  have hl := congrArg String.toList h
  simp only [anchorAlias, String.toList_append] at hl
  have hsep : (aliasPrefix.toList ++ a.toList) ++ '_' :: (toString m).toList =
      (aliasPrefix.toList ++ b.toList) ++ '_' :: (toString n).toList := by
    simpa using hl
  exact Decimal.counter_eq_of_name_eq (by decide) hsep

/-! ## The loop invariant -/

section Walk

variable {snap : RelationshipSnapshot} {target : String × String} {column : String}

/-- What a walk from `target` that started with alias counter `start` has
built when it reaches `current`. -/
structure WalkInv (snap : RelationshipSnapshot) (target : String × String) (column : String)
    (start : Nat) (hops : List ResolvedHop) (current : String × String)
    (visited : List (String × String)) (counter : Nat) : Prop where
  visited_eq : visited = walkTables target hops
  current_eq : current = walkEnd target hops
  visited_nodup : visited.Nodup
  anchored : AnchorWalk snap column target hops
  lacks_column : ∀ h ∈ hops, snap.tableHasColumn h.edge.parentSchema h.edge.parentTable column = false
  counter_eq : counter = start + hops.length
  aliases_below : ∀ h ∈ hops, ∃ j < counter, h.alias = anchorAlias h.edge.parentTable j
  aliases_nodup : (hops.map (·.alias)).Nodup

/-- A chain `resolve_column` returns. -/
structure AnchorChain (snap : RelationshipSnapshot) (target : String × String) (column : String)
    (chain : ColumnResolution) : Prop where
  ne_nil : chain.hops ≠ []
  length_le : chain.hops.length ≤ maxDepth
  anchored : AnchorWalk snap column target chain.hops
  /-- the visited set: the target and every parent but the last -/
  visited_nodup : (walkTables target chain.hops).dropLast.Nodup
  lacks_column : ∀ h ∈ chain.hops.dropLast,
    snap.tableHasColumn h.edge.parentSchema h.edge.parentTable column = false
  carries_column :
    snap.tableHasColumn (walkEnd target chain.hops).1 (walkEnd target chain.hops).2 column = true
  aliases_nodup : (chain.hops.map (·.alias)).Nodup
  terminal_alias : chain.hops.getLast?.map (·.alias) = some chain.terminalAlias

theorem WalkInv.init (start : Nat) :
    WalkInv snap target column start [] target [target] start where
  visited_eq := rfl
  current_eq := rfl
  visited_nodup := List.nodup_singleton target
  anchored := trivial
  lacks_column := by simp
  counter_eq := rfl
  aliases_below := by simp
  aliases_nodup := List.nodup_nil

/-- The new hop's alias is fresh: every earlier one was numbered below the
counter. -/
theorem WalkInv.alias_fresh {start : Nat} {hops : List ResolvedHop} {current visited counter}
    (hinv : WalkInv snap target column start hops current visited counter) (table : String) :
    anchorAlias table counter ∉ hops.map (·.alias) := by
  intro hmem
  obtain ⟨h, hh, heq⟩ := List.mem_map.mp hmem
  obtain ⟨j, hj, hjalias⟩ := hinv.aliases_below h hh
  have := anchorAlias_counter_eq (hjalias.symm.trans heq)
  omega

/-- A hop to a parent that lacks the column and was not visited keeps the
invariant. -/
theorem WalkInv.push {start : Nat} {hops : List ResolvedHop} {current visited counter}
    {edge : RelationshipEdge}
    (hinv : WalkInv snap target column start hops current visited counter)
    (hedge : snap.getAnchorEdge current.1 current.2 column = some edge)
    (hlacks : snap.tableHasColumn edge.parentSchema edge.parentTable column = false)
    (hfresh : edge.parentKey ∉ visited) :
    WalkInv snap target column start (hops ++ [⟨anchorAlias edge.parentTable counter, edge⟩])
      edge.parentKey (visited ++ [edge.parentKey]) (counter + 1) where
  visited_eq := by rw [hinv.visited_eq, walkTables_append_singleton]
  current_eq := by rw [walkEnd_append_singleton]
  visited_nodup := List.concat_eq_append .. ▸ hinv.visited_nodup.concat hfresh
  anchored := (anchorWalk_append_singleton _ _ _).mpr ⟨hinv.anchored, hinv.current_eq ▸ hedge⟩
  lacks_column := by
    intro h hh
    rcases List.mem_append.mp hh with hh | hh
    · exact hinv.lacks_column h hh
    · rw [List.mem_singleton.mp hh]
      exact hlacks
  counter_eq := by rw [hinv.counter_eq, List.length_append, List.length_singleton, Nat.add_assoc]
  aliases_below := by
    intro h hh
    rcases List.mem_append.mp hh with hh | hh
    · obtain ⟨j, hj, hjalias⟩ := hinv.aliases_below h hh
      exact ⟨j, by omega, hjalias⟩
    · rw [List.mem_singleton.mp hh]
      exact ⟨counter, by omega, rfl⟩
  aliases_nodup := by
    rw [List.map_append, List.map_singleton, ← List.concat_eq_append]
    exact hinv.aliases_nodup.concat (hinv.alias_fresh _)

/-- A hop to a parent that carries the column, within the depth limit,
ends the walk with a well-formed chain. -/
theorem WalkInv.finish {start : Nat} {hops : List ResolvedHop} {current visited counter}
    {edge : RelationshipEdge}
    (hinv : WalkInv snap target column start hops current visited counter)
    (hedge : snap.getAnchorEdge current.1 current.2 column = some edge)
    (hcarries : snap.tableHasColumn edge.parentSchema edge.parentTable column = true)
    (hdepth : hops.length < maxDepth) :
    AnchorChain snap target column
      ⟨hops ++ [⟨anchorAlias edge.parentTable counter, edge⟩], anchorAlias edge.parentTable counter⟩ where
  ne_nil := by simp
  length_le := by rw [List.length_append, List.length_singleton]; omega
  anchored := (anchorWalk_append_singleton _ _ _).mpr ⟨hinv.anchored, hinv.current_eq ▸ hedge⟩
  visited_nodup := by
    rw [walkTables_append_singleton, List.dropLast_concat, ← hinv.visited_eq]
    exact hinv.visited_nodup
  lacks_column := by
    rw [List.dropLast_concat]
    exact hinv.lacks_column
  carries_column := by rw [walkEnd_append_singleton]; exact hcarries
  aliases_nodup := by
    rw [List.map_append, List.map_singleton, ← List.concat_eq_append]
    exact hinv.aliases_nodup.concat (hinv.alias_fresh _)
  terminal_alias := by simp

/-- What the loop can answer, from a state with walk invariant for start
counter `start`. -/
def WalkOutcome (snap : RelationshipSnapshot) (target : String × String) (column : String)
    (start : Nat) : Except ResolutionError (ResolvedColumn × Nat) → Prop
  | .ok (.hops chain, n) => AnchorChain snap target column chain ∧ n = start + chain.hops.length
  | .ok (.alias _, _) => False
  | .error e =>
      (∃ table : String × String, e = .noColumnAnchor table.1 table.2 column) ∨
        e = .chainCycle target.1 target.2 column ∨ e = .depthLimitExceeded target.1 target.2 column

/-- The run lemma: by induction on the iterations left, from the step
lemmas `WalkInv.push` and `WalkInv.finish`. -/
theorem walkOutcome_resolveColumnLoop {start : Nat} :
    ∀ (fuel : Nat) {hops : List ResolvedHop} {current visited counter},
      WalkInv snap target column start hops current visited counter →
        hops.length + fuel = maxDepth →
          WalkOutcome snap target column start
            (resolveColumnLoop snap target column fuel hops current visited counter)
  | 0, _, _, _, _, _, _ => .inr (.inr rfl)
  | fuel + 1, hops, current, visited, counter, hinv, hfuel => by
      rw [resolveColumnLoop]
      cases hedge : snap.getAnchorEdge current.1 current.2 column with
      | none => exact .inl ⟨current, rfl⟩
      | some edge =>
          dsimp only
          by_cases hcarries : snap.tableHasColumn edge.parentSchema edge.parentTable column = true
          · rw [if_pos hcarries]
            refine ⟨hinv.finish hedge hcarries (by omega), ?_⟩
            rw [hinv.counter_eq, List.length_append, List.length_singleton, Nat.add_assoc]
          · rw [if_neg hcarries]
            by_cases hseen : edge.parentKey ∈ visited
            · rw [if_pos hseen]
              exact .inr (.inl rfl)
            · rw [if_neg hseen]
              refine walkOutcome_resolveColumnLoop fuel
                (hinv.push hedge (by simpa using hcarries) hseen) ?_
              rw [List.length_append, List.length_singleton]
              omega

end Walk

/-! ## Chains under well-formed anchors -/

section Chain

variable {snap : RelationshipSnapshot} {column : String}

theorem AnchorWalk.childKey_eq (hwf : snap.AnchorsLeaveOwnTable) {table : String × String}
    {h : ResolvedHop} {hs : List ResolvedHop} (hw : AnchorWalk snap column table (h :: hs)) :
    h.edge.childKey = table :=
  hwf _ _ _ _ hw.1

/-- Each hop leaves the table the one before it entered. -/
theorem AnchorWalk.isChain (hwf : snap.AnchorsLeaveOwnTable) :
    ∀ {table : String × String} {hops : List ResolvedHop}, AnchorWalk snap column table hops →
      hops.IsChain fun a b => a.edge.parentKey = b.edge.childKey
  | _, [], _ => .nil
  | _, [_], _ => .singleton _
  | _, _ :: _ :: _, ⟨_, hrest⟩ => .cons_cons (hrest.childKey_eq hwf).symm (hrest.isChain hwf)

/-- Each hop's edge is the anchor registered on its own child table. -/
theorem AnchorWalk.anchor_at_child (hwf : snap.AnchorsLeaveOwnTable) :
    ∀ {table : String × String} {hops : List ResolvedHop}, AnchorWalk snap column table hops →
      ∀ h ∈ hops, snap.getAnchorEdge h.edge.childSchema h.edge.childTable column = some h.edge
  | _, [], _ => by simp
  | _, _ :: _, hw => by
      intro h' hh'
      rcases List.mem_cons.mp hh' with rfl | hh'
      · have hkey := hw.childKey_eq hwf
        subst hkey
        exact hw.1
      · exact hw.2.anchor_at_child hwf h' hh'

/-- The tables the hops leave are the tables the walk enters, but the last. -/
theorem AnchorWalk.map_childKey (hwf : snap.AnchorsLeaveOwnTable) :
    ∀ {table : String × String} {hops : List ResolvedHop}, AnchorWalk snap column table hops →
      hops.map (·.edge.childKey) = (walkTables table hops).dropLast
  | _, [], _ => rfl
  | _, _ :: _, hw => by
      rw [List.map_cons, hw.childKey_eq hwf, hw.2.map_childKey hwf]
      rfl

/-- When the target lacks the column, no table is entered twice: the last
one carries the column and every other lacks it. -/
theorem AnchorChain.walkTables_nodup {target : String × String} {chain : ColumnResolution}
    (hc : AnchorChain snap target column chain)
    (htarget : snap.tableHasColumn target.1 target.2 column = false) :
    (walkTables target chain.hops).Nodup := by
  obtain ⟨init, last, hhops⟩ := (List.eq_nil_or_concat' chain.hops).resolve_left hc.ne_nil
  have hvisited := hc.visited_nodup
  have hcarries := hc.carries_column
  have hlacks := hc.lacks_column
  rw [hhops, walkTables_append_singleton, List.dropLast_concat] at hvisited
  rw [hhops, walkEnd_append_singleton] at hcarries
  rw [hhops, List.dropLast_concat] at hlacks
  rw [hhops, walkTables_append_singleton, ← List.concat_eq_append]
  refine hvisited.concat fun hmem => ?_
  rcases List.mem_cons.mp hmem with heq | hmem
  · rw [heq] at hcarries
    exact absurd (htarget.symm.trans hcarries) Bool.false_ne_true
  · obtain ⟨h, hh, hkey⟩ := List.mem_map.mp hmem
    have hlack : snap.tableHasColumn h.edge.parentKey.1 h.edge.parentKey.2 column = false :=
      hlacks h hh
    rw [hkey] at hlack
    exact absurd (hlack.symm.trans hcarries) Bool.false_ne_true

end Chain

/-! ## `resolve_column` -/

/-- An alias anchor on the target answers at once; otherwise the loop runs
from a fresh walk. -/
theorem resolveColumn_cases (s t c : String) (snap : RelationshipSnapshot) (counter : Nat) :
    (∃ actual, snap.getAnchorShape s t c = some (.alias actual) ∧
        resolveColumn s t c snap counter = .ok (.alias actual, counter)) ∨
      WalkOutcome snap (s, t) c counter (resolveColumn s t c snap counter) := by
  unfold resolveColumn
  split
  · rename_i actual hshape
    exact .inl ⟨actual, hshape, rfl⟩
  · exact .inr (walkOutcome_resolveColumnLoop maxDepth (WalkInv.init counter) (Nat.zero_add _))

theorem resolveColumn_chain {s t c : String} {snap : RelationshipSnapshot} {counter n : Nat}
    {chain : ColumnResolution} (h : resolveColumn s t c snap counter = .ok (.hops chain, n)) :
    AnchorChain snap (s, t) c chain ∧ n = counter + chain.hops.length := by
  rcases resolveColumn_cases s t c snap counter with ⟨_, _, halias⟩ | hout
  · rw [halias] at h
    cases h
  · rw [h] at hout
    exact hout

/-- Anchor chains are well formed, over every snapshot; the first hop leaves
the target, and each hop the table the one before it entered, when each
relationship anchor names an edge out of its own table. -/
theorem resolveColumn_wellFormed (snap : RelationshipSnapshot) (s t c : String) (counter : Nat) :
    (∀ chain n, resolveColumn s t c snap counter = .ok (.hops chain, n) →
      AnchorChain snap (s, t) c chain ∧ n = counter + chain.hops.length ∧
        (snap.tableHasColumn s t c = false → (walkTables (s, t) chain.hops).Nodup) ∧
        (snap.AnchorsLeaveOwnTable →
          chain.hops.head?.map (·.edge.childKey) = some (s, t) ∧
          (∀ h ∈ chain.hops, snap.getAnchorEdge h.edge.childSchema h.edge.childTable c = some h.edge) ∧
          chain.hops.IsChain fun a b => a.edge.parentKey = b.edge.childKey)) ∧
    (∀ actual, (∃ n, resolveColumn s t c snap counter = .ok (.alias actual, n)) ↔
      snap.getAnchorShape s t c = some (.alias actual)) ∧
    ∀ e, resolveColumn s t c snap counter = .error e →
      (∃ table : String × String, e = .noColumnAnchor table.1 table.2 c) ∨
        e = .chainCycle s t c ∨ e = .depthLimitExceeded s t c := by
  refine ⟨fun chain n hres => ?_, fun actual => ⟨?_, ?_⟩, fun e hres => ?_⟩
  · obtain ⟨hc, hn⟩ := resolveColumn_chain hres
    refine ⟨hc, hn, hc.walkTables_nodup, fun hwf => ⟨?_, hc.anchored.anchor_at_child hwf,
      hc.anchored.isChain hwf⟩⟩
    have hw := hc.anchored
    cases hhops : chain.hops with
    | nil => exact absurd hhops hc.ne_nil
    | cons h hs =>
        rw [hhops] at hw
        rw [List.head?_cons, Option.map_some, hw.childKey_eq hwf]
  · rintro ⟨n, hres⟩
    rcases resolveColumn_cases s t c snap counter with ⟨actual', hshape, halias⟩ | hout
    · rw [halias] at hres
      cases hres
      exact hshape
    · rw [hres] at hout
      exact hout.elim
  · intro hshape
    refine ⟨counter, ?_⟩
    rw [resolveColumn, hshape]
  · rcases resolveColumn_cases s t c snap counter with ⟨_, _, halias⟩ | hout
    · rw [halias] at hres
      cases hres
    rw [hres] at hout
    exact hout

/-- A snapshot whose anchor for `orders.tenant_id` names the relationship
`customers.tenant_id → tenants.id`, an edge out of another table. -/
def strayAnchorSnapshot : RelationshipSnapshot where
  relationships := [(1, ⟨1, "public", "customers", "tenant_id", "public", "tenants", "id"⟩)]
  anchors := [(("public", "orders", "tenant_id"), .relationship 1)]
  columnsByTable :=
    [(("public", "orders"), ["id"]), (("public", "customers"), ["id", "tenant_id"]),
      (("public", "tenants"), ["id", "tenant_id"])]

/-- On `strayAnchorSnapshot` the chain for `orders.tenant_id` is one hop
whose edge starts at `customers`: the join it plans would compare
`orders.tenant_id`, a column `orders` lacks. -/
theorem strayAnchorChainRun :
    resolveColumn "public" "orders" "tenant_id" strayAnchorSnapshot 0 =
        .ok (.hops ⟨[⟨"__br_anchor_tenants_0",
          ⟨1, "public", "customers", "tenant_id", "public", "tenants", "id"⟩⟩],
          "__br_anchor_tenants_0"⟩, 1) ∧
      (RelationshipEdge.childKey ⟨1, "public", "customers", "tenant_id", "public", "tenants", "id"⟩)
        ≠ ("public", "orders") := by
  decide +kernel

end BetweenRows
