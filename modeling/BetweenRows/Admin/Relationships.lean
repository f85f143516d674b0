import BetweenRows.Admin.Dto
import BetweenRows.Resolution.Plan
import BetweenRows.Control.Except
import BetweenRows.Loop.Fold
import BetweenRows.Data.Assoc

/-!
# Relationships and column anchors (`relationship_handlers.rs`, `load_relationship_snapshot`)

An admin declares foreign-key edges between discovered tables
(`table_relationship`). For each child table and missing column, the admin
also declares the anchor that the row-filter rewriter walks
(`column_anchor`). An anchor is either an edge to a parent table or a column
of the table itself under another name. The catalog of discovered schemas,
tables and columns is fixed here: these handlers read it and never write it.

Every run of the four handlers keeps `AnchorStore.Inv` (`runAnchors_inv`):

* each anchor has exactly one shape;
* a relationship anchor's edge exists, in the anchor's datasource, and leaves
  the anchor's own child table. Create checks this, and `delete_relationship`
  refuses while any anchor uses the edge;
* there is one anchor per child table and column, because its id is the
  uuid of that triple;
* no edge joins a table to itself.

`load_relationship_snapshot` turns the rows into the rewriter's
`RelationshipSnapshot`. From an invariant store, the snapshot satisfies
`AnchorsLeaveOwnTable` (`loadRelationshipSnapshot_leaveOwnTable`), which is
what the chain results of `Resolution.Graph` assume.

Row ids are `Nat`s. The deterministic ids are `Uuid::new_v5` of a key text.
The hash is the parameter `uuidV5`, and nothing here assumes it is injective.
-/

namespace BetweenRows

/-! ## The rows -/

structure SchemaRow where
  id : Nat
  dataSourceId : Nat
  schemaName : String
  schemaAlias : Option String
  deriving DecidableEq, Repr

structure TableRow where
  id : Nat
  discoveredSchemaId : Nat
  tableName : String
  deriving DecidableEq, Repr

structure ColumnRow where
  discoveredTableId : Nat
  columnName : String
  deriving DecidableEq, Repr

/-- The `data_source` ids, and the discovered catalog of every datasource. -/
structure CatalogRows where
  dataSources : List Nat
  schemas : List SchemaRow
  tables : List TableRow
  columns : List ColumnRow
  deriving DecidableEq, Repr

/-- `table_relationship::Model` without its audit columns. -/
structure RelationshipRow where
  id : Nat
  dataSourceId : Nat
  childTableId : Nat
  childColumnName : String
  parentTableId : Nat
  parentColumnName : String
  deriving DecidableEq, Repr

/-- `column_anchor::Model` without its audit columns. -/
structure AnchorRow where
  id : Nat
  dataSourceId : Nat
  childTableId : Nat
  resolvedColumnName : String
  relationshipId : Option Nat
  actualColumnName : Option String
  deriving DecidableEq, Repr

structure AnchorStore where
  relationships : List RelationshipRow
  anchors : List AnchorRow
  deriving DecidableEq, Repr

def AnchorStore.empty : AnchorStore := ⟨[], []⟩

structure CreateTableRelationshipRequest where
  childTableId : Nat
  childColumnName : String
  parentTableId : Nat
  parentColumnName : String
  deriving DecidableEq, Repr

structure CreateColumnAnchorRequest where
  childTableId : Nat
  resolvedColumnName : String
  relationshipId : Option Nat
  actualColumnName : Option String
  deriving DecidableEq, Repr

/-! ## The handlers -/

section Handlers

variable (uuidV5 : String → Nat) (catalog : CatalogRows)

/-- `table_relationship_uuid` -/
def tableRelationshipUuid (ds childTable : Nat) (childColumn : String) (parentTable : Nat)
    (parentColumn : String) : Nat :=
  uuidV5 ("rel:" ++ toString ds ++ ":" ++ toString childTable ++ ":" ++ childColumn ++ ":" ++
    toString parentTable ++ ":" ++ parentColumn)

/-- `column_anchor_uuid` -/
def columnAnchorUuid (ds childTable : Nat) (resolvedColumn : String) : Nat :=
  uuidV5 ("anchor:" ++ toString ds ++ ":" ++ toString childTable ++ ":" ++ resolvedColumn)

/-- The lookup of the datasource that each handler starts with. -/
def requireDataSource (ds : Nat) : Except ApiErr Unit :=
  if ds ∈ catalog.dataSources then .ok () else .error (.notFound "Data source not found")

/-- `load_table_in_datasource` -/
def loadTableInDatasource (ds tableId : Nat) : Except ApiErr (TableRow × SchemaRow) := do
  let table ← Except.require (catalog.tables.find? (·.id = tableId)) (.notFound "Table not found")
  let schema ← Except.require (catalog.schemas.find? (·.id = table.discoveredSchemaId))
    (.internal "Schema row missing for discovered_table")
  if schema.dataSourceId ≠ ds then throw (.notFound "Table not found in this datasource")
  pure (table, schema)

/-- `require_column`: the exact spelling that discovery stored. -/
def requireColumn (tableId : Nat) (columnName : String) : Except ApiErr Unit :=
  if catalog.columns.any fun c => c.discoveredTableId = tableId ∧ c.columnName = columnName then .ok ()
  else .error (.unprocessable ("Column '" ++ columnName ++ "' not found on the selected table " ++
    "(column names are case-sensitive and must match exactly what discovery stored — " ++
    "check for quoted-identifier casing)"))

/-- `create_relationship`: a tuple whose id is taken leaves the store as it is
(the idempotent path). -/
def createRelationship (store : AnchorStore) (ds : Nat) (body : CreateTableRelationshipRequest) :
    Except ApiErr AnchorStore := do
  requireDataSource catalog ds
  if body.childTableId = body.parentTableId then
    throw (.unprocessable "child_table and parent_table must differ")
  let _ ← loadTableInDatasource catalog ds body.childTableId
  let _ ← loadTableInDatasource catalog ds body.parentTableId
  requireColumn catalog body.childTableId body.childColumnName
  requireColumn catalog body.parentTableId body.parentColumnName
  let id := tableRelationshipUuid uuidV5 ds body.childTableId body.childColumnName
    body.parentTableId body.parentColumnName
  if store.relationships.any (·.id = id) then pure store
  else
    pure { store with
      relationships := store.relationships ++ [⟨id, ds, body.childTableId, body.childColumnName,
        body.parentTableId, body.parentColumnName⟩] }

/-- `delete_relationship`: refused while any anchor uses the edge. -/
def deleteRelationship (store : AnchorStore) (ds relId : Nat) : Except ApiErr AnchorStore := do
  requireDataSource catalog ds
  let _ ← Except.require (store.relationships.find? fun r => r.id = relId ∧ r.dataSourceId = ds)
    (.notFound "Relationship not found")
  let referencing := store.anchors.filter (·.relationshipId = some relId)
  if !referencing.isEmpty then
    throw (.conflict ("This relationship is used by " ++ toString referencing.length ++
      " column anchor(s); remove the anchors first."))
  pure { store with relationships := store.relationships.filter (·.id ≠ relId) }

/-- `actual_column_name` trimmed, and `None` when nothing is left. -/
def trimmedActual (actual : Option String) : Option String :=
  (actual.map fun s => String.ofList (rustTrim s.toList)).filter (!·.isEmpty)

/-- The XOR of `create_column_anchor`: exactly one of `relationship_id` and
`actual_column_name` (the FK walk and the same-table alias). -/
def checkAnchorShape (relationshipId : Option Nat) (actual : Option String) : Except ApiErr Unit :=
  match relationshipId, actual with
  | some _, some _ =>
      .error (.unprocessable "Provide exactly one of 'relationship_id' or 'actual_column_name', not both")
  | none, none =>
      .error (.unprocessable ("Provide exactly one of 'relationship_id' (FK walk) or " ++
        "'actual_column_name' (same-table alias)"))
  | _, _ => .ok ()

/-- The relationship check of `create_column_anchor`; an alias has none. -/
def checkAnchorRelationship (store : AnchorStore) (ds : Nat) (body : CreateColumnAnchorRequest) :
    Except ApiErr Unit :=
  match body.relationshipId with
  | some relId => do
      let rel ← Except.require (store.relationships.find? (·.id = relId))
        (.notFound "Relationship not found")
      if rel.dataSourceId ≠ ds then
        throw (.notFound "Relationship does not belong to this datasource")
      if rel.childTableId ≠ body.childTableId then
        throw (.unprocessable "relationship.child_table_id does not match anchor.child_table_id")
  | none => .ok ()

/-- `create_column_anchor`. The insert's unique index on the datasource, table
and column never fires: a row with that triple has the id checked before. -/
def createColumnAnchor (store : AnchorStore) (ds : Nat) (body : CreateColumnAnchorRequest) :
    Except ApiErr AnchorStore := do
  requireDataSource catalog ds
  if (rustTrim body.resolvedColumnName.toList).isEmpty then
    throw (.unprocessable "resolved_column_name must be non-empty")
  let actual := trimmedActual body.actualColumnName
  checkAnchorShape body.relationshipId actual
  let _ ← loadTableInDatasource catalog ds body.childTableId
  checkAnchorRelationship store ds body
  let id := columnAnchorUuid uuidV5 ds body.childTableId body.resolvedColumnName
  if store.anchors.any (·.id = id) then
    throw (.conflict ("An anchor for column '" ++ body.resolvedColumnName ++
      "' on this table already exists."))
  pure { store with
    anchors := store.anchors ++ [⟨id, ds, body.childTableId, body.resolvedColumnName,
      body.relationshipId, actual⟩] }

/-- `delete_column_anchor` -/
def deleteColumnAnchor (store : AnchorStore) (ds anchorId : Nat) : Except ApiErr AnchorStore := do
  requireDataSource catalog ds
  let _ ← Except.require (store.anchors.find? fun a => a.id = anchorId ∧ a.dataSourceId = ds)
    (.notFound "Column anchor not found")
  pure { store with anchors := store.anchors.filter (·.id ≠ anchorId) }

inductive AnchorRequest where
  | createRelationship (ds : Nat) (body : CreateTableRelationshipRequest)
  | deleteRelationship (ds relId : Nat)
  | createColumnAnchor (ds : Nat) (body : CreateColumnAnchorRequest)
  | deleteColumnAnchor (ds anchorId : Nat)
  deriving DecidableEq, Repr

/-- Serve one request; a rejected one rolls back. -/
def AnchorRequest.apply (store : AnchorStore) : AnchorRequest → Except ApiErr AnchorStore
  | .createRelationship ds body => BetweenRows.createRelationship uuidV5 catalog store ds body
  | .deleteRelationship ds relId => BetweenRows.deleteRelationship catalog store ds relId
  | .createColumnAnchor ds body => BetweenRows.createColumnAnchor uuidV5 catalog store ds body
  | .deleteColumnAnchor ds anchorId => BetweenRows.deleteColumnAnchor catalog store ds anchorId

def stepAnchors (store : AnchorStore) (r : AnchorRequest) : AnchorStore :=
  match r.apply uuidV5 catalog store with
  | .ok store' => store'
  | .error _ => store

def runAnchors (store : AnchorStore) (reqs : List AnchorRequest) : AnchorStore :=
  reqs.foldl (stepAnchors uuidV5 catalog) store

end Handlers

/-! ## What an accepted request does -/

/-- A table of the datasource's discovered catalog. -/
def TableOfDatasource (catalog : CatalogRows) (ds tableId : Nat) : Prop :=
  ∃ t ∈ catalog.tables, t.id = tableId ∧
    ∃ s ∈ catalog.schemas, s.id = t.discoveredSchemaId ∧ s.dataSourceId = ds

section Inversion

variable {uuidV5 : String → Nat} {catalog : CatalogRows} {store store' : AnchorStore} {ds : Nat}

theorem mem_of_find?_id {α : Type} {p : α → Prop} [DecidablePred p] {l : List α} {a : α}
    (h : l.find? (fun x => decide (p x)) = some a) : a ∈ l ∧ p a :=
  ⟨List.mem_of_find?_eq_some h, by simpa using List.find?_some h⟩

theorem loadTableInDatasource_eq_ok {tableId : Nat} {p : TableRow × SchemaRow}
    (h : loadTableInDatasource catalog ds tableId = .ok p) : TableOfDatasource catalog ds tableId := by
  unfold loadTableInDatasource at h
  simp only [Except.bind_eq_ok, Except.require_eq_ok, Except.ite_throw_bind_eq_ok] at h
  obtain ⟨t, ht, s, hs, hds, -⟩ := h
  obtain ⟨htmem, hid⟩ := mem_of_find?_id ht
  obtain ⟨hsmem, hsid⟩ := mem_of_find?_id hs
  exact ⟨t, htmem, hid, s, hsmem, hsid, not_not.mp hds⟩

theorem ne_empty_of_trimmedActual {actual : Option String} {x : String}
    (h : trimmedActual actual = some x) : x ≠ "" := by
  obtain ⟨-, hx⟩ := Option.filter_eq_some_iff.mp h
  simpa using hx

theorem checkAnchorShape_eq_ok {relationshipId : Option Nat} {actual : Option String} {u : Unit}
    (h : checkAnchorShape relationshipId actual = .ok u) : relationshipId.isSome ≠ actual.isSome := by
  cases relationshipId <;> cases actual
  · cases h
  · simp
  · simp
  · cases h

theorem checkAnchorRelationship_eq_ok {body : CreateColumnAnchorRequest} {u : Unit}
    (h : checkAnchorRelationship store ds body = .ok u) {relId : Nat}
    (hrel : body.relationshipId = some relId) :
    ∃ r ∈ store.relationships, r.id = relId ∧ r.dataSourceId = ds ∧ r.childTableId = body.childTableId := by
  unfold checkAnchorRelationship at h
  simp only [hrel, Except.bind_eq_ok, Except.require_eq_ok, Except.ite_throw_bind_eq_ok] at h
  obtain ⟨r, hfind, hds, h⟩ := h
  obtain ⟨hmem, hid⟩ := mem_of_find?_id hfind
  have hchild : r.childTableId = body.childTableId := by
    by_contra hne
    rw [if_pos hne] at h
    cases h
  exact ⟨r, hmem, hid, not_not.mp hds, hchild⟩

/-- An accepted relationship create joins two tables of the datasource, which
differ; a tuple whose uuid is taken leaves the store as it is, and any other
is appended under its uuid. -/
theorem createRelationship_eq_ok {body : CreateTableRelationshipRequest}
    (h : createRelationship uuidV5 catalog store ds body = .ok store') :
    body.childTableId ≠ body.parentTableId ∧ TableOfDatasource catalog ds body.childTableId ∧
      TableOfDatasource catalog ds body.parentTableId ∧
      (store' = store ∨
        (∀ r ∈ store.relationships, r.id ≠ tableRelationshipUuid uuidV5 ds body.childTableId
          body.childColumnName body.parentTableId body.parentColumnName) ∧
        store' = { store with
          relationships := store.relationships ++ [⟨tableRelationshipUuid uuidV5 ds body.childTableId
            body.childColumnName body.parentTableId body.parentColumnName, ds, body.childTableId,
            body.childColumnName, body.parentTableId, body.parentColumnName⟩] }) := by
  unfold createRelationship at h
  simp only [Except.bind_eq_ok, Except.ite_throw_bind_eq_ok] at h
  obtain ⟨_, -, hne, _, hchild, _, hparent, _, -, _, -, h⟩ := h
  refine ⟨hne, loadTableInDatasource_eq_ok hchild, loadTableInDatasource_eq_ok hparent, ?_⟩
  split at h
  · exact .inl (Except.pure_eq_ok.mp h).symm
  · rename_i hfresh
    exact .inr ⟨by simpa using hfresh, (Except.pure_eq_ok.mp h).symm⟩

/-- An accepted relationship delete found no anchor on the edge. -/
theorem deleteRelationship_eq_ok {relId : Nat} (h : deleteRelationship catalog store ds relId = .ok store') :
    (∀ a ∈ store.anchors, a.relationshipId ≠ some relId) ∧
      store' = { store with relationships := store.relationships.filter (·.id ≠ relId) } := by
  unfold deleteRelationship at h
  simp only [Except.bind_eq_ok, Except.ite_throw_bind_eq_ok] at h
  obtain ⟨_, -, _, -, hunused, h⟩ := h
  refine ⟨?_, (Except.pure_eq_ok.mp h).symm⟩
  simpa using hunused

/-- An accepted anchor create appends one row under the uuid of its triple, on
a table of the datasource: its shape is one of the two, an alias is not
blank, its relationship leaves its own child table in its datasource, and no
anchor had its id. -/
theorem createColumnAnchor_eq_ok {body : CreateColumnAnchorRequest}
    (h : createColumnAnchor uuidV5 catalog store ds body = .ok store') :
    body.relationshipId.isSome ≠ (trimmedActual body.actualColumnName).isSome ∧
      TableOfDatasource catalog ds body.childTableId ∧
      (∀ relId, body.relationshipId = some relId → ∃ r ∈ store.relationships,
        r.id = relId ∧ r.dataSourceId = ds ∧ r.childTableId = body.childTableId) ∧
      (∀ a ∈ store.anchors, a.id ≠ columnAnchorUuid uuidV5 ds body.childTableId body.resolvedColumnName) ∧
      store' = { store with
        anchors := store.anchors ++ [⟨columnAnchorUuid uuidV5 ds body.childTableId body.resolvedColumnName,
          ds, body.childTableId, body.resolvedColumnName, body.relationshipId,
          trimmedActual body.actualColumnName⟩] } := by
  unfold createColumnAnchor at h
  simp only [Except.bind_eq_ok, Except.ite_throw_bind_eq_ok] at h
  obtain ⟨_, -, -, _, hshape, _, htable, _, hrel, hfresh, h⟩ := h
  refine ⟨checkAnchorShape_eq_ok hshape, loadTableInDatasource_eq_ok htable,
    fun _ => checkAnchorRelationship_eq_ok hrel, ?_, (Except.pure_eq_ok.mp h).symm⟩
  simpa using hfresh

theorem deleteColumnAnchor_eq_ok {anchorId : Nat}
    (h : deleteColumnAnchor catalog store ds anchorId = .ok store') :
    store' = { store with anchors := store.anchors.filter (·.id ≠ anchorId) } := by
  unfold deleteColumnAnchor at h
  simp only [Except.bind_eq_ok] at h
  obtain ⟨_, -, _, -, h⟩ := h
  exact (Except.pure_eq_ok.mp h).symm

end Inversion

/-! ## The store invariant -/

/-- What every run of the handlers keeps, over a fixed catalog. -/
structure AnchorStore.Inv (uuidV5 : String → Nat) (catalog : CatalogRows) (store : AnchorStore) :
    Prop where
  relationship_ids_nodup : (store.relationships.map (·.id)).Nodup
  relationship_ends : ∀ r ∈ store.relationships, r.childTableId ≠ r.parentTableId
  relationship_tables : ∀ r ∈ store.relationships, TableOfDatasource catalog r.dataSourceId r.childTableId ∧
    TableOfDatasource catalog r.dataSourceId r.parentTableId
  anchor_ids_nodup : (store.anchors.map (·.id)).Nodup
  anchor_id : ∀ a ∈ store.anchors,
    a.id = columnAnchorUuid uuidV5 a.dataSourceId a.childTableId a.resolvedColumnName
  anchor_table : ∀ a ∈ store.anchors, TableOfDatasource catalog a.dataSourceId a.childTableId
  anchor_shape : ∀ a ∈ store.anchors, a.relationshipId.isSome ≠ a.actualColumnName.isSome
  anchor_actual : ∀ a ∈ store.anchors, ∀ x, a.actualColumnName = some x → x ≠ ""
  anchor_relationship : ∀ a ∈ store.anchors, ∀ relId, a.relationshipId = some relId →
    ∃ r ∈ store.relationships, r.id = relId ∧ r.dataSourceId = a.dataSourceId ∧
      r.childTableId = a.childTableId

section Invariant

variable {uuidV5 : String → Nat} {catalog : CatalogRows} {store : AnchorStore}

theorem anchorInv_empty : AnchorStore.empty.Inv uuidV5 catalog where
  relationship_ids_nodup := List.nodup_nil
  relationship_ends := by simp [AnchorStore.empty]
  relationship_tables := by simp [AnchorStore.empty]
  anchor_ids_nodup := List.nodup_nil
  anchor_id := by simp [AnchorStore.empty]
  anchor_table := by simp [AnchorStore.empty]
  anchor_shape := by simp [AnchorStore.empty]
  anchor_actual := by simp [AnchorStore.empty]
  anchor_relationship := by simp [AnchorStore.empty]

theorem nodup_map_append_singleton {α β : Type} {f : α → β} {l : List α} {x : α}
    (hl : (l.map f).Nodup) (hx : ∀ y ∈ l, f y ≠ f x) : ((l ++ [x]).map f).Nodup := by
  rw [List.map_append, List.map_singleton, ← List.concat_eq_append]
  refine hl.concat fun hmem => ?_
  obtain ⟨y, hy, hfy⟩ := List.mem_map.mp hmem
  exact hx y hy hfy

theorem anchorInv_appendRelationship (hi : store.Inv uuidV5 catalog) {row : RelationshipRow}
    (hfresh : ∀ r ∈ store.relationships, r.id ≠ row.id) (hends : row.childTableId ≠ row.parentTableId)
    (htables : TableOfDatasource catalog row.dataSourceId row.childTableId ∧
      TableOfDatasource catalog row.dataSourceId row.parentTableId) :
    AnchorStore.Inv uuidV5 catalog { store with relationships := store.relationships ++ [row] } where
  relationship_ids_nodup := nodup_map_append_singleton hi.relationship_ids_nodup hfresh
  relationship_ends := by
    intro r hr
    rcases List.mem_append.mp hr with hr | hr
    · exact hi.relationship_ends r hr
    · rw [List.mem_singleton.mp hr]
      exact hends
  relationship_tables := by
    intro r hr
    rcases List.mem_append.mp hr with hr | hr
    · exact hi.relationship_tables r hr
    · rw [List.mem_singleton.mp hr]
      exact htables
  anchor_ids_nodup := hi.anchor_ids_nodup
  anchor_id := hi.anchor_id
  anchor_table := hi.anchor_table
  anchor_shape := hi.anchor_shape
  anchor_actual := hi.anchor_actual
  anchor_relationship := by
    intro a ha relId hrel
    obtain ⟨r, hr, hrest⟩ := hi.anchor_relationship a ha relId hrel
    exact ⟨r, List.mem_append_left _ hr, hrest⟩

/-- Removing an edge that no anchor uses keeps every anchor's edge. -/
theorem anchorInv_filterRelationships (hi : store.Inv uuidV5 catalog) {relId : Nat}
    (hunused : ∀ a ∈ store.anchors, a.relationshipId ≠ some relId) :
    AnchorStore.Inv uuidV5 catalog
      { store with relationships := store.relationships.filter (·.id ≠ relId) } where
  relationship_ids_nodup := (List.filter_sublist.map _).nodup hi.relationship_ids_nodup
  relationship_ends r hr := hi.relationship_ends r (List.mem_of_mem_filter hr)
  relationship_tables r hr := hi.relationship_tables r (List.mem_of_mem_filter hr)
  anchor_ids_nodup := hi.anchor_ids_nodup
  anchor_id := hi.anchor_id
  anchor_table := hi.anchor_table
  anchor_shape := hi.anchor_shape
  anchor_actual := hi.anchor_actual
  anchor_relationship := by
    intro a ha rid hrel
    obtain ⟨r, hr, hid, hrest⟩ := hi.anchor_relationship a ha rid hrel
    have hne : r.id ≠ relId := by
      rintro rfl
      exact hunused a ha (hid ▸ hrel)
    exact ⟨r, List.mem_filter.mpr ⟨hr, by simpa using hne⟩, hid, hrest⟩

theorem anchorInv_appendAnchor (hi : store.Inv uuidV5 catalog) {row : AnchorRow}
    (hid : row.id = columnAnchorUuid uuidV5 row.dataSourceId row.childTableId row.resolvedColumnName)
    (hfresh : ∀ a ∈ store.anchors, a.id ≠ row.id)
    (htable : TableOfDatasource catalog row.dataSourceId row.childTableId)
    (hshape : row.relationshipId.isSome ≠ row.actualColumnName.isSome)
    (hactual : ∀ x, row.actualColumnName = some x → x ≠ "")
    (hrel : ∀ relId, row.relationshipId = some relId → ∃ r ∈ store.relationships,
      r.id = relId ∧ r.dataSourceId = row.dataSourceId ∧ r.childTableId = row.childTableId) :
    AnchorStore.Inv uuidV5 catalog { store with anchors := store.anchors ++ [row] } where
  relationship_ids_nodup := hi.relationship_ids_nodup
  relationship_ends := hi.relationship_ends
  relationship_tables := hi.relationship_tables
  anchor_ids_nodup := nodup_map_append_singleton hi.anchor_ids_nodup hfresh
  anchor_id a ha := by
    rcases List.mem_append.mp ha with ha | ha
    · exact hi.anchor_id a ha
    · rw [List.mem_singleton.mp ha]
      exact hid
  anchor_table a ha := by
    rcases List.mem_append.mp ha with ha | ha
    · exact hi.anchor_table a ha
    · rw [List.mem_singleton.mp ha]
      exact htable
  anchor_shape a ha := by
    rcases List.mem_append.mp ha with ha | ha
    · exact hi.anchor_shape a ha
    · rw [List.mem_singleton.mp ha]
      exact hshape
  anchor_actual a ha := by
    rcases List.mem_append.mp ha with ha | ha
    · exact hi.anchor_actual a ha
    · rw [List.mem_singleton.mp ha]
      exact hactual
  anchor_relationship a ha := by
    rcases List.mem_append.mp ha with ha | ha
    · exact hi.anchor_relationship a ha
    · rw [List.mem_singleton.mp ha]
      exact hrel

theorem anchorInv_filterAnchors (hi : store.Inv uuidV5 catalog) (p : AnchorRow → Bool) :
    AnchorStore.Inv uuidV5 catalog { store with anchors := store.anchors.filter p } where
  relationship_ids_nodup := hi.relationship_ids_nodup
  relationship_ends := hi.relationship_ends
  relationship_tables := hi.relationship_tables
  anchor_ids_nodup := (List.filter_sublist.map _).nodup hi.anchor_ids_nodup
  anchor_id a ha := hi.anchor_id a (List.mem_of_mem_filter ha)
  anchor_table a ha := hi.anchor_table a (List.mem_of_mem_filter ha)
  anchor_shape a ha := hi.anchor_shape a (List.mem_of_mem_filter ha)
  anchor_actual a ha := hi.anchor_actual a (List.mem_of_mem_filter ha)
  anchor_relationship a ha := hi.anchor_relationship a (List.mem_of_mem_filter ha)

/-- Every accepted request keeps the invariant. -/
theorem AnchorRequest.apply_inv (hi : store.Inv uuidV5 catalog) {r : AnchorRequest} {store' : AnchorStore}
    (h : r.apply uuidV5 catalog store = .ok store') : store'.Inv uuidV5 catalog := by
  cases r with
  | createRelationship ds body =>
      obtain ⟨hends, hchild, hparent, rfl | ⟨hfresh, rfl⟩⟩ := createRelationship_eq_ok h
      · exact hi
      · exact anchorInv_appendRelationship hi (fun r hr => hfresh r hr) hends ⟨hchild, hparent⟩
  | deleteRelationship ds relId =>
      obtain ⟨hunused, rfl⟩ := deleteRelationship_eq_ok h
      exact anchorInv_filterRelationships hi hunused
  | createColumnAnchor ds body =>
      obtain ⟨hshape, htable, hrel, hfresh, rfl⟩ := createColumnAnchor_eq_ok h
      exact anchorInv_appendAnchor hi rfl hfresh htable hshape
        (fun _ => ne_empty_of_trimmedActual) hrel
  | deleteColumnAnchor ds anchorId =>
      rw [deleteColumnAnchor_eq_ok h]
      exact anchorInv_filterAnchors hi _

theorem stepAnchors_inv (hi : store.Inv uuidV5 catalog) (r : AnchorRequest) :
    (stepAnchors uuidV5 catalog store r).Inv uuidV5 catalog := by
  unfold stepAnchors
  split
  · rename_i h
    exact AnchorRequest.apply_inv hi h
  · exact hi

theorem runAnchors_inv (uuidV5 : String → Nat) (catalog : CatalogRows) (reqs : List AnchorRequest) :
    (runAnchors uuidV5 catalog .empty reqs).Inv uuidV5 catalog := by
  unfold runAnchors
  exact Fold.foldl_inv (P := AnchorStore.Inv uuidV5 catalog) (fun _ r hi => stepAnchors_inv hi r) reqs _
    anchorInv_empty

/-- Two anchors on one table and column are one anchor: their ids are the
uuid of the triple. -/
theorem AnchorStore.Inv.anchor_keys_nodup (hi : store.Inv uuidV5 catalog) :
    (store.anchors.map fun a => (a.dataSourceId, a.childTableId, a.resolvedColumnName)).Nodup := by
  have hids : store.anchors.map (·.id) =
      (store.anchors.map fun a => (a.dataSourceId, a.childTableId, a.resolvedColumnName)).map
        fun k => columnAnchorUuid uuidV5 k.1 k.2.1 k.2.2 := by
    rw [List.map_map]
    exact List.map_congr_left hi.anchor_id
  exact List.Nodup.of_map _ (hids ▸ hi.anchor_ids_nodup)

end Invariant

/-! ## The session's snapshot (`load_relationship_snapshot`) -/

/-- `schema_id_to_df_alias`: the datasource's schemas under their DataFusion
names. Each map of this loader is read last row first, as a later `insert`
replaces an earlier one. -/
def schemaDfAliases (catalog : CatalogRows) (ds : Nat) : List (Nat × String) :=
  ((catalog.schemas.filter (·.dataSourceId = ds)).map fun s =>
    (s.id, s.schemaAlias.getD s.schemaName)).reverse

/-- `table_id_to_key`: each table of those schemas under its
`(df_schema, table)` key. -/
def tableKeys (catalog : CatalogRows) (aliases : List (Nat × String)) :
    List (Nat × (String × String)) :=
  (catalog.tables.filterMap fun t =>
    (aliases.lookup t.discoveredSchemaId).map fun a => (t.id, (a, t.tableName))).reverse

/-- `columns_by_table.entry(key).or_default().insert(column)` -/
def addColumn (m : List ((String × String) × List String)) (key : String × String) (column : String) :
    List ((String × String) × List String) :=
  if (m.lookup key).isSome then m.map fun e => if e.1 = key then (e.1, e.2 ++ [column]) else e
  else m ++ [(key, [column])]

/-- `columns_by_table`: the columns of the tables that have a key. -/
def columnsByTable (keys : List (Nat × (String × String))) (columns : List ColumnRow) :
    List ((String × String) × List String) :=
  columns.foldl (fun m c =>
    match keys.lookup c.discoveredTableId with
    | some key => addColumn m key c.columnName
    | none => m) []

/-- One pass of the relationship loop: the edge, when both its tables have
keys. -/
def relationshipEdge (keys : List (Nat × (String × String))) (r : RelationshipRow) :
    Option (Nat × RelationshipEdge) := do
  let child ← keys.lookup r.childTableId
  let parent ← keys.lookup r.parentTableId
  pure (r.id, ⟨r.id, child.1, child.2, r.childColumnName, parent.1, parent.2, r.parentColumnName⟩)

def snapshotRelationships (keys : List (Nat × (String × String))) (ds : Nat)
    (rows : List RelationshipRow) : List (Nat × RelationshipEdge) :=
  ((rows.filter (·.dataSourceId = ds)).filterMap (relationshipEdge keys)).reverse

/-- An anchor row's shape: exactly one of its two columns is set, and its
relationship, if any, is in the snapshot. Any other row is skipped. -/
def anchorRowShape (rels : List (Nat × RelationshipEdge)) (a : AnchorRow) : Option AnchorShape :=
  match a.relationshipId, a.actualColumnName with
  | some relId, none => if (rels.lookup relId).isSome then some (.relationship relId) else none
  | none, some actual => some (.alias actual)
  | _, _ => none

/-- One pass of the anchor loop: the anchor, when its table has a key and its
row a shape. -/
def anchorEntry (keys : List (Nat × (String × String))) (rels : List (Nat × RelationshipEdge))
    (a : AnchorRow) : Option ((String × String × String) × AnchorShape) := do
  let key ← keys.lookup a.childTableId
  let shape ← anchorRowShape rels a
  pure ((key.1, key.2, a.resolvedColumnName), shape)

def snapshotAnchors (keys : List (Nat × (String × String))) (rels : List (Nat × RelationshipEdge))
    (ds : Nat) (rows : List AnchorRow) : List ((String × String × String) × AnchorShape) :=
  ((rows.filter (·.dataSourceId = ds)).filterMap (anchorEntry keys rels)).reverse

/-- `load_relationship_snapshot`: a datasource without schemas gets the empty
snapshot. -/
def loadRelationshipSnapshot (catalog : CatalogRows) (store : AnchorStore) (ds : Nat) :
    RelationshipSnapshot :=
  if (schemaDfAliases catalog ds).isEmpty then ⟨[], [], []⟩
  else
    let keys := tableKeys catalog (schemaDfAliases catalog ds)
    let rels := snapshotRelationships keys ds store.relationships
    ⟨rels, snapshotAnchors keys rels ds store.anchors, columnsByTable keys catalog.columns⟩

/-! ## The snapshot of an invariant store -/

theorem RelationshipSnapshot.getAnchorEdge_eq_some {snap : RelationshipSnapshot} {s t c : String}
    {e : RelationshipEdge} (h : snap.getAnchorEdge s t c = some e) :
    ∃ relId, snap.getAnchorShape s t c = some (.relationship relId) ∧
      snap.relationships.lookup relId = some e := by
  unfold RelationshipSnapshot.getAnchorEdge at h
  cases hshape : snap.getAnchorShape s t c with
  | none => simp [hshape] at h
  | some shape =>
      rw [hshape] at h
      cases shape with
      | relationship relId => exact ⟨relId, rfl, h⟩
      | «alias» _ => cases h

section Snapshot

variable {keys : List (Nat × (String × String))} {rels : List (Nat × RelationshipEdge)} {ds : Nat}

theorem relationshipEdge_eq_some {r : RelationshipRow} {relId : Nat} {e : RelationshipEdge}
    (h : relationshipEdge keys r = some (relId, e)) :
    r.id = relId ∧ keys.lookup r.childTableId = some e.childKey ∧
      keys.lookup r.parentTableId = some e.parentKey := by
  simp only [relationshipEdge, Option.bind_eq_bind, Option.bind_eq_some_iff, Option.pure_def,
    Option.some.injEq, Prod.mk.injEq] at h
  obtain ⟨child, hchild, parent, hparent, hid, rfl⟩ := h
  exact ⟨hid, hchild, hparent⟩

theorem anchorEntry_eq_some {a : AnchorRow} {key : String × String × String} {shape : AnchorShape}
    (h : anchorEntry keys rels a = some (key, shape)) :
    keys.lookup a.childTableId = some (key.1, key.2.1) ∧ a.resolvedColumnName = key.2.2 ∧
      anchorRowShape rels a = some shape := by
  simp only [anchorEntry, Option.bind_eq_bind, Option.bind_eq_some_iff, Option.pure_def,
    Option.some.injEq, Prod.mk.injEq] at h
  obtain ⟨k, hk, shape', hshape, rfl, rfl⟩ := h
  exact ⟨hk, rfl, hshape⟩

theorem relationshipId_of_anchorRowShape {a : AnchorRow} {relId : Nat}
    (h : anchorRowShape rels a = some (.relationship relId)) : a.relationshipId = some relId := by
  unfold anchorRowShape at h
  split at h
  · rename_i rid _ hrid _
    split at h
    · cases h
      exact hrid
    · cases h
  · cases h
  · cases h

/-- The snapshot's edge under an id is the one pass of a stored row of the
datasource made. -/
theorem mem_of_lookup_snapshotRelationships {rows : List RelationshipRow} {relId : Nat}
    {e : RelationshipEdge} (h : (snapshotRelationships keys ds rows).lookup relId = some e) :
    ∃ r ∈ rows, r.dataSourceId = ds ∧ relationshipEdge keys r = some (relId, e) := by
  obtain ⟨r, hr, hedge⟩ := List.mem_filterMap.mp (List.mem_reverse.mp (mem_of_lookup_eq_some h))
  obtain ⟨hr, hds⟩ := List.mem_filter.mp hr
  exact ⟨r, hr, by simpa using hds, hedge⟩

theorem mem_of_lookup_snapshotAnchors {rows : List AnchorRow} {key : String × String × String}
    {shape : AnchorShape} (h : (snapshotAnchors keys rels ds rows).lookup key = some shape) :
    ∃ a ∈ rows, a.dataSourceId = ds ∧ anchorEntry keys rels a = some (key, shape) := by
  obtain ⟨a, ha, hentry⟩ := List.mem_filterMap.mp (List.mem_reverse.mp (mem_of_lookup_eq_some h))
  obtain ⟨ha, hds⟩ := List.mem_filter.mp ha
  exact ⟨a, ha, by simpa using hds, hentry⟩

/-- A stored edge of the datasource whose tables have keys is what the
snapshot answers for its id: no other row has that id. -/
theorem lookup_snapshotRelationships {rows : List RelationshipRow} (hnodup : (rows.map (·.id)).Nodup)
    {r : RelationshipRow} (hr : r ∈ rows) (hds : r.dataSourceId = ds) {e : RelationshipEdge}
    (hedge : relationshipEdge keys r = some (r.id, e)) :
    (snapshotRelationships keys ds rows).lookup r.id = some e := by
  have hmem : (r.id, e) ∈ snapshotRelationships keys ds rows :=
    List.mem_reverse.mpr (List.mem_filterMap.mpr ⟨r, List.mem_filter.mpr ⟨hr, by simpa using hds⟩, hedge⟩)
  obtain ⟨e', he'⟩ := Option.isSome_iff_exists.mp (Assoc.lookup_isSome_of_mem hmem)
  obtain ⟨r', hr', -, hedge'⟩ := mem_of_lookup_snapshotRelationships he'
  have hsame : r' = r :=
    List.inj_on_of_nodup_map hnodup hr' hr (relationshipEdge_eq_some hedge').1
  rw [hsame, hedge] at hedge'
  rw [he', (Prod.mk.inj (Option.some.inj hedge')).2]

theorem relationshipEdge_isSome {r : RelationshipRow} (hchild : (keys.lookup r.childTableId).isSome)
    (hparent : (keys.lookup r.parentTableId).isSome) : ∃ e, relationshipEdge keys r = some (r.id, e) := by
  obtain ⟨child, hc⟩ := Option.isSome_iff_exists.mp hchild
  obtain ⟨parent, hp⟩ := Option.isSome_iff_exists.mp hparent
  exact ⟨⟨r.id, child.1, child.2, r.childColumnName, parent.1, parent.2, r.parentColumnName⟩,
    by simp [relationshipEdge, hc, hp]⟩

theorem anchorRowShape_isSome {a : AnchorRow}
    (hshape : a.relationshipId.isSome ≠ a.actualColumnName.isSome)
    (hrel : ∀ relId, a.relationshipId = some relId → (rels.lookup relId).isSome) :
    (anchorRowShape rels a).isSome := by
  unfold anchorRowShape
  cases hr : a.relationshipId <;> cases ha : a.actualColumnName
  · simp [hr, ha] at hshape
  · rfl
  · simp [hrel _ hr]
  · simp [hr, ha] at hshape

end Snapshot

section Catalog

variable {catalog : CatalogRows} {ds tableId : Nat}

theorem tableKeys_lookup_isSome (h : TableOfDatasource catalog ds tableId) :
    ((tableKeys catalog (schemaDfAliases catalog ds)).lookup tableId).isSome := by
  obtain ⟨t, ht, rfl, s, hs, hsid, hds⟩ := h
  have hschema : ((schemaDfAliases catalog ds).lookup t.discoveredSchemaId).isSome := by
    rw [← hsid]
    refine Assoc.lookup_isSome_of_mem (p := (s.id, s.schemaAlias.getD s.schemaName)) ?_
    simp only [schemaDfAliases, List.mem_reverse, List.mem_map, List.mem_filter]
    exact ⟨s, ⟨hs, by simpa using hds⟩, rfl⟩
  obtain ⟨name, hname⟩ := Option.isSome_iff_exists.mp hschema
  refine Assoc.lookup_isSome_of_mem (p := (t.id, (name, t.tableName))) ?_
  simp only [tableKeys, List.mem_reverse, List.mem_filterMap]
  exact ⟨t, ht, by simp [hname]⟩

theorem schemaDfAliases_isEmpty (h : TableOfDatasource catalog ds tableId) :
    (schemaDfAliases catalog ds).isEmpty = false := by
  obtain ⟨t, -, -, s, hs, -, hds⟩ := h
  refine List.isEmpty_eq_false_iff_exists_mem.mpr ⟨(s.id, s.schemaAlias.getD s.schemaName), ?_⟩
  simp only [schemaDfAliases, List.mem_reverse, List.mem_map, List.mem_filter]
  exact ⟨s, ⟨hs, by simpa using hds⟩, rfl⟩

end Catalog

/-- From an invariant store, every relationship anchor of the snapshot names
an edge out of its own table: the anchor's relationship has the anchor's
child table, and ids name one relationship. -/
theorem loadRelationshipSnapshot_leaveOwnTable {uuidV5 : String → Nat} {catalog : CatalogRows}
    {store : AnchorStore} (hi : store.Inv uuidV5 catalog) (ds : Nat) :
    (loadRelationshipSnapshot catalog store ds).AnchorsLeaveOwnTable := by
  intro s t c e he
  obtain ⟨relId, hshape, hedge⟩ := RelationshipSnapshot.getAnchorEdge_eq_some he
  unfold loadRelationshipSnapshot at hshape hedge
  split at hshape
  · simp [RelationshipSnapshot.getAnchorShape] at hshape
  · rw [if_neg (by assumption)] at hedge
    obtain ⟨a, ha, -, hentry⟩ := mem_of_lookup_snapshotAnchors hshape
    obtain ⟨hkey, -, hrow⟩ := anchorEntry_eq_some hentry
    obtain ⟨r, hr, hrid, -, hchild⟩ :=
      hi.anchor_relationship a ha relId (relationshipId_of_anchorRowShape hrow)
    obtain ⟨r', hr', -, hedge'⟩ := mem_of_lookup_snapshotRelationships hedge
    obtain ⟨hr'id, hkey', -⟩ := relationshipEdge_eq_some hedge'
    have hsame : r' = r :=
      List.inj_on_of_nodup_map hi.relationship_ids_nodup hr' hr (hr'id.trans hrid.symm)
    rw [hsame, hchild, hkey] at hkey'
    exact (Option.some.inj hkey').symm

section Loaded

variable {uuidV5 : String → Nat} {catalog : CatalogRows} {store : AnchorStore} {ds : Nat}

theorem loadRelationshipSnapshot_of_table {tableId : Nat} (h : TableOfDatasource catalog ds tableId) :
    loadRelationshipSnapshot catalog store ds =
      ⟨snapshotRelationships (tableKeys catalog (schemaDfAliases catalog ds)) ds store.relationships,
        snapshotAnchors (tableKeys catalog (schemaDfAliases catalog ds))
          (snapshotRelationships (tableKeys catalog (schemaDfAliases catalog ds)) ds store.relationships)
          ds store.anchors,
        columnsByTable (tableKeys catalog (schemaDfAliases catalog ds)) catalog.columns⟩ := by
  rw [loadRelationshipSnapshot, if_neg (by simp [schemaDfAliases_isEmpty h])]

/-- A stored edge of the datasource keeps its pass: both its tables have keys. -/
theorem lookup_snapshotRelationships_of_mem (hi : store.Inv uuidV5 catalog) {r : RelationshipRow}
    (hr : r ∈ store.relationships) (hds : r.dataSourceId = ds) :
    ∃ e, relationshipEdge (tableKeys catalog (schemaDfAliases catalog ds)) r = some (r.id, e) ∧
      (snapshotRelationships (tableKeys catalog (schemaDfAliases catalog ds)) ds
        store.relationships).lookup r.id = some e := by
  obtain ⟨hchild, hparent⟩ := hi.relationship_tables r hr
  rw [hds] at hchild hparent
  obtain ⟨e, he⟩ :=
    relationshipEdge_isSome (tableKeys_lookup_isSome hchild) (tableKeys_lookup_isSome hparent)
  exact ⟨e, he, lookup_snapshotRelationships hi.relationship_ids_nodup hr hds he⟩

theorem lookup_loadRelationshipSnapshot (hi : store.Inv uuidV5 catalog) {r : RelationshipRow}
    (hr : r ∈ store.relationships) (hds : r.dataSourceId = ds) :
    ∃ e, relationshipEdge (tableKeys catalog (schemaDfAliases catalog ds)) r = some (r.id, e) ∧
      (loadRelationshipSnapshot catalog store ds).relationships.lookup r.id = some e := by
  have htable := (hi.relationship_tables r hr).1
  rw [hds] at htable
  rw [loadRelationshipSnapshot_of_table htable]
  exact lookup_snapshotRelationships_of_mem hi hr hds

/-- A stored anchor of the datasource keeps its pass: its table has a key, and
its one shape, if a relationship, names a stored edge of the datasource. -/
theorem getAnchorShape_loadRelationshipSnapshot (hi : store.Inv uuidV5 catalog) {a : AnchorRow}
    (ha : a ∈ store.anchors) (hds : a.dataSourceId = ds) :
    ∃ key, (tableKeys catalog (schemaDfAliases catalog ds)).lookup a.childTableId = some key ∧
      ((loadRelationshipSnapshot catalog store ds).getAnchorShape key.1 key.2
        a.resolvedColumnName).isSome := by
  have htable := hi.anchor_table a ha
  rw [hds] at htable
  obtain ⟨key, hkey⟩ := Option.isSome_iff_exists.mp (tableKeys_lookup_isSome htable)
  have hshape : (anchorRowShape (snapshotRelationships (tableKeys catalog (schemaDfAliases catalog ds))
      ds store.relationships) a).isSome := by
    refine anchorRowShape_isSome (hi.anchor_shape a ha) fun relId hrel => ?_
    obtain ⟨r, hr, rfl, hrds, -⟩ := hi.anchor_relationship a ha relId hrel
    obtain ⟨e, -, he⟩ := lookup_snapshotRelationships_of_mem hi hr (hrds.trans hds)
    simp [he]
  obtain ⟨shape, hshape⟩ := Option.isSome_iff_exists.mp hshape
  refine ⟨key, hkey, ?_⟩
  rw [loadRelationshipSnapshot_of_table htable]
  refine Assoc.lookup_isSome_of_mem (p := ((key.1, key.2, a.resolvedColumnName), shape)) ?_
  refine List.mem_reverse.mpr (List.mem_filterMap.mpr ⟨a, List.mem_filter.mpr ⟨ha, by simpa using hds⟩, ?_⟩)
  simp [anchorEntry, hkey, hshape]

end Loaded

/-! ## Every store the handlers build -/

/-- Whatever the requests: no two relationships share an id and none joins a
table to itself; there is one anchor per datasource, table and column, so the
insert's unique index never fires; each anchor has exactly one shape, an
alias is never blank, and a relationship anchor's edge is stored, in the
anchor's datasource, out of the anchor's own table, so the foreign key's
`ON DELETE RESTRICT` never fires either. -/
theorem storedAnchors_consistent (uuidV5 : String → Nat) (catalog : CatalogRows)
    (reqs : List AnchorRequest) :
    ((runAnchors uuidV5 catalog .empty reqs).relationships.map (·.id)).Nodup ∧
      (∀ r ∈ (runAnchors uuidV5 catalog .empty reqs).relationships, r.childTableId ≠ r.parentTableId) ∧
      ((runAnchors uuidV5 catalog .empty reqs).anchors.map fun a =>
        (a.dataSourceId, a.childTableId, a.resolvedColumnName)).Nodup ∧
      ∀ a ∈ (runAnchors uuidV5 catalog .empty reqs).anchors,
        a.relationshipId.isSome ≠ a.actualColumnName.isSome ∧
        (∀ x, a.actualColumnName = some x → x ≠ "") ∧
        ∀ relId, a.relationshipId = some relId →
          ∃ r ∈ (runAnchors uuidV5 catalog .empty reqs).relationships,
            r.id = relId ∧ r.dataSourceId = a.dataSourceId ∧ r.childTableId = a.childTableId := by
  have hi := runAnchors_inv uuidV5 catalog reqs
  exact ⟨hi.relationship_ids_nodup, hi.relationship_ends, hi.anchor_keys_nodup,
    fun a ha => ⟨hi.anchor_shape a ha, hi.anchor_actual a ha, hi.anchor_relationship a ha⟩⟩

/-- The session loader never drops what the handlers stored: each stored edge
of the datasource is the snapshot's edge under its id, and each stored anchor
of the datasource is answered at its table's key and its column. -/
theorem snapshot_keeps_stored (uuidV5 : String → Nat) (catalog : CatalogRows)
    (reqs : List AnchorRequest) (ds : Nat) :
    (∀ r ∈ (runAnchors uuidV5 catalog .empty reqs).relationships, r.dataSourceId = ds →
      ∃ e, relationshipEdge (tableKeys catalog (schemaDfAliases catalog ds)) r = some (r.id, e) ∧
        (loadRelationshipSnapshot catalog (runAnchors uuidV5 catalog .empty reqs) ds).relationships.lookup
          r.id = some e) ∧
    ∀ a ∈ (runAnchors uuidV5 catalog .empty reqs).anchors, a.dataSourceId = ds →
      ∃ key, (tableKeys catalog (schemaDfAliases catalog ds)).lookup a.childTableId = some key ∧
        ((loadRelationshipSnapshot catalog (runAnchors uuidV5 catalog .empty reqs) ds).getAnchorShape
          key.1 key.2 a.resolvedColumnName).isSome := by
  have hi := runAnchors_inv uuidV5 catalog reqs
  exact ⟨fun r hr hds => lookup_loadRelationshipSnapshot hi hr hds,
    fun a ha hds => getAnchorShape_loadRelationshipSnapshot hi ha hds⟩

/-- On the snapshot of any store the handlers built, every relationship anchor
names an edge out of its own table; so every chain `resolve_column` answers
there starts at the target, and each hop leaves the table the one before it
entered. -/
theorem snapshotChains_wellFormed (uuidV5 : String → Nat) (catalog : CatalogRows)
    (reqs : List AnchorRequest) (ds : Nat) :
    (loadRelationshipSnapshot catalog (runAnchors uuidV5 catalog .empty reqs) ds).AnchorsLeaveOwnTable ∧
      ∀ s t c counter chain n,
        resolveColumn s t c (loadRelationshipSnapshot catalog (runAnchors uuidV5 catalog .empty reqs) ds)
          counter = .ok (.hops chain, n) →
        chain.hops.head?.map (·.edge.childKey) = some (s, t) ∧
          chain.hops.IsChain fun a b => a.edge.parentKey = b.edge.childKey := by
  have hwf := loadRelationshipSnapshot_leaveOwnTable (runAnchors_inv uuidV5 catalog reqs) ds
  refine ⟨hwf, fun s t c counter chain n hres => ?_⟩
  obtain ⟨hc, -⟩ := resolveColumn_chain hres
  refine ⟨?_, hc.anchored.isChain hwf⟩
  obtain ⟨h, hs, hhops⟩ := List.exists_cons_of_ne_nil hc.ne_nil
  have hw := hc.anchored
  rw [hhops] at hw ⊢
  rw [List.head?_cons, Option.map_some, hw.childKey_eq hwf]

end BetweenRows
