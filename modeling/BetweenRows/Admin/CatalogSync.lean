import Mathlib.Data.List.Sort
import BetweenRows.Engine.ArrowType
import BetweenRows.Engine.Visibility
import BetweenRows.Loop.Fold

/-!
# Catalog sync (`DiscoveryRequest::SyncCatalog`)

The stored catalog of a datasource holds its schemas, their tables and the
tables' columns, each with an `is_selected` flag. On connect the engine
loads the selected tables of the selected schemas, and `build_arrow_schema`
keeps the selected columns whose stored Arrow type it reads back: those
(schema, table, column) triples are what the proxy exposes
(`exposedColumns`).

A sync compares the selected part of the catalog with the live upstream.
Added and removed schemas and tables only go into the drift report. The
columns of each selected table that is still live are reconciled with the
upstream's: a column whose type changed takes the live type and keeps its
selection, and a column the catalog lacks is inserted with
`is_selected: Set(true)`.

So a sync exposes, beyond what was exposed, only columns the upstream
reports with a readable type (`exposedColumns_syncCatalog`), and it exposes
every new column of a selected table that has one
(`newColumn_exposed_syncCatalog`; both in `syncCatalog_exposure`, and a run
in `catalogSyncRun`).
-/

namespace BetweenRows

open DataFusion (DataType)

/-- `discovered_column::Model`, without its ids and timestamp. Within a
table a column's id is `catalog_column_uuid(table.id, column_name)`, so the
name is its key. -/
structure DiscoveredColumn where
  columnName : String
  ordinalPosition : Int
  dataType : String
  isNullable : Bool
  columnDefault : Option String
  arrowType : Option String
  isSelected : Bool
  deriving DecidableEq, Repr

/-- `discovered_table::Model` with its columns. -/
structure DiscoveredTable where
  tableName : String
  isSelected : Bool
  columns : List DiscoveredColumn
  deriving DecidableEq, Repr

/-- `discovered_schema::Model` with its tables. -/
structure DiscoveredSchema where
  schemaName : String
  isSelected : Bool
  tables : List DiscoveredTable
  deriving DecidableEq, Repr

/-! ## What the proxy exposes -/

/-- An Arrow `Field`. -/
structure ArrowField where
  name : String
  dataType : DataType
  nullable : Bool
  deriving DecidableEq, Repr

/-- `build_arrow_schema`: the selected columns whose Arrow type reads back,
ordered by ordinal position with a stable sort. -/
def buildArrowSchema (columns : List DiscoveredColumn) : List ArrowField :=
  let sorted := (columns.filterMap fun col =>
      if !col.isSelected then none
      else (col.arrowType.bind parseArrowType).map fun dataType =>
        (col.ordinalPosition, ArrowField.mk col.columnName dataType col.isNullable)).insertionSort
    (fun a b => a.1 ≤ b.1)
  sorted.map (·.2)

/-- The table the catalog loader builds from a selected table. -/
def DiscoveredTable.toVirtual (table : DiscoveredTable) : VirtualCatalogTable :=
  ⟨table.tableName, (buildArrowSchema table.columns).map (·.name)⟩

/-- The (schema, table, column) triples the proxy exposes: the fields of the
selected tables of the selected schemas. -/
def exposedColumns (catalog : List DiscoveredSchema) : List (String × String × String) :=
  (catalog.filter (·.isSelected)).flatMap fun schema =>
    (schema.tables.filter (·.isSelected)).flatMap fun table =>
      table.toVirtual.columns.map fun column => (schema.schemaName, table.tableName, column)

/-- A column `build_arrow_schema` keeps. -/
def DiscoveredColumn.readable (col : DiscoveredColumn) : Bool :=
  col.isSelected && (col.arrowType.bind parseArrowType).isSome

theorem mem_buildArrowSchema_names {columns : List DiscoveredColumn} {n : String} :
    n ∈ (buildArrowSchema columns).map (·.name) ↔
      ∃ col ∈ columns, col.readable ∧ col.columnName = n := by
  simp only [buildArrowSchema, List.map_map, List.mem_map,
    (List.perm_insertionSort _ _).mem_iff, List.mem_filterMap]
  constructor
  · rintro ⟨p, ⟨col, hcol, hp⟩, rfl⟩
    refine ⟨col, hcol, ?_⟩
    cases hsel : col.isSelected <;> simp only [hsel, Bool.not_false, Bool.not_true] at hp
    · simp at hp
    · obtain ⟨dt, hdt, rfl⟩ := Option.map_eq_some_iff.mp hp
      simp [DiscoveredColumn.readable, hsel, hdt]
  · rintro ⟨col, hcol, hread, rfl⟩
    simp only [DiscoveredColumn.readable, Bool.and_eq_true, Option.isSome_iff_exists] at hread
    obtain ⟨hsel, dt, hdt⟩ := hread
    exact ⟨(col.ordinalPosition, ⟨col.columnName, dt, col.isNullable⟩),
      ⟨col, hcol, by simp [hsel, hdt]⟩, rfl⟩

theorem mem_exposedColumns {catalog : List DiscoveredSchema} {s t n : String} :
    (s, t, n) ∈ exposedColumns catalog ↔
      ∃ schema ∈ catalog, schema.isSelected ∧ schema.schemaName = s ∧
        ∃ table ∈ schema.tables, table.isSelected ∧ table.tableName = t ∧
          ∃ col ∈ table.columns, col.readable ∧ col.columnName = n := by
  simp only [exposedColumns, DiscoveredTable.toVirtual, List.mem_flatMap, List.mem_filter,
    List.mem_map, Prod.mk.injEq, ← mem_buildArrowSchema_names]
  constructor
  · rintro ⟨schema, ⟨hs, hsel⟩, table, ⟨ht, htsel⟩, n', hn, rfl, rfl, rfl⟩
    exact ⟨schema, hs, hsel, rfl, table, ht, htsel, rfl, hn⟩
  · rintro ⟨schema, hs, hsel, rfl, table, ht, htsel, rfl, hn⟩
    exact ⟨schema, ⟨hs, hsel⟩, table, ⟨ht, htsel⟩, n, hn, rfl, rfl, rfl⟩

/-! ## The sync -/

/-- `discovery::DiscoveredColumn`: a column as the upstream reports it. -/
structure LiveColumn where
  schemaName : String
  tableName : String
  columnName : String
  ordinalPosition : Int
  dataType : String
  isNullable : Bool
  columnDefault : Option String
  arrowType : Option String
  deriving DecidableEq, Repr

/-- The live upstream, as the provider's discovery calls report it. -/
structure UpstreamCatalog where
  schemas : List String
  tables : List (String × String)
  columns : List LiveColumn
  deriving DecidableEq, Repr

/-- `discover_tables(schemas)`: the live tables of those schemas. -/
def UpstreamCatalog.discoverTables (upstream : UpstreamCatalog) (schemas : List String) :
    List (String × String) :=
  upstream.tables.filter fun t => t.1 ∈ schemas

/-- `discover_columns(tables)`: the live columns of those tables. -/
def UpstreamCatalog.discoverColumns (upstream : UpstreamCatalog)
    (tables : List (String × String)) : List LiveColumn :=
  upstream.columns.filter fun c => (c.schemaName, c.tableName) ∈ tables

/-- The row the new-column branch inserts: the live column, selected. -/
def LiveColumn.newColumn (liveCol : LiveColumn) : DiscoveredColumn where
  columnName := liveCol.columnName
  ordinalPosition := liveCol.ordinalPosition
  dataType := liveCol.dataType
  isNullable := liveCol.isNullable
  columnDefault := liveCol.columnDefault
  arrowType := liveCol.arrowType
  isSelected := true

/-- The update of a column whose type changed upstream: the live
`data_type`, `is_nullable` and `arrow_type`, and the stored selection. -/
def DiscoveredColumn.retype (col : DiscoveredColumn) (liveCol : LiveColumn) : DiscoveredColumn :=
  { col with
    dataType := liveCol.dataType
    isNullable := liveCol.isNullable
    arrowType := liveCol.arrowType }

/-- One pass of the loop over a selected table's live columns. A name is
looked up among the columns read before the loop (`existing_col_map`); the
update and the insert write to the current ones. The state is the table's
columns and the `changed_columns` entries so far. -/
def syncLiveColumn (schemaName tableName : String) (existingCols : List DiscoveredColumn)
    (acc : List DiscoveredColumn × List String) (liveCol : LiveColumn) :
    List DiscoveredColumn × List String :=
  match existingCols.find? (·.columnName == liveCol.columnName) with
  | some existing =>
      if existing.dataType != liveCol.dataType || existing.isNullable != liveCol.isNullable ||
          existing.arrowType != liveCol.arrowType then
        (acc.1.map fun col => if col.columnName == liveCol.columnName then col.retype liveCol else col,
          acc.2 ++ [schemaName ++ "." ++ tableName ++ "." ++ liveCol.columnName])
      else acc
  | none =>
      (acc.1 ++ [liveCol.newColumn],
        acc.2 ++ [schemaName ++ "." ++ tableName ++ "." ++ liveCol.columnName ++ " (new)"])

/-- The loop over the live columns of one selected table. -/
def syncTableColumns (schemaName : String) (liveColumns : List LiveColumn)
    (table : DiscoveredTable) : List DiscoveredColumn × List String :=
  (liveColumns.filter fun c => c.schemaName == schemaName && c.tableName == table.tableName).foldl
    (syncLiveColumn schemaName table.tableName table.columns) (table.columns, [])

def syncTable (schemaName : String) (liveColumns : List LiveColumn) (table : DiscoveredTable) :
    DiscoveredTable × List String :=
  if table.isSelected then
    let synced := syncTableColumns schemaName liveColumns table
    ({ table with columns := synced.1 }, synced.2)
  else (table, [])

def syncSchema (liveColumns : List LiveColumn) (schema : DiscoveredSchema) :
    DiscoveredSchema × List String :=
  if schema.isSelected then
    let synced := schema.tables.map (syncTable schema.schemaName liveColumns)
    ({ schema with tables := synced.map (·.1) }, synced.flatMap (·.2))
  else (schema, [])

/-- The selected tables of the selected schemas, as (schema, table). -/
def selectedTables (catalog : List DiscoveredSchema) : List (String × String) :=
  (catalog.filter (·.isSelected)).flatMap fun schema =>
    (schema.tables.filter (·.isSelected)).map fun table => (schema.schemaName, table.tableName)

/-- `selected_table_pairs`: the selected tables the upstream still has. -/
def selectedTablePairs (catalog : List DiscoveredSchema) (upstream : UpstreamCatalog) :
    List (String × String) :=
  let liveTables := upstream.discoverTables ((catalog.filter (·.isSelected)).map (·.schemaName))
  (selectedTables catalog).filter (· ∈ liveTables)

/-- `live_columns`: the upstream is asked only when a selected table is
still live. -/
def syncLiveColumns (catalog : List DiscoveredSchema) (upstream : UpstreamCatalog) :
    List LiveColumn :=
  let pairs := selectedTablePairs catalog upstream
  if pairs.isEmpty then [] else upstream.discoverColumns pairs

/-- The drift report, `last_sync_result`. -/
structure DriftReport where
  addedSchemas : List String
  removedSchemas : List String
  addedTables : List String
  removedTables : List String
  changedColumns : List String
  hasBreakingChanges : Bool
  deriving DecidableEq, Repr

/-- `SyncCatalog`: the stored catalog after the sync, and the drift report.
The live schema names are a `HashSet`, here a list without repeats. -/
def syncCatalog (catalog : List DiscoveredSchema) (upstream : UpstreamCatalog) :
    List DiscoveredSchema × DriftReport :=
  let selectedSchemaNames := (catalog.filter (·.isSelected)).map (·.schemaName)
  let liveSchemaNames := upstream.schemas.dedup
  let liveTables := upstream.discoverTables selectedSchemaNames
  let removedSchemas := selectedSchemaNames.filter (· ∉ liveSchemaNames)
  let removedTables :=
    ((selectedTables catalog).filter (· ∉ liveTables)).map fun k => k.1 ++ "." ++ k.2
  let pairs := selectedTablePairs catalog upstream
  let addedTables := (liveTables.filter (· ∉ pairs)).map fun k => k.1 ++ "." ++ k.2
  let addedSchemas := liveSchemaNames.filter (· ∉ selectedSchemaNames)
  let synced := catalog.map (syncSchema (syncLiveColumns catalog upstream))
  (synced.map (·.1),
    { addedSchemas, removedSchemas, addedTables, removedTables
      changedColumns := synced.flatMap (·.2)
      hasBreakingChanges := !removedSchemas.isEmpty || !removedTables.isEmpty })

/-! ## The columns of one selected table -/

section TableColumns

variable {schemaName tableName : String} {liveColumns : List LiveColumn} {table : DiscoveredTable}

theorem find?_columnName_eq_some {cols : List DiscoveredColumn} {n : String}
    {col : DiscoveredColumn} (h : cols.find? (·.columnName == n) = some col) :
    col ∈ cols ∧ col.columnName = n :=
  ⟨List.mem_of_find?_eq_some h, by simpa using List.find?_some h⟩

/-- One pass keeps every column whose name no stored column has: the update
only rewrites a column under the name of the stored column it found. -/
theorem syncLiveColumn_keeps_new {existingCols : List DiscoveredColumn}
    {acc : List DiscoveredColumn × List String} {liveCol : LiveColumn} {col : DiscoveredColumn}
    (hnew : ∀ c ∈ existingCols, c.columnName ≠ col.columnName) (hcol : col ∈ acc.1) :
    col ∈ (syncLiveColumn schemaName tableName existingCols acc liveCol).1 := by
  unfold syncLiveColumn
  split
  · rename_i existing hfind
    obtain ⟨hexisting, hname⟩ := find?_columnName_eq_some hfind
    split
    · have hne : col.columnName ≠ liveCol.columnName := fun h =>
        hnew existing hexisting (hname.trans h.symm)
      refine List.mem_map.mpr ⟨col, hcol, ?_⟩
      simp [hne]
    · exact hcol
  · exact List.mem_append_left _ hcol

/-- One pass keeps the invariant of the loop: each column is a stored one,
or has the name and the Arrow type of a live column the loop visits. -/
theorem syncLiveColumn_from {existingCols : List DiscoveredColumn} {live : List LiveColumn}
    {acc : List DiscoveredColumn × List String} {liveCol : LiveColumn} (hlive : liveCol ∈ live)
    (hacc : ∀ col ∈ acc.1, col ∈ existingCols ∨
      ∃ l ∈ live, l.columnName = col.columnName ∧ l.arrowType = col.arrowType) :
    ∀ col ∈ (syncLiveColumn schemaName tableName existingCols acc liveCol).1,
      col ∈ existingCols ∨ ∃ l ∈ live, l.columnName = col.columnName ∧ l.arrowType = col.arrowType := by
  intro col hcol
  unfold syncLiveColumn at hcol
  split at hcol
  · split at hcol
    · obtain ⟨y, hy, rfl⟩ := List.mem_map.mp hcol
      by_cases hname : y.columnName = liveCol.columnName
      · -- the retyped column carries the live column's name and type
        simp only [hname, beq_self_eq_true, if_true]
        exact .inr ⟨liveCol, hlive, hname.symm, rfl⟩
      · simpa [hname] using hacc y hy
    · exact hacc col hcol
  · rcases List.mem_append.mp hcol with h | h
    · exact hacc col h
    · obtain rfl := List.mem_singleton.mp h
      exact .inr ⟨liveCol, hlive, rfl, rfl⟩

/-- After the loop each column of the table is a stored one, or has the name
and the Arrow type of a live column of the table. -/
theorem syncTableColumns_from {col : DiscoveredColumn}
    (h : col ∈ (syncTableColumns schemaName liveColumns table).1) :
    col ∈ table.columns ∨ ∃ liveCol ∈ liveColumns, liveCol.schemaName = schemaName ∧
      liveCol.tableName = table.tableName ∧ liveCol.columnName = col.columnName ∧
      liveCol.arrowType = col.arrowType := by
  let visited := liveColumns.filter fun c => c.schemaName == schemaName && c.tableName == table.tableName
  have hrun := Fold.foldl_inv_of_mem
    (P := fun acc : List DiscoveredColumn × List String => ∀ col ∈ acc.1, col ∈ table.columns ∨
      ∃ l ∈ visited, l.columnName = col.columnName ∧ l.arrowType = col.arrowType)
    visited (table.columns, []) (fun _ _ hl hacc => syncLiveColumn_from hl hacc)
    (fun col h => .inl h) col h
  rcases hrun with hstored | ⟨liveCol, hvisited, hname, harrow⟩
  · exact .inl hstored
  · obtain ⟨hmem, hkey⟩ := List.mem_filter.mp hvisited
    simp only [Bool.and_eq_true, beq_iff_eq] at hkey
    exact .inr ⟨liveCol, hmem, hkey.1, hkey.2, hname, harrow⟩

/-- A live column of the table that no stored column names is in the table
after the loop, inserted selected. -/
theorem newColumn_mem_syncTableColumns {liveCol : LiveColumn} (hmem : liveCol ∈ liveColumns)
    (hs : liveCol.schemaName = schemaName) (ht : liveCol.tableName = table.tableName)
    (hnew : ∀ col ∈ table.columns, col.columnName ≠ liveCol.columnName) :
    liveCol.newColumn ∈ (syncTableColumns schemaName liveColumns table).1 := by
  have hvisited : liveCol ∈ liveColumns.filter
      (fun c => c.schemaName == schemaName && c.tableName == table.tableName) := by
    simp [hmem, hs, ht]
  obtain ⟨before, after, hsplit⟩ := List.append_of_mem hvisited
  have hfind : table.columns.find? (·.columnName == liveCol.columnName) = none :=
    List.find?_eq_none.mpr fun c hc => by simpa using hnew c hc
  unfold syncTableColumns
  rw [hsplit, List.foldl_append, List.foldl_cons]
  -- the pass at the live column inserts it; the later passes keep it
  refine Fold.foldl_inv (P := fun acc : List DiscoveredColumn × List String => liveCol.newColumn ∈ acc.1)
    (fun _ _ h => syncLiveColumn_keeps_new hnew h) after _ ?_
  simp only [syncLiveColumn, hfind]
  exact List.mem_append_right _ (List.mem_singleton_self _)

@[simp] theorem syncTable_fst_tableName :
    (syncTable schemaName liveColumns table).1.tableName = table.tableName := by
  unfold syncTable
  split <;> rfl

@[simp] theorem syncTable_fst_isSelected :
    (syncTable schemaName liveColumns table).1.isSelected = table.isSelected := by
  unfold syncTable
  split <;> rfl

theorem syncTable_fst_columns (h : table.isSelected) :
    (syncTable schemaName liveColumns table).1.columns =
      (syncTableColumns schemaName liveColumns table).1 := by
  simp [syncTable, h]

end TableColumns

section Schema

variable {liveColumns : List LiveColumn} {schema : DiscoveredSchema}

@[simp] theorem syncSchema_fst_schemaName :
    (syncSchema liveColumns schema).1.schemaName = schema.schemaName := by
  unfold syncSchema
  split <;> rfl

@[simp] theorem syncSchema_fst_isSelected :
    (syncSchema liveColumns schema).1.isSelected = schema.isSelected := by
  unfold syncSchema
  split <;> rfl

theorem syncSchema_fst_tables (h : schema.isSelected) :
    (syncSchema liveColumns schema).1.tables =
      schema.tables.map fun table => (syncTable schema.schemaName liveColumns table).1 := by
  simp [syncSchema, h]

end Schema

/-! ## The whole sync -/

section Catalog

variable {catalog : List DiscoveredSchema} {upstream : UpstreamCatalog}

theorem syncCatalog_fst :
    (syncCatalog catalog upstream).1 =
      catalog.map fun schema => (syncSchema (syncLiveColumns catalog upstream) schema).1 := by
  simp [syncCatalog]

theorem mem_selectedTablePairs {schema : DiscoveredSchema} {table : DiscoveredTable}
    (hschema : schema ∈ catalog) (hsel : schema.isSelected) (htable : table ∈ schema.tables)
    (htsel : table.isSelected) (hlive : (schema.schemaName, table.tableName) ∈ upstream.tables) :
    (schema.schemaName, table.tableName) ∈ selectedTablePairs catalog upstream := by
  simp only [selectedTablePairs, selectedTables, UpstreamCatalog.discoverTables, List.mem_filter,
    List.mem_flatMap, List.mem_map, decide_eq_true_eq]
  refine ⟨⟨schema, ⟨hschema, hsel⟩, table, ⟨htable, htsel⟩, rfl⟩, ?_⟩
  exact decide_eq_true (List.mem_filter.mpr ⟨hlive,
    decide_eq_true (List.mem_map.mpr ⟨schema, List.mem_filter.mpr ⟨hschema, hsel⟩, rfl⟩)⟩)

theorem mem_of_mem_syncLiveColumns {liveCol : LiveColumn}
    (h : liveCol ∈ syncLiveColumns catalog upstream) : liveCol ∈ upstream.columns := by
  dsimp only [syncLiveColumns] at h
  split at h
  · cases h
  · exact (List.mem_filter.mp h).1

theorem mem_syncLiveColumns {liveCol : LiveColumn} (hmem : liveCol ∈ upstream.columns)
    (hpair : (liveCol.schemaName, liveCol.tableName) ∈ selectedTablePairs catalog upstream) :
    liveCol ∈ syncLiveColumns catalog upstream := by
  dsimp only [syncLiveColumns]
  split
  · rename_i hempty
    simp [List.isEmpty_iff.mp hempty] at hpair
  · exact List.mem_filter.mpr ⟨hmem, by simpa using hpair⟩

/-- A sync exposes, beyond what was exposed, only columns the upstream
reports with a readable Arrow type: new columns, and stored ones whose type
changed. -/
theorem exposedColumns_syncCatalog :
    ∀ x ∈ exposedColumns (syncCatalog catalog upstream).1, x ∈ exposedColumns catalog ∨
      ∃ liveCol ∈ upstream.columns,
        (liveCol.schemaName, liveCol.tableName, liveCol.columnName) = x ∧
        (liveCol.arrowType.bind parseArrowType).isSome := by
  rintro ⟨s, t, n⟩ hx
  rw [syncCatalog_fst, mem_exposedColumns] at hx
  obtain ⟨schema', hschema', hsel', rfl, table', htable', htsel', rfl, col, hcol, hread, rfl⟩ := hx
  obtain ⟨schema, hschema, rfl⟩ := List.mem_map.mp hschema'
  have hsel : schema.isSelected := by simpa using hsel'
  rw [syncSchema_fst_tables hsel] at htable'
  obtain ⟨table, htable, rfl⟩ := List.mem_map.mp htable'
  have htsel : table.isSelected := by simpa using htsel'
  rw [syncTable_fst_columns htsel] at hcol
  simp only [syncSchema_fst_schemaName, syncTable_fst_tableName]
  rcases syncTableColumns_from hcol with hstored | ⟨liveCol, hlive, hs, ht, hn, harrow⟩
  · exact .inl (mem_exposedColumns.mpr
      ⟨schema, hschema, hsel, rfl, table, htable, htsel, rfl, col, hstored, hread, rfl⟩)
  · refine .inr ⟨liveCol, mem_of_mem_syncLiveColumns hlive, by rw [hs, ht, hn], ?_⟩
    rw [harrow]
    exact ((Bool.and_eq_true _ _).mp hread).2

/-- Every live column of a selected, still live table that the catalog
lacks is exposed after the sync, if its Arrow type reads back. -/
theorem newColumn_exposed_syncCatalog {schema : DiscoveredSchema} {table : DiscoveredTable}
    {liveCol : LiveColumn} (hschema : schema ∈ catalog) (hsel : schema.isSelected)
    (htable : table ∈ schema.tables) (htsel : table.isSelected)
    (hlive : (schema.schemaName, table.tableName) ∈ upstream.tables)
    (hcol : liveCol ∈ upstream.columns) (hs : liveCol.schemaName = schema.schemaName)
    (ht : liveCol.tableName = table.tableName)
    (hnew : ∀ col ∈ table.columns, col.columnName ≠ liveCol.columnName)
    (hty : (liveCol.arrowType.bind parseArrowType).isSome) :
    (schema.schemaName, table.tableName, liveCol.columnName) ∈
      exposedColumns (syncCatalog catalog upstream).1 := by
  have hpair : (liveCol.schemaName, liveCol.tableName) ∈ selectedTablePairs catalog upstream := by
    rw [hs, ht]
    exact mem_selectedTablePairs hschema hsel htable htsel hlive
  rw [syncCatalog_fst, mem_exposedColumns]
  refine ⟨_, List.mem_map_of_mem hschema, by simpa using hsel, by simp,
    (syncTable schema.schemaName (syncLiveColumns catalog upstream) table).1, ?_,
    by simpa using htsel, by simp, liveCol.newColumn, ?_, ?_, rfl⟩
  · rw [syncSchema_fst_tables hsel]
    exact List.mem_map_of_mem htable
  · rw [syncTable_fst_columns htsel]
    exact newColumn_mem_syncTableColumns (mem_syncLiveColumns hcol hpair) hs ht hnew
  · simpa [DiscoveredColumn.readable, LiveColumn.newColumn] using hty

end Catalog

/-- What a sync does to the exposed set: it adds only columns the upstream
reports with a readable type, and it adds every new column of a selected,
still live table that has one. -/
theorem syncCatalog_exposure (catalog : List DiscoveredSchema) (upstream : UpstreamCatalog) :
    (∀ x ∈ exposedColumns (syncCatalog catalog upstream).1, x ∈ exposedColumns catalog ∨
      ∃ liveCol ∈ upstream.columns,
        (liveCol.schemaName, liveCol.tableName, liveCol.columnName) = x ∧
        (liveCol.arrowType.bind parseArrowType).isSome) ∧
    ∀ schema ∈ catalog, schema.isSelected → ∀ table ∈ schema.tables, table.isSelected →
      (schema.schemaName, table.tableName) ∈ upstream.tables →
      ∀ liveCol ∈ upstream.columns, liveCol.schemaName = schema.schemaName →
        liveCol.tableName = table.tableName → (∀ col ∈ table.columns, col.columnName ≠ liveCol.columnName) →
        (liveCol.arrowType.bind parseArrowType).isSome →
        (schema.schemaName, table.tableName, liveCol.columnName) ∈
          exposedColumns (syncCatalog catalog upstream).1 :=
  ⟨exposedColumns_syncCatalog, fun _ hschema hsel _ htable htsel hlive _ hcol hs ht hnew hty =>
    newColumn_exposed_syncCatalog hschema hsel htable htsel hlive hcol hs ht hnew hty⟩

/-- `orders` with its key and an `amount` of a type the proxy cannot read
(`money`): only `id` is exposed. -/
def ordersCatalog : List DiscoveredSchema :=
  [⟨"public", true, [⟨"orders", true,
    [⟨"id", 1, "integer", false, none, some "Int32", true⟩,
      ⟨"amount", 2, "money", true, none, none, true⟩]⟩]⟩]

/-- The upstream after `amount` became a `bigint` and an `ssn` column was
added. -/
def ordersUpstream : UpstreamCatalog :=
  ⟨["public"], [("public", "orders")],
    [⟨"public", "orders", "id", 1, "integer", false, none, some "Int32"⟩,
      ⟨"public", "orders", "amount", 2, "bigint", true, none, some "Int64"⟩,
      ⟨"public", "orders", "ssn", 3, "text", true, none, some "Utf8"⟩]⟩

/-- With no admin action, a sync widens what the proxy exposes by `amount`,
whose type became readable, and by the new `ssn`, inserted selected. -/
theorem catalogSyncRun :
    exposedColumns ordersCatalog = [("public", "orders", "id")] ∧
      exposedColumns (syncCatalog ordersCatalog ordersUpstream).1 =
        [("public", "orders", "id"), ("public", "orders", "amount"),
          ("public", "orders", "ssn")] ∧
      (syncCatalog ordersCatalog ordersUpstream).2.changedColumns =
        ["public.orders.amount", "public.orders.ssn (new)"] :=
  ⟨by decide +kernel, by decide +kernel, by decide +kernel⟩

end BetweenRows
