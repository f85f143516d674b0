import BetweenRows.Admin.Attributes

/-!
# What every reachable attribute store keeps of its definitions and users

`StoreInv` holds what the write check needs of a store. The session loader
needs three more facts, and every run keeps them too (`runStore_wellFormed`):

* one definition per key and entity type. This is the unique index on
  `(key, entity_type)`: create checks it, and update never changes a key or
  an entity type;
* each definition is one that create would accept as stored. Its fields pass
  `validate_attribute_definition`, with the allowed values read back from
  the JSON text stored for them. Update validates the final fields before
  it writes them, and the allowed values survive their trip through
  `serde_json` (`stringArray_renderAllowedValues`);
* the user ids are distinct, each below the next id.

So a definition's default always passes `validate_value` at the
definition's current type, whatever the requests. The values users hold do
not (`definitionRetypeRun`).
-/

namespace BetweenRows

open Json

/-! ## The allowed values' round trip -/

theorem renderAllowedValues_eq (avs : List String) :
    renderAllowedValues avs = (JsonValue.array (avs.map .string)).render := by
  rw [renderAllowedValues, JsonValue.render, renderElems_strings]

theorem stringArray_renderAllowedValues (avs : List String) :
    stringArray (renderAllowedValues avs).toList = some avs := by
  rw [renderAllowedValues_eq, stringArray_render_strings]

/-- `parse_allowed_values` reads back exactly the allowed values that create and
update stored with `serde_json::to_string`. -/
theorem parseAllowedValues_renderAllowedValues (avs : List String) :
    parseAllowedValues (renderAllowedValues avs) = avs := by
  rw [parseAllowedValues, stringArray_renderAllowedValues, Option.getD_some]

/-! ## Valid definitions -/

/-- A definition that create would accept as it is stored. -/
def DefinitionValid (d : AttributeDefinition) : Prop :=
  ∃ avs : Option (List String), d.allowedValues = avs.map renderAllowedValues ∧
    validateAttributeDefinition d.key d.entityType d.valueType d.defaultValue avs = .ok ()

/-- What `validate_attribute_definition` has checked when it accepts: a user
definition's key is not reserved, and the default passes `validate_value`
at the value type. -/
theorem validateAttributeDefinition_eq_ok {key entityType valueType : String}
    {defaultValue : Option String} {allowedValues : Option (List String)}
    (h : validateAttributeDefinition key entityType valueType defaultValue allowedValues = .ok ()) :
    ¬ (entityType = "user" ∧ key ∈ reservedUserAttributeKeys) ∧
      ∀ dv, defaultValue = some dv → validateValue dv valueType = .ok () := by
  unfold validateAttributeDefinition at h
  rw [Except.bind_eq_ok] at h
  obtain ⟨_, -, h⟩ := h
  simp only at h
  -- each failed check throws; the checks after it run in the other branch
  split at h
  · exact absurd h Except.throw_bind_ne_ok
  split at h
  · exact absurd h Except.throw_bind_ne_ok
  rename_i hreserved
  split at h
  · exact absurd h Except.throw_bind_ne_ok
  refine ⟨hreserved, fun dv hdv => ?_⟩
  simp only [hdv] at h
  rw [Except.bind_eq_ok] at h
  obtain ⟨_, hv, -⟩ := h
  exact Except.mapError_eq_ok.mp hv

structure AttributeStore.WellFormed (store : AttributeStore) : Prop where
  keys_unique : (store.definitions.map fun d => (d.key, d.entityType)).Nodup
  definitions_valid : ∀ d ∈ store.definitions, DefinitionValid d
  user_ids_lt : ∀ u ∈ store.users, u.id < store.nextId
  user_ids_nodup : (store.users.map (·.id)).Nodup

theorem wellFormed_empty : AttributeStore.empty.WellFormed where
  keys_unique := List.nodup_nil
  definitions_valid := by simp [AttributeStore.empty]
  user_ids_lt := by simp [AttributeStore.empty]
  user_ids_nodup := List.nodup_nil

/-- An accepted create stores a valid definition under a key and entity type
that no definition has. -/
theorem createAttributeDefinition_ok_valid {store store' : AttributeStore}
    {body : CreateAttributeDefinitionRequest} (h : createAttributeDefinition store body = .ok store') :
    ∃ d : AttributeDefinition, DefinitionValid d ∧
      (∀ x ∈ store.definitions, ¬ (x.key = d.key ∧ x.entityType = d.entityType)) ∧
      store' = { store with definitions := store.definitions ++ [d], nextId := store.nextId + 1 } := by
  unfold createAttributeDefinition at h
  rw [Except.bind_eq_ok] at h
  obtain ⟨_, hv, h⟩ := h
  dsimp only at h
  split at h
  · cases h
  · rename_i hnew
    refine ⟨_, ⟨body.allowedValues, rfl, Except.mapError_eq_ok.mp hv⟩, ?_,
      (Except.pure_eq_ok.mp h).symm⟩
    simpa using hnew

/-- An accepted update validated the fields it writes: the definition it
rewrites stays valid. -/
theorem updateAttributeDefinition_ok_valid {store store' : AttributeStore} {id : Nat}
    {body : UpdateAttributeDefinitionRequest} (h : updateAttributeDefinition store id body = .ok store') :
    ∃ d ∈ store.definitions, d.id = id ∧ (DefinitionValid d → DefinitionValid (d.update body)) ∧
      store' = { store with
        definitions := store.definitions.map fun x => if x.id = id then d.update body else x } := by
  unfold updateAttributeDefinition at h
  rw [Except.bind_eq_ok] at h
  obtain ⟨d, hd, h⟩ := h
  rw [Except.require_eq_ok] at hd
  obtain ⟨hmem, hid⟩ := mem_of_find?_decide_eq_some hd
  dsimp only at h
  rw [Except.bind_eq_ok] at h
  obtain ⟨_, hv, h⟩ := h
  refine ⟨d, hmem, hid, ?_, (Except.pure_eq_ok.mp h).symm⟩
  rintro ⟨avs, havs, -⟩
  -- the handler reads the stored allowed values back as `avs`
  have hexisting : (d.allowedValues.bind fun s => stringArray s.toList) = avs := by
    rw [havs]
    cases avs <;> simp [stringArray_renderAllowedValues]
  rw [hexisting, Except.mapError_eq_ok] at hv
  refine ⟨body.allowedValues.getD avs, ?_, hv⟩
  cases hb : body.allowedValues <;> simp [AttributeDefinition.update, hb, havs]

/-! ## Each write keeps the store well formed -/

section Writes

variable {store : AttributeStore}

/-- The users after a rewrite that keeps every user's id. -/
theorem map_ids_of_id_eq {g : UserRecord → UserRecord} (hg : ∀ u, (g u).id = u.id)
    (users : List UserRecord) : (users.map g).map (·.id) = users.map (·.id) := by
  rw [List.map_map]
  exact List.map_congr_left fun u _ => hg u

/-- New users with the old ids. -/
theorem wellFormed_setUsers (hw : store.WellFormed) {users : List UserRecord}
    (hids : users.map (·.id) = store.users.map (·.id)) :
    AttributeStore.WellFormed { store with users } where
  keys_unique := hw.keys_unique
  definitions_valid := hw.definitions_valid
  user_ids_lt := by
    intro u hu
    have hmem : u.id ∈ store.users.map (·.id) := hids ▸ List.mem_map_of_mem hu
    obtain ⟨v, hv, hvu⟩ := List.mem_map.mp hmem
    exact hvu ▸ hw.user_ids_lt v hv
  user_ids_nodup := hids ▸ hw.user_ids_nodup

theorem wellFormed_appendDefinition (hw : store.WellFormed) {d : AttributeDefinition}
    (hd : DefinitionValid d) (hfresh : ∀ x ∈ store.definitions, ¬ (x.key = d.key ∧ x.entityType = d.entityType)) :
    AttributeStore.WellFormed
      { store with definitions := store.definitions ++ [d], nextId := store.nextId + 1 } where
  keys_unique := by
    rw [List.map_append, List.nodup_append]
    refine ⟨hw.keys_unique, List.nodup_singleton _, ?_⟩
    -- the new key and entity type are no old definition's
    intro a ha b hb hab
    obtain ⟨x, hx, rfl⟩ := List.mem_map.mp ha
    rw [List.map_singleton, List.mem_singleton] at hb
    subst hb
    exact hfresh x hx (Prod.mk.inj hab)
  definitions_valid := by
    intro x hx
    rcases List.mem_append.mp hx with hx | hx
    · exact hw.definitions_valid x hx
    · rw [List.mem_singleton.mp hx]
      exact hd
  user_ids_lt := fun u hu => Nat.lt_succ_of_lt (hw.user_ids_lt u hu)
  user_ids_nodup := hw.user_ids_nodup

/-- A rewrite of the definitions that keeps each one's key and entity type,
and keeps it valid. -/
theorem wellFormed_mapDefinitions (hw : store.WellFormed) {f : AttributeDefinition → AttributeDefinition}
    (hf : ∀ x, (f x).key = x.key ∧ (f x).entityType = x.entityType)
    (hvalid : ∀ x ∈ store.definitions, DefinitionValid x → DefinitionValid (f x)) :
    AttributeStore.WellFormed { store with definitions := store.definitions.map f } where
  keys_unique := by
    have hkeys : (store.definitions.map f).map (fun d => (d.key, d.entityType)) =
        store.definitions.map fun d => (d.key, d.entityType) := by
      rw [List.map_map]
      exact List.map_congr_left fun x _ => by simp [hf x]
    exact hkeys ▸ hw.keys_unique
  definitions_valid := by
    intro y hy
    obtain ⟨x, hx, rfl⟩ := List.mem_map.mp hy
    exact hvalid x hx (hw.definitions_valid x hx)
  user_ids_lt := hw.user_ids_lt
  user_ids_nodup := hw.user_ids_nodup

theorem wellFormed_removeDefinition (hw : store.WellFormed) {backend : DatabaseBackend}
    {d : AttributeDefinition} {id : Nat} :
    AttributeStore.WellFormed { store with
      definitions := store.definitions.filter (·.id ≠ id)
      users := if d.entityType = "user" then cascadeUsers backend d.key store.users
        else store.users } := by
  -- the cascade only edits a user's attributes
  have hids : (if d.entityType = "user" then cascadeUsers backend d.key store.users
      else store.users).map (·.id) = store.users.map (·.id) := by
    split
    · exact map_ids_of_id_eq (fun u => by split <;> rfl) store.users
    · rfl
  have hu := wellFormed_setUsers hw hids
  exact
    { keys_unique := (List.filter_sublist.map _).nodup hw.keys_unique
      definitions_valid := fun x hx => hw.definitions_valid x (List.mem_filter.mp hx).1
      user_ids_lt := hu.user_ids_lt
      user_ids_nodup := hu.user_ids_nodup }

theorem wellFormed_appendUser (hw : store.WellFormed) (username : String) :
    AttributeStore.WellFormed { store with
      users := store.users ++ [⟨store.nextId, username, ⟨[], List.nodup_nil⟩⟩]
      nextId := store.nextId + 1 } where
  keys_unique := hw.keys_unique
  definitions_valid := hw.definitions_valid
  user_ids_lt := by
    intro u hu
    rcases List.mem_append.mp hu with hu | hu
    · exact Nat.lt_succ_of_lt (hw.user_ids_lt u hu)
    · rw [List.mem_singleton.mp hu]
      exact Nat.lt_succ_self _
  user_ids_nodup := by
    rw [List.map_append, List.nodup_append]
    refine ⟨hw.user_ids_nodup, List.nodup_singleton _, ?_⟩
    -- the new id is above every old one
    intro a ha b hb
    obtain ⟨u, hu, rfl⟩ := List.mem_map.mp ha
    rw [List.map_singleton, List.mem_singleton] at hb
    subst hb
    exact Nat.ne_of_lt (hw.user_ids_lt u hu)

end Writes

/-- Every request keeps the store well formed; a rejected one changes
nothing. -/
theorem AttributeRequest.apply_wellFormed {backend : DatabaseBackend} {store store' : AttributeStore}
    {r : AttributeRequest} (hi : StoreInv store) (hw : store.WellFormed)
    (h : r.apply backend store = .ok store') : store'.WellFormed := by
  cases r with
  | createDefinition body =>
      obtain ⟨d, hd, hfresh, rfl⟩ := createAttributeDefinition_ok_valid h
      exact wellFormed_appendDefinition hw hd hfresh
  | updateDefinition id body =>
      obtain ⟨d, hd, hid, hvalid, rfl⟩ := updateAttributeDefinition_ok_valid h
      rw [map_update_eq hi hd hid]
      refine wellFormed_mapDefinitions hw (fun x => (updateIf_fields x).2) fun x hx hxv => ?_
      -- only the definition with the id is rewritten, and that one is `d`
      split
      · rename_i hxid
        rw [eq_of_id_eq hi hd hx (hxid.trans hid.symm)]
        exact hvalid (eq_of_id_eq hi hd hx (hxid.trans hid.symm) ▸ hxv)
      · exact hxv
  | deleteDefinition id force =>
      obtain ⟨d, -, -, rfl⟩ := deleteAttributeDefinition_eq_ok h
      exact wellFormed_removeDefinition hw
  | createUser username password =>
      rw [createUser_eq_ok h]
      exact wellFormed_appendUser hw username
  | updateUser id attributes =>
      rcases updateUser_eq_ok h with rfl | ⟨attrs, -, rfl⟩
      · exact hw
      · exact wellFormed_setUsers hw (map_ids_of_id_eq (fun u => by split <;> rfl) store.users)

theorem stepStore_wellFormed {backend : DatabaseBackend} {store : AttributeStore}
    {r : AttributeRequest} (hi : StoreInv store) (hw : store.WellFormed) :
    (stepStore backend store r).WellFormed := by
  unfold stepStore
  split
  · rename_i h
    exact AttributeRequest.apply_wellFormed hi hw h
  · exact hw

/-- Every run from the empty store keeps both invariants. -/
theorem runStore_wellFormed (backend : DatabaseBackend) (reqs : List AttributeRequest) :
    StoreInv (runStore backend .empty reqs) ∧ (runStore backend .empty reqs).WellFormed := by
  rw [runStore_eq_foldl]
  refine Fold.foldl_inv (P := fun s => StoreInv s ∧ s.WellFormed) ?_ reqs _
    ⟨storeInv_empty, wellFormed_empty⟩
  rintro s r ⟨hi, hw⟩
  exact ⟨stepStore_inv hi, stepStore_wellFormed hi hw⟩

/-- In every reachable store, whatever the requests, no two definitions
share a key and an entity type, and every definition passes
`validate_attribute_definition` with its stored fields: in particular its
default passes `validate_value` at its current value type. -/
theorem storedDefinitions_valid (backend : DatabaseBackend) (reqs : List AttributeRequest) :
    ((runStore backend .empty reqs).definitions.map fun d => (d.key, d.entityType)).Nodup ∧
      ∀ d ∈ (runStore backend .empty reqs).definitions, ∃ avs : Option (List String),
        d.allowedValues = avs.map renderAllowedValues ∧
        validateAttributeDefinition d.key d.entityType d.valueType d.defaultValue avs = .ok () := by
  have hw := (runStore_wellFormed backend reqs).2
  exact ⟨hw.keys_unique, hw.definitions_valid⟩

end BetweenRows
