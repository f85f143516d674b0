import BetweenRows.Admin.Dto
import BetweenRows.Control.Except
import BetweenRows.Loop.Fold
import BetweenRows.Text.Decimal
import BetweenRows.Text.Json

/-!
# User attributes and their definitions (`admin/attribute_definition_handlers.rs`, `admin/user_handlers.rs`)

An attribute definition names a key, the entity type it is for, a value
type, an optional default and optional allowed values (a JSON array of
strings). A user's attributes are one JSON object. `update_user` replaces
that object, and checks each value against the user definition of its key
first: `validate_value` for its type, and membership in the allowed values
when there are any. The definition handlers create, update and delete
definitions; a forced delete removes the key from every user's JSON.

What holds in every reachable state is weaker than the check at write time
(`storedAttributes_conform`): every stored key has a user definition and
every value is a string or an array of strings, and the write check keeps
holding unless a definition update sets `value_type` or `allowed_values`,
which re-checks no stored value (`definitionRetypeRun`).

Requests run one at a time, each in its own transaction: a rejected request
leaves the store as it was.
-/

namespace BetweenRows

open Json

/-- `str::len`: the length in UTF-8 bytes. -/
def utf8Len (s : String) : Nat :=
  (s.toList.map Char.utf8Size).sum

/-! ## `validate_value` -/

/-- The element loop of the `list` branch of `validate_value`, from index `i`. -/
def validateListElemsFrom : Nat → List JsonValue → Except String Unit
  | _, [] => .ok ()
  | i, elem :: rest =>
      match elem.asStr? with
      | none => .error ("list element at index " ++ toString i ++ " is not a string")
      | some s =>
          if utf8Len s > 1024 then
            .error ("list element at index " ++ toString i ++ " exceeds 1024 character limit")
          else validateListElemsFrom (i + 1) rest

/-- The `list` branch of `validate_value` on the parsed array. -/
def validateListElems (arr : List JsonValue) : Except String Unit :=
  if arr.length > 100 then .error "list cannot exceed 100 elements"
  else validateListElemsFrom 0 arr

/-- `validate_value(value, value_type)`. -/
def validateValue (value valueType : String) : Except String Unit :=
  if valueType = "string" then
    if utf8Len value > 1024 then .error "value exceeds 1024 character limit" else .ok ()
  else if valueType = "integer" then
    match Decimal.parseInt true (-2 ^ 63) (2 ^ 63 - 1) value.toList with
    | some _ => .ok ()
    | none => .error ("'" ++ value ++ "' is not a valid integer")
  else if valueType = "boolean" then
    if value = "true" ∨ value = "false" then .ok ()
    else .error ("'" ++ value ++ "' is not a valid boolean (must be 'true' or 'false')")
  else if valueType = "list" then
    match valueArray value.toList with
    | some arr => validateListElems arr
    | none => .error ("'" ++ value ++ "' is not a valid JSON array")
  else .error ("unknown value_type '" ++ valueType ++ "'")

/-! ## Definitions -/

/-- `attribute_definition::Model` without its audit columns;
`allowed_values` is the JSON text of an array of strings. -/
structure AttributeDefinition where
  id : Nat
  key : String
  entityType : String
  displayName : String
  valueType : String
  defaultValue : Option String
  allowedValues : Option String
  description : Option String
  deriving DecidableEq, Repr

/-- `parse_allowed_values`: unreadable text is no allowed values. -/
def parseAllowedValues (json : String) : List String :=
  (stringArray json.toList).getD []

/-- `validate_attribute_key`. -/
def validateAttributeKey (key : String) : Except String Unit :=
  if key.isEmpty || utf8Len key > 64 then .error "key must be 1-64 characters"
  else if !(key.toList.head?.any Char.isAlpha) then .error "key must start with a letter"
  else if !key.toList.all (fun c => c.isAlphanum || c == '_') then
    .error "key must contain only letters, digits, and underscores"
  else .ok ()

/-- `RESERVED_USER_ATTRIBUTE_KEYS`: the columns of `proxy_user`, then
`EXTRA_RESERVED_USER_KEYS`. -/
def reservedUserAttributeKeys : List String :=
  ["id", "username", "password_hash", "is_admin", "is_active", "email", "display_name",
    "last_login_at", "created_at", "updated_at", "attributes", "roles", "user_id"]

def validEntityTypes : List String := ["user", "table", "column"]

def validValueTypes : List String := ["string", "integer", "boolean", "list"]

/-- The allowed values of a definition each pass `validate_value` for the
element type. -/
def validateAllowedValues (elementType : String) : List String → Except String Unit
  | [] => .ok ()
  | av :: rest => do
      (validateValue av elementType).mapError fun e => "invalid allowed_value '" ++ av ++ "': " ++ e
      validateAllowedValues elementType rest

/-- Each element of a list default is an allowed value. -/
def checkDefaultElems (avs : List String) : List String → Except String Unit
  | [] => .ok ()
  | elem :: rest =>
      if avs.any (· == elem) then checkDefaultElems avs rest
      else .error ("default_value element '" ++ elem ++ "' is not in allowed_values")

/-- `validate_attribute_definition`. -/
def validateAttributeDefinition (key entityType valueType : String) (defaultValue : Option String)
    (allowedValues : Option (List String)) : Except String Unit := do
  validateAttributeKey key
  if entityType ∉ validEntityTypes then
    throw ("entity_type must be one of: " ++ ", ".intercalate validEntityTypes)
  if entityType = "user" ∧ key ∈ reservedUserAttributeKeys then
    throw ("'" ++ key ++ "' is a reserved attribute key for user entities")
  if valueType ∉ validValueTypes then
    throw ("value_type must be one of: " ++ ", ".intercalate validValueTypes)
  match defaultValue with
  | some dv => (validateValue dv valueType).mapError fun e => "invalid default_value: " ++ e
  | none => pure ()
  match allowedValues with
  | none => pure ()
  | some avs =>
      -- a list's allowed values constrain its elements, which are strings
      validateAllowedValues (if valueType = "list" then "string" else valueType) avs
      if valueType ≠ "list" then
        match defaultValue with
        | some dv =>
            if avs.any (· == dv) then pure ()
            else throw "default_value must be in allowed_values"
        | none => pure ()
      else
        match defaultValue with
        | some dv =>
            match stringArray dv.toList with
            | some elems => checkDefaultElems avs elems
            | none => throw "default_value for list must be a JSON array of strings"
        | none => pure ()

/-! ## The store -/

/-- A user's attributes: a JSON object, whose keys are distinct. -/
abbrev AttrMap := {l : List (String × JsonValue) // (l.map (·.1)).Nodup}

/-- `proxy_user::Model`: the columns the attribute handlers read and write. -/
structure UserRecord where
  id : Nat
  username : String
  attributes : AttrMap

/-- The two tables, and the source of fresh ids (`Uuid::now_v7`). -/
structure AttributeStore where
  definitions : List AttributeDefinition
  users : List UserRecord
  nextId : Nat

def AttributeStore.empty : AttributeStore := ⟨[], [], 0⟩

/-- The definitions `update_user` loads: those for users. -/
def userDefinitions (defs : List AttributeDefinition) : List AttributeDefinition :=
  defs.filter (·.entityType = "user")

inductive DatabaseBackend where
  | sqlite
  | postgres
  deriving DecidableEq, Repr

/-- `CreateAttributeDefinitionRequest`. -/
structure CreateAttributeDefinitionRequest where
  key : String
  entityType : String
  displayName : String
  valueType : String
  defaultValue : Option String
  allowedValues : Option (List String)
  description : Option String
  deriving DecidableEq, Repr

/-- `UpdateAttributeDefinitionRequest`: `none` leaves a field as it is; for
the nullable fields `some none` clears it. -/
structure UpdateAttributeDefinitionRequest where
  displayName : Option String
  valueType : Option String
  defaultValue : Option (Option String)
  allowedValues : Option (Option (List String))
  description : Option (Option String)
  deriving DecidableEq, Repr

/-! ## The definition handlers -/

/-- `serde_json::to_string` of the allowed values. -/
def renderAllowedValues (avs : List String) : String :=
  "[" ++ ",".intercalate (avs.map renderString) ++ "]"

/-- `create_attribute_definition`. -/
def createAttributeDefinition (store : AttributeStore) (body : CreateAttributeDefinitionRequest) :
    Except ApiErr AttributeStore := do
  (validateAttributeDefinition body.key body.entityType body.valueType body.defaultValue
    body.allowedValues).mapError ApiErr.unprocessable
  -- the unique index on `(key, entity_type)`
  if store.definitions.any fun d => d.key = body.key ∧ d.entityType = body.entityType then
    throw (.conflict ("Attribute definition '" ++ body.key ++ "' already exists for entity type '" ++
      body.entityType ++ "'"))
  let d : AttributeDefinition :=
    { id := store.nextId, key := body.key, entityType := body.entityType
      displayName := body.displayName, valueType := body.valueType
      defaultValue := body.defaultValue
      allowedValues := body.allowedValues.map renderAllowedValues
      description := body.description }
  pure { store with definitions := store.definitions ++ [d], nextId := store.nextId + 1 }

/-- The definition after an accepted update: the request's fields where it
has them. -/
def AttributeDefinition.update (d : AttributeDefinition) (body : UpdateAttributeDefinitionRequest) :
    AttributeDefinition :=
  { d with
    displayName := body.displayName.getD d.displayName
    valueType := body.valueType.getD d.valueType
    defaultValue := body.defaultValue.getD d.defaultValue
    allowedValues := match body.allowedValues with
      | some av => av.map renderAllowedValues
      | none => d.allowedValues
    description := body.description.getD d.description }

/-- `update_attribute_definition`: the final fields are validated together;
no stored attribute value is looked at. -/
def updateAttributeDefinition (store : AttributeStore) (id : Nat)
    (body : UpdateAttributeDefinitionRequest) : Except ApiErr AttributeStore := do
  let d ← Except.require (store.definitions.find? (·.id = id))
    (.notFound "Attribute definition not found")
  let finalValueType := body.valueType.getD d.valueType
  let finalDefault := body.defaultValue.getD d.defaultValue
  let existingAv := d.allowedValues.bind fun s => stringArray s.toList
  let finalAv := body.allowedValues.getD existingAv
  (validateAttributeDefinition d.key d.entityType finalValueType finalDefault finalAv).mapError
    ApiErr.unprocessable
  pure { store with
    definitions := store.definitions.map fun x => if x.id = id then d.update body else x }

/-- `validate_json_path_key`. -/
def validateJsonPathKey (key : String) : Except ApiErr Unit :=
  if !key.isEmpty && (key.toList.head?.any fun c => c.isAlpha || c == '_') &&
      key.toList.all (fun c => c.isAlphanum || c == '_') then .ok ()
  else .error (.internal ("Invalid attribute key for JSON path: '" ++ key ++ "'"))

/-- The rows the cascade's SQL selects: `json_extract(attributes, '$.key') IS
NOT NULL` on SQLite, which a JSON `null` fails, and `attributes::jsonb ?
'key'` on Postgres. -/
def hasAttribute (backend : DatabaseBackend) (key : String) (u : UserRecord) : Bool :=
  match backend, u.attributes.val.lookup key with
  | _, none => false
  | .sqlite, some .null => false
  | _, some _ => true

/-- `count_users_with_attribute`. -/
def countUsersWithAttribute (backend : DatabaseBackend) (store : AttributeStore) (key : String) :
    Except ApiErr Nat := do
  validateJsonPathKey key
  pure (store.users.countP (hasAttribute backend key))

/-- The key removed from a user's JSON (`json_remove`, `jsonb - key`). -/
def AttrMap.remove (m : AttrMap) (key : String) : AttrMap :=
  ⟨m.val.filter (·.1 ≠ key), by
    have hsub : List.Sublist ((m.val.filter (·.1 ≠ key)).map (·.1)) (m.val.map (·.1)) :=
      List.filter_sublist.map _
    exact hsub.nodup m.property⟩

/-- `delete_attribute_definition`: without `force` a definition some user
has is kept; with it, the key leaves every user that has it. -/
def deleteAttributeDefinition (backend : DatabaseBackend) (store : AttributeStore) (id : Nat)
    (force : Bool) : Except ApiErr AttributeStore := do
  let d ← Except.require (store.definitions.find? (·.id = id))
    (.notFound "Attribute definition not found")
  let affectedCount ←
    if d.entityType = "user" then countUsersWithAttribute backend store d.key else pure 0
  if affectedCount > 0 && !force then
    throw (.conflict (toString affectedCount ++ " " ++ d.entityType ++ "(s) have attribute '" ++ d.key ++
      "'. Use ?force=true to delete and remove from all entities."))
  let users ←
    if affectedCount > 0 && d.entityType = "user" then do
      validateJsonPathKey d.key
      pure (store.users.map fun u =>
        if hasAttribute backend d.key u then { u with attributes := u.attributes.remove d.key } else u)
    else pure store.users
  pure { store with definitions := store.definitions.filter (·.id ≠ id), users }

/-! ## The user handlers -/

/-- `validate_username`. -/
def validateUsername (name : String) : Except String Unit :=
  if utf8Len name < 3 || utf8Len name > 50 then .error "Username must be between 3 and 50 characters"
  else if !(name.toList.head?.any Char.isAlpha) then .error "Username must start with a letter"
  else if !(name.toList.drop 1).all (fun c => c.isAlphanum || c == '_' || c == '.' || c == '-') then
    .error "Username may only contain letters, digits, underscores, dots, and hyphens"
  else .ok ()

/-- `validate_password`; the character classes are read on ASCII. -/
def validatePassword (password : String) : Except ApiErr Unit :=
  if utf8Len password < 8 then .error (.unprocessable "Password must be at least 8 characters")
  else if !password.toList.any Char.isUpper then
    .error (.unprocessable "Password must contain at least one uppercase letter")
  else if !password.toList.any Char.isLower then
    .error (.unprocessable "Password must contain at least one lowercase letter")
  else if !password.toList.any Char.isDigit then
    .error (.unprocessable "Password must contain at least one digit")
  else if !password.toList.any (fun c => !c.isAlphanum) then
    .error (.unprocessable "Password must contain at least one special character")
  else .ok ()

/-- `create_user`: the new user's attributes are the column default `{}`. -/
def createUser (store : AttributeStore) (username password : String) :
    Except ApiErr AttributeStore := do
  (validateUsername username).mapError ApiErr.unprocessable
  validatePassword password
  if store.users.any (·.username = username) then throw (.conflict "Username already exists")
  pure { store with
    users := store.users ++ [⟨store.nextId, username, ⟨[], List.nodup_nil⟩⟩]
    nextId := store.nextId + 1 }

/-- `{allowed:?}`: the `Debug` text of the allowed values. -/
def debugStrings (l : List String) : String :=
  "[" ++ ", ".intercalate (l.map fun s => "\"" ++ s ++ "\"") ++ "]"

/-- Each element of a list value is an allowed value; a non-string element
reads as `""`. -/
def checkAllowedElems (key : String) (allowed : List String) : List JsonValue → Except ApiErr Unit
  | [] => .ok ()
  | elem :: rest =>
      let s := elem.asStr?.getD ""
      if allowed.contains s then checkAllowedElems key allowed rest
      else .error (.unprocessable ("List element '" ++ s ++ "' for attribute '" ++ key ++
        "' is not in allowed values: " ++ debugStrings allowed))

/-- What `update_user` checks of one attribute against the user definitions. -/
def checkAttribute (defs : List AttributeDefinition) (key : String) (value : JsonValue) :
    Except ApiErr Unit := do
  let d ← Except.require (defs.find? (·.key = key))
    (.unprocessable ("Unknown attribute key '" ++ key ++ "'. Define it first via attribute definitions."))
  if d.valueType = "list" then
    let elems ← Except.require value.asArray?
      (.unprocessable ("Attribute '" ++ key ++ "' has type 'list' — value must be a JSON array"))
    -- `validate_value(to_string(value), "list")`: serde_json reads back the array it writes
    (validateListElems elems).mapError fun e =>
      .unprocessable ("Invalid value for attribute '" ++ key ++ "': " ++ e)
    match d.allowedValues with
    | some avJson =>
        let allowed := parseAllowedValues avJson
        if allowed.isEmpty then pure () else checkAllowedElems key allowed elems
    | none => pure ()
  else
    let strValue ← Except.require value.asStr?
      (.unprocessable ("Attribute '" ++ key ++ "' has type '" ++ d.valueType ++ "' — value must be a string"))
    (validateValue strValue d.valueType).mapError fun e =>
      .unprocessable ("Invalid value for attribute '" ++ key ++ "': " ++ e)
    match d.allowedValues with
    | some avJson =>
        let allowed := parseAllowedValues avJson
        if !allowed.isEmpty && !allowed.contains strValue then
          throw (.unprocessable ("Value '" ++ strValue ++ "' for attribute '" ++ key ++
            "' is not in allowed values: " ++ debugStrings allowed))
        else pure ()
    | none => pure ()

/-- The loop over the request's attributes; the first failure is the answer. -/
def checkAttributes (defs : List AttributeDefinition) : List (String × JsonValue) → Except ApiErr Unit
  | [] => .ok ()
  | (key, value) :: rest => do
      checkAttribute defs key value
      checkAttributes defs rest

/-- The attribute part of `update_user`: a full replace, checked against the
user definitions unless the new object is empty. -/
def updateUser (store : AttributeStore) (id : Nat) (attributes : Option AttrMap) :
    Except ApiErr AttributeStore := do
  let _ ← Except.require (store.users.find? (·.id = id)) (.notFound "User not found")
  match attributes with
  | none => pure store
  | some attrs =>
      if !attrs.val.isEmpty then checkAttributes (userDefinitions store.definitions) attrs.val
      pure { store with
        users := store.users.map fun u => if u.id = id then { u with attributes := attrs } else u }

/-! ## Runs -/

inductive AttributeRequest where
  | createDefinition (body : CreateAttributeDefinitionRequest)
  | updateDefinition (id : Nat) (body : UpdateAttributeDefinitionRequest)
  | deleteDefinition (id : Nat) (force : Bool)
  | createUser (username password : String)
  | updateUser (id : Nat) (attributes : Option AttrMap)

/-- Serve one request; a rejected request rolls back and changes nothing. -/
def AttributeRequest.apply (backend : DatabaseBackend) (store : AttributeStore) :
    AttributeRequest → Except ApiErr AttributeStore
  | .createDefinition body => createAttributeDefinition store body
  | .updateDefinition id body => updateAttributeDefinition store id body
  | .deleteDefinition id force => deleteAttributeDefinition backend store id force
  | .createUser username password => BetweenRows.createUser store username password
  | .updateUser id attributes => BetweenRows.updateUser store id attributes

def stepStore (backend : DatabaseBackend) (store : AttributeStore) (r : AttributeRequest) :
    AttributeStore :=
  match r.apply backend store with
  | .ok store' => store'
  | .error _ => store

def runStore (backend : DatabaseBackend) (store : AttributeStore) : List AttributeRequest → AttributeStore
  | [] => store
  | r :: rs => runStore backend (stepStore backend store r) rs

/-- A definition update that sets the value type or the allowed values. -/
def AttributeRequest.setsValueConstraints : AttributeRequest → Bool
  | .updateDefinition _ body => body.valueType.isSome || body.allowedValues.isSome
  | _ => false

/-! ## What the write check lets through -/

/-- The shape of the values the write check accepts: a string, or an
array of strings. -/
def storedShape : JsonValue → Bool
  | .string _ => true
  | .array vs => vs.all fun v => v.asStr?.isSome
  | _ => false

theorem validateListElemsFrom_strings :
    ∀ {i : Nat} {l : List JsonValue}, validateListElemsFrom i l = .ok () → ∀ v ∈ l, v.asStr?.isSome
  | _, [], _, v, hv => by cases hv
  | i, elem :: rest, h, v, hv => by
      unfold validateListElemsFrom at h
      split at h
      · cases h
      · rename_i s hs
        split at h
        · cases h
        · rcases List.mem_cons.mp hv with rfl | hv
          · simp [hs]
          · exact validateListElemsFrom_strings h v hv

theorem validateListElems_strings {l : List JsonValue} (h : validateListElems l = .ok ()) :
    ∀ v ∈ l, v.asStr?.isSome := by
  unfold validateListElems at h
  split at h
  · cases h
  · exact validateListElemsFrom_strings h

/-- A value the check accepts has a user definition for its key, and is a
string or an array of strings. -/
theorem checkAttribute_eq_ok {defs : List AttributeDefinition} {key : String} {value : JsonValue}
    (h : checkAttribute defs key value = .ok ()) :
    (∃ d, defs.find? (·.key = key) = some d) ∧ storedShape value = true := by
  unfold checkAttribute at h
  rw [Except.bind_eq_ok] at h
  obtain ⟨d, hd, h⟩ := h
  refine ⟨⟨d, Except.require_eq_ok.mp hd⟩, ?_⟩
  split at h
  · -- a list: the value is an array whose elements pass `validate_value`
    rw [Except.bind_eq_ok] at h
    obtain ⟨elems, helems, h⟩ := h
    rw [Except.bind_eq_ok] at h
    obtain ⟨_, hvalid, _⟩ := h
    cases value <;>
      simp only [Except.require_eq_ok, JsonValue.asArray?, reduceCtorEq, Option.some.injEq] at helems
    subst helems
    simpa [storedShape] using validateListElems_strings (Except.mapError_eq_ok.mp hvalid)
  · -- a scalar: the value is a string
    rw [Except.bind_eq_ok] at h
    obtain ⟨s, hs, _⟩ := h
    cases value <;> simp_all [JsonValue.asStr?, storedShape]

theorem checkAttributes_eq_ok {defs : List AttributeDefinition} :
    ∀ {l : List (String × JsonValue)}, checkAttributes defs l = .ok () →
      ∀ p ∈ l, checkAttribute defs p.1 p.2 = .ok ()
  | [], _, p, hp => by cases hp
  | (key, value) :: rest, h, p, hp => by
      unfold checkAttributes at h
      rw [Except.bind_eq_ok] at h
      obtain ⟨⟨⟩, hcheck, hrest⟩ := h
      rcases List.mem_cons.mp hp with rfl | hp
      · exact hcheck
      · exact checkAttributes_eq_ok hrest p hp

/-- What the check reads of the definitions for a key: the value type and
the allowed values of the first user definition with the key. -/
def checkView (defs : List AttributeDefinition) (key : String) : Option (String × Option String) :=
  ((userDefinitions defs).find? (·.key = key)).map fun d => (d.valueType, d.allowedValues)

theorem checkAttribute_congr {defs defs' : List AttributeDefinition} {key : String}
    (h : checkView defs key = checkView defs' key) (value : JsonValue) :
    checkAttribute (userDefinitions defs) key value = checkAttribute (userDefinitions defs') key value := by
  unfold checkView at h
  unfold checkAttribute
  cases h₁ : (userDefinitions defs).find? (·.key = key) with
  | none =>
      cases h₂ : (userDefinitions defs').find? (·.key = key) with
      | none => rfl
      | some d' => simp [h₁, h₂] at h
  | some d =>
      cases h₂ : (userDefinitions defs').find? (·.key = key) with
      | none => simp [h₁, h₂] at h
      | some d' =>
          simp only [h₁, h₂, Option.map_some, Option.some.injEq, Prod.mk.injEq] at h
          simp only [Except.require, Except.ok_bind, h.1, h.2]

theorem checkView_isSome {defs : List AttributeDefinition} {key : String} :
    (checkView defs key).isSome ↔ ∃ d ∈ userDefinitions defs, d.key = key := by
  simp [checkView, List.find?_isSome]

/-- Appending a definition changes the view of no key that has a user
definition already. -/
theorem checkView_append {defs : List AttributeDefinition} {key : String} (d : AttributeDefinition)
    (h : (checkView defs key).isSome) : checkView (defs ++ [d]) key = checkView defs key := by
  unfold checkView userDefinitions at *
  rw [List.filter_append, List.find?_append]
  cases hf : (defs.filter (·.entityType = "user")).find? (·.key = key) with
  | none => simp [hf] at h
  | some x => rfl

/-- A map that keeps each definition's key, entity type, value type and
allowed values keeps the view. -/
theorem checkView_map {defs : List AttributeDefinition} {key : String}
    {f : AttributeDefinition → AttributeDefinition}
    (hf : ∀ x ∈ defs, (f x).key = x.key ∧ (f x).entityType = x.entityType ∧
      (f x).valueType = x.valueType ∧ (f x).allowedValues = x.allowedValues) :
    checkView (defs.map f) key = checkView defs key := by
  induction defs with
  | nil => rfl
  | cons x xs ih =>
      obtain ⟨hk, he, hv, ha⟩ := hf x List.mem_cons_self
      have ih' := ih fun y hy => hf y (List.mem_cons_of_mem x hy)
      unfold checkView userDefinitions at ih' ⊢
      simp only [List.map_cons, List.filter_cons, he]
      split
      · simp only [List.find?_cons, hk]
        split
        · simp [hv, ha]
        · exact ih'
      · exact ih'

/-- Removing definitions none of which is a user definition of the key
keeps the key's view. -/
theorem checkView_filter {defs : List AttributeDefinition} {key : String}
    {p : AttributeDefinition → Bool}
    (hp : ∀ x ∈ defs, p x = false → x.entityType = "user" → x.key ≠ key) :
    checkView (defs.filter p) key = checkView defs key := by
  induction defs with
  | nil => rfl
  | cons x xs ih =>
      have ih' := ih fun y hy => hp y (List.mem_cons_of_mem x hy)
      unfold checkView userDefinitions at ih' ⊢
      by_cases hx : p x = true
      · simp only [List.filter_cons, hx, if_true]
        split
        · simp only [List.find?_cons]
          split
          · rfl
          · exact ih'
        · exact ih'
      · -- a removed definition is not a user definition of the key
        have hx' : p x = false := by simpa using hx
        simp only [List.filter_cons, hx', Bool.false_eq_true, if_false]
        rw [ih']
        by_cases he : x.entityType = "user"
        · have hk := hp x List.mem_cons_self hx' he
          simp [he, hk]
        · simp [he]

/-! ## What an accepted request writes -/

/-- What a lookup by a decided test gives: a member that passes it. -/
theorem mem_of_find?_decide_eq_some {α : Type} {p : α → Prop} [DecidablePred p] {l : List α}
    {a : α} (h : l.find? (fun x => decide (p x)) = some a) : a ∈ l ∧ p a :=
  ⟨List.mem_of_find?_eq_some h, by simpa using List.find?_some h⟩

/-- An accepted definition create appends a definition under the next id,
whose key and entity type no definition has. -/
theorem createAttributeDefinition_eq_ok {store store' : AttributeStore}
    {body : CreateAttributeDefinitionRequest} (h : createAttributeDefinition store body = .ok store') :
    ∃ d : AttributeDefinition, d.id = store.nextId ∧ d.key = body.key ∧
      d.entityType = body.entityType ∧
      (∀ x ∈ store.definitions, ¬ (x.key = body.key ∧ x.entityType = body.entityType)) ∧
      store' = { store with definitions := store.definitions ++ [d], nextId := store.nextId + 1 } := by
  unfold createAttributeDefinition at h
  rw [Except.bind_eq_ok] at h
  obtain ⟨_, _, h⟩ := h
  dsimp only at h
  split at h
  · cases h
  · rename_i hnew
    refine ⟨_, rfl, rfl, rfl, ?_, (Except.pure_eq_ok.mp h).symm⟩
    simpa using hnew

/-- An accepted definition update rewrites the definition with the id. -/
theorem updateAttributeDefinition_eq_ok {store store' : AttributeStore} {id : Nat}
    {body : UpdateAttributeDefinitionRequest} (h : updateAttributeDefinition store id body = .ok store') :
    ∃ d ∈ store.definitions, d.id = id ∧
      store' = { store with
        definitions := store.definitions.map fun x => if x.id = id then d.update body else x } := by
  unfold updateAttributeDefinition at h
  rw [Except.bind_eq_ok] at h
  obtain ⟨d, hd, h⟩ := h
  rw [Except.require_eq_ok] at hd
  dsimp only at h
  rw [Except.bind_eq_ok] at h
  obtain ⟨_, _, h⟩ := h
  obtain ⟨hmem, hid⟩ := mem_of_find?_decide_eq_some hd
  exact ⟨d, hmem, hid, (Except.pure_eq_ok.mp h).symm⟩

/-- The users after the cascade of deleting a definition of `key`. -/
def cascadeUsers (backend : DatabaseBackend) (key : String) (users : List UserRecord) :
    List UserRecord :=
  users.map fun u => if hasAttribute backend key u then { u with attributes := u.attributes.remove key } else u

theorem countUsersWithAttribute_eq_ok {backend : DatabaseBackend} {store : AttributeStore}
    {key : String} {n : Nat} (h : countUsersWithAttribute backend store key = .ok n) :
    n = store.users.countP (hasAttribute backend key) := by
  unfold countUsersWithAttribute at h
  rw [Except.bind_eq_ok] at h
  obtain ⟨_, _, h⟩ := h
  exact (Except.pure_eq_ok.mp h).symm

/-- When no user has the key, the cascade changes nobody. -/
theorem cascadeUsers_of_countP_eq_zero {backend : DatabaseBackend} {key : String}
    {users : List UserRecord} (h : users.countP (hasAttribute backend key) = 0) :
    cascadeUsers backend key users = users := by
  rw [List.countP_eq_zero] at h
  conv_rhs => rw [← List.map_id users]
  exact List.map_congr_left fun u hu => by simp [h u hu]

/-- An accepted definition delete removes the definitions with the id, and
for a user definition the key from every user that has it. -/
theorem deleteAttributeDefinition_eq_ok {backend : DatabaseBackend} {store store' : AttributeStore}
    {id : Nat} {force : Bool} (h : deleteAttributeDefinition backend store id force = .ok store') :
    ∃ d ∈ store.definitions, d.id = id ∧
      store' = { store with
        definitions := store.definitions.filter (·.id ≠ id)
        users := if d.entityType = "user" then cascadeUsers backend d.key store.users else store.users } := by
  unfold deleteAttributeDefinition at h
  rw [Except.bind_eq_ok] at h
  obtain ⟨d, hd, h⟩ := h
  rw [Except.require_eq_ok] at hd
  obtain ⟨hmem, hid⟩ := mem_of_find?_decide_eq_some hd
  dsimp only at h
  split at h
  · rename_i huser
    rw [Except.bind_eq_ok] at h
    obtain ⟨n, hn, h⟩ := h
    split at h
    · cases h
    · split at h
      · -- the cascade ran
        rw [Except.bind_eq_ok] at h
        obtain ⟨_, _, h⟩ := h
        rw [pure_bind, Except.pure_eq_ok] at h
        subst h
        exact ⟨d, hmem, hid, by rw [if_pos huser]; rfl⟩
      · -- no user had the key
        rename_i _ hcascade
        rw [pure_bind, Except.pure_eq_ok] at h
        subst h
        have hzero : n = 0 := by
          simp only [huser, decide_true, Bool.and_true, decide_eq_true_eq] at hcascade
          omega
        rw [countUsersWithAttribute_eq_ok hn] at hzero
        exact ⟨d, hmem, hid, by rw [if_pos huser, cascadeUsers_of_countP_eq_zero hzero]⟩
  · -- not a user definition: nothing was counted
    rename_i huser
    simp only [pure_bind, gt_iff_lt, Nat.lt_irrefl, decide_false, Bool.false_and,
      Bool.false_eq_true, if_false, Except.pure_eq_ok] at h
    subst h
    exact ⟨d, hmem, hid, by rw [if_neg huser]⟩

theorem createUser_eq_ok {store store' : AttributeStore} {username password : String}
    (h : createUser store username password = .ok store') :
    store' = { store with
      users := store.users ++ [⟨store.nextId, username, ⟨[], List.nodup_nil⟩⟩]
      nextId := store.nextId + 1 } := by
  unfold createUser at h
  rw [Except.bind_eq_ok] at h
  obtain ⟨_, _, h⟩ := h
  rw [Except.bind_eq_ok] at h
  obtain ⟨_, _, h⟩ := h
  split at h
  · cases h
  · exact (Except.pure_eq_ok.mp h).symm

/-- An accepted user update leaves the store as it is, or gives the users
with the id an object each of whose entries the check accepts. -/
theorem updateUser_eq_ok {store store' : AttributeStore} {id : Nat} {attributes : Option AttrMap}
    (h : updateUser store id attributes = .ok store') :
    store' = store ∨ ∃ attrs : AttrMap,
      (∀ p ∈ attrs.val, checkAttribute (userDefinitions store.definitions) p.1 p.2 = .ok ()) ∧
      store' = { store with
        users := store.users.map fun u => if u.id = id then { u with attributes := attrs } else u } := by
  unfold updateUser at h
  rw [Except.bind_eq_ok] at h
  obtain ⟨_, _, h⟩ := h
  cases attributes with
  | none => exact .inl (Except.pure_eq_ok.mp h).symm
  | some attrs =>
      right
      dsimp only at h
      split at h
      · -- a nonempty object is checked entry by entry
        rw [Except.bind_eq_ok] at h
        obtain ⟨_, hcheck, h⟩ := h
        exact ⟨attrs, checkAttributes_eq_ok hcheck, (Except.pure_eq_ok.mp h).symm⟩
      · -- an empty object has nothing to check
        rename_i hempty
        have hnil : attrs.val = [] := by simpa using hempty
        exact ⟨attrs, by simp [hnil], (Except.pure_eq_ok.mp h).symm⟩

/-! ## Stored entries -/

/-- An attribute some user has: its key and its value. -/
def Stored (users : List UserRecord) (p : String × JsonValue) : Prop :=
  ∃ u ∈ users, p ∈ u.attributes.val

@[simp] theorem mem_userDefinitions {defs : List AttributeDefinition} {d : AttributeDefinition} :
    d ∈ userDefinitions defs ↔ d ∈ defs ∧ d.entityType = "user" := by
  simp [userDefinitions]

@[simp] theorem AttrMap.mem_remove {m : AttrMap} {key : String} {p : String × JsonValue} :
    p ∈ (m.remove key).val ↔ p ∈ m.val ∧ p.1 ≠ key := by
  simp [AttrMap.remove]

/-- A JSON object with distinct keys answers a key with its own entry. -/
theorem lookup_of_mem_nodup {p : String × JsonValue} :
    ∀ {l : List (String × JsonValue)}, (l.map (·.1)).Nodup → p ∈ l → l.lookup p.1 = some p.2
  | [], _, hp => by cases hp
  | (k, v) :: rest, hnd, hp => by
      rw [List.map_cons, List.nodup_cons] at hnd
      rw [List.lookup_cons]
      rcases List.mem_cons.mp hp with rfl | hrest
      · simp
      · -- a later entry's key is not the head's
        have hk : (p.1 == k) = false :=
          beq_eq_false_iff_ne.mpr fun h => hnd.1 (List.mem_map.mpr ⟨p, hrest, h⟩)
        rw [hk]
        exact lookup_of_mem_nodup hnd.2 hrest

/-- The cascade's SQL finds every key a user has, when its value has the
shape the write check lets through. -/
theorem hasAttribute_of_mem {backend : DatabaseBackend} {u : UserRecord} {p : String × JsonValue}
    (hp : p ∈ u.attributes.val) (hs : storedShape p.2 = true) : hasAttribute backend p.1 u = true := by
  unfold hasAttribute
  rw [lookup_of_mem_nodup u.attributes.property hp]
  obtain ⟨k, v⟩ := p
  cases backend <;> cases v <;> simp_all [storedShape]

theorem stored_append_empty {users : List UserRecord} {u : UserRecord} (hu : u.attributes.val = [])
    {p : String × JsonValue} : Stored (users ++ [u]) p ↔ Stored users p := by
  simp [Stored, hu]

theorem stored_map_attributes {users : List UserRecord} {id : Nat} {attrs : AttrMap}
    {p : String × JsonValue}
    (h : Stored (users.map fun u => if u.id = id then { u with attributes := attrs } else u) p) :
    Stored users p ∨ p ∈ attrs.val := by
  obtain ⟨u', hu', hp⟩ := h
  obtain ⟨u, hu, rfl⟩ := List.mem_map.mp hu'
  split at hp
  · exact .inr hp
  · exact .inl ⟨u, hu, hp⟩

/-- After the cascade no user has the key, as long as every stored value
has the written shape (a JSON null would survive it on SQLite). -/
theorem stored_cascadeUsers {backend : DatabaseBackend} {key : String} {users : List UserRecord}
    (hshape : ∀ p, Stored users p → storedShape p.2 = true) {p : String × JsonValue}
    (h : Stored (cascadeUsers backend key users) p) : Stored users p ∧ p.1 ≠ key := by
  obtain ⟨u', hu', hp⟩ := h
  obtain ⟨u, hu, rfl⟩ := List.mem_map.mp hu'
  split at hp
  · obtain ⟨hp, hne⟩ := AttrMap.mem_remove.mp hp
    exact ⟨⟨u, hu, hp⟩, hne⟩
  · rename_i hno
    refine ⟨⟨u, hu, hp⟩, fun hk => hno ?_⟩
    subst hk
    exact hasAttribute_of_mem hp (hshape p ⟨u, hu, hp⟩)

/-! ## The store invariant

Every reachable store keeps these, whatever the requests: ids are fresh,
every stored key has a user definition, and every stored value is a
string or an array of strings. -/

structure StoreInv (store : AttributeStore) : Prop where
  ids_lt : ∀ d ∈ store.definitions, d.id < store.nextId
  ids_nodup : (store.definitions.map (·.id)).Nodup
  keys_defined : ∀ p, Stored store.users p → ∃ d ∈ userDefinitions store.definitions, d.key = p.1
  values_shaped : ∀ p, Stored store.users p → storedShape p.2 = true

theorem storeInv_empty : StoreInv AttributeStore.empty where
  ids_lt := by simp [AttributeStore.empty]
  ids_nodup := List.nodup_nil
  keys_defined := by rintro p ⟨u, hu, -⟩; cases hu
  values_shaped := by rintro p ⟨u, hu, -⟩; cases hu

section Writes

variable {store : AttributeStore}

/-- The definition with a given id is the one found by it. -/
theorem eq_of_id_eq (hi : StoreInv store) {d x : AttributeDefinition} (hd : d ∈ store.definitions)
    (hx : x ∈ store.definitions) (h : x.id = d.id) : x = d :=
  List.inj_on_of_nodup_map hi.ids_nodup hx hd h

theorem storeInv_appendDefinition (hi : StoreInv store) {d : AttributeDefinition}
    (hid : d.id = store.nextId) :
    StoreInv { store with definitions := store.definitions ++ [d], nextId := store.nextId + 1 } where
  ids_lt := by
    intro x hx
    rcases List.mem_append.mp hx with hx | hx
    · exact Nat.lt_succ_of_lt (hi.ids_lt x hx)
    · rw [List.mem_singleton.mp hx, hid]
      exact Nat.lt_succ_self _
  ids_nodup := by
    rw [List.map_append, List.nodup_append]
    refine ⟨hi.ids_nodup, List.nodup_singleton _, ?_⟩
    -- the new id is above every old one
    intro a ha b hb
    obtain ⟨x, hx, rfl⟩ := List.mem_map.mp ha
    rw [List.map_singleton, List.mem_singleton] at hb
    have := hi.ids_lt x hx
    omega
  keys_defined := by
    intro p hp
    obtain ⟨x, hx, hk⟩ := hi.keys_defined p hp
    rw [mem_userDefinitions] at hx
    exact ⟨x, mem_userDefinitions.mpr ⟨List.mem_append_left _ hx.1, hx.2⟩, hk⟩
  values_shaped := hi.values_shaped

/-- A rewrite of the definitions that keeps each one's id, key and entity
type. -/
theorem storeInv_mapDefinitions (hi : StoreInv store) {f : AttributeDefinition → AttributeDefinition}
    (hf : ∀ x, (f x).id = x.id ∧ (f x).key = x.key ∧ (f x).entityType = x.entityType) :
    StoreInv { store with definitions := store.definitions.map f } where
  ids_lt := by
    intro y hy
    obtain ⟨x, hx, rfl⟩ := List.mem_map.mp hy
    rw [(hf x).1]
    exact hi.ids_lt x hx
  ids_nodup := by
    have hids : (store.definitions.map f).map (·.id) = store.definitions.map (·.id) := by
      rw [List.map_map]
      exact List.map_congr_left fun x _ => (hf x).1
    exact hids ▸ hi.ids_nodup
  keys_defined := by
    intro p hp
    obtain ⟨x, hx, hk⟩ := hi.keys_defined p hp
    rw [mem_userDefinitions] at hx
    exact ⟨f x, mem_userDefinitions.mpr ⟨List.mem_map_of_mem hx.1, (hf x).2.2.trans hx.2⟩,
      (hf x).2.1.trans hk⟩
  values_shaped := hi.values_shaped

/-- The users after deleting `d`: a user definition cascades. -/
theorem stored_deleteUsers (hi : StoreInv store) {backend : DatabaseBackend} {d : AttributeDefinition}
    {p : String × JsonValue}
    (hp : Stored (if d.entityType = "user" then cascadeUsers backend d.key store.users
      else store.users) p) :
    Stored store.users p ∧ (d.entityType = "user" → p.1 ≠ d.key) := by
  split at hp
  · have hcascade := stored_cascadeUsers hi.values_shaped hp
    exact ⟨hcascade.1, fun _ => hcascade.2⟩
  · rename_i hnot
    exact ⟨hp, fun h => absurd h hnot⟩

theorem storeInv_removeDefinition (hi : StoreInv store) {backend : DatabaseBackend}
    {d : AttributeDefinition} {id : Nat} (hd : d ∈ store.definitions) (hid : d.id = id) :
    StoreInv { store with
      definitions := store.definitions.filter (·.id ≠ id)
      users := if d.entityType = "user" then cascadeUsers backend d.key store.users
        else store.users } where
  ids_lt := fun x hx => hi.ids_lt x (List.mem_filter.mp hx).1
  ids_nodup := (List.filter_sublist.map _).nodup hi.ids_nodup
  keys_defined := by
    intro p hp
    obtain ⟨hp, hne⟩ := stored_deleteUsers hi hp
    obtain ⟨x, hx, hk⟩ := hi.keys_defined p hp
    rw [mem_userDefinitions] at hx
    -- the definition of the key survives: were its id the deleted one, it would be `d`
    have hxid : x.id ≠ id := by
      intro hxid
      have hxd := eq_of_id_eq hi hd hx.1 (hxid.trans hid.symm)
      subst hxd
      exact hne hx.2 hk.symm
    exact ⟨x, mem_userDefinitions.mpr ⟨List.mem_filter.mpr ⟨hx.1, by simpa using hxid⟩, hx.2⟩, hk⟩
  values_shaped := fun p hp => hi.values_shaped p (stored_deleteUsers hi hp).1

theorem storeInv_appendUser (hi : StoreInv store) (username : String) :
    StoreInv { store with
      users := store.users ++ [⟨store.nextId, username, ⟨[], List.nodup_nil⟩⟩]
      nextId := store.nextId + 1 } where
  ids_lt := fun x hx => Nat.lt_succ_of_lt (hi.ids_lt x hx)
  ids_nodup := hi.ids_nodup
  keys_defined := fun p hp => hi.keys_defined p ((stored_append_empty rfl).mp hp)
  values_shaped := fun p hp => hi.values_shaped p ((stored_append_empty rfl).mp hp)

theorem storeInv_setAttributes (hi : StoreInv store) {id : Nat} {attrs : AttrMap}
    (hcheck : ∀ p ∈ attrs.val, checkAttribute (userDefinitions store.definitions) p.1 p.2 = .ok ()) :
    StoreInv { store with
      users := store.users.map fun u => if u.id = id then { u with attributes := attrs } else u } where
  ids_lt := hi.ids_lt
  ids_nodup := hi.ids_nodup
  keys_defined := by
    intro p hp
    rcases stored_map_attributes hp with hp | hp
    · exact hi.keys_defined p hp
    · -- a new entry passed the check, which found its definition
      obtain ⟨⟨x, hx⟩, -⟩ := checkAttribute_eq_ok (hcheck p hp)
      exact ⟨x, mem_of_find?_decide_eq_some hx⟩
  values_shaped := by
    intro p hp
    rcases stored_map_attributes hp with hp | hp
    · exact hi.values_shaped p hp
    · exact (checkAttribute_eq_ok (hcheck p hp)).2

/-- Under distinct ids the update rewrites the definition with the id from
itself. -/
theorem map_update_eq (hi : StoreInv store) {d : AttributeDefinition} {id : Nat}
    {body : UpdateAttributeDefinitionRequest} (hd : d ∈ store.definitions) (hid : d.id = id) :
    store.definitions.map (fun x => if x.id = id then d.update body else x) =
      store.definitions.map (fun x => if x.id = id then x.update body else x) := by
  refine List.map_congr_left fun x hx => ?_
  split
  · rename_i hxid
    rw [eq_of_id_eq hi hd hx (hxid.trans hid.symm)]
  · rfl

theorem updateIf_fields {id : Nat} {body : UpdateAttributeDefinitionRequest} (x : AttributeDefinition) :
    (if x.id = id then x.update body else x).id = x.id ∧
      (if x.id = id then x.update body else x).key = x.key ∧
      (if x.id = id then x.update body else x).entityType = x.entityType := by
  split <;> exact ⟨rfl, rfl, rfl⟩

/-- An update that sets neither the value type nor the allowed values keeps
what the write check reads. -/
theorem updateIf_constraints {id : Nat} {body : UpdateAttributeDefinitionRequest}
    (hv : body.valueType = none) (ha : body.allowedValues = none) (x : AttributeDefinition) :
    (if x.id = id then x.update body else x).key = x.key ∧
      (if x.id = id then x.update body else x).entityType = x.entityType ∧
      (if x.id = id then x.update body else x).valueType = x.valueType ∧
      (if x.id = id then x.update body else x).allowedValues = x.allowedValues := by
  split
  · simp [AttributeDefinition.update, hv, ha]
  · exact ⟨rfl, rfl, rfl, rfl⟩

end Writes

/-- Every request keeps the invariant; a rejected one changes nothing. -/
theorem AttributeRequest.apply_inv {backend : DatabaseBackend} {store store' : AttributeStore}
    {r : AttributeRequest} (hi : StoreInv store) (h : r.apply backend store = .ok store') :
    StoreInv store' := by
  cases r with
  | createDefinition body =>
      obtain ⟨d, hid, -, -, -, rfl⟩ := createAttributeDefinition_eq_ok h
      exact storeInv_appendDefinition hi hid
  | updateDefinition id body =>
      obtain ⟨d, hd, hid, rfl⟩ := updateAttributeDefinition_eq_ok h
      rw [map_update_eq hi hd hid]
      exact storeInv_mapDefinitions hi updateIf_fields
  | deleteDefinition id force =>
      obtain ⟨d, hd, hid, rfl⟩ := deleteAttributeDefinition_eq_ok h
      exact storeInv_removeDefinition hi hd hid
  | createUser username password =>
      rw [createUser_eq_ok h]
      exact storeInv_appendUser hi username
  | updateUser id attributes =>
      rcases updateUser_eq_ok h with rfl | ⟨attrs, hcheck, rfl⟩
      · exact hi
      · exact storeInv_setAttributes hi hcheck

theorem stepStore_inv {backend : DatabaseBackend} {store : AttributeStore} {r : AttributeRequest}
    (hi : StoreInv store) : StoreInv (stepStore backend store r) := by
  unfold stepStore
  split
  · rename_i h
    exact AttributeRequest.apply_inv hi h
  · exact hi

theorem runStore_eq_foldl (backend : DatabaseBackend) :
    ∀ (store : AttributeStore) (reqs : List AttributeRequest),
      runStore backend store reqs = reqs.foldl (stepStore backend) store
  | _, [] => rfl
  | store, r :: rs => runStore_eq_foldl backend (stepStore backend store r) rs

theorem runStore_inv {backend : DatabaseBackend} {store : AttributeStore}
    (reqs : List AttributeRequest) (hi : StoreInv store) : StoreInv (runStore backend store reqs) := by
  rw [runStore_eq_foldl]
  exact Fold.foldl_inv (fun _ _ hs => stepStore_inv hs) reqs store hi

/-! ## Conformance

A stored value conforms when `update_user`'s own check, run now against
the current user definitions, accepts it. No handler but a definition
update that sets the value type or the allowed values can break that. -/

def Conforms (store : AttributeStore) : Prop :=
  ∀ p, Stored store.users p → checkAttribute (userDefinitions store.definitions) p.1 p.2 = .ok ()

/-- The check over every stored value, to evaluate on a store. -/
def conformsB (store : AttributeStore) : Bool :=
  store.users.all fun u => u.attributes.val.all fun p =>
    (checkAttribute (userDefinitions store.definitions) p.1 p.2).isOk

theorem conforms_iff {store : AttributeStore} : Conforms store ↔ conformsB store = true := by
  simp only [Conforms, Stored, conformsB, List.all_eq_true, Except.isOk_iff_eq_ok]
  constructor
  · intro h u hu p hp
    exact h p ⟨u, hu, hp⟩
  · rintro h p ⟨u, hu, hp⟩
    exact h u hu p hp

theorem conforms_empty : Conforms AttributeStore.empty := by
  rintro p ⟨u, hu, -⟩
  cases hu

section Writes

variable {store : AttributeStore}

theorem conforms_appendDefinition (hi : StoreInv store) (hc : Conforms store) (d : AttributeDefinition) :
    Conforms { store with definitions := store.definitions ++ [d], nextId := store.nextId + 1 } := by
  intro p hp
  -- the key's first user definition is an old one
  have hsome : (checkView store.definitions p.1).isSome := checkView_isSome.mpr (hi.keys_defined p hp)
  exact (checkAttribute_congr (checkView_append d hsome) p.2).trans (hc p hp)

theorem conforms_mapDefinitions (hc : Conforms store) {f : AttributeDefinition → AttributeDefinition}
    (hf : ∀ x, (f x).key = x.key ∧ (f x).entityType = x.entityType ∧
      (f x).valueType = x.valueType ∧ (f x).allowedValues = x.allowedValues) :
    Conforms { store with definitions := store.definitions.map f } := by
  intro p hp
  exact (checkAttribute_congr (checkView_map fun x _ => hf x) p.2).trans (hc p hp)

theorem conforms_removeDefinition (hi : StoreInv store) (hc : Conforms store)
    {backend : DatabaseBackend} {d : AttributeDefinition} {id : Nat} (hd : d ∈ store.definitions)
    (hid : d.id = id) :
    Conforms { store with
      definitions := store.definitions.filter (·.id ≠ id)
      users := if d.entityType = "user" then cascadeUsers backend d.key store.users
        else store.users } := by
  intro p hp
  obtain ⟨hp, hne⟩ := stored_deleteUsers hi hp
  -- the only definition removed is `d`, and a user `d` took its key with it
  have hview : checkView (store.definitions.filter (·.id ≠ id)) p.1 = checkView store.definitions p.1 := by
    refine checkView_filter fun x hx hxid hxu hxk => ?_
    have hxd := eq_of_id_eq hi hd hx ((by simpa using hxid : x.id = id).trans hid.symm)
    subst hxd
    exact hne hxu hxk.symm
  exact (checkAttribute_congr hview p.2).trans (hc p hp)

theorem conforms_appendUser (hc : Conforms store) (username : String) :
    Conforms { store with
      users := store.users ++ [⟨store.nextId, username, ⟨[], List.nodup_nil⟩⟩]
      nextId := store.nextId + 1 } :=
  fun p hp => hc p ((stored_append_empty rfl).mp hp)

theorem conforms_setAttributes (hc : Conforms store) {id : Nat} {attrs : AttrMap}
    (hcheck : ∀ p ∈ attrs.val, checkAttribute (userDefinitions store.definitions) p.1 p.2 = .ok ()) :
    Conforms { store with
      users := store.users.map fun u => if u.id = id then { u with attributes := attrs } else u } := by
  intro p hp
  rcases stored_map_attributes hp with hp | hp
  · exact hc p hp
  · exact hcheck p hp

end Writes

theorem AttributeRequest.apply_conforms {backend : DatabaseBackend} {store store' : AttributeStore}
    {r : AttributeRequest} (hi : StoreInv store) (hc : Conforms store)
    (hr : r.setsValueConstraints = false) (h : r.apply backend store = .ok store') :
    Conforms store' := by
  cases r with
  | createDefinition body =>
      obtain ⟨d, -, -, -, -, rfl⟩ := createAttributeDefinition_eq_ok h
      exact conforms_appendDefinition hi hc d
  | updateDefinition id body =>
      simp only [AttributeRequest.setsValueConstraints, Bool.or_eq_false_iff,
        Option.isSome_eq_false_iff, Option.isNone_iff_eq_none] at hr
      obtain ⟨d, hd, hid, rfl⟩ := updateAttributeDefinition_eq_ok h
      rw [map_update_eq hi hd hid]
      exact conforms_mapDefinitions hc (updateIf_constraints hr.1 hr.2)
  | deleteDefinition id force =>
      obtain ⟨d, hd, hid, rfl⟩ := deleteAttributeDefinition_eq_ok h
      exact conforms_removeDefinition hi hc hd hid
  | createUser username password =>
      rw [createUser_eq_ok h]
      exact conforms_appendUser hc username
  | updateUser id attributes =>
      rcases updateUser_eq_ok h with rfl | ⟨attrs, hcheck, rfl⟩
      · exact hc
      · exact conforms_setAttributes hc hcheck

theorem stepStore_conforms {backend : DatabaseBackend} {store : AttributeStore} {r : AttributeRequest}
    (hi : StoreInv store) (hc : Conforms store) (hr : r.setsValueConstraints = false) :
    Conforms (stepStore backend store r) := by
  unfold stepStore
  split
  · rename_i h
    exact AttributeRequest.apply_conforms hi hc hr h
  · exact hc

/-- Over a run with no constraint-setting definition update, the invariant
and conformance are carried together. -/
theorem runStore_conforms {backend : DatabaseBackend} {store : AttributeStore}
    (reqs : List AttributeRequest) (hi : StoreInv store) (hc : Conforms store)
    (hr : ∀ r ∈ reqs, r.setsValueConstraints = false) : Conforms (runStore backend store reqs) := by
  rw [runStore_eq_foldl]
  refine (Fold.foldl_inv_of_mem (P := fun s => StoreInv s ∧ Conforms s) reqs store ?_ ⟨hi, hc⟩).2
  rintro s r hmem ⟨hs, hcs⟩
  exact ⟨stepStore_inv hs, stepStore_conforms hs hcs (hr r hmem)⟩

/-- Every reachable store: each stored key has a user definition and each
stored value is a string or an array of strings; and while no definition
update has set a value type or allowed values, each stored value passes
the write check against the definitions as they are now. -/
theorem storedAttributes_conform (backend : DatabaseBackend) (reqs : List AttributeRequest) :
    (∀ u ∈ (runStore backend .empty reqs).users, ∀ p ∈ u.attributes.val,
      (∃ d ∈ (runStore backend .empty reqs).definitions, d.entityType = "user" ∧ d.key = p.1) ∧
        storedShape p.2 = true) ∧
    ((∀ r ∈ reqs, r.setsValueConstraints = false) → Conforms (runStore backend .empty reqs)) := by
  have hi : StoreInv (runStore backend .empty reqs) := runStore_inv reqs storeInv_empty
  refine ⟨fun u hu p hp => ⟨?_, hi.values_shaped p ⟨u, hu, hp⟩⟩,
    fun hr => runStore_conforms reqs storeInv_empty conforms_empty hr⟩
  obtain ⟨d, hd, hk⟩ := hi.keys_defined p ⟨u, hu, hp⟩
  rw [mem_userDefinitions] at hd
  exact ⟨d, hd.1, hd.2, hk⟩

/-- Two user definitions, a user whose attributes pass the check, then two
definition updates: `tenant` becomes an integer, and `region` loses `eu`. -/
def retypeRequests : List AttributeRequest :=
  [.createDefinition ⟨"tenant", "user", "Tenant", "string", none, none, none⟩,
   .createDefinition ⟨"region", "user", "Region", "string", none, some ["us", "eu"], none⟩,
   .createUser "alice" "Secret#123",
   .updateUser 2 (some ⟨[("tenant", .string "acme"), ("region", .string "eu")], by decide⟩),
   .updateDefinition 0 ⟨none, some "integer", none, none, none⟩,
   .updateDefinition 1 ⟨none, none, none, some (some ["us"]), none⟩]

theorem definitionRetypeRun :
    Conforms (runStore .postgres .empty (retypeRequests.take 4)) ∧
      ¬ Conforms (runStore .postgres .empty retypeRequests) := by
  rw [conforms_iff, conforms_iff]
  exact ⟨by decide +kernel, by decide +kernel⟩

end BetweenRows
