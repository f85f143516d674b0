import BetweenRows.Admin.Definitions
import BetweenRows.Policy.Template
import BetweenRows.Data.Assoc

/-!
# From stored attributes to a decision function's context

At session load, `load_user_attributes` reads a user's JSON attributes. It
pairs each one with the value type of its definition, or `string` when the
key has no definition, and keeps the value as text: a list as its JSON text.
At query time `handle_query` resolves the defaults of the user definitions
the user lacks (`resolve_user_attribute_defaults`). It then reads each text
back at its type for the decision function's `ctx.session.user`
(`build_user_object`), where the built-in fields win. A text that does not
read at its type is passed on as a string. `build_typed_json_attributes`
does the same for the visibility decision functions.

The main results follow a stored value through these steps, against what
the value means at its definition's type (`ReadsAs`):

* `sessionUser_storedAttribute`. Take a store where no definition update has
  set a value type or allowed values. Every value a user holds reaches
  `ctx.session.user` as what its text reads as at the definition's type. A
  string or a list arrives exactly as stored.
* `sessionUser_defaultAttribute`. In every reachable store, a user
  definition the user lacks reaches it as the definition's default read at
  its type, or as `null` when there is no default.

Neither kind of key is ever shadowed by a built-in field: a user
definition's key is never a reserved one.
-/

namespace BetweenRows

open Json

/-! ## Loading the attributes (`load_user_attributes`) -/

/-- The value type `def_map` gives a key. The user definitions are collected
into a `HashMap`, where a later definition of a key replaces an earlier one;
a key without a definition is a string. -/
def defValueType (defs : List AttributeDefinition) (key : String) : String :=
  ((defs.reverse.find? (·.key = key)).map (·.valueType)).getD "string"

/-- The text kept of a stored value. A list is kept as its JSON text
(`serde_json::to_string`). Otherwise a string is kept as itself and any other
value as its JSON text. -/
def attributeText (valueType : String) (value : JsonValue) : String :=
  if valueType = "list" then value.render
  else match value with
    | .string s => s
    | other => other.render

/-- The loop over the user's attributes. -/
def typedAttributes (defs : List AttributeDefinition) (attrs : List (String × JsonValue)) :
    List (String × TypedAttribute) :=
  attrs.map fun p =>
    let valueType := defValueType defs p.1
    (p.1, ⟨attributeText valueType p.2, valueType⟩)

/-- `attr_defs`: the `HashMap` of every user definition's default and type.
The later definition of a key comes first, so a lookup and the defaults loop
see the one the `HashMap` keeps. -/
def attrDefInfos (defs : List AttributeDefinition) : List (String × AttrDefInfo) :=
  defs.reverse.map fun d => (d.key, ⟨d.defaultValue, d.valueType⟩)

/-- `load_user_attributes`: the user's typed attributes, and every user
definition's default. -/
def loadUserAttributes (store : AttributeStore) (userId : Nat) :
    Except String (List (String × TypedAttribute) × List (String × AttrDefInfo)) := do
  let user ← Except.require (store.users.find? (·.id = userId))
    ("User " ++ toString userId ++ " not found")
  let defs := userDefinitions store.definitions
  pure (typedAttributes defs user.attributes.val, attrDefInfos defs)

/-! ## The decision function's view -/

/-- `str::parse::<bool>`. -/
def parseBool (s : String) : Option Bool :=
  if s = "true" then some true else if s = "false" then some false else none

/-- The JSON a decision function gets for a typed attribute: the text read
at its type, or the text as a string where it does not read. -/
def attributeJsonValue (ta : TypedAttribute) : JsonValue :=
  if ta.valueType = "null" then .null
  else if ta.valueType = "list" then
    match stringArray ta.value.toList with
    | some arr => .array (arr.map .string)
    | none => .string ta.value
  else if ta.valueType = "integer" then
    match Decimal.parseInt true (-2 ^ 63) (2 ^ 63 - 1) ta.value.toList with
    | some n => .number (toString n)
    | none => .string ta.value
  else if ta.valueType = "boolean" then
    match parseBool ta.value with
    | some b => .bool b
    | none => .string ta.value
  else .string ta.value

/-- `json_attrs` in `handle_query`: the defaults resolved, then each value
read at its type. -/
def decisionAttributes (userAttrs : List (String × TypedAttribute))
    (attrDefs : List (String × AttrDefInfo)) : List (String × JsonValue) :=
  (resolveUserAttributeDefaults userAttrs attrDefs).map fun p => (p.1, attributeJsonValue p.2)

/-- `build_typed_json_attributes`: the same steps from a user's stored JSON,
for the visibility decision functions. -/
def buildTypedJsonAttributes (store : AttributeStore) (attrs : List (String × JsonValue)) :
    List (String × JsonValue) :=
  let defs := userDefinitions store.definitions
  decisionAttributes (typedAttributes defs attrs) (attrDefInfos defs)

/-- `build_user_object`: the built-in fields, then each attribute under a key
that no field has yet (`entry().or_insert()`). -/
def buildUserObject (userId username : String) (roles : List String)
    (attributes : List (String × JsonValue)) : List (String × JsonValue) :=
  attributes.foldl Assoc.insertIfAbsent
    [("id", .string userId), ("username", .string username), ("roles", .array (roles.map .string))]

/-! ## What a typed attribute means -/

/-- A value of one of the attribute types. -/
inductive AttrValue where
  | string (s : String)
  | integer (n : Int)
  | boolean (b : Bool)
  | list (xs : List String)
  deriving DecidableEq, Repr

/-- The JSON of a value (`serde_json::json!`). -/
def AttrValue.json : AttrValue → JsonValue
  | .string s => .string s
  | .integer n => .number (toString n)
  | .boolean b => .bool b
  | .list xs => .array (xs.map .string)

/-- The text of an attribute, read at a value type. -/
inductive ReadsAs : String → String → AttrValue → Prop
  | string (s : String) : ReadsAs "string" s (.string s)
  | integer {s : String} {n : Int} :
      Decimal.parseInt true (-2 ^ 63) (2 ^ 63 - 1) s.toList = some n → ReadsAs "integer" s (.integer n)
  | boolean (b : Bool) : ReadsAs "boolean" (toString b) (.boolean b)
  | list {s : String} {xs : List String} : stringArray s.toList = some xs → ReadsAs "list" s (.list xs)

theorem ReadsAs.eq_string {t s : String} {m : AttrValue} (h : ReadsAs t s m) (ht : t = "string") :
    m = .string s := by
  cases h with
  | string => rfl
  | integer => exact absurd ht (by decide)
  | boolean => exact absurd ht (by decide)
  | list => exact absurd ht (by decide)

theorem JsonValue.asStr?_eq_some {v : JsonValue} {s : String} : v.asStr? = some s ↔ v = .string s := by
  cases v <;> simp [JsonValue.asStr?]

theorem JsonValue.asArray?_eq_some {v : JsonValue} {vs : List JsonValue} :
    v.asArray? = some vs ↔ v = .array vs := by
  cases v <;> simp [JsonValue.asArray?]

theorem attributeText_list (value : JsonValue) : attributeText "list" value = value.render := by
  simp [attributeText]

theorem attributeText_string {t : String} (h : t ≠ "list") (s : String) :
    attributeText t (.string s) = s := by
  simp [attributeText, h]

/-- A text that reads at its type reaches the decision function as its
value, never as the string fallback. -/
theorem attributeJsonValue_of_readsAs {t s : String} {m : AttrValue} (h : ReadsAs t s m) :
    attributeJsonValue ⟨s, t⟩ = m.json := by
  cases h with
  | string s => simp [attributeJsonValue, AttrValue.json]
  | integer hn =>
      simp only [Int.reducePow, Int.reduceNeg, Int.reduceSub] at hn
      simp [attributeJsonValue, AttrValue.json, hn]
  | boolean b => cases b <;> rfl
  | list hxs => simp [attributeJsonValue, AttrValue.json, hxs]

/-- An array whose elements are all strings is an array of strings. -/
theorem exists_strings_of_asStr :
    ∀ {l : List JsonValue}, (∀ v ∈ l, v.asStr?.isSome) → ∃ xs : List String, l = xs.map .string
  | [], _ => ⟨[], rfl⟩
  | v :: rest, h => by
      obtain ⟨xs, rfl⟩ := exists_strings_of_asStr fun w hw => h w (List.mem_cons_of_mem v hw)
      have hv := h v List.mem_cons_self
      cases v with
      | string s => exact ⟨s :: xs, rfl⟩
      | _ => simp [JsonValue.asStr?] at hv

/-- `validate_value` and the decision function's parsers agree: a text the
check accepts reads at its type. -/
theorem readsAs_of_validateValue {s t : String} (h : validateValue s t = .ok ()) :
    ∃ m, ReadsAs t s m := by
  unfold validateValue at h
  by_cases hstr : t = "string"
  · subst hstr
    exact ⟨_, ReadsAs.string s⟩
  rw [if_neg hstr] at h
  by_cases hint : t = "integer"
  · subst hint
    rw [if_pos rfl] at h
    split at h
    · rename_i n hn
      exact ⟨_, ReadsAs.integer hn⟩
    · cases h
  rw [if_neg hint] at h
  by_cases hbool : t = "boolean"
  · subst hbool
    rw [if_pos rfl] at h
    split at h
    · rename_i hval
      rcases hval with rfl | rfl
      · exact ⟨_, ReadsAs.boolean true⟩
      · exact ⟨_, ReadsAs.boolean false⟩
    · cases h
  rw [if_neg hbool] at h
  by_cases hlist : t = "list"
  · subst hlist
    rw [if_pos rfl] at h
    split at h
    · rename_i arr harr
      -- the check saw every element as a string
      obtain ⟨xs, rfl⟩ := exists_strings_of_asStr (validateListElems_strings h)
      exact ⟨_, ReadsAs.list (by rw [stringArray, harr, Option.bind_some, mapM_asStr_strings])⟩
    · cases h
  rw [if_neg hlist] at h
  cases h

/-- A stored value the write check accepts: its definition is the first
user definition of its key, and the text the loader keeps of it reads at the
definition's type; a string or a list reads as exactly the stored value. -/
theorem readsAs_of_checkAttribute {defs : List AttributeDefinition} {key : String}
    {value : JsonValue} {d : AttributeDefinition} (hd : defs.find? (·.key = key) = some d)
    (h : checkAttribute defs key value = .ok ()) :
    ∃ m, ReadsAs d.valueType (attributeText d.valueType value) m ∧
      (d.valueType = "string" ∨ d.valueType = "list" → m.json = value) := by
  unfold checkAttribute at h
  rw [Except.bind_eq_ok] at h
  obtain ⟨d', hd', h⟩ := h
  rw [Except.require_eq_ok, hd, Option.some.injEq] at hd'
  subst hd'
  split at h
  · -- a list: an array of strings, written out and read back
    rename_i hlist
    rw [Except.bind_eq_ok] at h
    obtain ⟨elems, helems, h⟩ := h
    rw [Except.bind_eq_ok] at h
    obtain ⟨_, hvalid, _⟩ := h
    rw [Except.require_eq_ok, JsonValue.asArray?_eq_some] at helems
    subst helems
    obtain ⟨xs, rfl⟩ :=
      exists_strings_of_asStr (validateListElems_strings (Except.mapError_eq_ok.mp hvalid))
    refine ⟨.list xs, ?_, fun _ => rfl⟩
    rw [hlist, attributeText_list]
    exact ReadsAs.list (stringArray_render_strings xs)
  · -- a scalar: a string that `validate_value` accepts
    rename_i hlist
    rw [Except.bind_eq_ok] at h
    obtain ⟨s, hs, h⟩ := h
    rw [Except.bind_eq_ok] at h
    obtain ⟨_, hvalid, _⟩ := h
    rw [Except.require_eq_ok, JsonValue.asStr?_eq_some] at hs
    subst hs
    obtain ⟨m, hm⟩ := readsAs_of_validateValue (Except.mapError_eq_ok.mp hvalid)
    refine ⟨m, by rw [attributeText_string hlist]; exact hm, ?_⟩
    rintro (hstr | hl)
    · rw [hm.eq_string hstr]
      rfl
    · exact absurd hl hlist

/-! ## The steps of the pipeline -/

/-- The attribute a definition gives a user who lacks it: its default, or the
`"null"` sentinel. -/
def defaultAttribute (info : AttrDefInfo) : TypedAttribute :=
  match info.defaultValue with
  | some v => ⟨v, info.valueType⟩
  | none => ⟨"", "null"⟩

theorem resolveUserAttributeDefaults_eq (userAttrs : List (String × TypedAttribute))
    (attrDefs : List (String × AttrDefInfo)) :
    resolveUserAttributeDefaults userAttrs attrDefs =
      (attrDefs.map fun d => (d.1, defaultAttribute d.2)).foldl Assoc.insertIfAbsent userAttrs := by
  rw [List.foldl_map]
  rfl

/-- After default resolution a key has the user's own value, or else the
default of the first definition of the key. -/
theorem lookup_resolveUserAttributeDefaults (userAttrs : List (String × TypedAttribute))
    (attrDefs : List (String × AttrDefInfo)) (k : String) :
    (resolveUserAttributeDefaults userAttrs attrDefs).lookup k =
      (userAttrs.lookup k).or ((attrDefs.lookup k).map defaultAttribute) := by
  rw [resolveUserAttributeDefaults_eq, Assoc.lookup_foldl_insertIfAbsent, Assoc.lookup_map_snd]

theorem lookup_decisionAttributes (userAttrs : List (String × TypedAttribute))
    (attrDefs : List (String × AttrDefInfo)) (k : String) :
    (decisionAttributes userAttrs attrDefs).lookup k =
      ((userAttrs.lookup k).or ((attrDefs.lookup k).map defaultAttribute)).map attributeJsonValue := by
  rw [decisionAttributes, Assoc.lookup_map_snd, lookup_resolveUserAttributeDefaults]

/-- A key that is no built-in field is the attribute's own. -/
theorem lookup_buildUserObject {userId username : String} {roles : List String}
    {attributes : List (String × JsonValue)} {k : String} (hk : k ∉ ["id", "username", "roles"]) :
    (buildUserObject userId username roles attributes).lookup k = attributes.lookup k := by
  rw [buildUserObject, Assoc.lookup_foldl_insertIfAbsent]
  simp only [List.mem_cons, List.not_mem_nil, or_false, not_or] at hk
  simp [List.lookup_cons, beq_false_of_ne hk.1, beq_false_of_ne hk.2.1, beq_false_of_ne hk.2.2]

/-- The engine's context is the hook's, from the same store. -/
theorem buildTypedJsonAttributes_eq {store : AttributeStore} {userId : Nat}
    {loaded : List (String × TypedAttribute) × List (String × AttrDefInfo)} {u : UserRecord}
    (hu : store.users.find? (·.id = userId) = some u)
    (h : loadUserAttributes store userId = .ok loaded) :
    buildTypedJsonAttributes store u.attributes.val = decisionAttributes loaded.1 loaded.2 := by
  simp only [loadUserAttributes, hu, Except.require, Except.ok_bind, Except.pure_eq_ok] at h
  subst h
  rfl

/-! ## What a well-formed store gives the loader -/

section Loader

variable {store : AttributeStore}

/-- The user definitions have distinct keys. -/
theorem userKeys_nodup (hw : store.WellFormed) :
    ((userDefinitions store.definitions).map (·.key)).Nodup := by
  have hsub : ((userDefinitions store.definitions).map fun d => (d.key, d.entityType)).Nodup :=
    (List.filter_sublist.map _).nodup hw.keys_unique
  -- every user definition's entity type is `user`
  have hpairs : (userDefinitions store.definitions).map (fun d => (d.key, d.entityType)) =
      ((userDefinitions store.definitions).map (·.key)).map fun k => (k, "user") := by
    rw [List.map_map]
    exact List.map_congr_left fun d hd => by simp [(mem_userDefinitions.mp hd).2]
  exact (hpairs ▸ hsub).of_map _

/-- A user's session always loads, with that user's attributes. -/
theorem loadUserAttributes_of_mem (hw : store.WellFormed) {u : UserRecord} (hu : u ∈ store.users) :
    loadUserAttributes store u.id =
      .ok (typedAttributes (userDefinitions store.definitions) u.attributes.val,
        attrDefInfos (userDefinitions store.definitions)) := by
  have hfind : store.users.find? (·.id = u.id) = some u :=
    Assoc.find?_key_eq_of_mem hw.user_ids_nodup hu
  simp [loadUserAttributes, hfind, Except.require]

theorem defValueType_of_mem (hw : store.WellFormed) {d : AttributeDefinition}
    (hd : d ∈ userDefinitions store.definitions) :
    defValueType (userDefinitions store.definitions) d.key = d.valueType := by
  have hnd : ((userDefinitions store.definitions).reverse.map (·.key)).Nodup := by
    rw [List.map_reverse]
    exact List.nodup_reverse.mpr (userKeys_nodup hw)
  rw [defValueType, Assoc.find?_key_eq_of_mem hnd (List.mem_reverse.mpr hd)]
  rfl

theorem lookup_attrDefInfos (hw : store.WellFormed) {d : AttributeDefinition}
    (hd : d ∈ userDefinitions store.definitions) :
    (attrDefInfos (userDefinitions store.definitions)).lookup d.key = some ⟨d.defaultValue, d.valueType⟩ := by
  have hnd : ((attrDefInfos (userDefinitions store.definitions)).map (·.1)).Nodup := by
    simp only [attrDefInfos, List.map_map, Function.comp_def, List.map_reverse, List.nodup_reverse]
    exact userKeys_nodup hw
  exact Assoc.lookup_eq_of_mem (p := (d.key, _)) hnd
    (List.mem_map.mpr ⟨d, List.mem_reverse.mpr hd, rfl⟩)

theorem lookup_typedAttributes {defs : List AttributeDefinition} {attrs : AttrMap} {k : String}
    {v : JsonValue} (hkv : (k, v) ∈ attrs.val) :
    (typedAttributes defs attrs.val).lookup k =
      some ⟨attributeText (defValueType defs k) v, defValueType defs k⟩ := by
  have hnd : ((typedAttributes defs attrs.val).map (·.1)).Nodup := by
    rw [typedAttributes, List.map_map]
    exact attrs.property
  exact Assoc.lookup_eq_of_mem (p := (k, _)) hnd (List.mem_map.mpr ⟨(k, v), hkv, rfl⟩)

theorem lookup_typedAttributes_none {defs : List AttributeDefinition} {attrs : AttrMap} {k : String}
    (hk : k ∉ attrs.val.map (·.1)) : (typedAttributes defs attrs.val).lookup k = none := by
  refine Assoc.lookup_eq_none_of_not_mem ?_
  rw [typedAttributes, List.map_map]
  exact hk

/-- A user definition's key is no built-in field of the user object. -/
theorem not_builtin_of_user (hw : store.WellFormed) {d : AttributeDefinition}
    (hd : d ∈ userDefinitions store.definitions) : d.key ∉ ["id", "username", "roles"] := by
  have hmem := mem_userDefinitions.mp hd
  obtain ⟨avs, -, hv⟩ := hw.definitions_valid d hmem.1
  intro hk
  refine (validateAttributeDefinition_eq_ok hv).1 ⟨hmem.2, ?_⟩
  simp only [List.mem_cons, List.not_mem_nil, or_false] at hk
  rcases hk with hk | hk | hk <;> simp [hk, reservedUserAttributeKeys]

end Loader

/-! ## Through the whole pipeline -/

section Pipeline

variable {store : AttributeStore}

/-- What the user object holds for a user definition's key: the user's own
value if the user has one, else the definition's default. -/
theorem lookup_sessionUser (hw : store.WellFormed) {u : UserRecord} {d : AttributeDefinition}
    (hd : d ∈ userDefinitions store.definitions) (userId username : String) (roles : List String) :
    (buildUserObject userId username roles
        (decisionAttributes (typedAttributes (userDefinitions store.definitions) u.attributes.val)
          (attrDefInfos (userDefinitions store.definitions)))).lookup d.key =
      some (attributeJsonValue
        ((((typedAttributes (userDefinitions store.definitions) u.attributes.val).lookup d.key).getD
          (defaultAttribute ⟨d.defaultValue, d.valueType⟩)))) := by
  rw [lookup_buildUserObject (not_builtin_of_user hw hd), lookup_decisionAttributes,
    lookup_attrDefInfos hw hd]
  cases (typedAttributes (userDefinitions store.definitions) u.attributes.val).lookup d.key <;> rfl

/-- A stored value that passes the write check reaches the user object as
what its text reads as at its definition's type. -/
theorem storedAttribute_seen (hi : StoreInv store) (hw : store.WellFormed) (hc : Conforms store)
    {u : UserRecord} (hu : u ∈ store.users) {k : String} {v : JsonValue}
    (hkv : (k, v) ∈ u.attributes.val) (userId username : String) (roles : List String) :
    ∃ d ∈ userDefinitions store.definitions, d.key = k ∧
      ∃ m, ReadsAs d.valueType (attributeText d.valueType v) m ∧
        (d.valueType = "string" ∨ d.valueType = "list" → m.json = v) ∧
        (buildUserObject userId username roles
          (decisionAttributes (typedAttributes (userDefinitions store.definitions) u.attributes.val)
            (attrDefInfos (userDefinitions store.definitions)))).lookup k = some m.json := by
  obtain ⟨d, hd, rfl⟩ := hi.keys_defined (k, v) ⟨u, hu, hkv⟩
  -- the check found `d`: the user definitions have one per key
  have hfind : (userDefinitions store.definitions).find? (·.key = d.key) = some d :=
    Assoc.find?_key_eq_of_mem (userKeys_nodup hw) hd
  obtain ⟨m, hm, hexact⟩ := readsAs_of_checkAttribute hfind (hc (d.key, v) ⟨u, hu, hkv⟩)
  refine ⟨d, hd, rfl, m, hm, hexact, ?_⟩
  rw [lookup_sessionUser hw hd, lookup_typedAttributes hkv, defValueType_of_mem hw hd]
  exact congrArg some (attributeJsonValue_of_readsAs hm)

/-- A user definition the user lacks reaches the user object as its default
read at its type, or as `null` when it has none. -/
theorem defaultAttribute_seen (hw : store.WellFormed) {u : UserRecord} {d : AttributeDefinition}
    (hd : d ∈ userDefinitions store.definitions) (hk : d.key ∉ u.attributes.val.map (·.1))
    (userId username : String) (roles : List String) :
    (d.defaultValue = none ∧
      (buildUserObject userId username roles
        (decisionAttributes (typedAttributes (userDefinitions store.definitions) u.attributes.val)
          (attrDefInfos (userDefinitions store.definitions)))).lookup d.key = some .null) ∨
    ∃ dv m, d.defaultValue = some dv ∧ ReadsAs d.valueType dv m ∧
      (buildUserObject userId username roles
        (decisionAttributes (typedAttributes (userDefinitions store.definitions) u.attributes.val)
          (attrDefInfos (userDefinitions store.definitions)))).lookup d.key = some m.json := by
  rw [lookup_sessionUser hw hd, lookup_typedAttributes_none hk, Option.getD_none]
  cases hdv : d.defaultValue with
  | none =>
      left
      simp [defaultAttribute, attributeJsonValue]
  | some dv =>
      right
      -- the default passed `validate_value` when its definition was written
      have hmem := mem_userDefinitions.mp hd
      obtain ⟨avs, -, hv⟩ := hw.definitions_valid d hmem.1
      obtain ⟨m, hm⟩ := readsAs_of_validateValue ((validateAttributeDefinition_eq_ok hv).2 dv hdv)
      refine ⟨dv, m, rfl, hm, ?_⟩
      simp only [defaultAttribute]
      exact congrArg some (attributeJsonValue_of_readsAs hm)

end Pipeline

/-! ## Over every run -/

/-- In a store reached by requests none of which sets a definition's value
type or allowed values, every user's session loads, and each value the user
holds reaches `ctx.session.user` under its key as what its text reads as at
its definition's type; a string or a list arrives exactly as stored. -/
theorem sessionUser_storedAttribute (backend : DatabaseBackend) (reqs : List AttributeRequest)
    (hr : ∀ r ∈ reqs, r.setsValueConstraints = false) {u : UserRecord}
    (hu : u ∈ (runStore backend .empty reqs).users) {k : String} {v : JsonValue}
    (hkv : (k, v) ∈ u.attributes.val) (userId username : String) (roles : List String) :
    ∃ loaded, loadUserAttributes (runStore backend .empty reqs) u.id = .ok loaded ∧
      ∃ d ∈ userDefinitions (runStore backend .empty reqs).definitions, d.key = k ∧
        ∃ m, ReadsAs d.valueType (attributeText d.valueType v) m ∧
          (d.valueType = "string" ∨ d.valueType = "list" → m.json = v) ∧
          (buildUserObject userId username roles (decisionAttributes loaded.1 loaded.2)).lookup k =
            some m.json := by
  obtain ⟨hi, hw⟩ := runStore_wellFormed backend reqs
  have hc : Conforms (runStore backend .empty reqs) :=
    runStore_conforms reqs storeInv_empty conforms_empty hr
  exact ⟨_, loadUserAttributes_of_mem hw hu, storedAttribute_seen hi hw hc hu hkv userId username roles⟩

/-- Three user definitions, one with a default, and a user who holds an
integer and a list. -/
def sessionRequests : List AttributeRequest :=
  [.createDefinition ⟨"level", "user", "Level", "integer", none, none, none⟩,
   .createDefinition ⟨"region", "user", "Region", "list", none, some ["us", "eu"], none⟩,
   .createDefinition ⟨"tier", "user", "Tier", "string", some "gold", none, none⟩,
   .createUser "alice" "Secret#123",
   .updateUser 3 (some ⟨[("level", .string "+7"), ("region", .array [.string "eu"])], by decide⟩)]

theorem sessionRequests_stored :
    ∃ u ∈ (runStore .postgres .empty sessionRequests).users, ∃ k v, (k, v) ∈ u.attributes.val ∧
      ∃ loaded, loadUserAttributes (runStore .postgres .empty sessionRequests) u.id = .ok loaded ∧
        ∃ d ∈ userDefinitions (runStore .postgres .empty sessionRequests).definitions, d.key = k ∧
          ∃ m, ReadsAs d.valueType (attributeText d.valueType v) m ∧
            (d.valueType = "string" ∨ d.valueType = "list" → m.json = v) ∧
            (buildUserObject "3" "alice" [] (decisionAttributes loaded.1 loaded.2)).lookup k =
              some m.json := by
  have hany : (runStore .postgres .empty sessionRequests).users.any
      (fun u => !u.attributes.val.isEmpty) = true := by decide +kernel
  obtain ⟨u, hu, hattrs⟩ := List.any_eq_true.mp hany
  obtain ⟨⟨k, v⟩, hkv⟩ := List.exists_mem_of_ne_nil _ (by simpa using hattrs)
  exact ⟨u, hu, k, v, hkv,
    sessionUser_storedAttribute .postgres sessionRequests (by decide) hu hkv "3" "alice" []⟩

/-- In every reachable store, whatever the requests, a user definition a user
lacks reaches `ctx.session.user` under its key: as `null` when it has no
default, and otherwise as its default read at the definition's type. -/
theorem sessionUser_defaultAttribute (backend : DatabaseBackend) (reqs : List AttributeRequest)
    {u : UserRecord} (hu : u ∈ (runStore backend .empty reqs).users) {d : AttributeDefinition}
    (hd : d ∈ userDefinitions (runStore backend .empty reqs).definitions)
    (hk : d.key ∉ u.attributes.val.map (·.1)) (userId username : String) (roles : List String) :
    ∃ loaded, loadUserAttributes (runStore backend .empty reqs) u.id = .ok loaded ∧
      ((d.defaultValue = none ∧
        (buildUserObject userId username roles (decisionAttributes loaded.1 loaded.2)).lookup d.key =
          some .null) ∨
      ∃ dv m, d.defaultValue = some dv ∧ ReadsAs d.valueType dv m ∧
        (buildUserObject userId username roles (decisionAttributes loaded.1 loaded.2)).lookup d.key =
          some m.json) := by
  have hw := (runStore_wellFormed backend reqs).2
  exact ⟨_, loadUserAttributes_of_mem hw hu, defaultAttribute_seen hw hd hk userId username roles⟩


theorem sessionRequests_default :
    ∃ u ∈ (runStore .postgres .empty sessionRequests).users,
      ∃ d ∈ userDefinitions (runStore .postgres .empty sessionRequests).definitions,
        d.key ∉ u.attributes.val.map (·.1) ∧
        ∃ loaded, loadUserAttributes (runStore .postgres .empty sessionRequests) u.id = .ok loaded ∧
          ((d.defaultValue = none ∧
            (buildUserObject "3" "alice" [] (decisionAttributes loaded.1 loaded.2)).lookup d.key =
              some .null) ∨
          ∃ dv m, d.defaultValue = some dv ∧ ReadsAs d.valueType dv m ∧
            (buildUserObject "3" "alice" [] (decisionAttributes loaded.1 loaded.2)).lookup d.key =
              some m.json) := by
  have hany : (runStore .postgres .empty sessionRequests).users.any (fun u =>
      (userDefinitions (runStore .postgres .empty sessionRequests).definitions).any fun d =>
        !(u.attributes.val.map (·.1)).contains d.key) = true := by decide +kernel
  obtain ⟨u, hu, hdefs⟩ := List.any_eq_true.mp hany
  obtain ⟨d, hd, hk⟩ := List.any_eq_true.mp hdefs
  have hk : d.key ∉ u.attributes.val.map (·.1) := by simpa using hk
  exact ⟨u, hu, d, hd, hk,
    sessionUser_defaultAttribute .postgres sessionRequests hu hd hk "3" "alice" []⟩

end BetweenRows
