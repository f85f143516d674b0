import Mathlib.Data.List.AList

/-!
# Policy targeting (`policy_match.rs`)

Policy types, resource target entries and the glob matching every policy
path shares. A pattern is `"*"`, a prefix glob `"p*"`, a suffix glob `"*s"`
or an exact name (`matchesPattern`); a target entry matches a
`(df_schema, table)` pair when one of its schema patterns matches the
schema's *upstream* name (aliases resolved through `df_to_upstream`) and
one of its table patterns matches the table (`TargetEntry.matchesTable`).

Names are `String`s. The glob tests look at the name's characters
(`String.toList`): `strip_suffix('*')`/`starts_with` and
`strip_prefix('*')`/`ends_with` on a `&str` agree with prefix and suffix
tests on its character list. The admin-side
check of target entries is in `BetweenRows.Admin.Dto`.

A table is keyed by its `(schema, table)` pair, and the policy, catalog and
resolution code asks whether a key is in a list of keys (`HashSet::contains`
and `visited.insert` in the source). That test decides with the pair's
lawful `BEq`; `instLawfulBEqTableKey` is the one instance every module finds
for it, so the membership test is one and the same term wherever a key is
looked up.
-/

namespace BetweenRows

instance instLawfulBEqTableKey : LawfulBEq (String × String) := inferInstance

inductive PolicyType where
  | rowFilter
  | columnMask
  | columnAllow
  | columnDeny
  | tableDeny
  deriving DecidableEq, Repr

namespace PolicyType

def asStr : PolicyType → String
  | rowFilter => "row_filter"
  | columnMask => "column_mask"
  | columnAllow => "column_allow"
  | columnDeny => "column_deny"
  | tableDeny => "table_deny"

def isDeny : PolicyType → Bool
  | columnDeny | tableDeny => true
  | _ => false

def affectsVisibility : PolicyType → Bool
  | columnAllow | columnDeny | tableDeny => true
  | _ => false

def fromStr (s : String) : Except String PolicyType :=
  if s = "row_filter" then .ok rowFilter
  else if s = "column_mask" then .ok columnMask
  else if s = "column_allow" then .ok columnAllow
  else if s = "column_deny" then .ok columnDeny
  else if s = "table_deny" then .ok tableDeny
  else .error ("Unknown policy_type: '" ++ s ++ "'")

theorem fromStr_asStr (t : PolicyType) : fromStr t.asStr = .ok t := by
  cases t <;> decide

end PolicyType

/-- `TargetEntry`: which schemas, tables and optionally columns a policy
applies to. -/
structure TargetEntry where
  schemas : List String
  tables : List String
  columns : Option (List String)
  deriving DecidableEq, Repr

def matchesPattern (pattern value : String) : Bool :=
  if pattern = "*" then true
  else if pattern.toList.getLast? = some '*' then
    -- `strip_suffix('*')`: a prefix glob
    pattern.toList.dropLast.isPrefixOf value.toList
  else if pattern.toList.head? = some '*' then
    -- `strip_prefix('*')`: a suffix glob
    pattern.toList.tail.isSuffixOf value.toList
  else pattern = value

/-- `df_to_upstream.get(df_schema).unwrap_or(df_schema)` -/
def upstreamOf (dfToUpstream : List (String × String)) (dfSchema : String) : String :=
  (dfToUpstream.lookup dfSchema).getD dfSchema

def TargetEntry.matchesTable (e : TargetEntry) (dfSchema table : String)
    (dfToUpstream : List (String × String)) : Bool :=
  e.schemas.any (matchesPattern · (upstreamOf dfToUpstream dfSchema)) &&
    e.tables.any (matchesPattern · table)

/-- `expand_column_patterns(patterns, actual_columns)`: the actual columns
some pattern matches. -/
def expandColumnPatterns (patterns actual : List String) : List String :=
  actual.filter fun c => patterns.any (matchesPattern · c)

theorem matchesPattern_self (p : String) : matchesPattern p p = true := by
  unfold matchesPattern
  split_ifs with h1 h2 h3
  · rfl
  · exact List.isPrefixOf_iff_prefix.mpr (List.dropLast_prefix _)
  · exact List.isSuffixOf_iff_suffix.mpr (List.tail_suffix _)
  · exact decide_eq_true rfl

theorem matchesPattern_star (v : String) : matchesPattern "*" v = true := by
  simp [matchesPattern]

theorem mem_expandColumnPatterns {patterns actual : List String} {c : String} :
    c ∈ expandColumnPatterns patterns actual ↔
      c ∈ actual ∧ ∃ p ∈ patterns, matchesPattern p c = true := by
  simp [expandColumnPatterns]

theorem expandColumnPatterns_append (p₁ p₂ actual : List String) {c : String} :
    c ∈ expandColumnPatterns (p₁ ++ p₂) actual ↔
      c ∈ expandColumnPatterns p₁ actual ∨ c ∈ expandColumnPatterns p₂ actual := by
  simp only [mem_expandColumnPatterns, List.mem_append]
  constructor
  · rintro ⟨hc, p, hp | hp, hm⟩
    · exact Or.inl ⟨hc, p, hp, hm⟩
    · exact Or.inr ⟨hc, p, hp, hm⟩
  · rintro (⟨hc, p, hp, hm⟩ | ⟨hc, p, hp, hm⟩)
    · exact ⟨hc, p, Or.inl hp, hm⟩
    · exact ⟨hc, p, Or.inr hp, hm⟩

/-- Column patterns per `(df_schema, table)` key: the
`HashMap<(String, String), Vec<String>>` both enforcement paths fill. -/
abbrev PatternMap := AList fun _ : String × String => List String

/-- `map.entry(key).or_default().extend(cols)` -/
def PatternMap.extend (m : PatternMap) (key : String × String) (cols : List String) :
    PatternMap :=
  m.insert key ((m.lookup key).getD [] ++ cols)

theorem PatternMap.lookup_extend (m : PatternMap) (key k : String × String)
    (cols : List String) :
    (m.extend key cols).lookup k =
      if k = key then some ((m.lookup key).getD [] ++ cols) else m.lookup k := by
  unfold PatternMap.extend
  split_ifs with hk
  · subst hk
    exact AList.lookup_insert _
  · exact AList.lookup_insert_ne hk

end BetweenRows
