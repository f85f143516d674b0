import Mathlib
import BetweenRows.Policy.Match
import BetweenRows.Text.Json

/-!
# Admin request validation (`admin/dto.rs`, `admin/mod.rs`)

The error every admin handler returns (`ApiErr`: a status and the `error`
text of the JSON body) and the checks `admin/dto.rs` runs on request bodies
before a handler touches the database: target entries, policy names and
policy definitions, each with the messages the API returns.

`validate_definition` hands expressions to `hooks::policy::validate_expression`,
which parses them with `sqlparser`; that parser is a parameter.
-/

namespace BetweenRows

/-- `ApiErr(StatusCode, String)`: the status and the `error` text. -/
structure ApiErr where
  status : Nat
  msg : String
  deriving DecidableEq, Repr

def ApiErr.notFound (msg : String) : ApiErr := ⟨404, msg⟩

def ApiErr.conflict (msg : String) : ApiErr := ⟨409, msg⟩

/-- `ApiErr::new(StatusCode::UNPROCESSABLE_ENTITY, msg)` -/
def ApiErr.unprocessable (msg : String) : ApiErr := ⟨422, msg⟩

/-- `ApiErr::new(StatusCode::BAD_REQUEST, msg)` -/
def ApiErr.badRequest (msg : String) : ApiErr := ⟨400, msg⟩

/-- `ApiErr::internal(e)`: a 500 with the error's text. -/
def ApiErr.internal (msg : String) : ApiErr := ⟨500, msg⟩


/-! ## `validate_targets` -/

/-- The per-entry checks of `validate_targets`, entry `i`. -/
def validateTargetEntry (policyType : PolicyType) (i : Nat) (e : TargetEntry) :
    Except String Unit :=
  let at_ := "targets[" ++ toString i ++ "]: "
  if e.schemas.isEmpty then .error (at_ ++ "'schemas' must not be empty")
  else if e.tables.isEmpty then .error (at_ ++ "'tables' must not be empty")
  else
    match policyType with
    | .columnMask | .columnAllow | .columnDeny =>
        match e.columns with
        | none | some [] =>
            .error (at_ ++ "'" ++ policyType.asStr ++ "' requires non-empty 'columns'")
        | some _ => .ok ()
    | .rowFilter | .tableDeny =>
        if e.columns.isSome then .error (at_ ++ "'" ++ policyType.asStr ++ "' must not have 'columns'")
        else .ok ()

/-- The `for (i, entry) in targets.iter().enumerate()` loop, from index `i`. -/
def validateTargetEntries (policyType : PolicyType) : Nat → List TargetEntry → Except String Unit
  | _, [] => .ok ()
  | i, e :: es => do
      validateTargetEntry policyType i e
      validateTargetEntries policyType (i + 1) es

def validateTargets (policyType : PolicyType) (targets : List TargetEntry) : Except String Unit :=
  if targets.isEmpty then .error "'targets' must not be empty"
  else validateTargetEntries policyType 0 targets

/-- `char::is_whitespace`: the Unicode `White_Space` property. -/
def isRustWhitespace (c : Char) : Bool :=
  let n := c.toNat
  (0x09 ≤ n && n ≤ 0x0D) || n = 0x20 || n = 0x85 || n = 0xA0 || n = 0x1680 ||
    (0x2000 ≤ n && n ≤ 0x200A) || n = 0x2028 || n = 0x2029 || n = 0x202F || n = 0x205F ||
    n = 0x3000

/-- `str::trim`, on the characters of a string. -/
def rustTrim (cs : List Char) : List Char :=
  ((cs.dropWhile isRustWhitespace).reverse.dropWhile isRustWhitespace).reverse

/-- `validate_policy_name`; the length is `str::len`, in UTF-8 bytes. -/
def validatePolicyName (name : String) : Except String Unit :=
  let trimmed := rustTrim name.toList
  if trimmed.isEmpty || (trimmed.map Char.utf8Size).sum > 100 then
    .error "Policy name must be between 1 and 100 characters"
  else if trimmed ≠ name.toList then
    .error "Policy name must not have leading or trailing whitespace"
  else if !name.toList.all (fun c => c.isAlphanum || " _-.:()'\"".toList.contains c) then
    .error "Policy name contains invalid characters"
  else .ok ()

/-- One branch of `validate_definition`: the definition must hold the string
member `key`, and `validate_expression(expr, is_mask)` must accept it. -/
def validateDefinitionExpr (validateExpression : String → Bool → Except String Unit)
    (policyType key : String) (isMask : Bool) : Option Json.JsonValue → Except String Unit
  | none => .error (policyType ++ " policy requires a 'definition' with '" ++ key ++ "'")
  | some d =>
      match d.get? key with
      | some (.string e) => validateExpression e isMask
      | some _ => .error (policyType ++ ": '" ++ key ++ "' must be a string")
      | none => .error (policyType ++ ": missing required field '" ++ key ++ "'")

/-- `validate_definition`, with `validate_expression(expr, is_mask)` as
`validateExpression`. -/
def validateDefinition (validateExpression : String → Bool → Except String Unit)
    (policyType : PolicyType) (definition : Option Json.JsonValue) : Except String Unit :=
  match policyType with
  | .rowFilter => validateDefinitionExpr validateExpression "row_filter" "filter_expression" false definition
  | .columnMask => validateDefinitionExpr validateExpression "column_mask" "mask_expression" true definition
  | .columnAllow | .columnDeny | .tableDeny => .ok ()

/-- A row filter's or a mask's definition passes exactly when it holds its
expression as a string that `validate_expression` accepts. -/
theorem validateDefinitionExpr_eq_ok {validateExpression : String → Bool → Except String Unit}
    {policyType key : String} {isMask : Bool} {definition : Option Json.JsonValue} :
    validateDefinitionExpr validateExpression policyType key isMask definition = .ok () ↔
      ∃ e, definition.bind (·.get? key) = some (.string e) ∧ validateExpression e isMask = .ok () := by
  cases definition with
  | none => simp [validateDefinitionExpr]
  | some d =>
      simp only [validateDefinitionExpr, Option.bind_some]
      split <;> simp_all

end BetweenRows
