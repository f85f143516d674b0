import BetweenRows.DataFusion.Plan
import BetweenRows.Text.Decimal
import BetweenRows.Text.Json
import BetweenRows.Admin.Dto
import BetweenRows.Control.Except

/-!
# Policy templates (`mangle_vars`, `parse_filter_expr`, `parse_mask_expr`)

A filter or mask template names user attributes as `{user.KEY}`. The values
never enter the text that is parsed: `mangle_vars` replaces each occurrence
by an identifier placeholder and records a mapping from the placeholder,
lowercased, to the value. The text is parsed with sqlparser, and
`sql_ast_to_df_expr` turns an identifier whose lowercase form is the
placeholder of a mapping into a literal of the first such mapping's value.

The placeholder of a scalar attribute `k` is `__br_user_k__`, and those of
a list attribute `k` are `__br_user_k_0__`, `__br_user_k_1__`, and so on.
So the first element of a list `x` and a scalar `x_0` get one placeholder,
as do two keys that differ only in case, and the first mapping answers for
both (`mangleCollisionRun`). Whatever sqlparser returns, a mapping whose
placeholder an earlier one already has is never read
(`sqlAstToDfExpr_append_shadowed`).

sqlparser itself is not modelled: `parseFilterExpr` and `parseMaskExpr`
take its `Parser::parse_expr` as a function. The AST `Sql.Expr` has a
constructor for each arm of `sql_ast_to_df_expr`, with the fields the arm
reads, and `other` for the expression kinds it refuses.
-/

/-! ## The sqlparser AST -/

namespace Sql

/-- `ast::Value`. A number is the text of its token; `other` is every value
the converter refuses, by its `Debug` text. -/
inductive Value where
  | number (n : String)
  | singleQuotedString (s : String)
  | doubleQuotedString (s : String)
  | boolean (b : Bool)
  | null
  | other (debug : String)
  deriving DecidableEq, Repr

inductive BinaryOperator where
  | eq | notEq | lt | gt | ltEq | gtEq | and | or | stringConcat
  | other (debug : String)
  deriving DecidableEq, Repr

inductive UnaryOperator where
  | not | minus
  | other (debug : String)
  deriving DecidableEq, Repr

/-- `ast::DataType`: the types a `CAST` may name, without the lengths and
precisions the converter does not read; `other` is every type it refuses. -/
inductive DataType where
  | varchar | text | char | string
  | smallInt | integer | int | bigInt
  | float | float4 | real
  | double | doublePrecision | float8 | float64
  | boolean
  | other (debug : String)
  deriving DecidableEq, Repr

mutual
/-- `ast::Expr`, with the fields the converter reads: a `LIKE`'s escape
character, a `CAST`'s kind and format, and the clauses of a function's
argument list are not read. A `CASE`'s conditions are `(condition,
result)` pairs. `other` is every expression kind the converter refuses. -/
inductive Expr where
  | identifier (value : String)
  | compoundIdentifier (parts : List String)
  | value (v : Value)
  | binaryOp (left : Expr) (op : BinaryOperator) (right : Expr)
  | isNull (expr : Expr)
  | isNotNull (expr : Expr)
  | nested (expr : Expr)
  | unaryOp (op : UnaryOperator) (expr : Expr)
  | between (expr : Expr) (negated : Bool) (low high : Expr)
  | like (negated : Bool) (expr pattern : Expr)
  | inList (expr : Expr) (list : List Expr) (negated : Bool)
  | function (name : List String) (args : FunctionArguments)
  | cast (expr : Expr) (dataType : DataType)
  | case (operand : Option Expr) (conditions : List (Expr × Expr)) (elseResult : Option Expr)
  | other (debug : String)

/-- `ast::FunctionArg`: an unnamed expression, or any other argument (named,
or a wildcard). -/
inductive FunctionArg where
  | unnamed (e : Expr)
  | other (debug : String)

/-- `ast::FunctionArguments`: none, as in `CURRENT_DATE`, a list, or any other
form (a subquery). -/
inductive FunctionArguments where
  | none
  | list (args : List FunctionArg)
  | other (debug : String)
end

deriving instance Repr for Expr, FunctionArg, FunctionArguments

end Sql

namespace BetweenRows

open DataFusion

/-! ## String operations -/

/-- `to_lowercase`, on ASCII letters. -/
def toLowercase (s : String) : String :=
  String.ofList (s.toList.map Char.toLower)

/-- `to_uppercase`, on ASCII letters. -/
def toUppercase (s : String) : String :=
  String.ofList (s.toList.map Char.toUpper)

/-- `str::replace` for a nonempty pattern: every occurrence, left to right.
Each step consumes a character, so the text's length is enough fuel. -/
def replaceAll (needle rep : List Char) : Nat → List Char → List Char
  | 0, cs => cs
  | _ + 1, [] => []
  | n + 1, c :: rest =>
      if needle.isPrefixOf (c :: rest) then
        rep ++ replaceAll needle rep n ((c :: rest).drop needle.length)
      else c :: replaceAll needle rep n rest

def strReplace (s needle rep : List Char) : List Char :=
  replaceAll needle rep s.length s

/-- `\w` of the `regex` crate, on ASCII. -/
def isWordChar (c : Char) : Bool :=
  c.isAlphanum || c == '_'

/-- A match of `\{user\.(\w+)\}` at the start of the text: the captured key
and the text after the match. The greedy `\w+` stops at the first other
character, which has to be the closing brace. -/
def userVarAt (cs : List Char) : Option (List Char × List Char) :=
  if "\x7buser.".toList.isPrefixOf cs then
    match (cs.drop 6).span isWordChar with
    | (key@(_ :: _), '\x7d' :: rest) => some (key, rest)
    | _ => none
  else none

/-- `captures_iter`: the keys of the leftmost non-overlapping matches. -/
def userVarCaptures : Nat → List Char → List (List Char)
  | 0, _ => []
  | _ + 1, [] => []
  | n + 1, c :: rest =>
      match userVarAt (c :: rest) with
      | some (key, after) => key :: userVarCaptures n after
      | none => userVarCaptures n rest

/-! ## User variables and `mangle_vars` -/

/-- `TypedAttribute`: a value as text (a list as its JSON text) and its type. -/
structure TypedAttribute where
  value : String
  valueType : String
  deriving DecidableEq, Repr

structure AttrDefInfo where
  defaultValue : Option String
  valueType : String
  deriving DecidableEq, Repr

/-- `UserVars`; its hash maps are association lists. -/
structure UserVars where
  username : String
  userId : String
  attributes : List (String × TypedAttribute)
  attributeDefs : List (String × AttrDefInfo)
  deriving DecidableEq, Repr

/-- `UserVars::get`: the built-in fields take priority. -/
def UserVars.get (vars : UserVars) (key : String) : Option String :=
  if key = "user.username" then some vars.username
  else if key = "user.id" then some vars.userId
  else if "user.".toList.isPrefixOf key.toList then
    (vars.attributes.lookup (String.ofList (key.toList.drop 5))).map (·.value)
  else none

/-- `resolve_user_attribute_defaults`: each defined attribute the user lacks
takes the definition's default, or the `"null"` sentinel. -/
def resolveUserAttributeDefaults (userAttrs : List (String × TypedAttribute))
    (attrDefs : List (String × AttrDefInfo)) : List (String × TypedAttribute) :=
  attrDefs.foldl
    (fun result d =>
      if (result.lookup d.1).isSome then result
      else
        result ++ [(d.1, match d.2.defaultValue with
          | some v => ⟨v, d.2.valueType⟩
          | none => ⟨"", "null"⟩)])
    userAttrs

structure VarMapping where
  placeholder : String
  value : String
  valueType : String
  deriving DecidableEq, Repr

/-- The text and the mappings `mangle_vars` builds. -/
abbrev MangleState := List Char × List VarMapping

/-- One built-in key: `{user.username}` or `{user.id}` becomes
`__br_user_username__` or `__br_user_id__`, if the text has it. -/
def mangleBuiltin (vars : UserVars) (st : MangleState) (key : String) : MangleState :=
  let placeholder := "__br_" ++ String.ofList (key.toList.map fun c => if c = '.' then '_' else c) ++ "__"
  let needle := "\x7b" ++ key ++ "\x7d"
  if needle.toList <:+: st.1 then
    (strReplace st.1 needle.toList placeholder.toList,
      st.2 ++ [⟨toLowercase placeholder, (vars.get key).getD "", "string"⟩])
  else st

/-- `__br_user_KEYSUFFIX__`. -/
def userPlaceholder (key suffix : String) : String :=
  "__br_user_" ++ key ++ suffix ++ "__"

/-- One capture of the loop over `{user.KEY}`: every occurrence of it in the
current text becomes the key's placeholders, and the mappings get the key's
values. -/
def mangleCapture (vars : UserVars) (resolved : List (String × TypedAttribute))
    (st : MangleState) (attrKey : List Char) : Except String MangleState := do
  let key := String.ofList attrKey
  let needle := "\x7buser.".toList ++ attrKey ++ ['\x7d']
  let (value, valueType) ← match resolved.lookup key with
    | some ta => pure (ta.value, ta.valueType)
    | none =>
        -- save-time validation has no definitions and reads a missing key as `""`
        if vars.attributeDefs.isEmpty then pure ("", "string")
        else throw ("Policy references undefined attribute '" ++ key ++ "'")
  if valueType = "list" then
    let elements := (Json.stringArray value.toList).getD []
    if elements.isEmpty then
      let ph := userPlaceholder key "_0"
      pure (strReplace st.1 needle ph.toList, st.2 ++ [⟨toLowercase ph, "", "null"⟩])
    else
      let phs := elements.zipIdx.map fun p => userPlaceholder key ("_" ++ toString p.2)
      pure (strReplace st.1 needle (", ".intercalate phs).toList,
        st.2 ++ elements.zipIdx.map fun p =>
          ⟨toLowercase (userPlaceholder key ("_" ++ toString p.2)), p.1, "string"⟩)
  else if valueType = "null" then
    let ph := userPlaceholder key ""
    pure (strReplace st.1 needle ph.toList, st.2 ++ [⟨toLowercase ph, "", "null"⟩])
  else
    let ph := userPlaceholder key ""
    pure (strReplace st.1 needle ph.toList, st.2 ++ [⟨toLowercase ph, value, valueType⟩])

/-- `mangle_vars`: the built-in keys first, then each `{user.KEY}` match of
the text they leave, in order. -/
def mangleVars (template : String) (vars : UserVars) : Except String (String × List VarMapping) := do
  let resolved :=
    if vars.attributeDefs.isEmpty then vars.attributes
    else resolveUserAttributeDefaults vars.attributes vars.attributeDefs
  let st := ["user.username", "user.id"].foldl (mangleBuiltin vars) (template.toList, [])
  let st ← (userVarCaptures st.1.length st.1).foldlM (mangleCapture vars resolved) st
  pure (String.ofList st.1, st.2)

/-! ## From the AST to an expression -/

/-- `typed_lit`: a value that does not read as its type stays a string. -/
def typedLit (value valueType : String) : Expr :=
  .literal <|
    if valueType = "null" then .null
    else if valueType = "integer" then
      match Decimal.parseInt true (-2 ^ 63) (2 ^ 63 - 1) value.toList with
      | some n => .int64 n
      | none => .utf8 value
    else if valueType = "boolean" then
      if value = "true" then .boolean true
      else if value = "false" then .boolean false
      else .utf8 value
    else .utf8 value

/-- `col(name)`: `Column::from_qualified_name` splits the name at its dots
and lowercases the parts; more than four parts name one unqualified
column. -/
def col (name : String) : Expr :=
  match (name.toList.splitOn '.').map fun part => String.ofList (part.map Char.toLower) with
  | [c] => .column none c
  | [t, c] => .column (some (.bare t)) c
  | [s, t, c] => .column (some (.qualified s t)) c
  | [k, s, t, c] => .column (some (.full k s t)) c
  | _ => .column none name

mutual
/-- `sql_ast_to_df_expr`; `registry` is the session's function registry for
a mask (which names it has) and `none` for a filter. -/
def sqlAstToDfExpr (varValues : List VarMapping) (registry : Option (String → Bool)) :
    Sql.Expr → Except String Expr
  | .identifier v =>
      match varValues.find? (·.placeholder == toLowercase v) with
      | some m => .ok (typedLit m.value m.valueType)
      | none => .ok (col v)
  | .compoundIdentifier parts => .ok (col (".".intercalate parts))
  | .value v =>
      match v with
      | .number n =>
          -- a number that is not an `i64` is read as an `f64`, and as `0.0` when not one
          match Decimal.parseInt true (-2 ^ 63) (2 ^ 63 - 1) n.toList with
          | some i => .ok (.literal (.int64 i))
          | none => .ok (.literal (.float64 ((Decimal.parseFloat n.toList).getD 0)))
      | .singleQuotedString s | .doubleQuotedString s => .ok (.literal (.utf8 s))
      | .boolean b => .ok (.lit b)
      | .null => .ok (.literal .null)
      | .other d => .error ("Unsupported value in filter expression: " ++ d)
  | .binaryOp l op r => do
      let l ← sqlAstToDfExpr varValues registry l
      let r ← sqlAstToDfExpr varValues registry r
      match op with
      | .eq => pure (.binaryExpr l .eq r)
      | .notEq => pure (.binaryExpr l .notEq r)
      | .lt => pure (.binaryExpr l .lt r)
      | .gt => pure (.binaryExpr l .gt r)
      | .ltEq => pure (.binaryExpr l .ltEq r)
      | .gtEq => pure (.binaryExpr l .gtEq r)
      | .and => pure (l.and r)
      | .or => pure (.binaryExpr l .or r)
      | .stringConcat => pure (.binaryExpr l .stringConcat r)
      | .other d => .error ("Unsupported operator in filter expression: " ++ d)
  | .isNull e => do pure (.isNull (← sqlAstToDfExpr varValues registry e))
  | .isNotNull e => do pure (.isNotNull (← sqlAstToDfExpr varValues registry e))
  | .nested e => sqlAstToDfExpr varValues registry e
  | .unaryOp op e => do
      let inner ← sqlAstToDfExpr varValues registry e
      match op with
      | .not => pure (.not inner)
      | .minus => pure (.negative inner)
      | .other d => .error ("Unsupported unary op: " ++ d)
  | .between e negated low high => do
      let e ← sqlAstToDfExpr varValues registry e
      let lo ← sqlAstToDfExpr varValues registry low
      let hi ← sqlAstToDfExpr varValues registry high
      let between := (Expr.binaryExpr e .gtEq lo).and (.binaryExpr e .ltEq hi)
      pure (if negated then .not between else between)
  | .like negated e pattern => do
      let colExpr ← sqlAstToDfExpr varValues registry e
      let patExpr ← sqlAstToDfExpr varValues registry pattern
      -- `Expr::like` builds a `LIKE` that is not negated; `NOT LIKE` is its `not()`
      let likeExpr := Expr.like false colExpr patExpr
      pure (if negated then .not likeExpr else likeExpr)
  | .inList e list negated => do
      let colExpr ← sqlAstToDfExpr varValues registry e
      let listExprs ← sqlListToDfExprs varValues registry list
      pure (.inList colExpr listExprs negated)
  | .function name args => do
      let funcName := ".".intercalate name
      let args ← sqlFunctionArgumentsToDfExprs varValues registry args
      match registry with
      | some reg =>
          if reg (toLowercase funcName) then pure (.scalarFunction (toLowercase funcName) args)
          else .error ("Unknown function '" ++ funcName ++ "' in mask expression")
      | none =>
          -- a filter may only call COALESCE
          if toUppercase funcName = "COALESCE" then pure (.scalarFunction "coalesce" args)
          else
            .error ("Function '" ++ toUppercase funcName ++
              "' in filter expressions is not supported. For complex expressions, use column masks instead.")
  | .cast e dataType => do
      let inner ← sqlAstToDfExpr varValues registry e
      let arrowType ← match dataType with
        | .varchar | .text | .char | .string => pure .utf8
        | .smallInt => pure .int16
        | .integer | .int => pure .int32
        | .bigInt => pure .int64
        | .float | .float4 | .real => pure .float32
        | .double | .doublePrecision | .float8 | .float64 => pure .float64
        | .boolean => pure .boolean
        | .other d => .error ("Unsupported CAST target type in mask/filter expression: " ++ d)
      pure (.cast inner arrowType)
  | .case operand conditions elseResult => do
      let operandExpr ← sqlOptionToDfExpr varValues registry operand
      let whenThen ← sqlWhenThenToDfExprs varValues registry operandExpr conditions
      let elseExpr ← sqlOptionToDfExpr varValues registry elseResult
      -- the conditions already hold the comparison with the operand
      pure (.case none whenThen elseExpr)
  | .other d => .error ("Unsupported expression type in filter: " ++ d)

/-- The items of an `IN` list, converted in order up to the first error. -/
def sqlListToDfExprs (varValues : List VarMapping) (registry : Option (String → Bool)) :
    List Sql.Expr → Except String (List Expr)
  | [] => .ok []
  | e :: es => do
      let e ← sqlAstToDfExpr varValues registry e
      let es ← sqlListToDfExprs varValues registry es
      pure (e :: es)

/-- The arguments of a function call: a list of unnamed expressions, or
none. -/
def sqlFunctionArgumentsToDfExprs (varValues : List VarMapping)
    (registry : Option (String → Bool)) : Sql.FunctionArguments → Except String (List Expr)
  | .none => .ok []
  | .list args => sqlFunctionArgsToDfExprs varValues registry args
  | .other d => .error ("Unsupported function arguments in mask/filter expression: " ++ d)

def sqlFunctionArgsToDfExprs (varValues : List VarMapping) (registry : Option (String → Bool)) :
    List Sql.FunctionArg → Except String (List Expr)
  | [] => .ok []
  | arg :: args => do
      let e ← sqlFunctionArgToDfExpr varValues registry arg
      let es ← sqlFunctionArgsToDfExprs varValues registry args
      pure (e :: es)

def sqlFunctionArgToDfExpr (varValues : List VarMapping) (registry : Option (String → Bool)) :
    Sql.FunctionArg → Except String Expr
  | .unnamed e => sqlAstToDfExpr varValues registry e
  | .other d => .error ("Unsupported function arg: " ++ d)

/-- A `CASE`'s operand or `ELSE`, when there is one. -/
def sqlOptionToDfExpr (varValues : List VarMapping) (registry : Option (String → Bool)) :
    Option Sql.Expr → Except String (Option Expr)
  | none => .ok none
  | some e => do pure (some (← sqlAstToDfExpr varValues registry e))

/-- A `CASE`'s `WHEN` pairs; with an operand, each condition becomes the
operand's equality with it. -/
def sqlWhenThenToDfExprs (varValues : List VarMapping) (registry : Option (String → Bool))
    (operandExpr : Option Expr) : List (Sql.Expr × Sql.Expr) → Except String (List (Expr × Expr))
  | [] => .ok []
  | (condition, result) :: rest => do
      let cond ← sqlAstToDfExpr varValues registry condition
      let result ← sqlAstToDfExpr varValues registry result
      let whenExpr := match operandExpr with
        | some op => Expr.binaryExpr op .eq cond
        | none => cond
      let rest ← sqlWhenThenToDfExprs varValues registry operandExpr rest
      pure ((whenExpr, result) :: rest)
end

/-- A simple `CASE` compares its operand with each condition; a number that
is not an integer is read as a fraction. -/
example : sqlAstToDfExpr [] none
    (.case (some (.identifier "tier")) [(.value (.singleQuotedString "gold"), .value (.number "1.5"))]
      (some (.unaryOp .minus (.value (.number "2"))))) =
    .ok (.case none [(.binaryExpr (.column none "tier") .eq (.literal (.utf8 "gold")),
      .literal (.float64 (mkRat 3 2)))] (some (.negative (.literal (.int64 2))))) := by rfl

/-- `parse_filter_expr`; `parseExpr` is sqlparser's `parse_expr` on the
generic dialect, with its error text. -/
def parseFilterExpr (parseExpr : String → Except String Sql.Expr) (template : String)
    (vars : UserVars) : Except String Expr := do
  let trimmed := String.ofList (rustTrim template.toList)
  if trimmed = "1=1" ∨ trimmed = "true" then return .lit true
  if trimmed = "1=0" ∨ trimmed = "false" then return .lit false
  let (mangled, varValues) ← mangleVars template vars
  let sqlExpr ← (parseExpr mangled).mapError fun e =>
    "Failed to parse filter expression '" ++ mangled ++ "': " ++ e
  sqlAstToDfExpr varValues none sqlExpr

/-- `parse_mask_expr`; `registry` says which functions the session has. -/
def parseMaskExpr (parseExpr : String → Except String Sql.Expr) (registry : String → Bool)
    (column maskTemplate : String) (vars : UserVars) : Except String Expr := do
  let (mangled, varValues) ← mangleVars maskTemplate vars
  let sqlExpr ← (parseExpr mangled).mapError fun e =>
    "Failed to parse mask expression for column '" ++ column ++ "': " ++ e
  sqlAstToDfExpr varValues (some registry) sqlExpr

/-! ## What the conversion reads of the mappings -/

section Lookup

variable {registry : Option (String → Bool)}

variable {ms ms' : List VarMapping}

mutual
/-- The conversion reads the mappings only through the first mapping of
each placeholder. -/
theorem sqlAstToDfExpr_congr
    (h : ∀ n, ms.find? (·.placeholder == n) = ms'.find? (·.placeholder == n)) :
    ∀ e : Sql.Expr, sqlAstToDfExpr ms registry e = sqlAstToDfExpr ms' registry e
  | .identifier _ => by simp only [sqlAstToDfExpr, h]
  | .compoundIdentifier _ | .value _ | .other _ => rfl
  | .binaryOp l _ r => by
      simp only [sqlAstToDfExpr, sqlAstToDfExpr_congr h l, sqlAstToDfExpr_congr h r]
  | .isNull e | .isNotNull e | .unaryOp _ e | .cast e _ => by
      simp only [sqlAstToDfExpr, sqlAstToDfExpr_congr h e]
  | .nested e => sqlAstToDfExpr_congr h e
  | .between e _ lo hi => by
      simp only [sqlAstToDfExpr, sqlAstToDfExpr_congr h e, sqlAstToDfExpr_congr h lo,
        sqlAstToDfExpr_congr h hi]
  | .like _ e p => by
      simp only [sqlAstToDfExpr, sqlAstToDfExpr_congr h e, sqlAstToDfExpr_congr h p]
  | .inList e l _ => by
      simp only [sqlAstToDfExpr, sqlAstToDfExpr_congr h e, sqlListToDfExprs_congr h l]
  | .function _ args => by
      simp only [sqlAstToDfExpr, sqlFunctionArgumentsToDfExprs_congr h args]
  | .case o cs el => by
      simp only [sqlAstToDfExpr, sqlOptionToDfExpr_congr h o, sqlOptionToDfExpr_congr h el,
        sqlWhenThenToDfExprs_congr h]

theorem sqlListToDfExprs_congr
    (h : ∀ n, ms.find? (·.placeholder == n) = ms'.find? (·.placeholder == n)) :
    ∀ es : List Sql.Expr, sqlListToDfExprs ms registry es = sqlListToDfExprs ms' registry es
  | [] => rfl
  | e :: es => by
      simp only [sqlListToDfExprs, sqlAstToDfExpr_congr h e, sqlListToDfExprs_congr h es]

theorem sqlFunctionArgumentsToDfExprs_congr
    (h : ∀ n, ms.find? (·.placeholder == n) = ms'.find? (·.placeholder == n)) :
    ∀ args : Sql.FunctionArguments,
      sqlFunctionArgumentsToDfExprs ms registry args = sqlFunctionArgumentsToDfExprs ms' registry args
  | .none | .other _ => rfl
  | .list args => sqlFunctionArgsToDfExprs_congr h args

theorem sqlFunctionArgsToDfExprs_congr
    (h : ∀ n, ms.find? (·.placeholder == n) = ms'.find? (·.placeholder == n)) :
    ∀ args : List Sql.FunctionArg,
      sqlFunctionArgsToDfExprs ms registry args = sqlFunctionArgsToDfExprs ms' registry args
  | [] => rfl
  | arg :: args => by
      simp only [sqlFunctionArgsToDfExprs, sqlFunctionArgToDfExpr_congr h arg,
        sqlFunctionArgsToDfExprs_congr h args]

theorem sqlFunctionArgToDfExpr_congr
    (h : ∀ n, ms.find? (·.placeholder == n) = ms'.find? (·.placeholder == n)) :
    ∀ arg : Sql.FunctionArg,
      sqlFunctionArgToDfExpr ms registry arg = sqlFunctionArgToDfExpr ms' registry arg
  | .unnamed e => sqlAstToDfExpr_congr h e
  | .other _ => rfl

theorem sqlOptionToDfExpr_congr
    (h : ∀ n, ms.find? (·.placeholder == n) = ms'.find? (·.placeholder == n)) :
    ∀ e : Option Sql.Expr, sqlOptionToDfExpr ms registry e = sqlOptionToDfExpr ms' registry e
  | none => rfl
  | some e => by simp only [sqlOptionToDfExpr, sqlAstToDfExpr_congr h e]

theorem sqlWhenThenToDfExprs_congr
    (h : ∀ n, ms.find? (·.placeholder == n) = ms'.find? (·.placeholder == n))
    {operandExpr : Option Expr} : ∀ cs : List (Sql.Expr × Sql.Expr),
      sqlWhenThenToDfExprs ms registry operandExpr cs =
        sqlWhenThenToDfExprs ms' registry operandExpr cs
  | [] => rfl
  | (c, r) :: cs => by
      simp only [sqlWhenThenToDfExprs, sqlAstToDfExpr_congr h c, sqlAstToDfExpr_congr h r,
        sqlWhenThenToDfExprs_congr h cs]
end

/-- Mappings whose placeholders earlier mappings already have are never
read: for every AST the parser may return, the conversion is the one
without them. -/
theorem sqlAstToDfExpr_append_shadowed
    (h : ∀ m ∈ ms', ∃ m₀ ∈ ms, m₀.placeholder = m.placeholder) (e : Sql.Expr) :
    sqlAstToDfExpr (ms ++ ms') registry e = sqlAstToDfExpr ms registry e := by
  refine sqlAstToDfExpr_congr (fun n => ?_) e
  rw [List.find?_append]
  cases hfind : ms.find? (·.placeholder == n) with
  | some m => rfl
  | none =>
      -- no earlier mapping has the placeholder, so no later one has it either
      rw [Option.none_or, List.find?_eq_none]
      intro m hm heq
      obtain ⟨m₀, hm₀, hplace⟩ := h m hm
      exact List.find?_eq_none.mp hfind m₀ hm₀ (by rw [hplace]; exact heq)

end Lookup

/-- A template that is not one of the constant filters is mangled, parsed
and converted. -/
theorem parseFilterExpr_eq {parseExpr : String → Except String Sql.Expr} {template : String}
    {vars : UserVars} {mangled : String} {varValues : List VarMapping} {sqlExpr : Sql.Expr}
    (htrue : ¬ (String.ofList (rustTrim template.toList) = "1=1" ∨
      String.ofList (rustTrim template.toList) = "true"))
    (hfalse : ¬ (String.ofList (rustTrim template.toList) = "1=0" ∨
      String.ofList (rustTrim template.toList) = "false"))
    (hm : mangleVars template vars = .ok (mangled, varValues)) (hp : parseExpr mangled = .ok sqlExpr) :
    parseFilterExpr parseExpr template vars = sqlAstToDfExpr varValues none sqlExpr := by
  simp only [parseFilterExpr, if_neg htrue, if_neg hfalse, hm, hp, Except.ok_bind, Except.mapError]

/-- A user whose list attribute `x` holds `a`, whose scalar `x_0` is `b`,
and whose `region` and `Region` are `us` and `eu`. -/
def collisionVars : UserVars where
  username := "alice"
  userId := "u1"
  attributes := [("x", ⟨"[\"a\"]", "list"⟩), ("x_0", ⟨"b", "string"⟩),
    ("region", ⟨"us", "string"⟩), ("Region", ⟨"eu", "string"⟩)]
  attributeDefs := [("x", ⟨none, "list"⟩), ("x_0", ⟨none, "string"⟩),
    ("region", ⟨none, "string"⟩), ("Region", ⟨none, "string"⟩)]

/-- The first element of the list `x` and the scalar `x_0` get one
placeholder, and so do `region` and `Region`; for the ASTs sqlparser gives
the mangled texts, the filters `{user.x} = {user.x_0}` and
`{user.region} = {user.Region}` become `'a' = 'a'` and `'us' = 'us'`,
where substituting the values gives `'a' = 'b'` and `'us' = 'eu'`. -/
theorem mangleCollisionRun :
    mangleVars "\x7buser.x\x7d = \x7buser.x_0\x7d" collisionVars =
        .ok ("__br_user_x_0__ = __br_user_x_0__",
          [⟨"__br_user_x_0__", "a", "string"⟩, ⟨"__br_user_x_0__", "b", "string"⟩]) ∧
      mangleVars "\x7buser.region\x7d = \x7buser.Region\x7d" collisionVars =
        .ok ("__br_user_region__ = __br_user_Region__",
          [⟨"__br_user_region__", "us", "string"⟩, ⟨"__br_user_region__", "eu", "string"⟩]) ∧
      ∀ parseExpr : String → Except String Sql.Expr,
        parseExpr "__br_user_x_0__ = __br_user_x_0__" =
            .ok (.binaryOp (.identifier "__br_user_x_0__") .eq (.identifier "__br_user_x_0__")) →
        parseExpr "__br_user_region__ = __br_user_Region__" =
            .ok (.binaryOp (.identifier "__br_user_region__") .eq (.identifier "__br_user_Region__")) →
        parseFilterExpr parseExpr "\x7buser.x\x7d = \x7buser.x_0\x7d" collisionVars =
            .ok (.binaryExpr (.literal (.utf8 "a")) .eq (.literal (.utf8 "a"))) ∧
          parseFilterExpr parseExpr "\x7buser.region\x7d = \x7buser.Region\x7d" collisionVars =
            .ok (.binaryExpr (.literal (.utf8 "us")) .eq (.literal (.utf8 "us"))) := by
  have hx : mangleVars "\x7buser.x\x7d = \x7buser.x_0\x7d" collisionVars =
      .ok ("__br_user_x_0__ = __br_user_x_0__",
        [⟨"__br_user_x_0__", "a", "string"⟩, ⟨"__br_user_x_0__", "b", "string"⟩]) :=
    Except.eq_ok_of_toOption (by decide +kernel)
  have hr : mangleVars "\x7buser.region\x7d = \x7buser.Region\x7d" collisionVars =
      .ok ("__br_user_region__ = __br_user_Region__",
        [⟨"__br_user_region__", "us", "string"⟩, ⟨"__br_user_region__", "eu", "string"⟩]) :=
    Except.eq_ok_of_toOption (by decide +kernel)
  refine ⟨hx, hr, fun parseExpr h₁ h₂ => ⟨?_, ?_⟩⟩
  · -- both operands are the one placeholder, which the first mapping answers
    rw [parseFilterExpr_eq (by decide +kernel) (by decide +kernel) hx h₁]
    have hfind : List.find? (·.placeholder == toLowercase "__br_user_x_0__")
        [(⟨"__br_user_x_0__", "a", "string"⟩ : VarMapping), ⟨"__br_user_x_0__", "b", "string"⟩] =
        some ⟨"__br_user_x_0__", "a", "string"⟩ := by decide +kernel
    simp [sqlAstToDfExpr, hfind, typedLit]
  · -- both operands lowercase to one placeholder
    rw [parseFilterExpr_eq (by decide +kernel) (by decide +kernel) hr h₂]
    have hfind₁ : List.find? (·.placeholder == toLowercase "__br_user_region__")
        [(⟨"__br_user_region__", "us", "string"⟩ : VarMapping), ⟨"__br_user_region__", "eu", "string"⟩] =
        some ⟨"__br_user_region__", "us", "string"⟩ := by decide +kernel
    have hfind₂ : List.find? (·.placeholder == toLowercase "__br_user_Region__")
        [(⟨"__br_user_region__", "us", "string"⟩ : VarMapping), ⟨"__br_user_region__", "eu", "string"⟩] =
        some ⟨"__br_user_region__", "us", "string"⟩ := by decide +kernel
    simp [sqlAstToDfExpr, hfind₁, hfind₂, typedLit]

end BetweenRows
