import Mathlib.Data.List.Basic

/-!
# JSON arrays (`serde_json::from_str`)

List-valued user attributes and the allowed values of an attribute
definition are stored as the JSON text of an array of strings, and read back
with `serde_json::from_str`. The reader here takes what `serde_json` takes:
whitespace around the tokens, the escapes of RFC 8259 (`\uXXXX` with
surrogate pairs for characters outside the BMP), numbers as RFC 8259 writes
them, and nothing after the value but whitespace. A raw control character,
an unknown escape, a lone surrogate or a trailing comma is refused.

The text is a `List Char`. The string scanner is structural; the value
reader takes fuel, and twice the text's length is enough: a call that
consumes nothing is the element loop handing the same text to the value
reader, which consumes a character or stops.

The writer is `serde_json::to_string`. What it writes of an array of strings
the reader reads back (`stringArray_render_strings`): each character's
escape is read as that character (`stringBody_escapeChar`), and the commas
and brackets as the array's frame.

A policy's `definition` is a JSON value too, read member by member with
`Value::get` (`JsonValue.get?`).
-/

namespace Json

/-- JSON whitespace: space, tab, line feed, carriage return. -/
def isWs (c : Char) : Bool :=
  c == ' ' || c == '\t' || c == '\n' || c == '\r'

def skipWs (cs : List Char) : List Char :=
  cs.dropWhile isWs

def hexDigit (c : Char) : Option Nat :=
  if c.isDigit then some (c.toNat - '0'.toNat)
  else if 'a' ≤ c ∧ c ≤ 'f' then some (c.toNat - 'a'.toNat + 10)
  else if 'A' ≤ c ∧ c ≤ 'F' then some (c.toNat - 'A'.toNat + 10)
  else none

def hex4 (a b c d : Char) : Option Nat := do
  pure ((((← hexDigit a) * 16 + (← hexDigit b)) * 16 + (← hexDigit c)) * 16 + (← hexDigit d))

def consChar (c : Char) : Option (List Char × List Char) → Option (List Char × List Char) :=
  Option.map fun p => (c :: p.1, p.2)

/-- The rest of a string literal after its opening quote: the characters it
denotes, and the text after its closing quote. -/
def stringBody : List Char → Option (List Char × List Char)
  | [] => none
  | '"' :: rest => some ([], rest)
  | '\\' :: '"' :: rest => consChar '"' (stringBody rest)
  | '\\' :: '\\' :: rest => consChar '\\' (stringBody rest)
  | '\\' :: '/' :: rest => consChar '/' (stringBody rest)
  | '\\' :: 'b' :: rest => consChar '\x08' (stringBody rest)
  | '\\' :: 'f' :: rest => consChar '\x0c' (stringBody rest)
  | '\\' :: 'n' :: rest => consChar '\n' (stringBody rest)
  | '\\' :: 'r' :: rest => consChar '\r' (stringBody rest)
  | '\\' :: 't' :: rest => consChar '\t' (stringBody rest)
  | '\\' :: 'u' :: a :: b :: c :: d :: rest =>
      match hex4 a b c d with
      | none => none
      | some n =>
          if n < 0xD800 ∨ 0xE000 ≤ n then consChar (Char.ofNat n) (stringBody rest)
          -- a trailing surrogate cannot come first
          else if 0xDC00 ≤ n then none
          else
            -- a leading surrogate needs a trailing one in the next escape
            match rest with
            | '\\' :: 'u' :: e :: f :: g :: h :: rest' =>
                match hex4 e f g h with
                | some m =>
                    if 0xDC00 ≤ m ∧ m < 0xE000 then
                      consChar (Char.ofNat ((n - 0xD800) * 0x400 + (m - 0xDC00) + 0x10000))
                        (stringBody rest')
                    else none
                | none => none
            | _ => none
  | '\\' :: _ => none
  | c :: rest => if c.toNat < 0x20 then none else consChar c (stringBody rest)

/-- A JSON value. A number keeps its text; an object keeps its members in
order. -/
inductive JsonValue where
  | null
  | bool (b : Bool)
  | number (text : String)
  | string (s : String)
  | array (elems : List JsonValue)
  | object (members : List (String × JsonValue))
  deriving Repr

mutual
/-- Equality of JSON values, decided member by member (the nested lists keep
the deriving handler from writing it). -/
def JsonValue.decEq : (a b : JsonValue) → Decidable (a = b)
  | .null, .null => isTrue rfl
  | .bool a, .bool b => if h : a = b then isTrue (h ▸ rfl) else isFalse fun e => h (by injection e)
  | .number a, .number b => if h : a = b then isTrue (h ▸ rfl) else isFalse fun e => h (by injection e)
  | .string a, .string b => if h : a = b then isTrue (h ▸ rfl) else isFalse fun e => h (by injection e)
  | .array as, .array bs =>
      match JsonValue.decEqList as bs with
      | isTrue h => isTrue (h ▸ rfl)
      | isFalse h => isFalse fun e => h (by injection e)
  | .object as, .object bs =>
      match JsonValue.decEqMembers as bs with
      | isTrue h => isTrue (h ▸ rfl)
      | isFalse h => isFalse fun e => h (by injection e)
  | .null, .bool _ | .null, .number _ | .null, .string _ | .null, .array _ | .null, .object _
  | .bool _, .null | .bool _, .number _ | .bool _, .string _ | .bool _, .array _ | .bool _, .object _
  | .number _, .null | .number _, .bool _ | .number _, .string _ | .number _, .array _
  | .number _, .object _ | .string _, .null | .string _, .bool _ | .string _, .number _
  | .string _, .array _ | .string _, .object _ | .array _, .null | .array _, .bool _
  | .array _, .number _ | .array _, .string _ | .array _, .object _ | .object _, .null
  | .object _, .bool _ | .object _, .number _ | .object _, .string _ | .object _, .array _ =>
      isFalse JsonValue.noConfusion
def JsonValue.decEqList : (as bs : List JsonValue) → Decidable (as = bs)
  | [], [] => isTrue rfl
  | a :: as, b :: bs =>
      match JsonValue.decEq a b, JsonValue.decEqList as bs with
      | isTrue h, isTrue h' => isTrue (h ▸ h' ▸ rfl)
      | isFalse h, _ => isFalse fun e => h (List.cons.inj e).1
      | _, isFalse h' => isFalse fun e => h' (List.cons.inj e).2
  | [], _ :: _ => isFalse (List.cons_ne_nil _ _).symm
  | _ :: _, [] => isFalse (List.cons_ne_nil _ _)
def JsonValue.decEqMembers : (as bs : List (String × JsonValue)) → Decidable (as = bs)
  | [], [] => isTrue rfl
  | (k, a) :: as, (k', b) :: bs =>
      if hk : k = k' then
        match JsonValue.decEq a b, JsonValue.decEqMembers as bs with
        | isTrue h, isTrue h' => isTrue (hk ▸ h ▸ h' ▸ rfl)
        | isFalse h, _ => isFalse fun e => h (Prod.mk.inj (List.cons.inj e).1).2
        | _, isFalse h' => isFalse fun e => h' (List.cons.inj e).2
      else isFalse fun e => hk (Prod.mk.inj (List.cons.inj e).1).1
  | [], _ :: _ => isFalse (List.cons_ne_nil _ _).symm
  | _ :: _, [] => isFalse (List.cons_ne_nil _ _)
end

instance : DecidableEq JsonValue := JsonValue.decEq

def JsonValue.asStr? : JsonValue → Option String
  | .string s => some s
  | _ => none

def JsonValue.asArray? : JsonValue → Option (List JsonValue)
  | .array vs => some vs
  | _ => none

/-- `Value::get(key)`: the member `key` of an object, and nothing for any
other value. -/
def JsonValue.get? : JsonValue → String → Option JsonValue
  | .object ms, k => ms.lookup k
  | _, _ => none

/-- A number: an optional minus, `0` or a nonzero digit and more digits, an
optional fraction and an optional exponent; its text and the rest. -/
def numberText (cs : List Char) : Option (List Char × List Char) := do
  let (sign, cs) := match cs with
    | '-' :: rest => (['-'], rest)
    | rest => ([], rest)
  let (intPart, cs) ← match cs with
    | '0' :: rest => some (['0'], rest)
    | c :: rest => if c.isDigit then some (c :: rest.takeWhile Char.isDigit, rest.dropWhile Char.isDigit) else none
    | [] => none
  let (frac, cs) ← match cs with
    | '.' :: rest =>
        if (rest.takeWhile Char.isDigit).isEmpty then none
        else some ('.' :: rest.takeWhile Char.isDigit, rest.dropWhile Char.isDigit)
    | rest => some ([], rest)
  let (exp, cs) ← match cs with
    | e :: rest =>
        if e = 'e' ∨ e = 'E' then
          let (expSign, rest) := match rest with
            | '+' :: r => (['+'], r)
            | '-' :: r => (['-'], r)
            | r => ([], r)
          if (rest.takeWhile Char.isDigit).isEmpty then none
          else some (e :: expSign ++ rest.takeWhile Char.isDigit, rest.dropWhile Char.isDigit)
        else some ([], e :: rest)
    | [] => some ([], [])
  pure (sign ++ intPart ++ frac ++ exp, cs)

mutual
/-- One value after optional whitespace, and the text after it. -/
def parseValue : Nat → List Char → Option (JsonValue × List Char)
  | 0, _ => none
  | fuel + 1, cs =>
      match skipWs cs with
      | 'n' :: 'u' :: 'l' :: 'l' :: rest => some (.null, rest)
      | 't' :: 'r' :: 'u' :: 'e' :: rest => some (.bool true, rest)
      | 'f' :: 'a' :: 'l' :: 's' :: 'e' :: rest => some (.bool false, rest)
      | '"' :: rest => (stringBody rest).map fun p => (.string (String.ofList p.1), p.2)
      | '[' :: rest =>
          match skipWs rest with
          | ']' :: rest => some (.array [], rest)
          | _ => (parseElems fuel rest).map fun p => (.array p.1, p.2)
      | '\x7b' :: rest =>
          match skipWs rest with
          | '\x7d' :: rest => some (.object [], rest)
          | _ => (parseMembers fuel rest).map fun p => (.object p.1, p.2)
      | rest => (numberText rest).map fun p => (.number (String.ofList p.1), p.2)

/-- The elements of a nonempty array, up to its closing bracket. -/
def parseElems : Nat → List Char → Option (List JsonValue × List Char)
  | 0, _ => none
  | fuel + 1, cs => do
      let (v, rest) ← parseValue fuel cs
      match skipWs rest with
      | ',' :: rest => do
          let (vs, rest) ← parseElems fuel rest
          pure (v :: vs, rest)
      | ']' :: rest => pure ([v], rest)
      | _ => none

/-- The members of a nonempty object, up to its closing brace. -/
def parseMembers : Nat → List Char → Option (List (String × JsonValue) × List Char)
  | 0, _ => none
  | fuel + 1, cs =>
      match skipWs cs with
      | '"' :: rest => do
          let (k, rest) ← stringBody rest
          match skipWs rest with
          | ':' :: rest => do
              let (v, rest) ← parseValue fuel rest
              match skipWs rest with
              | ',' :: rest => do
                  let (ms, rest) ← parseMembers fuel rest
                  pure ((String.ofList k, v) :: ms, rest)
              | '\x7d' :: rest => pure ([(String.ofList k, v)], rest)
              | _ => none
          | _ => none
      | _ => none
end

/-- `serde_json::from_str::<Vec<serde_json::Value>>`, with the error as
`none`: one array and nothing after it but whitespace. -/
def valueArray (cs : List Char) : Option (List JsonValue) :=
  match parseValue (2 * cs.length + 2) cs with
  | some (.array vs, rest) => if skipWs rest = [] then some vs else none
  | _ => none

/-- `serde_json::from_str::<Vec<String>>`: an array whose elements are all
strings. -/
def stringArray (cs : List Char) : Option (List String) :=
  (valueArray cs).bind (·.mapM JsonValue.asStr?)

example : stringArray " [\"eng\", \"s\\u00e9c\"] ".toList = some ["eng", "séc"] := by
  decide +kernel

/-! ## Writing strings -/

def hexLower (n : Nat) : Char :=
  if n < 10 then Char.ofNat ('0'.toNat + n) else Char.ofNat ('a'.toNat + n - 10)

/-- `serde_json`'s escape of one character of a string. -/
def escapeChar (c : Char) : List Char :=
  if c = '"' then ['\\', '"']
  else if c = '\\' then ['\\', '\\']
  else if c = '\n' then ['\\', 'n']
  else if c = '\r' then ['\\', 'r']
  else if c = '\t' then ['\\', 't']
  else if c = '\x08' then ['\\', 'b']
  else if c = '\x0c' then ['\\', 'f']
  else if c.toNat < 0x20 then ['\\', 'u', '0', '0', hexLower (c.toNat / 16), hexLower (c.toNat % 16)]
  else [c]

/-- `serde_json::to_string` of a string. -/
def renderString (s : String) : String :=
  String.ofList ('"' :: s.toList.flatMap escapeChar ++ ['"'])

mutual
/-- `serde_json::to_string` of a value, compact. A number is written as the
text it keeps, and an object's members in their order. -/
def JsonValue.render : JsonValue → String
  | .null => "null"
  | .bool b => if b then "true" else "false"
  | .number text => text
  | .string s => renderString s
  | .array vs => "[" ++ ",".intercalate (renderElems vs) ++ "]"
  | .object ms => "\x7b" ++ ",".intercalate (renderMembers ms) ++ "\x7d"

def renderElems : List JsonValue → List String
  | [] => []
  | v :: vs => v.render :: renderElems vs

def renderMembers : List (String × JsonValue) → List String
  | [] => []
  | (k, v) :: ms => (renderString k ++ ":" ++ v.render) :: renderMembers ms
end

/-! ## Reading back what is written -/

theorem stringBody_cons_plain {c : Char} (h₁ : c ≠ '"') (h₂ : c ≠ '\\') (t : List Char) :
    stringBody (c :: t) = if c.toNat < 0x20 then none else consChar c (stringBody t) := by
  rw [stringBody.eq_13] <;> intros <;> simp_all

theorem hexDigit_hexLower : ∀ k < 16, hexDigit (hexLower k) = some k := by
  decide

/-- The four hex digits of a control character's `\u00XX` escape read back
its code. -/
theorem hex4_escape {c : Char} (h : c.toNat < 0x20) :
    hex4 '0' '0' (hexLower (c.toNat / 16)) (hexLower (c.toNat % 16)) = some c.toNat := by
  have hhi := hexDigit_hexLower (c.toNat / 16) (by omega)
  have hlo := hexDigit_hexLower (c.toNat % 16) (Nat.mod_lt _ (by omega))
  simp only [hex4, hhi, hlo]
  simp [hexDigit]
  omega

/-- The scanner reads each character's escape as that character. -/
theorem stringBody_escapeChar (c : Char) (t : List Char) :
    stringBody (escapeChar c ++ t) = consChar c (stringBody t) := by
  unfold escapeChar
  split_ifs with h₁ h₂ h₃ h₄ h₅ h₆ h₇ h₈
  -- the seven two-character escapes
  all_goals try (subst_vars; simp [stringBody]; done)
  · -- a control character without a short escape: `\u00XX`
    simp only [List.cons_append, List.nil_append]
    rw [stringBody, hex4_escape h₈]
    simp [show c.toNat < 55296 by omega, Char.ofNat_toNat]
  · -- any other character stands for itself
    rw [List.singleton_append, stringBody_cons_plain h₁ h₂, if_neg h₈]

theorem stringBody_escaped (s rest : List Char) :
    stringBody (s.flatMap escapeChar ++ '"' :: rest) = some (s, rest) := by
  induction s with
  | nil => simp [stringBody]
  | cons c s ih =>
      rw [List.flatMap_cons, List.append_assoc, stringBody_escapeChar, ih]
      rfl

theorem toList_renderString (s : String) :
    (renderString s).toList = '"' :: s.toList.flatMap escapeChar ++ ['"'] := by
  simp [renderString]

theorem skipWs_of_not_ws {c : Char} (h : isWs c = false) (t : List Char) :
    skipWs (c :: t) = c :: t := by
  simp [skipWs, h]

theorem parseValue_renderString {fuel : Nat} (h : 0 < fuel) (s : String) (rest : List Char) :
    parseValue fuel ((renderString s).toList ++ rest) = some (.string s, rest) := by
  obtain ⟨f, rfl⟩ : ∃ f, fuel = f + 1 := ⟨fuel - 1, by omega⟩
  rw [toList_renderString]
  simp only [List.cons_append, List.append_assoc]
  rw [parseValue, skipWs_of_not_ws (c := '"') rfl]
  simp [stringBody_escaped]

/-- The elements of an array of strings, each after its comma, and the
closing bracket are read back. The element loop spends one unit of fuel per
element. -/
theorem parseElems_renderStrings (s : String) :
    ∀ (ss : List String) {fuel : Nat} (rest : List Char), ss.length + 1 < fuel →
      parseElems fuel ((renderString s).toList ++
          (ss.flatMap fun t => ',' :: (renderString t).toList) ++ ']' :: rest) =
        some ((s :: ss).map JsonValue.string, rest)
  | [], fuel, rest, h => by
      obtain ⟨f, rfl⟩ : ∃ f, fuel = f + 1 := ⟨fuel - 1, by omega⟩
      rw [parseElems]
      simp [parseValue_renderString (show 0 < f by omega), skipWs_of_not_ws (c := ']') rfl]
  | t :: ss, fuel, rest, h => by
      obtain ⟨f, rfl⟩ : ∃ f, fuel = f + 1 := ⟨fuel - 1, by omega⟩
      have ih := @parseElems_renderStrings t ss f rest (by simp at h; omega)
      rw [parseElems]
      simp only [List.flatMap_cons, List.append_assoc, List.cons_append]
      rw [parseValue_renderString (show 0 < f by omega)]
      simp only [Option.bind_eq_bind, Option.bind_some]
      rw [skipWs_of_not_ws (c := ',') rfl]
      simp only [List.append_assoc] at ih
      simp [ih]

theorem renderElems_strings (xs : List String) :
    renderElems (xs.map JsonValue.string) = xs.map renderString := by
  induction xs with
  | nil => rfl
  | cons x xs ih => simp [renderElems, JsonValue.render, ih]

theorem intercalate_comma (x : List Char) (xs : List (List Char)) :
    [','].intercalate (x :: xs) = x ++ xs.flatMap (',' :: ·) := by
  induction xs generalizing x with
  | nil => simp
  | cons y ys ih =>
      rw [List.intercalate_cons_cons, ih]
      simp

theorem toList_render_strings (s : String) (ss : List String) :
    (JsonValue.array ((s :: ss).map .string)).render.toList =
      '[' :: ((renderString s).toList ++ (ss.flatMap fun t => ',' :: (renderString t).toList) ++
        [']']) := by
  rw [JsonValue.render, renderElems_strings]
  simp [String.toList_intercalate, intercalate_comma, List.flatMap_map]

theorem length_le_flatMap_comma (ss : List String) :
    ss.length ≤ (ss.flatMap fun t => ',' :: (renderString t).toList).length := by
  induction ss with
  | nil => simp
  | cons t ts ih =>
      rw [List.flatMap_cons, List.length_append, List.length_cons, List.length_cons]
      omega

/-- `serde_json::from_str::<Vec<Value>>` reads back what `to_string` writes of
an array of strings, within the fuel `valueArray` gives. -/
theorem valueArray_render_strings (xs : List String) :
    valueArray (JsonValue.array (xs.map .string)).render.toList = some (xs.map .string) := by
  cases xs with
  | nil => rfl
  | cons s ss =>
      have hlen := length_le_flatMap_comma ss
      unfold valueArray
      rw [toList_render_strings]
      generalize hF : 2 * _ + 2 = F
      obtain ⟨f, rfl⟩ : ∃ f, F = f + 1 := ⟨F - 1, by omega⟩
      rw [parseValue, skipWs_of_not_ws (c := '[') rfl]
      simp only [List.append_assoc]
      -- the element loop gets the fuel left after the bracket
      have hfuel : ss.length + 1 < f := by
        simp only [List.length_cons, List.length_append] at hF
        omega
      have helems := @parseElems_renderStrings s ss f [] hfuel
      simp only [List.append_assoc] at helems
      rw [helems, toList_renderString]
      simp only [List.cons_append]
      rw [skipWs_of_not_ws (c := '"') rfl]
      simp [skipWs]

theorem mapM_asStr_strings (xs : List String) :
    (xs.map JsonValue.string).mapM JsonValue.asStr? = some xs := by
  induction xs with
  | nil => rfl
  | cons x xs ih => simp [List.mapM_cons, JsonValue.asStr?, ih]

/-- `serde_json::from_str::<Vec<String>>` of `serde_json::to_string` of an
array of strings gives the strings back. -/
theorem stringArray_render_strings (xs : List String) :
    stringArray (JsonValue.array (xs.map .string)).render.toList = some xs := by
  rw [stringArray, valueArray_render_strings, Option.bind_some, mapM_asStr_strings]

end Json
