import Mathlib.Data.List.TakeDrop
import BetweenRows.Text.Decimal
import BetweenRows.Admin.Dto
import BetweenRows.DataFusion.Plan

/-!
# Arrow types in the stored catalog (`engine/mod.rs`)

Discovery stores each column's Arrow type as text, `arrow_type_to_string`,
and `build_arrow_schema` reads it back with `parse_arrow_type`. The reader
matches fourteen names exactly, then three prefixes: a timestamp with a
timezone of either unit, which it reads as the timezone `"UTC"` whatever the
text names, and `Decimal128(p,s)` with `p` a `u8` and `s` an `i8`. The
types are `DataFusion.DataType`, the one a template's `CAST` names.

The writer and the reader agree on every type except in the timezone of a
timestamp (`parseArrowType_arrowTypeToString`), and the writer's text of
anything the reader returns is read back as it, since that is already in UTC
(`withUtcZone_of_parseArrowType`).
-/

namespace BetweenRows

open DataFusion (TimeUnit DataType)

def arrowTypeToString : DataType → String
  | .int8 => "Int8"
  | .int16 => "Int16"
  | .int32 => "Int32"
  | .int64 => "Int64"
  | .uint32 => "UInt32"
  | .float32 => "Float32"
  | .float64 => "Float64"
  | .boolean => "Boolean"
  | .utf8 => "Utf8"
  | .date32 => "Date32"
  | .binary => "Binary"
  | .time64Nanosecond => "Time64(Nanosecond)"
  | .decimal128 p s => "Decimal128(" ++ toString p.toNat ++ "," ++ toString s.toInt ++ ")"
  | .timestamp .nanosecond none => "Timestamp(Nanosecond,None)"
  | .timestamp .nanosecond (some tz) => "Timestamp(Nanosecond,Some(\"" ++ tz ++ "\"))"
  | .timestamp .microsecond none => "Timestamp(Microsecond,None)"
  | .timestamp .microsecond (some tz) => "Timestamp(Microsecond,Some(\"" ++ tz ++ "\"))"

/-- The arms of `parse_arrow_type` that match a whole string, in order. -/
def arrowTypeNames : List (String × DataType) :=
  [("Int8", .int8), ("Int16", .int16), ("Int32", .int32), ("Int64", .int64),
    ("UInt32", .uint32), ("Float32", .float32), ("Float64", .float64), ("Boolean", .boolean),
    ("Utf8", .utf8), ("Date32", .date32), ("Binary", .binary),
    ("Time64(Nanosecond)", .time64Nanosecond),
    ("Timestamp(Nanosecond,None)", .timestamp .nanosecond none),
    ("Timestamp(Microsecond,None)", .timestamp .microsecond none)]

/-- `s.splitn(2, ',')`: the text before the first comma, and the text after
it when there is one. -/
def splitnComma (cs : List Char) : List Char × Option (List Char) :=
  match cs.span (· ≠ ',') with
  | (before, _ :: after) => (before, some after)
  | (before, []) => (before, none)

def parseArrowType (s : String) : Option DataType :=
  let cs := s.toList
  match arrowTypeNames.lookup s with
  | some dt => some dt
  | none =>
      if "Timestamp(Nanosecond,Some(".toList.isPrefixOf cs then
        some (.timestamp .nanosecond (some "UTC"))
      else if "Timestamp(Microsecond,Some(".toList.isPrefixOf cs then
        some (.timestamp .microsecond (some "UTC"))
      else if "Decimal128(".toList.isPrefixOf cs && cs.getLast? == some ')' then do
        -- `&s[11..s.len() - 1]`: the prefix and the suffix are ASCII
        let (p, scale) := splitnComma (cs.drop 11).dropLast
        let p ← Decimal.parseInt false 0 255 (rustTrim p)
        let scale ← scale
        let scale ← Decimal.parseInt true (-128) 127 (rustTrim scale)
        some (.decimal128 (UInt8.ofNat p.toNat) (Int8.ofInt scale))
      else none

end BetweenRows

/-- What `parse_arrow_type` returns for the text of `dt`: `dt` with its
timezone, if it has one, read as `"UTC"`. -/
def DataFusion.DataType.withUtcZone : DataFusion.DataType → DataFusion.DataType
  | .timestamp u (some _) => .timestamp u (some "UTC")
  | dt => dt

namespace BetweenRows

open DataFusion (TimeUnit DataType)

/-! ## The reader's prefixes -/

theorem isRustWhitespace_of_isDigit {c : Char} (h : c.isDigit = true) :
    isRustWhitespace c = false := by
  have hb : 48 ≤ c.toNat ∧ c.toNat ≤ 57 := by
    simp only [Char.isDigit, Bool.and_eq_true, decide_eq_true_eq] at h
    exact ⟨h.1, h.2⟩
  unfold isRustWhitespace
  simp only [Bool.or_eq_false_iff, Bool.and_eq_false_iff, decide_eq_false_iff_not]
  omega

theorem rustTrim_eq_self {cs : List Char} (h : ∀ c ∈ cs, isRustWhitespace c = false) :
    rustTrim cs = cs := by
  have hkeep : ∀ l : List Char, (∀ c ∈ l, isRustWhitespace c = false) →
      l.dropWhile isRustWhitespace = l := by
    intro l hl
    cases l with
    | nil => rfl
    | cons c l => exact List.dropWhile_cons_of_neg (by simp [hl c List.mem_cons_self])
  rw [rustTrim, hkeep cs h, hkeep cs.reverse (by simpa using h), List.reverse_reverse]

/-- The text of an `i8` or a `u8` has no whitespace to trim. -/
theorem rustTrim_repr (n : Int) : rustTrim n.repr.toList = n.repr.toList := by
  apply rustTrim_eq_self
  have hdigits : ∀ m : Nat, ∀ c ∈ Nat.toDigits 10 m, isRustWhitespace c = false :=
    fun m c hc => isRustWhitespace_of_isDigit (Nat.isDigit_of_mem_toDigits (by decide) (by decide) hc)
  cases n with
  | ofNat m => simpa [Int.repr] using hdigits m
  | negSucc m =>
      simp only [Int.repr, String.toList_append, List.mem_append]
      rintro c (hc | hc)
      · simp at hc
        subst hc
        decide
      · exact hdigits _ c (by simpa using hc)

/-- A string the reader's table does not start like is not in the table. -/
theorem lookup_eq_none_of_prefix {pre : List Char} {s : String}
    (hnames : arrowTypeNames.all (fun e => !pre.isPrefixOf e.1.toList) = true)
    (hs : pre <+: s.toList) : arrowTypeNames.lookup s = none := by
  rw [List.lookup_eq_none_iff]
  intro e he
  have hne : s ≠ e.1 := by
    rintro rfl
    have := List.all_eq_true.mp hnames e he
    rw [List.isPrefixOf_iff_prefix.mpr hs] at this
    cases this
  simpa using hne

theorem prefix_append_of_isPrefixOf {pre a : List Char} (h : pre.isPrefixOf a = true)
    (rest : List Char) : pre <+: a ++ rest :=
  (List.isPrefixOf_iff_prefix.mp h).trans (List.prefix_append a rest)

/-- Of two prefixes neither of which extends the other, a string starts with
at most one. -/
theorem isPrefixOf_eq_false_of_prefix {p q cs : List Char} (hpq : p.isPrefixOf q = false)
    (hqp : q.isPrefixOf p = false) (hq : q <+: cs) : p.isPrefixOf cs = false := by
  rw [Bool.eq_false_iff]
  intro hp
  rcases List.prefix_or_prefix_of_prefix (List.isPrefixOf_iff_prefix.mp hp) hq with h | h
  · rw [List.isPrefixOf_iff_prefix.mpr h] at hpq
    cases hpq
  · rw [List.isPrefixOf_iff_prefix.mpr h] at hqp
    cases hqp

theorem parseArrowType_timestamp (u : TimeUnit) (tz : String) :
    parseArrowType (arrowTypeToString (.timestamp u (some tz))) = some (.timestamp u (some "UTC")) := by
  cases u with
  | nanosecond =>
      have hpre : "Timestamp(Nanosecond,Some(".toList <+:
          (arrowTypeToString (.timestamp .nanosecond (some tz))).toList := by
        have hs : arrowTypeToString (.timestamp .nanosecond (some tz)) =
            "Timestamp(Nanosecond,Some(\"" ++ tz ++ "\"))" := rfl
        rw [hs, String.toList_append, String.toList_append, List.append_assoc]
        exact prefix_append_of_isPrefixOf (by decide +kernel) _
      simp only [parseArrowType, lookup_eq_none_of_prefix (by decide +kernel) hpre,
        List.isPrefixOf_iff_prefix.mpr hpre, if_true]
  | microsecond =>
      have hpre : "Timestamp(Microsecond,Some(".toList <+:
          (arrowTypeToString (.timestamp .microsecond (some tz))).toList := by
        have hs : arrowTypeToString (.timestamp .microsecond (some tz)) =
            "Timestamp(Microsecond,Some(\"" ++ tz ++ "\"))" := rfl
        rw [hs, String.toList_append, String.toList_append, List.append_assoc]
        exact prefix_append_of_isPrefixOf (by decide +kernel) _
      have hns : "Timestamp(Nanosecond,Some(".toList.isPrefixOf
          (arrowTypeToString (.timestamp .microsecond (some tz))).toList = false :=
        isPrefixOf_eq_false_of_prefix (by decide +kernel) (by decide +kernel) hpre
      simp only [parseArrowType, lookup_eq_none_of_prefix (by decide +kernel) hpre, hns,
        List.isPrefixOf_iff_prefix.mpr hpre, Bool.false_eq_true, if_false, if_true]

theorem splitnComma_append {before after : List Char} (h : ',' ∉ before) :
    splitnComma (before ++ ',' :: after) = (before, some after) := by
  have hpos : ∀ c ∈ before, decide (c ≠ ',') = true := by
    intro c hc
    simp only [ne_eq, decide_eq_true_eq]
    rintro rfl
    exact h hc
  have hspan : (before ++ ',' :: after).span (· ≠ ',') = (before, ',' :: after) := by
    rw [List.span_eq_takeWhile_dropWhile, List.takeWhile_append_of_pos hpos,
      List.dropWhile_append_of_pos hpos]
    simp
  rw [splitnComma, hspan]

theorem parseArrowType_decimal128 (p : UInt8) (s : Int8) :
    parseArrowType (arrowTypeToString (.decimal128 p s)) = some (.decimal128 p s) := by
  -- the text is `Decimal128(` ++ digits of `p` ++ `,` ++ text of `s` ++ `)`
  have hcs : (arrowTypeToString (.decimal128 p s)).toList = ("Decimal128(".toList ++
      ((p.toNat : Int).repr.toList ++ ',' :: s.toInt.repr.toList)) ++ [')'] := by
    have hs : arrowTypeToString (.decimal128 p s) =
        "Decimal128(" ++ toString p.toNat ++ "," ++ toString s.toInt ++ ")" := rfl
    have hcomma : ",".toList = [','] := rfl
    have hclose : ")".toList = [')'] := rfl
    rw [hs]
    simp only [String.toList_append, hcomma, hclose, List.append_assoc, List.singleton_append]
    rfl
  have hpre : "Decimal128(".toList <+: (arrowTypeToString (.decimal128 p s)).toList := by
    rw [hcs]
    exact (List.prefix_append _ _).trans (List.prefix_append _ _)
  have hns : "Timestamp(Nanosecond,Some(".toList.isPrefixOf
      (arrowTypeToString (.decimal128 p s)).toList = false :=
    isPrefixOf_eq_false_of_prefix (by decide +kernel) (by decide +kernel) hpre
  have hus : "Timestamp(Microsecond,Some(".toList.isPrefixOf
      (arrowTypeToString (.decimal128 p s)).toList = false :=
    isPrefixOf_eq_false_of_prefix (by decide +kernel) (by decide +kernel) hpre
  have hlast : (arrowTypeToString (.decimal128 p s)).toList.getLast? = some ')' := by
    rw [hcs, List.getLast?_concat]
  -- `&s[11..s.len() - 1]` is the two numbers and the comma between them
  have hinner : ((arrowTypeToString (.decimal128 p s)).toList.drop 11).dropLast =
      (p.toNat : Int).repr.toList ++ ',' :: s.toInt.repr.toList := by
    rw [hcs, List.append_assoc, List.drop_left' (by rfl), List.dropLast_concat]
  have hnocomma : ',' ∉ (p.toNat : Int).repr.toList := by
    simpa [Int.repr] using @Decimal.sep_not_mem_toDigits ',' (by decide) p.toNat
  have hp : Decimal.parseInt false 0 255 (p.toNat : Int).repr.toList = some (p.toNat : Int) :=
    Decimal.parseInt_repr (by omega) (by have := p.toNat_lt; omega) (.inl (by omega))
  have hsc : Decimal.parseInt true (-128) 127 s.toInt.repr.toList = some s.toInt :=
    Decimal.parseInt_repr (by have := s.le_toInt; omega) (by have := s.toInt_lt; omega) (.inr rfl)
  simp only [parseArrowType, lookup_eq_none_of_prefix (by decide +kernel) hpre, hns, hus,
    List.isPrefixOf_iff_prefix.mpr hpre, hlast, hinner, splitnComma_append hnocomma,
    rustTrim_repr, hp, hsc, Bool.false_eq_true, if_false, beq_self_eq_true, Bool.and_self,
    if_true, Option.bind_eq_bind, Option.bind_some, Int.toNat_natCast, UInt8.ofNat_toNat,
    Int8.ofInt_toInt]

/-! ## Writing and reading back -/

theorem parseArrowType_arrowTypeToString (dt : DataType) :
    parseArrowType (arrowTypeToString dt) = some dt.withUtcZone := by
  cases dt with
  | decimal128 p s => exact parseArrowType_decimal128 p s
  | timestamp u tz =>
      cases tz with
      | none => cases u <;> decide +kernel
      | some tz => exact parseArrowType_timestamp u tz
  | _ => decide +kernel

/-- Whatever the reader returns has its timezone, if any, as `"UTC"`. -/
theorem withUtcZone_of_parseArrowType {s : String} {dt : DataType}
    (h : parseArrowType s = some dt) : dt.withUtcZone = dt := by
  unfold parseArrowType at h
  split at h
  · -- one of the fourteen names
    rename_i dt' hlookup
    cases h
    obtain ⟨l₁, l₂, hl, -⟩ := List.lookup_eq_some_iff.mp hlookup
    have hmem : (s, dt) ∈ arrowTypeNames := by
      rw [hl]
      exact List.mem_append_right _ List.mem_cons_self
    have hnames : arrowTypeNames.all (fun e => e.2.withUtcZone == e.2) = true := by decide +kernel
    simpa using List.all_eq_true.mp hnames _ hmem
  · dsimp only at h
    split_ifs at h
    · cases h
      rfl
    · cases h
      rfl
    · -- `Decimal128(p,s)`
      generalize splitnComma _ = parts at h
      obtain ⟨p, scale⟩ := parts
      simp only [Option.bind_eq_bind, Option.bind_eq_some_iff, Option.some.injEq] at h
      obtain ⟨_, -, _, -, _, -, rfl⟩ := h
      rfl

-- the reader also takes text the writer never writes
example : parseArrowType "Decimal128(+10, -2)" = some (.decimal128 10 (-2)) := by decide +kernel

/-- A timestamp in Berlin time is written with its zone and read back in
UTC. -/
theorem berlinTimestampReadAsUtc :
    parseArrowType (arrowTypeToString (.timestamp .nanosecond (some "Europe/Berlin"))) ≠
      some (.timestamp .nanosecond (some "Europe/Berlin")) := by
  rw [parseArrowType_timestamp]
  decide

/-- The stored text of every type reads back as the type, but for the
timezone of a timestamp, which reads back as `"UTC"`; the text of anything
the reader returns reads back as it. -/
theorem arrowTypeRoundTrip :
    (∀ dt : DataType, parseArrowType (arrowTypeToString dt) = some dt.withUtcZone) ∧
      ∀ (s : String) (dt : DataType), parseArrowType s = some dt →
        parseArrowType (arrowTypeToString dt) = some dt := by
  refine ⟨parseArrowType_arrowTypeToString, fun s dt h => ?_⟩
  rw [parseArrowType_arrowTypeToString, withUtcZone_of_parseArrowType h]

end BetweenRows
