import Mathlib.Data.List.Basic

/-!
# Decimal integers in text

Rust's `FromStr` for the primitive integer types, in radix 10: an optional
sign, then one or more ASCII digits, with a value in the type's range; `-` is
a sign only for the signed types. A lone sign, an empty string and any other
character are errors, and so is a value out of range, wherever in the digits
it overflows. Its inverse is `Nat.repr` and `Int.repr`, which print what
Rust's `Display` prints for the integer types.

`FromStr` for `f64` reads a decimal fraction: digits with at most one point
and at least one digit, then an optional exponent. Its value here is the
fraction's exact one, before the rounding to a double.

Also here: a name made of a stem, a separator and a decimal counter
determines its counter, whatever the stems.
-/

namespace Decimal

/-- The value of a nonempty string of ASCII digits. -/
def digitsValue (cs : List Char) : Option Nat :=
  if cs ≠ [] ∧ cs.all Char.isDigit = true then some (Nat.ofDigitChars 10 cs 0) else none

/-- The sign of an integer literal and the rest: `+` is always a sign, `-`
only for a signed type. -/
def splitSign (signed : Bool) : List Char → Bool × List Char
  | '+' :: ds => (false, ds)
  | '-' :: ds => if signed then (true, ds) else (false, '-' :: ds)
  | cs => (false, cs)

/-- `<int as FromStr>::from_str` for the integer type with values `[lo, hi]`. -/
def parseInt (signed : Bool) (lo hi : Int) (cs : List Char) : Option Int := do
  let (neg, ds) := splitSign signed cs
  let v ← digitsValue ds
  let n : Int := if neg then -(v : Int) else v
  if lo ≤ n ∧ n ≤ hi then some n else none

/-- `<f64 as FromStr>::from_str` on a decimal: an optional sign, digits
with at most one point and at least one digit, and an optional exponent `e`
or `E` with an optional sign and one or more digits. The names `inf` and
`nan`, which Rust also reads, have no rational value and are left out. -/
def parseFloat (cs : List Char) : Option Rat := do
  let (neg, rest) := splitSign true cs
  let (mantissa, exponent) := rest.span fun c => c != 'e' && c != 'E'
  let e : Int ← match exponent with
    | [] => some 0
    | _ :: es =>
        let (eneg, eds) := splitSign true es
        (digitsValue eds).map fun v => if eneg then -(v : Int) else v
  let (whole, frac) := match mantissa.span (· != '.') with
    | (w, _ :: f) => (w, f)
    | (w, []) => (w, [])
  if (whole ≠ [] ∨ frac ≠ []) ∧ (whole ++ frac).all Char.isDigit = true then
    let m := Nat.ofDigitChars 10 (whole ++ frac) 0
    -- the digits after the point lower the exponent
    let scale := e - frac.length
    let v := if 0 ≤ scale then mkRat (m * Nat.pow 10 scale.toNat) 1 else mkRat m (Nat.pow 10 (-scale).toNat)
    some (if neg then v.neg else v)
  else none

example : parseFloat "1.5".toList = some (mkRat 3 2) ∧ parseFloat "2.5e-1".toList = some (mkRat 1 4) ∧
    parseFloat "1e3".toList = some 1000 ∧ parseFloat ".".toList = none := by decide

theorem digitsValue_toDigits (n : Nat) : digitsValue (Nat.toDigits 10 n) = some n := by
  have hdig : (Nat.toDigits 10 n).all Char.isDigit = true :=
    List.all_eq_true.mpr fun _ hc => Nat.isDigit_of_mem_toDigits (by decide) (by decide) hc
  rw [digitsValue, if_pos ⟨Nat.toDigits_ne_nil, hdig⟩, Nat.ofDigitChars_ten_toDigits]

theorem splitSign_toDigits (signed : Bool) (n : Nat) :
    splitSign signed (Nat.toDigits 10 n) = (false, Nat.toDigits 10 n) := by
  obtain ⟨c, cs, hcs⟩ := List.exists_cons_of_ne_nil (Nat.toDigits_ne_nil (n := n) (b := 10))
  have hc : c.isDigit = true :=
    Nat.isDigit_of_mem_toDigits (by decide) (by decide) (hcs ▸ List.mem_cons_self)
  -- a digit is neither sign
  have hplus : c ≠ '+' := by rintro rfl; simp at hc
  have hminus : c ≠ '-' := by rintro rfl; simp at hc
  rw [hcs]
  unfold splitSign
  split
  · rename_i h; exact absurd (List.cons.inj h).1 hplus
  · rename_i h; exact absurd (List.cons.inj h).1 hminus
  · rfl

/-- `parse` inverts `to_string` on every value of the type. -/
theorem parseInt_repr {signed : Bool} {lo hi n : Int} (hlo : lo ≤ n) (hhi : n ≤ hi)
    (hsign : 0 ≤ n ∨ signed = true) : parseInt signed lo hi n.repr.toList = some n := by
  cases n with
  | ofNat m =>
      simp only [Int.repr, Nat.toList_repr, parseInt, splitSign_toDigits, digitsValue_toDigits,
        Option.bind_eq_bind, Option.bind_some]
      simp only [Bool.false_eq_true, if_false]
      exact if_pos ⟨hlo, hhi⟩
  | negSucc m =>
      have hs : signed = true := hsign.resolve_left (by omega)
      have hsplit : splitSign signed (Int.negSucc m).repr.toList = (true, Nat.toDigits 10 (m + 1)) := by
        simp [Int.repr, String.toList_append, splitSign, hs]
      simp only [parseInt, hsplit, digitsValue_toDigits, Option.bind_eq_bind, Option.bind_some,
        if_true]
      have hv : -((m + 1 : Nat) : Int) = Int.negSucc m := by omega
      rw [hv, if_pos ⟨hlo, hhi⟩]

/-- Two names `stem ++ sep ++ counter` with the same text have the same
counter, when the counters' text never holds the separator. -/
theorem eq_of_append_sep_eq {a b d e : List Char} {sep : Char} (hd : sep ∉ d) (he : sep ∉ e)
    (h : a ++ sep :: d = b ++ sep :: e) : d = e := by
  have hrev := congrArg List.reverse h
  simp only [List.reverse_append, List.reverse_cons, List.append_assoc, List.singleton_append]
    at hrev
  -- the text after the last separator is the counter
  have hlast : ∀ l r : List Char, sep ∉ l → List.takeWhile (· ≠ sep) (l ++ sep :: r) = l := by
    intro l r hl
    have hpos : ∀ c ∈ l, decide (c ≠ sep) = true := by
      intro c hc
      simp only [ne_eq, decide_eq_true_eq]
      rintro rfl
      exact hl hc
    rw [List.takeWhile_append_of_pos hpos]
    simp
  have htake := congrArg (List.takeWhile (· ≠ sep)) hrev
  rw [hlast _ _ (by simpa using hd), hlast _ _ (by simpa using he)] at htake
  simpa using htake

theorem sep_not_mem_toDigits {sep : Char} (hsep : sep.isDigit = false) (n : Nat) :
    sep ∉ Nat.toDigits 10 n := fun h => by
  rw [Nat.isDigit_of_mem_toDigits (by decide) (by decide) h] at hsep
  cases hsep

/-- A counter printed after a separator that is not a digit is read back
from the whole name. -/
theorem counter_eq_of_name_eq {a b : List Char} {sep : Char} (hsep : sep.isDigit = false)
    {m n : Nat} (h : a ++ sep :: (toString m).toList = b ++ sep :: (toString n).toList) :
    m = n := by
  simp only [Nat.toString_eq_repr, Nat.toList_repr] at h
  have hdigits := eq_of_append_sep_eq (sep_not_mem_toDigits hsep m) (sep_not_mem_toDigits hsep n) h
  calc m = Nat.ofDigitChars 10 (Nat.toDigits 10 m) 0 := Nat.ofDigitChars_ten_toDigits.symm
    _ = Nat.ofDigitChars 10 (Nat.toDigits 10 n) 0 := by rw [hdigits]
    _ = n := Nat.ofDigitChars_ten_toDigits

end Decimal
