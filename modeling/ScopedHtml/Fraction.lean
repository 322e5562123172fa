/-!
# ScopedHtml.Fraction

Whole numbers among the numbers that are written with a fraction or an exponent.

Such a number stands for the nearest number of `precision` significant bits, of
two equally near ones for the even one. Below `2 ^ precision` a whole number
stands for itself (`Fraction.round_of_lt`).
-/

namespace ScopedHtml.Fraction

/-- The number of significant bits. -/
def precision : Nat := 53

/-! ### Rounding -/

/-- The number of times that `unit` goes into `n`, to the nearest; halves go to the
even neighbour. -/
def nearest (n unit : Nat) : Nat :=
  let quotient := n / unit
  let rest := n % unit
  if unit < 2 * rest ∨ (2 * rest = unit ∧ quotient % 2 = 1) then quotient + 1 else quotient

/-- The number of `precision` significant bits that is nearest to a whole number. -/
def round (n : Nat) : Nat :=
  let unit := Nat.pow 2 (n.log2 + 1 - precision)
  nearest n unit * unit

/-! ### Reading -/

/-- The number of decimal digits in a row. -/
def decimal (digits : List Char) : Nat :=
  digits.foldl (fun n c => n * 10 + (c.toNat - '0'.toNat)) 0

/-- The whole number `digits * 10 ^ exponent`, if it is one. -/
def scaled? (digits : Nat) : Int → Option Nat
  | .ofNat exponent => some (digits * Nat.pow 10 exponent)
  | .negSucc below =>
      let unit := Nat.pow 10 (below + 1)
      if digits % unit = 0 then some (digits / unit) else none

/-- The exponent behind its mark; without a mark it is zero. -/
def exponentOf : List Char → Int
  | _ :: '-' :: digits => -(decimal digits)
  | _ :: '+' :: digits => decimal digits
  | _ :: digits => decimal digits
  | [] => 0

/-- The whole number that digits without a sign stand for. -/
def magnitude? (chars : List Char) : Option Nat :=
  let isMark := fun (c : Char) => c = 'e' || c = 'E'
  let mantissa := chars.takeWhile fun c => !isMark c
  let before := mantissa.takeWhile fun c => c ≠ '.'
  let behind := (mantissa.dropWhile fun c => c ≠ '.').drop 1
  let exponent := exponentOf (chars.dropWhile fun c => !isMark c)
  (scaled? (decimal (before ++ behind)) (exponent - behind.length)).map round

/-- The whole number that a written number stands for, if it is one. -/
def whole? (written : String) : Option Int :=
  match written.toList with
  | '-' :: chars => (magnitude? chars).map fun n => -(n : Int)
  | chars => (magnitude? chars).map fun n => (n : Int)

end ScopedHtml.Fraction
