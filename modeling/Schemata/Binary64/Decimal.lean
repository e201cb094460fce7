import Schemata.Binary64

/-!
Decimal text of double-precision numbers. `shortest` gives the fewest digits that read
back as the number, and of those the nearest; `Layout` says how digits are written.
-/
namespace Schemata

/-- The number `digits * 10 ^ exponent`. -/
structure Decimal where
  digits : Nat
  exponent : Int
  deriving DecidableEq, Repr

namespace Decimal

/-- The power of ten; one for a negative exponent. -/
def tenTo (exponent : Int) : Nat := Nat.pow 10 exponent.toNat

def nearest (negative : Bool) (decimal : Decimal) : Binary64 :=
  if 0 ≤ decimal.exponent then
    Binary64.nearest negative (decimal.digits * tenTo decimal.exponent) 1
  else Binary64.nearest negative decimal.digits (tenTo (-decimal.exponent))

/-- The number that decimal digits stand for. -/
def natural (digits : List Char) : Nat :=
  digits.foldl (fun total digit => 10 * total + (digit.toNat - '0'.toNat)) 0

/-- Reads a text of decimal digits, of which there is at least one. -/
def natural? (text : List Char) : Option Nat :=
  if text.isEmpty || !text.all Char.isDigit then none else some (natural text)

def digitCount (n : Nat) : Nat := (Nat.toDigits 10 n).length

/-- The power of ten of the first digit of `num / den`, for a positive ratio. -/
def leadingPower (num den : Nat) : Int :=
  if den ≤ num then digitCount (num / den) - 1
  else
    let places := digitCount (den / num)
    if den ≤ num * tenTo (places - 1) then 1 - (places : Int) else -(places : Int)

/-- The neighbours of `num / den` among the multiples of `10 ^ exponent`, the nearer one
first; of two that are equally near the even one. -/
def neighbours (num den : Nat) (exponent : Int) : List Decimal :=
  let scaled := if 0 ≤ exponent then (num,den * tenTo exponent)
    else (num * tenTo (-exponent),den)
  let below := scaled.1 / scaled.2
  let twice := 2 * (scaled.1 % scaled.2)
  if twice < scaled.2 ∨ (twice = scaled.2 ∧ below % 2 = 0) then
    [⟨below,exponent⟩,⟨below + 1,exponent⟩]
  else [⟨below + 1,exponent⟩,⟨below,exponent⟩]

/-- The decimal with the fewest digits that reads back as the given double; seventeen
digits always do. -/
def shortest (mantissa : Nat) (exponent : Int) : Decimal :=
  let exact := Binary64.ratio mantissa exponent
  let power := leadingPower exact.1 exact.2
  let number := Binary64.finite false mantissa exponent
  let found := (List.range 17).findSome? fun (count : Nat) =>
    (neighbours exact.1 exact.2 (power - count)).find? (·.nearest false == number)
  found.getD ⟨mantissa,0⟩

/-- How decimal text is laid out: positional notation is used while the power of ten of
the first digit is from `positionalFrom` up to, not including, `positionalBelow`. -/
structure Layout where
  positionalFrom : Int
  positionalBelow : Int
  wholeEnding : String
  exponentMark : String
  exponentWidth : Nat
  nanText : String
  infinityText : String

private def zeros (count : Int) : String := "".pushn '0' count.toNat

private def withoutTrailingZeros (digits : List Char) : List Char :=
  (digits.reverse.dropWhile (· = '0')).reverse

def Layout.write (layout : Layout) (decimal : Decimal) : String :=
  let all := Nat.toDigits 10 decimal.digits
  let power : Int := all.length + decimal.exponent - 1
  let digits := withoutTrailingZeros all
  let text := String.ofList
  if layout.positionalFrom ≤ power ∧ power < layout.positionalBelow then
    if power < 0 then "0." ++ zeros (-power - 1) ++ text digits
    else if (digits.length : Int) ≤ power + 1 then
      text digits ++ zeros (power + 1 - digits.length) ++ layout.wholeEnding
    else text (digits.take (power + 1).toNat) ++ "." ++ text (digits.drop (power + 1).toNat)
  else
    let size := toString power.natAbs
    text (digits.take 1) ++ (if digits.length ≤ 1 then "" else "." ++ text (digits.drop 1)) ++
      layout.exponentMark ++ (if power < 0 then "-" else "+") ++
      zeros ((layout.exponentWidth : Int) - size.length) ++ size

end Decimal

namespace Binary64

def write (layout : Decimal.Layout) : Binary64 → String
  | .nan => layout.nanText
  | .infinite negative => (if negative then "-" else "") ++ layout.infinityText
  | .finite negative mantissa exponent =>
    (if negative then "-" else "") ++
      (if mantissa = 0 then "0" ++ layout.wholeEnding
        else layout.write (Decimal.shortest mantissa exponent))

private def digits (text : List Char) : List Char × List Char :=
  (text.takeWhile Char.isDigit,text.dropWhile Char.isDigit)

private def exponentPart : List Char → Option Int
  | [] => some 0
  | 'e' :: '-' :: rest => (Decimal.natural? rest).map fun n => -(n : Int)
  | 'e' :: '+' :: rest | 'e' :: rest => (Decimal.natural? rest).map Int.ofNat
  | _ => none

private def unsigned (negative : Bool) (text : List Char) : Option Binary64 :=
  if text = "nan".toList then some .nan
  else if text = "inf".toList then some (.infinite negative)
  else
    let (whole,rest) := digits text
    let (fraction,rest) := match rest with
      | '.' :: after => digits after
      | _ => ([],rest)
    if whole.isEmpty then none
    else (exponentPart rest).map fun exponent =>
      Decimal.nearest negative ⟨Decimal.natural (whole ++ fraction),exponent - fraction.length⟩

/-- Reads decimal text: an optional minus sign, then `nan`, `inf` or digits with an
optional fraction and exponent. -/
def read? (text : String) : Option Binary64 :=
  match text.toList with
  | '-' :: rest => unsigned true rest
  | rest => unsigned false rest

end Binary64
end Schemata
