/-!
Double-precision numbers as exact data: a sign, a mantissa and a power of two. Each
operation forms the exact ratio of its result, which `nearest` then rounds once, half to
even. Numbers made by `nearest` are in canonical form, so that equal terms are equal bits.
-/
namespace Schemata

inductive Binary64 where
  | nan
  | infinite (negative : Bool)
  | finite (negative : Bool) (mantissa : Nat) (exponent : Int)
  deriving DecidableEq, Repr, Inhabited

namespace Binary64

def leastExponent : Int := -1074

def greatestExponent : Int := 971

def zero (negative : Bool) : Binary64 := .finite negative 0 leastExponent

def signed (negative : Bool) (mantissa : Nat) : Int :=
  if negative then -(mantissa : Int) else mantissa

/-- The power of two; one for a negative exponent. -/
def twoTo (exponent : Int) : Nat := Nat.pow 2 exponent.toNat

/-- `mantissa * 2 ^ exponent` as a quotient of natural numbers. -/
def ratio (mantissa : Nat) (exponent : Int) : Nat × Nat :=
  if 0 ≤ exponent then (mantissa * twoTo exponent,1) else (mantissa,twoTo (-exponent))

/-- The ratio divided by `2 ^ exponent`. -/
def shifted (num den : Nat) (exponent : Int) : Nat × Nat :=
  if 0 ≤ exponent then (num,den * twoTo exponent) else (num * twoTo (-exponent),den)

/-- The natural number nearest to `num / den`; a half goes to the even neighbour. -/
def roundRatio (num den : Nat) : Nat :=
  let whole := num / den
  let twice := 2 * (num % den)
  if twice < den then whole else if den < twice then whole + 1 else whole + whole % 2

/-- The double nearest to `num / den`. The two logarithms place the ratio within a factor
of four, so one trial quotient decides where a mantissa of 53 bits starts. -/
def nearest (negative : Bool) (num den : Nat) : Binary64 :=
  if num = 0 then zero negative else
    let order : Int := (Nat.log2 num : Int) - Nat.log2 den
    let trial := shifted num den (order - 53)
    let start := if twoTo 53 ≤ trial.1 / trial.2 then order - 52 else order - 53
    let exponent := max leastExponent start
    let scaled := shifted num den exponent
    let mantissa := roundRatio scaled.1 scaled.2
    let carried := mantissa == twoTo 53
    let exponent := if carried then exponent + 1 else exponent
    if greatestExponent < exponent then .infinite negative
    else .finite negative (if carried then twoTo 52 else mantissa) exponent

def ofInt (i : Int) : Binary64 := nearest (i < 0) i.natAbs 1

/-- The integer itself, with a mantissa as long as it needs. -/
def exactInt (i : Int) : Binary64 := .finite (i < 0) i.natAbs 0

/-- Order by exact mathematical value; nothing is ordered with a NaN. -/
def order : Binary64 → Binary64 → Option Ordering
  | .nan,_ | _,.nan => none
  | .infinite a,.infinite b => some (compare b a)
  | .infinite a,.finite .. => some (if a then .lt else .gt)
  | .finite ..,.infinite b => some (if b then .gt else .lt)
  | .finite a m e,.finite b n f =>
    let low := min e f
    some (compare (signed a (m * twoTo (e - low))) (signed b (n * twoTo (f - low))))

def add : Binary64 → Binary64 → Binary64
  | .nan,_ | _,.nan => .nan
  | .infinite a,.infinite b => if a = b then .infinite a else .nan
  | .infinite a,.finite .. => .infinite a
  | .finite ..,.infinite b => .infinite b
  | .finite a m e,.finite b n f =>
    let low := min e f
    let sum := signed a (m * twoTo (e - low)) + signed b (n * twoTo (f - low))
    if sum = 0 then zero (a && b)
    else
      let exact := ratio sum.natAbs low
      nearest (sum < 0) exact.1 exact.2

def mul : Binary64 → Binary64 → Binary64
  | .nan,_ | _,.nan => .nan
  | .infinite a,.infinite b => .infinite (a != b)
  | .infinite a,.finite b n _ | .finite b n _,.infinite a =>
    if n = 0 then .nan else .infinite (a != b)
  | .finite a m e,.finite b n f =>
    let exact := ratio (m * n) (e + f)
    nearest (a != b) exact.1 exact.2

/-- The integer that a number without a fractional part is. -/
def toInt? : Binary64 → Option Int
  | .finite negative mantissa exponent =>
    let exact := ratio mantissa exponent
    if exact.1 % exact.2 = 0 then some (signed negative (exact.1 / exact.2)) else none
  | _ => none

def isWhole (x : Binary64) : Bool := x.toInt?.isSome

def isZero : Binary64 → Bool
  | .finite _ 0 _ => true
  | _ => false

theorem order_nan_left (x : Binary64) : order .nan x = none := by cases x <;> rfl

end Binary64
end Schemata
