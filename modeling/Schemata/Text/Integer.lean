import Schemata.Binary64.Decimal

/-!
Integers written loosely: decimal digits, between which single underscores may stand, with
a sign in front, a fraction of zeros behind, and blanks around. Zeros may lead, behind a sign
too, and where there is no minus in front one may stand behind the zeros.
-/
namespace Schemata.Text

/-- The white space of Unicode. -/
def isBlank (c : Char) : Bool :=
  let n := c.toNat
  (0x9 ≤ n && n ≤ 0xd) || n == 0x20 || n == 0x85 || n == 0xa0 || n == 0x1680 ||
    (0x2000 ≤ n && n ≤ 0x200a) || n == 0x2028 || n == 0x2029 || n == 0x202f ||
    n == 0x205f || n == 0x3000

def trimmed (cs : List Char) : List Char :=
  ((cs.dropWhile isBlank).reverse.dropWhile isBlank).reverse

/-- Takes away the zeros and underscores in front, all but the last of them where the text
ends or a fraction begins. -/
def withoutZeros (cs : List Char) : List Char :=
  let padding := cs.takeWhile fun c => c == '0' || c == '_'
  match cs.drop padding.length with
  | [] => padding.getLast?.toList
  | '.' :: fraction => padding.getLast?.toList ++ '.' :: fraction
  | rest => rest

/-- Takes away a fraction of zeros, of which there is at least one. -/
def withoutFraction (cs : List Char) : List Char :=
  let fraction := (cs.dropWhile (· != '.')).drop 1
  if !fraction.isEmpty && fraction.all (· == '0') then cs.takeWhile (· != '.') else cs

/-- Takes away the underscores that stand single and inside. -/
def ungrouped : List Char → List Char
  | c :: '_' :: d :: rest =>
    if c != '_' && d != '_' then c :: ungrouped (d :: rest) else c :: '_' :: d :: rest
  | c :: rest => c :: ungrouped rest
  | [] => []

/-- What is left of a text that starts with a digit: the digits alone, if it is an integer. -/
def bare? (cs : List Char) : Option (List Char) :=
  if cs.head?.any Char.isDigit then some (ungrouped (withoutFraction (withoutZeros cs)))
  else none

/-- Reads at most 4300 digits, without zeros in front. -/
def digits? (cs : List Char) : Option Nat :=
  if (cs.head? = some '0' ∧ cs ≠ ['0']) ∨ 4300 < cs.length then none else Decimal.natural? cs

/-- Reads digits behind a minus, or digits alone. -/
def signed? : List Char → Option Int
  | '-' :: cs => (digits? cs).map fun n => -(n : Int)
  | cs => (digits? cs).map Int.ofNat

/-- The integer that a text spells loosely. -/
def integer? (s : String) : Option Int :=
  match trimmed s.toList with
  | '-' :: rest => (bare? rest).bind fun cs => signed? ('-' :: cs)
  | '+' :: rest | rest => (bare? rest).bind signed?

end Schemata.Text
