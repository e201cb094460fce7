import Schemata.Binary64.Decimal
import Schemata.Text.Quoted
import Schemata.Value

/-!
The text of values. `display` shows a value so that its type can be told; `written` is the
same but for a text, which stands for itself, a mapping, which is written as its content,
an issue, which is written as its fields, and the missing value on its own.
-/
namespace Schemata.Value

/-- Doubles are positional from 0.0001 up to 10^16, and whole ones end in a zero. -/
def floatLayout : Decimal.Layout where
  positionalFrom := -4
  positionalBelow := 16
  wholeEnding := ".0"
  exponentMark := "e"
  exponentWidth := 2
  nanText := "nan"
  infinityText := "inf"

mutual
def display : Value → String
  | null => "None"
  | missing => "MISSING"
  | bool b => if b then "True" else "False"
  | int i => toString i
  | float x => x.write floatLayout
  | str s => Text.quoted s
  | bytes content => Text.quotedBytes content
  | list _ items => "[" ++ ", ".intercalate (displayItems items) ++ "]"
  | tuple _ items => Text.tupled (displayItems items)
  | dict _ entries => "\x7b" ++ ", ".intercalate (displayEntries entries) ++ "\x7d"
  | mapping _ entries =>
    "mappingproxy(\x7b" ++ ", ".intercalate (displayEntries entries) ++ "\x7d)"
  | foreign _ object => object.display
  | ok held => "Ok(value=" ++ held.display ++ ")"
  | err held => "Err(error=" ++ held.display ++ ")"
  | issue content => content.display
def displayItems : List Value → List String
  | [] => []
  | item :: rest => item.display :: displayItems rest
def displayEntries : List (Value × Value) → List String
  | [] => []
  | (key,value) :: rest => (key.display ++ ": " ++ value.display) :: displayEntries rest
end

def written : Value → String
  | str s => s
  | missing => "_Missing.MISSING"
  | mapping identity entries => (dict identity entries).display
  | issue content => content.written
  | value => value.display

end Schemata.Value
