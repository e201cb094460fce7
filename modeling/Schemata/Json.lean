import Schemata.Text.Quoted

/-!
JSON documents whose objects keep the order of their members, and their compact text. Only
the quotation mark, the backslash and the characters below the space are escaped.
-/
namespace Schemata

inductive Json where
  | null
  | bool (b : Bool)
  | int (i : Int)
  | text (s : String)
  | array (items : List Json)
  | object (members : List (String × Json))
  deriving Inhabited

namespace Json

def escaped (c : Char) : List Char :=
  if c = '"' then ['\\','"']
  else if c = '\\' then ['\\','\\']
  else if c = '\n' then ['\\','n']
  else if c = '\r' then ['\\','r']
  else if c = '\t' then ['\\','t']
  else if c.toNat = 8 then ['\\','b']
  else if c.toNat = 12 then ['\\','f']
  else if c.toNat < 0x20 then ['\\','u'] ++ Text.hexDigits 4 c.toNat
  else [c]

def quoted (s : String) : List Char := '"' :: s.toList.flatMap escaped ++ ['"']

def integer (i : Int) : List Char :=
  match i with
  | .ofNat n => Nat.toDigits 10 n
  | .negSucc n => '-' :: Nat.toDigits 10 (n + 1)

/-- The texts with commas between them. -/
def separated : List (List Char) → List Char
  | [] => []
  | [last] => last
  | first :: rest => first ++ ',' :: separated rest

mutual
def chars : Json → List Char
  | .null => "null".toList
  | .bool b => (if b then "true" else "false").toList
  | .int i => integer i
  | .text s => quoted s
  | .array items => '[' :: separated (itemChars items) ++ [']']
  | .object members => '{' :: separated (memberChars members) ++ ['}']
def itemChars : List Json → List (List Char)
  | [] => []
  | item :: rest => item.chars :: itemChars rest
def memberChars : List (String × Json) → List (List Char)
  | [] => []
  | (name,value) :: rest => (quoted name ++ ':' :: value.chars) :: memberChars rest
end

def compact (json : Json) : String := String.ofList json.chars

end Json
end Schemata
