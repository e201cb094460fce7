import Schemata.Value.Identity

/-!
Tables in insertion order, such as the entries of dictionaries. Keys are looked up by
their normal form, in which a number is one key however it is written; writing to a key
that is there keeps its place and its spelling, writing to another one appends.
-/
namespace Schemata

namespace Value

mutual
/-- The normal form of a key: whole numbers and truth values are integers, and all tuples
of the same content are one. -/
def keyForm : Value → Value
  | bool b => int (if b then 1 else 0)
  | float x => match x.toInt? with
    | some i => int i
    | none => float x
  | tuple _ items => tuple (.given 0) (keyForms items)
  | key => key
def keyForms : List Value → List Value
  | [] => []
  | item :: rest => item.keyForm :: keyForms rest
end

def sameKey (a b : Value) : Bool := a.keyForm == b.keyForm

mutual
/-- The type of the first part that keeps a value from being a key. -/
def unhashable? : Value → Option String
  | tuple _ items => unhashableItem? items
  | ok held | err held => held.unhashable?
  | key@(list ..) | key@(dict ..) | key@(mapping ..) => some key.typeName
  | _ => none
def unhashableItem? : List Value → Option String
  | [] => none
  | item :: rest => item.unhashable? <|> unhashableItem? rest
end

end Value

/-- Keys with what they are bound to, in insertion order. -/
abbrev Table (β : Type) := List (Value × β)

namespace Table

def find? {β : Type} (table : Table β) (key : Value) : Option β :=
  (List.find? (fun entry => entry.1.sameKey key) table).map (·.2)

def contains {β : Type} (table : Table β) (key : Value) : Bool :=
  table.any fun entry => entry.1.sameKey key

def insert {β : Type} (table : Table β) (key : Value) (bound : β) : Table β :=
  if table.contains key then
    table.map fun entry => if entry.1.sameKey key then (entry.1,bound) else entry
  else table ++ [(key,bound)]

def erase {β : Type} (table : Table β) (key : Value) : Table β :=
  table.filter fun entry => !entry.1.sameKey key

def overlay {β : Type} (table : Table β) (pairs : List (Value × β)) : Table β :=
  pairs.foldl (fun table pair => table.insert pair.1 pair.2) table

def ofList {β : Type} (pairs : List (Value × β)) : Table β := overlay [] pairs

end Table

abbrev Entries := Table Value

end Schemata
