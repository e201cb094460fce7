import Schemata.Text.Integer
import Schemata.Value.Entries

/-!
Reading issues from plain values. The class of an issue is named outright or by its kind,
and an unknown name means an issue without a class of its own. A field that the class has
must stand for a value of the right type, a kind that is given must be the class's own, and
an aggregate has at least one entry; fields that the class does not have are passed over.
-/
namespace Schemata

namespace Value

mutual
/-- How deep containers are nested in a value. -/
def depth : Value → Nat
  | list _ items | tuple _ items => depthItems items + 1
  | dict _ entries | mapping _ entries => depthEntries entries + 1
  | _ => 0
def depthItems : List Value → Nat
  | [] => 0
  | item :: rest => max item.depth (depthItems rest)
def depthEntries : List (Value × Value) → Nat
  | [] => 0
  | (_,bound) :: rest => max bound.depth (depthEntries rest)
end

/-- The integer that a value stands for: a truth value is zero or one, a whole double below
2^63 in size is itself, and a text is the integer that it spells. -/
def integer? : Value → Option Int
  | int i => some i
  | bool b => some (if b then 1 else 0)
  | float x => x.toInt?.filter fun i => i.natAbs < Binary64.twoTo 63
  | value => value.text?.bind Text.integer?

/-- A value that spells a text is a name, even if the text spells an integer. -/
def key? (value : Value) : Option Key :=
  match value.text? with
  | some name => some (.field name)
  | none => value.integer?.map .index

/-- A path, where null and absence mean that there is none. -/
def path? : Option Value → Option (Option Path)
  | none | some null => some none
  | some (list _ items) | some (tuple _ items) => (items.mapM key?).map some
  | _ => none

end Value

namespace Issue

def member? (entries : Entries) (name : String) : Option Value := entries.find? (.str name)

/-- The kind of a class may be left out, but not changed. -/
def keepsKind (entries : Entries) (own : String) : Bool :=
  match member? entries "kind" with
  | none => true
  | some kind => kind == .str own

def readWithin : Nat → Value → Option Issue
  | 0,_ => none
  | depth + 1,value => do
    let entries ← value.entries?
    let message ← (← member? entries "message").text?
    let path ← Value.path? (member? entries "path")
    let name := ((member? entries "class" <|> member? entries "kind").bind Value.text?).getD ""
    let children := do
      let items ← (← member? entries "issues").iterate?
      if items.isEmpty then none else items.mapM Value.entries?
    if let some complaint := Complaint.all.find? (·.name == name) then
      guard (keepsKind entries complaint.name)
      return leaf complaint message path
    else if let some stage := StageKind.all.find? (·.name == name) then
      guard (keepsKind entries stage.name)
      return staged stage message (← (← member? entries "source").text?) path
    else if name = "array-schema" then
      guard (keepsKind entries name)
      return array message path (← (← children).mapM fun entry => do
        return (← (← member? entry "index").integer?,
          ← readWithin depth (← member? entry "issue")))
    else if name = "object-schema" then
      guard (keepsKind entries name)
      return object message path (← (← children).mapM fun entry => do
        return (← (← member? entry "field").text?,
          ← readWithin depth (← member? entry "issue")))
    else return plain (← (← member? entries "kind").text?) message path

/-- The issue that a mapping of fields describes, if it describes one. -/
def read (value : Value) : Option Issue := readWithin value.depth value

end Issue
end Schemata
