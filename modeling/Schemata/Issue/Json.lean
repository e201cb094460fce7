import Schemata.Issue
import Schemata.Json

/-!
The JSON form of an issue: its kind, message and path, then the source of a stage's issue
or the entries of an aggregate.
-/
namespace Schemata

def Key.toJson : Key → Json
  | .index i => .int i
  | .field name => .text name

def Path.toJson (path : Path) : Json := .array (path.map Key.toJson)

namespace Issue

def pathJson : Option Path → Json
  | none => .null
  | some path => Path.toJson path

/-- The members that every issue has. -/
def heading (kind message : String) (path : Option Path) : List (String × Json) :=
  [("kind",.text kind),("message",.text message),("path",pathJson path)]

mutual
def toJson : Issue → Json
  | leaf complaint message path => .object (heading complaint.name message path)
  | staged stage message source path =>
    .object (heading stage.name message path ++ [("source",.text source)])
  | plain kind message path => .object (heading kind message path)
  | array message path entries =>
    .object (heading "array-schema" message path ++ [("issues",.array (itemsJson entries))])
  | object message path entries =>
    .object (heading "object-schema" message path ++ [("issues",.array (fieldsJson entries))])
def itemsJson : List (Int × Issue) → List Json
  | [] => []
  | (i,issue) :: rest => .object [("index",.int i),("issue",issue.toJson)] :: itemsJson rest
def fieldsJson : List (String × Issue) → List Json
  | [] => []
  | (name,issue) :: rest =>
    .object [("field",.text name),("issue",issue.toJson)] :: fieldsJson rest
end

def compactJson (issue : Issue) : String := issue.toJson.compact

end Issue
end Schemata
