import Schemata.Issue
import Schemata.Text.Quoted
import Schemata.Text.Tupled

/-!
The text of issues. An issue is shown as its class with its fields by name; `written` lists
the fields alone.
-/
namespace Schemata

def Key.display : Key → String
  | .index i => toString i
  | .field name => Text.quoted name

namespace Issue

def className : Issue → String
  | leaf complaint .. => match complaint with
    | .required => "RequiredIssue"
    | .string => "StringIssue"
    | .number => "NumberIssue"
    | .bigint => "BigIntIssue"
    | .boolean => "BooleanIssue"
    | .arrayType => "ArrayTypeIssue"
    | .objectType => "ObjectTypeIssue"
    | .literal => "LiteralIssue"
    | .union => "UnionIssue"
  | staged stage .. => stage.issueName
  | plain .. => "Issue"
  | array .. => "ArraySchemaIssue"
  | object .. => "ObjectSchemaIssue"

def displayPath : Option Path → String
  | none => "None"
  | some path => Text.tupled (path.map Key.display)

/-- The fields that every issue has. -/
def shownHeading (kind message : String) (path : Option Path) : List String :=
  ["kind=" ++ Text.quoted kind,"message=" ++ Text.quoted message,"path=" ++ displayPath path]

def shownEntries (entries : List String) : String := "issues=" ++ Text.tupled entries

def shownAs (name : String) (fields : List String) : String :=
  name ++ "(" ++ ", ".intercalate fields ++ ")"

mutual
def shownFields : Issue → List String
  | leaf complaint message path => shownHeading complaint.name message path
  | staged stage message source path =>
    shownHeading stage.name message path ++ ["source=" ++ Text.quoted source]
  | plain kind message path => shownHeading kind message path
  | array message path entries =>
    shownHeading "array-schema" message path ++ [shownEntries (shownItems entries)]
  | object message path entries =>
    shownHeading "object-schema" message path ++ [shownEntries (shownMembers entries)]
def shownItems : List (Int × Issue) → List String
  | [] => []
  | (i,issue) :: rest =>
    shownAs "IndexIssue" ["index=" ++ toString i,
      "issue=" ++ shownAs issue.className issue.shownFields] :: shownItems rest
def shownMembers : List (String × Issue) → List String
  | [] => []
  | (name,issue) :: rest =>
    shownAs "FieldIssue" ["field=" ++ Text.quoted name,
      "issue=" ++ shownAs issue.className issue.shownFields] :: shownMembers rest
end

def display (issue : Issue) : String := shownAs issue.className issue.shownFields

def written (issue : Issue) : String := " ".intercalate issue.shownFields

end Issue
end Schemata
