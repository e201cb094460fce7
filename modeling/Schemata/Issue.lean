/-!
Issues: what a failed validation answers. The failure of an array or an object holds an
issue per failing element or field, so that an issue is a tree shaped like the part of the
input that failed. `flatten` reads the places of the leaves off the tree; `tagPaths` writes
them into it.
-/
namespace Schemata

/-- One step down into a value: an array's index or an object's field. -/
inductive Key where
  | index (i : Int)
  | field (name : String)
  deriving DecidableEq, Repr

abbrev Path := List Key

/-- What a schema's own look at a value can object to. -/
inductive Complaint where
  | required | string | number | bigint | boolean | arrayType | objectType | literal | union
  deriving DecidableEq, Repr

/-- The three places where a schema calls a function of its user. -/
inductive StageKind where
  | refine | check | transform
  deriving DecidableEq, Repr

inductive Issue where
  | leaf (complaint : Complaint) (message : String) (path : Option Path)
  | staged (stage : StageKind) (message source : String) (path : Option Path)
  | plain (kind message : String) (path : Option Path)
  | array (message : String) (path : Option Path) (entries : List (Int × Issue))
  | object (message : String) (path : Option Path) (entries : List (String × Issue))
  deriving Inhabited

def Complaint.name : Complaint → String
  | .required => "required"
  | .string => "string"
  | .number => "number"
  | .bigint => "bigint"
  | .boolean => "boolean"
  | .arrayType => "array-type"
  | .objectType => "object-type"
  | .literal => "literal"
  | .union => "union"

def Complaint.all : List Complaint :=
  [.required,.string,.number,.bigint,.boolean,.arrayType,.objectType,.literal,.union]

def StageKind.name : StageKind → String
  | .refine => "refine"
  | .check => "check"
  | .transform => "transform"

def StageKind.all : List StageKind := [.refine,.check,.transform]

/-- The name under which notes speak of the stage's issues. -/
def StageKind.issueName : StageKind → String
  | .refine => "RefineIssue"
  | .check => "CheckIssue"
  | .transform => "TransformIssue"

namespace Issue

def kind : Issue → String
  | leaf complaint _ _ => complaint.name
  | staged stage _ _ _ => stage.name
  | plain kind _ _ => kind
  | array .. => "array-schema"
  | object .. => "object-schema"

def message : Issue → String
  | leaf _ message _ | staged _ message _ _ | plain _ message _
  | array message _ _ | object message _ _ => message

def path : Issue → Option Path
  | leaf _ _ path | staged _ _ _ path | plain _ _ path | array _ path _ | object _ path _ => path

def isAggregate : Issue → Bool
  | array .. | object .. => true
  | _ => false

def withPath (path : Path) : Issue → Issue
  | leaf complaint message _ => leaf complaint message (some path)
  | staged stage message source _ => staged stage message source (some path)
  | plain kind message _ => plain kind message (some path)
  | array message _ entries => array message (some path) entries
  | object message _ entries => object message (some path) entries

def children : Issue → List (Key × Issue)
  | array _ _ entries => entries.map fun entry => (.index entry.1,entry.2)
  | object _ _ entries => entries.map fun entry => (.field entry.1,entry.2)
  | _ => []

mutual
/-- A pair of place and message for every issue without children, from left to right. -/
def flatten : Issue → Path → List (Path × String)
  | array message _ entries,base =>
    if entries.isEmpty then [(base,message)] else flattenItems entries base
  | object message _ entries,base =>
    if entries.isEmpty then [(base,message)] else flattenFields entries base
  | leaf _ message _,base | staged _ message _ _,base | plain _ message _,base =>
    [(base,message)]
def flattenItems : List (Int × Issue) → Path → List (Path × String)
  | [],_ => []
  | (i,issue) :: rest,base => issue.flatten (base ++ [.index i]) ++ flattenItems rest base
def flattenFields : List (String × Issue) → Path → List (Path × String)
  | [],_ => []
  | (name,issue) :: rest,base =>
    issue.flatten (base ++ [.field name]) ++ flattenFields rest base
end

mutual
/-- Gives every issue below the root its place, counted from `base`; the root keeps its
own path. -/
def tagPaths : Issue → Path → Issue
  | array message path entries,base => array message path (tagItems entries base)
  | object message path entries,base => object message path (tagFields entries base)
  | issue,_ => issue
def tagItems : List (Int × Issue) → Path → List (Int × Issue)
  | [],_ => []
  | (i,issue) :: rest,base =>
    (i,(issue.tagPaths (base ++ [.index i])).withPath (base ++ [.index i])) :: tagItems rest base
def tagFields : List (String × Issue) → Path → List (String × Issue)
  | [],_ => []
  | (name,issue) :: rest,base =>
    (name,(issue.tagPaths (base ++ [.field name])).withPath (base ++ [.field name])) ::
      tagFields rest base
end

theorem flattenItems_eq (entries : List (Int × Issue)) (base : Path) :
    flattenItems entries base =
      entries.flatMap fun entry => entry.2.flatten (base ++ [.index entry.1]) := by
  induction entries with
  | nil => rfl
  | cons entry rest ih => rw [flattenItems,ih,List.flatMap_cons]

theorem flattenFields_eq (entries : List (String × Issue)) (base : Path) :
    flattenFields entries base =
      entries.flatMap fun entry => entry.2.flatten (base ++ [.field entry.1]) := by
  induction entries with
  | nil => rfl
  | cons entry rest ih => rw [flattenFields,ih,List.flatMap_cons]

theorem tagItems_eq (entries : List (Int × Issue)) (base : Path) :
    tagItems entries base = entries.map fun entry =>
      (entry.1,
        (entry.2.tagPaths (base ++ [.index entry.1])).withPath (base ++ [.index entry.1])) := by
  induction entries with
  | nil => rfl
  | cons entry rest ih => rw [tagItems,ih,List.map_cons]

theorem tagFields_eq (entries : List (String × Issue)) (base : Path) :
    tagFields entries base = entries.map fun entry =>
      (entry.1,
        (entry.2.tagPaths (base ++ [.field entry.1])).withPath (base ++ [.field entry.1])) := by
  induction entries with
  | nil => rfl
  | cons entry rest ih => rw [tagFields,ih,List.map_cons]

end Issue
end Schemata
