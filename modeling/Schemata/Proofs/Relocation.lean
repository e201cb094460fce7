import Schemata.Proofs.Annotation

/-!
Tagging overwrites. All that tagging reads of a tree is the content without the paths, and of the
paths that of the root, which it keeps. So whatever places were written below the root before, by
tagging parts of the tree or one by one, tagging the whole gives the same.
-/
namespace Schemata.Issue

/-- How places are written into an issue: into all that is below it, or into the issue alone. -/
inductive Placing where
  | tagged (base : Path)
  | located (path : Path)

def Placing.apply : Placing → Issue → Issue
  | tagged base,issue => issue.tagPaths base
  | located path,issue => issue.withPath path

/-- The tree with the issue at a position changed. The position tells which child to go into, from
the root down; where there is no such child nothing is changed. -/
def modifyAt (change : Issue → Issue) : List Nat → Issue → Issue
  | [],issue => change issue
  | n :: rest,array message path entries =>
    array message path (entries.modify n (Prod.map id (modifyAt change rest)))
  | n :: rest,object message path entries =>
    object message path (entries.modify n (Prod.map id (modifyAt change rest)))
  | _ :: _,issue => issue

/-- Places written somewhere below the root: into a child, or into what is further down from it. -/
structure Relocation where
  child : Nat
  inside : List Nat
  placing : Placing

def Relocation.apply (relocation : Relocation) (issue : Issue) : Issue :=
  issue.modifyAt relocation.placing.apply (relocation.child :: relocation.inside)

/-- The tree after places were written below its root, one time after the other. -/
def relocated (issue : Issue) (relocations : List Relocation) : Issue :=
  relocations.foldl (fun tree relocation => relocation.apply tree) issue

theorem eq_of_withPath {issue other : Issue} (path : Path) (root : issue.path = other.path)
    (same : issue.withPath path = other.withPath path) : issue = other := by
  cases issue <;> cases other <;> simp_all [withPath,Issue.path]

/-- Once the root is located too, no path of the tree before is left. -/
theorem located_erased (issue : Issue) (base path : Path) :
    (issue.erased.tagPaths base).withPath path = (issue.tagPaths base).withPath path := by
  induction issue using Issue.induction generalizing base path with
  | node issue below =>
    cases issue with
    | array message own entries =>
      rw [erased_array,tagPaths,tagPaths,tagItems_eq,tagItems_eq,List.map_map]
      apply congrArg (array message (some path))
      apply List.map_congr_left
      intro entry member
      have child := below (.index entry.1,entry.2) (List.mem_map_of_mem member)
      simp only [Function.comp_apply,child]
    | object message own entries =>
      rw [erased_object,tagPaths,tagPaths,tagFields_eq,tagFields_eq,List.map_map]
      apply congrArg (object message (some path))
      apply List.map_congr_left
      intro entry member
      have child := below (.field entry.1,entry.2) (List.mem_map_of_mem member)
      simp only [Function.comp_apply,child]
    | leaf | staged | plain => rfl

/-- Tagging tells trees apart by their content without the paths and by the path of the root. -/
theorem tagPaths_eq_iff {issue other : Issue} {base : Path} :
    issue.tagPaths base = other.tagPaths base ↔
      issue.path = other.path ∧ issue.erased = other.erased := by
  constructor
  · intro same
    have root := congrArg Issue.path same
    have content := congrArg Issue.erased same
    simp only [path_tagPaths,erased_tagPaths] at root content
    exact ⟨root,content⟩
  · rintro ⟨root,content⟩
    apply eq_of_withPath []
    · simpa using root
    · rw [← located_erased issue,content,located_erased]

theorem map_modify {α β : Type} {change : α → α} {read : α → β}
    (unseen : ∀ item, read (change item) = read item) (items : List α) (n : Nat) :
    (items.modify n change).map read = items.map read := by
  induction items generalizing n with
  | nil => simp
  | cons item rest ih =>
    cases n with
    | zero => simp [unseen]
    | succ n => simp [ih]

theorem erased_modifyAt {change : Issue → Issue}
    (unseen : ∀ issue, (change issue).erased = issue.erased) (position : List Nat)
    (issue : Issue) : (issue.modifyAt change position).erased = issue.erased := by
  induction position generalizing issue with
  | nil => exact unseen issue
  | cons n rest ih =>
    cases issue with
    | array message path entries =>
      rw [modifyAt,erased_array,erased_array]
      apply congrArg (array message none)
      apply map_modify
      intro entry
      simp only [Prod.map,id_eq,ih]
    | object message path entries =>
      rw [modifyAt,erased_object,erased_object]
      apply congrArg (object message none)
      apply map_modify
      intro entry
      simp only [Prod.map,id_eq,ih]
    | leaf | staged | plain => rfl

theorem Placing.erased_apply (placing : Placing) (issue : Issue) :
    (placing.apply issue).erased = issue.erased := by
  cases placing with
  | tagged base => exact erased_tagPaths issue base
  | located path => exact erased_withPath issue path

theorem Relocation.erased_apply (relocation : Relocation) (issue : Issue) :
    (relocation.apply issue).erased = issue.erased :=
  erased_modifyAt relocation.placing.erased_apply _ issue

theorem Relocation.path_apply (relocation : Relocation) (issue : Issue) :
    (relocation.apply issue).path = issue.path := by
  cases issue <;> rfl

theorem erased_relocated (issue : Issue) (relocations : List Relocation) :
    (issue.relocated relocations).erased = issue.erased := by
  induction relocations generalizing issue with
  | nil => rfl
  | cons relocation rest ih =>
    calc
      (issue.relocated (relocation :: rest)).erased = (relocation.apply issue).erased := ih _
      _ = issue.erased := relocation.erased_apply issue

theorem path_relocated (issue : Issue) (relocations : List Relocation) :
    (issue.relocated relocations).path = issue.path := by
  induction relocations generalizing issue with
  | nil => rfl
  | cons relocation rest ih =>
    calc
      (issue.relocated (relocation :: rest)).path = (relocation.apply issue).path := ih _
      _ = issue.path := relocation.path_apply issue

/-- Tagging a tree does not depend on the places that were written below its root before, wherever,
however often and in whatever order; in particular not on those that tagging the tree itself wrote.
-/
theorem tagPaths_absorbs (issue : Issue) (relocations : List Relocation) (inner outer : Path) :
    (issue.relocated relocations).tagPaths outer = issue.tagPaths outer ∧
      (issue.tagPaths inner).tagPaths outer = issue.tagPaths outer := by
  constructor
  · apply tagPaths_eq_iff.mpr
    exact ⟨path_relocated issue relocations,erased_relocated issue relocations⟩
  · apply tagPaths_eq_iff.mpr
    exact ⟨path_tagPaths issue inner,erased_tagPaths issue inner⟩

/-- An array is tagged from elsewhere and then moved, and its element moved too. -/
example :
    let tree (row text : Option Path) : Issue :=
      .object "fields" none [("rows",.array "items" row [(1,.leaf .string "text" text)])]
    let relocations : List Relocation :=
      [⟨0,[],.tagged [.field "x"]⟩,⟨0,[0],.located []⟩,⟨0,[],.located [.index 7]⟩]
    let moved : Issue := tree (some [.index 7]) (some [])
    (tree none none).relocated relocations = moved ∧
      moved.tagPaths [] = tree (some [.field "rows"]) (some [.field "rows",.index 1]) :=
  ⟨rfl,rfl⟩

end Schemata.Issue
