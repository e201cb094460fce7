import Schemata.Proofs.Annotation

/-!
Tagging and flattening count places alike. Tagging writes a place into each issue on its way
down, flattening gathers places on its way back; what is then read off the leaves of the tagged
tree, in order, is the flattened list, and tagging wrote nothing else.
-/
namespace Schemata.Issue

mutual
/-- The issues without children, from left to right. -/
def leaves : Issue → List Issue
  | array message path [] => [array message path []]
  | array _ _ (entry :: rest) => leavesItems (entry :: rest)
  | object message path [] => [object message path []]
  | object _ _ (entry :: rest) => leavesFields (entry :: rest)
  | issue => [issue]
def leavesItems : List (Int × Issue) → List Issue
  | [] => []
  | (_,issue) :: rest => issue.leaves ++ leavesItems rest
def leavesFields : List (String × Issue) → List Issue
  | [] => []
  | (_,issue) :: rest => issue.leaves ++ leavesFields rest
end

theorem leavesItems_eq (entries : List (Int × Issue)) :
    leavesItems entries = entries.flatMap fun entry => entry.2.leaves := by
  induction entries with
  | nil => rfl
  | cons entry rest ih => rw [leavesItems,ih,List.flatMap_cons]

theorem leavesFields_eq (entries : List (String × Issue)) :
    leavesFields entries = entries.flatMap fun entry => entry.2.leaves := by
  induction entries with
  | nil => rfl
  | cons entry rest ih => rw [leavesFields,ih,List.flatMap_cons]

theorem leaves_of_childless {issue : Issue} (childless : issue.children = []) :
    issue.leaves = [issue] := by
  cases issue with
  | array message path entries =>
    obtain rfl : entries = [] := by simpa [children] using childless
    rw [leaves]
  | object message path entries =>
    obtain rfl : entries = [] := by simpa [children] using childless
    rw [leaves]
  | leaf | staged | plain => rfl

theorem leaves_of_children {issue : Issue} (parent : issue.children ≠ []) :
    issue.leaves = issue.children.flatMap fun entry => entry.2.leaves := by
  cases issue with
  | array message path entries =>
    cases entries with
    | nil => exact (parent rfl).elim
    | cons entry rest => rw [leaves,leavesItems_eq,children,List.flatMap_map]
  | object message path entries =>
    cases entries with
    | nil => exact (parent rfl).elim
    | cons entry rest => rw [leaves,leavesFields_eq,children,List.flatMap_map]
  | leaf | staged | plain => exact (parent rfl).elim

/-- What an issue itself says about its place, and its message. -/
def placed (issue : Issue) : Option Path × String := (issue.path,issue.message)

/-- One level: if the places agree in what is below the children, they agree below the root. -/
theorem placed_of_below {issue : Issue} (parent : issue.children ≠ []) (base : Path)
    (below : ∀ entry ∈ issue.children,
      ((entry.2.tagPaths (base ++ [entry.1])).withPath (base ++ [entry.1])).leaves.map placed =
        (entry.2.flatten (base ++ [entry.1])).map (Prod.map some id)) :
    (issue.tagPaths base).leaves.map placed = (issue.flatten base).map (Prod.map some id) := by
  have tagged : (issue.tagPaths base).children ≠ [] := by simpa [children_tagPaths] using parent
  rw [leaves_of_children tagged,flatten_of_children parent,children_tagPaths,List.flatMap_map,
    List.map_flatMap,List.map_flatMap]
  exact List.flatMap_congr below

theorem leaves_withPath {issue : Issue} (parent : issue.children ≠ []) (path : Path) :
    (issue.withPath path).leaves = issue.leaves := by
  have kept : (issue.withPath path).children ≠ [] := by simpa using parent
  rw [leaves_of_children kept,leaves_of_children parent,children_withPath]

theorem placed_located (issue : Issue) (base : Path) :
    ((issue.tagPaths base).withPath base).leaves.map placed =
      (issue.flatten base).map (Prod.map some id) := by
  induction issue using Issue.induction generalizing base with
  | node issue below =>
    by_cases childless : issue.children = []
    · have bare : ((issue.tagPaths base).withPath base).children = [] := by
        simp [children_tagPaths,childless]
      rw [leaves_of_childless bare,flatten_of_childless childless]
      simp [placed]
    · have tagged : (issue.tagPaths base).children ≠ [] := by
        simpa [children_tagPaths] using childless
      rw [leaves_withPath tagged]
      exact placed_of_below childless base fun entry member => below entry member _

/-- The leaves of a tagged aggregate carry in order the places and messages that flattening
lists. But for paths nothing is changed, and the root keeps its own. -/
theorem tagPaths_places_leaves (issue : Issue) (base : Path) (parent : issue.children ≠ []) :
    ((issue.tagPaths base).leaves.map fun leaf => (leaf.path,leaf.message)) =
        (issue.flatten base).map (fun place => (some place.1,place.2)) ∧
      (issue.tagPaths base).path = issue.path ∧
      (issue.tagPaths base).erased = issue.erased := by
  refine ⟨?_,path_tagPaths issue base,erased_tagPaths issue base⟩
  exact placed_of_below parent base fun entry _ => placed_located entry.2 _

/-- Indexes and names that occur twice, and paths that were set before. -/
theorem tagPaths_places_leaves_repeated :
    let text (path : Option Path) : Issue := .leaf .string "text" path
    let failed (path : Option Path) : Issue := .staged .check "failed" "array" path
    let issue (here there first second third : Option Path) : Issue :=
      .array "items" here [(2,.object "fields" there [("a",text first),("a",failed second)]),
        (2,.plain "own" "other" third)]
    let before : Issue :=
      issue (some [.index 9]) none (some [.field "z"]) none (some [])
    let after : Issue :=
      issue (some [.index 9]) (some [.field "x",.index 2])
        (some [.field "x",.index 2,.field "a"]) (some [.field "x",.index 2,.field "a"])
        (some [.field "x",.index 2])
    before.tagPaths [.field "x"] = after ∧
      (after.leaves.map fun leaf => (leaf.path,leaf.message)) =
        [(some [.field "x",.index 2,.field "a"],"text"),
          (some [.field "x",.index 2,.field "a"],"failed"),(some [.field "x",.index 2],"other")] ∧
      after.erased = before.erased := by
  intro text failed issue before after
  have tagged : before.tagPaths [.field "x"] = after := rfl
  have parent : before.children ≠ [] := by simp [before,issue,children]
  obtain ⟨read,_,content⟩ := tagPaths_places_leaves before [.field "x"] parent
  rw [tagged] at read content
  exact ⟨tagged,read,content⟩

end Schemata.Issue
