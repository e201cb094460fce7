import Mathlib.Data.List.Basic
import Schemata.Issue

/-!
Issues as trees. What is below an issue is found by following keys; flattening lists the
childless issues in order, each with the keys that lead to it, and tagging writes those keys
into everything below the root and changes nothing else.
-/
namespace Schemata.Issue

@[elab_as_elim]
theorem induction {motive : Issue → Prop}
    (node : ∀ issue, (∀ entry ∈ issue.children, motive entry.2) → motive issue) (issue : Issue) :
    motive issue := by
  refine Issue.rec (motive_1 := motive)
    (motive_2 := fun entries => ∀ entry ∈ entries, motive entry.2)
    (motive_3 := fun entries => ∀ entry ∈ entries, motive entry.2)
    (motive_4 := fun entry => motive entry.2) (motive_5 := fun entry => motive entry.2)
    ?leaf ?staged ?plain ?array ?object ?noItems ?moreItems ?noFields ?moreFields
    (fun _ _ below => below) (fun _ _ below => below) issue
  case array | object =>
    intro message path entries below
    refine node _ fun entry member => ?_
    obtain ⟨child,present,rfl⟩ := List.mem_map.mp member
    exact below child present
  case moreItems | moreFields =>
    intro first rest head tail entry member
    rcases List.mem_cons.mp member with rfl | later
    · exact head
    · exact tail entry later
  case noItems | noFields => simp
  all_goals
    intros
    exact node _ (by simp [children])

/-- What is found from an issue by following keys. -/
inductive At : Issue → Path → Issue → Prop
  | root {issue : Issue} : At issue [] issue
  | child {issue inner found : Issue} {key : Key} {path : Path}
      (member : (key,inner) ∈ issue.children) (rest : At inner path found) :
      At issue (key :: path) found

/-- Every aggregate of the tree has a child. -/
def Populated (issue : Issue) : Prop :=
  ∀ path found, issue.At path found → found.isAggregate = true → found.children ≠ []

/-- Everything below the root carries the keys that lead to it. -/
def Located (issue : Issue) : Prop :=
  ∀ path found, issue.At path found → path ≠ [] → found.path = some path

theorem at_nil {issue found : Issue} : issue.At [] found ↔ found = issue := by
  constructor
  · intro reached
    cases reached
    rfl
  · intro same
    subst same
    exact .root

theorem at_cons {issue found : Issue} {key : Key} {path : Path} :
    issue.At (key :: path) found ↔ ∃ inner, (key,inner) ∈ issue.children ∧ inner.At path found := by
  constructor
  · intro reached
    cases reached with
    | child member rest => exact ⟨_,member,rest⟩
  · intro given
    obtain ⟨inner,member,rest⟩ := given
    exact .child member rest

theorem everywhere_iff {property : Issue → Prop} {issue : Issue} :
    (∀ path found, issue.At path found → property found) ↔
      property issue ∧
        ∀ entry ∈ issue.children, ∀ path found, entry.2.At path found → property found := by
  constructor
  · intro everywhere
    refine ⟨everywhere [] issue .root,fun entry member path found reached => ?_⟩
    exact everywhere (entry.1 :: path) found (.child member reached)
  · intro given path found reached
    obtain ⟨here,below⟩ := given
    cases reached with
    | root => exact here
    | child member rest => exact below _ member _ _ rest

theorem populated_iff {issue : Issue} : issue.Populated ↔
    (issue.isAggregate = true → issue.children ≠ []) ∧
      ∀ entry ∈ issue.children, entry.2.Populated :=
  everywhere_iff

theorem children_of_not_aggregate {issue : Issue} (simple : issue.isAggregate = false) :
    issue.children = [] := by
  cases issue <;> first | rfl | cases simple

theorem at_of_not_aggregate {issue found : Issue} {path : Path}
    (simple : issue.isAggregate = false) (reached : issue.At path found) :
    path = [] ∧ found = issue := by
  cases reached with
  | root => exact ⟨rfl,rfl⟩
  | child member _ => simp [children_of_not_aggregate simple] at member

theorem populated_of_not_aggregate {issue : Issue} (simple : issue.isAggregate = false) :
    issue.Populated := by
  refine populated_iff.mpr ⟨by simp [simple],?_⟩
  simp [children_of_not_aggregate simple]

@[simp] theorem children_withPath (path : Path) (issue : Issue) :
    (issue.withPath path).children = issue.children := by
  cases issue <;> rfl

@[simp] theorem message_withPath (path : Path) (issue : Issue) :
    (issue.withPath path).message = issue.message := by
  cases issue <;> rfl

@[simp] theorem isAggregate_withPath (path : Path) (issue : Issue) :
    (issue.withPath path).isAggregate = issue.isAggregate := by
  cases issue <;> rfl

@[simp] theorem path_withPath (path : Path) (issue : Issue) :
    (issue.withPath path).path = some path := by
  cases issue <;> rfl

theorem children_tagPaths (issue : Issue) (base : Path) :
    (issue.tagPaths base).children = issue.children.map fun entry =>
      (entry.1,(entry.2.tagPaths (base ++ [entry.1])).withPath (base ++ [entry.1])) := by
  cases issue with
  | array message path entries => simp [tagPaths,children,tagItems_eq]
  | object message path entries => simp [tagPaths,children,tagFields_eq]
  | leaf | staged | plain => simp [tagPaths,children]

@[simp] theorem message_tagPaths (issue : Issue) (base : Path) :
    (issue.tagPaths base).message = issue.message := by
  cases issue <;> rfl

@[simp] theorem path_tagPaths (issue : Issue) (base : Path) :
    (issue.tagPaths base).path = issue.path := by
  cases issue <;> rfl

@[simp] theorem isAggregate_tagPaths (issue : Issue) (base : Path) :
    (issue.tagPaths base).isAggregate = issue.isAggregate := by
  cases issue <;> rfl

theorem flatten_of_childless {issue : Issue} (childless : issue.children = []) (base : Path) :
    issue.flatten base = [(base,issue.message)] := by
  cases issue <;> simp_all [flatten,children,message]

theorem flatten_of_children {issue : Issue} (parent : issue.children ≠ []) (base : Path) :
    issue.flatten base =
      issue.children.flatMap fun entry => entry.2.flatten (base ++ [entry.1]) := by
  cases issue with
  | array message path entries =>
    have some : entries ≠ [] := by simpa [children] using parent
    simp [flatten,children,flattenItems_eq,List.flatMap_map,some]
  | object message path entries =>
    have some : entries ≠ [] := by simpa [children] using parent
    simp [flatten,children,flattenFields_eq,List.flatMap_map,some]
  | leaf | staged | plain => simp [children] at parent

theorem flatten_ne_nil (issue : Issue) (base : Path) : issue.flatten base ≠ [] := by
  induction issue using Issue.induction generalizing base with
  | node issue below =>
    by_cases childless : issue.children = []
    · simp [flatten_of_childless childless]
    · obtain ⟨entry,member⟩ := List.exists_mem_of_ne_nil _ childless
      rw [flatten_of_children childless,Ne,List.flatMap_eq_nil_iff]
      intro empty
      exact below entry member _ (empty entry member)

theorem flatten_append (issue : Issue) (base inner : Path) :
    issue.flatten (base ++ inner) = (issue.flatten inner).map (Prod.map (base ++ ·) id) := by
  induction issue using Issue.induction generalizing inner with
  | node issue below =>
    by_cases childless : issue.children = []
    · simp [flatten_of_childless childless]
    · rw [flatten_of_children childless,flatten_of_children childless,List.map_flatMap]
      refine List.flatMap_congr fun entry member => ?_
      rw [List.append_assoc]
      exact below entry member _

theorem flatten_eq_map (issue : Issue) (base : Path) :
    issue.flatten base = (issue.flatten []).map (Prod.map (base ++ ·) id) := by
  simpa using flatten_append issue base []

theorem mem_flatten_of_children {issue : Issue} (parent : issue.children ≠ []) {path : Path}
    {message : String} : (path,message) ∈ issue.flatten [] ↔
      ∃ entry ∈ issue.children, ∃ rest, path = entry.1 :: rest ∧
        (rest,message) ∈ entry.2.flatten [] := by
  rw [flatten_of_children parent,List.mem_flatMap]
  refine exists_congr fun entry => and_congr_right fun _ => ?_
  rw [List.nil_append,flatten_eq_map,List.mem_map]
  constructor
  · intro given
    obtain ⟨⟨rest,text⟩,inside,same⟩ := given
    simp only [Prod.map,List.singleton_append,id_eq,Prod.mk.injEq] at same
    obtain ⟨rfl,rfl⟩ := same
    exact ⟨rest,rfl,inside⟩
  · intro given
    obtain ⟨rest,rfl,inside⟩ := given
    exact ⟨(rest,message),inside,rfl⟩

@[simp] theorem flatten_withPath (issue : Issue) (path base : Path) :
    (issue.withPath path).flatten base = issue.flatten base := by
  cases issue <;> simp [withPath,flatten]

@[simp] theorem flatten_tagPaths (issue : Issue) (tag base : Path) :
    (issue.tagPaths tag).flatten base = issue.flatten base := by
  induction issue using Issue.induction generalizing tag base with
  | node issue below =>
    by_cases childless : issue.children = []
    · have kept : (issue.tagPaths tag).children = [] := by simp [children_tagPaths,childless]
      rw [flatten_of_childless kept,flatten_of_childless childless,message_tagPaths]
    · have kept : (issue.tagPaths tag).children ≠ [] := by simp [children_tagPaths,childless]
      rw [flatten_of_children kept,flatten_of_children childless,children_tagPaths,
        List.flatMap_map]
      refine List.flatMap_congr fun entry member => ?_
      rw [flatten_withPath]
      exact below entry member _ _

theorem flatten_ite_tagPaths (pathed : Bool) (issue : Issue) (base : Path) :
    (if pathed then issue.tagPaths [] else issue).flatten base = issue.flatten base := by
  split
  · exact flatten_tagPaths issue [] base
  · rfl

theorem populated_withPath {issue : Issue} {path : Path} (populated : issue.Populated) :
    (issue.withPath path).Populated := by
  rw [populated_iff] at populated ⊢
  simpa using populated

theorem populated_tagPaths {issue : Issue} (populated : issue.Populated) (base : Path) :
    (issue.tagPaths base).Populated := by
  induction issue using Issue.induction generalizing base with
  | node issue below =>
    obtain ⟨here,inside⟩ := populated_iff.mp populated
    refine populated_iff.mpr ⟨by simpa [children_tagPaths] using here,fun entry member => ?_⟩
    rw [children_tagPaths] at member
    obtain ⟨child,present,rfl⟩ := List.mem_map.mp member
    exact populated_withPath (below child present (inside child present) _)

theorem at_of_at_tagPaths {issue found : Issue} {base path : Path}
    (reached : (issue.tagPaths base).At path found) : ∃ original, issue.At path original := by
  induction path generalizing issue base found with
  | nil => exact ⟨issue,.root⟩
  | cons key path ih =>
    obtain ⟨inner,member,rest⟩ := at_cons.mp reached
    rw [children_tagPaths] at member
    obtain ⟨child,present,same⟩ := List.mem_map.mp member
    obtain ⟨rfl,rfl⟩ : child.1 = key ∧ _ = inner := by simpa using same
    -- Writing the path of the child itself leaves what is below it.
    have below : ∃ lower, (child.2.tagPaths (base ++ [child.1])).At path lower := by
      cases path with
      | nil => exact ⟨_,.root⟩
      | cons next path =>
        obtain ⟨grandchild,inside,rest⟩ := at_cons.mp rest
        rw [children_withPath] at inside
        exact ⟨found,.child inside rest⟩
    obtain ⟨lower,reached⟩ := below
    obtain ⟨original,rest⟩ := ih reached
    exact ⟨original,.child present rest⟩

theorem path_of_at_tagPaths {issue found : Issue} {base path : Path}
    (reached : (issue.tagPaths base).At path found) (below : path ≠ []) :
    found.path = some (base ++ path) := by
  induction path generalizing issue base with
  | nil => exact (below rfl).elim
  | cons key path ih =>
    obtain ⟨inner,member,reached⟩ := at_cons.mp reached
    rw [children_tagPaths] at member
    obtain ⟨child,present,same⟩ := List.mem_map.mp member
    simp only [Prod.mk.injEq] at same
    obtain ⟨rfl,rfl⟩ := same
    cases path with
    | nil =>
      rw [at_nil.mp reached]
      exact path_withPath _ _
    | cons next path =>
      obtain ⟨inner,member,reached⟩ := at_cons.mp reached
      rw [children_withPath] at member
      rw [ih (.child member reached) (by simp),List.append_assoc,List.singleton_append]

theorem located_tagPaths (issue : Issue) : (issue.tagPaths []).Located :=
  fun _ _ reached below => path_of_at_tagPaths reached below

theorem located_of_not_aggregate {issue : Issue} (simple : issue.isAggregate = false) :
    issue.Located := by
  intro path found reached below
  cases reached with
  | root => exact (below rfl).elim
  | child member _ => simp [children_of_not_aggregate simple] at member

end Schemata.Issue
