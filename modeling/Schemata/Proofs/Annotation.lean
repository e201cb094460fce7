import Schemata.Proofs.IssueTree
import Schemata.Proofs.Matching

/-!
Paths are annotation. Erasing them from an issue takes away all that tagging writes, and nothing
that flattening reads; so trees that differ in which of their objects are pathed read alike, with
issues that are equal once the paths are erased.
-/
namespace Schemata

namespace Issue

mutual
/-- The issue without any path in it. -/
def erased : Issue → Issue
  | leaf complaint message _ => leaf complaint message none
  | staged stage message source _ => staged stage message source none
  | plain kind message _ => plain kind message none
  | array message _ entries => array message none (erasedItems entries)
  | object message _ entries => object message none (erasedFields entries)
def erasedItems : List (Int × Issue) → List (Int × Issue)
  | [] => []
  | (i,issue) :: rest => (i,issue.erased) :: erasedItems rest
def erasedFields : List (String × Issue) → List (String × Issue)
  | [] => []
  | (name,issue) :: rest => (name,issue.erased) :: erasedFields rest
end

theorem erasedItems_eq (entries : List (Int × Issue)) :
    erasedItems entries = entries.map fun entry => (entry.1,entry.2.erased) := by
  induction entries with
  | nil => rfl
  | cons entry rest ih => rw [erasedItems,ih,List.map_cons]

theorem erasedFields_eq (entries : List (String × Issue)) :
    erasedFields entries = entries.map fun entry => (entry.1,entry.2.erased) := by
  induction entries with
  | nil => rfl
  | cons entry rest ih => rw [erasedFields,ih,List.map_cons]

@[simp] theorem erased_withPath (issue : Issue) (path : Path) :
    (issue.withPath path).erased = issue.erased := by
  cases issue <;> rfl

theorem erased_array (message : String) (path : Option Path) (entries : List (Int × Issue)) :
    (array message path entries).erased =
      array message none (entries.map fun entry => (entry.1,entry.2.erased)) := by
  rw [erased,erasedItems_eq]

theorem erased_object (message : String) (path : Option Path) (entries : List (String × Issue)) :
    (object message path entries).erased =
      object message none (entries.map fun entry => (entry.1,entry.2.erased)) := by
  rw [erased,erasedFields_eq]

theorem children_erased (issue : Issue) :
    issue.erased.children = issue.children.map fun entry => (entry.1,entry.2.erased) := by
  cases issue with
  | array message path entries => simp [erased_array,children]
  | object message path entries => simp [erased_object,children]
  | leaf | staged | plain => rfl

@[simp] theorem message_erased (issue : Issue) : issue.erased.message = issue.message := by
  cases issue <;> rfl

/-- Tagging writes nothing but paths. -/
@[simp] theorem erased_tagPaths (issue : Issue) (base : Path) :
    (issue.tagPaths base).erased = issue.erased := by
  induction issue using Issue.induction generalizing base with
  | node issue below =>
    cases issue with
    | array message path entries =>
      rw [tagPaths,erased_array,erased_array,tagItems_eq,List.map_map]
      congr 1
      apply List.map_congr_left
      intro entry member
      have child := below (.index entry.1,entry.2) (List.mem_map_of_mem member)
      simp only [Function.comp_apply,erased_withPath,child]
    | object message path entries =>
      rw [tagPaths,erased_object,erased_object,tagFields_eq,List.map_map]
      congr 1
      apply List.map_congr_left
      intro entry member
      have child := below (.field entry.1,entry.2) (List.mem_map_of_mem member)
      simp only [Function.comp_apply,erased_withPath,child]
    | leaf | staged | plain => rfl

/-- Flattening reads no paths. -/
theorem flatten_erased (issue : Issue) (base : Path) :
    issue.erased.flatten base = issue.flatten base := by
  induction issue using Issue.induction generalizing base with
  | node issue below =>
    by_cases childless : issue.children = []
    · have bare : issue.erased.children = [] := by simp [children_erased,childless]
      rw [flatten_of_childless bare,flatten_of_childless childless,message_erased]
    · have parent : issue.erased.children ≠ [] := by simp [children_erased,childless]
      rw [flatten_of_children parent,flatten_of_children childless,children_erased,
        List.flatMap_map]
      apply List.flatMap_congr
      intro entry member
      exact below entry member _

/-- The same places are found without the paths. -/
theorem at_erased {issue lower : Issue} {path : Path} :
    issue.erased.At path lower ↔ ∃ found, issue.At path found ∧ found.erased = lower := by
  induction path generalizing issue with
  | nil =>
    simp only [at_nil,exists_eq_left]
    exact eq_comm
  | cons key rest ih =>
    simp only [at_cons,children_erased]
    constructor
    · rintro ⟨inner,member,reached⟩
      obtain ⟨entry,present,same⟩ := List.mem_map.mp member
      obtain ⟨rfl,rfl⟩ := Prod.mk.inj same
      obtain ⟨found,further,alike⟩ := ih.mp reached
      exact ⟨found,⟨entry.2,present,further⟩,alike⟩
    · rintro ⟨found,⟨inner,member,reached⟩,alike⟩
      have below := ih.mpr ⟨found,reached,alike⟩
      exact ⟨inner.erased,List.mem_map.mpr ⟨(key,inner),member,rfl⟩,below⟩

end Issue

structure Flags.Repathed (before after : Flags) : Prop where
  immediate : before.immediate = after.immediate
  strict : before.strict = after.strict

/-- Any objects may be pathed or not. -/
def Variation.pathedness : Variation := { none with flags := Flags.Repathed }

/-- The same outputs, and issues with the same content but for the paths. -/
def Likeness.unlocated : Likeness where
  issues := fun first second => first.erased = second.erased
  outputs := Eq
  excuse := fun _ => False

theorem Likeness.unlocated_kept : Likeness.unlocated.Kept .pathedness where
  issue _ := rfl
  output _ := rfl
  configs same := same
  switches same := same
  flags varied := varied.immediate
  array message first second keyed := by
    have entries := map_eq_of_sameKey (fun a b same => same) keyed
    simp only [unlocated,Issue.erased_array,entries]
  object _ message first second keyed := by
    have entries := map_eq_of_sameKey (fun a b same => same) keyed
    have content (pathed : Bool) (issue : Issue) :
        (if pathed then issue.tagPaths [] else issue).erased = issue.erased := by
      split
      · exact Issue.erased_tagPaths issue []
      · rfl
    simp only [unlocated,content,Issue.erased_object,entries]
  list isList serial given items first second keyed := by
    obtain rfl := eq_of_sameKey keyed
    rfl
  record varied isDict serial given access entries items first second keyed := by
    obtain rfl := eq_of_sameKey keyed
    rw [varied.strict]
    exact Run.matches_self (fun output => rfl) _
  checks _ source serial input first second same := by
    obtain rfl : first = second := same
    exact Run.matches_self (answers_self (fun issue => rfl) fun output => rfl) _
  functions same source serial first second alike := by
    obtain rfl : first = second := alike
    obtain rfl := same
    exact Run.matches_self (answers_self (fun issue => rfl) fun output => rfl) _

namespace Schema

/-- Which objects of a tree are pathed changes nothing about a validation but the paths: the same
is recorded, and it ends in the same fault, in the same output, or in issues with the same content
apart from the paths and the same pairs. -/
theorem safe_parse_pathless (first second : Schema) (varied : first.Varied .pathedness second)
    (value : Value) :
    (first.safeParse value).events = (second.safeParse value).events ∧
    ((∃ fault, (first.safeParse value).outcome = .error fault ∧
        (second.safeParse value).outcome = .error fault) ∨
      (∃ output, (first.safeParse value).outcome = .ok (.ok output) ∧
        (second.safeParse value).outcome = .ok (.ok output)) ∨
      ∃ issue other, (first.safeParse value).outcome = .ok (.error issue) ∧
        (second.safeParse value).outcome = .ok (.error other) ∧ issue.erased = other.erased ∧
        ∀ base, issue.flatten base = other.flatten base) := by
  have same : Run.Matches Likeness.unlocated.excuse Likeness.unlocated.Answers
      (first.safeParse value) (second.safeParse value) :=
    (Likeness.unlocated_kept.parser varied).read 0 value
  obtain ⟨recorded,ended⟩ := Run.Matches.strictly same
  refine ⟨recorded,?_⟩
  generalize (first.safeParse value).outcome = ours at ended ⊢
  generalize (second.safeParse value).outcome = theirs at ended ⊢
  cases ended with
  | @error fault early equal => exact .inl ⟨fault,rfl,by rw [equal]⟩
  | ok answered =>
    cases answered with
    | @ok output result equal => exact .inr (.inl ⟨output,rfl,by rw [equal]⟩)
    | @error issue other equal =>
      refine .inr (.inr ⟨issue,other,rfl,rfl,equal,fun base => ?_⟩)
      calc
        issue.flatten base = issue.erased.flatten base := (Issue.flatten_erased issue base).symm
        _ = other.erased.flatten base := by rw [equal]
        _ = other.flatten base := Issue.flatten_erased other base

theorem safe_parse_pathless_nested :
    let schema (outer inner : Bool) : Schema := .node ⟨.empty,.object [("a",.node ⟨.empty,
      .object [("b",.node ⟨.empty,.boolean⟩)] ⟨false,false,inner⟩⟩)] ⟨true,false,outer⟩⟩
    let input : Value := .dict (.given 0) [(.str "a",.dict (.given 1) [])]
    let issue (middle : Option Path) (path : Path) : Issue :=
      .object "Object fields failed validation" none
        [("a",.object "Object fields failed validation" middle
          [("b",.leaf .required "Value is required" (some path))])]
    ((schema true false).safeParse input).outcome =
        .ok (.error (issue (some [.field "a"]) [.field "a",.field "b"])) ∧
      ((schema false true).safeParse input).outcome = .ok (.error (issue none [.field "b"])) ∧
      (issue (some [.field "a"]) [.field "a",.field "b"]).erased =
        (issue none [.field "b"]).erased := by
  intro schema input issue
  have ours : ((schema true false).safeParse input).outcome =
      .ok (.error (issue (some [.field "a"]) [.field "a",.field "b"])) := rfl
  have theirs : ((schema false true).safeParse input).outcome =
      .ok (.error (issue none [.field "b"])) := rfl
  refine ⟨ours,theirs,?_⟩
  have varied : (schema true false).Varied .pathedness (schema false true) :=
    .node rfl (.object (.cons (.node rfl (.object (.cons (.node rfl .boolean) .nil) ⟨rfl,rfl⟩))
      .nil) ⟨rfl,rfl⟩)
  have ended := (safe_parse_pathless _ _ varied input).2
  rw [ours,theirs] at ended
  rcases ended with ⟨_,impossible,_⟩ | ⟨_,impossible,_⟩ | ⟨first,second,failed,failing,content,_⟩
  · cases impossible
  · cases impossible
  · cases failed
    cases failing
    exact content

end Schema
end Schemata
