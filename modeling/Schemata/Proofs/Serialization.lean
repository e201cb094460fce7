import Schemata.Issue.Json
import Schemata.Proofs.IssueTree
import Schemata.Proofs.Readability

/-!
Serialization loses nothing. The JSON form of an issue tells its class by the kind, and shows all
its fields and those of everything below it; the text tells the JSON form. Only an issue without a
class of its own can pass for another one, by bearing the kind of that one's class.
-/
namespace Schemata

theorem Complaint.name_injective : Function.Injective Complaint.name := by
  intro complaint other same
  cases complaint <;> cases other <;> first | rfl | exact absurd same (by decide)

theorem StageKind.name_injective : Function.Injective StageKind.name := by
  intro stage other same
  cases stage <;> cases other <;> first | rfl | exact absurd same (by decide)

theorem Key.toJson_injective : Function.Injective Key.toJson := by
  intro key other same
  cases key with
  | index i =>
    cases other with
    | index j => exact congrArg Key.index (Json.int.inj same)
    | field name => cases same
  | field name =>
    cases other with
    | index i => cases same
    | field label => exact congrArg Key.field (Json.text.inj same)

namespace Issue

theorem pathJson_injective : Function.Injective pathJson := by
  intro path other same
  cases path with
  | none =>
    cases other with
    | none => rfl
    | some place => cases same
  | some path =>
    cases other with
    | none => cases same
    | some place =>
      exact congrArg some (List.map_injective_iff.mpr Key.toJson_injective (Json.array.inj same))

/-- Every issue of the tree has a class of its own. -/
def Classed (issue : Issue) : Prop :=
  ∀ path found, issue.At path found → ∀ kind message place, found ≠ plain kind message place

theorem classed_iff {issue : Issue} : issue.Classed ↔
    (∀ kind message place, issue ≠ plain kind message place) ∧
      ∀ entry ∈ issue.children, entry.2.Classed :=
  everywhere_iff

@[simp] theorem classed_leaf (complaint : Complaint) (message : String) (path : Option Path) :
    (leaf complaint message path).Classed :=
  classed_iff.mpr (by simp [children])

@[simp] theorem classed_staged (stage : StageKind) (message source : String)
    (path : Option Path) : (staged stage message source path).Classed :=
  classed_iff.mpr (by simp [children])

@[simp] theorem not_classed_plain (kind message : String) (path : Option Path) :
    ¬ (plain kind message path).Classed :=
  fun classed => (classed_iff.mp classed).1 kind message path rfl

@[simp] theorem classed_array {message : String} {path : Option Path}
    {entries : List (Int × Issue)} :
    (array message path entries).Classed ↔ ∀ entry ∈ entries, entry.2.Classed := by
  rw [classed_iff,children,List.forall_mem_map]
  simp

@[simp] theorem classed_object {message : String} {path : Option Path}
    {entries : List (String × Issue)} :
    (object message path entries).Classed ↔ ∀ entry ∈ entries, entry.2.Classed := by
  rw [classed_iff,children,List.forall_mem_map]
  simp

/-- The members that the issues of a class have beside those that every issue has. -/
def ownMembers : Issue → List (String × Json)
  | leaf .. | plain .. => []
  | staged _ _ source _ => [("source",.text source)]
  | array _ _ entries => [("issues",.array (itemsJson entries))]
  | object _ _ entries => [("issues",.array (fieldsJson entries))]

theorem toJson_eq (issue : Issue) :
    issue.toJson = .object (heading issue.kind issue.message issue.path ++ issue.ownMembers) := by
  cases issue <;> rfl

theorem toJson_eq_iff {issue other : Issue} : issue.toJson = other.toJson ↔
    issue.kind = other.kind ∧ issue.message = other.message ∧ issue.path = other.path ∧
      issue.ownMembers = other.ownMembers := by
  rw [toJson_eq,toJson_eq]
  simp [heading,pathJson_injective.eq_iff]

/-- An entry of an aggregate under the key that leads to it. -/
def entryJson {κ : Type} (name : String) (write : κ → Json) (entry : κ × Issue) : Json :=
  .object [(name,write entry.1),("issue",entry.2.toJson)]

theorem itemsJson_eq (entries : List (Int × Issue)) :
    itemsJson entries = entries.map (entryJson "index" .int) := by
  induction entries with
  | nil => rfl
  | cons entry rest ih => rw [itemsJson,ih,List.map_cons,entryJson]

theorem fieldsJson_eq (entries : List (String × Issue)) :
    fieldsJson entries = entries.map (entryJson "field" .text) := by
  induction entries with
  | nil => rfl
  | cons entry rest ih => rw [fieldsJson,ih,List.map_cons,entryJson]

/-- Entries are told by their JSON form if the issues that they hold are. -/
theorem entries_eq {κ : Type} {name : String} {write : κ → Json} (keys : Function.Injective write)
    {entries others : List (κ × Issue)}
    (told : ∀ entry ∈ entries, ∀ other ∈ others,
      entry.2.toJson = other.2.toJson → entry.2 = other.2)
    (same : entries.map (entryJson name write) = others.map (entryJson name write)) :
    entries = others := by
  induction entries generalizing others with
  | nil => exact (List.map_eq_nil_iff.mp same.symm).symm
  | cons entry entries ih =>
    cases others with
    | nil => cases same
    | cons other others =>
      obtain ⟨heads,tails⟩ := List.cons.inj same
      have rest := ih (fun entry member other inside => told entry (List.mem_cons_of_mem _ member)
        other (List.mem_cons_of_mem _ inside)) tails
      simp only [entryJson,Json.object.injEq,List.cons.injEq,Prod.mk.injEq,true_and,
        and_true] at heads
      obtain ⟨key,issue⟩ := heads
      have first : entry = other :=
        Prod.ext (keys key) (told entry List.mem_cons_self other List.mem_cons_self issue)
      rw [first,rest]

/-- Issues that have classes of their own are told by their JSON form. -/
theorem eq_of_toJson {issue other : Issue} (classed : issue.Classed) (others : other.Classed)
    (same : issue.toJson = other.toJson) : issue = other := by
  induction issue using Issue.induction generalizing other with
  | node issue below =>
    obtain ⟨kinds,messages,paths,members⟩ := toJson_eq_iff.mp same
    cases issue with
    | plain => exact (not_classed_plain _ _ _ classed).elim
    | leaf complaint message path =>
      cases other with
      | leaf rival text place =>
        obtain rfl := Complaint.name_injective kinds
        obtain rfl : message = text := messages
        obtain rfl : path = place := paths
        rfl
      | plain => exact (not_classed_plain _ _ _ others).elim
      | _ => cases members
    | staged stage message source path =>
      cases other with
      | staged rival text origin place =>
        obtain rfl := StageKind.name_injective kinds
        obtain rfl : message = text := messages
        obtain rfl : path = place := paths
        cases members
        rfl
      | plain => exact (not_classed_plain _ _ _ others).elim
      | _ => exact absurd members (by simp [ownMembers])
    | array message path entries =>
      cases other with
      | array text place rivals =>
        obtain rfl : message = text := messages
        obtain rfl : path = place := paths
        simp only [ownMembers,itemsJson_eq,List.cons.injEq,Prod.mk.injEq,Json.array.injEq,
          true_and,and_true] at members
        apply congrArg (array message path)
        refine entries_eq (fun _ _ => Json.int.inj) (fun entry member rival present => ?_) members
        exact below (.index entry.1,entry.2) (List.mem_map_of_mem member)
          (classed_array.mp classed entry member) (classed_array.mp others rival present)
      | object => exact absurd kinds (by simp [kind])
      | plain => exact (not_classed_plain _ _ _ others).elim
      | _ => exact absurd members (by simp [ownMembers])
    | object message path entries =>
      cases other with
      | object text place rivals =>
        obtain rfl : message = text := messages
        obtain rfl : path = place := paths
        simp only [ownMembers,fieldsJson_eq,List.cons.injEq,Prod.mk.injEq,Json.array.injEq,
          true_and,and_true] at members
        apply congrArg (object message path)
        refine entries_eq (fun _ _ => Json.text.inj) (fun entry member rival present => ?_) members
        exact below (.field entry.1,entry.2) (List.mem_map_of_mem member)
          (classed_object.mp classed entry member) (classed_object.mp others rival present)
      | array => exact absurd kinds (by simp [kind])
      | plain => exact (not_classed_plain _ _ _ others).elim
      | _ => exact absurd members (by simp [ownMembers])

/-- The text of an issue determines the whole tree, if all its issues have classes of their own. -/
theorem compactJson_determines (issue other : Issue) (classed : issue.Classed)
    (others : other.Classed) (same : issue.compactJson = other.compactJson) : issue = other :=
  eq_of_toJson classed others (Json.compact_injective same)

/-- Messages that look like the members after them, and a step that is a number or a text. -/
theorem compactJson_determines_tagged :
    let tree (outer inner : Option Path) : Issue :=
      .object "\",\"path\":null" none
        [("0",.array "\n" outer [(0,.staged .check "\\" "\",\"path\":null\x7d" inner)])]
    let given := (tree none none).tagPaths []
    let written := tree (some [.field "0"]) (some [.field "0",.index 0])
    let confused := tree (some [.field "0"]) (some [.index 0,.field "0"])
    given.Classed ∧ written.Classed ∧ confused.Classed ∧
      given.compactJson = written.compactJson ∧ given = written ∧
      confused.compactJson ≠ written.compactJson := by
  intro tree given written confused
  have classed (outer inner : Option Path) : (tree outer inner).Classed := by simp [tree]
  have tagged : given.Classed := classed (some [.field "0"]) (some [.field "0",.index 0])
  have same : given.compactJson = written.compactJson := rfl
  refine ⟨tagged,classed _ _,classed _ _,same,?_,fun equal => ?_⟩
  · exact compactJson_determines given written tagged (classed _ _) same
  · have impossible := compactJson_determines confused written (classed _ _) (classed _ _) equal
    simp [confused,written,tree] at impossible

/-- An issue without a class of its own passes for one that has the class of that kind. -/
example : (plain "string" "bad" none).compactJson = (leaf .string "bad" none).compactJson := rfl

end Issue
end Schemata
