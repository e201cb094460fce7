import Mathlib.Data.List.Pairwise
import Schemata.Proofs.Annotation
import Schemata.Proofs.Containment
import Schemata.Proofs.Origin

/-!
Paths tell leaves apart. A visit fails at each slot once at most, so that the keys below an
issue of a reading are distinct, unless a stage hands over a tree of its own; and where keys are
distinct the paths of two leaves branch off at some issue above both.
-/
namespace Schemata

/-- Neither of two paths begins with the other. -/
def Path.Parted (first second : Path) : Prop := ¬ first <+: second ∧ ¬ second <+: first

namespace Path

variable {first second : Path}

instance : Std.Symm Parted where
  symm _ _ parted := ⟨parted.2,parted.1⟩

theorem Parted.ne (parted : first.Parted second) : first ≠ second :=
  fun same => parted.1 (same ▸ List.prefix_rfl)

theorem parted_cons {key : Key} (parted : first.Parted second) :
    Parted (key :: first) (key :: second) := by
  simpa [Parted,List.cons_prefix_cons] using parted

theorem parted_of_key {key other : Key} (differ : key ≠ other) (first second : Path) :
    Parted (key :: first) (other :: second) := by
  simp [Parted,List.cons_prefix_cons,differ,differ.symm]

end Path

namespace Issue

/-- No issue of the tree has two children with the same key. -/
def Distinct (issue : Issue) : Prop :=
  ∀ path found, issue.At path found → (found.children.map (·.1)).Nodup

theorem distinct_iff {issue : Issue} : issue.Distinct ↔
    (issue.children.map (·.1)).Nodup ∧ ∀ entry ∈ issue.children, entry.2.Distinct :=
  everywhere_iff

theorem distinct_of_not_aggregate {issue : Issue} (simple : issue.isAggregate = false) :
    issue.Distinct := by
  refine distinct_iff.mpr ⟨?_,?_⟩ <;> simp [children_of_not_aggregate simple]

theorem keys_erased (issue : Issue) :
    issue.erased.children.map (·.1) = issue.children.map (·.1) := by
  rw [children_erased,List.map_map]
  rfl

theorem distinct_of_erased {issue other : Issue} (same : issue.erased = other.erased)
    (distinct : issue.Distinct) : other.Distinct := by
  intro path found reached
  have standing : issue.erased.At path found.erased := by
    rw [same]
    exact at_erased.mpr ⟨found,reached,rfl⟩
  obtain ⟨original,inside,alike⟩ := at_erased.mp standing
  rw [← keys_erased,← alike,keys_erased]
  exact distinct path original inside

/-- Where keys are distinct, the paths of the leaves are parted. -/
theorem flatten_parted {issue : Issue} (distinct : issue.Distinct) :
    ((issue.flatten []).map Prod.fst).Pairwise Path.Parted := by
  induction issue using Issue.induction with
  | node issue below =>
    by_cases childless : issue.children = []
    · simp [flatten_of_childless childless]
    · obtain ⟨keys,inside⟩ := distinct_iff.mp distinct
      have paths : (issue.flatten []).map Prod.fst = issue.children.flatMap fun entry =>
          ((entry.2.flatten []).map Prod.fst).map (entry.1 :: ·) := by
        rw [flatten_of_children childless,List.map_flatMap]
        refine List.flatMap_congr fun entry _ => ?_
        rw [List.nil_append,flatten_eq_map,List.map_map,List.map_map]
        rfl
      rw [paths,List.pairwise_flatMap]
      -- Two leaves are below one child, or below children with different keys.
      constructor
      · intro entry member
        rw [List.pairwise_map]
        exact (below entry member (inside entry member)).imp Path.parted_cons
      · refine (List.pairwise_map.mp keys).imp fun differ first given second taken => ?_
        obtain ⟨_,_,rfl⟩ := List.mem_map.mp given
        obtain ⟨_,_,rfl⟩ := List.mem_map.mp taken
        exact Path.parted_of_key differ _ _

end Issue

namespace Schema

theorem distinct_kept : KeptWhere Form.Distinct Issue.Distinct where
  leaf _ _ := Issue.distinct_of_not_aggregate rfl
  worded _ _ := Issue.distinct_of_not_aggregate rfl
  gathered form serial value visited root distinct done _ gathered below := by
    rw [Issue.distinct_iff,gathered.children]
    exact ⟨Form.visited_failures_nodup distinct done,below⟩
  tagged issue distinct :=
    Issue.distinct_of_erased (Issue.erased_tagPaths issue []).symm distinct

/-- Where no object declares a field twice and no stage hands over an aggregate, the paths of a
flattened failure are pairwise distinct, none begins with another, and there is at least one. -/
theorem safe_parse_parts_leaves (schema : Schema) (value : Value) (issue : Issue)
    (distinct : schema.Distinct)
    (handed : schema.HandsOver 0 value fun _ given => given.isAggregate = false)
    (failed : (schema.safeParse value).outcome = .ok (.error issue)) :
    ((issue.flatten []).map Prod.fst).Nodup ∧
      (∀ first ∈ (issue.flatten []).map Prod.fst, ∀ second ∈ (issue.flatten []).map Prod.fst,
        first <+: second → first = second) ∧
      issue.flatten [] ≠ [] := by
  have simple : schema.HandsOver 0 value fun _ => Issue.Distinct :=
    fun consultation calls given hands =>
      Issue.distinct_of_not_aggregate (handed consultation calls given hands)
  have parted := Issue.flatten_parted (read_issue_kept_where distinct_kept distinct simple failed)
  refine ⟨parted.imp Path.Parted.ne,?_,Issue.flatten_ne_nil issue []⟩
  intro first member second another begins
  by_contra differ
  exact (parted.forall member another differ).1 begins

/-- A list that refuses its first element and both fields of its second, where a refinement
hands over an issue of its own. -/
theorem safe_parse_parts_leaves_list :
    let refuse : Stage := .function none fun _ _ _ =>
      pure (.err (.issue (.plain "own" "no" none)))
    let schema : Schema := .node ⟨.empty,.array (.node ⟨.empty,.object
      [("a",.node ⟨.empty,.boolean⟩),("b",.node ⟨{ Config.empty with refines := [refuse] },.any⟩)]
      .off⟩) .none false⟩
    let input : Value := .list (.given 0) [.int 1,.dict (.given 1) []]
    ∃ issue, (schema.safeParse input).outcome = .ok (.error issue) ∧
      (issue.flatten []).map Prod.fst =
        [[.index 0],[.index 1,.field "a"],[.index 1,.field "b"]] ∧
      ((issue.flatten []).map Prod.fst).Nodup := by
  intro refuse schema input
  refine ⟨_,rfl,rfl,(safe_parse_parts_leaves schema input _ ?_ ?_ rfl).1⟩
  · refine .parent trivial rfl (.node (by simp [Form.Distinct]) fun child member => ?_)
    simp only [Form.children,List.map_cons,List.map_nil,List.mem_cons,List.not_mem_nil,
      or_false] at member
    rcases member with rfl | rfl
    · exact .leaf trivial rfl
    · exact .leaf trivial rfl
  · have simple : schema.Every fun content => ∀ stage ∈ content.stages,
        ∀ serial value context given, (stage.call serial value context).outcome =
          .ok (.err (.issue given)) → given.isAggregate = false := by
      refine .parent (by simp [Node.stages,Config.empty]) rfl
        (.node (by simp [Node.stages,Config.empty]) fun child member => ?_)
      simp only [Form.children,List.map_cons,List.map_nil,List.mem_cons,List.not_mem_nil,
        or_false] at member
      rcases member with rfl | rfl
      · exact .leaf (by simp [Node.stages,Config.empty]) rfl
      · refine .leaf (fun stage member serial value context given hands => ?_) rfl
        obtain rfl : stage = refuse := by simpa [Node.stages,Config.empty] using member
        cases hands
        rfl
    exact fun consultation calls given hands => calls.of_every simple _ _ _ given hands

end Schema
end Schemata
