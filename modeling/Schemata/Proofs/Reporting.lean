import Schemata.Proofs.Consultation
import Schemata.Proofs.IssueTree

/-!
Reports are sound and complete. Where nothing is refined, containers keep every failure and
functions hand over no issues but their own, a failed validation reports exactly the places
that can be followed down into the value through failing containers to a schema that objects to
what it finds there.
-/
namespace Schemata

/-- The node that the wrappers of a schema are around. -/
inductive Schema.Unwraps : Schema → Node Stage Schema → Prop
  | self {content : Node Stage Schema} (bare : content.form.wrapped? = none) :
      Unwraps (.node content) content
  | through {content core : Node Stage Schema} {inner : Schema}
      (shape : content.form.wrapped? = some inner) (rest : Unwraps inner core) :
      Unwraps (.node content) core

/-- A path that is followed through failing containers to a simple issue with the message. -/
inductive Schema.Reports : Schema → Nat → Value → Path → String → Prop
  | here {schema : Schema} {serial : Nat} {value : Value} {issue : Issue}
      (answered : (schema.parser.read serial value).outcome = .ok (.error issue))
      (simple : issue.isAggregate = false) :
      Reports schema serial value [] issue.message
  | inside {schema : Schema} {serial : Nat} {value : Value} {issue : Issue}
      {core : Node Stage Schema} {slot : Slot} {path : Path} {message : String}
      (answered : (schema.parser.read serial value).outcome = .ok (.error issue))
      (aggregate : issue.isAggregate = true) (unwraps : schema.Unwraps core)
      (member : slot ∈ core.form.slots value)
      (rest : Reports slot.schema (value.freshFrom serial) slot.item path message) :
      Reports schema serial value (slot.key :: path) message

namespace Schema

variable {schema : Schema} {serial : Nat} {value : Value}

theorem Reports.answered {path : Path} {message : String}
    (reports : schema.Reports serial value path message) :
    ∃ issue, (schema.parser.read serial value).outcome = .ok (.error issue) := by
  cases reports with
  | here answered _ | inside answered _ _ _ _ => exact ⟨_,answered⟩

theorem reports_of_simple {issue : Issue}
    (answered : (schema.parser.read serial value).outcome = .ok (.error issue))
    (simple : issue.isAggregate = false) {path : Path} {message : String} :
    schema.Reports serial value path message ↔ path = [] ∧ message = issue.message := by
  constructor
  · intro reports
    cases reports with
    | here again _ =>
      rw [answered] at again
      cases again
      exact ⟨rfl,rfl⟩
    | inside again aggregate _ _ _ =>
      rw [answered] at again
      cases again
      rw [simple] at aggregate
      cases aggregate
  · intro given
    obtain ⟨rfl,rfl⟩ := given
    exact .here answered simple

theorem reports_of_aggregate {issue : Issue}
    (answered : (schema.parser.read serial value).outcome = .ok (.error issue))
    (aggregate : issue.isAggregate = true) {path : Path} {message : String} :
    schema.Reports serial value path message ↔
      ∃ core slot rest, schema.Unwraps core ∧ slot ∈ core.form.slots value ∧
        path = slot.key :: rest ∧
        slot.schema.Reports (value.freshFrom serial) slot.item rest message := by
  constructor
  · intro reports
    cases reports with
    | here again simple =>
      rw [answered] at again
      cases again
      rw [simple] at aggregate
      cases aggregate
    | inside _ _ unwraps member rest => exact ⟨_,_,_,unwraps,member,rfl,rest⟩
  · intro given
    obtain ⟨core,slot,rest,unwraps,member,rfl,reports⟩ := given
    exact .inside answered aggregate unwraps member reports

theorem unwraps_iff_of_wrapped {content core : Node Stage Schema} {inner : Schema}
    (shape : content.form.wrapped? = some inner) :
    (Schema.node content).Unwraps core ↔ inner.Unwraps core := by
  constructor
  · intro unwraps
    cases unwraps with
    | self bare =>
      rw [shape] at bare
      cases bare
    | through other rest =>
      rw [shape] at other
      cases other
      exact rest
  · exact .through shape

theorem unwraps_iff_of_bare {content core : Node Stage Schema}
    (bare : content.form.wrapped? = none) : (Schema.node content).Unwraps core ↔ core = content := by
  constructor
  · intro unwraps
    cases unwraps with
    | self _ => rfl
    | through shape _ =>
      rw [bare] at shape
      cases shape
  · intro same
    subst same
    exact .self bare

theorem aggregate_complains {content : Node Stage Schema} {issue : Issue}
    (unrefined : content.config.refines = [])
    (owned : (Schema.node content).HandsOver serial value Consultation.Owns)
    (answered : ((Schema.node content).parser.read serial value).outcome = .ok (.error issue))
    (aggregate : issue.isAggregate = true) :
    content.Enters serial value value ∧ content.form.Complains serial value issue := by
  rcases read_issue answered with ⟨consultation,asks,ended⟩ | ⟨current,entered,ended⟩
  · have own : consultation.Owns issue := ended.elim (owned consultation (.asked asks) issue) id
    rw [own.simple] at aggregate
    cases aggregate
  · obtain rfl := entered.unrefined unrefined
    exact ⟨entered,Node.structural_complains ended⟩

/-- What the failures of a retained container list is listed by a failing slot. -/
theorem mem_flatten_of_gathers {form : Form Stage Schema} (retained : form.immediate = false)
    {visited : Visit Key} (done : (form.visited serial value).outcome = .ok visited)
    (failed : visited.failures ≠ []) {root : Issue} (gathered : root.Gathers visited.failures)
    {path : Path} {message : String} :
    (path,message) ∈ root.flatten [] ↔ ∃ slot ∈ form.slots value, ∃ inner rest,
      (slot.schema.parser.read (value.freshFrom serial) slot.item).outcome = .ok (.error inner) ∧
        path = slot.key :: rest ∧ (rest,message) ∈ inner.flatten [] := by
  have parent : root.children ≠ [] := by rwa [gathered.children]
  have failures := (Form.visited_retained retained done).2
  rw [Issue.mem_flatten_of_children parent,gathered.children]
  constructor
  · intro given
    obtain ⟨entry,member,rest,same,inside⟩ := given
    obtain ⟨slot,present,key,ended⟩ := (failures entry).mp member
    rw [← key] at same
    exact ⟨slot,present,entry.2,rest,ended,same,inside⟩
  · intro given
    obtain ⟨slot,present,inner,rest,ended,same,inside⟩ := given
    exact ⟨(slot.key,inner),(failures _).mpr ⟨slot,present,rfl,ended⟩,rest,same,inside⟩

theorem mem_flatten_iff_reports {issue : Issue}
    (plain : schema.Every fun content =>
      content.config.refines = [] ∧ content.form.immediate = false)
    (owned : schema.HandsOver serial value Consultation.Owns)
    (answered : (schema.parser.read serial value).outcome = .ok (.error issue)) {path : Path}
    {message : String} :
    (path,message) ∈ issue.flatten [] ↔ schema.Reports serial value path message := by
  induction schema using Schema.induction generalizing serial value issue path with
  | node content below =>
    obtain ⟨unrefined,retained⟩ := plain.here
    rcases simple : issue.isAggregate with _ | _
    · rw [reports_of_simple answered simple,
        Issue.flatten_of_childless (Issue.children_of_not_aggregate simple),List.mem_singleton,
        Prod.mk.injEq]
    have aggregate := simple
    obtain ⟨entered,complains⟩ := aggregate_complains unrefined owned answered aggregate
    rw [reports_of_aggregate answered aggregate]
    cases complains with
    | objects objects =>
      rw [objects.not_aggregate] at aggregate
      cases aggregate
    | forwards shape forwarded =>
      have reads : content.form.Reads serial value _ serial value := .wrapped shape
      have member := reads_child reads
      rw [below _ member (plain.child member) (owned.child entered reads) forwarded,
        reports_of_aggregate forwarded aggregate]
      simp only [unwraps_iff_of_wrapped shape]
    | refuses shape given refused =>
      have own : Consultation.Owns ⟨_,serial,_,.transform _ _⟩ issue :=
        (Stage.consult_issue refused).elim
          (owned _ (.transformed entered shape given) issue) id
      rw [own.simple] at aggregate
      cases aggregate
    | gathers visited root admitted done failed gathered marked =>
      have passed := (Form.visited_retained retained done).1
      rw [marked,Issue.flatten_ite_tagPaths,mem_flatten_of_gathers retained done failed gathered]
      simp only [unwraps_iff_of_bare (Form.bare_of_failed done failed)]
      -- Both sides speak of a failing slot, and below the slot they agree.
      have agree {slot : Slot} (member : slot ∈ content.form.slots value) {inner : Issue}
          (ended : (slot.schema.parser.read (value.freshFrom serial) slot.item).outcome =
            .ok (.error inner)) {rest : Path} :
          (rest,message) ∈ inner.flatten [] ↔
            slot.schema.Reports (value.freshFrom serial) slot.item rest message := by
        have reads : content.form.Reads serial value slot.schema _ slot.item :=
          .slot admitted (Reached.of_mem passed member)
            (Task.granted_of_goesOn (passed slot member))
        have child := reads_child reads
        exact below _ child (plain.child child) (owned.child entered reads) ended
      constructor
      · intro given
        obtain ⟨slot,member,inner,rest,ended,same,inside⟩ := given
        exact ⟨content,slot,rest,rfl,member,same,(agree member ended).mp inside⟩
      · intro given
        obtain ⟨core,slot,rest,rfl,member,same,reports⟩ := given
        obtain ⟨inner,ended⟩ := reports.answered
        exact ⟨slot,member,inner,rest,ended,same,(agree member ended).mpr reports⟩

/-- For a schema that refines nothing and keeps every failure, whose functions hand over no
issues but their own, the pairs of a failed validation are the paths that can be followed to a
simple issue, with its message. -/
theorem safe_parse_reports (schema : Schema) (value : Value)
    (plain : schema.Every fun content =>
      content.config.refines = [] ∧ content.form.immediate = false)
    (owned : schema.HandsOver 0 value Consultation.Owns) (issue : Issue)
    (failed : (schema.safeParse value).outcome = .ok (.error issue)) (path : Path)
    (message : String) :
    (path,message) ∈ issue.flatten [] ↔ schema.Reports 0 value path message :=
  mem_flatten_iff_reports plain owned failed

theorem safe_parse_reports_check :
    let refuse : Stage := .function none fun _ _ context => pure (.err (.issue (context.issue "no")))
    let field : Schema := .node ⟨⟨.null,.null,[],[(refuse,.null)]⟩,.any⟩
    let schema : Schema := .node ⟨.empty,.object [("age",.node ⟨.empty,.optional field⟩)] .off⟩
    schema.Reports 0 (.dict (.given 0) [(.str "age",.int 3)]) [.field "age"] "no" := by
  intro refuse field schema
  have plain : schema.Every fun content =>
      content.config.refines = [] ∧ content.form.immediate = false :=
    .parent ⟨rfl,rfl⟩ rfl (.parent ⟨rfl,rfl⟩ rfl (.leaf ⟨rfl,rfl⟩ rfl))
  have refusing : schema.Every fun content => ∀ stage ∈ content.stages, stage = refuse :=
    .parent (by simp [Node.stages,Config.empty]) rfl
      (.parent (by simp [Node.stages,Config.empty]) rfl (.leaf (by simp [Node.stages]) rfl))
  have owned : schema.HandsOver 0 (.dict (.given 0) [(.str "age",.int 3)]) Consultation.Owns := by
    intro consultation calls issue given
    have same := calls.of_every refusing
    rw [Consultation.Hands,Consultation.reply,same] at given
    cases given
    exact ⟨"no",rfl⟩
  apply (safe_parse_reports schema _ plain owned _ rfl _ _).mp
  exact List.mem_singleton_self _

end Schema
end Schemata
