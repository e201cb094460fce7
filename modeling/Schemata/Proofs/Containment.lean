import Schemata.Proofs.IssueTree
import Schemata.Proofs.Recording

/-!
Validation contains errors. Whatever the functions of its user do, a reading with proper
messages gives an output or an issue, unless a call aborts; and what holds of objections, of
the words of calls and of issues handed over, and is kept by gathering and tagging, holds of
every issue that a reading ends in. What a mapping raises when it is read is not contained.
-/
namespace Schemata

namespace Schema

variable {serial : Nat} {value : Value}

/-- A property of issues that the steps of a reading keep, if the forms that gather failures are
as they should be. -/
structure KeptWhere (formed : Form Stage Schema → Prop) (property : Issue → Prop) : Prop where
  leaf : ∀ complaint text, property (.leaf complaint text none)
  worded : ∀ (context : Context) message, property (context.issue message)
  gathered : ∀ (form : Form Stage Schema) serial value visited root, formed form →
    (form.visited serial value).outcome = .ok visited → visited.failures ≠ [] →
    root.Gathers visited.failures → (∀ failure ∈ visited.failures, property failure.2) →
    property root
  tagged : ∀ issue, property issue → property (issue.tagPaths [])

theorem read_issue_kept_where {formed : Form Stage Schema → Prop} {property : Issue → Prop}
    (kept : KeptWhere formed property) {schema : Schema}
    (every : schema.Every fun content => formed content.form)
    (handed : schema.HandsOver serial value fun _ => property) {issue : Issue}
    (complained : (schema.parser.read serial value).outcome = .ok (.error issue)) :
    property issue := by
  induction schema using Schema.induction generalizing serial value issue with
  | node content below =>
    rcases read_issue complained with ⟨consultation,asks,ended⟩ | ⟨current,entered,ended⟩
    · rcases ended with given | ⟨message,rfl⟩
      · exact handed consultation (.asked asks) issue given
      · exact kept.worded _ _
    have answered {child : Schema} {inner : Nat} {item : Value} {issue : Issue}
        (reads : content.form.Reads serial current child inner item)
        (complained : (child.parser.read inner item).outcome = .ok (.error issue)) :
        property issue :=
      have member := reads_child reads
      below child member (every.child member) (handed.child entered reads) complained
    cases Node.structural_complains ended with
    | objects objects =>
      obtain ⟨complaint,text,rfl,_⟩ := objects
      exact kept.leaf complaint text
    | forwards shape ended => exact answered (.wrapped shape) ended
    | refuses shape ended refused =>
      rcases Stage.consult_issue refused with given | ⟨message,rfl⟩
      · exact handed _ (.transformed entered shape ended) issue given
      · exact kept.worded _ _
    | gathers visited root admitted done failed gathered marked =>
      have whole : property root := by
        refine kept.gathered content.form serial current visited root every.here done failed
          gathered fun failure member => ?_
        obtain ⟨slot,reached,_,granted,ended⟩ := Form.visited_failure done member
        exact answered (.slot admitted reached granted) ended
      rw [marked]
      split
      · exact kept.tagged root whole
      · exact whole

/-- A property of issues that every step of a reading keeps. -/
structure Kept (property : Issue → Prop) : Prop where
  leaf : ∀ complaint text, property (.leaf complaint text none)
  worded : ∀ (context : Context) message, property (context.issue message)
  gathered : ∀ (root : Issue) failures, root.Gathers failures → failures ≠ [] →
    (∀ failure ∈ failures, property failure.2) → property root
  tagged : ∀ issue, property issue → property (issue.tagPaths [])

theorem Kept.anywhere {property : Issue → Prop} (kept : Kept property) :
    KeptWhere (fun _ => True) property where
  leaf := kept.leaf
  worded := kept.worded
  gathered _ _ _ visited root _ _ failed gathered below :=
    kept.gathered root visited.failures gathered failed below
  tagged := kept.tagged

theorem read_issue_kept {property : Issue → Prop} (kept : Kept property) {schema : Schema}
    (handed : schema.HandsOver serial value fun _ => property) {issue : Issue}
    (complained : (schema.parser.read serial value).outcome = .ok (.error issue)) :
    property issue :=
  read_issue_kept_where kept.anywhere (.of_forall (fun _ => trivial) schema) handed complained

theorem populated_kept : Kept Issue.Populated where
  leaf _ _ := Issue.populated_of_not_aggregate rfl
  worded context message := Issue.populated_of_not_aggregate rfl
  gathered root failures gathered failed below := by
    rw [Issue.populated_iff,gathered.children]
    exact ⟨fun _ => failed,below⟩
  tagged issue populated := Issue.populated_tagPaths populated []

/-- With proper messages, validation returns a result unless a call aborts or a mapping refuses what
it is asked for, and a failure holds an issue whose aggregates have children, if the issues that
calls hand over are of that kind. An abort in a call is what validation ends with, and nothing is
recorded after it. What a mapping refuses is what validation ends with, too. The calls spoken of are
the ones that the record of the validation holds. -/
theorem safe_parse_contains (schema : Schema) (value : Value) (worded : schema.Worded) :
    ((∀ consultation, schema.Consults 0 value consultation →
        ∀ text, consultation.reply.outcome ≠ .error (.abort text)) →
      (∀ fault, ¬ schema.Denied 0 value fault) →
      ∃ result, (schema.safeParse value).outcome = .ok result ∧
        ∀ issue, result = .error issue →
          schema.HandsOver 0 value (fun _ => Issue.Populated) → issue.Populated) ∧
    (∀ consultation, schema.Consults 0 value consultation →
      ∀ text, consultation.reply.outcome = .error (.abort text) →
        (schema.safeParse value).EndedBy consultation.reply (.abort text)) ∧
    (∀ fault, schema.Denied 0 value fault → (schema.safeParse value).outcome = .error fault) ∧
    ∀ event : Event, event.IsCall → (event ∈ (schema.safeParse value).events ↔
      ∃ consultation, schema.Consults 0 value consultation ∧
        event ∈ consultation.reply.events) := by
  refine ⟨?returns,?aborts,fun fault denied => denied.outcome,fun event => mem_events_read⟩
  case returns =>
    intro calm granted
    rcases ended : (schema.safeParse value).outcome with fault | result
    · rcases read_fault worded ended with ⟨consultation,text,calls,rfl,aborted⟩ | denied
      · exact (calm consultation calls text aborted).elim
      · exact (granted fault denied).elim
    · refine ⟨result,rfl,?_⟩
      intro issue failed handed
      subst failed
      exact read_issue_kept populated_kept handed ended
  case aborts =>
    intro consultation calls text aborted
    exact calls.endedBy aborted

theorem safe_parse_contains_field :
    let inner (refines : List Stage) : Schema := .node ⟨{ Config.empty with refines },.string .none⟩
    let schema (refines : List Stage) : Schema :=
      .node ⟨.empty,.object [("name",inner refines)] .off⟩
    let input : Value := .dict (.given 0) []
    (∃ result, ((schema []).safeParse input).outcome = .ok result ∧
      ∀ issue, result = .error issue → issue.Populated) ∧
    ((schema [.function none fun _ _ _ => .fail (.abort "stop")]).safeParse input).outcome =
      .error (.abort "stop") := by
  intro inner schema input
  have worded (refines : List Stage) : (schema refines).Worded := by
    refine .parent ⟨⟨trivial,trivial,by simp [Config.empty]⟩,trivial⟩ rfl (.leaf ?_ rfl)
    exact ⟨⟨trivial,trivial,by simp [Config.empty]⟩,by simp [Form.Worded,Limits.Worded,Limits.none]⟩
  constructor
  · have bare : (schema []).Every fun content => ∀ stage ∈ content.stages, False :=
      .parent (by simp [Node.stages,Config.empty]) rfl
        (.leaf (by simp [Node.stages,Config.empty]) rfl)
    have silent : ∀ consultation, ¬ (schema []).Consults 0 input consultation :=
      fun consultation calls => calls.of_every bare
    have granted : ∀ fault, ¬ (schema []).Denied 0 input fault := by
      intro fault denied
      cases denied.outcome
    obtain ⟨result,ended,populated⟩ := (safe_parse_contains (schema []) input (worded [])).1
      (fun consultation calls => (silent consultation calls).elim) granted
    refine ⟨result,ended,fun issue failed => populated issue failed ?_⟩
    intro consultation calls
    exact (silent consultation calls).elim
  · exact ((safe_parse_contains _ input (worded _)).2.1 _ (.nested ⟨rfl,by simp [Form.sentinel?]⟩
      (.slot trivial .here rfl) (.asked (.refinement .first))) "stop" rfl).1

/-- Not every validation that calls nothing returns a result: a mapping that cannot be asked for a
name, as one with weakly held keys, makes it fault. -/
theorem safe_parse_contains_not_refused :
    ¬ ∀ (schema : Schema) (value : Value), schema.Worded →
      (∀ consultation, schema.Consults 0 value consultation →
        ∀ text, consultation.reply.outcome ≠ .error (.abort text)) →
      ∃ result, (schema.safeParse value).outcome = .ok result := by
  intro contains
  let inner : Schema := .node ⟨.empty,.string .none⟩
  let schema : Schema := .node ⟨.empty,.object [("a",inner)] .off⟩
  let weak : Refusal := ⟨.type,"cannot create weak reference to 'str' object"⟩
  let input : Value := .mapping (.guarded 0 ⟨[],some weak,none⟩) []
  have worded : schema.Worded := by
    refine .parent ⟨⟨trivial,trivial,by simp [Config.empty]⟩,trivial⟩ rfl (.leaf ?_ rfl)
    exact ⟨⟨trivial,trivial,by simp [Config.empty]⟩,by simp [Form.Worded,Limits.Worded,Limits.none]⟩
  have bare : schema.Every fun content => ∀ stage ∈ content.stages, False :=
    .parent (by simp [Node.stages,Config.empty]) rfl
      (.leaf (by simp [Node.stages,Config.empty]) rfl)
  obtain ⟨result,ended⟩ := contains schema input worded
    fun consultation calls => (calls.of_every bare).elim
  cases show Except.error _ = Except.ok result from ended

end Schema
end Schemata
