import Schemata.Proofs.Consultation
import Schemata.Proofs.IssueTree

/-!
Where the issues of a failed reading come from. Every issue below the root stands at the end of
a trail: a step of the trail leaves an aggregate, which the structural failure of a container
made, by the key of a slot whose reading failed. Paths count from the outermost pathed object on
the trail, whatever inner objects wrote before it.
-/
namespace Schemata

/-- A step down from an aggregate: the container that made it, and the key that is taken. -/
structure Step where
  maker : Node Stage Schema
  key : Key

namespace Step

/-- The keys of the trail below the outermost pathed object on it, if there is one. -/
def location (trail : List Step) : Option Path :=
  match trail.dropWhile fun step => !step.maker.form.pathed with
  | [] => none
  | below => some (below.map key)

variable {maker : Node Stage Schema}

theorem location_of_pathed (pathed : maker.form.pathed = true) (first : Key)
    (trail : List Step) :
    location (⟨maker,first⟩ :: trail) = some (first :: trail.map key) := by
  simp [location,pathed]

theorem location_of_unpathed (unpathed : maker.form.pathed = false) (first : Key)
    (trail : List Step) : location (⟨maker,first⟩ :: trail) = location trail := by
  simp [location,unpathed]

end Step

namespace Schema

/-- Every object of the tree declares each field once. -/
def Distinct (schema : Schema) : Prop := schema.Every fun content => content.form.Distinct

/-- The trails down a failed reading: at each step the structural failure of a container, and a
slot of the container whose reading failed. -/
inductive Leads : Schema → Nat → Value → List Step → Prop
  | ended {schema : Schema} {serial : Nat} {value : Value} {issue : Issue}
      (failed : (schema.parser.read serial value).outcome = .ok (.error issue)) :
      Leads schema serial value []
  | forwarded {content : Node Stage Schema} {serial : Nat} {input current : Value}
      {inner : Schema} {trail : List Step} (entered : content.Enters serial input current)
      (shape : content.form.wrapped? = some inner) (rest : Leads inner serial current trail) :
      Leads (.node content) serial input trail
  | failed {content : Node Stage Schema} {serial : Nat} {input current : Value} {issue : Issue}
      {slot : Slot} {trail : List Step} (entered : content.Enters serial input current)
      (complained : (content.structural serial current).outcome = .ok (.error issue))
      (admitted : content.form.Admits current)
      (reached : Reached (fun earlier : Slot =>
        (earlier.task.read (current.freshFrom serial)).GoesOn content.form.immediate)
        (content.form.slots current) slot)
      (rest : Leads slot.schema (current.freshFrom serial) slot.item trail) :
      Leads (.node content) serial input (⟨content,slot.key⟩ :: trail)

variable {schema : Schema} {serial : Nat} {value : Value}

/-- Where no object declares a field twice, the keys of a trail tell the trail. -/
theorem Leads.unique (distinct : schema.Distinct) {trail other : List Step}
    (first : schema.Leads serial value trail) (second : schema.Leads serial value other)
    (same : other.map Step.key = trail.map Step.key) : other = trail := by
  induction first generalizing other with
  | ended _ => simpa using same
  | @forwarded content serial input current inner trail entered shape rest ih =>
    cases second with
    | ended _ =>
      symm
      simpa using same.symm
    | forwarded again alike later =>
      obtain rfl := entered.unique again
      obtain rfl := Option.some.inj (shape.symm.trans alike)
      have reads : content.form.Reads serial current inner serial current := .wrapped shape
      exact ih (distinct.child (reads_child reads)) later same
    | failed _ _ _ reached _ =>
      have member := reached.mem
      rw [Form.slots_of_wrapped shape] at member
      cases member
  | @failed content serial input current issue slot trail entered _ _ reached rest ih =>
    cases second with
    | ended _ => cases same
    | forwarded _ shape _ =>
      have member := reached.mem
      rw [Form.slots_of_wrapped shape] at member
      cases member
    | failed again _ _ another later =>
      obtain rfl := entered.unique again
      obtain ⟨key,keys⟩ := List.cons.inj same
      have below := distinct.child (Form.slot_child reached.mem)
      obtain rfl := Form.slot_unique distinct.here another.mem reached.mem key
      rw [ih below later keys]

theorem trail_of_simple {issue found : Issue} {path : Path}
    (failed : (schema.parser.read serial value).outcome = .ok (.error issue))
    (simple : issue.isAggregate = false) (bare : issue.path = none)
    (reached : issue.At path found) :
    ∃ trail, schema.Leads serial value trail ∧ trail.map Step.key = path ∧
      found.path = Step.location trail := by
  obtain ⟨rfl,rfl⟩ := Issue.at_of_not_aggregate simple reached
  exact ⟨[],.ended failed,rfl,bare⟩

theorem read_trail {issue found : Issue} {path : Path}
    (owned : schema.HandsOver serial value Consultation.Owns)
    (failed : (schema.parser.read serial value).outcome = .ok (.error issue))
    (reached : issue.At path found) :
    ∃ trail, schema.Leads serial value trail ∧ trail.map Step.key = path ∧
      found.path = Step.location trail := by
  induction schema using Schema.induction generalizing serial value issue found path with
  | node content below =>
    have own {consultation : Consultation} (given : consultation.Owns issue) :
        ∃ trail, (Schema.node content).Leads serial value trail ∧ trail.map Step.key = path ∧
          found.path = Step.location trail := by
      obtain ⟨message,rfl⟩ := given
      exact trail_of_simple failed rfl rfl reached
    rcases read_issue failed with ⟨consultation,asks,ended⟩ | ⟨current,entered,complained⟩
    · exact own (ended.elim (owned consultation (.asked asks) issue) id)
    cases Node.structural_complains complained with
    | objects objects =>
      obtain ⟨complaint,text,rfl,_⟩ := objects
      exact trail_of_simple failed rfl rfl reached
    | forwards shape answered =>
      have reads : content.form.Reads serial current _ serial current := .wrapped shape
      obtain ⟨trail,leads,keys,located⟩ :=
        below _ (reads_child reads) (owned.child entered reads) answered reached
      exact ⟨trail,.forwarded entered shape leads,keys,located⟩
    | refuses shape given refused =>
      have calls := Consults.transformed entered shape given
      exact own ((Stage.consult_issue refused).elim (owned _ calls issue) id)
    | gathers visited root admitted done broken gathered marked =>
      -- A trail goes on below each failure; the node that the keys lead to is the one of the
      -- child unless this container writes paths.
      have deeper {key : Key} {rest : Path} {lower : Issue} (inside : root.At (key :: rest) lower) :
          ∃ trail, (Schema.node content).Leads serial value (⟨content,key⟩ :: trail) ∧
            trail.map Step.key = rest ∧ lower.path = Step.location trail := by
        obtain ⟨inner,member,further⟩ := Issue.at_cons.mp inside
        rw [gathered.children] at member
        obtain ⟨slot,visits,rfl,granted,answered⟩ := Form.visited_failure done member
        have reads : content.form.Reads serial current slot.schema _ slot.item :=
          .slot admitted visits granted
        obtain ⟨trail,leads,keys,located⟩ :=
          below _ (reads_child reads) (owned.child entered reads) answered further
        exact ⟨trail,.failed entered complained admitted visits leads,keys,located⟩
      cases path with
      | nil =>
        obtain rfl := Issue.at_nil.mp reached
        refine ⟨[],.ended failed,rfl,?_⟩
        rw [marked]
        split
        · rw [Issue.path_tagPaths]
          exact gathered.path
        · exact gathered.path
      | cons key rest =>
        rw [marked] at reached
        rcases pathed : content.form.pathed with _ | _
        · rw [if_neg (by simp [pathed])] at reached
          obtain ⟨trail,leads,keys,located⟩ := deeper reached
          refine ⟨_,leads,by rw [List.map_cons,keys],?_⟩
          rw [Step.location_of_unpathed pathed]
          exact located
        · rw [if_pos pathed] at reached
          obtain ⟨original,inside⟩ := Issue.at_of_at_tagPaths reached
          obtain ⟨trail,leads,keys,_⟩ := deeper inside
          refine ⟨_,leads,by rw [List.map_cons,keys],?_⟩
          rw [Step.location_of_pathed pathed,keys]
          exact Issue.path_of_at_tagPaths reached (by simp)

/-- In the tree of a failed validation whose functions hand over no issues but their own, every
node ends a trail, and its path is the part of the keys below the outermost pathed object on the
trail. The trail is the only one with these keys where no object declares a field twice. -/
theorem safe_parse_locates_outermost (schema : Schema) (value : Value)
    (owned : schema.HandsOver 0 value Consultation.Owns) (issue : Issue)
    (failed : (schema.safeParse value).outcome = .ok (.error issue)) (path : Path) (found : Issue)
    (reached : issue.At path found) :
    ∃ trail, schema.Leads 0 value trail ∧ trail.map Step.key = path ∧
      found.path = Step.location trail ∧
      (schema.Distinct → ∀ other, schema.Leads 0 value other → other.map Step.key = path →
        other = trail) := by
  obtain ⟨trail,leads,keys,located⟩ := read_trail owned failed reached
  refine ⟨trail,leads,keys,located,?_⟩
  intro distinct other another same
  exact leads.unique distinct another (same.trans keys.symm)

/-- Rows of pathed objects in an object that writes no paths: the path of the innermost issue
starts at the row, also where a pathed object inside the row wrote a shorter one before. -/
theorem safe_parse_locates_outermost_rows :
    let object (name : String) (field : Schema) (pathed : Bool) : Schema :=
      .node ⟨.empty,.object [(name,field)] ⟨false,false,pathed⟩⟩
    let row := object "point" (object "x" (.node ⟨.empty,.boolean⟩) true) true
    let schema := object "rows" (.node ⟨.empty,.array row .none false⟩) false
    let input : Value := .dict (.given 0) [(.str "rows",.list (.given 1)
      [.dict (.given 2) [(.str "point",.dict (.given 3) [])]])]
    ∃ trail, schema.Leads 0 input trail ∧
      trail.map Step.key = [.field "rows",.index 0,.field "point",.field "x"] ∧
      Step.location trail = some [.field "point",.field "x"] := by
  intro object row schema input
  have bare : schema.Every fun content => ∀ stage ∈ content.stages, False := by
    refine .parent ?_ rfl (.parent ?_ rfl (.parent ?_ rfl (.parent ?_ rfl (.leaf ?_ rfl)))) <;>
      simp [Node.stages,Config.empty]
  have owned : schema.HandsOver 0 input Consultation.Owns :=
    fun consultation calls => (calls.of_every bare).elim
  have reached {issue inner : Issue} {key : Key} {path : Path} {found : Issue}
      (only : issue.children = [(key,inner)]) (rest : inner.At path found) :
      issue.At (key :: path) found :=
    .child (by simp [only]) rest
  obtain ⟨trail,leads,keys,located,_⟩ := safe_parse_locates_outermost schema input owned _ rfl _ _
    (reached rfl (reached rfl (reached rfl (reached rfl .root))))
  exact ⟨trail,leads,keys,located.symm⟩

end Schema
end Schemata
