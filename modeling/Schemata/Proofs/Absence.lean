import Schemata.Proofs.Annotation
import Schemata.Proofs.Consultation

/-!
Absence and its issue. The keys that lead to an issue lead to a value in the input, and the issue
says that the value is required exactly where it is absent, unless a check or a transform speaks:
each schema asks about absence before it objects to anything else, and what a union hears from its
alternatives it does not repeat.
-/
namespace Schemata

namespace Value

/-- What stands at a key of a value; a field that is not there is read as the missing value. -/
def part? (value : Value) : Key → Option Value
  | .index (.ofNat i) => value.items?.bind fun items => items[i]?
  | .index (.negSucc _) => none
  | .field name => value.entries?.map fun entries =>
    (Table.find? entries (.str name)).getD .missing

/-- The value that is found by following keys. -/
def at? (value : Value) : Path → Option Value
  | [] => some value
  | key :: rest => (value.part? key).bind fun part => part.at? rest

theorem present_of_part {value part : Value} {key : Key} (found : value.part? key = some part) :
    value.isAbsent = false := by
  cases value with
  | null | missing => rcases key with (_ | _) | _ <;> cases found
  | _ => rfl

end Value

theorem Form.slot_part {σ : Type} {form : Form σ Schema} {value : Value} {slot : Slot}
    (member : slot ∈ form.slots value) : value.part? slot.key = some slot.item := by
  cases form with
  | array element limits immediate =>
    rcases held : value.items? with _ | items
    · simp [slots,held] at member
    · simp only [slots,held] at member
      obtain ⟨⟨item,i⟩,inside,rfl⟩ := List.mem_map.mp member
      have found : items[i]? = some item := List.mem_zipIdx_iff_getElem?.mp inside
      simp only [Value.part?,held]
      exact found
  | object fields flags =>
    rcases held : value.entries? with _ | entries
    · simp [slots,held] at member
    · simp only [slots,held] at member
      obtain ⟨field,_,rfl⟩ := List.mem_map.mp member
      simp [Value.part?,held]
  | _ => cases member

namespace Issue

/-- The issue says that a value is required. -/
def IsRequired : Issue → Prop
  | leaf .required _ _ => True
  | _ => False

/-- The issue is one of a check or of the function of a transform. -/
def IsLate : Issue → Prop
  | staged .check _ _ _ | staged .transform _ _ _ => True
  | _ => False

@[simp] theorem isRequired_erased (issue : Issue) : issue.erased.IsRequired ↔ issue.IsRequired := by
  rcases issue with ⟨_ | _⟩ | _ | _ | _ | _ <;> rfl

@[simp] theorem isLate_erased (issue : Issue) : issue.erased.IsLate ↔ issue.IsLate := by
  rcases issue with _ | ⟨_ | _ | _⟩ | _ | _ | _ <;> rfl

/-- A required value is absent, and an absent one is required unless a check or a transform
speaks. -/
structure Tracks (issue : Issue) (item : Value) : Prop where
  absent : issue.IsRequired → item.isAbsent = true
  required : item.isAbsent = true → issue.IsRequired ∨ issue.IsLate

theorem tracks_erased {issue : Issue} {item : Value} :
    issue.erased.Tracks item ↔ issue.Tracks item := by
  constructor
  · rintro ⟨absent,required⟩
    exact ⟨by simpa using absent,by simpa using required⟩
  · rintro ⟨absent,required⟩
    exact ⟨by simpa using absent,by simpa using required⟩

theorem Objects.tracks {issue : Issue} {value : Value} (objects : issue.Objects value) :
    issue.Tracks value := by
  obtain ⟨complaint,text,rfl,exactly⟩ := objects
  cases complaint with
  | required => exact ⟨fun _ => exactly.mp rfl,fun _ => .inl trivial⟩
  | _ =>
    refine ⟨fun impossible => impossible.elim,fun absent => ?_⟩
    cases exactly.mpr absent

theorem tracks_of_present {issue : Issue} {value : Value} (present : value.isAbsent = false)
    (aggregate : issue.isAggregate = true) : issue.Tracks value := by
  constructor
  · intro required
    cases issue <;> first | exact required.elim | cases aggregate
  · intro absent
    rw [present] at absent
    cases absent

/-- What the tree holds at each place speaks of the value that is found there. -/
def Follows (issue : Issue) (value : Value) : Prop :=
  ∀ path found, issue.At path found → ∃ item, value.at? path = some item ∧ found.Tracks item

theorem follows_of_simple {issue : Issue} {value : Value} (simple : issue.isAggregate = false)
    (tracks : issue.Tracks value) : issue.Follows value := by
  intro path found reached
  obtain ⟨rfl,rfl⟩ := at_of_not_aggregate simple reached
  exact ⟨value,rfl,tracks⟩

theorem follows_erased {issue : Issue} {value : Value} :
    issue.erased.Follows value ↔ issue.Follows value := by
  constructor
  · intro follows path found reached
    obtain ⟨item,there,tracks⟩ := follows path found.erased (at_erased.mpr ⟨found,reached,rfl⟩)
    exact ⟨item,there,tracks_erased.mp tracks⟩
  · intro follows path lower reached
    obtain ⟨found,original,rfl⟩ := at_erased.mp reached
    obtain ⟨item,there,tracks⟩ := follows path found original
    exact ⟨item,there,tracks_erased.mpr tracks⟩

theorem follows_ite_tagPaths {issue : Issue} {value : Value} (pathed : Bool)
    (follows : issue.Follows value) : (if pathed then issue.tagPaths [] else issue).Follows value := by
  rw [← follows_erased] at follows ⊢
  split
  · rwa [erased_tagPaths]
  · exact follows

end Issue

namespace Consultation

/-- A check's and a transform's own issue may speak of any value. -/
theorem Owns.tracks {consultation : Consultation} {issue : Issue} (owned : consultation.Owns issue)
    (late : consultation.context.stage ≠ .refine) (value : Value) : issue.Tracks value := by
  obtain ⟨message,rfl⟩ := owned
  rcases consultation with ⟨_,_,_,context⟩
  cases context with
  | refine => exact (late rfl).elim
  | check | transform => exact ⟨fun impossible => impossible.elim,fun _ => .inr trivial⟩

end Consultation

theorem Node.Checking.context {source : Kind} {serial : Nat} {input output : Value}
    {checks : List (Stage × Value)} {consultation : Consultation}
    (calls : Checking source serial input output checks consultation) :
    consultation.context = .check input output source := by
  induction calls with
  | first _ => rfl
  | later _ _ _ ih => exact ih

namespace Schema

/-- A schema that refines nothing asks its functions in checks and transforms alone. -/
theorem asks_late {content : Node Stage Schema} (unrefined : content.config.refines = [])
    {serial : Nat} {value : Value} {consultation : Consultation}
    (asks : content.Asks serial value consultation) : consultation.context.stage ≠ .refine := by
  cases asks with
  | refinement calls =>
    rw [unrefined] at calls
    cases calls
  | check _ _ calls => simp [calls.context,Context.stage]

theorem read_follows {schema : Schema} {serial : Nat} {value : Value} {issue : Issue}
    (plain : schema.Every fun content => content.config.refines = [])
    (owned : schema.HandsOver serial value Consultation.Owns)
    (failed : (schema.parser.read serial value).outcome = .ok (.error issue)) :
    issue.Follows value := by
  induction schema using Schema.induction generalizing serial value issue with
  | node content below =>
    have unrefined := plain.here
    rcases read_issue failed with ⟨consultation,asks,ended⟩ | ⟨current,entered,complained⟩
    · have own : consultation.Owns issue := ended.elim (owned consultation (.asked asks) issue) id
      exact Issue.follows_of_simple own.simple (own.tracks (asks_late unrefined asks) value)
    obtain rfl := entered.unrefined unrefined
    cases Node.structural_complains complained with
    | objects objects => exact Issue.follows_of_simple objects.not_aggregate objects.tracks
    | forwards shape answered =>
      have reads : content.form.Reads serial current _ serial current := .wrapped shape
      have member := reads_child reads
      exact below _ member (plain.child member) (owned.child entered reads) answered
    | refuses shape given refused =>
      have calls := Consults.transformed entered shape given
      have own := (Stage.consult_issue refused).elim (owned _ calls issue) id
      exact Issue.follows_of_simple own.simple (own.tracks (by simp [Context.stage]) current)
    | gathers visited root admitted done broken gathered marked =>
      rw [marked]
      apply Issue.follows_ite_tagPaths
      -- A key of the root is the key of a slot, which holds what the input has there.
      intro path found reached
      cases path with
      | nil =>
        obtain rfl := Issue.at_nil.mp reached
        obtain ⟨entry,member⟩ := List.exists_mem_of_ne_nil _ broken
        obtain ⟨slot,visits,_⟩ := Form.visited_failure done member
        have present := Value.present_of_part (Form.slot_part visits.mem)
        exact ⟨current,rfl,Issue.tracks_of_present present gathered.aggregate⟩
      | cons key rest =>
        obtain ⟨inner,member,further⟩ := Issue.at_cons.mp reached
        rw [gathered.children] at member
        obtain ⟨slot,visits,rfl,granted,answered⟩ := Form.visited_failure done member
        have reads : content.form.Reads serial current slot.schema _ slot.item :=
          .slot admitted visits granted
        have child := reads_child reads
        obtain ⟨item,there,tracks⟩ :=
          below _ child (plain.child child) (owned.child entered reads) answered rest found further
        refine ⟨item,?_,tracks⟩
        rw [Value.at?,Form.slot_part visits.mem]
        exact there

/-- For a schema that refines nothing and whose functions hand over no issues but their own, every
issue of a failed validation is found at a value of the input: the value is absent if the issue says
that it is required, and an absent value has no issue but this one or one of a check or a
transform. -/
theorem safe_parse_required (schema : Schema) (value : Value)
    (plain : schema.Every fun content => content.config.refines = [])
    (owned : schema.HandsOver 0 value Consultation.Owns) (issue : Issue)
    (failed : (schema.safeParse value).outcome = .ok (.error issue)) (path : Path) (found : Issue)
    (reached : issue.At path found) :
    ∃ item, value.at? path = some item ∧ (found.IsRequired → item.isAbsent = true) ∧
      (item.isAbsent = true → found.IsRequired ∨ found.IsLate) := by
  obtain ⟨item,there,absent,required⟩ := read_follows plain owned failed path found reached
  exact ⟨item,there,absent,required⟩

/-- A row without its two fields: the one is required, and of the other a check speaks. -/
theorem safe_parse_required_row :
    let refuse : Stage := .function none fun _ _ context => pure (.err (.issue (context.issue "no")))
    let note : Schema := .node ⟨⟨.null,.null,[],[(refuse,.null)]⟩,.any⟩
    let id : Schema := .node ⟨.empty,.bigint .none⟩
    let row : Schema := .node ⟨.empty,.object [("id",id),("note",note)] ⟨false,false,true⟩⟩
    let schema : Schema := .node ⟨.empty,.array row .none false⟩
    let input : Value := .list (.given 0) [.dict (.given 1) []]
    let required : Issue := .leaf .required "Value is required" (some [.field "id"])
    let refused : Issue := .staged .check "no" "any" (some [.field "note"])
    let issue : Issue := .array "Array elements failed validation" none
      [(0,.object "Object fields failed validation" none [("id",required),("note",refused)])]
    (schema.safeParse input).outcome = .ok (.error issue) ∧
      (∃ item, input.at? [.index 0,.field "id"] = some item ∧ item.isAbsent = true) ∧
      input.at? [.index 0,.field "note"] = some .missing ∧ (refused.IsRequired ∨ refused.IsLate) := by
  intro refuse note id row schema input required refused issue
  have every {property : Node Stage Schema → Prop} (array : property ⟨.empty,.array row .none false⟩)
      (object : property ⟨.empty,.object [("id",id),("note",note)] ⟨false,false,true⟩⟩)
      (bigint : property ⟨.empty,.bigint .none⟩)
      (any : property ⟨⟨.null,.null,[],[(refuse,.null)]⟩,.any⟩) : schema.Every property := by
    refine .parent array rfl (.node object ?_)
    simpa [Form.children] using ⟨.leaf bigint rfl,.leaf any rfl⟩
  have plain : schema.Every fun content => content.config.refines = [] := every rfl rfl rfl rfl
  have refusing : schema.Every fun content => ∀ stage ∈ content.stages, stage = refuse := by
    apply every <;> simp [Node.stages,Config.empty]
  have owned : schema.HandsOver 0 input Consultation.Owns := by
    intro consultation calls issue given
    have same := calls.of_every refusing
    rw [Consultation.Hands,Consultation.reply,same] at given
    cases given
    exact ⟨"no",rfl⟩
  have failed : (schema.safeParse input).outcome = .ok (.error issue) := rfl
  have first : issue.At [.index 0,.field "id"] required :=
    .child (List.mem_singleton_self _) (.child List.mem_cons_self .root)
  have second : issue.At [.index 0,.field "note"] refused :=
    .child (List.mem_singleton_self _) (.child (List.mem_cons_of_mem _ List.mem_cons_self) .root)
  obtain ⟨item,there,absent,_⟩ :=
    safe_parse_required schema input plain owned issue failed _ _ first
  obtain ⟨_,found,_,spoken⟩ :=
    safe_parse_required schema input plain owned issue failed _ _ second
  cases found
  exact ⟨failed,⟨item,there,absent trivial⟩,rfl,spoken rfl⟩

end Schema
end Schemata
