import Schemata.Proofs.Consultation

/-!
What a reading records. The calls in its record are those of its consultations: a look at a
value records none by itself, and a run of several parts records what the parts it comes to do.
-/
namespace Schemata

def Event.IsCall : Event → Prop
  | .call .. => True
  | .note _ => False

instance : DecidablePred Event.IsCall
  | .call .. => .isTrue trivial
  | .note _ => .isFalse id

namespace Run

variable {α β : Type} {event : Event}

theorem mem_events_bind {first : Run α} {next : α → Run β} :
    event ∈ (first >>= next).events ↔
      event ∈ first.events ∨ ∃ a, first.outcome = .ok a ∧ event ∈ (next a).events := by
  rcases first with ⟨events,fault | a⟩
  · simp [bind_error]
  · simp [bind_ok]

theorem mem_events_andThen {first : Run (Except Issue α)} {next : α → Run (Except Issue β)} :
    event ∈ (first.andThen next).events ↔
      event ∈ first.events ∨ ∃ a, first.outcome = .ok (.ok a) ∧ event ∈ (next a).events := by
  rcases first with ⟨events,fault | issue | a⟩ <;> simp [andThen,bind_error,bind_ok,pure_eq]

theorem events_map (run : Run α) (change : α → β) : (change <$> run).events = run.events := rfl

theorem events_attempt (run : Run α) : run.attempt.events = run.events := by
  rcases run with ⟨events,(text | issue | ⟨kind,text⟩ | ⟨reading,refusal⟩) | a⟩ <;> rfl

theorem events_bind_of_nil {first : Run α} {next : α → Run β} (silent : first.events = [])
    (others : ∀ a, (next a).events = []) : (first >>= next).events = [] := by
  rcases first with ⟨events,fault | a⟩
  · exact silent
  · rw [bind_ok,others a,List.append_nil]
    exact silent

end Run

namespace Message

theorem events_chosen (message : Value) (default : String) : (chosen message default).events = [] := by
  apply Run.events_bind_of_nil
  · rfl
  · intro counts
    cases counts <;> rfl

theorem events_text (message : Value) : (text message).events = [] := by
  unfold text
  split <;> rfl

theorem events_settled (message : Value) (default : String) :
    (settled message default).events = [] :=
  Run.events_bind_of_nil (events_chosen message default) events_text

end Message

theorem events_complain (complaint : Complaint) (message : Value) (default : String) :
    (complain complaint message default).events = [] :=
  Run.events_bind_of_nil (Message.events_settled message default) fun _ => rfl

theorem Config.events_refusal {σ : Type} (config : Config σ) (complaint : Complaint)
    (default : String) (value : Value) : (config.refusal complaint default value).events = [] := by
  unfold refusal
  split
  · exact events_complain _ _ _
  · exact events_complain _ _ _

theorem Limit.mem_events_guard {β : Type} {limit : Option (Limit β)} {violated : β → Bool}
    {complaint : Complaint} {default : String} {next : Run (Except Issue Value)} {event : Event} :
    event ∈ (guard limit violated complaint default next).events ↔
      Kept limit violated ∧ event ∈ next.events := by
  cases limit with
  | none => simp [guard,Kept]
  | some bound =>
    by_cases broken : violated bound.bound = true
    · simp [guard,Kept,broken,events_complain]
    · simp [guard,Kept,broken]

namespace Stage

variable {stage : Stage} {serial : Nat} {value : Value} {context : Context}
  {verdict : Option Value} {event : Event}

theorem events_judged (asked : Bool) (reply : Value) : (judged asked reply).events = [] := by
  apply Run.events_bind_of_nil
  · cases asked <;> cases reply <;> rfl
  · intro passed
    rfl

theorem mem_events_consult (called : event.IsCall) :
    event ∈ (stage.consult serial value context verdict).events ↔
      event ∈ (stage.call serial value context).events := by
  unfold consult
  rw [Run.mem_events_bind,Run.events_attempt,Run.mem_events_bind]
  constructor
  · intro given
    rcases given with (inside | ⟨reply,_,judging⟩) | ⟨attempted,_,settling⟩
    · exact inside
    · rw [events_judged] at judging
      cases judging
    · exfalso
      split at settling
      · rcases Run.mem_events_bind.mp settling with noted | ⟨_,_,impossible⟩
        · obtain rfl := List.mem_singleton.mp noted
          exact called
        · cases impossible
      · cases settling
      · cases settling
      · cases settling
      · split at settling
        · cases settling
        · split at settling
          · cases settling
          · rw [Run.events_bind_of_nil (Message.events_text _) fun _ => rfl] at settling
            cases settling
  · intro inside
    exact .inl (.inl inside)

end Stage

section

variable {κ : Type} {immediate : Bool} {serial : Nat} {tasks : List (Task κ)} {event : Event}

theorem Task.mem_events_read {task : Task κ} :
    event ∈ (task.read serial).events ↔
      task.refusal = none ∧ event ∈ (task.parser.read serial task.item).events := by
  rcases asked : task.refusal with _ | fault
  · simp [read_granted asked]
  · simp [read_refused asked,Run.fail]

theorem mem_events_visit :
    event ∈ (visit immediate serial tasks).events ↔
      ∃ task, Reached (fun earlier => (earlier.read serial).GoesOn immediate) tasks task ∧
        event ∈ (task.read serial).events := by
  induction tasks with
  | nil =>
    constructor
    · intro impossible
      cases impossible
    · intro given
      obtain ⟨task,reached,_⟩ := given
      cases reached
  | cons first rest ih =>
    rw [visit,Run.mem_events_bind]
    constructor
    · intro found
      rcases found with inside | ⟨answer,given,later⟩
      · exact ⟨first,.here,inside⟩
      · rcases answer with issue | output
        · cases immediate with
          | true => cases later
          | false =>
            obtain ⟨task,reached,inside⟩ := ih.mp later
            exact ⟨task,.there (.inr ⟨rfl,issue,given⟩) reached,inside⟩
        · obtain ⟨task,reached,inside⟩ := ih.mp later
          exact ⟨task,.there (.inl ⟨output,given⟩) reached,inside⟩
    · intro given
      obtain ⟨task,reached,inside⟩ := given
      cases reached with
      | here => exact .inl inside
      | there passed reached =>
        have later := ih.mpr ⟨task,reached,inside⟩
        rcases passed with ⟨output,given⟩ | ⟨rfl,issue,given⟩
        · exact .inr ⟨_,given,later⟩
        · exact .inr ⟨_,given,later⟩

end

namespace Choice

variable {σ : Type} {config : Config σ} {serial : Nat} {value : Value} {options : List Parser}
  {event : Event}

theorem mem_events_firstMatch :
    event ∈ (firstMatch serial value options).events ↔
      ∃ option, Reached (fun earlier : Parser => (earlier.read serial value).Rejects) options option ∧
        event ∈ (option.read serial value).events := by
  induction options with
  | nil =>
    constructor
    · intro impossible
      cases impossible
    · intro given
      obtain ⟨option,reached,_⟩ := given
      cases reached
  | cons first rest ih =>
    rw [firstMatch,Run.mem_events_bind]
    constructor
    · intro found
      rcases found with inside | ⟨answer,given,later⟩
      · exact ⟨first,.here,inside⟩
      · rcases answer with issue | output
        · obtain ⟨option,reached,inside⟩ := ih.mp later
          exact ⟨option,.there ⟨issue,given⟩ reached,inside⟩
        · cases later
    · intro given
      obtain ⟨option,reached,inside⟩ := given
      cases reached with
      | here => exact .inl inside
      | there passed reached =>
        obtain ⟨issue,given⟩ := passed
        exact .inr ⟨_,given,ih.mpr ⟨option,reached,inside⟩⟩

theorem mem_events_union (called : event.IsCall) :
    event ∈ (union config options serial value).events ↔
      event ∈ (firstMatch serial value options).events := by
  rw [union,Run.mem_events_bind]
  constructor
  · intro given
    rcases given with inside | ⟨matched,_,later⟩
    · exact inside
    · rcases matched with _ | output
      · exfalso
        rcases Run.mem_events_bind.mp later with noted | ⟨_,_,impossible⟩
        · obtain rfl := List.mem_singleton.mp noted
          exact called
        · have silent := Config.events_refusal config .union "Value failed union constraints" value
          exact List.not_mem_nil (silent ▸ impossible)
      · cases later
  · exact .inl

end Choice

theorem Limit.events_guard {β : Type} {limit : Option (Limit β)} {violated : β → Bool}
    {complaint : Complaint} {default : String} {next : Run (Except Issue Value)}
    (silent : next.events = []) : (guard limit violated complaint default next).events = [] := by
  apply List.eq_nil_iff_forall_not_mem.mpr
  intro event inside
  have later := (mem_events_guard.mp inside).2
  rw [silent] at later
  cases later

section

variable {σ : Type} {config : Config σ}

theorem Config.events_absent : config.absent.events = [] := events_complain _ _ _

namespace Scalar

theorem events_string (limits : Limits Nat) (value : Value) :
    (string config limits value).events = [] := by
  cases value
  case str s => exact Limit.events_guard (Limit.events_guard rfl)
  all_goals exact events_complain _ _ _

theorem events_number (whole : Option Value) (limits : Limits Number) (value : Value) :
    (number config whole limits value).events = [] := by
  unfold number
  split
  · exact Config.events_absent
  · split
    · exact events_complain _ _ _
    · exact Limit.events_guard (Limit.events_guard (Limit.events_guard rfl))

theorem events_bigint (limits : Limits Int) (value : Value) :
    (bigint config limits value).events = [] := by
  cases value
  case int i => exact Limit.events_guard (Limit.events_guard rfl)
  all_goals exact events_complain _ _ _

theorem events_boolean (value : Value) : (boolean config value).events = [] := by
  cases value
  case bool b => rfl
  all_goals exact events_complain _ _ _

end Scalar

theorem Choice.events_literal (values : List Value) (value : Value) :
    (literal config values value).events = [] := by
  unfold literal
  split
  · rfl
  · exact Config.events_refusal config _ _ value

end

namespace Sequence

theorem mem_events_read {config : Config Stage} {element : Parser} {limits : Limits Nat}
    {immediate isList : Bool} {serial : Nat} {given : Value} {items : List Value} {event : Event} :
    event ∈ (read config element limits immediate isList serial given items).events ↔
      Limit.Kept limits.greatest (· < items.length) ∧
        Limit.Kept limits.least (items.length < ·) ∧
        event ∈ (visit immediate serial (tasks element items)).events := by
  rw [read,Limit.mem_events_guard,Limit.mem_events_guard,Run.mem_events_bind]
  apply and_congr_right'
  apply and_congr_right'
  constructor
  · intro given
    rcases given with inside | ⟨visited,_,later⟩
    · exact inside
    · exfalso
      split at later
      · split at later <;> cases later
      · rw [Run.events_bind_of_nil (Message.events_settled _ _) fun _ => rfl] at later
        cases later
  · exact .inl

end Sequence

namespace Record

theorem mem_events_read {config : Config Stage} {fields : List (String × Parser)} {flags : Flags}
    {isDict : Bool} {serial : Nat} {given : Value} {access : Access} {entries : Entries}
    {event : Event} :
    event ∈ (read config fields flags isDict serial given access entries).events ↔
      event ∈ (visit flags.immediate serial (tasks fields access entries)).events := by
  rw [read,Run.mem_events_bind]
  constructor
  · intro given
    rcases given with inside | ⟨visited,_,later⟩
    · exact inside
    · exfalso
      split at later
      · rw [Run.events_bind_of_nil rfl fun _ => rfl] at later
        cases later
      · rw [Run.events_bind_of_nil (Message.events_settled _ _) fun _ => rfl] at later
        cases later
  · exact .inl

end Record

namespace Form

variable {form : Form Stage Schema} {serial : Nat} {value : Value} {event : Event}

theorem mem_events_visited :
    event ∈ (form.visited serial value).events ↔
      ∃ slot, Reached (fun earlier : Slot =>
          (earlier.task.read (value.freshFrom serial)).GoesOn form.immediate) (form.slots value)
          slot ∧ slot.refusal = none ∧
        event ∈ (slot.schema.parser.read (value.freshFrom serial) slot.item).events := by
  rw [visited,mem_events_visit]
  constructor
  · intro given
    obtain ⟨task,reached,inside⟩ := given
    obtain ⟨slot,earlier,rfl⟩ := reached.of_map
    exact ⟨slot,earlier,Task.mem_events_read.mp inside⟩
  · intro given
    obtain ⟨slot,reached,granted,inside⟩ := given
    exact ⟨slot.task,Reached.map (f := Slot.task) reached,
      Task.mem_events_read.mpr ⟨granted,inside⟩⟩

theorem not_mem_events_visited (empty : form.slots value = []) :
    event ∉ (form.visited serial value).events := by
  rw [mem_events_visited,empty]
  intro given
  obtain ⟨slot,reached,_⟩ := given
  cases reached

end Form

namespace Node

variable {config : Config Stage} {serial : Nat} {value : Value} {event : Event}

theorem mem_events_array {form : Form Stage Schema} {element : Schema} {limits : Limits Nat}
    {immediate : Bool} (shape : form = .array element limits immediate) :
    event ∈ (structural ⟨config,form⟩ serial value).events ↔
      form.Admits value ∧ event ∈ (form.visited serial value).events := by
  subst shape
  rcases held : value.items? with _ | items
  · rw [array_of_bare held,Config.events_refusal]
    apply iff_of_false List.not_mem_nil
    intro both
    exact Form.not_mem_events_visited (by simp [Form.slots,held]) both.2
  · rw [array_of_items held,Sequence.mem_events_read,Form.visited_array held,Run.events_map,
      Form.Admits,held]
    simp [and_assoc]

theorem mem_events_object {form : Form Stage Schema} {fields : List (String × Schema)}
    {flags : Flags} (shape : form = .object fields flags) :
    event ∈ (structural ⟨config,form⟩ serial value).events ↔
      event ∈ (form.visited serial value).events := by
  subst shape
  rcases held : value.entries? with _ | entries
  · rw [object_of_bare held,Config.events_refusal]
    exact iff_of_false List.not_mem_nil (Form.not_mem_events_visited (by simp [Form.slots,held]))
  · rw [object_of_entries held,Record.mem_events_read,Form.visited_object held,Run.events_map]

theorem mem_events_of_reads {content : Node Stage Schema} {child : Schema} {inner : Nat}
    {item : Value} (called : event.IsCall)
    (reads : content.form.Reads serial value child inner item)
    (inside : event ∈ (child.parser.read inner item).events) :
    event ∈ (content.structural serial value).events := by
  rcases content with ⟨config,form⟩
  cases reads with
  | slot admitted reached granted =>
    have visiting := Form.mem_events_visited.mpr ⟨_,reached,granted,inside⟩
    cases form
    case array => exact (mem_events_array rfl).mpr ⟨admitted,visiting⟩
    case object => exact (mem_events_object rfl).mpr visiting
    all_goals exact (Form.not_mem_events_visited rfl visiting).elim
  | option shape reached =>
    rw [structural,shape]
    apply (Choice.mem_events_union called).mpr
    exact Choice.mem_events_firstMatch.mpr ⟨_,Reached.map (f := Schema.parser) reached,inside⟩
  | wrapped shape =>
    cases form
    case optional | nullable =>
      cases shape
      exact inside
    case transform =>
      cases shape
      exact Run.mem_events_andThen.mpr (.inl inside)
    all_goals cases shape

/-- The structural step records the calls of the readings that it comes to, and those of the
function of a transform. -/
theorem mem_events_structural {content : Node Stage Schema} (called : event.IsCall) :
    event ∈ (content.structural serial value).events ↔
      (∃ child inner item, content.form.Reads serial value child inner item ∧
        event ∈ (child.parser.read inner item).events) ∨
      ∃ inner function output, content.form = .transform inner function ∧
        (inner.parser.read serial value).outcome = .ok (.ok output) ∧
        event ∈ (function.call serial output (.transform output inner.kind)).events := by
  constructor
  · intro inside
    rcases content with ⟨config,form⟩
    cases form with
    | string | number | bigint | boolean | literal =>
      simp only [structural,Form.map,Form.step,Scalar.events_string,Scalar.events_number,
        Scalar.events_bigint,Scalar.events_boolean,Choice.events_literal] at inside
      cases inside
    | unknown | any => cases inside
    | array element limits immediate =>
      obtain ⟨admitted,visiting⟩ := (mem_events_array rfl).mp inside
      obtain ⟨slot,reached,granted,found⟩ := Form.mem_events_visited.mp visiting
      exact .inl ⟨_,_,_,.slot admitted reached granted,found⟩
    | object fields flags =>
      have visiting := (mem_events_object rfl).mp inside
      obtain ⟨slot,reached,granted,found⟩ := Form.mem_events_visited.mp visiting
      exact .inl ⟨_,_,_,.slot trivial reached granted,found⟩
    | union options =>
      have matching := (Choice.mem_events_union called).mp inside
      obtain ⟨parser,reached,found⟩ := Choice.mem_events_firstMatch.mp matching
      obtain ⟨option,earlier,rfl⟩ := reached.of_map
      exact .inl ⟨_,_,_,.option rfl earlier,found⟩
    | optional inner | nullable inner => exact .inl ⟨_,_,_,.wrapped rfl,inside⟩
    | transform inner function =>
      rcases Run.mem_events_andThen.mp inside with early | ⟨output,given,later⟩
      · exact .inl ⟨_,_,_,.wrapped rfl,early⟩
      · have calling := (Stage.mem_events_consult called).mp later
        rw [Schema.parser_kind] at calling
        exact .inr ⟨_,_,_,rfl,given,calling⟩
  · intro found
    rcases found with ⟨child,inner,item,reads,inside⟩ | ⟨inner,function,output,shape,given,inside⟩
    · exact mem_events_of_reads called reads inside
    · rw [structural,shape]
      apply Run.mem_events_andThen.mpr
      refine .inr ⟨output,given,(Stage.mem_events_consult called).mpr ?_⟩
      rw [Schema.parser_kind]
      exact inside

theorem mem_events_refined {source : Kind} {input current : Value} {stages : List Stage}
    (called : event.IsCall) :
    event ∈ (refined source serial input stages current).events ↔
      ∃ consultation, Refining source serial input stages current consultation ∧
        event ∈ consultation.reply.events := by
  constructor
  · intro inside
    induction stages generalizing current with
    | nil => cases inside
    | cons stage rest ih =>
      rcases Run.mem_events_andThen.mp inside with early | ⟨next,accepted,later⟩
      · exact ⟨_,.first,(Stage.mem_events_consult called).mp early⟩
      · obtain ⟨consultation,calls,found⟩ := ih later
        exact ⟨consultation,.later accepted calls,found⟩
  · intro given
    obtain ⟨consultation,calls,inside⟩ := given
    induction calls with
    | first => exact Run.mem_events_andThen.mpr (.inl ((Stage.mem_events_consult called).mpr inside))
    | later accepted _ ih => exact Run.mem_events_andThen.mpr (.inr ⟨_,accepted,ih inside⟩)

theorem mem_events_checked {source : Kind} {input output : Value} {checks : List (Stage × Value)}
    (called : event.IsCall) :
    event ∈ (checked source serial input output checks).events ↔
      ∃ consultation, Checking source serial input output checks consultation ∧
        event ∈ consultation.reply.events := by
  constructor
  · intro inside
    induction checks with
    | nil => cases inside
    | cons check rest ih =>
      rcases Run.mem_events_bind.mp inside with impossible | ⟨verdict,worded,asking⟩
      · rw [Message.events_chosen] at impossible
        cases impossible
      · rcases Run.mem_events_andThen.mp asking with early | ⟨passed,accepted,later⟩
        · exact ⟨_,.first worded,(Stage.mem_events_consult called).mp early⟩
        · obtain ⟨consultation,calls,found⟩ := ih later
          exact ⟨consultation,.later worded accepted calls,found⟩
  · intro given
    obtain ⟨consultation,calls,inside⟩ := given
    induction calls with
    | first worded =>
      apply Run.mem_events_bind.mpr
      refine .inr ⟨_,worded,Run.mem_events_andThen.mpr (.inl ?_)⟩
      exact (Stage.mem_events_consult called).mpr inside
    | later worded accepted _ ih =>
      apply Run.mem_events_bind.mpr
      exact .inr ⟨_,worded,Run.mem_events_andThen.mpr (.inr ⟨_,accepted,ih inside⟩)⟩

end Node

namespace Schema

variable {schema : Schema} {serial : Nat} {value : Value} {event : Event}

theorem mem_events_read_node {content : Node Stage Schema} :
    event ∈ ((Schema.node content).parser.read serial value).events ↔
      event ∈ (Node.refined content.kind serial value content.config.refines value).events ∨
        ∃ current, content.Enters serial value current ∧
          (event ∈ (content.structural serial current).events ∨ ∃ output,
            (content.structural serial current).outcome = .ok (.ok output) ∧
              event ∈ (content.checking serial current output).events) := by
  rw [read_node,Run.mem_events_andThen]
  apply or_congr_right
  apply exists_congr
  intro current
  by_cases sentinel : content.form.sentinel? = some current
  · simp [Node.Enters,sentinel,Run.pure_eq]
  · simp [Node.Enters,sentinel,Run.mem_events_andThen]

/-- The calls in the record of a reading are those of its consultations. -/
theorem mem_events_read (called : event.IsCall) :
    event ∈ (schema.parser.read serial value).events ↔
      ∃ consultation, schema.Consults serial value consultation ∧
        event ∈ consultation.reply.events := by
  constructor
  · intro inside
    induction schema using Schema.induction generalizing serial value with
    | node content below =>
      rcases mem_events_read_node.mp inside with refining | ⟨current,entered,looking⟩
      · obtain ⟨consultation,calls,found⟩ := (Node.mem_events_refined called).mp refining
        exact ⟨consultation,.asked (.refinement calls),found⟩
      rcases looking with looking | ⟨output,answered,checking⟩
      · rcases (Node.mem_events_structural called).mp looking with
          ⟨child,inner,item,reads,found⟩ | ⟨inner,function,output,shape,given,found⟩
        · obtain ⟨consultation,calls,found⟩ := below child (reads_child reads) found
          exact ⟨consultation,.nested entered reads calls,found⟩
        · exact ⟨_,.transformed entered shape given,found⟩
      · obtain ⟨consultation,calls,found⟩ := (Node.mem_events_checked called).mp checking
        exact ⟨consultation,.asked (.check entered answered calls),found⟩
  · intro given
    obtain ⟨consultation,calls,inside⟩ := given
    induction calls with
    | asked asks =>
      apply mem_events_read_node.mpr
      cases asks with
      | refinement calls => exact .inl ((Node.mem_events_refined called).mpr ⟨_,calls,inside⟩)
      | check entered answered calls =>
        have checking := (Node.mem_events_checked called).mpr ⟨_,calls,inside⟩
        exact .inr ⟨_,entered,.inr ⟨_,answered,checking⟩⟩
    | transformed entered shape answered =>
      apply mem_events_read_node.mpr
      have looking := (Node.mem_events_structural called).mpr
        (.inr ⟨_,_,_,shape,answered,inside⟩)
      exact .inr ⟨_,entered,.inl looking⟩
    | nested entered reads _ ih =>
      apply mem_events_read_node.mpr
      have looking := (Node.mem_events_structural called).mpr (.inl ⟨_,_,_,reads,ih inside⟩)
      exact .inr ⟨_,entered,.inl looking⟩

end Schema
end Schemata
