import Mathlib.Data.List.Nodup
import Schemata.Proofs.Complaints
import Schemata.Proofs.Tree
import Schemata.Proofs.Visiting

/-!
What the structural step of a node does with the children of the node. A container reads the
slots of the value, each with the schema of its place; a wrapper and a union read the value
itself. `Form.Reads` tells which readings a step comes to, `Form.Complains` every way in
which it ends in an issue, `Form.Denies` what a mapping refuses it and `Form.Faults` every way in
which it faults, where messages are proper.
-/
namespace Schemata

/-- A place in a container's value, what is there, the schema that reads it, and how asking for it
fails if it does. -/
structure Slot where
  key : Key
  schema : Schema
  item : Value
  refusal : Option Fault

def Slot.task (slot : Slot) : Task Key := ⟨slot.key,slot.item,slot.refusal,slot.schema.parser⟩

namespace Value

def items? : Value → Option (List Value)
  | list _ items | tuple _ items => some items
  | _ => none

def isList : Value → Bool
  | list .. => true
  | _ => false

def isDict : Value → Bool
  | dict .. => true
  | _ => false

theorem access_of_isDict {value : Value} (plain : value.isDict = true) : value.access = .free := by
  cases value <;> first | rfl | cases plain

end Value

/-- How copying a mapping fails if it does; a strict object copies nothing. -/
def Access.copying? (strict : Bool) (access : Access) : Option Fault :=
  if strict then none else access.fault? .whole

/-- A section of settings in which one option refers to a name that is not there. It can be asked for
the other option, but neither for this one nor for all. -/
def Value.brokenSection : Value :=
  let broken : Refusal := ⟨.other "InterpolationMissingOptionError",
    "Bad value substitution: option 'b' in section 's' contains an interpolation key 'nope' " ++
      "which is not a valid option name. Raw value: '%(nope)s'"⟩
  .mapping (.guarded 0 ⟨[("b",some broken)],none,some broken⟩) [(.str "a",.str "1")]

namespace Form

variable {σ α : Type}

def immediate : Form σ α → Bool
  | array _ _ immediate => immediate
  | object _ flags => flags.immediate
  | _ => false

def pathed : Form σ α → Bool
  | object _ flags => flags.pathed
  | _ => false

def wrapped? : Form σ α → Option α
  | optional inner | nullable inner | transform inner _ => some inner
  | _ => Option.none

def Admits : Form σ α → Value → Prop
  | array _ limits _,value => ∀ items ∈ value.items?,
    Limit.Kept limits.greatest (· < items.length) ∧ Limit.Kept limits.least (items.length < ·)
  | _,_ => True

/-- No field is declared twice. -/
def Distinct : Form σ α → Prop
  | object fields _ => (fields.map (·.1)).Nodup
  | _ => True

/-- The slots that a container reads of a value; a value of another type has none. -/
def slots : Form σ Schema → Value → List Slot
  | array element _ _,value => match value.items? with
    | some items => items.zipIdx.map fun entry => ⟨.index entry.2,element,entry.1,none⟩
    | none => []
  | object fields _,value => match value.entries? with
    | some entries => fields.map fun field =>
      ⟨.field field.1,field.2,(Table.find? entries (.str field.1)).getD .missing,
        value.access.fault? (.item field.1)⟩
    | none => []
  | _,_ => []

/-- How copying the value fails if it does. -/
def copying? : Form σ α → Value → Option Fault
  | object _ flags,value => value.access.copying? flags.strict
  | _,_ => none

theorem slots_of_wrapped {form : Form σ Schema} {value : Value} {inner : Schema}
    (shape : form.wrapped? = some inner) : form.slots value = [] := by
  cases form <;> first | rfl | cases shape

theorem slot_child {form : Form σ Schema} {value : Value} {slot : Slot}
    (member : slot ∈ form.slots value) : slot.schema ∈ form.children := by
  cases form with
  | array element limits immediate =>
    simp only [slots] at member
    split at member
    · obtain ⟨entry,_,rfl⟩ := List.mem_map.mp member
      exact List.mem_singleton_self _
    · cases member
  | object fields flags =>
    simp only [slots] at member
    split at member
    · obtain ⟨field,present,rfl⟩ := List.mem_map.mp member
      exact List.mem_map_of_mem present
    · cases member
  | _ => cases member

theorem admits_of_refused {form : Form σ Schema} {value : Value} {slot : Slot} {fault : Fault}
    (member : slot ∈ form.slots value) (refused : slot.refusal = some fault) :
    form.Admits value := by
  cases form with
  | array element limits immediate =>
    simp only [slots] at member
    split at member
    · obtain ⟨entry,_,rfl⟩ := List.mem_map.mp member
      cases refused
    · cases member
  | _ => trivial

/-- What refuses nothing can be copied. -/
theorem copying_of_free {form : Form σ α} {value : Value} (free : value.access = .free) :
    form.copying? value = none := by
  cases form with
  | object fields flags =>
    rw [copying?,free,Access.copying?]
    exact ite_self none
  | _ => rfl

theorem copying_of_bare {form : Form σ α} {value : Value} (bare : value.entries? = none) :
    form.copying? value = none := by
  apply copying_of_free
  cases value <;> first | rfl | cases bare

theorem slots_nodup {form : Form σ Schema} (distinct : form.Distinct) (value : Value) :
    ((form.slots value).map Slot.key).Nodup := by
  cases form with
  | array element limits immediate =>
    rcases held : value.items? with _ | items
    · simp [slots,held]
    · have keys : ((items.zipIdx.map fun entry => (⟨.index entry.2,element,entry.1,none⟩ : Slot)).map
          Slot.key) = (List.range' 0 items.length).map fun i => .index i := by
        rw [← List.zipIdx_map_snd,List.map_map,List.map_map]
        rfl
      simp only [slots,held,keys]
      refine List.Nodup.map (fun i j same => ?_) List.nodup_range'
      exact Int.ofNat.inj (Key.index.inj same)
  | object fields flags =>
    rcases held : value.entries? with _ | entries
    · simp [slots,held]
    · have keys : ((fields.map fun field => (⟨.field field.1,field.2,
          (Table.find? entries (.str field.1)).getD .missing,
            value.access.fault? (.item field.1)⟩ : Slot)).map Slot.key) =
            (fields.map (·.1)).map Key.field := by
        rw [List.map_map,List.map_map]
        rfl
      simp only [slots,held,keys]
      exact List.Nodup.map (fun name other same => Key.field.inj same) distinct
  | _ => simp [slots]

theorem slot_unique {form : Form σ Schema} (distinct : form.Distinct) {value : Value}
    {slot other : Slot} (member : slot ∈ form.slots value) (another : other ∈ form.slots value)
    (same : slot.key = other.key) : slot = other :=
  List.inj_on_of_nodup_map (slots_nodup distinct value) member another same

def visited (form : Form σ Schema) (serial : Nat) (value : Value) : Run (Visit Key) :=
  visit form.immediate (value.freshFrom serial) ((form.slots value).map Slot.task)

/-- The readings that a structural step comes to: with which schema, from which serial on, and
of what. -/
inductive Reads (form : Form Stage Schema) (serial : Nat) (value : Value) :
    Schema → Nat → Value → Prop
  | slot {slot : Slot} (admitted : form.Admits value)
      (reached : Reached (fun earlier : Slot =>
        (earlier.task.read (value.freshFrom serial)).GoesOn form.immediate) (form.slots value) slot)
      (granted : slot.refusal = none) :
      Reads form serial value slot.schema (value.freshFrom serial) slot.item
  | option {options : List Schema} {option : Schema} (shape : form = .union options)
      (reached : Reached (fun earlier : Schema => (earlier.parser.read serial value).Rejects)
        options option) :
      Reads form serial value option serial value
  | wrapped {inner : Schema} (shape : form.wrapped? = some inner) :
      Reads form serial value inner serial value

/-- What a structural step asks a mapping for in vain: a declared field that it comes to, or the
copy of a mapping whose fields all validate. -/
inductive Denies (form : Form Stage Schema) (serial : Nat) (value : Value) (fault : Fault) : Prop
  | item {slot : Slot}
      (reached : Reached (fun earlier : Slot =>
        (earlier.task.read (value.freshFrom serial)).GoesOn form.immediate) (form.slots value) slot)
      (refused : slot.refusal = some fault)
  | copy {visited : Visit Key} (done : (form.visited serial value).outcome = .ok visited)
      (clean : visited.failures = []) (refused : form.copying? value = some fault)

end Form

/-- The aggregate of the given failures, before any path is written. -/
structure Issue.Gathers (issue : Issue) (failures : List (Key × Issue)) : Prop where
  aggregate : issue.isAggregate = true
  path : issue.path = none
  children : issue.children = failures

/-- Every way in which a structural step ends in an issue. -/
inductive Form.Complains (form : Form Stage Schema) (serial : Nat) (value : Value)
    (issue : Issue) : Prop
  | objects (objects : issue.Objects value)
  | forwards {inner : Schema} (shape : form.wrapped? = some inner)
      (answered : (inner.parser.read serial value).outcome = .ok (.error issue))
  | refuses {inner : Schema} {function : Stage} {output : Value}
      (shape : form = .transform inner function)
      (answered : (inner.parser.read serial value).outcome = .ok (.ok output))
      (refused : (function.consult serial output (.transform output inner.kind) none).outcome =
        .ok (.error issue))
  | gathers (visited : Visit Key) (root : Issue) (admitted : form.Admits value)
      (done : (form.visited serial value).outcome = .ok visited) (failed : visited.failures ≠ [])
      (gathered : root.Gathers visited.failures)
      (marked : issue = if form.pathed then root.tagPaths [] else root)

/-- Every way in which a structural step faults, where messages are proper. -/
inductive Form.Faults (form : Form Stage Schema) (serial : Nat) (value : Value)
    (fault : Fault) : Prop
  | reads {child : Schema} {inner : Nat} {item : Value}
      (reads : form.Reads serial value child inner item)
      (ended : (child.parser.read inner item).outcome = .error fault)
  | turns {inner : Schema} {function : Stage} {output : Value}
      (shape : form = .transform inner function)
      (answered : (inner.parser.read serial value).outcome = .ok (.ok output))
      (ended : (function.consult serial output (.transform output inner.kind) none).outcome =
        .error fault)
  | denies (denied : form.Denies serial value fault)

section

variable {κ ι : Type}

def Task.rekey (change : κ → ι) (task : Task κ) : Task ι :=
  ⟨change task.key,task.item,task.refusal,task.parser⟩

def Visit.rekey (change : κ → ι) (visited : Visit κ) : Visit ι :=
  ⟨visited.outputs.map (Prod.map change id),visited.failures.map (Prod.map change id)⟩

theorem visit_rekey (change : κ → ι) (immediate : Bool) (serial : Nat) (tasks : List (Task κ)) :
    visit immediate serial (tasks.map (Task.rekey change)) =
      Visit.rekey change <$> visit immediate serial tasks := by
  induction tasks with
  | nil => rfl
  | cons task rest ih =>
    rw [List.map_cons,visit,visit,map_bind]
    refine bind_congr (x := task.read serial) ?_
    intro given
    rcases given with issue | output
    · cases immediate
      · simp only [Bool.false_eq_true,if_false,ih,Functor.map_map]
        rfl
      · rfl
    · simp only [ih,Functor.map_map]
      rfl

end

namespace Form

variable {serial : Nat} {value : Value}

theorem visited_array {element : Schema} {limits : Limits Nat} {immediate : Bool}
    {items : List Value} (held : value.items? = some items) :
    (Form.array element limits immediate : Form Stage Schema).visited serial value =
      Visit.rekey Key.index <$>
        visit immediate (value.freshFrom serial) (Sequence.tasks element.parser items) := by
  rw [← visit_rekey]
  simp only [visited,slots,held,Sequence.tasks,List.map_map]
  rfl

theorem visited_object {fields : List (String × Schema)} {flags : Flags} {entries : Entries}
    (held : value.entries? = some entries) :
    (Form.object fields flags : Form Stage Schema).visited serial value =
      Visit.rekey Key.field <$> visit flags.immediate (value.freshFrom serial)
        (Record.tasks (fields.map fun field => (field.1,field.2.parser)) value.access entries) := by
  rw [← visit_rekey]
  simp only [visited,slots,held,Record.tasks,List.map_map]
  rfl

theorem visited_fault {form : Form Stage Schema} {fault : Fault} (admitted : form.Admits value)
    (faulted : (form.visited serial value).outcome = .error fault) :
    form.Faults serial value fault := by
  obtain ⟨task,reached,ended⟩ := visit_fault faulted
  obtain ⟨slot,inside,rfl⟩ := reached.of_map
  rcases Task.read_error.mp ended with refused | ⟨granted,ended⟩
  · exact .denies (.item inside refused)
  · exact .reads (.slot admitted inside granted) ended

theorem visited_failure {form : Form Stage Schema} {visited : Visit Key}
    (done : (form.visited serial value).outcome = .ok visited) {entry : Key × Issue}
    (member : entry ∈ visited.failures) :
    ∃ slot, Reached (fun earlier : Slot =>
        (earlier.task.read (value.freshFrom serial)).GoesOn form.immediate) (form.slots value) slot ∧
      slot.key = entry.1 ∧ slot.refusal = none ∧
      (slot.schema.parser.read (value.freshFrom serial) slot.item).outcome = .ok (.error entry.2) := by
  obtain ⟨task,reached,same,ended⟩ := visit_failure done member
  obtain ⟨slot,inside,rfl⟩ := reached.of_map
  exact ⟨slot,inside,same,Task.read_ok.mp ended⟩

theorem visited_failures_nodup {form : Form Stage Schema} (distinct : form.Distinct)
    {visited : Visit Key} (done : (form.visited serial value).outcome = .ok visited) :
    (visited.failures.map (·.1)).Nodup := by
  have kept := visit_failures_sublist done
  rw [List.map_map] at kept
  exact (slots_nodup distinct value).sublist kept

/-- Only a container has parts that fail. -/
theorem bare_of_failed {form : Form Stage Schema} {visited : Visit Key}
    (done : (form.visited serial value).outcome = .ok visited) (failed : visited.failures ≠ []) :
    form.wrapped? = none := by
  rcases shape : form.wrapped? with _ | inner
  · rfl
  · obtain ⟨entry,member⟩ := List.exists_mem_of_ne_nil _ failed
    obtain ⟨slot,reached,_⟩ := visited_failure done member
    have inside := reached.mem
    rw [slots_of_wrapped shape] at inside
    cases inside

theorem visited_retained {form : Form Stage Schema} (retained : form.immediate = false)
    {visited : Visit Key} (done : (form.visited serial value).outcome = .ok visited) :
    (∀ slot ∈ form.slots value, (slot.task.read (value.freshFrom serial)).GoesOn form.immediate) ∧
      ∀ entry, entry ∈ visited.failures ↔ ∃ slot ∈ form.slots value, slot.key = entry.1 ∧
        (slot.schema.parser.read (value.freshFrom serial) slot.item).outcome =
          .ok (.error entry.2) := by
  rw [Form.visited,retained] at done
  obtain ⟨passed,same⟩ := visit_retained done
  rw [retained]
  refine ⟨fun slot member => passed _ (List.mem_map_of_mem member),fun entry => ?_⟩
  rw [same,List.filterMap_map,List.mem_filterMap]
  refine exists_congr fun slot => and_congr_right fun member => ?_
  have granted := Task.granted_of_goesOn (passed _ (List.mem_map_of_mem member))
  have reading : slot.task.read (value.freshFrom serial) =
      slot.schema.parser.read (value.freshFrom serial) slot.item := Task.read_granted granted _
  simp only [Function.comp_apply,Task.failure?,reading]
  rcases (slot.schema.parser.read (value.freshFrom serial) slot.item).outcome with
    fault | issue | output <;> simp [Prod.ext_iff,Slot.task]

end Form

namespace Sequence

variable {config : Config Stage} {element : Parser} {limits : Limits Nat}
  {immediate isList : Bool} {serial : Nat} {given : Value} {items : List Value}

theorem read_issue {issue : Issue}
    (complained : (read config element limits immediate isList serial given items).outcome =
      .ok (.error issue)) :
    (∃ text, issue = .leaf .arrayType text none) ∨
      Limit.Kept limits.greatest (· < items.length) ∧
        Limit.Kept limits.least (items.length < ·) ∧
        ∃ visited text, (visit immediate serial (tasks element items)).outcome = .ok visited ∧
          visited.failures ≠ [] ∧ issue = .array text none visited.failures := by
  rcases Limit.guard_issue complained with found | ⟨small,complained⟩
  · exact .inl found
  rcases Limit.guard_issue complained with found | ⟨large,complained⟩
  · exact .inl found
  obtain ⟨visited,done,answered⟩ := Run.bind_outcome_ok.mp complained
  split at answered
  · split at answered <;> cases answered
  · rename_i failed
    obtain ⟨text,_,answered⟩ := Run.bind_outcome_ok.mp answered
    cases answered
    exact .inr ⟨small,large,visited,text,done,by simpa using failed,rfl⟩

theorem read_fault {fault : Fault} (proper : config.Worded) (worded : limits.Worded)
    (faulted : (read config element limits immediate isList serial given items).outcome =
      .error fault) :
    Limit.Kept limits.greatest (· < items.length) ∧
      Limit.Kept limits.least (items.length < ·) ∧
      (visit immediate serial (tasks element items)).outcome = .error fault := by
  obtain ⟨small,faulted⟩ := Limit.guard_fault worded.2 faulted
  obtain ⟨large,faulted⟩ := Limit.guard_fault worded.1 faulted
  refine ⟨small,large,?_⟩
  rcases Run.bind_outcome_error.mp faulted with early | ⟨visited,_,late⟩
  · exact early
  · split at late
    · split at late <;> cases late
    · obtain ⟨text,settled⟩ := Message.settled_of_isMessage proper.message
        "Array elements failed validation"
      rw [settled] at late
      cases late

theorem read_endedBy {α : Type} {part : Run α} {fault : Fault}
    (small : Limit.Kept limits.greatest (· < items.length))
    (large : Limit.Kept limits.least (items.length < ·))
    (ended : (visit immediate serial (tasks element items)).EndedBy part fault) :
    (read config element limits immediate isList serial given items).EndedBy part fault := by
  rw [read,Limit.guard_of_kept small,Limit.guard_of_kept large]
  exact ended.bind _

end Sequence

namespace Record

variable {config : Config Stage} {fields : List (String × Parser)} {flags : Flags}
  {isDict : Bool} {serial : Nat} {given : Value} {access : Access} {entries : Entries}

/-- Where copying is not refused the output is made. -/
theorem project_of_granted {strict : Bool} (granted : access.copying? strict = none)
    (isDict unchanged : Bool) (serial : Nat) (given : Value) (entries : Entries)
    (outputs : List (String × Value)) :
    project strict isDict unchanged serial given access entries outputs =
      .ok (projected strict isDict unchanged serial given entries outputs) := by
  rcases kept : strict || isDict && unchanged with _ | _
  · have loose : strict = false := (Bool.or_eq_false_iff.mp kept).1
    have allowed : access.fault? .whole = none := by simpa [Access.copying?,loose] using granted
    simp only [project,kept,Access.grant,allowed]
    rfl
  · simp only [project,kept]
    rfl

theorem project_of_refused {strict : Bool} {fault : Fault}
    (refused : access.copying? strict = some fault) (plain : isDict = true → access = .free)
    (unchanged : Bool) (serial : Nat) (given : Value) (entries : Entries)
    (outputs : List (String × Value)) :
    project strict isDict unchanged serial given access entries outputs = .error fault := by
  have raised : strict = false ∧ access.fault? .whole = some fault := by
    simpa [Access.copying?] using refused
  have other : isDict = false := by
    rcases dict : isDict with _ | _
    · rfl
    · obtain rfl := plain dict
      cases raised.2
  simp only [project,raised.1,other,Access.grant,raised.2]
  rfl

theorem read_of_refused {visited : Visit String} {fault : Fault}
    (done : (visit flags.immediate serial (tasks fields access entries)).outcome = .ok visited)
    (clean : visited.failures = []) (refused : access.copying? flags.strict = some fault)
    (plain : isDict = true → access = .free) :
    (read config fields flags isDict serial given access entries).outcome = .error fault := by
  refine (Run.bind_outcome_of_ok done _).trans ?_
  simp only [clean,List.isEmpty_nil,if_true,project_of_refused refused plain]
  rfl

theorem read_issue {issue : Issue}
    (complained : (read config fields flags isDict serial given access entries).outcome =
      .ok (.error issue)) :
    ∃ visited text, (visit flags.immediate serial (tasks fields access entries)).outcome =
        .ok visited ∧
      visited.failures ≠ [] ∧ issue =
        if flags.pathed then (Issue.object text none visited.failures).tagPaths []
        else .object text none visited.failures := by
  obtain ⟨visited,done,answered⟩ := Run.bind_outcome_ok.mp complained
  split at answered
  · obtain ⟨_,_,answered⟩ := Run.bind_outcome_ok.mp answered
    cases answered
  · rename_i failed
    obtain ⟨text,_,answered⟩ := Run.bind_outcome_ok.mp answered
    cases answered
    exact ⟨visited,text,done,by simpa using failed,rfl⟩

theorem read_fault {fault : Fault} (proper : config.Worded)
    (plain : isDict = true → access = .free)
    (faulted : (read config fields flags isDict serial given access entries).outcome =
      .error fault) :
    (visit flags.immediate serial (tasks fields access entries)).outcome = .error fault ∨
      ∃ visited, (visit flags.immediate serial (tasks fields access entries)).outcome =
          .ok visited ∧ visited.failures = [] ∧ access.copying? flags.strict = some fault := by
  rcases Run.bind_outcome_error.mp faulted with early | ⟨visited,done,late⟩
  · exact .inl early
  · split at late
    · rename_i clean
      refine .inr ⟨visited,done,by simpa using clean,?_⟩
      rcases asked : access.copying? flags.strict with _ | refused
      · rw [project_of_granted asked] at late
        cases late
      · rw [project_of_refused asked plain] at late
        cases late
        rfl
    · obtain ⟨text,settled⟩ := Message.settled_of_isMessage proper.message
        "Object fields failed validation"
      rw [settled] at late
      cases late

end Record

namespace Node

variable {config : Config Stage} {serial : Nat} {value : Value}

theorem array_of_items {items : List Value} (held : value.items? = some items)
    (config : Config Stage) (element : Schema) (limits : Limits Nat) (immediate : Bool)
    (serial : Nat) : structural ⟨config,.array element limits immediate⟩ serial value =
      Sequence.read config element.parser limits immediate value.isList (value.freshFrom serial)
        value items := by
  cases value
  case list identity others =>
    obtain rfl := Option.some.inj held
    rfl
  case tuple identity others =>
    obtain rfl := Option.some.inj held
    rfl
  all_goals cases held

theorem array_of_bare (bare : value.items? = none) (config : Config Stage) (element : Schema)
    (limits : Limits Nat) (immediate : Bool) (serial : Nat) :
    structural ⟨config,.array element limits immediate⟩ serial value =
      config.refusal .arrayType "Value is not an array" value := by
  cases value
  case list | tuple => cases bare
  all_goals rfl

theorem object_of_entries {entries : Entries} (held : value.entries? = some entries)
    (config : Config Stage) (fields : List (String × Schema)) (flags : Flags) (serial : Nat) :
    structural ⟨config,.object fields flags⟩ serial value =
      Record.read config (fields.map fun field => (field.1,field.2.parser)) flags value.isDict
        (value.freshFrom serial) value value.access entries := by
  cases value
  case dict identity others =>
    obtain rfl := Option.some.inj held
    rfl
  case mapping identity others =>
    obtain rfl := Option.some.inj held
    rfl
  all_goals cases held

theorem object_of_bare (bare : value.entries? = none) (config : Config Stage)
    (fields : List (String × Schema)) (flags : Flags) (serial : Nat) :
    structural ⟨config,.object fields flags⟩ serial value =
      config.refusal .objectType "Value is not an object" value := by
  cases value
  case dict | mapping => cases bare
  all_goals rfl

theorem array_complains {element : Schema} {limits : Limits Nat} {immediate : Bool} {issue : Issue}
    (complained : (structural ⟨config,.array element limits immediate⟩ serial value).outcome =
      .ok (.error issue)) :
    (Form.array element limits immediate).Complains serial value issue := by
  rcases held : value.items? with _ | items
  · rw [array_of_bare held] at complained
    exact .objects (Config.refusal_objects (by simp) complained)
  · rw [array_of_items held] at complained
    rcases Sequence.read_issue complained with
      ⟨text,rfl⟩ | ⟨small,large,visited,text,done,failed,rfl⟩
    · have present : value.isAbsent = false := by
        cases value
        case null | missing => cases held
        all_goals rfl
      exact .objects ⟨_,_,rfl,by simp [present]⟩
    · refine .gathers (visited.rekey Key.index) (.array text none visited.failures)
        ?_ ?_ ?_ ⟨rfl,rfl,rfl⟩ rfl
      · intro others same
        obtain rfl : items = others := by simpa [held] using same
        exact ⟨small,large⟩
      · rw [Form.visited_array held]
        exact Run.map_outcome_ok.mpr ⟨visited,done,rfl⟩
      · simpa [Visit.rekey] using failed

theorem object_complains {fields : List (String × Schema)} {flags : Flags} {issue : Issue}
    (complained : (structural ⟨config,.object fields flags⟩ serial value).outcome =
      .ok (.error issue)) :
    (Form.object fields flags).Complains serial value issue := by
  rcases held : value.entries? with _ | entries
  · rw [object_of_bare held] at complained
    exact .objects (Config.refusal_objects (by simp) complained)
  · rw [object_of_entries held] at complained
    obtain ⟨visited,text,done,failed,same⟩ := Record.read_issue complained
    refine .gathers (visited.rekey Key.field) (.object text none visited.failures)
      trivial ?_ ?_ ⟨rfl,rfl,rfl⟩ same
    · rw [Form.visited_object held]
      exact Run.map_outcome_ok.mpr ⟨visited,done,rfl⟩
    · simpa [Visit.rekey] using failed

/-- A structural step that ends in an issue does so in one of the ways of its form. -/
theorem structural_complains {content : Node Stage Schema} {issue : Issue}
    (complained : (content.structural serial value).outcome = .ok (.error issue)) :
    content.form.Complains serial value issue := by
  rcases content with ⟨config,form⟩
  cases form with
  | string limits => exact .objects (Scalar.string_objects complained)
  | number whole limits => exact .objects (Scalar.number_objects complained)
  | bigint limits => exact .objects (Scalar.bigint_objects complained)
  | boolean => exact .objects (Scalar.boolean_objects complained)
  | unknown | any => cases complained
  | array element limits immediate => exact array_complains complained
  | object fields flags => exact object_complains complained
  | literal values => exact .objects (Choice.literal_objects complained)
  | union options => exact .objects (Choice.union_issue complained).2
  | optional inner | nullable inner => exact .forwards rfl complained
  | transform inner function =>
    rcases Run.andThen_outcome_issue.mp complained with answered | ⟨output,answered,refused⟩
    · exact .forwards rfl answered
    · rw [Schema.parser_kind] at refused
      exact .refuses rfl answered refused

theorem array_fault {element : Schema} {limits : Limits Nat} {immediate : Bool} {fault : Fault}
    (proper : config.Worded) (worded : limits.Worded)
    (faulted : (structural ⟨config,.array element limits immediate⟩ serial value).outcome =
      .error fault) :
    (Form.array element limits immediate).Faults serial value fault := by
  rcases held : value.items? with _ | items
  · rw [array_of_bare held] at faulted
    exact ((Config.refusal_answers proper _ _ value).not_fault _ faulted).elim
  · rw [array_of_items held] at faulted
    obtain ⟨small,large,ended⟩ := Sequence.read_fault proper worded faulted
    apply Form.visited_fault
    · intro others same
      obtain rfl : items = others := by simpa [held] using same
      exact ⟨small,large⟩
    · rw [Form.visited_array held]
      exact Run.map_outcome_error.mpr ended

theorem object_fault {fields : List (String × Schema)} {flags : Flags} {fault : Fault}
    (proper : config.Worded)
    (faulted : (structural ⟨config,.object fields flags⟩ serial value).outcome = .error fault) :
    (Form.object fields flags).Faults serial value fault := by
  rcases held : value.entries? with _ | entries
  · rw [object_of_bare held] at faulted
    exact ((Config.refusal_answers proper _ _ value).not_fault _ faulted).elim
  · rw [object_of_entries held] at faulted
    have visits : (Form.object fields flags : Form Stage Schema).visited serial value = _ :=
      Form.visited_object held
    rcases Record.read_fault proper Value.access_of_isDict faulted with
      ended | ⟨visited,done,clean,refused⟩
    · refine Form.visited_fault trivial ?_
      rw [visits]
      exact Run.map_outcome_error.mpr ended
    · have ended : ((Form.object fields flags : Form Stage Schema).visited serial value).outcome =
          .ok (visited.rekey Key.field) := by
        rw [visits]
        exact Run.map_outcome_ok.mpr ⟨visited,done,rfl⟩
      exact .denies (.copy ended (by simp [Visit.rekey,clean]) refused)

/-- With proper messages a structural step faults only in a reading that it comes to, in the
function of a transform, or where a mapping refuses what it is asked for. -/
theorem structural_fault {content : Node Stage Schema} {fault : Fault}
    (proper : content.config.Worded) (worded : content.form.Worded)
    (faulted : (content.structural serial value).outcome = .error fault) :
    content.form.Faults serial value fault := by
  rcases content with ⟨config,form⟩
  cases form with
  | string limits =>
    exact ((Scalar.string_answers proper worded value).not_fault _ faulted).elim
  | number whole limits =>
    exact ((Scalar.number_answers proper worded.1 worded.2 value).not_fault _ faulted).elim
  | bigint limits =>
    exact ((Scalar.bigint_answers proper worded value).not_fault _ faulted).elim
  | boolean => exact ((Scalar.boolean_answers proper value).not_fault _ faulted).elim
  | unknown | any => cases faulted
  | array element limits immediate => exact array_fault proper worded faulted
  | object fields flags => exact object_fault proper faulted
  | literal values =>
    exact ((Choice.literal_answers proper values value).not_fault _ faulted).elim
  | union options =>
    obtain ⟨parser,reached,ended⟩ := Choice.firstMatch_fault (Choice.union_fault proper faulted)
    obtain ⟨option,inside,rfl⟩ := reached.of_map
    exact .reads (.option rfl inside) ended
  | optional inner | nullable inner => exact .reads (.wrapped rfl) faulted
  | transform inner function =>
    rcases Run.andThen_outcome_fault.mp faulted with early | ⟨output,answered,refused⟩
    · exact .reads (.wrapped rfl) early
    · rw [Schema.parser_kind] at refused
      exact .turns rfl answered refused

theorem structural_endedBy_of_visited {content : Node Stage Schema} {α : Type} {part : Run α}
    {fault : Fault} (admitted : content.form.Admits value)
    (occupied : content.form.slots value ≠ [])
    (ended : (content.form.visited serial value).EndedBy part fault) :
    (content.structural serial value).EndedBy part fault := by
  rcases content with ⟨config,form⟩
  cases form
  case array element limits immediate =>
    rcases held : value.items? with _ | items
    · exact (occupied (by simp [Form.slots,held])).elim
    · obtain ⟨small,large⟩ := admitted items held
      rw [Form.visited_array held] at ended
      rw [array_of_items held]
      exact Sequence.read_endedBy small large (Run.endedBy_map.mp ended)
  case object fields flags =>
    rcases held : value.entries? with _ | entries
    · exact (occupied (by simp [Form.slots,held])).elim
    · rw [Form.visited_object held] at ended
      rw [object_of_entries held]
      exact (Run.endedBy_map.mp ended).bind _
  all_goals exact (occupied rfl).elim

/-- A fault in a reading that a structural step comes to ends the step there. -/
theorem structural_endedBy {content : Node Stage Schema} {child : Schema} {inner : Nat}
    {item : Value} (reads : content.form.Reads serial value child inner item) {α : Type}
    {part : Run α} {fault : Fault}
    (ended : (child.parser.read inner item).EndedBy part fault) :
    (content.structural serial value).EndedBy part fault := by
  cases reads with
  | slot admitted reached granted =>
    refine structural_endedBy_of_visited admitted (List.ne_nil_of_mem reached.mem) ?_
    refine visit_endedBy (Reached.map (f := Slot.task) reached) ?_
    rwa [Task.read_granted granted]
  | option shape reached =>
    have matching := Choice.firstMatch_endedBy (Reached.map (f := Schema.parser) reached) ended
    rw [structural,shape]
    exact matching.bind _
  | wrapped shape =>
    rcases content with ⟨config,form⟩
    cases form
    case optional | nullable =>
      cases shape
      exact ended
    case transform =>
      cases shape
      exact ended.andThen _
    all_goals cases shape

/-- What a mapping refuses is what the structural step ends in. -/
theorem structural_of_denied {content : Node Stage Schema} {fault : Fault}
    (denied : content.form.Denies serial value fault) :
    (content.structural serial value).outcome = .error fault := by
  cases denied with
  | @item slot reached refused =>
    have raised : (slot.task.read (value.freshFrom serial)).outcome = .error fault :=
      Task.read_error.mpr (.inl refused)
    have ended := visit_endedBy (Reached.map (f := Slot.task) reached) (Run.endedBy_self raised)
    exact (structural_endedBy_of_visited (Form.admits_of_refused reached.mem refused)
      (List.ne_nil_of_mem reached.mem) ended).1
  | copy done clean refused =>
    rcases content with ⟨config,form⟩
    cases form
    case object fields flags =>
      rcases held : value.entries? with _ | entries
      · rw [Form.copying_of_bare held] at refused
        cases refused
      · rw [Form.visited_object held] at done
        obtain ⟨visited,ended,rfl⟩ := Run.map_outcome_ok.mp done
        rw [object_of_entries held]
        refine Record.read_of_refused ended ?_ refused Value.access_of_isDict
        simpa [Visit.rekey] using clean
    all_goals cases refused

end Node
end Schemata
