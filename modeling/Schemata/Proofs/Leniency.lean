import Schemata.Proofs.Variation
import Schemata.Proofs.Yielding

/-!
Fewer checks. A tree from which checks are taken away accepts what it accepted before, with the
same output: checks let an output through or stop it, and never touch it. Every level then sees
the outputs it saw before, so that containers are put together alike and transforms are called
alike. A union is the exception, where a check can decide which alternative is taken.
-/
namespace Schemata

/-- The same but for checks, of which only some may be left. -/
structure Config.Relaxes (before after : Config Stage) : Prop where
  message : after.message = before.message
  required : after.required = before.required
  refines : after.refines = before.refines
  checks : after.checks.Sublist before.checks

def Variation.leniency : Variation := { none with configs := Config.Relaxes }

structure Slot.Varied (child : Schema → Schema → Prop) (first second : Slot) : Prop where
  key : second.key = first.key
  item : second.item = first.item
  refusal : second.refusal = first.refusal
  schema : child first.schema second.schema

/-- Forms that vary read the same items in the same places, with varied schemas. -/
theorem Form.Varied.slots {variation : Variation} {child : Schema → Schema → Prop}
    {first second : Form Stage Schema} (varied : first.Varied variation child second)
    (value : Value) : List.Forall₂ (Slot.Varied child) (first.slots value) (second.slots value) := by
  cases varied with
  | array element switched =>
    rcases held : value.items? with _ | items
    · simp [Form.slots,held]
    · simp only [Form.slots,held,List.forall₂_map_left_iff,List.forall₂_map_right_iff]
      exact List.forall₂_same.mpr fun entry _ => ⟨rfl,rfl,rfl,element⟩
  | object fields switched =>
    rcases held : value.entries? with _ | entries
    · simp [Form.slots,held]
    · simp only [Form.slots,held]
      induction fields with
      | nil => exact .nil
      | cons head _ ih => exact .cons ⟨rfl,rfl,rfl,head⟩ ih
  | _ => exact .nil

theorem Slot.items_of_varied {child : Schema → Schema → Prop} {slots others : List Slot}
    (varied : List.Forall₂ (Slot.Varied child) slots others) :
    others.map item = slots.map item := by
  induction varied with
  | nil => rfl
  | cons head _ ih => rw [List.map_cons,List.map_cons,ih,head.item]

/-- Accepts what the other accepts, with the same output. -/
structure Schema.Eases (schema lenient : Schema) : Prop where
  kind : lenient.kind = schema.kind
  accepts : ∀ serial value output, (schema.parser.read serial value).outcome = .ok (.ok output) →
    (lenient.parser.read serial value).outcome = .ok (.ok output)

theorem Slot.answered_of_varied {slots others : List Slot} {outputs : List Value} {serial : Nat}
    (varied : List.Forall₂ (Slot.Varied Schema.Eases) slots others)
    (answered : List.Forall₂ (fun slot output => (slot.task.read serial).outcome = .ok (.ok output))
      slots outputs) :
    List.Forall₂ (fun slot output => (slot.task.read serial).outcome = .ok (.ok output))
      others outputs := by
  induction varied generalizing outputs with
  | nil => exact answered
  | @cons slot other _ _ head _ ih =>
    obtain ⟨output,rest,here,later,rfl⟩ := List.forall₂_cons_left_iff.mp answered
    refine .cons ?_ (ih later)
    obtain ⟨granted,accepted⟩ := Task.read_ok.mp here
    have eased : (other.schema.parser.read serial slot.item).outcome = .ok (.ok output) :=
      head.schema.accepts serial slot.item output accepted
    rw [← head.item] at eased
    exact Task.read_ok.mpr ⟨head.refusal.trans granted,eased⟩

section

variable {first second : Form Stage Schema} {serial : Nat} {value output : Value}

theorem Form.Varied.assemble {child : Schema → Schema → Prop}
    (varied : first.Varied .leniency child second) (outputs : List Value) :
    second.assemble serial value outputs = first.assemble serial value outputs := by
  have items := Slot.items_of_varied (varied.slots value)
  cases varied with
  | @object _ _ old new fields switched =>
    have flags : old = new := switched
    simp only [Form.assemble,items,flags,fields.names]
  | _ => simp only [Form.assemble,items]

theorem Form.Varied.copying {child : Schema → Schema → Prop}
    (varied : first.Varied .leniency child second) (value : Value) :
    second.copying? value = first.copying? value := by
  cases varied with
  | @object _ _ old new fields switched =>
    have flags : old = new := switched
    rw [Form.copying?,Form.copying?,flags]
  | _ => rfl

theorem Form.Gathered.lenient {outputs : List Value}
    (gathered : first.Gathered serial value output outputs)
    (varied : first.Varied .leniency Schema.Eases second) :
    second.Gathered serial value output outputs := by
  obtain ⟨taken,admitted,answered,granted,same⟩ := gathered
  have accepted := Slot.answered_of_varied (varied.slots value) answered
  rw [← varied.assemble] at same
  rw [← varied.copying] at granted
  cases varied with
  | array | object => exact ⟨taken,admitted,accepted,granted,same⟩
  | _ => exact taken.elim

namespace Node

variable {before after : Config Stage}

/-- A structural step looks at the messages of its node, and at nothing else that varies here. -/
theorem structural_lenient (relaxes : before.Relaxes after)
    (varied : first.Varied .leniency Schema.Eases second) (single : first.kind ≠ .union)
    (given : (structural ⟨before,first⟩ serial value).outcome = .ok (.ok output)) :
    (structural ⟨after,second⟩ serial value).outcome = .ok (.ok output) := by
  rcases after with ⟨message,required,refines,checks⟩
  obtain ⟨rfl,rfl,rfl,_⟩ := relaxes
  cases varied with
  | string | number | bigint | boolean | unknown | any | literal => exact given
  | array element switched =>
    obtain ⟨outputs,gathered⟩ := array_gathers.mp given
    exact array_gathers.mpr ⟨outputs,gathered.lenient (.array element switched)⟩
  | object fields switched =>
    obtain ⟨outputs,gathered⟩ := object_gathers.mp given
    exact object_gathers.mpr ⟨outputs,gathered.lenient (.object fields switched)⟩
  | union options => exact (single rfl).elim
  | optional inner | nullable inner => exact inner.accepts serial value output given
  | @transform _ _ old new inner function =>
    obtain ⟨passed,answered,turned⟩ := Run.andThen_outcome_ok.mp given
    apply Run.andThen_outcome_ok.mpr
    refine ⟨passed,inner.accepts serial value passed answered,?_⟩
    have same : old = new := function
    rw [Schema.parser_kind] at turned ⊢
    rwa [inner.kind,← same]

end Node

end

namespace Schema

theorem Varied.eases {schema lenient : Schema} (fewer : schema.Varied .leniency lenient)
    (single : schema.Every fun content => content.form.kind ≠ .union) : schema.Eases lenient := by
  induction schema using Schema.induction generalizing lenient with
  | node content below =>
    cases fewer with
    | @node before after first second relaxes form =>
      have children : first.Varied .leniency Eases second :=
        form.imp fun child member _ fewer => below child member fewer (single.child member)
      have kinds : second.kind = first.kind := form.kind.symm
      refine ⟨kinds,fun serial value output accepted => ?_⟩
      apply read_outcome_output.mpr
      simp only [Node.Enters,Node.kind,kinds,relaxes.refines,← form.sentinel]
      rcases read_outcome_output.mp accepted with passed | ⟨current,entered,looked,passed⟩
      · exact .inl passed
      · refine .inr ⟨current,entered,Node.structural_lenient relaxes children single.here looked,?_⟩
        obtain ⟨_,passes⟩ := Node.checked_outcome_output.mp passed
        apply Node.checked_outcome_output.mpr
        refine ⟨rfl,fun check kept => ?_⟩
        have checked := passes check (relaxes.checks.subset kept)
        rwa [Node.kind,← kinds] at checked

/-- Without unions, checks only filter: what a tree accepts it accepts with the same output after any
of its checks are taken away. -/
theorem safe_parse_lenient (schema lenient : Schema) (fewer : schema.Varied .leniency lenient)
    (single : schema.Every fun content => content.form.kind ≠ .union) (value output : Value)
    (accepted : (schema.safeParse value).outcome = .ok (.ok output)) :
    (lenient.safeParse value).outcome = .ok (.ok output) :=
  (fewer.eases single).accepts 0 value output accepted

theorem safe_parse_lenient_counted :
    let agreeing : Stage := .function none fun _ value _ => return .ok value
    let filled : Stage := .function none fun _ value _ => return .bool (value.items? != some [])
    let counted : Stage := .function none fun _ value _ =>
      return .int ((value.items?.getD []).length : Int)
    let schema (checks : List (Stage × Value)) : Schema := .node ⟨.empty,.transform
      (.node ⟨{ Config.empty with checks },.array (.node ⟨.empty,.bigint .none⟩) .none false⟩)
      counted⟩
    let input : Value := .tuple (.given 0) [.int 1,.int 2]
    ((schema [(agreeing,.null),(filled,.null)]).safeParse input).outcome = .ok (.ok (.int 2)) ∧
      ((schema [(filled,.null)]).safeParse input).outcome = .ok (.ok (.int 2)) := by
  intro agreeing filled counted schema input
  have accepted : ((schema [(agreeing,.null),(filled,.null)]).safeParse input).outcome =
      .ok (.ok (.int 2)) := rfl
  refine ⟨accepted,?_⟩
  have same {form : Form Stage Schema} {second : Form Stage Schema}
      (varied : form.Varied .leniency (Schema.Varied .leniency) second) :
      (Schema.node ⟨.empty,form⟩).Varied .leniency (.node ⟨.empty,second⟩) :=
    .node ⟨rfl,rfl,rfl,.refl _⟩ varied
  have fewer : (schema [(agreeing,.null),(filled,.null)]).Varied .leniency
      (schema [(filled,.null)]) := by
    apply same
    refine .transform (.node ⟨rfl,rfl,rfl,?_⟩ (.array (same .bigint) rfl)) rfl
    exact List.sublist_cons_self _ _
  have single : (schema [(agreeing,.null),(filled,.null)]).Every
      fun content => content.form.kind ≠ .union :=
    .parent nofun rfl (.parent nofun rfl (.leaf nofun rfl))
  exact safe_parse_lenient _ _ fewer single input (.int 2) accepted

end Schema
end Schemata
