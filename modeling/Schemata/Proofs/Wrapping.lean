import Schemata.Node.Building
import Schemata.Proofs.Pipeline

/-!
Schemas around schemas. Wrappers that let an absent value pass may be stacked in any order and with
any repetition: all that shows is which of the two absent values some layer lets pass. Transforms
that are chained apply their functions from left to right, up to the first one that rejects, and a
rejection is told in the name of what the transform is around.
-/
namespace Schemata

/-- A layer around a schema that lets one of the absent values pass. -/
inductive Wrapper where
  | optional | nullable
  deriving DecidableEq

namespace Wrapper

def sentinel : Wrapper → Value
  | optional => .missing
  | nullable => .null

def around (wrapper : Wrapper) (inner : Schema) : Except BuildError Schema :=
  .node <$> match wrapper with
    | optional => Node.optional (.schema inner)
    | nullable => Node.nullable (.schema inner)

theorem around_reads (wrapper : Wrapper) (inner : Schema) :
    ∃ layered, wrapper.around inner = .ok layered ∧ ∀ serial value,
      layered.parser.read serial value =
        if value = wrapper.sentinel then pure (.ok value) else inner.parser.read serial value := by
  cases wrapper with
  | optional =>
    refine ⟨.node ⟨.empty,.optional inner⟩,rfl,?_⟩
    intro serial value
    rw [Schema.read_of_bare rfl rfl]
    simp only [Form.sentinel?,sentinel,Option.some.injEq,eq_comm]
    rfl
  | nullable =>
    refine ⟨.node ⟨.empty,.nullable inner⟩,rfl,?_⟩
    intro serial value
    rw [Schema.read_of_bare rfl rfl]
    simp only [Form.sentinel?,sentinel,Option.some.injEq,eq_comm]
    rfl

end Wrapper

namespace Schema

/-- The schema with wrappers around it, the first of them innermost. -/
def stacked (inner : Schema) (wrappers : List Wrapper) : Except BuildError Schema :=
  wrappers.foldlM (fun schema wrapper => wrapper.around schema) inner

theorem stacked_reads (wrappers : List Wrapper) (inner : Schema) :
    ∃ stack, inner.stacked wrappers = .ok stack ∧ ∀ serial value,
      stack.parser.read serial value =
        if value ∈ wrappers.map Wrapper.sentinel then pure (.ok value)
        else inner.parser.read serial value := by
  -- The innermost wrapper is taken off: with it around, the schema is the inside of the others.
  induction wrappers generalizing inner with
  | nil => exact ⟨inner,rfl,fun _ _ => by simp⟩
  | cons wrapper rest ih =>
    obtain ⟨layered,around,layering⟩ := wrapper.around_reads inner
    obtain ⟨stack,built,stacking⟩ := ih layered
    refine ⟨stack,by rw [stacked,List.foldlM_cons,around]; exact built,?_⟩
    intro serial value
    rw [stacking,layering,List.map_cons]
    by_cases outer : value ∈ rest.map Wrapper.sentinel
    · simp [outer]
    · simp [outer]

/-- A stack of wrappers lets pass what one of its layers lets pass, without a call, and hands every
other value to the schema inside. So neither order nor repetition matters. -/
theorem safe_parse_stacked (inner : Schema) (wrappers : List Wrapper) :
    ∃ stack, inner.stacked wrappers = .ok stack ∧
      (∀ value,
        (value ∈ wrappers.map Wrapper.sentinel → stack.safeParse value = ⟨[],.ok (.ok value)⟩) ∧
        (value ∉ wrappers.map Wrapper.sentinel →
          stack.safeParse value = inner.safeParse value)) ∧
      ∀ others other, inner.stacked others = .ok other →
        (∀ wrapper, wrapper ∈ others ↔ wrapper ∈ wrappers) →
        ∀ value, other.safeParse value = stack.safeParse value := by
  obtain ⟨stack,built,reads⟩ := inner.stacked_reads wrappers
  refine ⟨stack,built,?_,?_⟩
  · intro value
    rw [safeParse,reads]
    exact ⟨fun passes => if_pos passes,fun enters => if_neg enters⟩
  · intro others other building same value
    obtain ⟨again,rebuilt,rereads⟩ := inner.stacked_reads others
    obtain rfl : again = other := by simpa [rebuilt] using building
    rw [safeParse,safeParse,reads,rereads]
    simp only [List.mem_map,same]

end Schema

namespace Stage

def callable : Stage → Bool
  | function .. => true
  | inert _ => false

/-- The ways in which the function of a transform turns out for a value, with what is recorded and
what comes of it. `source` is the kind of the schema that the transform is around. -/
inductive Turns (function : Stage) (serial : Nat) (source : Kind) (value : Value) :
    List Event → Except Fault (Except Issue Value) → Prop
  | replied {events : List Event} {next : Value} (plain : ∀ held, next ≠ .ok held ∧ next ≠ .err held)
      (called : function.call serial value (.transform value source) = ⟨events,.ok next⟩) :
      Turns function serial source value events (.ok (.ok next))
  | unwrapped {events : List Event} {next : Value}
      (called : function.call serial value (.transform value source) = ⟨events,.ok (.ok next)⟩) :
      Turns function serial source value events (.ok (.ok next))
  | handed {events : List Event} {issue : Issue}
      (called : function.call serial value (.transform value source) =
        ⟨events,.ok (.err (.issue issue))⟩) :
      Turns function serial source value events (.ok (.error issue))
  | refused {events : List Event} {reason : Value} (other : ∀ issue, reason ≠ .issue issue)
      (called : function.call serial value (.transform value source) =
        ⟨events,.ok (.err reason)⟩) :
      Turns function serial source value events
        (.ok (.error (.staged .transform reason.written source.name none)))
  | raised {events : List Event} {fault : Fault} (caught : ∀ text, fault ≠ .abort text)
      (called : function.call serial value (.transform value source) = ⟨events,.error fault⟩) :
      Turns function serial source value
        (events ++ [.note (.raised .transform source fault.name)])
        (.ok (.error (.staged .transform fault.reason source.name none)))
  | aborted {events : List Event} {text : String}
      (called : function.call serial value (.transform value source) =
        ⟨events,.error (.abort text)⟩) :
      Turns function serial source value events (.error (.abort text))

variable {function : Stage} {serial : Nat} {source : Kind} {value : Value} {events : List Event}
  {ending : Except Fault (Except Issue Value)}

theorem Turns.consult (turns : function.Turns serial source value events ending) :
    function.consult serial value (.transform value source) none = ⟨events,ending⟩ := by
  cases turns with
  | @replied events next plain called =>
    cases next with
    | ok held => exact ((plain held).1 rfl).elim
    | err held => exact ((plain held).2 rfl).elim
    | _ => simp [Stage.consult,called,judged,passes,Run.attempt,Run.bind_ok,Run.pure_eq]
  | unwrapped called | handed called =>
    simp [Stage.consult,called,judged,passes,Run.attempt,Run.bind_ok,Run.pure_eq]
  | @refused events reason other called =>
    cases reason with
    | issue issue => exact (other issue rfl).elim
    | _ =>
      simp [Stage.consult,called,judged,passes,Run.attempt,Run.bind_ok,Run.pure_eq,Context.issue,
        Context.stage,Context.source]
  | @raised events fault caught called =>
    cases fault with
    | abort text => exact (caught text rfl).elim
    | rejected issue | error kind text | refused reading refusal =>
      simp [Stage.consult,called,Run.attempt,Run.bind_ok,Run.bind_error,Run.pure_eq,Run.record,
        Context.issue,Context.stage,Context.source]
  | aborted called => simp [Stage.consult,called,Run.attempt,Run.bind_error]

theorem exists_turns (function : Stage) (serial : Nat) (source : Kind) (value : Value) :
    ∃ events ending, function.Turns serial source value events ending := by
  rcases called : function.call serial value (.transform value source) with ⟨events,fault | reply⟩
  · cases fault with
    | abort text => exact ⟨_,_,.aborted called⟩
    | rejected issue | error kind text | refused reading refusal =>
      exact ⟨_,_,.raised (by simp) called⟩
  · cases reply with
    | ok next => exact ⟨_,_,.unwrapped called⟩
    | err reason =>
      cases reason with
      | issue issue => exact ⟨_,_,.handed called⟩
      | _ => exact ⟨_,_,.refused (by simp) called⟩
    | _ => exact ⟨_,_,.replied (by simp) called⟩

theorem turns_iff : function.Turns serial source value events ending ↔
    function.consult serial value (.transform value source) none = ⟨events,ending⟩ := by
  refine ⟨Turns.consult,fun consulted => ?_⟩
  obtain ⟨others,last,turns⟩ := function.exists_turns serial source value
  have same := turns.consult.symm.trans consulted
  rw [Run.mk.injEq] at same
  rwa [same.1,same.2] at turns

end Stage

/-- Functions applied from left to right, each to what the one before gave, up to the first that
gives no value. The first speaks for `source` and every later one for a transform. -/
inductive Chains (serial : Nat) :
    Kind → List Stage → Value → List Event → Except Fault (Except Issue Value) → Prop
  | done {source : Kind} {value : Value} : Chains serial source [] value [] (.ok (.ok value))
  | stopped {source : Kind} {function : Stage} {rest : List Stage} {value : Value}
      {events : List Event} {ending : Except Fault (Except Issue Value)}
      (turns : function.Turns serial source value events ending)
      (stops : ∀ next, ending ≠ .ok (.ok next)) :
      Chains serial source (function :: rest) value events ending
  | more {source : Kind} {function : Stage} {rest : List Stage} {value next : Value}
      {events later : List Event} {ending : Except Fault (Except Issue Value)}
      (turns : function.Turns serial source value events (.ok (.ok next)))
      (others : Chains serial .transform rest next later ending) :
      Chains serial source (function :: rest) value (events ++ later) ending

def chain (serial : Nat) : Kind → List Stage → Value → Run (Except Issue Value)
  | _,[],value => return .ok value
  | source,function :: rest,value =>
    (function.consult serial value (.transform value source) none).andThen
      (chain serial .transform rest)

theorem chains_iff {serial : Nat} {source : Kind} {functions : List Stage} {value : Value}
    {events : List Event} {ending : Except Fault (Except Issue Value)} :
    Chains serial source functions value events ending ↔
      chain serial source functions value = ⟨events,ending⟩ := by
  induction functions generalizing source value events ending with
  | nil =>
    constructor
    · rintro ⟨⟩
      rfl
    · intro ended
      cases ended
      exact .done
  | cons function rest ih =>
    constructor
    · rintro (_ | ⟨turns,stops⟩ | ⟨turns,others⟩)
      · rw [chain,Stage.turns_iff.mp turns,Run.andThen_of_stopped stops]
      · rw [chain,Stage.turns_iff.mp turns,Run.andThen_of_output rfl,ih.mp others]
    · intro ended
      rcases consulted : function.consult serial value (.transform value source) none with
        ⟨first,met⟩
      have turns := Stage.turns_iff.mpr consulted
      rw [chain,consulted] at ended
      rcases (⟨first,met⟩ : Run (Except Issue Value)).output_or_stopped with ⟨next,accepted⟩ | stops
      · obtain rfl : met = .ok (.ok next) := accepted
        rw [Run.andThen_of_output rfl] at ended
        cases ended
        exact .more turns (ih.mpr rfl)
      · rw [Run.andThen_of_stopped stops] at ended
        cases ended
        exact .stopped turns stops

namespace Schema

def transformed (inner : Schema) (function : Stage) : Except BuildError Schema :=
  .node <$> Node.transform Stage.callable (.schema inner) function

/-- The schema with a transform around it for every function, the first of them innermost. -/
def chained (inner : Schema) (functions : List Stage) : Except BuildError Schema :=
  functions.foldlM transformed inner

theorem transformed_reads (inner : Schema) {function : Stage} (callable : function.callable = true) :
    ∃ outer, inner.transformed function = .ok outer ∧ outer.kind = .transform ∧ ∀ serial value,
      outer.parser.read serial value = (inner.parser.read serial value).andThen fun output =>
        function.consult serial output (.transform output inner.kind) none := by
  refine ⟨.node ⟨.empty,.transform inner function⟩,?_,rfl,?_⟩
  · cases function with
    | function label act => rfl
    | inert object => cases callable
  · intro serial value
    rw [read_of_bare rfl rfl,← inner.parser_kind]
    rfl

theorem chained_reads (functions : List Stage) (inner : Schema)
    (callable : ∀ function ∈ functions, function.callable = true) :
    ∃ outer, inner.chained functions = .ok outer ∧ ∀ serial value,
      outer.parser.read serial value =
        (inner.parser.read serial value).andThen (chain serial inner.kind functions) := by
  induction functions generalizing inner with
  | nil => exact ⟨inner,rfl,fun _ _ => (Run.andThen_pure _).symm⟩
  | cons function rest ih =>
    obtain ⟨first,others⟩ := List.forall_mem_cons.mp callable
    obtain ⟨middle,transformed,kind,turning⟩ := inner.transformed_reads first
    obtain ⟨outer,built,reads⟩ := ih middle others
    refine ⟨outer,by rw [chained,List.foldlM_cons,transformed]; exact built,?_⟩
    intro serial value
    rw [reads,turning,kind,Run.andThen_assoc]
    rfl

/-- Transforms around a schema leave everything but an output of it as it is. An output goes through
their functions from left to right, and the reading ends as they do. -/
theorem safe_parse_chained (inner : Schema) (functions : List Stage)
    (callable : ∀ function ∈ functions, function.callable = true) :
    ∃ outer, inner.chained functions = .ok outer ∧ ∀ value,
      ((∀ output, (inner.safeParse value).outcome ≠ .ok (.ok output)) →
        outer.safeParse value = inner.safeParse value) ∧
      ∀ output, (inner.safeParse value).outcome = .ok (.ok output) → ∃ events ending,
        outer.safeParse value = ⟨(inner.safeParse value).events ++ events,ending⟩ ∧
        ∀ others last, Chains 0 inner.kind functions output others last ↔
          others = events ∧ last = ending := by
  obtain ⟨outer,built,reads⟩ := inner.chained_reads functions callable
  refine ⟨outer,built,?_⟩
  intro value
  rw [safeParse,safeParse,reads]
  constructor
  · intro stopped
    exact Run.andThen_of_stopped stopped
  · intro output answered
    rw [Run.andThen_of_output answered]
    refine ⟨_,_,rfl,?_⟩
    intro others last
    rw [chains_iff,eq_comm,Run.mk.injEq]

/-- The second of three functions fails without a text: the first gave it an unwrapped value, the
third is not called, and the issue is told in the name of the first transform. -/
theorem safe_parse_chained_failing :
    let successor : Stage := .function none fun _ value _ => match value with
      | .int i => pure (.ok (.int (i + 1)))
      | other => pure other
    let failing : Stage := .function none fun _ _ _ => Run.fail (.error .zeroDivision "")
    let functions := [successor,failing,successor]
    let count : Schema := .node ⟨.empty,.bigint .none⟩
    let issue : Issue := .staged .transform "ZeroDivisionError" "transform" none
    (∀ function ∈ functions, function.callable = true) ∧
      ∃ outer events, count.chained functions = .ok outer ∧
        outer.safeParse (.int 1) = ⟨events,.ok (.error issue)⟩ ∧
        Chains 0 .bigint functions (.int 1) events (.ok (.error issue)) ∧
        events = [.call none (.int 1) (.transform (.int 1) .bigint),
          .call none (.int 2) (.transform (.int 2) .transform),
          .note (.raised .transform .transform "ZeroDivisionError")] := by
  intro successor failing functions count issue
  have callable : ∀ function ∈ functions, function.callable = true := by
    simp [functions,successor,failing,Stage.callable]
  obtain ⟨outer,built,reads⟩ := safe_parse_chained count functions callable
  have whole : count.chained functions = .ok (.node ⟨.empty,.transform (.node ⟨.empty,.transform
      (.node ⟨.empty,.transform count successor⟩) failing⟩) successor⟩) := rfl
  obtain ⟨events,ending,answered,chains⟩ := (reads (.int 1)).2 (.int 1) rfl
  obtain rfl := Except.ok.inj (built.symm.trans whole)
  have came : (⟨[] ++ events,ending⟩ : Run (Except Issue Value)) = ⟨_,.ok (.error issue)⟩ :=
    answered.symm
  cases came
  exact ⟨callable,_,_,built,rfl,(chains _ _).mpr ⟨rfl,rfl⟩,rfl⟩

end Schema
end Schemata
