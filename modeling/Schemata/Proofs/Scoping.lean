import Schemata.Proofs.Calls

/-!
Programs that build and use schemas under blocks of defaults. A program runs in a session, whose open
blocks are a stack; what it does is told without a stack by carrying the flags of the innermost block
down into the blocks of its text. Both agree on every program, however its blocks are left, so that
defaults are scoped by the text. A program that neither asks for the defaults nor builds containers
does the same under all of them.
-/
namespace Schemata

structure Naming where
  immediate : Option Bool
  strict : Option Bool
  pathed : Option Bool

/-- The flags in force in a block; those that it does not name are off. -/
def Naming.flags (naming : Naming) : Flags :=
  ⟨naming.immediate.getD false,naming.strict.getD false,naming.pathed.getD false⟩

inductive Construction where
  | string (message : Value)
  | number (message : Value)
  | bigint (message : Value)
  | boolean (message : Value)
  | unknown
  | any
  | array (element : Part Ref) (message : Value)
  | object (fields : Fields Ref) (message : Value)
  | literal (values message : Value)
  | union (options : List (Part Ref)) (message : Value)
  | optional (inner : Part Ref)
  | nullable (inner : Part Ref)
  | transform (inner : Part Ref) (function : Callback Ref)

namespace Construction

def node (flags : Flags) : Construction → Except BuildError StoredNode
  | string message => .ok (Node.string message)
  | number message => .ok (Node.number message)
  | bigint message => .ok (Node.bigint message)
  | boolean message => .ok (Node.boolean message)
  | unknown => .ok Node.unknown
  | any => .ok Node.any
  | array element message => Node.array flags element message
  | object fields message => Node.object flags fields message
  | literal values message => Node.literal values message
  | union options message => Node.union options message
  | optional inner => Node.optional inner
  | nullable inner => Node.nullable inner
  | transform inner function => Node.transform Callback.callable inner function

def isContainer : Construction → Bool
  | array .. | object .. => true
  | _ => false

end Construction

inductive Command where
  | defaults
  | construct (construction : Construction)
  | call (ref : Ref) (request : Call)
  | inspect (ref : Ref)
  | safeParse (ref : Ref) (value : Value)
  | parse (ref : Ref) (value : Value)
  | isValid (ref : Ref) (value : Value)

inductive Answer where
  | flags (flags : Flags)
  | schema (ref : Ref)
  | node (node : Option StoredNode)
  | outcome (outcome : Except Issue Value)
  | value (value : Value)
  | verdict (valid : Bool)

/-- An exception: of a construction, of a parse, or one that the program raises itself. -/
inductive Failure where
  | build (error : BuildError)
  | fault (fault : Fault)

/-- How a part of a program ends: what the parses in it recorded, what its constructors built and
under which defaults, the state that it leaves, and its result or the exception that left it. -/
structure Ending (σ ρ : Type) where
  events : List Event
  built : List (Flags × StoredNode)
  state : σ
  outcome : Except Failure ρ

namespace Ending

variable {σ τ ρ π : Type}

def andThen (first : Ending σ ρ) (next : ρ → σ → Ending σ π) : Ending σ π :=
  match first.outcome with
  | .ok result =>
    let rest := next result first.state
    ⟨first.events ++ rest.events,first.built ++ rest.built,rest.state,rest.outcome⟩
  | .error failure => ⟨first.events,first.built,first.state,.error failure⟩

def handle (first : Ending σ ρ) (handler : Failure → σ → Ending σ ρ) : Ending σ ρ :=
  match first.outcome with
  | .ok _ => first
  | .error failure =>
    let rest := handler failure first.state
    ⟨first.events ++ rest.events,first.built ++ rest.built,rest.state,rest.outcome⟩

def carry (change : σ → τ) (ending : Ending σ ρ) : Ending τ ρ :=
  { ending with state := change ending.state }

def reading {α : Type} (state : σ) (run : Run α) (answer : α → ρ) : Ending σ ρ :=
  ⟨run.events,[],state,(run.outcome.map answer).mapError .fault⟩

end Ending

/-- Programs with a result, which their parts may hand on. -/
inductive Program (ρ : Type) where
  | done (result : ρ)
  | raise (failure : Failure)
  | perform (command : Command) (next : Answer → Program ρ)
  | block (naming : Naming) (body : Program ρ) (next : ρ → Program ρ)
  | attempt (body : Program ρ) (handler : Failure → Program ρ) (next : ρ → Program ρ)

namespace Command

def run (session : Session) : Command → Ending Session Answer
  | defaults => ⟨[],[],session,.ok (.flags session.flags)⟩
  | construct construction =>
    match session.build (construction.node session.flags) with
    | .error error => ⟨[],[],session,.error (.build error)⟩
    | .ok (next,made) => ⟨[],[(session.flags,next.store.node made)],next,.ok (.schema made)⟩
  | call ref request =>
    match session.call ref request with
    | .error error => ⟨[],[],session,.error (.build error)⟩
    | .ok (next,made) => ⟨[],[],next,.ok (.schema made)⟩
  | inspect ref => ⟨[],[],session,.ok (.node (session.store.node? ref))⟩
  | safeParse ref value => .reading session ((session.parser ref).read 0 value) .outcome
  | parse ref value => .reading session ((session.parser ref).demand 0 value) .value
  | isValid ref value => .reading session ((session.parser ref).accepts 0 value) .verdict

def isAmbient : Command → Bool
  | defaults => true
  | construct construction => construction.isContainer
  | _ => false

/-- What a command does where the innermost block has the flags. -/
def under (flags : Flags) (store : Store) (command : Command) : Ending Store Answer :=
  (command.run ⟨store,[flags]⟩).carry Session.store

end Command

namespace Program

variable {ρ : Type}

/-- Runs in a session: a block is entered before its body and left after it, whichever way the body
ends. -/
def run : Program ρ → Session → Ending Session ρ
  | done result,session => ⟨[],[],session,.ok result⟩
  | raise failure,session => ⟨[],[],session,.error failure⟩
  | perform command next,session =>
    (command.run session).andThen fun answer session => (next answer).run session
  | block naming body next,session =>
    ((body.run (session.enter naming.flags)).carry Session.leave).andThen fun result session =>
      (next result).run session
  | attempt body handler next,session =>
    ((body.run session).handle fun failure session => (handler failure).run session).andThen
      fun result session => (next result).run session

/-- Runs on a store, under the flags of the innermost block around the program in its text. -/
def under : Program ρ → Flags → Store → Ending Store ρ
  | done result,_,store => ⟨[],[],store,.ok result⟩
  | raise failure,_,store => ⟨[],[],store,.error failure⟩
  | perform command next,flags,store =>
    (command.under flags store).andThen fun answer store => (next answer).under flags store
  | block naming body next,flags,store =>
    (body.under naming.flags store).andThen fun result store => (next result).under flags store
  | attempt body handler next,flags,store =>
    ((body.under flags store).handle fun failure store => (handler failure).under flags store).andThen
      fun result store => (next result).under flags store

/-- A program that outside its own blocks neither asks for the defaults nor builds what starts with
them. -/
def Uses : Program ρ → Prop
  | done _ | raise _ => True
  | perform command next => command.isAmbient = false ∧ ∀ answer, (next answer).Uses
  | block _ _ next => ∀ result, (next result).Uses
  | attempt body handler next =>
    body.Uses ∧ (∀ failure, (handler failure).Uses) ∧ ∀ result, (next result).Uses

end Program

namespace Ending

variable {σ τ ρ π : Type} {first other : Ending σ ρ}

theorem carry_andThen (change : σ → τ) {next : ρ → σ → Ending σ π} {later : ρ → τ → Ending τ π}
    (same : ∀ result state, (next result state).carry change = later result (change state)) :
    (first.andThen next).carry change = (first.carry change).andThen later := by
  rcases first with ⟨events,built,state,failure | result⟩
  · rfl
  · simp only [andThen,carry,← same]

theorem carry_handle (change : σ → τ) {handler : Failure → σ → Ending σ ρ}
    {handling : Failure → τ → Ending τ ρ}
    (same : ∀ failure state, (handler failure state).carry change = handling failure (change state)) :
    (first.handle handler).carry change = (first.carry change).handle handling := by
  rcases first with ⟨events,built,state,failure | result⟩
  · simp only [handle,carry,← same]
  · rfl

theorem mem_built_andThen {next : ρ → σ → Ending σ π} {entry : Flags × StoredNode}
    (member : entry ∈ (first.andThen next).built) :
    entry ∈ first.built ∨ ∃ result state, entry ∈ (next result state).built := by
  rcases first with ⟨events,built,state,failure | result⟩
  · exact .inl member
  · exact (List.mem_append.mp member).imp_right fun later => ⟨result,state,later⟩

theorem mem_built_handle {handler : Failure → σ → Ending σ ρ} {entry : Flags × StoredNode}
    (member : entry ∈ (first.handle handler).built) :
    entry ∈ first.built ∨ ∃ failure state, entry ∈ (handler failure state).built := by
  rcases first with ⟨events,built,state,failure | result⟩
  · exact (List.mem_append.mp member).imp_right fun later => ⟨failure,state,later⟩
  · exact .inl member

/-- Endings that agree in all but the defaults that they tell of. -/
structure Alike (first other : Ending σ ρ) : Prop where
  events : first.events = other.events
  state : first.state = other.state
  outcome : first.outcome = other.outcome

theorem alike_self (ending : Ending σ ρ) : ending.Alike ending := ⟨rfl,rfl,rfl⟩

theorem Alike.andThen (alike : first.Alike other) {next later : ρ → σ → Ending σ π}
    (same : ∀ result state, (next result state).Alike (later result state)) :
    (first.andThen next).Alike (other.andThen later) := by
  rcases first with ⟨events,built,state,failure | result⟩ <;> rcases other with ⟨_,_,_,_⟩ <;>
    obtain ⟨rfl,rfl,rfl⟩ := alike
  · exact ⟨rfl,rfl,rfl⟩
  · obtain ⟨recorded,left,ended⟩ := same result state
    exact ⟨congrArg (events ++ ·) recorded,left,ended⟩

theorem Alike.handle (alike : first.Alike other) {handler handling : Failure → σ → Ending σ ρ}
    (same : ∀ failure state, (handler failure state).Alike (handling failure state)) :
    (first.handle handler).Alike (other.handle handling) := by
  rcases first with ⟨events,built,state,failure | result⟩ <;> rcases other with ⟨_,_,_,_⟩ <;>
    obtain ⟨rfl,rfl,rfl⟩ := alike
  · obtain ⟨recorded,left,ended⟩ := same failure state
    exact ⟨congrArg (events ++ ·) recorded,left,ended⟩
  · exact ⟨rfl,rfl,rfl⟩

end Ending

/-- Whatever is in force where an object is extended shows nowhere in the extension. -/
theorem Node.extend_ambient {σ α : Type} (ambient other : Flags) (owner : Node σ α)
    (fields : Fields α) : extend ambient owner fields = extend other owner fields := by
  rcases owner with ⟨config,form⟩
  cases form with
  | object owned flags =>
    cases fields with
    | other value => rfl
    | mapping entries => rw [extend_mapping,extend_mapping]
  | _ => cases fields <;> rfl

namespace Session

variable (store : Store) (scopes others : Scopes)

theorem build_scopes (made : Except BuildError StoredNode) :
    build ⟨store,scopes⟩ made =
      (build ⟨store,others⟩ made).map fun built => (⟨built.1.store,scopes⟩,built.2) := by
  cases made <;> rfl

theorem call_scopes (ref : Ref) (request : Call) :
    call ⟨store,scopes⟩ ref request =
      (call ⟨store,others⟩ ref request).map fun done => (⟨done.1.store,scopes⟩,done.2) := by
  cases request with
  | optional | nullable | transform => exact build_scopes store scopes others _
  | configure setting =>
    rcases found : store.node? ref with _ | node
    · simp [call,found,Except.map]
    · simp only [call,found]
      rcases node.configure setting with error | changed <;> rfl
  | extend fields =>
    rcases found : store.node? ref with _ | owner
    · simp [call,found,Except.map]
    · simp only [call,found]
      rw [Node.extend_ambient (flags ⟨store,scopes⟩) (flags ⟨store,others⟩)]
      exact build_scopes store scopes others _

end Session

namespace Command

/-- Of the open blocks a command sees the innermost one, and it closes none. -/
theorem run_eq (command : Command) (session : Session) :
    command.run session =
      (command.under session.flags session.store).carry (⟨·,session.scopes⟩) := by
  rcases session with ⟨store,scopes⟩
  cases command with
  | construct construction =>
    have innermost : Scopes.current [scopes.current] = scopes.current := rfl
    simp only [under,run,Session.flags,innermost]
    rcases construction.node scopes.current with error | node
    · rfl
    · rfl
  | call ref request =>
    have same := Session.call_scopes store scopes [scopes.current] ref request
    simp only [under,run,Session.flags]
    rw [same]
    rcases Session.call ⟨store,[scopes.current]⟩ ref request with _ | _
    · rfl
    · rfl
  | _ => rfl

end Command

namespace Program

variable {ρ : Type}

/-- Running keeps the blocks as they are, and does what the text says. -/
theorem run_eq (program : Program ρ) (session : Session) :
    program.run session =
      (program.under session.flags session.store).carry (⟨·,session.scopes⟩) := by
  -- A body keeps the blocks that it finds open, so that leaving closes the one that was entered.
  induction program generalizing session with
  | done | raise => rfl
  | perform command next ih =>
    rw [run,under,command.run_eq]
    exact (Ending.carry_andThen _ fun answer store =>
      (ih answer ⟨store,session.scopes⟩).symm).symm
  | block naming body next ih further =>
    have left : (body.run (session.enter naming.flags)).carry Session.leave =
        (body.under naming.flags session.store).carry (⟨·,session.scopes⟩) := by
      rw [ih]
      rfl
    rw [run,under,left]
    exact (Ending.carry_andThen _ fun result store =>
      (further result ⟨store,session.scopes⟩).symm).symm
  | attempt body handler next ih handled further =>
    have caught : (((body.under session.flags session.store).carry (⟨·,session.scopes⟩)).handle
        fun failure session => (handler failure).run session) =
        ((body.under session.flags session.store).handle fun failure store =>
          (handler failure).under session.flags store).carry (⟨·,session.scopes⟩) :=
      (Ending.carry_handle _ fun failure store =>
        (handled failure ⟨store,session.scopes⟩).symm).symm
    rw [run,under,ih,caught]
    exact (Ending.carry_andThen _ fun result store =>
      (further result ⟨store,session.scopes⟩).symm).symm

end Program

def Node.Starts {σ α : Type} (flags : Flags) (node : Node σ α) : Prop :=
  match node.form with
  | .array _ _ immediate => immediate = flags.immediate
  | .object _ given => given = flags
  | _ => True

namespace Construction

variable {construction : Construction} {flags : Flags} {node : StoredNode}

theorem starts (made : construction.node flags = .ok node) : node.Starts flags := by
  cases construction with
  | array element message =>
    cases element <;> cases made
    rfl
  | object fields message =>
    cases fields with
    | other value => cases made
    | mapping entries =>
      rcases checked : Node.checkFields entries with error | fields
      · simp [Construction.node,Node.object,checked,bind,Except.bind] at made
      · simp only [Construction.node,Node.object,checked,bind,Except.bind] at made
        cases made
        rfl
  | string | number | bigint | boolean | unknown | any =>
    cases made
    trivial
  | optional inner | nullable inner =>
    cases inner <;> cases made
    trivial
  | literal values message =>
    simp only [Construction.node,Node.literal] at made
    split at made
    · cases made
    · cases made
    · split at made <;> cases made
      trivial
  | union options message =>
    simp only [Construction.node,Node.union] at made
    split at made
    · cases made
    · rcases checked : Node.checkOptions options with error | children
      · simp [checked,bind,Except.bind] at made
      · simp only [checked,bind,Except.bind] at made
        cases made
        trivial
  | transform inner function =>
    cases inner with
    | other value => cases made
    | schema child =>
      simp only [Construction.node,Node.transform,Part.check,bind,Except.bind] at made
      split at made <;> cases made
      trivial

theorem node_of_free (free : construction.isContainer = false) (flags other : Flags) :
    construction.node flags = construction.node other := by
  cases construction with
  | array | object => cases free
  | _ => rfl

end Construction

namespace Command

variable {command : Command} {flags : Flags} {store : Store}

theorem under_construct (construction : Construction) (flags : Flags) (store : Store) :
    under flags store (.construct construction) =
      match construction.node flags with
      | .error error => ⟨[],[],store,.error (.build error)⟩
      | .ok node =>
        ⟨[],[(flags,node)],(store.push node).1,.ok (.schema store.nodes.size)⟩ := by
  have innermost : Session.flags ⟨store,[flags]⟩ = flags := rfl
  simp only [under,run,innermost]
  rcases construction.node flags with error | node
  · rfl
  · have added : (store.push node).1.node store.nodes.size = node := by simp [Store.node_push]
    have built : Session.build ⟨store,[flags]⟩ (.ok node) =
        .ok (⟨(store.push node).1,[flags]⟩,store.nodes.size) := rfl
    simp only [built,added,Ending.carry]

theorem starts {entry : Flags × StoredNode} (member : entry ∈ (command.under flags store).built) :
    entry.2.Starts entry.1 := by
  cases command with
  | construct construction =>
    rw [under_construct] at member
    rcases made : construction.node flags with error | node
    · simp [made] at member
    · simp only [made,List.mem_singleton] at member
      rw [member]
      exact construction.starts made
  | call ref request =>
    have none : (Command.under flags store (.call ref request)).built = [] := by
      simp only [under,run,Ending.carry]
      split <;> rfl
    simp [none] at member
  | _ => cases member

theorem under_alike (free : command.isAmbient = false) (flags other : Flags) (store : Store) :
    (command.under flags store).Alike (command.under other store) := by
  cases command with
  | defaults => cases free
  | construct construction =>
    rw [under_construct,under_construct,Construction.node_of_free free flags other]
    rcases construction.node other with error | node
    · exact Ending.alike_self _
    · exact ⟨rfl,rfl,rfl⟩
  | call ref request =>
    have same := Session.call_scopes store [flags] [other] ref request
    simp only [under,run]
    rw [same]
    rcases Session.call ⟨store,[other]⟩ ref request with error | done
    · exact Ending.alike_self _
    · exact Ending.alike_self _
  | _ => exact ⟨rfl,rfl,rfl⟩

end Command

namespace Program

variable {ρ : Type} {program : Program ρ} {flags : Flags} {store : Store}

theorem starts {entry : Flags × StoredNode} (member : entry ∈ (program.under flags store).built) :
    entry.2.Starts entry.1 := by
  induction program generalizing flags store with
  | done | raise => cases member
  | perform command next ih =>
    rcases Ending.mem_built_andThen member with here | ⟨answer,_,later⟩
    · exact Command.starts here
    · exact ih answer later
  | block naming body next ih further =>
    rcases Ending.mem_built_andThen member with inside | ⟨result,_,later⟩
    · exact ih inside
    · exact further result later
  | attempt body handler next ih handled further =>
    rcases Ending.mem_built_andThen member with inside | ⟨result,_,later⟩
    · rcases Ending.mem_built_handle inside with tried | ⟨failure,_,caught⟩
      · exact ih tried
      · exact handled failure caught
    · exact further result later

theorem under_alike (uses : program.Uses) (flags other : Flags) (store : Store) :
    (program.under flags store).Alike (program.under other store) := by
  induction program generalizing store with
  | done | raise => exact ⟨rfl,rfl,rfl⟩
  | perform command next ih =>
    obtain ⟨free,uses⟩ := uses
    exact (Command.under_alike free flags other store).andThen fun answer store =>
      ih answer (uses answer) store
  | block naming body next ih further =>
    -- The body sees the flags of its own block alone.
    exact (Ending.alike_self _).andThen fun result store => further result (uses result) store
  | attempt body handler next ih handled further =>
    obtain ⟨tries,handles,uses⟩ := uses
    exact ((ih tries store).handle fun failure store =>
      handled failure (handles failure) store).andThen fun result store =>
        further result (uses result) store

/-- Defaults are scoped by the text. A program leaves the open blocks as they were, and so does a block
around it, whichever way the program ends. It does what its text says, where the body of a block is
under the flags of that block alone, and every flag that the block does not name is off. Every
container that a constructor builds starts with the flags in force. And a program that outside its own
blocks only uses schemas parses, records, builds and ends in the same way whatever blocks are open. -/
theorem run_scoped (program : Program ρ) (session : Session) :
    (program.run session).state.scopes = session.scopes ∧
    (∀ naming : Naming, ((program.run (session.enter naming.flags)).carry Session.leave).state.scopes =
        session.scopes ∧
      (naming.immediate = none → naming.flags.immediate = false) ∧
      (naming.strict = none → naming.flags.strict = false) ∧
      (naming.pathed = none → naming.flags.pathed = false)) ∧
    program.run session =
      (program.under session.flags session.store).carry (fun store => ⟨store,session.scopes⟩) ∧
    (∀ entry ∈ (program.run session).built, entry.2.Starts entry.1) ∧
    (program.Uses → ∀ scopes : Scopes,
      let elsewhere := program.run ⟨session.store,scopes⟩
      (program.run session).events = elsewhere.events ∧
      (program.run session).state.store = elsewhere.state.store ∧
      (program.run session).outcome = elsewhere.outcome) := by
  refine ⟨?_,?_,run_eq program session,?_,?_⟩
  · rw [run_eq]
    rfl
  · intro naming
    refine ⟨?_,?_,?_,?_⟩
    · rw [run_eq]
      rfl
    all_goals
      intro unnamed
      simp [Naming.flags,unnamed]
  · intro entry member
    rw [run_eq] at member
    exact starts member
  · intro uses scopes elsewhere
    obtain ⟨recorded,left,ended⟩ :=
      under_alike uses session.flags (Session.flags ⟨session.store,scopes⟩) session.store
    have other : elsewhere = _ := run_eq program ⟨session.store,scopes⟩
    rw [run_eq,other]
    exact ⟨recorded,left,ended⟩

/-- A block inside a block is left by an exception; what is built in it, what is built after it and
what is read after both show their flags, and what was built parses alike outside and in a block. -/
theorem run_scoped_nested :
    let row : Command := .construct (.object (.mapping []) .null)
    let inner : Program Answer := .block ⟨none,none,some true⟩
      (.perform row fun _ => .raise (.fault (.error .value "stop"))) .done
    let outer : Program Answer := .block ⟨none,some true,none⟩
      (.attempt inner (fun _ => .perform row .done) .done) fun _ => .perform .defaults .done
    let parse : Program Answer := .perform (.safeParse 1 (.dict (.given 0) [(.str "x",.null)])) .done
    let session := (outer.run Session.empty).state
    (outer.run Session.empty).outcome = .ok (.flags .off) ∧ session.scopes = [] ∧
      (outer.run Session.empty).built.map (·.1) = [⟨false,false,true⟩,⟨false,true,false⟩] ∧
      (∀ entry ∈ (outer.run Session.empty).built, entry.2.Starts entry.1) ∧
      (parse.run session).outcome = .ok (.outcome (.ok (.dict (.made 0) []))) ∧
      (parse.run session).outcome = (parse.run (session.enter ⟨true,false,true⟩)).outcome := by
  intro row inner outer parse session
  obtain ⟨left,_,_,starts,_⟩ := run_scoped outer Session.empty
  have uses : parse.Uses := ⟨rfl,fun _ => trivial⟩
  obtain ⟨_,_,_,_,alike⟩ := run_scoped parse session
  obtain ⟨_,_,same⟩ := alike uses (session.scopes.enter ⟨true,false,true⟩)
  exact ⟨rfl,left,rfl,starts,rfl,same⟩

end Program
end Schemata
