import Schemata.Proofs.Bounds
import Schemata.Proofs.Calls

/-!
What a node is after any settings. Each slot holds what the last successful setting of it gives,
the refinements and the checks are those that were added, in order, and a setting that fails is as
if it had not been made. So in which order different slots are set does not matter, nor what was
overwritten, for a node as for a schema that a session stores.
-/
namespace Schemata

namespace Setting

variable {σ : Type}

def limit? (side : Side) : Setting σ → Option (Limit Value)
  | least bound message => if side = .min then some ⟨bound,message⟩ else none
  | greatest bound message => if side = .max then some ⟨bound,message⟩ else none
  | _ => none

def whole? : Setting σ → Option Value
  | whole message => some message
  | _ => none

def immediate? : Setting σ → Option Bool
  | immediate enabled => some enabled
  | _ => none

def strict? : Setting σ → Option Bool
  | strict enabled => some enabled
  | _ => none

def pathed? : Setting σ → Option Bool
  | pathed enabled => some enabled
  | _ => none

/-- The same refinements in the same order, the same checks in the same order, and for every slot
the same last setting. -/
structure Agree (first second : List (Setting σ)) : Prop where
  refines : first.filterMap refinement? = second.filterMap refinement?
  checks : first.filterMap check? = second.filterMap check?
  limits : ∀ side, latest (limit? side) first = latest (limit? side) second
  whole : latest whole? first = latest whole? second
  required : latest required? first = latest required? second
  immediate : latest immediate? first = latest immediate? second
  strict : latest strict? first = latest strict? second
  pathed : latest pathed? first = latest pathed? second

end Setting

section Written

variable {σ α β : Type}

def Limit.decoded (decode : Value → Option β) (limit : Limit Value) : Option (Limit β) :=
  (decode limit.bound).map fun bound => ⟨bound,limit.message⟩

def Value.integral? : Value → Option Int
  | .int i => some i
  | _ => none

/-- The limits with the last settings of each side written into them. -/
def Limits.written (decode : Value → Option β) (settings : List (Setting σ)) (limits : Limits β) :
    Limits β :=
  let last (side : Side) :=
    (Setting.latest (Setting.limit? side) settings).bind (Limit.decoded decode)
  ⟨(last .min).or limits.least,(last .max).or limits.greatest⟩

def Flags.written (settings : List (Setting σ)) (flags : Flags) : Flags :=
  ⟨(Setting.latest Setting.immediate? settings).getD flags.immediate,
    (Setting.latest Setting.strict? settings).getD flags.strict,
    (Setting.latest Setting.pathed? settings).getD flags.pathed⟩

def Form.written (settings : List (Setting σ)) : Form σ α → Form σ α
  | string limits => string (limits.written Value.size? settings)
  | number whole limits =>
    number ((Setting.latest Setting.whole? settings).or whole)
      (limits.written Value.number? settings)
  | bigint limits => bigint (limits.written Value.integral? settings)
  | array element limits immediate =>
    array element (limits.written Value.size? settings)
      ((Setting.latest Setting.immediate? settings).getD immediate)
  | object fields flags => object fields (flags.written settings)
  | form => form

def Config.written (settings : List (Setting σ)) (config : Config σ) : Config σ :=
  ⟨config.message,(Setting.latest Setting.required? settings).getD config.required,
    config.refines ++ settings.filterMap Setting.refinement?,
    config.checks ++ settings.filterMap Setting.check?⟩

/-- The node with the last setting of each slot written into it, and the stages appended. -/
def Node.written (settings : List (Setting σ)) (node : Node σ α) : Node σ α :=
  ⟨node.config.written settings,node.form.written settings⟩

end Written

namespace Node

variable {σ α : Type} {node built : Node σ α}

/-- The node after a setting, which one that fails leaves as it was. -/
def settle (node : Node σ α) (setting : Setting σ) : Node σ α :=
  match node.configure setting with
  | .ok changed => changed
  | .error _ => node

def settled (node : Node σ α) (settings : List (Setting σ)) : Node σ α :=
  settings.foldl settle node

/-- The settings that succeed when all are made in turn. -/
def taken : Node σ α → List (Setting σ) → List (Setting σ)
  | _,[] => []
  | node,setting :: rest => match node.configure setting with
    | .ok changed => setting :: changed.taken rest
    | .error _ => node.taken rest

end Node

section Steps

variable {σ α β : Type} {settings : List (Setting σ)} {setting : Setting σ}

def Setting.bounding (side : Side) (bound message : Value) : Setting σ :=
  match side with
  | .min => least bound message
  | .max => greatest bound message

/-- The setting writes nothing into the form of a node. -/
structure Setting.Plain (setting : Setting σ) : Prop where
  limits : ∀ side, setting.limit? side = Option.none
  whole : setting.whole? = none
  immediate : setting.immediate? = none
  strict : setting.strict? = none
  pathed : setting.pathed? = none

theorem Limits.written_set {decode : Value → Option β} {bound message : Value} {decoded : β}
    (given : decode bound = some decoded) (limits : Limits β) (side : Side) :
    (limits.written decode settings).set ⟨decoded,message⟩ side =
      limits.written decode (settings ++ [Setting.bounding side bound message]) := by
  cases side <;>
    simp [written,set,Setting.latest_concat,Setting.bounding,Setting.limit?,Limit.decoded,given]

theorem Limits.written_concat (other : ∀ side, setting.limit? side = Option.none)
    (decode : Value → Option β) (limits : Limits β) :
    limits.written decode (settings ++ [setting]) = limits.written decode settings := by
  simp only [written,Setting.latest_concat,other,Option.none_or]

theorem Form.written_plain (plain : setting.Plain) (form : Form σ α) :
    form.written (settings ++ [setting]) = form.written settings := by
  cases form <;>
    simp only [written,Flags.written,Limits.written_concat plain.limits,Setting.latest_concat,
      plain.whole,plain.immediate,plain.strict,plain.pathed,Option.none_or]

theorem Form.written_bounded {form changed : Form σ α} {side : Side} {bound message : Value}
    (done : (form.written settings).bounded side bound message = .ok changed) :
    changed = form.written (settings ++ [Setting.bounding side bound message]) := by
  have unswitched : Setting.immediate? (Setting.bounding side bound message : Setting σ) = none ∧
      Setting.whole? (Setting.bounding side bound message : Setting σ) = none := by
    cases side <;> exact ⟨rfl,rfl⟩
  cases form with
  | string limits =>
    simp only [written,bounded] at done
    split at done <;> cases done
    rename_i n given
    rw [Limits.written_set given,written]
  | number whole limits =>
    simp only [written,bounded] at done
    split at done <;> cases done
    rename_i n given
    rw [Limits.written_set given,written,Setting.latest_concat,unswitched.2,Option.none_or]
  | bigint limits =>
    simp only [written,bounded] at done
    split at done <;> cases done
    rename_i i
    have given : Value.integral? (.int i) = some i := rfl
    rw [Limits.written_set given,written]
  | array element limits immediate =>
    simp only [written,bounded] at done
    split at done <;> cases done
    rename_i n given
    rw [Limits.written_set given,written,Setting.latest_concat,unswitched.1,Option.none_or]
  | _ => cases done

end Steps

namespace Node

variable {σ α : Type} {node built : Node σ α} {setting : Setting σ} {settings : List (Setting σ)}

theorem written_nil (node : Node σ α) : node.written [] = node := by
  rcases node with ⟨config,form⟩
  cases form <;>
    simp [written,Config.written,Form.written,Flags.written,Limits.written,Setting.latest]

theorem configure_written_config
    (configured : (node.written settings).configure setting = .ok built) :
    built.config = node.config.written (settings ++ [setting]) := by
  rw [configure_config configured]
  rcases given : setting.required? with _ | message <;>
    simp [written,Config.written,Setting.latest_concat,given,List.filterMap_eq_flatMap_toList]

theorem configure_written_form
    (configured : (node.written settings).configure setting = .ok built) :
    built.form = node.form.written (settings ++ [setting]) := by
  rcases node with ⟨config,form⟩
  cases setting with
  | least bound message | greatest bound message =>
    exact Form.written_bounded (bounded_ok configured).2
  | required message =>
    have plain : (Setting.required message : Setting σ).Plain := by constructor <;> intros <;> rfl
    simp only [configure] at configured
    split at configured <;> cases configured
    exact (Form.written_plain plain form).symm
  | refine stage | check stage message =>
    cases configured
    refine (Form.written_plain ?_ form).symm
    constructor <;> intros <;> rfl
  | whole message | immediate enabled | strict enabled | pathed enabled =>
    cases form <;> cases configured <;>
      simp [Form.written,Flags.written,Limits.written,Setting.latest_concat,Setting.limit?,
        Setting.whole?,Setting.immediate?,Setting.strict?,Setting.pathed?]

/-- One more setting that succeeds is one more setting written. -/
theorem configure_written (configured : (node.written settings).configure setting = .ok built) :
    built = node.written (settings ++ [setting]) := by
  rcases built with ⟨config,form⟩
  rw [written,← configure_written_config configured,← configure_written_form configured]

theorem settled_written (node : Node σ α) (before settings : List (Setting σ)) :
    (node.written before).settled settings =
      node.written (before ++ (node.written before).taken settings) := by
  -- A node that was set before is still a node with settings written into it.
  induction settings generalizing before with
  | nil => rw [taken,List.append_nil,settled,List.foldl_nil]
  | cons setting rest ih =>
    rw [settled,List.foldl_cons,← settled,taken,settle]
    rcases configured : (node.written before).configure setting with error | built
    · exact ih before
    · obtain rfl := configure_written configured
      simp only [ih,List.append_assoc,List.singleton_append]

/-- After any settings a node has the last of each slot that succeeded written into it. -/
theorem settled_eq_written (node : Node σ α) (settings : List (Setting σ)) :
    node.settled settings = node.written (node.taken settings) := by
  simpa [written_nil] using settled_written node [] settings

theorem written_congr {first second : List (Setting σ)} (agree : Setting.Agree first second)
    (node : Node σ α) : node.written first = node.written second := by
  rcases node with ⟨config,form⟩
  cases form <;>
    simp only [written,Config.written,Form.written,Flags.written,Limits.written,agree.refines,
      agree.checks,agree.limits,agree.whole,agree.required,agree.immediate,agree.strict,
      agree.pathed]

theorem settled_congr {first second : List (Setting σ)}
    (agree : Setting.Agree (node.taken first) (node.taken second)) :
    node.settled first = node.settled second := by
  rw [settled_eq_written,settled_eq_written,written_congr agree]

end Node

namespace Store

theorem replace_self {store : Store} {ref : Ref} {node : StoredNode}
    (found : store.node? ref = some node) : store.replace ref node = store := by
  obtain ⟨bound,same⟩ := Array.getElem?_eq_some_iff.mp found
  simp [replace,← same,Array.setIfInBounds,bound]

theorem replace_replace (store : Store) (ref : Ref) (first second : StoredNode) :
    (store.replace ref first).replace ref second = store.replace ref second := by
  simp [replace]

end Store

namespace Session

variable {session : Session} {ref : Ref} {node : StoredNode}

theorem attempt_configure (found : session.store.node? ref = some node)
    (setting : Setting (Callback Ref)) : session.attempt ref (.configure setting) =
      { session with store := session.store.replace ref (node.settle setting) } := by
  rcases configured : node.configure setting with error | changed
  · have failed : session.call ref (.configure setting) = .error error := by
      simp [Session.call,found,configured,bind,Except.bind]
    rw [attempt_of_error failed,Node.settle,configured,Store.replace_self found]
  · have done : session.call ref (.configure setting) =
        .ok ({ session with store := session.store.replace ref changed },ref) := by
      simp [Session.call,found,configured,bind,Except.bind,pure,Except.pure]
    rw [attempt_of_ok done,Node.settle,configured]

/-- Settings of a stored schema settle its node, and those that fail do nothing. -/
theorem after_settings (found : session.store.node? ref = some node)
    (settings : List (Setting (Callback Ref))) :
    session.after (settings.map fun setting => (ref,.configure setting)) =
      { session with store := session.store.replace ref (node.settled settings) } := by
  induction settings generalizing session node with
  | nil =>
    rw [Node.settled,List.foldl_nil,Store.replace_self found]
    rfl
  | cons setting rest ih =>
    have settled := Store.node_replace_self session.store (node.settle setting) found
    rw [List.map_cons,after,List.foldl_cons,← after,attempt_configure found,ih settled,
      Store.replace_replace]
    rfl

/-- Settings of a stored schema that agree leave the same session, and so every schema in it reads
alike. -/
theorem after_settings_congr (found : session.store.node? ref = some node)
    {first second : List (Setting (Callback Ref))}
    (agree : Setting.Agree (node.taken first) (node.taken second)) :
    session.after (first.map fun setting => (ref,.configure setting)) =
      session.after (second.map fun setting => (ref,.configure setting)) := by
  rw [after_settings found,after_settings found,Node.settled_congr agree]

end Session

namespace Schema

/-- Settings that agree for each slot in the last one that succeeds, and that add the same
refinements and the same checks in the same orders, make the same schema of a node: every value
is read with the same record to the same end. -/
theorem safe_parse_order_free (node : Node Stage Schema) (first second : List (Setting Stage))
    (agree : Setting.Agree (node.taken first) (node.taken second)) (value : Value) :
    (Schema.node (node.settled first)).safeParse value =
      (Schema.node (node.settled second)).safeParse value := by
  rw [Node.settled_congr agree]

/-- A lower bound is overwritten, another is no number, and numbers are not strict. Whichever bound
was set first, a value that is too small and too big is found too small. -/
theorem safe_parse_order_free_bounds :
    let refine : Setting Stage := .refine (.function none fun _ value _ => return .ok value)
    let check : Setting Stage := .check (.function none fun _ _ _ => return .bool true) .null
    let small : Setting Stage := .least (.int 5) (.str "small")
    let big : Setting Stage := .greatest (.int 3) (.str "big")
    let node : Node Stage Schema := Node.number .null
    let first := [.least (.int 9) .null,refine,.strict true,small,.whole .null,check,big]
    let second := [big,check,small,.least (.str "7") .null,.whole .null,refine]
    let read (settings : List (Setting Stage)) := (Schema.node (node.settled settings)).safeParse
    read first (.int 4) = read second (.int 4) ∧
      (read first (.int 4)).outcome = .ok (.error (.leaf .number "small" none)) := by
  intro refine check small big node first second read
  have agree : Setting.Agree (node.taken first) (node.taken second) := by
    constructor
    case limits =>
      intro side
      cases side <;> rfl
    all_goals rfl
  exact ⟨safe_parse_order_free node first second agree (.int 4),rfl⟩

end Schema
end Schemata
