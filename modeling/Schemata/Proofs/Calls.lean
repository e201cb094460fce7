import Schemata.Proofs.Extension
import Schemata.Proofs.Pipeline
import Schemata.Proofs.Sharing
import Schemata.Session

/-!
What a call does to a session. It changes the node that it is made on or adds a new one, and leaves
every other node as it was; what fails changes nothing. So after any calls the node of a schema is
what the calls on itself made of it, and a store that is closed stays closed as long as the calls are
made on schemas that are there, and given such schemas.
-/
namespace Schemata

section Arguments

variable {σ α : Type}

def Setting.functions (setting : Setting σ) : List σ :=
  setting.refinement?.toList ++ (setting.check?.map (·.1)).toList

def Part.names : Part α → List α
  | .schema child => [child]
  | .other _ => []

def Fields.names : Fields α → List α
  | .mapping entries => entries.flatMap fun entry => entry.2.names
  | .other _ => []

/-- The schemas that a call is given. -/
def Call.names : Call → List Ref
  | .configure setting => setting.functions.flatMap Callback.names
  | .transform function => function.names
  | .extend fields => fields.names
  | .optional | .nullable => []

end Arguments

namespace Node

variable {σ α : Type} {node changed built : Node σ α} {form changing : Form σ α}

theorem extend_parts {ambient : Flags} {owner : Node σ α} {fields : Fields α}
    (extended : extend ambient owner fields = .ok built) :
    (∀ child ∈ built.form.children, child ∈ owner.form.children ∨ child ∈ fields.names) ∧
      built.functions = owner.functions := by
  rcases owner with ⟨config,form⟩
  cases form with
  | object owned flags =>
    cases fields with
    | other value => cases extended
    | mapping entries =>
      obtain ⟨merged,overlaid,rfl⟩ := extend_ok extended
      refine ⟨?_,rfl⟩
      intro child member
      obtain ⟨field,inside,rfl⟩ := List.mem_map.mp member
      have entry : (Value.str field.1,Part.schema field.2) ∈
          (Fields.named owned).overlay entries := by
        rw [overlaid]
        exact List.mem_map_of_mem inside
      rcases Table.mem_overlay entry with kept | given
      · obtain ⟨_,before,same⟩ := List.mem_map.mp kept
        obtain ⟨first,held,rfl⟩ := List.mem_map.mp before
        have alike : first.2 = field.2 := by simpa using same
        rw [← alike]
        exact .inl (List.mem_map_of_mem held)
      · obtain ⟨pair,held,same⟩ := List.mem_map.mp given
        refine .inr (List.mem_flatMap.mpr ⟨pair,held,?_⟩)
        simp [same,Part.names]
  | _ => cases fields <;> cases extended

end Node

namespace Store

variable {store : Store} {ref other : Ref} {node new : StoredNode}

theorem node_of_some (found : store.node? ref = some node) : store.node ref = node := by
  simp [Store.node,found]

theorem size_push (store : Store) (new : StoredNode) :
    (store.push new).1.nodes.size = store.nodes.size + 1 := Array.size_push new

theorem size_replace (store : Store) (ref : Ref) (new : StoredNode) :
    (store.replace ref new).nodes.size = store.nodes.size := Array.size_setIfInBounds

theorem node_push_of_lt (there : ref < store.nodes.size) (new : StoredNode) :
    (store.push new).1.node ref = store.node ref := by
  have found : store.node? ref = some store.nodes[ref] := Array.getElem?_eq_getElem there
  rw [node_of_some (node_push_of_some new found),node_of_some found]

theorem node_push (store : Store) (new : StoredNode) (ref : Ref) :
    (store.push new).1.node ref = if ref = store.nodes.size then new else store.node ref := by
  split
  case isTrue last =>
    rw [last]
    exact node_of_some (node_push_self store new)
  case isFalse differs =>
    by_cases there : ref < store.nodes.size
    · exact node_push_of_lt there new
    · have beyond : store.nodes.size < ref :=
        Nat.lt_of_le_of_ne (Nat.le_of_not_lt there) (Ne.symm differs)
      rw [node_of_le (Nat.le_of_lt beyond),node_of_le]
      rw [size_push]
      exact beyond

theorem node_replace (found : store.node? ref = some node) (new : StoredNode) (other : Ref) :
    (store.replace ref new).node other = if other = ref then new else store.node other := by
  split
  case isTrue same =>
    rw [same]
    exact node_of_some (node_replace_self store new found)
  case isFalse differs => rw [Store.node,node_replace_of_ne store new differs,Store.node]

theorem Closed.push (closed : store.Closed)
    (older : ∀ child ∈ new.form.children, child < store.nodes.size)
    (named : ∀ function ∈ new.functions, ∀ name ∈ function.names, name < store.nodes.size) :
    (store.push new).1.Closed := by
  constructor
  · intro ref
    rw [node_push]
    split
    case isTrue last => rwa [last]
    case isFalse => exact closed.older ref
  · intro ref
    rw [node_push,size_push]
    split
    case isTrue => exact fun function member name given =>
      Nat.lt_succ_of_lt (named function member name given)
    case isFalse => exact fun function member name given =>
      Nat.lt_succ_of_lt (closed.named ref function member name given)

theorem Closed.replace (closed : store.Closed) (found : store.node? ref = some node)
    (children : new.form.children = node.form.children)
    (functions : ∀ function ∈ new.functions, function ∈ node.functions ∨
      ∀ name ∈ function.names, name < store.nodes.size) : (store.replace ref new).Closed := by
  have there := node_of_some found
  constructor
  · intro other
    rw [node_replace found]
    split
    case isTrue same =>
      rw [children,same,← there]
      exact closed.older ref
    case isFalse => exact closed.older other
  · intro other
    rw [node_replace found,size_replace]
    split
    case isTrue =>
      intro function member
      rcases functions function member with kept | given
      · rw [← there] at kept
        exact closed.named ref function kept
      · exact given
    case isFalse => exact closed.named other

end Store

namespace Session

inductive Makes (session : Session) (ref : Ref) : Call → StoredNode → Prop
  | optional : Makes session ref .optional ⟨.empty,.optional ref⟩
  | nullable : Makes session ref .nullable ⟨.empty,.nullable ref⟩
  | transform {function : Callback Ref} (callable : function.callable = true) :
      Makes session ref (.transform function) ⟨.empty,.transform ref function⟩
  | extend {fields : Fields Ref} {owner built : StoredNode}
      (found : session.store.node? ref = some owner)
      (extended : owner.extend session.flags fields = .ok built) :
      Makes session ref (.extend fields) built

variable {session next : Session} {ref made : Ref} {call : Call}

theorem Makes.parts {built : StoredNode} (makes : session.Makes ref call built) :
    (∀ child ∈ built.form.children, child = ref ∨ child ∈ (session.store.node ref).form.children ∨
      child ∈ call.names) ∧
    ∀ function ∈ built.functions, function ∈ (session.store.node ref).functions ∨
      ∀ name ∈ function.names, name ∈ call.names := by
  cases makes with
  | optional | nullable =>
    simp [Form.children,Node.functions,Config.empty,Form.function?]
  | transform callable =>
    simp [Form.children,Node.functions,Config.empty,Form.function?,Call.names]
  | extend found extended =>
    obtain ⟨children,functions⟩ := Node.extend_parts extended
    rw [Store.node_of_some found,functions]
    exact ⟨fun child member => .inr (children child member),fun function member => .inl member⟩

end Session

def Call.settle (call : Call) (node : StoredNode) : StoredNode :=
  match call with
  | .configure setting =>
    match node.configure setting with
    | .ok changed => changed
    | .error _ => node
  | _ => node

namespace Session

/-- The session after a call, which one that fails leaves as it was. -/
def attempt (session : Session) (ref : Ref) (call : Call) : Session :=
  match session.call ref call with
  | .ok (next,_) => next
  | .error _ => session

def after (session : Session) (calls : List (Ref × Call)) : Session :=
  calls.foldl (fun session call => session.attempt call.1 call.2) session

variable {session : Session} {ref holder : Ref}

theorem attempt_of_ok {call : Call} {next : Session} {made : Ref}
    (done : session.call ref call = .ok (next,made)) : session.attempt ref call = next := by
  rw [attempt,done]

theorem attempt_of_error {call : Call} {error : BuildError}
    (failed : session.call ref call = .error error) : session.attempt ref call = session := by
  rw [attempt,failed]

end Session
end Schemata
