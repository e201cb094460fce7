import Schemata.Defaults
import Schemata.Node.Building
import Schemata.Node.Setting
import Schemata.Store

/-!
Sessions: a store of schemas together with the construction defaults in force. Building
adds a node; a call on a schema either changes its node or builds a new one from it. What
fails leaves the session as it was.
-/
namespace Schemata

structure Session where
  store : Store
  scopes : Scopes

inductive Call where
  | configure (setting : Setting (Callback Ref))
  | optional
  | nullable
  | transform (function : Callback Ref)
  | extend (fields : Fields Ref)

namespace Session

def empty : Session := ⟨Store.empty,[]⟩

def flags (session : Session) : Flags := session.scopes.current

def enter (session : Session) (flags : Flags) : Session :=
  { session with scopes := session.scopes.enter flags }

def leave (session : Session) : Session := { session with scopes := session.scopes.leave }

def build (session : Session) (made : Except BuildError StoredNode) :
    Except BuildError (Session × Ref) := do
  let (store,ref) := session.store.push (← made)
  return ({ session with store },ref)

/-- The session after a call, and the schema that the call returns. -/
def call (session : Session) (ref : Ref) (call : Call) : Except BuildError (Session × Ref) :=
  match call,session.store.node? ref with
  | .configure setting,some node => do
    return ({ session with store := session.store.replace ref (← node.configure setting) },ref)
  | .extend fields,some node => session.build (node.extend session.flags fields)
  | .optional,_ => session.build (Node.optional (.schema ref))
  | .nullable,_ => session.build (Node.nullable (.schema ref))
  | .transform function,_ =>
    session.build (Node.transform Callback.callable (.schema ref) function)
  | .configure setting,none => .error (.unavailable "NoneType" setting.name)
  | .extend _,none => .error (.unavailable "NoneType" "extend")

def parser (session : Session) (ref : Ref) : Parser := session.store.parser ref

end Session
end Schemata
