import Schemata.Proofs.Calls

/-!
An object and its extension. The extension starts with the stages and the flags of its owner and goes
its own way from there: what is called on the one shows nowhere in the other, unless the other reaches
the one. Children are shared, and a change to a child shows through both.
-/
namespace Schemata

namespace Session

variable {session extended : Session} {owner extension : Ref} {fields : Fields Ref}

end Session
end Schemata
