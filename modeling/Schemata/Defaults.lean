import Schemata.Schema

/-!
Construction defaults: the flags that new containers start with. Blocks of defaults nest;
the innermost one decides alone, and a flag it does not name is off.
-/
namespace Schemata

/-- The flags of the blocks that are open, the innermost first. -/
abbrev Scopes := List Flags

namespace Scopes

def current (scopes : Scopes) : Flags := scopes.headD Flags.off

def enter (scopes : Scopes) (flags : Flags) : Scopes := flags :: scopes

def leave (scopes : Scopes) : Scopes := scopes.tail

theorem leave_enter (scopes : Scopes) (flags : Flags) : (scopes.enter flags).leave = scopes := rfl

theorem current_enter (scopes : Scopes) (flags : Flags) : (scopes.enter flags).current = flags :=
  rfl

end Scopes
end Schemata
