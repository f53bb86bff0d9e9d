import StateExpr.Calendar.Moment
import StateExpr.Value.Basic
import StateExpr.Zone.Basic
/-!
# Ambient values

Some things that a function may need do not come from its arguments: the present, a source of
chance, the rules of time zones, and which values are one object in memory.  All are given when the
functions are made.

Main definitions: `Ambient`, `Ambient.still` and `Ambient.reading`.
-/

namespace StateExpr

/-- What functions go by beside their arguments. -/
structure Ambient where
  /-- What is taken for the present. -/
  now : Moment
  /-- A number to draw chance from. -/
  entropy : Nat
  /-- The time zones that are known. -/
  zones : ZoneDatabase
  /-- The lists and maps that are one object wherever they are met.  Two that are met may also be
  equal copies of each other; nothing but NaN in them tells the difference. -/
  shared : Value → Bool

namespace Ambient

/-- The first moment of 1970, with no chance, no zones and nothing that is shared. -/
def still : Ambient := ⟨.ofTimestamp 0 0, 0, fun _ => none, fun _ => false⟩

/-- Values are read from a state that was built piece by piece.  What stands in it once is one object
however often it is read; of what stands in it twice, any two that are met are taken for two. -/
def reading (ambient : Ambient) (state : Value) : Ambient :=
  { ambient with shared := state.standsOnce }

end Ambient

end StateExpr
