import StateExpr.Value.Text
import StateExpr.Value.Access
/-!
# Arguments

Functions take a list of arguments and read a missing one as null.
-/

namespace StateExpr

/-- The argument at a position. -/
def argument (args : List Value) (position : Nat) : Value := args.getD position .null

/-- A whole number cut to the range from zero to a length; zero for any other value. -/
def clampedCount (v : Value) (length : Nat) : Nat :=
  match v.integer? with
  | some n => min n.toNat length
  | none => 0

end StateExpr
