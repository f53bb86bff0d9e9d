import StateExpr.Function.Arguments
import StateExpr.Url.Parser
/-!
# Parts of addresses

Functions of absolute addresses.
-/

namespace StateExpr.Uri

/-- A part of the address that an argument is. -/
def part (f : Url → String) (args : List Value) : Except String Value :=
  let text := (argument args 0).textOrEmpty
  match Url.parse? text with
  | some url => .ok (.text (f url))
  | none => .error (text ++ " must be an absolute URI")

end StateExpr.Uri
