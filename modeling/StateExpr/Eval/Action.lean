import StateExpr.Value.Access
/-!
# Actions on the state

Evaluating an expression reads and may change one state, and gives a value or an error.  What was
written before an error stays written.
-/

namespace StateExpr

/-- Why an expression has no value. -/
inductive EvalError where
  /-- An argument is not of the kind that is needed. -/
  | argument (message : String)
  /-- A path or an index cannot be followed. -/
  | reference (message : String)
  /-- The operation itself failed. -/
  | failure (message : String)
deriving Repr, DecidableEq

def EvalError.message : EvalError → String
  | argument message => message
  | reference message => message
  | failure message => message

/-- A computation over some kind of state that can fail. -/
abbrev Action (σ : Type) := ExceptT EvalError (StateM σ)

namespace Action

variable {σ α : Type}

/-- The outcome and the state afterwards. -/
def outcome (a : Action σ α) (state : σ) : Except EvalError α × σ := a state

/-- The outcome of an action, error or not, as a value; the state is kept either way. -/
def attempt (a : Action σ α) : Action σ (Except EvalError α) :=
  fun state => match a state with
    | (result, after) => (.ok result, after)

/-- What is there; a message tells that it is not. -/
def present (message : String) : Option α → Action σ α
  | some a => pure a
  | none => throw (.failure message)

/-- A result whose message tells of a failed operation. -/
def orFail : Except String α → Action σ α
  | .ok a => pure a
  | .error message => throw (.failure message)

end Action

end StateExpr
