import StateExpr.Eval.Assign
import StateExpr.Expr.Check
import StateExpr.Expr.Signature
/-!
# Evaluation

The meaning of a node is made from the meanings of its children: what it evaluates to, and which
path of the state it denotes when it stands on the left of an assignment.

What a name stands for is up to the kind of state: a `Scoping` says how names are read, assigned and
bound, and everything else is the same for all of them.  `Scoping.nested` is the one that runs, in
which a scope is itself a value that holds the enclosing state.

A comprehension whose name is still bare is resolved when it is met, and the resolved copy is
evaluated; `evaluateResolved` evaluates trees in which nothing is left to resolve.

Main definitions: `Meaning`, `Scoping`, `Expr.meaning`, `Expr.evaluateResolved` and `Expr.evaluate`.
-/

namespace StateExpr

variable {σ : Type}

/-- An expression with what it does. -/
structure Meaning (σ : Type) where
  expr : Expr
  value : Action σ Value
  /-- The steps from the root of the state to what the expression denotes. -/
  path : Action σ (List PathStep)

/-- How names are read, assigned and bound in a kind of state. -/
structure Scoping (σ : Type) where
  /-- The state as one value. -/
  whole : σ → Value
  /-- The value of a name. -/
  read : String → σ → Value
  /-- Put a value at the end of a path that starts at a name. -/
  assign : List PathStep → Value → Action σ Unit
  /-- Run a body in which a name stands for an item. -/
  within : String → Action σ Value → Value → Action σ Value

namespace Meaning

/-- The values of arguments in order; the first error or failed check ends it. -/
def argumentsFrom (check : Option Check) (position : Nat) :
    List (Meaning σ) → Action σ (List Value)
  | [] => pure []
  | m :: rest => do
    let value ← m.value
    match check.bind fun c => c.fault? value m.expr position with
    | some message => throw (.argument message)
    | none => do
      let values ← argumentsFrom check (position + 1) rest
      pure (value :: values)

/-- The checked values of arguments. -/
def arguments (check : Option Check) (ms : List (Meaning σ)) : Action σ (List Value) :=
  argumentsFrom check 0 ms

end Meaning

/-- Some operands are numbers and others are neither numbers nor null, going by the first. -/
def mixedKinds : List Value → Bool
  | [] => false
  | first :: rest =>
    (first :: rest).any fun v => !v.isNull && v.isNumber != first.isNumber

namespace Scoping

/-- The scope of a body: the enclosing state, and the bound name. -/
def scopeOf (state : Value) (name : String) (item : Value) : Value :=
  .map [(globalName, state), (localName, .map [(name, item)])]

/-- The enclosing state of a scope. -/
def stateOf (scope : Value) : Value :=
  match scope with
  | .map entries => (Entries.get? globalName entries).getD .null
  | _ => .null

/-- A body in the scope of an item; what it writes to the enclosing state stays, error or not. -/
def inScope (name : String) (body : Action Value Value) (item : Value) : Action Value Value :=
  fun state => match body (scopeOf state name item) with
    | (result, scope) => (result, stateOf scope)

/-- Names are properties of the state, and a body runs in a state of its own that holds the
enclosing one. -/
def nested : Scoping Value := ⟨id, fun name state => state.property name, .assign, inScope⟩

end Scoping

namespace Expr

variable (scoping : Scoping σ)

/-- The message that a node cannot be evaluated. -/
def notEvaluated (e : Expr) : String := e.display ++ " could not be evaluated"

/-- A result of reading or writing timestamps. -/
def ofTimestamp {α : Type} (result : Except TimestampFault α) : Action σ α :=
  .orFail (result.mapError TimestampFault.message)

/-- A text of an argument, if there is one and it is a text. -/
def textAt? (args : List Value) (position : Nat) : Option String :=
  args[position]?.bind Value.asText?

/-- An integer of an argument, if there is one and it is an integer. -/
def integerAt? (args : List Value) (position : Nat) : Option Int :=
  args[position]?.bind Value.integer?

/-- A timestamp moved by an amount. -/
def runTimeTransform (e : Expr) (f : Moment → Int → Option Moment) (ms : List (Meaning σ)) :
    Action σ Value := do
  let args ← Meaning.arguments none ms
  match textAt? args 0, args[1]?.bind Value.asNumber? with
  | some timestamp, some amount =>
    let moment ← ofTimestamp (Timestamp.readIso timestamp)
    match f moment (saturateInt64 amount) with
    | none => throw (.failure (notEvaluated e))
    | some shifted =>
      let text ←
      ofTimestamp (Timestamp.writeAs (textAt? args 2) UserFormat.isoPattern (.utc shifted))
      pure (.text text)
  | _, _ => throw (.argument (notEvaluated e))

/-- A moment shifted by some units of time, forward or backward. -/
def shift? (moment : Moment) (unit : TimeUnit) (amount : Int) (forward : Bool) : Option Moment := do
  unit.add moment (← fitInt64 (if forward then amount else -amount))

/-- A shifted moment as a text. -/
def writeShifted (e : Expr) (shifted : Option Moment) (format : Option String) (pattern : String) :
    Action σ Value :=
  match shifted with
  | none => throw (.failure (e.display ++ " is out of the datetime range."))
  | some m => do pure (.text (← ofTimestamp (Timestamp.writeAs format pattern (.utc m))))

/-- A timestamp shifted by an amount of a named unit. -/
def runShiftTime (e : Expr) (forward : Bool) (pattern : String) (ms : List (Meaning σ)) :
    Action σ Value := do
  let args ← Meaning.arguments none ms
  match textAt? args 0, integerAt? args 1, textAt? args 2 with
  | some timestamp, some amount, some unitName =>
    let unit ← ofTimestamp (Timestamp.readUnit unitName)
    let moment ← ofTimestamp (Timestamp.readIso timestamp)
    writeShifted e (shift? moment unit amount forward) (textAt? args 3) pattern
  | _, _, _ => throw (.argument (e.display ++ " can't evaluate."))

/-- The present shifted by an amount of a named unit. -/
def runShiftNow (e : Expr) (now : Moment) (forward : Bool) (ms : List (Meaning σ)) :
    Action σ Value := do
  let args ← Meaning.arguments none ms
  match integerAt? args 0, textAt? args 1 with
  | some amount, some unitName =>
    let unit ← ofTimestamp (Timestamp.readUnit unitName)
    writeShifted e (shift? now unit amount forward) (textAt? args 2) UserFormat.defaultPattern
  | _, _ => throw (.argument (e.display ++ " can't evaluate."))

/-- The zone of a name in a database. -/
def readZone (database : ZoneDatabase) (id : String) : Action σ Zone :=
  .present (id ++ " is not a valid timezone") (ZoneMapping.bundled.zoneIn? database id)

/-- An instant as the clocks of a zone show it. -/
def runConvertFromUtc (database : ZoneDatabase) (e : Expr) (ms : List (Meaning σ)) :
    Action σ Value := do
  let args ← Meaning.arguments none ms
  match textAt? args 0, textAt? args 1 with
  | some timestamp, some zoneId =>
    let instant ← ofTimestamp (Timestamp.readIso timestamp)
    let zone ← readZone database zoneId
    let stamp : Stamp := ⟨zone.clockAt instant, zone.offsetAt instant.timestamp, zone.name⟩
    let text ← ofTimestamp (Timestamp.writeAs (textAt? args 2) UserFormat.defaultPattern stamp)
    pure (.text text)
  | _, _ => throw (.argument (e.display ++ " cannot evaluate"))

/-- The instant at which the clocks of a zone show a timestamp; one with an offset keeps its
instant. -/
def runConvertToUtc (database : ZoneDatabase) (e : Expr) (ms : List (Meaning σ)) :
    Action σ Value := do
  let args ← Meaning.arguments none ms
  match textAt? args 0, textAt? args 1 with
  | some timestamp, some zoneId =>
    let zone ← readZone database zoneId
    match Timestamp.written? timestamp with
    | none => throw (.failure (TimestampFault.unreadable timestamp).message)
    | some written =>
      match written.instant.orElse fun _ => zone.instantOf? written.clock with
      | none =>
        throw (.failure (timestamp ++ " with " ++ zoneId
          ++ " is not a valid timestamp with specified timeZone:"))
      | some instant =>
        let text ← ofTimestamp
          (Timestamp.writeAs (textAt? args 2) UserFormat.defaultPattern (.utc instant))
        pure (.text text)
  | _, _ => throw (.argument (e.display ++ " cannot evaluate"))

/-- A text in a text, a value in a list, or a name with a value in a map. -/
def isContained (eq : Value → Value → Bool) (container item : Value) : Bool :=
  match container, item with
  | .text haystack, .text needle => (Search.first? needle.toList haystack.toList).isSome
  | .list items, v => items.any fun w => eq w v
  | .map entries, .text name => (Entries.get? name entries).any fun v => !v.isNull
  | _, _ => false

/-- Whether one argument holds the other; an operand that fails is held by nothing. -/
def runContains (eq : Value → Value → Bool) (ms : List (Meaning σ)) : Action σ Value := do
  match ← (Meaning.arguments none ms).attempt with
  | .ok args => pure (.bool (isContained eq (args.getD 0 .null) (args.getD 1 .null)))
  | .error _ => pure (.bool false)

/-- All operands are true; the first that is false or fails ends it. -/
def runAnd : List (Meaning σ) → Action σ Value
  | [] => pure (.bool true)
  | m :: rest => do
    match ← m.value.attempt with
    | .ok v => if v.isTrue then runAnd rest else pure (.bool false)
    | .error _ => pure (.bool false)

/-- Some operand is true; those that fail are not. -/
def runOr : List (Meaning σ) → Action σ Value
  | [] => pure (.bool false)
  | m :: rest => do
    match ← m.value.attempt with
    | .ok v => if v.isTrue then pure (.bool true) else runOr rest
    | .error _ => runOr rest

/-- The operand is false or fails. -/
def runNot : List (Meaning σ) → Action σ Value
  | [] => pure (.bool true)
  | m :: _ => do
    match ← m.value.attempt with
    | .ok v => pure (.bool !v.isTrue)
    | .error _ => pure (.bool true)

/-- One of two branches; a condition that fails is false. -/
def runIf (e : Expr) : List (Meaning σ) → Action σ Value
  | [condition, yes, no] => do
    match ← condition.value.attempt with
    | .ok v => if v.isTrue then yes.value else no.value
    | .error _ => no.value
  | _ => throw (.failure (e.display ++ " should have 3 children."))

/-- The message of an argument that is no integer. -/
def notAnInteger (e : Expr) (position : Nat) : String :=
  e.childDisplay position ++ " is not an integer."

/-- A whole number from zero to a limit at a position. -/
def boundAt (e : Expr) (args : List Value) (position limit : Nat) (container : String) :
    Action σ Nat :=
  match integerAt? args position with
  | none => throw (.argument (notAnInteger e position))
  | some n =>
    if 0 ≤ n ∧ n ≤ limit then pure n.toNat
    else
      throw (.failure (e.childDisplay position ++ "=" ++ toString n
        ++ " which is out of range for " ++ container))

/-- Some characters of a text from a position on. -/
def runSubstring (e : Expr) (ms : List (Meaning σ)) : Action σ Value := do
  let args ← Meaning.arguments none ms
  match args.getD 0 .null with
  | .null => pure (.text "")
  | .text s =>
    let start ← boundAt e args 1 s.length s
    let count ← match args[2]? with
      | some _ => boundAt e args 2 (s.length - start) s
      | none => pure (s.length - start)
    pure (.text (String.ofList ((s.toList.drop start).take count)))
  | _ => throw (.argument (e.childDisplay 0 ++ " is neither a string nor a null object."))

/-- The items of a list between two positions. -/
def runSubArray (e : Expr) (ms : List (Meaning σ)) : Action σ Value := do
  let args ← Meaning.arguments none ms
  match args.getD 0 .null with
  | .list items =>
    let shown := (args.getD 0 .null).display
    let start ← boundAt e args 1 items.length shown
    let stop ← if 2 < args.length then boundAt e args 2 items.length shown
      else pure items.length
    pure (.list ((items.drop start).take (stop - start)))
  | _ => throw (.argument (e.childDisplay 0 ++ " is not array."))

/-- Texts with separators between them, the last one with a separator of its own if it is given. -/
def joined (separator : String) (last : Option String) (texts : List String) : String :=
  match last with
  | none => String.intercalate separator texts
  | some last =>
    if texts.length < 3 then String.intercalate last texts
    else String.intercalate separator texts.dropLast ++ last ++ texts.getLastD ""

/-- The first argument from a position on that is no text. -/
def separatorFault? : (position : Nat) → List (Meaning σ) → List Value → Option String
  | position, m :: ms, v :: vs =>
    match Check.string.fault? v m.expr position with
    | some message => some message
    | none => separatorFault? (position + 1) ms vs
  | _, _, _ => none

/-- The texts of the items of a list, joined. -/
def runJoin (e : Expr) (ms : List (Meaning σ)) : Action σ Value := do
  let args ← Meaning.arguments none ms
  match args.getD 0 .null with
  | .list items =>
    match separatorFault? 1 (ms.drop 1) (args.drop 1) with
    | some message => throw (.argument message)
    | none =>
      pure <| .text <| joined (args.getD 1 .null).textOrEmpty (args[2]?.map Value.textOrEmpty)
        (items.map Value.plainText)
  | v => throw (.argument (e.childDisplay 0 ++ " evaluates to " ++ v.display
      ++ " which is not a list."))

/-- A property whose name is computed, of an instance or of the state. -/
def runGetProperty : List (Meaning σ) → Action σ Value
  | [] => pure .null
  | [name] => do propertyNamed (scoping.whole (← get)) name
  | owner :: name :: _ => do propertyNamed (← owner.value) name
where
  propertyNamed (owner : Value) (name : Meaning σ) : Action σ Value := do
    match ← name.value with
    | .text s => pure (owner.property s)
    | _ => throw (.argument (name.expr.display ++ " is not a string."))

/-- The property of the first frame of the call stack that has one. -/
def runCallstack (ms : List (Meaning σ)) : Action σ Value := do
  match ((scoping.whole (← get)).property "callstack"), ms with
  | .list frames, m :: _ =>
    let name := (← m.value).plainText
    pure ((frames.map fun frame => frame.property name).find? (fun v => !v.isNull) |>.getD .null)
  | _, _ => pure .null

/-- A property with a literal name, of an instance or of the state. -/
def runAccessor (e : Expr) (ms : List (Meaning σ)) : Action σ Value :=
  match e.propertyName?, ms with
  | none, _ => pure .null
  | some name, _ :: owner :: _ => do pure ((← owner.value).property name)
  | some name, _ => do pure (scoping.read name (← get))

/-- An item by its position or a property by its name. -/
def runElement : List (Meaning σ) → Action σ Value
  | [owner, index] => do
    let container ← owner.value
    let key ← index.value
    match key.integer?, key with
    | some i, _ =>
      match container.item i with
      | .ok v => pure v
      | .error fault => throw (.reference fault.message)
    | none, .text name => pure (container.property name)
    | none, _ =>
      throw (.argument ("Could not coerce " ++ index.expr.display ++ " to an int or string."))
  | _ => pure .null

/-- The error of an expression that denotes no path. -/
def notSettable (e : Expr) : EvalError :=
  .reference (e.display ++ " is not a path that can be set to a value.")

/-- The key of a step by a value. -/
def keyOf? : Value → Option Key
  | .text name => some (.name name)
  | v => v.integer?.bind fun n => if 0 ≤ n then some (.index n.toNat) else none

/-- The path that a node denotes.  The index of an access is evaluated before its container. -/
def pathOf (e : Expr) (ms : List (Meaning σ)) : Action σ (List PathStep) :=
  if e.isA .accessor then
    match e.propertyName?, ms with
    | none, _ => throw (notSettable e)
    | some name, _ :: owner :: _ => do
      let steps ← owner.path
      pure (steps ++ [⟨.name name, owner.expr.display⟩])
    | some name, _ => pure [⟨.name name, ""⟩]
  else
    match e.isA .element, ms with
    | true, [owner, index] => do
      match keyOf? (← index.value) with
      | none => throw (.reference (owner.expr.display ++ " is not a valid path."))
      | some key => do
        let steps ← owner.path
        pure (steps ++ [⟨key, owner.expr.display⟩])
    | _, _ => throw (notSettable e)

/-- Put a value at a path of the state. -/
def runSetPath : List (Meaning σ) → Action σ Value
  | [target, source] => do
    let value ← source.value
    let steps ← target.path
    scoping.assign steps value
    pure value
  | _ => pure .null

/-- The parts of a comprehension: the items, the bound name and the body. -/
def openComprehension (e : Expr) (ms : List (Meaning σ)) :
    Action σ (List Value × String × Action σ Value) :=
  match ms with
  | [collection, iterator, body] =>
    match iterator.expr.iteratorName? with
    | none => throw (.failure (BuildError.shapeMessage e (.iterator iterator.expr)))
    | some name => do
      match ← collection.value with
      | .list items => pure (items, name, body.value)
      | _ =>
        throw (.argument (collection.expr.display ++ " is not a collection to run " ++ e.name))
  | _ => throw (.failure (BuildError.countMessage e .comprehension))

/-- The values of a body for all items. -/
def forEach (body : Value → Action σ Value) : List Value → Action σ (List Value)
  | [] => pure []
  | item :: rest => do
    let value ← body item
    let values ← forEach body rest
    pure (value :: values)

/-- The items for which a body is true. -/
def keepIf (body : Value → Action σ Value) : List Value → Action σ (List Value)
  | [] => pure []
  | item :: rest => do
    let value ← body item
    let kept ← keepIf body rest
    pure (if value.isTrue then item :: kept else kept)

/-- Whether a body has a truth for some item; the first one ends it. -/
def findTruth (truth : Bool) (body : Value → Action σ Value) : List Value → Action σ Bool
  | [] => pure false
  | item :: rest => do
    let value ← body item
    if value.isTrue == truth then pure true else findTruth truth body rest

/-- A comprehension over its items. -/
def runComprehension (e : Expr) (ms : List (Meaning σ))
    (visit : (Value → Action σ Value) → List Value → Action σ Value) : Action σ Value := do
  let (items, name, body) ← openComprehension e ms
  visit (scoping.within name body) items

/-- What a node of a special form evaluates to. -/
def runForm (e : Expr) (ms : List (Meaning σ)) : Form → Action σ Value
  | .contains eq => runContains eq ms
  | .and => runAnd ms
  | .or => runOr ms
  | .not => runNot ms
  | .ifElse => runIf e ms
  | .substring => runSubstring e ms
  | .join => runJoin e ms
  | .subArray => runSubArray e ms
  | .getProperty => runGetProperty scoping ms
  | .callstack => runCallstack scoping ms
  | .accessor => runAccessor scoping e ms
  | .element => runElement ms
  | .setPathToValue => runSetPath scoping ms
  | .foreach =>
    runComprehension scoping e ms fun body items => do pure (.list (← forEach body items))
  | .filter =>
    runComprehension scoping e ms fun body items => do pure (.list (← keepIf body items))
  | .quantified .anyItem =>
    runComprehension scoping e ms fun body items => do pure (.bool (← findTruth true body items))
  | .quantified .allItems =>
    runComprehension scoping e ms fun body items => do
      pure (.bool !(← findTruth false body items))
  | .shiftTime forward pattern => runShiftTime e forward pattern ms
  | .shiftNow now forward => runShiftNow e now forward ms
  | .convertFromUtc zones => runConvertFromUtc zones e ms
  | .convertToUtc zones => runConvertToUtc zones e ms
  | .unknown => throw (.failure (BuildError.unknownMessage e.name))

/-- What a node evaluates to, given the meanings of its children. -/
def runNode (e : Expr) (ms : List (Meaning σ)) : Action σ Value :=
  match e.evaluator.strategy with
  | .apply f check => do pure (f (← Meaning.arguments check ms))
  | .applyWithError f check => do .orFail (f (← Meaning.arguments check ms))
  | .sequence f check => do
    match ← Meaning.arguments check ms with
    | [] => pure .null
    | first :: rest => pure (rest.foldl f first)
  | .comparison f check => do
    match ← (Meaning.arguments check ms).attempt with
    | .ok args => pure (.bool (!mixedKinds args && f args))
    | .error _ => pure (.bool false)
  | .timeTransform f => runTimeTransform e f ms
  | .special form => runForm scoping e ms form
  | .constant v => pure v
  | .lambda f => do .orFail (f (scoping.whole (← get)))

mutual

/-- The meaning of an expression; `enter` may give another action for a node. -/
def meaning (enter : Expr → Option (Action σ Value)) : Expr → Meaning σ
  | node name evaluator children =>
    let e := node name evaluator children
    let ms := meanings enter children
    ⟨e, (enter e).getD (runNode scoping e ms), pathOf e ms⟩

def meanings (enter : Expr → Option (Action σ Value)) : List Expr → List (Meaning σ)
  | [] => []
  | e :: rest => meaning enter e :: meanings enter rest

end

/-- Evaluate an expression in which every name is read from its scope. -/
def evaluateResolved (e : Expr) : Action Value Value := (e.meaning .nested fun _ => none).value

/-- A comprehension that has to be resolved, as the evaluation of its resolved copy.  One whose bare
name is no text is left out.  Resolving does not settle it, so that resolving whatever asks for it,
as `evaluateWithin` does, has no end there; here it fails, as one that binds no name. -/
def resolvingAction? (e : Expr) : Option (Action Value Value) :=
  if e.needsResolution && e.binding?.isSome then some e.resolve.evaluateResolved else none

/-- Evaluate an expression; comprehensions are resolved when they are met. -/
def evaluate (e : Expr) : Action Value Value := (e.meaning .nested resolvingAction?).value

end Expr

end StateExpr
