import StateExpr.Function.Arguments
import StateExpr.Codec.Text
import StateExpr.Json.Parser
import StateExpr.Json.Printer
import StateExpr.Number.Reading
/-!
# Conversions

Numbers from texts, texts from values, and texts through codecs.
-/

namespace StateExpr.Conversion

/-- What is said of a value that is no number. -/
def notANumber (v : Value) : String :=
  "parameter " ++ v.plainText ++ " is not a valid number string."

/-- The number of a number or of a text that spells one. -/
def numberOf (v : Value) : Except String Float :=
  match v with
  | .number x => .ok x
  | .text s =>
    match readNumber? (trimChars s.toList) with
    | some x => .ok x
    | none => .error (notANumber v)
  | _ => .error (notANumber v)

def float (args : List Value) : Except String Value := (numberOf (argument args 0)).map .number

/-- The whole part of a finite number. -/
def int (args : List Value) : Except String Value := do
  let x ← numberOf (argument args 0)
  if x.isFinite then pure (.number (truncated x)) else throw (notANumber (argument args 0))

def string (args : List Value) : Value := .text (argument args 0).plainText

def jsonStringify (args : List Value) : Value := .text (Json.render (argument args 0))

/-- The value of a JSON text. -/
def json (args : List Value) : Except String Value :=
  let text := (argument args 0).textOrEmpty
  match Json.parse? text with
  | some v => .ok v
  | none => .error (text ++ " is not a valid json string: ")

/-- A text through a codec. -/
def encoded (f : String → String) (args : List Value) : Value :=
  .text (f (argument args 0).textOrEmpty)

/-- A text through a codec that may refuse it. -/
def decoded (f : String → Except Codec.Fault String) (args : List Value) : Except String Value :=
  match f (argument args 0).textOrEmpty with
  | .ok s => .ok (.text s)
  | .error fault => .error fault.message

end StateExpr.Conversion
