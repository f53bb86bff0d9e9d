import StateExpr.Codec.Base64
import StateExpr.Codec.Percent
import StateExpr.Text.Search
import StateExpr.Text.Words
/-!
# Text codecs

Encodings of texts as texts, with what can go wrong in reading them back: base64, data addresses
that carry base64, components of addresses, and binary digits.
-/

namespace StateExpr.Codec

/-- The bytes as UTF-8 text, if they are. -/
def textOfBytes? (bytes : List UInt8) : Option String :=
  String.fromUTF8? (ByteArray.mk bytes.toArray)

/-- Why an encoded text could not be read. -/
inductive Fault where
  | notBase64 (encoded : String)
  | notUtf8 (encoded : String)
  | notDataUri (uri : String)
  | notUriComponent (encoded : String)

def Fault.message : Fault → String
  | notBase64 encoded => encoded ++ " is not a valid base64 string: "
  | notUtf8 encoded => encoded ++ " does not decode to UTF-8 text."
  | notDataUri uri => uri ++ " is not a valid data URI."
  | notUriComponent encoded => encoded ++ " is not a valid URI component: "

/-- The text of a base64 form, white space at its edges aside. -/
def base64Decode (encoded : String) : Except Fault String :=
  match Base64.decodeBytes? (trimChars encoded.toList) with
  | none => .error (.notBase64 encoded)
  | some bytes =>
    match textOfBytes? bytes with
    | some s => .ok s
    | none => .error (.notUtf8 encoded)

/-- What stands before the payload of the data addresses that are written. -/
def dataUriHead : String := "data:text/plain;charset=utf-8;base64,"

def dataUriEncode (s : String) : String := dataUriHead ++ Base64.encode s

/-- The text of the base64 payload behind the first comma. -/
def dataUriDecode (uri : String) : Except Fault String :=
  match Search.splitFirst? ',' uri.toList with
  | some (_, payload) => base64Decode (String.ofList payload)
  | none => .error (.notDataUri uri)

def uriComponentDecode (encoded : String) : Except Fault String :=
  match textOfBytes? (Percent.decodeBytes encoded.toUTF8.toList) with
  | some s => .ok s
  | none => .error (.notUriComponent encoded)

/-- The binary digits of a number, at least eight. -/
def binaryDigits (n : Nat) : List Char :=
  let digits := Nat.toDigits 2 n
  List.replicate (8 - digits.length) '0' ++ digits

/-- The binary digits of all characters, one after the other. -/
def binary (s : String) : String := String.ofList (s.toList.flatMap fun c => binaryDigits c.toNat)

end StateExpr.Codec
