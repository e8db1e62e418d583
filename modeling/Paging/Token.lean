/-
# Tokens

A cursor travels as a token: its JSON in Base64, a point, and the tag of what stands before the
point, again in Base64. The tag is made with a secret key, so nobody without the key can make up a
token or change one. Reading a token checks the tag before it looks at the payload. Tokens are
bounded in length, and floating-point numbers that are not finite, which JSON cannot write, are
refused before writing.

All texts are given by their bytes.
-/
import Paging.Document.Json
import Paging.Hash.Hmac

namespace Paging
namespace Token

/-- The greatest length of a token. -/
def mostBytes : Nat := 8192

/-- The point between the payload and the tag. -/
def separator : UInt8 := 46

/-- Whether a value is a floating-point number that is not finite. -/
def isNonFinite : Option Value → Bool
  | some (.float x) => !x.isFinite
  | _ => false

/-- The first field, in the order of names, with a number that is not finite; the freshness stamp
comes last. -/
def nonFinite? (c : Cursor) : Option String :=
  match c.fields.entries.find? fun e => isNonFinite e.2 with
  | some e => some e.1
  | none => if isNonFinite c.freshness then some "freshness" else none

/-- The payload of a cursor. -/
def payload (c : Cursor) : List UInt8 :=
  Base64.encode (Text.utf8 c.toJson.render)

/-- The token of a payload. -/
def sign (key payload : List UInt8) : List UInt8 :=
  payload ++ separator :: Base64.encode (Hmac.tag key payload)

/-- The token of a cursor. -/
def encode (key : List UInt8) (c : Cursor) : Except CursorError (List UInt8) :=
  match nonFinite? c with
  | some field => .error (.nonFinite field)
  | none =>
    let token := sign key (payload c)
    if mostBytes < token.length then .error (.tooLong token.length mostBytes) else .ok token

/-- What stands before the first separator and what stands after it. -/
def split? : List UInt8 → Option (List UInt8 × List UInt8)
  | [] => none
  | b :: rest =>
    if b = separator then some ([], rest)
    else (split? rest).map fun p => (b :: p.1, p.2)

/-- Base64 inside a token. -/
def decodePart (text : List UInt8) : Except CursorError (List UInt8) :=
  (Base64.decode text).mapError fun cause => .malformed (.base64 cause)

/-- The cursor of a token. -/
def decode (key token : List UInt8) : Except CursorError Cursor :=
  if mostBytes < token.length then .error (.tooLong token.length mostBytes)
  else
    match split? token with
    | none => .error (.malformed .missingSignature)
    | some (payload, signature) => do
      let tag ← decodePart signature
      if tag ≠ Hmac.tag key payload then .error .badSignature
      else
        let json ← decodePart payload
        match Cursor.ofJson.ofBytes? json with
        | some c => .ok c
        | none => .error (.malformed .payload)

end Token
end Paging
