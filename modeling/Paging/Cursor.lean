/-
# Cursors

A cursor is what is left of a row when its page is gone: the id, the freshness stamp and the value
of every sortable field. It carries all of them, not only those of the sort it was fetched under,
so it stays useful when the same collection is sorted anew. A missing value is carried as missing,
which is not the same as a field that the cursor does not carry at all.
-/
import Paging.Catalog
import Paging.Document

namespace Paging

/-- The sortable values of one row. -/
structure Cursor where
  id : EntityId
  freshness : Option Value
  fields : Fields
  deriving DecidableEq, Repr

/-- Why a text is not a token. -/
inductive TokenFault
  /-- There is no separator, hence no signature. -/
  | missingSignature
  /-- The signature or the payload is not Base64. -/
  | base64 (cause : Base64.DecodeError)
  /-- The payload is signed but not the JSON of a cursor. -/
  | payload
  deriving DecidableEq, Repr

/-- Why a cursor cannot be written, read or used. -/
inductive CursorError
  | tooLong (length most : Nat)
  | malformed (fault : TokenFault)
  | badSignature
  | nonFinite (field : String)
  | missingField (field : String)
  deriving DecidableEq, Repr

/-- The wording of a token fault. -/
def TokenFault.message : TokenFault → String
  | missingSignature => "missing signature"
  | base64 cause => cause.message
  | payload => "not a cursor"

/-- The wording of a cursor error. -/
def CursorError.message : CursorError → String
  | tooLong length most => s!"token of {length} bytes exceeds the {most} byte limit"
  | malformed fault => "malformed token: " ++ fault.message
  | badSignature => "token signature mismatch"
  | nonFinite field => "field " ++ field ++ " holds a non-finite float"
  | missingField field => "cursor does not carry field " ++ field

namespace Cursor

/-- The cursor of a document: the values of all sortable fields of the catalog. -/
def capture (d : Document) (c : Catalog) : Cursor :=
  ⟨d.id, d.value c.freshnessField, .ofList (c.sortableFields.map fun f => (f.name, d.value f.name))⟩

/-- The value that the cursor carries for a field; the outer `none` is for a field that it does not
carry, the inner one for a missing value. -/
def get? (cursor : Cursor) (field : String) : Option (Option Value) :=
  cursor.fields.get? field

end Cursor
end Paging
