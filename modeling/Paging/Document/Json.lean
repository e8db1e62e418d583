/-
# The JSON form of documents and cursors

Fields are an object in the order of their names, in which an explicit null is a null and an
undefined field is not there. A document is a record of its id and its fields, a cursor a record
of its id, its freshness stamp and its fields.
-/
import Paging.Cursor
import Paging.Value.Json

namespace Paging

/-- The form of fields. -/
def Fields.toJson (fields : Fields) : Json :=
  .ofMap (.ofOption Value.toJson) fields

/-- Fields. -/
def Fields.ofJson : Reader Fields := .map (.optional Value.ofJson)

namespace Document

/-- The form of a document. -/
def toJson (d : Document) : Json :=
  .record [("id", .ofEntityId d.id), ("fields", d.fields.toJson)]

/-- A document. -/
def ofJson : Reader Document := fun depth j => do
  let m ← Members.read? ["id", "fields"] 2 depth j
  pure ⟨← m.required "id" .entityId, ← m.required "fields" Fields.ofJson⟩

end Document

namespace Cursor

/-- The form of a cursor. -/
def toJson (c : Cursor) : Json :=
  .record [("id", .ofEntityId c.id), ("freshness", .ofOption Value.toJson c.freshness),
    ("fields", c.fields.toJson)]

/-- A cursor. A freshness stamp that is not there is missing. -/
def ofJson : Reader Cursor := fun depth j => do
  let m ← Members.read? ["id", "freshness", "fields"] 3 depth j
  pure ⟨← m.required "id" .entityId, ← m.optional "freshness" Value.ofJson,
    ← m.required "fields" Fields.ofJson⟩

end Cursor
end Paging
