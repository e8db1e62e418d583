/-
# The JSON form of schemas and configurations

Both are records. Every entry of a configuration may be left out and has its standard value then.
-/
import Paging.Catalog
import Paging.Value.Json

namespace Paging

/-- The form of a rule for letter case. -/
def CaseRule.toJson : CaseRule → Json
  | inherit => .text "Inherit"
  | sensitive => .text "Sensitive"
  | insensitive => .text "Insensitive"

/-- A rule for letter case. -/
def CaseRule.ofJson : Reader CaseRule :=
  .word [("Inherit", inherit), ("Sensitive", sensitive), ("Insensitive", insensitive)]

namespace FieldDeclaration

/-- The form of a declaration. -/
def toJson (d : FieldDeclaration) : Json :=
  .record [("name", .text d.name), ("field_type", d.type.toJson), ("sortable", .bool d.sortable),
    ("case", d.case.toJson)]

/-- A declaration. -/
def ofJson : Reader FieldDeclaration := fun depth j => do
  let m ← Members.read? ["name", "field_type", "sortable", "case"] 4 depth j
  pure ⟨← m.required "name" .text, ← m.required "field_type" ValueType.ofJson,
    ← m.required "sortable" .bool, ← m.required "case" CaseRule.ofJson⟩

end FieldDeclaration

namespace Schema

/-- The form of a schema. -/
def toJson (s : Schema) : Json :=
  .record [("name", .text s.name), ("fields", .ofList FieldDeclaration.toJson s.fields)]

/-- A schema. -/
def ofJson : Reader Schema := fun depth j => do
  let m ← Members.read? ["name", "fields"] 2 depth j
  pure ⟨← m.required "name" .text, ← m.required "fields" (.list FieldDeclaration.ofJson)⟩

end Schema

namespace Config

/-- The form of a configuration. -/
def toJson (c : Config) : Json :=
  .record [("ignore_case", .bool c.ignoreCase), ("updated_field", .text c.updatedField),
    ("id_field", .text c.idField), ("shadow_prefix", .text c.shadowStart)]

/-- A configuration. -/
def ofJson : Reader Config := fun depth j => do
  let m ← Members.read? ["ignore_case", "updated_field", "id_field", "shadow_prefix"] 0 depth j
  pure ⟨← m.standing "ignore_case" standard.ignoreCase .bool,
    ← m.standing "updated_field" standard.updatedField .text,
    ← m.standing "id_field" standard.idField .text,
    ← m.standing "shadow_prefix" standard.shadowStart .text⟩

end Config
end Paging
