/-
# Catalogs

A schema declares the fields of one kind of document; a configuration names the fields with a
special role. Registering the two gives a catalog, in which every question about a field is
settled once:

* The freshness field is there, holds a timestamp and is sortable, declared or not.
* A sortable text field is compared either as it is or without letter case. In the second case its
  small-letter form is kept in a *shadow* field beside it, whose name is the field's behind a
  fixed beginning, and all comparisons use the shadow.
* The physical name of a field is the name that storage compares: the shadow where there is one.

Registration refuses a schema that declares a field twice, declares the name of the id, gives the
freshness field another type than timestamp, or declares the name of a shadow.
-/
import Paging.Value

namespace Paging

/-- How a text field treats letter case in comparisons. -/
inductive CaseRule
  /-- As the configuration says. -/
  | inherit
  | sensitive
  | insensitive
  deriving DecidableEq, Repr

/-- The declaration of a field. -/
structure FieldDeclaration where
  name : String
  type : ValueType
  sortable : Bool
  case : CaseRule
  deriving DecidableEq, Repr

/-- The declared fields of one kind of document, in order of declaration. -/
structure Schema where
  name : String
  fields : List FieldDeclaration
  deriving DecidableEq, Repr

/-- The settings of a collection. -/
structure Config where
  /-- Whether sortable text fields are compared without letter case unless they say otherwise. -/
  ignoreCase : Bool
  /-- The field that is stamped with the time of every write. -/
  updatedField : String
  /-- The name under which the id is read. -/
  idField : String
  /-- What the name of a shadow begins with. -/
  shadowStart : String
  deriving DecidableEq, Repr

namespace Config

/-- The settings that hold when nothing else is said. -/
def standard : Config := ⟨true, "updated", "id", "_"⟩

/-- The name of the shadow of a field. -/
def shadowName (config : Config) (field : String) : String :=
  config.shadowStart ++ field

end Config

/-- A field with every question about it settled. -/
structure Field where
  name : String
  type : ValueType
  sortable : Bool
  caseInsensitive : Bool
  /-- The name that storage compares. -/
  physical : String
  /-- The field that keeps the small-letter form. -/
  shadow : Option String
  deriving DecidableEq, Repr

/-- The fields of one kind of document, settled. -/
structure Catalog where
  name : String
  config : Config
  /-- The fields in order of declaration, the freshness field last unless it was declared. -/
  fields : List Field
  /-- The physical names of the sortable fields. -/
  indexed : List String
  deriving DecidableEq, Repr

/-- Why a schema is refused. -/
inductive SchemaError
  | duplicateField (name : String)
  | shadowCollision (field source : String)
  | reservedField (name : String)
  | freshnessType (field : String) (found : ValueType)
  deriving DecidableEq, Repr

/-- The wording of a schema error. -/
def SchemaError.message : SchemaError → String
  | duplicateField name => "field declared twice: " ++ name
  | shadowCollision field source => "field " ++ field ++ " collides with the shadow of " ++ source
  | reservedField name => "field " ++ name ++ " is reserved for the entity id"
  | freshnessType field found =>
    "freshness field " ++ field ++ " must be a timestamp, declared " ++ found.name

namespace Catalog

/-- The declarations are those of distinct names, none of them the id's. The first declaration at
fault is reported; `seen` holds the names before. -/
def checkNames (config : Config) (seen : List String) :
    List FieldDeclaration → Except SchemaError Unit
  | [] => .ok ()
  | d :: rest =>
    if d.name = config.idField then .error (.reservedField d.name)
    else if d.name ∈ seen then .error (.duplicateField d.name)
    else checkNames config (d.name :: seen) rest

/-- The declarations with the freshness field among them, sortable. -/
def declareFreshness (config : Config) (declared : List FieldDeclaration) :
    Except SchemaError (List FieldDeclaration) :=
  match declared.find? (·.name = config.updatedField) with
  | none => .ok (declared ++ [⟨config.updatedField, .timestamp, true, .inherit⟩])
  | some d =>
    if d.type = .timestamp then
      .ok (declared.map fun d =>
        if d.name = config.updatedField then { d with sortable := true } else d)
    else .error (.freshnessType d.name d.type)

/-- Whether a declared field is compared without letter case. -/
def ignoresCase (config : Config) (d : FieldDeclaration) : Bool :=
  d.sortable && d.name != config.updatedField && d.type == .string &&
    match d.case with
    | .sensitive => false
    | .insensitive => true
    | .inherit => config.ignoreCase

/-- A declared field, settled. -/
def settle (config : Config) (d : FieldDeclaration) : Field :=
  let ignores := ignoresCase config d
  let shadow := if ignores then some (config.shadowName d.name) else none
  ⟨d.name, d.type, d.sortable, ignores, shadow.getD d.name, shadow⟩

/-- No shadow has a declared name. The first field whose shadow has one is reported. -/
def checkShadows (declared : List String) : List Field → Except SchemaError Unit
  | [] => .ok ()
  | f :: rest =>
    match f.shadow with
    | some shadow =>
      if shadow ∈ declared then .error (.shadowCollision shadow f.name)
      else checkShadows declared rest
    | none => checkShadows declared rest

/-- The catalog of a schema under a configuration. -/
def register (schema : Schema) (config : Config) : Except SchemaError Catalog := do
  checkNames config [] schema.fields
  let declared ← declareFreshness config schema.fields
  let fields := declared.map (settle config)
  checkShadows (declared.map (·.name)) fields
  pure ⟨schema.name, config, fields, (fields.filter (·.sortable)).map (·.physical)⟩

/-- The name under which the id is read. -/
def idField (c : Catalog) : String := c.config.idField

/-- The field that is stamped with the time of every write. -/
def freshnessField (c : Catalog) : String := c.config.updatedField

/-- The field of a name. -/
def field? (c : Catalog) (name : String) : Option Field :=
  c.fields.find? (·.name = name)

/-- Whether documents can be sorted by a name: the id or a sortable field. -/
def isSortable (c : Catalog) (name : String) : Bool :=
  name == c.idField || (c.field? name).any (·.sortable)

/-- Whether a name is compared without letter case. -/
def isCaseInsensitive (c : Catalog) (name : String) : Bool :=
  (c.field? name).any (·.caseInsensitive)

/-- The name that storage compares; an unknown name stands for itself. -/
def physicalName (c : Catalog) (name : String) : String :=
  ((c.field? name).map (·.physical)).getD name

/-- The fields that have a shadow, each with its shadow. -/
def shadows (c : Catalog) : List (String × String) :=
  c.fields.filterMap fun f => f.shadow.map fun shadow => (f.name, shadow)

/-- The declared fields that documents can be sorted by; the id is not among them. -/
def sortableFields (c : Catalog) : List Field :=
  c.fields.filter (·.sortable)

end Catalog
end Paging
