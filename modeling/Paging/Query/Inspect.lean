/-
# Queries for inspection

A query can be shown as one line of nested records, for people who want to know what it will do.
Names and texts are quoted, optional parts are shown as `Some(..)` or `None`, and the cursors are
only counted. Nothing reads these lines back.
-/
import Paging.Query
import Paging.Text.Quoted

namespace Paging
namespace Inspect

/-- Plain notation from `10 ^ -4` up to `10 ^ 16`, with a point in whole numbers. -/
def floatStyle : Style := ⟨.away, fun k => -4 ≤ k && k < 16, true, false⟩

/-- Something in round brackets after a name. -/
def tagged (name : String) (content : List Char) : List Char :=
  name.toList ++ '(' :: content ++ [')']

/-- A record: its name and its fields. -/
def record (name : String) (fields : List (String × List Char)) : List Char :=
  name.toList ++ " \x7b ".toList ++
    (", ".toList).intercalate (fields.map fun f => f.1.toList ++ ": ".toList ++ f.2) ++
    " \x7d".toList

/-- Items in square brackets. -/
def list (items : List (List Char)) : List Char :=
  '[' :: (", ".toList).intercalate items ++ [']']

/-- Something that may be missing. -/
def optional {α : Type} (shown : α → List Char) : Option α → List Char
  | some a => tagged "Some" (shown a)
  | none => "None".toList

/-- A truth value. -/
def bool (b : Bool) : List Char :=
  if b then "true".toList else "false".toList

/-- An id, by its base-32 text. -/
def entityId (id : EntityId) : List Char :=
  tagged "EntityId" id.base32.toList

/-- A value under the name of its type. -/
def value (v : Value) : List Char :=
  tagged v.type.word <|
    match v with
    | .string s => Text.quoted s
    | .int n => Text.signed n.toInt
    | .float x => x.text floatStyle
    | .bool b => bool b
    | .timestamp t => Rfc3339.zulu t
    | .entityId id => entityId id

/-- Fields in the order of their names. -/
def fields (m : Fields) : List Char :=
  '\x7b' :: (", ".toList).intercalate
    (m.entries.map fun e => Text.quoted e.1 ++ ": ".toList ++ optional value e.2) ++ ['\x7d']

/-- Criteria. -/
def criteria : Criteria → List Char
  | .all => "All".toList
  | .id id => tagged "Id" (entityId id)
  | .matching m => tagged "Match" (fields m)

/-- A sort direction. -/
def direction : SortDirection → List Char
  | .asc => "Asc".toList
  | .desc => "Desc".toList

/-- A sort key. -/
def sortKey (k : SortKey) : List Char :=
  record "SortKey" [("field", Text.quoted k.field), ("physical", Text.quoted k.physical),
    ("direction", direction k.direction), ("case_insensitive", bool k.caseInsensitive)]

/-- A sort. -/
def sort (s : SortSpec) : List Char :=
  record "SortSpec" [("keys", list (s.keys.map sortKey))]

end Inspect

/-- An id as it is shown. -/
def EntityId.inspect (id : EntityId) : String :=
  String.ofList (Inspect.entityId id)

/-- A collection as it is shown: its name, without its key. -/
def Collection.inspect (c : Collection) : String :=
  String.ofList (Inspect.record "Collection" [("name", Text.quoted c.catalog.name)])

/-- A query as it is shown. -/
def Query.inspect (q : Query) : String :=
  String.ofList (Inspect.record "Query" [("collection", Text.quoted q.catalog.name),
    ("criteria", Inspect.criteria q.criteria), ("sort", Inspect.sort q.sort),
    ("limit", Inspect.optional (fun n => Text.natural n.toNat) q.limit), ("bounds", Text.natural q.bounds.length)])

/-- What is shown of a signing key: that there is one. -/
def Token.inspectKey : String := "SignedTokenCodec \x7b .. \x7d"

end Paging
