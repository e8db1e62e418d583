/-
# The JSON form of selections

A selection is a record. Its limit and its list of fields are null when it asks for all; when
reading an object, they may as well not be there.
-/
import Paging.Keyset
import Paging.Predicate.Json
import Paging.Selection

namespace Paging

/-- The form of a sort direction. -/
def SortDirection.toJson : SortDirection → Json
  | asc => .text "Asc"
  | desc => .text "Desc"

/-- A sort direction. -/
def SortDirection.ofJson : Reader SortDirection := .word [("Asc", asc), ("Desc", desc)]

/-- The form of the side of a cursor. -/
def Side.toJson : Side → Json
  | after => .text "After"
  | before => .text "Before"

/-- The side of a cursor. -/
def Side.ofJson : Reader Side := .word [("After", after), ("Before", before)]

/-- The form of a name to sort by. -/
def OrderItem.toJson (item : OrderItem) : Json :=
  .record [("identifier", Expr.property item.field), ("direction", item.direction.toJson)]

/-- A name to sort by. -/
def OrderItem.ofJson : Reader OrderItem := fun depth j => do
  let m ← Members.read? ["identifier", "direction"] 2 depth j
  pure ⟨← m.required "identifier" Expr.ofProperty, ← m.required "direction" SortDirection.ofJson⟩

namespace Selection

/-- The form of a selection. -/
def toJson (s : Selection) : Json :=
  .record [("predicate", s.predicate.toJson), ("order_by", .ofList OrderItem.toJson s.orderBy),
    ("limit", .ofOption (fun n : UInt64 => .ofInt n.toNat) s.limit),
    ("fields", .ofOption (.ofList .text) s.fields)]

/-- A selection. -/
def ofJson : Reader Selection := fun depth j => do
  let m ← Members.read? ["predicate", "order_by", "limit", "fields"] 4 depth j
  pure ⟨← m.required "predicate" Predicate.ofJson, ← m.required "order_by" (.list OrderItem.ofJson),
    ← m.optional "limit" .uint64, ← m.optional "fields" (.list .text)⟩

end Selection
end Paging
