/-
# Why queries and writes are refused

A query is refused for its sort, for a cursor it is to continue from, or for a value that cannot
be compared with a text field. A query that is not refused can still end the program, if the
machine has no memory for as many rows as it asks for; this is an outcome, too. A write is refused for a value of the wrong type, or, when it has
to find documents first, for the query that finds them; a type fault of that query is a type fault
of the write.
-/
import Paging.Cursor
import Paging.Order.TopK
import Paging.Sort

namespace Paging

/-- Why a query gets no page. -/
inductive QueryError
  | sort (cause : SortError)
  | invalidCursor (cause : CursorError)
  /-- A value that is no text was given for a field compared without letter case. -/
  | typeCoercion (field : String) (found : ValueType)
  /-- The program ended while the rows were fetched. Nobody receives this as an answer. -/
  | noRoom (cause : NoRoom)
  deriving DecidableEq, Repr

/-- Why a write is refused. -/
inductive MutationError
  | typeCoercion (field : String) (found : ValueType)
  /-- A declared field holds a value that its declaration does not accept. -/
  | fieldType (field : String) (expected found : ValueType)
  | query (cause : QueryError)
  deriving DecidableEq, Repr

/-- The wording of a type fault in a text field. -/
def typeCoercionMessage (field : String) (found : ValueType) : String :=
  "field " ++ field ++ " expects a string, found " ++ found.name

/-- The wording of a query error. -/
def QueryError.message : QueryError → String
  | sort (.invalidField name) => "field is not sortable: " ++ name
  | sort (.malformed fault) => "malformed sort specification: " ++ fault.message
  | invalidCursor cause => "invalid cursor: " ++ cause.message
  | typeCoercion field found => typeCoercionMessage field found
  | noRoom _ => "capacity overflow"

/-- The wording of a write error. -/
def MutationError.message : MutationError → String
  | typeCoercion field found => typeCoercionMessage field found
  | fieldType field expected found =>
    "field " ++ field ++ " is declared " ++ expected.name ++ ", found " ++ found.name
  | query cause => "query error: " ++ cause.message

/-- The write error of a write whose query is refused. -/
def MutationError.ofQuery : QueryError → MutationError
  | .typeCoercion field found => typeCoercion field found
  | cause => query cause

end Paging
