/-
# Writes

A document is prepared before it is written: its declared fields must hold values of their types,
its shadows are put in step with their sources, and its freshness stamp is set to the time. A
shadow is undefined when its source is, null when its source is null, and the small-letter form of
its source otherwise; what the caller put there does not matter.

A batch is prepared as a whole before any of it is written. An update finds its documents first
and then writes them one by one in the order of the query; the first one that is refused ends it,
and those before it stay written.

The times come from a clock, given as the time of each reading. Every prepared document takes one
reading.
-/
import Paging.Query

namespace Paging
namespace Collection

/-- The fields hold values of their declared types. The first field at fault is reported, in the
order given. -/
def checkTypes (c : Catalog) : List (String × Option Value) → Except MutationError Unit
  | [] => .ok ()
  | (name, value) :: rest =>
    match c.field? name, value with
    | some field, some v =>
      if field.type.accepts v.type then checkTypes c rest
      else .error (.fieldType name field.type v.type)
    | _, _ => checkTypes c rest

/-- The document with a shadow in step with its source. -/
def syncShadow (d : Document) (source shadow : String) : Except MutationError Document :=
  match d.fields.get? source with
  | none => .ok (d.unset shadow)
  | some none => .ok (d.setNull shadow)
  | some (some v) =>
    match v.lowercase? with
    | some lower => .ok (d.set shadow lower)
    | none => .error (.typeCoercion source v.type)

/-- The document with several shadows in step with their sources. -/
def syncShadows (d : Document) : List (String × String) → Except MutationError Document
  | [] => .ok d
  | (source, shadow) :: rest => do
    let d ← syncShadow d source shadow
    syncShadows d rest

/-- The document as it is written at a time. -/
def prepare (c : Catalog) (now : Timestamp) (d : Document) : Except MutationError Document := do
  checkTypes c d.fields.entries
  let d ← syncShadows d c.shadows
  pure (d.set c.freshnessField (.timestamp now))

/-- Several documents as they are written, each at its own reading of the clock from `used` on. -/
def prepareAll (c : Catalog) (clock : Nat → Timestamp) (used : Nat) :
    List Document → Except MutationError (List Document)
  | [] => .ok []
  | d :: rest => do
    let d ← prepare c (clock used) d
    let more ← prepareAll c clock (used + 1) rest
    pure (d :: more)

/-- One document written: the document as it is stored, and the store. -/
def save (c : Collection) (now : Timestamp) (d : Document) (s : Store) :
    Except MutationError (Document × Store) :=
  (prepare c.catalog now d).map fun d => (d, s.set d)

/-- A batch written: the documents as they are stored, and the store. -/
def create (c : Collection) (clock : Nat → Timestamp) (ds : List Document) (s : Store) :
    Except MutationError (List Document × Store) :=
  (prepareAll c.catalog clock 0 ds).map fun ds => (ds, s.setAll ds)

/-- What is left of an update: the store, how many documents were written, and why it ended if it
did not come to its end. -/
structure Updated where
  store : Store
  written : Nat
  fault : Option MutationError
  deriving DecidableEq, Repr

/-- Documents patched and written one by one. -/
def saveAll (c : Collection) (clock : Nat → Timestamp) (patch : Fields) (written : Nat)
    (s : Store) : List Document → Updated
  | [] => ⟨s, written, none⟩
  | d :: rest =>
    match c.save (clock written) (d.merge patch) s with
    | .ok (_, s) => saveAll c clock patch (written + 1) s rest
    | .error fault => ⟨s, written, some fault⟩

/-- Every document that meets some criteria patched and written. -/
def update (c : Collection) (clock : Nat → Timestamp) (criteria : Criteria) (patch : Fields)
    (s : Store) : Updated :=
  match (c.find criteria).bind fun q => q.run s with
  | .ok page => c.saveAll clock patch 0 s page.data
  | .error cause => ⟨s, 0, some (.ofQuery cause)⟩

end Collection
end Paging
