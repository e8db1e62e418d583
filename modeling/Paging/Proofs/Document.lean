/-
# Documents and cursors are read back

Every value has a form that is read back, but for the floating-point numbers that are not finite
(`Value.IsFinite`). So documents and cursors of other values are read back: an explicit null stays
apart from a field that is not there, and a missing freshness stamp stays missing. Main statements:
`denotes_document` and `denotes_cursor`.
-/
import Paging.Document.Json
import Paging.Proofs.Json.Form

namespace Paging

namespace Value

/-- A value is finite unless it is a floating-point number that is not. -/
def IsFinite (v : Value) : Prop := ∀ x, v = .float x → x.isFinite

variable {v : Value}

/-- The content of a finite value is read back by the reader of its type. -/
theorem denotes_content (depth : Nat) (h : v.IsFinite) :
    Denotes (ofContentJson v.type) depth v.contentJson v := by
  cases v with
  | string s => exact (Denotes.text depth s).mapped string
  | int n => exact (Denotes.int64 depth n).mapped int
  | float x => exact (Denotes.float depth (h x rfl)).mapped float
  | bool b => exact (Denotes.bool depth b).mapped bool
  | timestamp t => exact (Denotes.timestamp depth t).mapped timestamp
  | entityId id => exact (Denotes.entityId depth id).mapped entityId

/-- A type is found under its word. -/
theorem lookup_word (t : ValueType) : ValueType.words.lookup t.word = some t := by
  cases t <;> decide

/-- **A value is read back from its form.** -/
theorem denotes_value (depth : Nat) (h : v.IsFinite) : Denotes ofJson (depth + 1) v.toJson v := by
  have hcontent := denotes_content depth h
  refine ⟨Denotes.regular_record fun m hm => ?_, ?_⟩
  · rw [List.mem_singleton.1 hm]
    exact hcontent.regular
  · show (ValueType.words.lookup v.type.word).bind (fun type =>
      ofContentJson type depth v.contentJson) = some v
    rw [lookup_word, Option.bind_some, hcontent.read_eq]

/-- What may be missing is read back. -/
theorem denotes_optional (depth : Nat) {o : Option Value} (h : ∀ v, o = some v → v.IsFinite) :
    Denotes (.optional ofJson) (depth + 1) (.ofOption toJson o) o :=
  .optional fun v hv => ⟨denotes_value depth (h v hv), nofun⟩

end Value

/-- **Fields are read back from their form.** -/
theorem Fields.denotes_fields (depth : Nat) {fields : Fields}
    (h : ∀ e ∈ fields.entries, ∀ v, e.2 = some v → v.IsFinite) :
    Denotes ofJson (depth + 2) fields.toJson fields :=
  .map fun e he => Value.denotes_optional depth (h e he)

/-- **A document is read back from its form.** The document and its fields open a container each,
and every value opens one more. -/
theorem Document.denotes_document (depth : Nat) {d : Document}
    (h : ∀ e ∈ d.fields.entries, ∀ v, e.2 = some v → v.IsFinite) :
    Denotes ofJson (depth + 3) d.toJson d := by
  have hid := Denotes.entityId (depth + 2) d.id
  have hfields := Fields.denotes_fields depth h
  refine .record (by simp) (by simp) ?_ ?_
  · simp only [List.forall_mem_cons]
    exact ⟨hid.regular, hfields.regular, by simp⟩
  · simp only [Option.bind_eq_bind]
    rw [Denotes.required rfl hid, Denotes.required rfl hfields]
    rfl

/-- **A cursor is read back from its form.** It opens as many containers as a document. -/
theorem Cursor.denotes_cursor (depth : Nat) {c : Cursor}
    (hfreshness : ∀ v, c.freshness = some v → v.IsFinite)
    (hfields : ∀ e ∈ c.fields.entries, ∀ v, e.2 = some v → v.IsFinite) :
    Denotes ofJson (depth + 3) c.toJson c := by
  have hid := Denotes.entityId (depth + 2) c.id
  have hstamp := Value.denotes_optional (depth + 1) hfreshness
  have hrest := Fields.denotes_fields depth hfields
  refine .record (by simp) (by simp) ?_ ?_
  · simp only [List.forall_mem_cons]
    exact ⟨hid.regular, hstamp.regular, hrest.regular, by simp⟩
  · simp only [Option.bind_eq_bind]
    rw [Denotes.required rfl hid, Members.optional, Denotes.standing none rfl hstamp,
      Denotes.required rfl hrest]
    rfl

end Paging
