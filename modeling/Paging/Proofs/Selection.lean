/-
# Selections are read back

A predicate has no greatest depth, and neither has the form of a selection: it is read back as long
as the reader may open as many containers as it nests, and refused beyond. This is shown along the
tree of the predicate, by the shape of the form for each constructor: a variant around an operand
or a part, around two sides, around a record, or a bare word. The form of a document opens three
containers at most, so that it is always read back. Main statement: `ofBytes?_render`.
-/
import Paging.Proofs.Document
import Paging.Proofs.Json.Depth
import Paging.Selection.Json

namespace Paging

/-- The form of a value opens one container. -/
theorem Value.denotesExactly {v : Value} (h : v.IsFinite) :
    DenotesExactly ofJson v.toJson v := by
  have hdepth : v.toJson.depth = 1 := by
    have hcontent : v.contentJson.depth = 0 := by
      cases v with
      | float x =>
        rw [contentJson, Json.ofFloat, if_pos (h x rfl), Json.depth]
      | _ => rfl
    rw [toJson, Json.depth_variant, hcontent]
  refine ⟨(denotes_value 0 h).regular, fun depth => ?_⟩
  rw [hdepth]
  cases depth with
  | zero => rfl
  | succ depth => rw [(denotes_value depth h).read_eq, if_pos (Nat.le_add_left 1 depth)]

namespace Expr

/-- An operand is finite unless it is a value that is not. -/
def IsFinite (e : Expr) : Prop := ∀ v, e = .literal v → v.IsFinite

/-- A reference to a field is a record around its name. -/
theorem denotesExactly_property (name : String) :
    DenotesExactly ofProperty (property name) name :=
  .variant rfl (fun _ => rfl) (.text name)

/-- **An operand is read back from its form.** -/
theorem denotesExactly {e : Expr} (h : e.IsFinite) : DenotesExactly ofJson e.toJson e := by
  cases e with
  | literal v => exact .variant rfl (fun _ => rfl) ((Value.denotesExactly (h v rfl)).mapped literal)
  | field name => exact .variant rfl (fun _ => rfl) ((denotesExactly_property name).mapped field)

end Expr

/-- An operator is a bare word. -/
theorem Comparison.denotesExactly (c : Comparison) : DenotesExactly ofJson c.toJson c := by
  cases c <;> exact .word (by decide)

namespace Predicate

/-- A predicate is finite if its operands are. -/
def IsFinite : Predicate → Prop
  | compare left _ right => left.IsFinite ∧ right.IsFinite
  | isNull e => e.IsFinite
  | both p q => p.IsFinite ∧ q.IsFinite
  | either p q => p.IsFinite ∧ q.IsFinite
  | negation p => p.IsFinite
  | always => True
  | never => True

/-- **A comparison is read back from its form**, the record of its operator and its two operands, if
it nests within the limit. The operands are read in the order of the record, and the first that
nests too deep ends the reading. -/
theorem denotesExactly_compare {left right : Expr} (comparison : Comparison)
    (hleft : left.IsFinite) (hright : right.IsFinite) :
    DenotesExactly ofJson (compare left comparison right).toJson
      (compare left comparison right) := by
  have hl := left.denotesExactly hleft
  have hc := comparison.denotesExactly
  have hr := right.denotesExactly hright
  have hcontent : DenotesExactly ofComparison (.record [("left", left.toJson),
      ("operator", comparison.toJson), ("right", right.toJson)])
      (compare left comparison right) := by
    refine .record (by simp) (by simp) ?_ fun depth => ?_
    · simp only [List.forall_mem_cons]
      exact ⟨hl.regular, hc.regular, hr.regular, by simp⟩
    · -- each field is read, or ends the reading if it nests too deep
      simp only [Option.bind_eq_bind]
      rw [hl.required_bind rfl, hc.required_bind rfl, hr.required_bind rfl]
      rfl
  exact .variant rfl (fun _ => rfl) hcontent

/-- No container may be opened for a variant that holds something. -/
theorem ofJson_zero_variant (name : String) (content : Json) :
    ofJson 0 (.variant name content) = none := by
  cases content <;> rfl

/-- **A predicate is read back from its form.** -/
theorem denotesExactly {p : Predicate} (h : p.IsFinite) : DenotesExactly ofJson p.toJson p := by
  induction p with
  | compare left comparison right => exact denotesExactly_compare comparison h.1 h.2
  | isNull e =>
    exact .variant (ofJson_zero_variant _ _) (fun _ => rfl) ((e.denotesExactly h).mapped isNull)
  | both p q ihp ihq => exact .sides rfl rfl (fun _ => rfl) (ihp h.1) (ihq h.2)
  | either p q ihp ihq => exact .sides rfl rfl (fun _ => rfl) (ihp h.1) (ihq h.2)
  | negation p ih =>
    exact .variant (ofJson_zero_variant _ _) (fun _ => rfl) ((ih h).mapped negation)
  | always => exact .leaf rfl fun depth => ⟨.string _, by cases depth <;> rfl⟩
  | never => exact .leaf rfl fun depth => ⟨.string _, by cases depth <;> rfl⟩

end Predicate

/-- A direction is a bare word. -/
theorem SortDirection.denotesExactly (d : SortDirection) : DenotesExactly ofJson d.toJson d := by
  cases d <;> exact .word (by decide)

/-- An item of the order is a record of a field and a direction. -/
theorem OrderItem.denotesExactly (item : OrderItem) :
    DenotesExactly ofJson item.toJson item := by
  have hname := Expr.denotesExactly_property item.field
  have hdirection := item.direction.denotesExactly
  refine .record (by simp) (by simp) ?_ fun depth => ?_
  · simp only [List.forall_mem_cons]
    exact ⟨hname.regular, hdirection.regular, by simp⟩
  · simp only [Option.bind_eq_bind]
    rw [hname.required_bind rfl, hdirection.required_bind rfl]
    rfl

namespace Selection

variable {s : Selection}

/-- **A selection is read back from its form.** -/
theorem denotesExactly (hpredicate : s.predicate.IsFinite) :
    DenotesExactly ofJson s.toJson s := by
  have hp := s.predicate.denotesExactly hpredicate
  have ho : DenotesExactly (.list OrderItem.ofJson) (.ofList OrderItem.toJson s.orderBy) s.orderBy :=
    .list fun item _ => item.denotesExactly
  have hl : DenotesExactly Reader.uint64.optional
      (.ofOption (fun n : UInt64 => .ofInt n.toNat) s.limit) s.limit :=
    .optional fun n _ => ⟨.leaf rfl fun _ =>
      ⟨.number (Numeral.wellFormed_ofInt n.toNat), Numeral.toUInt64?_ofInt n⟩, nofun⟩
  have hf : DenotesExactly (Reader.list .text).optional (.ofOption (.ofList .text) s.fields)
      s.fields :=
    .optional fun _ _ => ⟨.list fun name _ => .text name, nofun⟩
  refine .record (by simp) (by simp) ?_ fun depth => ?_
  · simp only [List.forall_mem_cons]
    exact ⟨hp.regular, ho.regular, hl.regular, hf.regular, by simp⟩
  · simp only [Option.bind_eq_bind]
    rw [hp.required_bind rfl, ho.required_bind rfl, hl.optional_bind rfl, hf.optional_bind rfl]
    rfl

end Selection

/-- **Selections and documents are read back from their text.** A selection with finite values is
read as it was if its form nests no deeper than readers go, and is refused otherwise. A document with finite values is always read as it was; so a field that is explicitly
null is read as such, and one that is undefined stays undefined. -/
theorem ofBytes?_render :
    (∀ s : Selection, s.predicate.IsFinite →
      Selection.ofJson.ofBytes? (Text.utf8 s.toJson.render) =
        if s.toJson.depth ≤ Reader.depthLimit then some s else none) ∧
    ∀ d : Document, (∀ e ∈ d.fields.entries, ∀ v, e.2 = some v → v.IsFinite) →
      Document.ofJson.ofBytes? (Text.utf8 d.toJson.render) = some d := by
  constructor
  · intro s hpredicate
    exact (Selection.denotesExactly hpredicate).ofBytes?
  · intro d hfields
    -- a document opens three of the containers that readers may open
    have hread : Denotes Document.ofJson Reader.depthLimit d.toJson d :=
      Document.denotes_document 124 hfields
    exact hread.ofBytes?

/-- A selection with every constructor of predicates, negative zero, a leap second, escaped names
and the greatest limit. -/
def mixedSelection : Selection where
  predicate :=
    .either
      (.both (.compare (.field "\"\\\n") .less (.literal (.float ⟨0x8000000000000000⟩)))
        (.negation (.isNull (.literal (.timestamp ⟨1483228799, 1500000000, by decide⟩)))))
      (.both (.compare (.literal (.entityId (.ofNat 7))) .notEqual (.field "é😀"))
        (.either .always .never))
  orderBy := [⟨"\"\\\n", .desc⟩, ⟨"é😀", .asc⟩]
  limit := some 18446744073709551615
  fields := some ["é😀"]

/-- A document with an explicitly null field and the least positive number. -/
def mixedDocument : Document := ⟨.ofNat 7, .ofList [("n", none), ("y", some (.float ⟨1⟩))]⟩

/-- The selection of every constructor is read back, and so is the document. -/
theorem ofBytes?_render_mixed :
    mixedSelection.predicate.IsFinite ∧
    Selection.ofJson.ofBytes? (Text.utf8 mixedSelection.toJson.render) = some mixedSelection ∧
    Document.ofJson.ofBytes? (Text.utf8 mixedDocument.toJson.render) = some mixedDocument := by
  have hzero : Binary64.isFinite ⟨0x8000000000000000⟩ := by decide
  have hfinite : mixedSelection.predicate.IsFinite := by
    simp [mixedSelection, Predicate.IsFinite, Expr.IsFinite, Value.IsFinite, hzero]
  have hread := ofBytes?_render.1 mixedSelection hfinite
  rw [if_pos (by decide)] at hread
  have hfields : ∀ e ∈ mixedDocument.fields.entries, ∀ v, e.2 = some v → v.IsFinite := by
    have hentries : mixedDocument.fields.entries = [("n", none), ("y", some (.float ⟨1⟩))] := rfl
    have hleast : Binary64.isFinite ⟨1⟩ := by decide
    simp [hentries, Value.IsFinite, hleast]
  exact ⟨hfinite, hread, ofBytes?_render.2 mixedDocument hfields⟩

end Paging
