/-
# What criteria mean

A document matches criteria when it has their id, or when each listed name of it is level with the
listed value: both missing, or both there, of one family of types and equal in the order of values.
The predicate of the criteria says so (`eval_toPredicate`).
-/
import Paging.Criteria
import Paging.Proofs.Keyset
import Paging.Proofs.SortedMap

namespace Paging

/-- A value meets a wanted one: both are missing, or they are equal within one family of types. -/
def Value.Meets : Option Value → Option Value → Prop
  | some w, some v => w.type.accepts v.type ∧ w.collate v = .eq
  | none, none => True
  | _, _ => False

/-- Only the id itself meets an id. -/
theorem Value.meets_entityId {v : Option Value} {i : EntityId} :
    Value.Meets v (some (.entityId i)) ↔ v = some (.entityId i) := by
  constructor
  · intro h
    cases v with
    | none => exact h.elim
    | some w =>
      cases w with
      | entityId j => rw [Std.LawfulEqOrd.eq_of_compare h.2]
      | _ => cases h.1
  · rintro rfl
    exact ⟨rfl, Std.ReflCmp.compare_self⟩

/-- Whether a document meets criteria as storage compares them. -/
def Criteria.Matches (idField : String) (d : Document) : Criteria → Prop
  | all => True
  | id i => d.id = i
  | matching fields => ∀ field value, fields.get? field = some value →
      Value.Meets (d.row idField field) value

namespace Predicate

/-- A conjunction holds if all of its parts do. -/
theorem eval_conjunction (row : Row) (ps : List Predicate) :
    (conjunction ps).eval row = ps.all (·.eval row) := by
  have hfold : ∀ p : Predicate,
      (ps.foldl and p).eval row = (p.eval row && ps.all (·.eval row)) := by
    induction ps with
    | nil => exact fun p => (Bool.and_true _).symm
    | cons q rest ih =>
      intro p
      rw [List.foldl_cons, ih, eval_and, List.all_cons, Bool.and_assoc]
  exact hfold always

end Predicate

namespace Criteria

/-- The condition on one name says that its value meets the listed one. -/
theorem eval_condition (row : Row) (field : String) (value : Option Value) :
    (condition field value).eval row ↔ Value.Meets (row field) value := by
  cases value with
  | none =>
    rw [condition, Predicate.eval_fieldIsNull]
    cases row field with
    | none => exact iff_of_true rfl trivial
    | some w => exact iff_of_false Bool.false_ne_true not_false
  | some v =>
    simp only [condition, Predicate.equals, Predicate.fieldIs, Predicate.eval, Predicate.outcome?,
      Expr.value]
    cases row field with
    | none => exact iff_of_false Bool.false_ne_true not_false
    | some w =>
      by_cases hrank : w.rank = v.rank
      · simp [Value.Meets, Value.compareTyped_of_rank hrank, Value.accepts_iff_rank, hrank,
          Comparison.holds]
      · simp [Value.Meets, Value.compareTyped_eq, Value.accepts_iff_rank, hrank]

/-- Listed fields ask of a row that each of its values meets the listed one. -/
theorem eval_matching (row : Row) (fields : Fields) (idField : String) :
    ((matching fields).toPredicate idField).eval row ↔
      ∀ field value, fields.get? field = some value → Value.Meets (row field) value := by
  rw [toPredicate, Predicate.eval_conjunction, List.all_map, List.all_eq_true]
  constructor
  · intro h field value hfield
    exact (eval_condition _ _ _).1 (h (field, value) (SortedMap.mem_entries.2 hfield))
  · rintro h ⟨field, value⟩ hentry
    exact (eval_condition _ _ _).2 (h field value (SortedMap.mem_entries.1 hentry))

/-- **The predicate of criteria holds of the documents that match them.** -/
theorem eval_toPredicate (criteria : Criteria) (idField : String) (d : Document) :
    (criteria.toPredicate idField).eval (d.row idField) ↔ criteria.Matches idField d := by
  cases criteria with
  | all => exact iff_of_true rfl trivial
  | id i =>
    refine (eval_condition _ idField (some (.entityId i))).trans (Value.meets_entityId.trans ?_)
    rw [Document.row_idField, Option.some.injEq, Value.entityId.injEq]
    exact Iff.rfl
  | matching fields => exact eval_matching _ fields idField

end Criteria
end Paging
