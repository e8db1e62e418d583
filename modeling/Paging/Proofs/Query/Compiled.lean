/-
# What queries compile to

The predicate of a query is put together of few pieces: a field compared with a value, a field that
is missing or is not, `and`, `or`, and the two constants. So a property that these have or keep
(`Predicate.Closed`) is one of all conditions of criteria, of all keyset predicates, and of the
predicate of every selection (`Closed.selection`).

There are two such properties: to read certain names only (`closed_readsOnly`), and to negate
nothing but null tests (`closed_positive`).
-/
import Mathlib.Tactic.SplitIfs
import Paging.Proofs.Outcome
import Paging.Query

namespace Paging
namespace Predicate

/-- A property of predicates that the conditions on some names have, and that their joins keep. -/
structure Closed (names : String → Prop) (P : Predicate → Prop) : Prop where
  always : P .always
  never : P .never
  fieldIs {field : String} (h : names field) (comparison : Comparison) (v : Value) :
    P (.fieldIs comparison field v)
  fieldIsNull {field : String} (h : names field) : P (.fieldIsNull field)
  fieldIsNotNull {field : String} (h : names field) : P (.fieldIsNotNull field)
  and {p q : Predicate} (hp : P p) (hq : P q) : P (p.and q)
  either {p q : Predicate} (hp : P p) (hq : P q) : P (.either p q)

namespace Closed

variable {names : String → Prop} {P : Predicate → Prop}

/-- A conjunction of conditions that have the property has it. -/
theorem conjunction (hP : Closed names P) {ps : List Predicate} (h : ∀ p ∈ ps, P p) :
    P (conjunction ps) := by
  unfold Predicate.conjunction
  generalize hall : Predicate.always = p
  have hp : P p := hall ▸ hP.always
  clear hall
  induction ps generalizing p with
  | nil => exact hp
  | cons q qs ih =>
    rw [List.forall_mem_cons] at h
    exact ih h.2 _ (hP.and hp h.1)

/-- So has a disjunction of them, the empty one included. -/
theorem disjunction (hP : Closed names P) {ps : List Predicate} (h : ∀ p ∈ ps, P p) :
    P ((disjunction? ps).getD .never) := by
  cases ps with
  | nil => exact hP.never
  | cons p ps =>
    rw [List.forall_mem_cons] at h
    obtain ⟨hp, h⟩ := h
    rw [disjunction?, Option.getD_some]
    induction ps generalizing p with
    | nil => exact hp
    | cons q qs ih =>
      rw [List.forall_mem_cons] at h
      exact ih _ (hP.either hp h.1) h.2

/-- The condition of one entry of the criteria, a comparison or a null test. -/
theorem condition (hP : Closed names P) {field : String} (h : names field)
    (value : Option Value) : P (Criteria.condition field value) := by
  cases value with
  | none => exact hP.fieldIsNull h
  | some v => exact hP.fieldIs h .equal v

/-- The predicate of whole criteria: all documents, one id, or a condition for each entry. -/
theorem toPredicate (hP : Closed names P) {idField : String} (hid : names idField)
    {criteria : Criteria}
    (h : ∀ fields, criteria = .matching fields → ∀ e ∈ fields.entries, names e.1) :
    P (criteria.toPredicate idField) := by
  cases criteria with
  | all => exact hP.always
  | id i => exact hP.fieldIs hid .equal _
  | matching fields =>
    refine hP.conjunction fun p hp => ?_
    obtain ⟨e, he, rfl⟩ := List.mem_map.1 hp
    exact hP.condition (h fields rfl e he) e.2

/-- The level of a key: its field equals the value of the cursor, or both are missing. -/
theorem level (hP : Closed names P) {k : SortKey} (h : names k.physical) (value : Option Value) :
    P (Keyset.level k value) := by
  cases value with
  | none => exact hP.fieldIsNull h
  | some v => exact hP.fieldIs h .equal v

/-- What lies beyond a cursor at one key, where anything can. -/
theorem beyond (hP : Closed names P) {k : SortKey} (h : names k.physical) {value : Option Value}
    {side : Side} {nullable : Bool} {p : Predicate}
    (hp : Keyset.beyond k value side nullable = some p) : P p := by
  unfold Keyset.beyond at hp
  split at hp
  · obtain rfl := Option.some.inj hp
    exact hP.fieldIs h .greater _
  · obtain rfl := Option.some.inj hp
    exact hP.fieldIsNotNull h
  · split_ifs at hp
    · obtain rfl := Option.some.inj hp
      exact hP.either (hP.fieldIs h .less _) (hP.fieldIsNull h)
    · obtain rfl := Option.some.inj hp
      exact hP.fieldIs h .less _
  · cases hp

/-- The alternatives compare the physical names of the keys. -/
theorem alternatives (hP : Closed names P) {cursor : Cursor} {side : Side} {idField : String}
    {keys : List SortKey} (hkeys : ∀ k ∈ keys, names k.physical) {before : Predicate}
    (hbefore : P before) {ps : List Predicate}
    (h : Keyset.alternatives cursor side idField before keys = .ok ps) : ∀ p ∈ ps, P p := by
  induction keys generalizing before ps with
  | nil =>
    obtain rfl := Except.ok.inj h
    exact fun _ hp => absurd hp List.not_mem_nil
  | cons k rest ih =>
    rw [List.forall_mem_cons] at hkeys
    obtain ⟨value, -, h⟩ := bind_eq_ok.1 h
    obtain ⟨later, hlater, h⟩ := bind_eq_ok.1 h
    obtain rfl := Except.ok.inj h
    intro p hp
    rcases List.mem_append.1 hp with hp | hp
    · obtain ⟨comparison, hcomparison, rfl⟩ := Option.map_eq_some_iff.1 (Option.mem_toList.1 hp)
      exact hP.and hbefore (hP.beyond hkeys.1 hcomparison)
    · exact ih hkeys.2 (hP.and hbefore (hP.level hkeys.1 value)) hlater p hp

/-- **The bound of a cursor** is built from levels and from what lies beyond, over the keys of the
sort and the tie-breaking id. -/
theorem compile (hP : Closed names P) {s : SortSpec} {cursor : Cursor} {side : Side}
    {idField : String} (hkeys : ∀ k ∈ s.withTieBreak idField, names k.physical) {p : Predicate}
    (h : Keyset.compile s cursor side idField = .ok p) : P p := by
  obtain ⟨ps, hps, rfl⟩ := map_eq_ok.1 h
  exact hP.disjunction (hP.alternatives hkeys hP.always hps)

variable {q : Query}

/-- The bounds of a query, added one after another. -/
theorem withBounds (hP : Closed names P)
    (hkeys : ∀ k ∈ q.sort.withTieBreak q.catalog.idField, names k.physical)
    {bounds : List (Side × Cursor)} {predicate p : Predicate} (hpredicate : P predicate)
    (h : q.withBounds predicate bounds = .ok p) : P p := by
  induction bounds generalizing predicate with
  | nil =>
    obtain rfl := Except.ok.inj h
    exact hpredicate
  | cons b rest ih =>
    obtain ⟨bound, hbound, h⟩ := bind_eq_ok.1 h
    exact ih (hP.and hpredicate (hP.compile hkeys (mapError_eq_ok.1 hbound))) h

/-- The condition on the stamp, which is left out where the query has none. -/
theorem withStamp (hP : Closed names P) (hstamp : names q.catalog.freshnessField)
    {predicate : Predicate} (hpredicate : P predicate) (comparison : Comparison)
    (time : Option Timestamp) : P (q.withStamp comparison time predicate) := by
  cases time with
  | none => exact hpredicate
  | some t => exact hP.and hpredicate (hP.fieldIs hstamp comparison _)

/-- **The predicate of a selection has what its pieces have.** -/
theorem selection (hP : Closed names P) (hcriteria : P (q.criteria.toPredicate q.catalog.idField))
    (hkeys : ∀ k ∈ q.sort.withTieBreak q.catalog.idField, names k.physical)
    (hstamp : names q.catalog.freshnessField) {selection : Selection}
    (h : q.selection = .ok selection) : P selection.predicate := by
  obtain ⟨p, hp, h⟩ := bind_eq_ok.1 h
  obtain rfl := Except.ok.inj h
  exact hP.withStamp hstamp (hP.withStamp hstamp (hP.withBounds hkeys hcriteria hp) _ _) _ _

end Closed
end Predicate
end Paging
