/-
# When steps in a row succeed

A computation of several steps, each of which can fail, succeeds when all of them do, and fails as the
first step that fails. The lemmas take its outcome apart into those of the steps. Two computations
have the same outcome when their results are related or they fail in the same way (`SameOutcome`),
and so they have when step after step has.
-/
import Paging.Bytes

namespace Paging

variable {ε δ α β : Type} {x : Except ε α}

/-- A sequence of two computations succeeds when both do, the second on the result of the first. -/
theorem bind_eq_ok {f : α → Except ε β} {b : β} :
    (x >>= f) = .ok b ↔ ∃ a, x = .ok a ∧ f a = .ok b := by
  constructor
  · intro h
    cases x with
    | error e => cases h
    | ok a => exact ⟨a, rfl, h⟩
  · rintro ⟨a, rfl, h⟩
    exact h

/-- A sequence of two computations fails with the error of the one that fails first. -/
theorem bind_eq_error {f : α → Except ε β} {e : ε} :
    (x >>= f) = .error e ↔ x = .error e ∨ ∃ a, x = .ok a ∧ f a = .error e := by
  constructor
  · intro h
    cases x with
    | error e' => exact .inl (congrArg Except.error (Except.error.inj h))
    | ok a => exact .inr ⟨a, rfl, h⟩
  · rintro (rfl | ⟨a, rfl, h⟩)
    · rfl
    · exact h

/-- A mapped computation succeeds with the image of its result. -/
theorem map_eq_ok {f : α → β} {b : β} : x.map f = .ok b ↔ ∃ a, x = .ok a ∧ f a = b := by
  constructor
  · intro h
    cases x with
    | error e => cases h
    | ok a => exact ⟨a, rfl, Except.ok.inj h⟩
  · rintro ⟨a, rfl, rfl⟩
    rfl

/-- A mapped computation fails as it did before. -/
theorem map_eq_error {f : α → β} {e : ε} : x.map f = .error e ↔ x = .error e := by
  constructor
  · intro h
    cases x with
    | error e' => exact congrArg Except.error (Except.error.inj h)
    | ok a => cases h
  · rintro rfl
    rfl

/-- Renaming errors leaves successes as they are. -/
theorem mapError_eq_ok {f : ε → δ} {a : α} : x.mapError f = .ok a ↔ x = .ok a := by
  constructor
  · intro h
    cases x with
    | error e => cases h
    | ok b => exact congrArg Except.ok (Except.ok.inj h)
  · rintro rfl
    rfl

/-- Both succeed with related results, or both fail with the same fault. -/
inductive SameOutcome {γ : Type} (R : α → γ → Prop) : Except ε α → Except ε γ → Prop
  | ok {a : α} {c : γ} (h : R a c) : SameOutcome R (.ok a) (.ok c)
  | error (e : ε) : SameOutcome R (.error e) (.error e)

namespace SameOutcome

variable {γ ζ : Type} {R : α → γ → Prop} {P : β → ζ → Prop} {y : Except ε γ}

/-- Two computations with the same outcome stay so when each is followed by one, if these have the
same outcome on related results. -/
theorem bind (h : SameOutcome R x y) {f : α → Except ε β} {g : γ → Except ε ζ}
    (hfg : ∀ a c, R a c → SameOutcome P (f a) (g c)) : SameOutcome P (x.bind f) (y.bind g) := by
  cases h with
  | ok h => exact hfg _ _ h
  | error e => exact .error e

/-- The outcomes are the same if they are after a map, up to what the map forgets. -/
theorem of_map_eq {f : α → β} {g : γ → β} (h : x.map f = y.map g) :
    SameOutcome (fun a c => f a = g c) x y := by
  cases x with
  | ok a =>
    obtain ⟨c, rfl, hc⟩ := map_eq_ok.1 h.symm
    exact .ok hc.symm
  | error e =>
    obtain rfl := map_eq_error.1 h.symm
    exact .error e

/-- They stay so when their errors are renamed alike. -/
theorem mapError (h : SameOutcome R x y) (f : ε → δ) :
    SameOutcome R (x.mapError f) (y.mapError f) := by
  cases h with
  | ok h => exact .ok h
  | error e => exact .error (f e)

/-- They stay so when their results are mapped to related ones. -/
theorem map (h : SameOutcome R x y) {f : α → β} {g : γ → ζ} (hfg : ∀ a c, R a c → P (f a) (g c)) :
    SameOutcome P (x.map f) (y.map g) := by
  cases h with
  | ok h => exact .ok (hfg _ _ h)
  | error e => exact .error e

end SameOutcome
end Paging
