/-
# Tokens are read back

A cursor that can be written is written within the length that a reader allows, signed with the
key, and without a number that its JSON cannot hold. So reading the token with the same key finds
the tag in order, the payload in Base64 and the JSON of the cursor. Main statement:
`decode_of_encode`, the token of a cursor is read as the same cursor.
-/
import Paging.Proofs.Document
import Paging.Proofs.Token

namespace Paging
namespace Token

variable {key token : List UInt8} {c : Cursor}

/-- A cursor that passes the check for numbers has only values that JSON can hold. -/
theorem finite_of_nonFinite? (h : nonFinite? c = none) :
    (∀ v, c.freshness = some v → v.IsFinite) ∧
      ∀ e ∈ c.fields.entries, ∀ v, e.2 = some v → v.IsFinite := by
  have hfinite {o : Option Value} (ho : isNonFinite o = false) : ∀ v, o = some v → v.IsFinite := by
    rintro _ rfl x rfl
    simpa [isNonFinite] using ho
  unfold nonFinite? at h
  split at h
  · cases h
  · next hfind =>
    split_ifs at h with hfreshness
    rw [Bool.not_eq_true] at hfreshness
    refine ⟨hfinite hfreshness, fun e he => hfinite ?_⟩
    simpa using List.find?_eq_none.1 hfind e he

/-- When a cursor can be written, and as what. -/
theorem encode_eq_ok_iff :
    encode key c = .ok token ↔ nonFinite? c = none ∧ token.length ≤ mostBytes ∧
      token = sign key (payload c) := by
  unfold encode
  cases hcheck : nonFinite? c with
  | some field => simp
  | none =>
    by_cases hlong : mostBytes < (sign key (payload c)).length
    · simp only [if_pos hlong, reduceCtorEq, true_and, false_iff]
      rintro ⟨hshort, rfl⟩
      omega
    · simp only [if_neg hlong, Except.ok.injEq, true_and]
      constructor
      · rintro rfl
        exact ⟨Nat.not_lt.1 hlong, rfl⟩
      · rintro ⟨-, rfl⟩
        rfl

/-- **The token of a cursor is read as the same cursor.** -/
theorem decode_of_encode (h : encode key c = .ok token) : decode key token = .ok c := by
  obtain ⟨hcheck, hlength, rfl⟩ := encode_eq_ok_iff.1 h
  obtain ⟨hfreshness, hfields⟩ := finite_of_nonFinite? hcheck
  have hread : Cursor.ofJson.ofBytes? (Text.utf8 c.toJson.render) = some c :=
    (Cursor.denotes_cursor 124 hfreshness hfields).ofBytes?
  exact decode_eq_ok_iff.2 ⟨hlength, payload c, _, separator_not_mem_encode _, rfl, rfl, hread⟩

/-- The length of a token in terms of its payload. -/
theorem length_sign (key payload : List UInt8) :
    (sign key payload).length = payload.length + 44 := by
  rw [sign, List.length_append, List.length_cons, Base64.length_encode, Hmac.length_tag]

/-- A cursor with an escaped name, an emoji, negative zero, the least positive number, a null, an
integer, and a leap second of a year before zero. -/
def mixedCursor : Cursor :=
  ⟨.ofNat 7, some (.timestamp ⟨-62198755201, 1500000000, by decide⟩),
    .ofList [("\"\\\n\x00", some (.string "é😀")), ("i", some (.int (-9223372036854775808))),
      ("n", none), ("x", some (.float ⟨0x8000000000000000⟩)), ("y", some (.float ⟨1⟩))]⟩

/-- The cursor of every kind of value becomes a token and comes back. -/
theorem decode_of_encode_mixed :
    ∃ token, encode [1, 2, 3] mixedCursor = .ok token ∧
      decode [1, 2, 3] token = .ok mixedCursor := by
  have hencode : encode [1, 2, 3] mixedCursor = .ok (sign [1, 2, 3] (payload mixedCursor)) :=
    encode_eq_ok_iff.2 ⟨by decide +kernel, by rw [length_sign]; decide +kernel, rfl⟩
  exact ⟨_, hencode, decode_of_encode hencode⟩

end Token
end Paging
