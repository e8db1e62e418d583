/-
# Ids and their Base64 texts

Sixteen bytes are the digits of one id, and every id has sixteen bytes. Their Base64 text has 22
symbols, which is four bits more than the bytes have, and a text whose last symbol has one of these
bits set is not the text of any bytes. So ids and their texts stand for each other
(`base64_bijective`), and what is refused is refused for one of two reasons: the text writes no
bytes, or it writes more or fewer than sixteen.
-/
import Mathlib.Data.List.Induction
import Paging.EntityId
import Paging.Proofs.Text.Base64.Sextets

namespace Paging

/-- **Bytes are the digits of the number that they denote.** -/
theorem bigEndian_ofBigEndian (bytes : List UInt8) :
    bigEndian bytes.length (ofBigEndian bytes) = bytes := by
  induction bytes using List.reverseRecOn with
  | nil => rfl
  | append_singleton bytes b ih =>
    have hb := b.toNat_lt
    have hvalue : ofBigEndian (bytes ++ [b]) = ofBigEndian bytes * 256 + b.toNat := by
      rw [ofBigEndian, List.foldl_append]
      rfl
    have hhigh : (ofBigEndian bytes * 256 + b.toNat) / 256 = ofBigEndian bytes := by omega
    have hlow : UInt8.ofNat (ofBigEndian bytes * 256 + b.toNat) = b := by
      rw [← UInt8.toNat_inj, UInt8.toNat_ofNat']
      omega
    rw [List.length_append, List.length_singleton, hvalue, bigEndian, hhigh, hlow, ih]

namespace EntityId

variable {id : EntityId} {bytes text : List UInt8}

/-- Sixteen bytes name the id whose bytes they are. -/
theorem ofBytes?_eq_some_iff : ofBytes? bytes = some id ↔ bytes = id.toBytes := by
  constructor
  · intro h
    unfold ofBytes? at h
    split_ifs at h with hlength
    obtain rfl := Option.some.inj h
    have hbytes := bigEndian_ofBigEndian bytes
    rw [hlength] at hbytes
    -- the number of sixteen bytes has no bits above those of an id
    have hvalue := ofBigEndian_bigEndian 16 (ofBigEndian bytes)
    rw [hbytes] at hvalue
    exact hbytes.symm.trans (congrArg (bigEndian 16) hvalue)
  · exact fun h => h ▸ ofBytes?_toBytes id

/-- The bytes that are no id are those of another number than sixteen. -/
theorem ofBytes?_eq_none_iff : ofBytes? bytes = none ↔ bytes.length ≠ 16 := by
  unfold ofBytes?
  split_ifs with hlength
  · exact ⟨nofun, fun h => absurd hlength h⟩
  · exact ⟨fun _ => hlength, fun _ => rfl⟩

/-- **An id is read back from its text.** -/
theorem ofBase64_base64 (id : EntityId) : ofBase64 id.base64 = .ok id := by
  rw [ofBase64, base64, Base64.decode_encode]
  simp only [ofBytes?_toBytes]

/-- The text of too many or too few bytes is refused for their number. -/
theorem ofBase64_encode_of_length_ne (h : bytes.length ≠ 16) :
    ofBase64 (Base64.encode bytes) = .error .invalidLength := by
  rw [ofBase64, Base64.decode_encode]
  simp only [ofBytes?_eq_none_iff.2 h]

/-- A text of no bytes at all is refused for the place where Base64 fails. -/
theorem exists_invalidBase64 (h : ∀ bytes, text ≠ Base64.encode bytes) :
    ∃ cause, ofBase64 text = .error (.invalidBase64 cause) := by
  cases hread : Base64.decode text with
  | error cause => exact ⟨cause, by simp only [ofBase64, hread]⟩
  | ok bytes => exact absurd (Base64.decode_eq_ok_iff.1 hread) (h bytes)

/-- A text is that of an id, or that of too few or too many bytes, or it is not the text of any
bytes. -/
theorem text_cases (text : List UInt8) :
    (∃ id : EntityId, text = id.base64) ∨
      (∃ bytes, bytes.length ≠ 16 ∧ text = Base64.encode bytes) ∨
      ∀ bytes, text ≠ Base64.encode bytes := by
  by_cases htext : ∃ bytes, text = Base64.encode bytes
  · obtain ⟨bytes, rfl⟩ := htext
    cases hnamed : ofBytes? bytes with
    | none => exact .inr (.inl ⟨bytes, ofBytes?_eq_none_iff.1 hnamed, rfl⟩)
    | some id => exact .inl ⟨id, congrArg Base64.encode (ofBytes?_eq_some_iff.1 hnamed)⟩
  · exact .inr (.inr fun bytes h => htext ⟨bytes, h⟩)

/-- So an id is read from its own text and from no other. -/
theorem ofBase64_eq_ok_iff : ofBase64 text = .ok id ↔ text = id.base64 := by
  refine ⟨fun h => ?_, fun h => h ▸ ofBase64_base64 id⟩
  rcases text_cases text with ⟨named, htext⟩ | ⟨bytes, hlength, htext⟩ | hnone
  · rw [htext, ofBase64_base64] at h
    rw [htext, Except.ok.inj h]
  · rw [htext, ofBase64_encode_of_length_ne hlength] at h
    cases h
  · obtain ⟨cause, hread⟩ := exists_invalidBase64 hnone
    rw [hread] at h
    cases h

/-- Sixteen bytes have the text of an id, which has 22 symbols. -/
theorem exists_ofBase64_iff : (∃ id, ofBase64 text = .ok id) ↔
    text.length = 22 ∧ ∃ bytes, bytes.length = 16 ∧ text = Base64.encode bytes := by
  constructor
  · rintro ⟨id, h⟩
    have htext := ofBase64_eq_ok_iff.1 h
    refine ⟨?_, id.toBytes, length_toBytes id, htext⟩
    rw [htext, base64, Base64.length_encode, length_toBytes]
  · rintro ⟨-, bytes, hlength, htext⟩
    rcases text_cases text with ⟨id, h⟩ | ⟨other, hother, h⟩ | hnone
    · exact ⟨id, ofBase64_eq_ok_iff.2 h⟩
    · obtain rfl := Base64.encode_injective (htext.symm.trans h)
      exact absurd hlength hother
    · exact absurd htext (hnone bytes)

/-- The texts that are refused for their length are those of another number of bytes. -/
theorem ofBase64_eq_invalidLength_iff : ofBase64 text = .error .invalidLength ↔
    ∃ bytes, bytes.length ≠ 16 ∧ text = Base64.encode bytes := by
  constructor
  · intro h
    rcases text_cases text with ⟨named, htext⟩ | hother | hnone
    · rw [htext, ofBase64_base64] at h
      cases h
    · exact hother
    · obtain ⟨cause, hread⟩ := exists_invalidBase64 hnone
      rw [hread] at h
      cases h
  · rintro ⟨bytes, hlength, rfl⟩
    exact ofBase64_encode_of_length_ne hlength

/-- The texts that are refused as Base64 are those of no bytes. -/
theorem exists_invalidBase64_iff : (∃ cause, ofBase64 text = .error (.invalidBase64 cause)) ↔
    ∀ bytes, text ≠ Base64.encode bytes := by
  refine ⟨fun ⟨cause, h⟩ => ?_, exists_invalidBase64⟩
  rcases text_cases text with ⟨named, htext⟩ | ⟨bytes, hlength, htext⟩ | hnone
  · rw [htext, ofBase64_base64] at h
    cases h
  · rw [htext, ofBase64_encode_of_length_ne hlength] at h
    cases h
  · exact hnone

/-- **Ids and their Base64 texts stand for each other.** The text of an id writes its sixteen bytes
and is read as this id. A text is read as an id exactly if it is the text of this id, and as some id
exactly if it has 22 symbols and writes some sixteen bytes. One that writes another number of bytes
has the wrong length, and every other one is no Base64. -/
theorem base64_bijective :
    (∀ id : EntityId, Base64.Writes id.base64 id.toBytes ∧ ofBase64 id.base64 = .ok id) ∧
    ∀ text,
      (∀ id : EntityId, ofBase64 text = .ok id ↔ text = id.base64) ∧
      ((∃ id, ofBase64 text = .ok id) ↔
        text.length = 22 ∧ ∃ bytes, bytes.length = 16 ∧ Base64.Writes text bytes) ∧
      (ofBase64 text = .error .invalidLength ↔
        ∃ bytes, bytes.length ≠ 16 ∧ Base64.Writes text bytes) ∧
      ((∃ cause, ofBase64 text = .error (.invalidBase64 cause)) ↔
        ∀ bytes, ¬Base64.Writes text bytes) := by
  simp only [Base64.writes_iff]
  refine ⟨fun id => ⟨rfl, ofBase64_base64 id⟩, fun text => ?_⟩
  exact ⟨fun id => ofBase64_eq_ok_iff, exists_ofBase64_iff, ofBase64_eq_invalidLength_iff,
    exists_invalidBase64_iff⟩

end EntityId
end Paging
