/-
# Entity ids

A document is known by a number of 128 bits. Ids are ordered as numbers, and the order of ids is
the last resort of every sort. An id has two texts: the URL-safe Base64 of its sixteen bytes,
which is how it is displayed, and 26 digits in base 32, which is how it travels in JSON. The
base-32 alphabet leaves out the letters `I`, `L`, `O` and `U`; small letters are read as capitals,
and bits beyond the 128 are dropped.
-/
import Paging.Bytes
import Paging.Text.Base64
import Paging.Text.Utf8

namespace Paging

/-- The number of ids: there are 128 bits in each. -/
def idCount : Nat := 0x100000000000000000000000000000000

/-- A number of 128 bits that names a document. -/
structure EntityId where
  number : Nat
  number_lt : number < idCount
  deriving DecidableEq, Repr

/-- Why a text names no entity. -/
inductive IdError
  | invalidBase64 (cause : Base64.DecodeError)
  | invalidLength
  deriving DecidableEq, Repr

/-- The wording of an id error. -/
def IdError.message : IdError → String
  | invalidBase64 cause => "invalid base64: " ++ cause.message
  | invalidLength => "entity ids are 16 bytes"

namespace EntityId

/-- The id with the lowest 128 bits of a number. -/
def ofNat (n : Nat) : EntityId :=
  ⟨n % idCount, Nat.mod_lt _ (by decide)⟩

instance : Inhabited EntityId := ⟨ofNat 0⟩

/-- Ids are ordered as numbers. -/
instance : Ord EntityId := ⟨fun a b => compare a.number b.number⟩

/-- Ids are ordered as numbers. -/
theorem compare_def (a b : EntityId) : compare a b = compare a.number b.number := rfl

/-- An id is its number. -/
theorem ext_number {a b : EntityId} (h : a.number = b.number) : a = b := by
  cases a; cases b; simp_all

instance : Std.TransOrd EntityId where
  eq_swap := by intro a b; exact @Std.OrientedCmp.eq_swap Nat compare _ a.number b.number
  isLE_trans := by
    intro a b c
    exact @Std.TransCmp.isLE_trans Nat compare _ a.number b.number c.number

instance : Std.LawfulEqOrd EntityId where
  compare_self := by intro a; exact @Std.ReflCmp.compare_self Nat compare _ a.number
  eq_of_compare := by
    intro a b h
    exact ext_number (Nat.compare_eq_eq.1 (by simpa [compare_def] using h))

/-- The sixteen bytes of an id, the most significant first. -/
def toBytes (id : EntityId) : List UInt8 :=
  bigEndian 16 id.number

/-- The id with the given bytes, of which there must be sixteen. -/
def ofBytes? (bytes : List UInt8) : Option EntityId :=
  if bytes.length = 16 then some (ofNat (ofBigEndian bytes)) else none

/-- The Base64 text of an id, as bytes. -/
def base64 (id : EntityId) : List UInt8 :=
  Base64.encode id.toBytes

/-- The id that a Base64 text names. The text is given by its bytes. -/
def ofBase64 (text : List UInt8) : Except IdError EntityId :=
  match Base64.decode text with
  | .error cause => .error (.invalidBase64 cause)
  | .ok bytes =>
    match ofBytes? bytes with
    | some id => .ok id
    | none => .error .invalidLength

/-- An id as it is displayed. -/
def display (id : EntityId) : String :=
  Text.ofAscii id.base64

/-- The base-32 alphabet. -/
def alphabet : List Char := "0123456789ABCDEFGHJKMNPQRSTVWXYZ".toList

/-- The last `width` base-32 digits of a number. -/
def base32Digits : Nat → Nat → List Char
  | 0, _ => []
  | width + 1, n => base32Digits width (n / 32) ++ [alphabet[n % 32]?.getD '0']

/-- The 26 base-32 digits of an id. -/
def base32 (id : EntityId) : String :=
  String.ofList (base32Digits 26 id.number)

/-- The value of a base-32 digit, in either case. -/
def base32Value? (c : Char) : Option Nat :=
  alphabet.findIdx? (· = c.toUpper)

/-- The id that 26 base-32 digits name. -/
def ofBase32? (text : String) : Option EntityId :=
  if text.toList.length = 26 then
    (text.toList.foldlM (fun n c => (base32Value? c).map (n * 32 + ·)) 0).map ofNat
  else none

/-- An id has sixteen bytes. -/
@[simp] theorem length_toBytes (id : EntityId) : id.toBytes.length = 16 := by
  simp [toBytes]

/-- **The bytes of an id name it.** -/
@[simp] theorem ofBytes?_toBytes (id : EntityId) : ofBytes? id.toBytes = some id := by
  have h : ofBigEndian id.toBytes = id.number := by
    rw [toBytes, ofBigEndian_bigEndian, show Nat.pow 256 16 = idCount from rfl,
      Nat.mod_eq_of_lt id.number_lt]
  simp only [ofBytes?, length_toBytes, if_true, h, Option.some.injEq]
  exact ext_number (Nat.mod_eq_of_lt id.number_lt)

/-- The greatest id in both texts; digits that stand for more than 128 bits; letters left out. -/
example : (ofNat (idCount - 1)).display = "_____________________w" ∧
    (ofNat (idCount - 1)).base32 = "7ZZZZZZZZZZZZZZZZZZZZZZZZZ" ∧
    ofBase32? "zzzzzzzzzzzzzzzzzzzzzzzzzz" = some (ofNat (idCount - 1)) ∧
    ofBase32? "0000000000000000000000000I" = none := by decide +kernel

end EntityId
end Paging
