/-
# HMAC-SHA256

A keyed hash: the message is hashed behind the key mixed with one pad, and that digest behind the
key mixed with another. Keys of any length are taken; one longer than a block of the hash is
replaced by its digest, and a shorter one is filled with zeros.
-/
import Paging.Hash.Sha256

namespace Paging
namespace Hmac

/-- The number of bytes in a block of the hash. -/
def blockLength : Nat := 64

/-- The key as one block of the hash. -/
def blockKey (key : List UInt8) : List UInt8 :=
  let short := if key.length > blockLength then Sha256.digest key else key
  short ++ List.replicate (blockLength - short.length) 0

/-- The authentication tag of a message under a key. -/
def tag (key message : List UInt8) : List UInt8 :=
  let block := blockKey key
  Sha256.digest (block.map (· ^^^ 0x5c) ++ Sha256.digest (block.map (· ^^^ 0x36) ++ message))

/-- A tag has 32 bytes, whatever the key and the message. -/
@[simp] theorem length_tag (key message : List UInt8) : (tag key message).length = 32 := by
  simp [tag]

end Hmac
end Paging
