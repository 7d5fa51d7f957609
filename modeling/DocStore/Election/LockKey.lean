import DocStore.Cipher.Sha256
import DocStore.Text.Utf8

/-!
# Lock keys

A lock is known to the server by a key of 64 bits.  Everyone who makes the key
of one name gets the same key.  The server lists a held key as two halves of 32
bits, read as numbers without a sign.
-/

namespace DocStore.Election

/-- The key of a lock. -/
structure LockKey where
  bits : BitVec 64
  deriving DecidableEq, Inhabited

namespace LockKey

/-- The number that a list of bytes writes, the most significant first. -/
def numberOf (bytes : List UInt8) : Nat := bytes.foldl (fun n b => 256 * n + b.toNat) 0

/-- The key of a name: the first eight bytes of its digest. -/
def ofName (name : String) : LockKey :=
  ⟨.ofNat 64 (numberOf ((Cipher.Sha256.digest (Text.utf8 name)).take 8))⟩

/-- The key with a signed value. -/
def ofInt (n : Int) : LockKey := ⟨.ofInt 64 n⟩

/-- The key as a signed value, which is how it is bound. -/
def toInt (key : LockKey) : Int := key.bits.toInt

/-- The signed value in decimal. -/
def text (key : LockKey) : String := toString key.toInt

/-- The upper and the lower half. -/
def halves (key : LockKey) : Nat × Nat :=
  (key.bits.toNat / 0x100000000, key.bits.toNat % 0x100000000)

theorem halves_lt (key : LockKey) : key.halves.1 < 0x100000000 ∧ key.halves.2 < 0x100000000 := by
  have := key.bits.isLt
  simp only [halves]
  omega

end LockKey

end DocStore.Election
