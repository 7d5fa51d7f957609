import DocStore.Cipher.Gcm
import DocStore.Cipher.Sha256
import DocStore.Error
import DocStore.Text.Base64
import DocStore.Text.Utf8

/-!
# Sealed secrets

A secret is kept as an envelope: the base64 text of a nonce of twelve bytes and
the sealed bytes of the secret.  The nonce is drawn anew for every sealing, so it
is given from outside; opening finds it in the envelope.
-/

namespace DocStore.Cipher

/-- Twelve bytes that are used once. -/
abbrev Nonce := Vector UInt8 12

/-- A key of thirty-two bytes. -/
structure SecretKey where
  bytes : List UInt8
  length_bytes : bytes.length = 32
  deriving DecidableEq

namespace SecretKey

/-- A key given as its bytes. -/
def ofBytes (bytes : List UInt8) : Except StoreError SecretKey :=
  if h : bytes.length = 32 then .ok ⟨bytes, h⟩
  else .error (.configuration "invalid encryption key: Invalid Length")

/-- The key of a passphrase. -/
def ofPassphrase (passphrase : String) : Except StoreError SecretKey :=
  if passphrase = "" then .error (.configuration "no encryption key available")
  else .ok ⟨Sha256.digest (Text.utf8 passphrase), Sha256.length_digest _⟩

/-- The function on blocks that the key selects. -/
def blockFunction (key : SecretKey) : Block → Block := Aes.encrypt key.bytes

end SecretKey

namespace Envelope

/-- The most bytes that one nonce can cover. -/
def textLimit : Nat := 0x1000000000

/-- The most covered bytes that are looked at. -/
def coveredLimit : Nat := 0x1000000010

/-- The words for a text that cannot be sealed or opened. -/
def fault : String := "aead::Error"

/-- A text as its bytes, each one as a character. -/
def byteChars (text : String) : List Char :=
  (Text.utf8 text).map fun b => Char.ofNat b.toNat

variable (f : Block → Block)

/-- The envelope of a secret. -/
def encrypt (nonce : Nonce) (secret : String) : Except StoreError String :=
  let bytes := Text.utf8 secret
  if textLimit < bytes.length then .error (.encryption ("encryption failed: " ++ fault))
  else
    let sealed := Gcm.encrypt f nonce.toList bytes
    .ok (String.ofList (Text.Base64.encode (nonce.toList ++ sealed)))

/-- The secret of an envelope. -/
def decrypt (envelope : String) : Except StoreError String := do
  let bytes ← (Text.Base64.decode (byteChars envelope)).mapError fun e =>
    .encryption ("invalid envelope: " ++ e.message)
  if bytes.length ≤ 12 then
    .error (.encryption "envelope too short")
  let sealed := bytes.drop 12
  if coveredLimit + Gcm.tagLength < sealed.length then
    .error (.encryption ("decryption failed: " ++ fault))
  match Gcm.decrypt f (bytes.take 12) sealed with
  | none => .error (.encryption ("decryption failed: " ++ fault))
  | some secret =>
      (Text.ofUtf8 secret).mapError fun e => .encryption ("secret is not UTF-8: " ++ e.message)

end Envelope

/-- A way to keep secrets. -/
structure SecretCipher where
  encrypt : Nonce → String → Except StoreError String
  decrypt : String → Except StoreError String

/-- Keeps secrets in envelopes under a key. -/
def SecretKey.cipher (key : SecretKey) : SecretCipher where
  encrypt := Envelope.encrypt key.blockFunction
  decrypt := Envelope.decrypt key.blockFunction

/-- How a key shows in messages. -/
def SecretKey.shown (_ : SecretKey) : String := "AesGcmCipher \x7b .. \x7d"

end DocStore.Cipher
