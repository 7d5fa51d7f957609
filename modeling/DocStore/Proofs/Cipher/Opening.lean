import Mathlib.Data.String.Basic
import DocStore.Cipher.Envelope
import DocStore.Proofs.Text.Base64

/-!
# Opened envelopes

An envelope opens to a secret exactly when it was sealed from it.  The three layers
of an envelope are taken off one after the other, each with a law of its own:

* `decode_byteChars_eq_ok_iff`: the base64 texts, and the bytes they stand for;
* `Gcm.decrypt_eq_some_iff`: the sealed bytes under a nonce;
* `Text.ofUtf8_eq_ok_iff`: the bytes of a text.

`Envelope.decrypt_eq_ok_iff` puts them together, `Envelope.decrypt_cases` says that
everything else is an encryption error, and `Envelope.attempt_eq` that no cut ever
asks for more bytes than there are.
-/

namespace DocStore

/-! ## ASCII texts and their bytes -/

theorem Text.utf8_ofList {cs : List Char} (h : ∀ c ∈ cs, c.toNat < 128) :
    utf8 (String.ofList cs) = cs.map fun c => UInt8.ofNat c.toNat := by
  have hchars : cs.flatMap String.utf8EncodeChar = cs.map fun c => UInt8.ofNat c.toNat := by
    induction cs with
    | nil => rfl
    | cons c cs ih =>
      obtain ⟨hc, hcs⟩ := List.forall_mem_cons.1 h
      have hsmall : c.toNat ≤ 127 := Nat.le_of_lt_succ hc
      rw [List.flatMap_cons, ih hcs, List.map_cons]
      simp [String.utf8EncodeChar, hsmall]
  rw [utf8, String.toUTF8, String.toByteArray_ofList, List.utf8Encode, hchars]
  simp

theorem Text.utf8_injective {s t : String} (h : utf8 s = utf8 t) : s = t := by
  have hs : ofUtf8 (utf8 t) = .ok s := ofUtf8_eq_ok_iff.2 h.symm
  have ht : ofUtf8 (utf8 t) = .ok t := ofUtf8_eq_ok_iff.2 rfl
  exact Except.ok.inj (hs.symm.trans ht)

namespace Cipher

namespace Envelope

/-- Only an ASCII text has its own characters as its bytes. -/
theorem byteChars_eq_iff {s : String} {cs : List Char} (h : ∀ c ∈ cs, c.toNat < 128) :
    byteChars s = cs ↔ s = String.ofList cs := by
  have hbyte : ∀ b : UInt8, UInt8.ofNat (Char.ofNat b.toNat).toNat = b := fun b => by
    have hall : ∀ n < 256, (Char.ofNat n).toNat = n := by decide +kernel
    rw [hall b.toNat b.toNat_lt, UInt8.ofNat_toNat]
  constructor
  · intro hchars
    apply Text.utf8_injective
    rw [Text.utf8_ofList h, ← hchars, byteChars, List.map_map]
    simp [Function.comp_def, hbyte]
  · rintro rfl
    rw [byteChars, Text.utf8_ofList h, List.map_map]
    refine (List.map_congr_left fun c hc => ?_).trans (List.map_id cs)
    have hsmall : c.toNat < 256 := Nat.lt_trans (h c hc) (by decide)
    simp [UInt8.toNat_ofNat_of_lt' hsmall, Char.ofNat_toNat]

/-- The texts that are read as base64, and their bytes. -/
theorem decode_byteChars_eq_ok_iff {envelope : String} {bytes : List UInt8} :
    Text.Base64.decode (byteChars envelope) = .ok bytes ↔ ∃ parts : List (List UInt8),
      envelope = String.ofList (parts.flatMap Text.Base64.encode) ∧ parts.flatten = bytes := by
  rw [Text.Base64.decode_eq_ok_iff]
  refine exists_congr fun parts => and_congr (byteChars_eq_iff ?_) eq_comm
  intro c hc
  obtain ⟨part, -, hpart⟩ := List.mem_flatMap.1 hc
  exact Text.Base64.encode_lt part c hpart

/-! ## Opening -/

variable (f : Block → Block)

/-- What the bytes behind a nonce are opened as. -/
def openSealed (nonce sealed : List UInt8) : Except StoreError String :=
  if coveredLimit + Gcm.tagLength < sealed.length then
    .error (.encryption ("decryption failed: " ++ fault))
  else
    match Gcm.decrypt f nonce sealed with
    | none => .error (.encryption ("decryption failed: " ++ fault))
    | some secret =>
        (Text.ofUtf8 secret).mapError fun e => .encryption ("secret is not UTF-8: " ++ e.message)

/-- What the bytes of an envelope are opened as: the nonce comes first. -/
def openBytes (bytes : List UInt8) : Except StoreError String :=
  if bytes.length ≤ 12 then .error (.encryption "envelope too short")
  else openSealed f (bytes.take 12) (bytes.drop 12)

theorem decrypt_of_decode_ok {envelope : String} {bytes : List UInt8}
    (h : Text.Base64.decode (byteChars envelope) = .ok bytes) :
    decrypt f envelope = openBytes f bytes := by
  rw [decrypt, h]
  rfl

theorem decrypt_of_decode_error {envelope : String} {fault : Text.Base64.Fault}
    (h : Text.Base64.decode (byteChars envelope) = .error fault) :
    decrypt f envelope = .error (.encryption ("invalid envelope: " ++ fault.message)) := by
  rw [decrypt, h]
  rfl

variable {f}

theorem mapError_eq_ok_iff {ε δ α : Type} {x : Except ε α} {g : ε → δ} {a : α} :
    x.mapError g = .ok a ↔ x = .ok a := by
  cases x <;> simp [Except.mapError]

/-- The bytes behind a nonce open to the text whose bytes were sealed under it. -/
theorem openSealed_eq_ok_iff {nonce sealed : List UInt8} {secret : String} :
    openSealed f nonce sealed = .ok secret ↔
      sealed = Gcm.encrypt f nonce (Text.utf8 secret) ∧
        (Text.utf8 secret).length ≤ coveredLimit := by
  have hlength : (Gcm.encrypt f nonce (Text.utf8 secret)).length =
      (Text.utf8 secret).length + Gcm.tagLength := by
    rw [Gcm.encrypt, List.length_append, Gcm.length_cover, Gcm.length_tag]
  rw [openSealed]
  split
  · rename_i hlong
    refine iff_of_false (fun hok => by cases hok) ?_
    rintro ⟨rfl, hsmall⟩
    rw [hlength] at hlong
    omega
  · rename_i hlong
    have hopen : sealed = Gcm.encrypt f nonce (Text.utf8 secret) →
        (Text.utf8 secret).length ≤ coveredLimit := by
      rintro rfl
      rw [hlength] at hlong
      omega
    rw [and_iff_left_of_imp hopen, ← Gcm.decrypt_eq_some_iff]
    split
    · rename_i hnone
      simp [hnone]
    · rename_i bytes hsome
      rw [hsome, mapError_eq_ok_iff, Text.ofUtf8_eq_ok_iff, Option.some.injEq]

theorem openSealed_cases (nonce sealed : List UInt8) :
    (∃ secret, openSealed f nonce sealed = .ok secret) ∨
      ∃ message, openSealed f nonce sealed = .error (.encryption message) := by
  rw [openSealed]
  split
  · exact .inr ⟨_, rfl⟩
  · split
    · exact .inr ⟨_, rfl⟩
    · rename_i bytes hsome
      cases Text.ofUtf8 bytes with
      | ok secret => exact .inl ⟨secret, rfl⟩
      | error fault => exact .inr ⟨_, rfl⟩

/-- The bytes of an envelope, a nonce in front, open to the text that was sealed under it. -/
theorem openBytes_eq_ok_iff {bytes : List UInt8} {secret : String} :
    openBytes f bytes = .ok secret ↔
      (∃ nonce : Nonce, bytes = nonce.toList ++ Gcm.encrypt f nonce.toList (Text.utf8 secret)) ∧
        (Text.utf8 secret).length ≤ coveredLimit := by
  rw [openBytes]
  split
  · rename_i hshort
    refine iff_of_false (fun hok => by cases hok) ?_
    rintro ⟨⟨nonce, rfl⟩, -⟩
    rw [List.length_append, Gcm.encrypt, List.length_append, Gcm.length_tag,
      Vector.length_toList] at hshort
    have htag : Gcm.tagLength = 16 := rfl
    omega
  · rename_i hlong
    rw [openSealed_eq_ok_iff]
    refine and_congr_left fun _ => ⟨fun hsealed => ?_, ?_⟩
    · have hnonce : (bytes.take 12).toArray.size = 12 := by
        rw [List.size_toArray, List.length_take]
        omega
      refine ⟨⟨(bytes.take 12).toArray, hnonce⟩, ?_⟩
      conv_lhs => rw [← List.take_append_drop 12 bytes]
      rw [hsealed]
      rfl
    · rintro ⟨nonce, rfl⟩
      have hnonce : nonce.toList.length = 12 := Vector.length_toList
      rw [List.take_left' hnonce, List.drop_left' hnonce]

/-- An envelope of a secret: base64 for a nonce of twelve bytes, the bytes of the secret covered
under it, and the tag of sixteen bytes. -/
def Seals (f : Block → Block) (envelope secret : String) : Prop :=
  ∃ (nonce : Nonce) (parts : List (List UInt8)),
    envelope = String.ofList (parts.flatMap Text.Base64.encode) ∧
      let covered := Gcm.cover f nonce.toList (Text.utf8 secret)
      parts.flatten = nonce.toList ++ (covered ++ Gcm.tag f nonce.toList covered)

/-- An envelope opens to a secret exactly when it is one of this secret. -/
theorem decrypt_eq_ok_iff {envelope secret : String} :
    decrypt f envelope = .ok secret ↔
      Seals f envelope secret ∧ (Text.utf8 secret).length ≤ coveredLimit := by
  have hseals : Seals f envelope secret ↔ ∃ nonce : Nonce,
      Text.Base64.decode (byteChars envelope) =
        .ok (nonce.toList ++ Gcm.encrypt f nonce.toList (Text.utf8 secret)) :=
    exists_congr fun nonce => decode_byteChars_eq_ok_iff.symm
  rw [hseals]
  cases hdecode : Text.Base64.decode (byteChars envelope) with
  | error fault =>
    rw [decrypt_of_decode_error f hdecode]
    exact iff_of_false nofun fun hseal => by
      obtain ⟨⟨nonce, hnonce⟩, -⟩ := hseal
      exact nomatch hnonce
  | ok bytes =>
    rw [decrypt_of_decode_ok f hdecode, openBytes_eq_ok_iff]
    simp only [Except.ok.injEq]

/-- An envelope that does not open is an encryption error. -/
theorem decrypt_cases (envelope : String) :
    (∃ secret, decrypt f envelope = .ok secret) ∨
      ∃ message, decrypt f envelope = .error (.encryption message) := by
  cases hdecode : Text.Base64.decode (byteChars envelope) with
  | error fault => exact .inr ⟨_, decrypt_of_decode_error f hdecode⟩
  | ok bytes =>
    rw [decrypt_of_decode_ok f hdecode, openBytes]
    split
    · exact .inr ⟨_, rfl⟩
    · exact openSealed_cases _ _

/-! ## Cuts that may fail -/

/-- The first `n` bytes and the others, if there are so many. -/
def splitAt? (n : Nat) (bytes : List UInt8) : Option (List UInt8 × List UInt8) :=
  if n ≤ bytes.length then some (bytes.splitAt n) else none

/-- A nonce of exactly twelve bytes. -/
def nonceOf? (bytes : List UInt8) : Option Nonce :=
  if h : bytes.length = 12 then some ⟨bytes.toArray, h⟩ else none

/-- Opening an envelope where a cut behind more bytes than there are, and a nonce of another
length, have no outcome at all. -/
def attempt (f : Block → Block) (envelope : String) : Option (Except StoreError String) :=
  match Text.Base64.decode (byteChars envelope) with
  | .error fault => some (.error (.encryption ("invalid envelope: " ++ fault.message)))
  | .ok bytes =>
      if bytes.length ≤ 12 then some (.error (.encryption "envelope too short"))
      else do
        let (front, sealed) ← splitAt? 12 bytes
        let nonce ← nonceOf? front
        some (openSealed f nonce.toList sealed)

/-- Opening an envelope always has an outcome. -/
theorem attempt_eq (envelope : String) : attempt f envelope = some (decrypt f envelope) := by
  rw [attempt]
  cases hdecode : Text.Base64.decode (byteChars envelope) with
  | error fault => rw [decrypt_of_decode_error f hdecode]
  | ok bytes =>
    rw [decrypt_of_decode_ok f hdecode, openBytes]
    by_cases hshort : bytes.length ≤ 12
    · simp only [hshort, if_true]
    · have hroom : 12 ≤ bytes.length := by omega
      have hnonce : (bytes.take 12).length = 12 := by
        rw [List.length_take]
        omega
      simp only [hshort, if_false, splitAt?, hroom, if_true, List.splitAt_eq, nonceOf?, hnonce,
        dif_pos, bind, Option.bind]
      rfl

/-! ## Sealing -/

/-- A secret that one nonce can cover is sealed. -/
theorem encrypt_of_le (nonce : Nonce) {secret : String}
    (h : (Text.utf8 secret).length ≤ textLimit) :
    ∃ envelope, encrypt f nonce secret = .ok envelope ∧ Seals f envelope secret := by
  refine ⟨_, if_neg (Nat.not_lt.2 h), nonce,
    [nonce.toList ++ Gcm.encrypt f nonce.toList (Text.utf8 secret)], ?_, ?_⟩
  · rw [List.flatMap_singleton]
  · rw [List.flatten_singleton]
    rfl

end Envelope

/-- A key opens exactly what was sealed under it.  A secret that one nonce can cover comes out of
an envelope exactly when the envelope is base64 for a nonce, the bytes of the secret covered
under it, and the tag; sealing such a secret, the empty one too, gives an envelope that opens to
it, whatever the nonce.  An envelope is refused, always as an encryption error, exactly when it
holds no secret of a length that is looked at.  And opening never cuts behind more bytes than
there are. -/
theorem SecretKey.cipher_opens_sealed (key : SecretKey) :
    (∀ envelope secret : String, (Text.utf8 secret).length ≤ Envelope.textLimit →
      (key.cipher.decrypt envelope = .ok secret ↔
        Envelope.Seals key.blockFunction envelope secret)) ∧
      (∀ (nonce : Nonce) (secret : String), (Text.utf8 secret).length ≤ Envelope.textLimit →
        ∃ envelope, key.cipher.encrypt nonce secret = .ok envelope ∧
          key.cipher.decrypt envelope = .ok secret) ∧
      (∀ envelope : String, (∃ message, key.cipher.decrypt envelope = .error (.encryption message)) ↔
        ∀ secret, Envelope.Seals key.blockFunction envelope secret →
          Envelope.coveredLimit < (Text.utf8 secret).length) ∧
      ∀ envelope : String,
        Envelope.attempt key.blockFunction envelope = some (key.cipher.decrypt envelope) := by
  have hlimit : Envelope.textLimit ≤ Envelope.coveredLimit := by decide
  have hopens : ∀ envelope secret : String, (Text.utf8 secret).length ≤ Envelope.textLimit →
      (key.cipher.decrypt envelope = .ok secret ↔
        Envelope.Seals key.blockFunction envelope secret) := fun envelope secret hsmall =>
    Envelope.decrypt_eq_ok_iff.trans (and_iff_left (Nat.le_trans hsmall hlimit))
  refine ⟨hopens, fun nonce secret hsmall => ?_, fun envelope => ⟨?_, ?_⟩,
    fun envelope => Envelope.attempt_eq envelope⟩
  · obtain ⟨envelope, hsealed, hseals⟩ := Envelope.encrypt_of_le nonce hsmall
    exact ⟨envelope, hsealed, (hopens envelope secret hsmall).2 hseals⟩
  · rintro ⟨message, herror⟩ secret hseals
    by_contra hsmall
    have hok := Envelope.decrypt_eq_ok_iff.2 ⟨hseals, Nat.not_lt.1 hsmall⟩
    exact nomatch herror.symm.trans hok
  · intro hnone
    obtain ⟨secret, hok⟩ | herror := Envelope.decrypt_cases (f := key.blockFunction) envelope
    · obtain ⟨hseals, hsmall⟩ := Envelope.decrypt_eq_ok_iff.1 hok
      exact absurd hsmall (Nat.not_le.2 (hnone secret hseals))
    · exact herror

/-- The key of zeros. -/
def SecretKey.zero : SecretKey := ⟨List.replicate 32 0, List.length_replicate⟩

theorem SecretKey.cipher_opens_sealed_empty :
    ((Text.utf8 "").length ≤ Envelope.textLimit ∧ ∃ envelope,
      SecretKey.zero.cipher.encrypt (.replicate 12 0) "" = .ok envelope ∧
        SecretKey.zero.cipher.decrypt envelope = .ok "" ∧
        Envelope.Seals SecretKey.zero.blockFunction envelope "") ∧
      (Text.utf8 "grüße").length ≤ Envelope.textLimit ∧ ∃ envelope,
        SecretKey.zero.cipher.encrypt (.replicate 12 255) "grüße" = .ok envelope ∧
          SecretKey.zero.cipher.decrypt envelope = .ok "grüße" ∧
          Envelope.Seals SecretKey.zero.blockFunction envelope "grüße" := by
  obtain ⟨hopens, hround, -, -⟩ := SecretKey.zero.cipher_opens_sealed
  have hempty : (Text.utf8 "").length ≤ Envelope.textLimit := by decide
  have hgreeting : (Text.utf8 "grüße").length ≤ Envelope.textLimit := by decide
  obtain ⟨envelope, hsealed, hopened⟩ := hround (.replicate 12 0) "" hempty
  obtain ⟨envelope', hsealed', hopened'⟩ := hround (.replicate 12 255) "grüße" hgreeting
  exact ⟨⟨hempty, envelope, hsealed, hopened, (hopens envelope "" hempty).1 hopened⟩,
    hgreeting, envelope', hsealed', hopened', (hopens envelope' "grüße" hgreeting).1 hopened'⟩

end Cipher

end DocStore
