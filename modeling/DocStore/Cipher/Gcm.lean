import DocStore.Cipher.Aes

/-!
# Galois counter mode

A text is sealed under a nonce of twelve bytes: it is added to a stream of
blocks made from a counter, and a tag of sixteen bytes over the result follows.
The mode works with any function on blocks.

Main statement: `decrypt_eq_some_iff`, a sealed text opens to exactly the text
that was sealed, and nothing else opens.
-/

namespace DocStore.Cipher.Gcm

variable (f : Block → Block)

/-! ## The tag -/

/-- A block as a number, the first byte the most significant. -/
def number (block : Block) : Nat := block.foldl (fun n b => 256 * n + b.toNat) 0

/-- The block of a number. -/
def blockOf (n : Nat) : Block := .ofFn fun i => UInt8.ofNat (n >>> (8 * (15 - i.val)))

/-- The product in the field of `2^128` elements, the most significant bit of a number
being the constant term. -/
def mul (x y : Nat) : Nat :=
  ((List.range 128).foldl
    (fun (acc : Nat × Nat) i =>
      let sum := if x.testBit (127 - i) then acc.1 ^^^ acc.2 else acc.1
      let shifted := acc.2 / 2
      (sum, if acc.2.testBit 0 then shifted ^^^ (0xE1 <<< 120) else shifted))
    (0, y)).1

/-- The first `count` blocks of a list of bytes. -/
def blocksOf : (count : Nat) → List UInt8 → List Block
  | 0, _ => []
  | count + 1, bytes => .ofBytes bytes :: blocksOf count (bytes.drop 16)

/-- How many blocks a list of bytes fills, the last one perhaps in part. -/
def blockCount (bytes : List UInt8) : Nat := (bytes.length + 15) / 16

/-- The hash of a sealed text: its blocks and its length in bits as the coefficients of
a polynomial. -/
def hash (text : List UInt8) : Block :=
  let key := number (f .zero)
  let coefficients :=
    (blocksOf (blockCount text) text).map number ++ [8 * text.length]
  blockOf (coefficients.foldl (fun y x => mul (y ^^^ x) key) 0)

/-! ## The stream -/

/-- The counter block of a nonce, with the count in the last four bytes. -/
def counter (nonce : List UInt8) (count : Nat) : Block :=
  .ofBytes (nonce.take 12 ++ [UInt8.ofNat (count >>> 24), UInt8.ofNat (count >>> 16),
    UInt8.ofNat (count >>> 8), UInt8.ofNat count])

/-- The stream a text is added to.  The counter of the first block is two. -/
def stream (nonce : List UInt8) (length : Nat) : List UInt8 :=
  (List.range ((length + 15) / 16)).flatMap fun i => (f (counter nonce (i + 2))).toList

/-- Adds the stream to a text. -/
def cover (nonce text : List UInt8) : List UInt8 :=
  List.zipWith (· ^^^ ·) text (stream f nonce text.length)

/-- The tag of a covered text. -/
def tag (nonce covered : List UInt8) : List UInt8 :=
  ((hash f covered).xor (f (counter nonce 1))).toList

/-! ## Encrypting -/

def tagLength : Nat := 16

/-- The covered text and its tag. -/
def encrypt (nonce text : List UInt8) : List UInt8 :=
  let covered := cover f nonce text
  covered ++ tag f nonce covered

/-- The text, if the tag is right. -/
def decrypt (nonce sealed : List UInt8) : Option (List UInt8) :=
  if sealed.length < tagLength then none
  else
    let covered := sealed.take (sealed.length - tagLength)
    if sealed.drop (sealed.length - tagLength) = tag f nonce covered then
      some (cover f nonce covered)
    else none

/-! ## Laws -/

theorem length_stream (nonce : List UInt8) (length : Nat) :
    (stream f nonce length).length = 16 * ((length + 15) / 16) := by
  simp only [stream, List.length_flatMap]
  generalize (length + 15) / 16 = n
  induction n with
  | zero => rfl
  | succ n ih => rw [List.range_succ, List.map_append, List.sum_append, ih]; simp; omega

theorem length_cover (nonce text : List UInt8) :
    (cover f nonce text).length = text.length := by
  simp only [cover, List.length_zipWith, length_stream]
  omega

theorem zipWith_xor_cancel (text key : List UInt8) (h : text.length ≤ key.length) :
    List.zipWith (· ^^^ ·) (List.zipWith (· ^^^ ·) text key) key = text := by
  induction text generalizing key with
  | nil => simp
  | cons a text ih =>
      cases key with
      | nil => simp at h
      | cons k key =>
          simp only [List.zipWith_cons_cons, List.cons.injEq]
          refine ⟨?_, ih key (by simpa using h)⟩
          rw [UInt8.xor_assoc, UInt8.xor_self, UInt8.xor_zero]

/-- Adding the stream twice gives the text back. -/
theorem cover_cover (nonce text : List UInt8) :
    cover f nonce (cover f nonce text) = text := by
  have hlen := length_cover f nonce text
  simp only [cover] at hlen ⊢
  rw [hlen]
  exact zipWith_xor_cancel _ _ (by rw [length_stream]; omega)

theorem length_tag (nonce covered : List UInt8) :
    (tag f nonce covered).length = tagLength := by
  simp [tag, tagLength]

/-- A sealed text opens to the text it was made of, and only such a text opens. -/
theorem decrypt_eq_some_iff {nonce sealed text : List UInt8} :
    decrypt f nonce sealed = some text ↔ sealed = encrypt f nonce text := by
  constructor
  · intro h
    simp only [decrypt] at h
    split at h
    · simp at h
    · rename_i hlong
      split at h
      · rename_i htag
        simp only [Option.some.injEq] at h
        rw [← h, encrypt, cover_cover, ← htag, List.take_append_drop]
      · simp at h
  · rintro rfl
    have hlen : (encrypt f nonce text).length - tagLength = (cover f nonce text).length := by
      simp [encrypt, length_tag]
    have hlong : ¬ (encrypt f nonce text).length < tagLength := by
      simp [encrypt, length_tag]
    simp only [decrypt, if_neg hlong, hlen]
    simp [encrypt, cover_cover]

end DocStore.Cipher.Gcm
