/-!
# AES with keys of 256 bits

A block of sixteen bytes is changed by fourteen rounds under a key of
thirty-two bytes.  The bytes of a block are the columns of a square one after
the other.  Only the forward direction is here; the modes in use need no other.
-/

namespace DocStore.Cipher

/-- Sixteen bytes. -/
abbrev Block := Vector UInt8 16

namespace Block

/-- The first sixteen bytes of a list, with zeros where it is shorter. -/
def ofBytes (bytes : List UInt8) : Block :=
  let bytes := bytes.toArray
  .ofFn fun i => bytes.getD i 0

def zero : Block := .replicate 16 0

def xor (a b : Block) : Block := .zipWith (· ^^^ ·) a b

end Block

namespace Aes

/-! ## Bytes as polynomials -/

/-- Twice a byte, reduced by `x^8 + x^4 + x^3 + x + 1`. -/
def double (a : UInt8) : UInt8 := (a <<< 1) ^^^ (if a &&& 0x80 = 0 then 0 else 0x1b)

/-- The product of two bytes. -/
def mul (a b : UInt8) : UInt8 :=
  (List.range 8).foldr
    (fun i acc => double acc ^^^ (if b >>> UInt8.ofNat i &&& 1 = 0 then 0 else a)) 0

/-- The inverse of a byte, which is its power `254`; zero has zero. -/
def inverse (a : UInt8) : UInt8 := Nat.repeat (mul a) 254 1

/-- Turns a byte to the left. -/
def turn (a : UInt8) (n : UInt8) : UInt8 := (a <<< n) ||| (a >>> (8 - n))

/-- What stands for every byte. -/
def substitutes : Array UInt8 :=
  .ofFn (n := 256) fun i =>
    let a := inverse (UInt8.ofNat i)
    a ^^^ turn a 1 ^^^ turn a 2 ^^^ turn a 3 ^^^ turn a 4 ^^^ 0x63

def substitute (a : UInt8) : UInt8 := substitutes.getD a.toNat 0

/-! ## Round keys -/

/-- Four bytes. -/
structure Word where
  a : UInt8
  b : UInt8
  c : UInt8
  d : UInt8
  deriving DecidableEq, Inhabited

namespace Word

def xor (v w : Word) : Word := ⟨v.a ^^^ w.a, v.b ^^^ w.b, v.c ^^^ w.c, v.d ^^^ w.d⟩

def substitute (w : Word) : Word :=
  ⟨Aes.substitute w.a, Aes.substitute w.b, Aes.substitute w.c, Aes.substitute w.d⟩

/-- The first byte goes to the end. -/
def turn (w : Word) : Word := ⟨w.b, w.c, w.d, w.a⟩

def bytes (w : Word) : List UInt8 := [w.a, w.b, w.c, w.d]

end Word

/-- Words of four bytes each; bytes that make no whole word are left out. -/
def wordsOf : List UInt8 → List Word
  | a :: b :: c :: d :: rest => ⟨a, b, c, d⟩ :: wordsOf rest
  | _ => []

/-- The word after those of the key so far: the last one, changed at every fourth place,
added to the one eight places back. -/
def nextWord (words : Array Word) : Word :=
  let i := words.size
  let last := words.getD (i - 1) default
  let changed :=
    if i % 8 = 0 then
      last.turn.substitute.xor ⟨Nat.repeat double (i / 8 - 1) 1, 0, 0, 0⟩
    else if i % 8 = 4 then last.substitute
    else last
  (words.getD (i - 8) default).xor changed

/-- Blocks of four words each. -/
def blocksOf : List Word → List Block
  | a :: b :: c :: d :: rest =>
      .ofBytes (a.bytes ++ b.bytes ++ c.bytes ++ d.bytes) :: blocksOf rest
  | _ => []

/-- The keys of the rounds; fifteen for a key of thirty-two bytes. -/
def roundKeys (key : List UInt8) : List Block :=
  let words := (List.range 52).foldl (fun words _ => words.push (nextWord words))
    (wordsOf key).toArray
  blocksOf words.toList

/-! ## Rounds -/

/-- Substitutes every byte and turns the rows: row `r` goes `r` columns to the left. -/
def substituteAndShift (block : Block) : Block :=
  .ofFn fun i => substitute (block.toArray.getD ((i + 4 * (i % 4)) % 16) 0)

/-- Mixes the bytes of each column. -/
def mixColumns (block : Block) : Block :=
  .ofFn fun i =>
    let at' (k : Nat) : UInt8 := block.toArray.getD (i / 4 * 4 + (i + k) % 4) 0
    double (at' 0) ^^^ (double (at' 1) ^^^ at' 1) ^^^ at' 2 ^^^ at' 3

/-- The rounds after the first key: all mix but the last. -/
def rounds : List Block → Block → Block
  | [], block => block
  | [last], block => (substituteAndShift block).xor last
  | key :: rest, block => rounds rest ((mixColumns (substituteAndShift block)).xor key)

/-- The image of a block under a key. -/
def encrypt (key : List UInt8) : Block → Block :=
  match roundKeys key with
  | [] => id
  | first :: rest => fun block => rounds rest (block.xor first)

end Aes

end DocStore.Cipher
