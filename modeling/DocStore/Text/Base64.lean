/-!
# Base64

Three bytes are written as four characters of six bits each.  At the end, one
byte is written as two characters and two bytes as three, and equals signs fill
the block.

Reading takes whole blocks only.  A filled block may also stand before the end:
the texts of several lists, one behind the other, are the text of all of them.
Bits that no byte uses have to be zero.

Main statement: `readBlocks_encode` reads a list of bytes back as written.
-/

namespace DocStore.Text.Base64

/-- The characters of the values from zero to sixty-three. -/
def alphabet : List Char :=
  "ABCDEFGHIJKLMNOPQRSTUVWXYZabcdefghijklmnopqrstuvwxyz0123456789+/".toList

/-- The character that fills blocks. -/
def filler : Char := '='

/-- The character of a value. -/
def symbol (value : Nat) : Char := alphabet.getD value filler

/-- The value of a character. -/
def value? (c : Char) : Option Nat :=
  let n := c.toNat
  if 65 ≤ n ∧ n ≤ 90 then some (n - 65)
  else if 97 ≤ n ∧ n ≤ 122 then some (n - 71)
  else if 48 ≤ n ∧ n ≤ 57 then some (n + 4)
  else if c = '+' then some 62
  else if c = '/' then some 63
  else none

/-- The text of a list of bytes. -/
def encode : List UInt8 → List Char
  | a :: b :: c :: rest =>
      symbol (a.toNat / 4) :: symbol (a.toNat % 4 * 16 + b.toNat / 16) ::
        symbol (b.toNat % 16 * 4 + c.toNat / 64) :: symbol (c.toNat % 64) :: encode rest
  | [a, b] =>
      [symbol (a.toNat / 4), symbol (a.toNat % 4 * 16 + b.toNat / 16), symbol (b.toNat % 16 * 4),
        filler]
  | [a] => [symbol (a.toNat / 4), symbol (a.toNat % 4 * 16), filler, filler]
  | [] => []

/-! ## Reading -/

/-- What is wrong with a text. -/
inductive FaultKind where
  /-- The text does not end with a block. -/
  | length
  | symbol
  /-- A bit that no byte uses is set. -/
  | trailing
  /-- A block has too many fillers. -/
  | padding
  deriving DecidableEq

/-- What is wrong with a text, and at which of its bytes. -/
structure Fault where
  kind : FaultKind
  position : Nat
  deriving DecidableEq

/-- The fault in words. -/
def Fault.message (fault : Fault) : String :=
  let kind :=
    match fault.kind with
    | .length => "invalid length"
    | .symbol => "invalid symbol"
    | .trailing => "non-zero trailing bits"
    | .padding => "invalid padding length"
  kind ++ " at " ++ toString fault.position

/-- The value of the character at a position. -/
def readSymbol (position : Nat) (c : Char) : Except Fault Nat :=
  match value? c with
  | some n => .ok n
  | none => .error ⟨.symbol, position⟩

/-- The two bytes of a block with one filler. -/
def readThree (position : Nat) (a b c : Char) : Except Fault (List UInt8) := do
  let a ← readSymbol position a
  let b ← readSymbol (position + 1) b
  let c ← readSymbol (position + 2) c
  if c % 4 ≠ 0 then .error ⟨.trailing, position + 2⟩
  else .ok [UInt8.ofNat (a * 4 + b / 16), UInt8.ofNat (b % 16 * 16 + c / 4)]

/-- The byte of a block with two fillers. -/
def readTwo (position : Nat) (a b : Char) : Except Fault (List UInt8) := do
  let a ← readSymbol position a
  let b ← readSymbol (position + 1) b
  if b % 16 ≠ 0 then .error ⟨.trailing, position + 1⟩
  else .ok [UInt8.ofNat (a * 4 + b / 16)]

/-- The bytes of a block that starts at `position`. -/
def readBlock (position : Nat) (a b c d : Char) : Except Fault (List UInt8) := do
  if d ≠ filler then
    let a ← readSymbol position a
    let b ← readSymbol (position + 1) b
    let c ← readSymbol (position + 2) c
    let d ← readSymbol (position + 3) d
    .ok [UInt8.ofNat (a * 4 + b / 16), UInt8.ofNat (b % 16 * 16 + c / 4),
      UInt8.ofNat (c % 4 * 64 + d)]
  else if c ≠ filler then readThree position a b c
  else if b ≠ filler then readTwo position a b
  else .error ⟨.padding, if a = filler then position else position + 1⟩

/-- The bytes of the blocks from `position` on. -/
def readBlocks (position : Nat) : List Char → Except Fault (List UInt8)
  | a :: b :: c :: d :: rest => do
      let bytes ← readBlock position a b c d
      let others ← readBlocks (position + 4) rest
      .ok (bytes ++ others)
  | _ => .ok []

/-- The bytes of a text of single-byte characters. -/
def decode (text : List Char) : Except Fault (List UInt8) :=
  if text.length % 4 = 0 then readBlocks 0 text
  else .error ⟨.length, text.length / 4 * 4⟩

/-! ## Laws -/

theorem value?_symbol {n : Nat} (h : n < 64) : value? (symbol n) = some n := by
  have : ∀ n : Fin 64, value? (symbol n.val) = some n.val := by decide +kernel
  exact this ⟨n, h⟩

theorem symbol_ne_filler {n : Nat} (h : n < 64) : symbol n ≠ filler := by
  have : ∀ n : Fin 64, symbol n.val ≠ filler := by decide +kernel
  exact this ⟨n, h⟩

theorem readSymbol_symbol {n : Nat} (h : n < 64) (position : Nat) :
    readSymbol position (symbol n) = .ok n := by
  simp [readSymbol, value?_symbol h]

theorem length_encode (bytes : List UInt8) : (encode bytes).length % 4 = 0 := by
  fun_induction encode bytes with
  | case1 a b c rest ih => simp only [List.length_cons]; omega
  | case2 => simp
  | case3 => simp
  | case4 => simp

theorem ofNat_eq {n : Nat} {a : UInt8} (h : n = a.toNat) : UInt8.ofNat n = a := by
  rw [h, UInt8.ofNat_toNat]

theorem readBlocks_encode (bytes : List UInt8) (position : Nat) :
    readBlocks position (encode bytes) = .ok bytes := by
  fun_induction encode bytes generalizing position with
  | case1 a b c rest ih =>
      have ha := a.toNat_lt
      have hb := b.toNat_lt
      have hc := c.toNat_lt
      have h0 : a.toNat / 4 < 64 := by omega
      have h1 : a.toNat % 4 * 16 + b.toNat / 16 < 64 := by omega
      have h2 : b.toNat % 16 * 4 + c.toNat / 64 < 64 := by omega
      have h3 : c.toNat % 64 < 64 := by omega
      simp only [readBlocks, readBlock, ne_eq, symbol_ne_filler h3, not_false_eq_true, if_true,
        readSymbol_symbol h0, readSymbol_symbol h1, readSymbol_symbol h2, readSymbol_symbol h3,
        bind, Except.bind, ih]
      rw [ofNat_eq (a := a) (by omega), ofNat_eq (a := b) (by omega),
        ofNat_eq (a := c) (by omega)]
      rfl
  | case2 a b =>
      have ha := a.toNat_lt
      have hb := b.toNat_lt
      have h0 : a.toNat / 4 < 64 := by omega
      have h1 : a.toNat % 4 * 16 + b.toNat / 16 < 64 := by omega
      have h2 : b.toNat % 16 * 4 < 64 := by omega
      have hz : b.toNat % 16 * 4 % 4 = 0 := by omega
      simp only [readBlocks, readBlock, readThree, ne_eq, not_true_eq_false, if_false,
        symbol_ne_filler h2, not_false_eq_true, if_true, readSymbol_symbol h0,
        readSymbol_symbol h1, readSymbol_symbol h2, bind, Except.bind, hz]
      rw [ofNat_eq (a := a) (by omega), ofNat_eq (a := b) (by omega)]
      rfl
  | case3 a =>
      have ha := a.toNat_lt
      have h0 : a.toNat / 4 < 64 := by omega
      have h1 : a.toNat % 4 * 16 < 64 := by omega
      have hz : a.toNat % 4 * 16 % 16 = 0 := by omega
      simp only [readBlocks, readBlock, readTwo, ne_eq, not_true_eq_false, if_false,
        symbol_ne_filler h1, not_false_eq_true, if_true, readSymbol_symbol h0,
        readSymbol_symbol h1, bind, Except.bind, hz]
      rw [ofNat_eq (a := a) (by omega)]
      rfl
  | case4 => rfl

end DocStore.Text.Base64
