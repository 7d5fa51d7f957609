import DocStore.Text.Base64
import DocStore.Text.Case

/-!
# Which texts are base64

`encode` writes a list of bytes in one way.  A reader of whole blocks cannot tell one
list from several whose texts stand one behind the other, and takes nothing else:
`decode_eq_ok_iff`.  Both directions go block by block: `encode_of_readBlock` and
`readBlock_of_encode`.
-/

namespace DocStore.Text.Base64

/-! ## Characters -/

theorem value?_of_large {c : Char} (h : 128 ≤ c.toNat) : value? c = none := by
  have hplus : c ≠ '+' := by
    rintro rfl
    exact absurd h (by decide)
  have hslash : c ≠ '/' := by
    rintro rfl
    exact absurd h (by decide)
  unfold value?
  rw [if_neg (by omega), if_neg (by omega), if_neg (by omega), if_neg hplus, if_neg hslash]

theorem symbol_of_value? {c : Char} {n : Nat} (h : value? c = some n) :
    n < 64 ∧ symbol n = c := by
  have hall := Text.forall_char (P := fun c => ∀ n ∈ value? c, n < 64 ∧ symbol n = c)
    (by decide +kernel) (fun c hlarge n hn => by simp [value?_of_large hlarge] at hn) c
  exact hall n h

theorem symbol_lt (n : Nat) : (symbol n).toNat < 128 := by
  have hall : alphabet.all (fun c => c.toNat < 128) = true := by decide
  rw [symbol, List.getD_eq_getElem?_getD]
  cases h : alphabet[n]? with
  | none => decide
  | some c => simpa using List.all_eq_true.1 hall c (List.mem_of_getElem? h)

/-- Base64 is ASCII. -/
theorem encode_lt (bytes : List UInt8) : ∀ c ∈ encode bytes, c.toNat < 128 := by
  have hfiller : filler.toNat < 128 := by decide
  fun_induction encode bytes with
  | case1 a b c rest ih => simpa [symbol_lt] using ih
  | case2 => simp [symbol_lt, hfiller]
  | case3 => simp [symbol_lt, hfiller]
  | case4 => simp

/-! ## Blocks -/

theorem exists_of_bind {ε α β : Type} {x : Except ε α} {f : α → Except ε β} {b : β}
    (h : x >>= f = .ok b) : ∃ a, x = .ok a ∧ f a = .ok b := by
  cases x with
  | error e => cases h
  | ok a => exact ⟨a, rfl, h⟩

/-- Reading goes on behind a symbol only. -/
theorem exists_symbol_of_bind {β : Type} {position : Nat} {c : Char} {f : Nat → Except Fault β}
    {b : β} (h : readSymbol position c >>= f = .ok b) :
    ∃ n, n < 64 ∧ c = symbol n ∧ f n = .ok b := by
  obtain ⟨n, hread, hrest⟩ := exists_of_bind h
  rw [readSymbol] at hread
  split at hread
  · rename_i m hvalue
    obtain rfl := Except.ok.inj hread
    obtain ⟨hlt, hsymbol⟩ := symbol_of_value? hvalue
    exact ⟨m, hlt, hsymbol.symm, hrest⟩
  · cases hread

section

/-! The bits of the symbols make bytes, and these fall apart into the symbols again. -/

variable {p q r s : Nat}

theorem symbol_first (hp : p < 64) (hq : q < 64) :
    (UInt8.ofNat (p * 4 + q / 16)).toNat / 4 = p := by
  rw [UInt8.toNat_ofNat']
  omega

theorem symbol_second (hq : q < 64) (hr : r < 64) :
    (UInt8.ofNat (p * 4 + q / 16)).toNat % 4 * 16 +
      (UInt8.ofNat (q % 16 * 16 + r / 4)).toNat / 16 = q := by
  rw [UInt8.toNat_ofNat', UInt8.toNat_ofNat']
  omega

theorem symbol_third (hr : r < 64) (hs : s < 64) :
    (UInt8.ofNat (q % 16 * 16 + r / 4)).toNat % 16 * 4 +
      (UInt8.ofNat (r % 4 * 64 + s)).toNat / 64 = r := by
  rw [UInt8.toNat_ofNat', UInt8.toNat_ofNat']
  omega

theorem symbol_fourth (hs : s < 64) : (UInt8.ofNat (r % 4 * 64 + s)).toNat % 64 = s := by
  rw [UInt8.toNat_ofNat']
  omega

end

theorem encode_of_readThree {position : Nat} {a b c : Char} {bytes : List UInt8}
    (h : readThree position a b c = .ok bytes) : encode bytes = [a, b, c, filler] := by
  obtain ⟨p, hp, ha, hbehind⟩ := exists_symbol_of_bind h
  obtain ⟨q, hq, hb, hbehind⟩ := exists_symbol_of_bind hbehind
  obtain ⟨r, hr, hc, hbehind⟩ := exists_symbol_of_bind hbehind
  split at hbehind
  · cases hbehind
  · rename_i hbits
    -- The bits that no byte uses are zero, so the last symbol is not lost either.
    have hthird : (UInt8.ofNat (q % 16 * 16 + r / 4)).toNat % 16 * 4 = r := by
      rw [UInt8.toNat_ofNat']
      omega
    rw [← Except.ok.inj hbehind, ha, hb, hc]
    simp only [encode, symbol_first hp hq, symbol_second hq hr, hthird]

theorem encode_of_readTwo {position : Nat} {a b : Char} {bytes : List UInt8}
    (h : readTwo position a b = .ok bytes) : encode bytes = [a, b, filler, filler] := by
  obtain ⟨p, hp, ha, hbehind⟩ := exists_symbol_of_bind h
  obtain ⟨q, hq, hb, hbehind⟩ := exists_symbol_of_bind hbehind
  split at hbehind
  · cases hbehind
  · rename_i hbits
    have hsecond : (UInt8.ofNat (p * 4 + q / 16)).toNat % 4 * 16 = q := by
      rw [UInt8.toNat_ofNat']
      omega
    rw [← Except.ok.inj hbehind, ha, hb]
    simp only [encode, symbol_first hp hq, hsecond]

/-- A block is read as the bytes that it is the text of. -/
theorem encode_of_readBlock {position : Nat} {a b c d : Char} {bytes : List UInt8}
    (h : readBlock position a b c d = .ok bytes) : encode bytes = [a, b, c, d] := by
  rw [readBlock] at h
  split at h
  · obtain ⟨p, hp, ha, hbehind⟩ := exists_symbol_of_bind h
    obtain ⟨q, hq, hb, hbehind⟩ := exists_symbol_of_bind hbehind
    obtain ⟨r, hr, hc, hbehind⟩ := exists_symbol_of_bind hbehind
    obtain ⟨s, hs, hd, hbehind⟩ := exists_symbol_of_bind hbehind
    rw [← Except.ok.inj hbehind, ha, hb, hc, hd]
    simp only [encode, symbol_first hp hq, symbol_second hq hr, symbol_third hr hs,
      symbol_fourth hs]
  · rename_i hd
    rw [Decidable.not_not.1 hd]
    split at h
    · exact encode_of_readThree h
    · rename_i hc
      rw [Decidable.not_not.1 hc]
      split at h
      · exact encode_of_readTwo h
      · cases h

/-- The text of one block of bytes is read as this block. -/
theorem readBlock_of_encode {position : Nat} {a b c d : Char} {bytes : List UInt8}
    (h : encode bytes = [a, b, c, d]) : readBlock position a b c d = .ok bytes := by
  have hread := readBlocks_encode bytes position
  rw [h] at hread
  obtain ⟨block, hblock, hrest⟩ := exists_of_bind hread
  rw [hblock, ← Except.ok.inj hrest, List.append_nil]

/-! ## Texts -/

/-- A block is read before the others. -/
theorem readBlocks_cons {position : Nat} {a b c d : Char} (block : List UInt8)
    (h : encode block = [a, b, c, d]) (rest : List Char) :
    readBlocks position (a :: b :: c :: d :: rest) =
      (readBlocks (position + 4) rest).map (block ++ ·) := by
  rw [readBlocks, readBlock_of_encode h]
  cases readBlocks (position + 4) rest <;> rfl

/-- What was written is read, whatever stands behind it. -/
theorem readBlocks_encode_append (bytes : List UInt8) (rest : List Char) (position : Nat) :
    readBlocks position (encode bytes ++ rest) =
      (readBlocks (position + (encode bytes).length) rest).map (bytes ++ ·) := by
  fun_induction encode bytes generalizing position with
  | case1 a b c more ih =>
    have hposition : position + 4 + (encode more).length =
        position + ((encode more).length + 1 + 1 + 1 + 1) := by omega
    simp only [List.cons_append, List.length_cons]
    rw [readBlocks_cons [a, b, c] rfl, ih, hposition]
    cases readBlocks (position + ((encode more).length + 1 + 1 + 1 + 1)) rest <;> rfl
  | case2 a b => exact readBlocks_cons [a, b] rfl rest
  | case3 a => exact readBlocks_cons [a] rfl rest
  | case4 =>
    rw [List.nil_append, List.length_nil, Nat.add_zero]
    cases readBlocks position rest <;> rfl

theorem readBlocks_flatMap (parts : List (List UInt8)) (position : Nat) :
    readBlocks position (parts.flatMap encode) = .ok parts.flatten := by
  induction parts generalizing position with
  | nil => rfl
  | cons part parts ih =>
    rw [List.flatMap_cons, readBlocks_encode_append, ih, List.flatten_cons]
    rfl

theorem exists_parts_of_readBlocks {position : Nat} {text : List Char} {bytes : List UInt8}
    (hwhole : text.length % 4 = 0) (h : readBlocks position text = .ok bytes) :
    ∃ parts : List (List UInt8), text = parts.flatMap encode ∧ bytes = parts.flatten := by
  fun_induction readBlocks position text generalizing bytes with
  | case1 position a b c d rest ih =>
    obtain ⟨block, hblock, hbehind⟩ := exists_of_bind h
    obtain ⟨others, hothers, hbehind⟩ := exists_of_bind hbehind
    obtain ⟨parts, htext, hbytes⟩ := ih (by simp at hwhole; omega) hothers
    refine ⟨block :: parts, ?_, ?_⟩
    · rw [List.flatMap_cons, encode_of_readBlock hblock, ← htext]
      rfl
    · rw [List.flatten_cons, ← hbytes, ← Except.ok.inj hbehind]
  | case2 text position hshort =>
    have hnil : text = [] := by
      match text, hwhole with
      | [], _ => rfl
      | [_], hlength => simp at hlength
      | [_, _], hlength => simp at hlength
      | [_, _, _], hlength => simp at hlength
      | a :: b :: c :: d :: rest, _ => exact absurd rfl (hshort a b c d rest)
    exact ⟨[], by rw [hnil]; rfl, (Except.ok.inj h).symm⟩

theorem length_flatMap_encode (parts : List (List UInt8)) :
    (parts.flatMap encode).length % 4 = 0 := by
  induction parts with
  | nil => rfl
  | cons part parts ih =>
    have hpart := length_encode part
    rw [List.flatMap_cons, List.length_append]
    omega

/-- A text is read as some bytes exactly when it is made of the texts of their parts. -/
theorem decode_eq_ok_iff {text : List Char} {bytes : List UInt8} :
    decode text = .ok bytes ↔
      ∃ parts : List (List UInt8), text = parts.flatMap encode ∧ bytes = parts.flatten := by
  constructor
  · intro h
    rw [decode] at h
    split at h
    · rename_i hwhole
      exact exists_parts_of_readBlocks hwhole h
    · cases h
  · rintro ⟨parts, rfl, rfl⟩
    rw [decode, if_pos (length_flatMap_encode parts), readBlocks_flatMap]

end DocStore.Text.Base64
