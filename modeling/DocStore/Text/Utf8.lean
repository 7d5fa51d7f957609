/-!
# UTF-8

The bytes of a text, and reading bytes as a text.  Bytes that are no text are
reported with the place of the first character that is not whole.

Main statement: `ofUtf8_eq_ok_iff`, bytes are read as exactly the text whose
bytes they are.
-/

namespace DocStore.Text

/-- The bytes of a text. -/
def utf8 (text : String) : List UInt8 := text.toUTF8.data.toList

/-- A character that is not whole. -/
structure Utf8Fault where
  /-- Where the character starts. -/
  position : Nat
  /-- How many bytes begin a character before one that does not fit; none when the bytes
  end too early. -/
  length : Option Nat
  deriving DecidableEq

namespace Utf8Fault

/-- The fault in words. -/
def message (fault : Utf8Fault) : String :=
  let place := " from index " ++ toString fault.position
  match fault.length with
  | some n => "invalid utf-8 sequence of " ++ toString n ++ " bytes" ++ place
  | none => "incomplete utf-8 byte sequence" ++ place

/-- The least and the greatest value of each byte that follows a first byte; none when no
character starts with it. -/
def followers? (first : UInt8) : Option (List (UInt8 × UInt8)) :=
  let any := (0x80, 0xBF)
  if first < 0x80 then some []
  else if first < 0xC2 then none
  else if first < 0xE0 then some [any]
  else if first = 0xE0 then some [(0xA0, 0xBF), any]
  else if first = 0xED then some [(0x80, 0x9F), any]
  else if first < 0xF0 then some [any, any]
  else if first = 0xF0 then some [(0x90, 0xBF), any, any]
  else if first < 0xF4 then some [any, any, any]
  else if first = 0xF4 then some [(0x80, 0x8F), any, any]
  else none

/-- The first fault of some bytes, where `seen` bytes of the character at `position` came
before and `pending` are to follow. -/
def find? (position seen : Nat) (pending : List (UInt8 × UInt8)) :
    List UInt8 → Option Utf8Fault
  | [] => if pending.isEmpty then none else some ⟨position, none⟩
  | b :: rest =>
      match pending with
      | [] =>
          match followers? b with
          | none => some ⟨position, some 1⟩
          | some [] => find? (position + 1) 0 [] rest
          | some more => find? position 1 more rest
      | (low, high) :: more =>
          if low ≤ b ∧ b ≤ high then
            if more.isEmpty then find? (position + seen + 1) 0 [] rest
            else find? position (seen + 1) more rest
          else some ⟨position, some seen⟩

end Utf8Fault

/-- Reads bytes as a text. -/
def ofUtf8 (bytes : List UInt8) : Except Utf8Fault String :=
  match String.fromUTF8? ⟨bytes.toArray⟩ with
  | some text => .ok text
  | none => .error ((Utf8Fault.find? 0 0 [] bytes).getD ⟨0, none⟩)

/-- Bytes with every character that is not whole replaced by `U+FFFD`, where at most `fuel`
of them are. -/
def repaired : (fuel : Nat) → List UInt8 → List UInt8
  | 0, bytes => bytes
  | fuel + 1, bytes =>
      match Utf8Fault.find? 0 0 [] bytes with
      | none => bytes
      | some fault =>
          let rest := bytes.drop (fault.position + fault.length.getD bytes.length)
          bytes.take fault.position ++ utf8 "\uFFFD" ++ repaired fuel rest

/-- Reads bytes as a text, with replacements for what is none. -/
def ofUtf8Lossy (bytes : List UInt8) : String :=
  match ofUtf8 (repaired bytes.length bytes) with
  | .ok text => text
  | .error _ => ""

theorem fromUTF8?_eq_some_iff {bytes : ByteArray} {text : String} :
    String.fromUTF8? bytes = some text ↔ bytes = text.toUTF8 := by
  simp only [String.fromUTF8?]
  constructor
  · intro h
    split at h
    · simp at h
      rw [← h]
      rfl
    · simp at h
  · rintro rfl
    simp [String.toUTF8, String.isValidUTF8]
    rfl

theorem ofUtf8_eq_ok_iff {bytes : List UInt8} {text : String} :
    ofUtf8 bytes = .ok text ↔ bytes = utf8 text := by
  have key : (⟨bytes.toArray⟩ : ByteArray) = text.toUTF8 ↔ bytes = utf8 text := by
    constructor
    · intro h
      rw [utf8, ← h]
    · rintro rfl
      simp [utf8]
  rw [← key, ← fromUTF8?_eq_some_iff, ofUtf8]
  cases String.fromUTF8? ⟨bytes.toArray⟩ <;> simp

end DocStore.Text
