import DocStore.Text.Hex
import DocStore.Text.Property

/-!
# Texts shown in messages

A text is shown between double quotes.  The quote, the backslash and the usual
controls have two-character escapes; a character that would not be seen on its
own (unprintable, or attached to its neighbour) is shown by its code point in
braces.  Everything else stands for itself.
-/

namespace DocStore.Text

/-- True when the character is shown by its code point. -/
def isHidden (c : Char) : Bool :=
  if 0x20 ≤ c.toNat && c.toNat < 0x7F then false
  else inRanges unprintable c.toNat || inRanges graphemeExtenders c.toNat

/-- One character inside the quotes. -/
def shownChar (c : Char) : List Char :=
  if c = '"' then ['\\', '"']
  else if c = '\\' then ['\\', '\\']
  else if c = '\t' then ['\\', 't']
  else if c = '\r' then ['\\', 'r']
  else if c = '\n' then ['\\', 'n']
  else if c.toNat = 0 then ['\\', '0']
  else if isHidden c then "\\u\x7b".toList ++ hexDigits c.toNat ++ ['\x7d']
  else [c]

/-- A text between double quotes, with escapes. -/
def shown (text : String) : String :=
  String.ofList ('"' :: text.toList.flatMap shownChar ++ ['"'])

end DocStore.Text
