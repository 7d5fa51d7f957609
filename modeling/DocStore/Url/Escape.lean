import DocStore.Text.Hex
import DocStore.Text.Utf8

/-!
# Bytes behind percent signs

A part of a URL can have any byte as `%` and two hexadecimal digits.  A percent sign
without digits stands for itself.
-/

namespace DocStore.Url

/-- Bytes with `%` and two digits read as the byte they write. -/
def percentDecode : List UInt8 → List UInt8
  | [] => []
  | b :: rest =>
      if b.toNat = '%'.toNat then
        match rest with
        | high :: low :: rest' =>
            match Text.hexValue? (Char.ofNat high.toNat), Text.hexValue? (Char.ofNat low.toNat) with
            | some h, some l => UInt8.ofNat (16 * h + l) :: percentDecode rest'
            | _, _ => b :: percentDecode (high :: low :: rest')
        | [b'] => [b, b']
        | [] => [b]
      else b :: percentDecode rest

/-- A character as the bytes that stand for it. -/
def percentEncode (c : Char) : List Char :=
  (Text.utf8 (String.singleton c)).flatMap fun b =>
    '%' :: (Text.hexDigits (b.toNat / 16) ++ Text.hexDigits (b.toNat % 16)).map Char.toUpper

/-- The text behind the percent signs of a part. -/
def decodeText (part : List Char) : Except Text.Utf8Fault String :=
  Text.ofUtf8 (percentDecode (Text.utf8 (String.ofList part)))

end DocStore.Url
