import DocStore.Text.Composed
import DocStore.Text.Cut
import DocStore.Text.Utf8
import DocStore.Url.Domain.Direction
import DocStore.Url.Domain.Joining
import DocStore.Url.Domain.Mapping
import DocStore.Url.Punycode

/-!
# Domain names

A domain name is made of labels with points between them.  Letters of any script are
read as small plain letters in composed form, and a label that has others than those
of ASCII is written in ASCII, behind `xn--`.  A label given that way must be one that
could be written so.
-/

namespace DocStore.Domain

/-- Characters of ASCII that no domain name has. -/
def isForbidden (c : Char) : Bool :=
  c.toNat ≤ 0x20 || c.toNat = 0x7F || "%#/:<>?@[\\]^|".toList.contains c

/-- What marks a label written in ASCII. -/
def asciiMark : List Char := "xn--".toList

/-- A label is in its final form, of characters that a name can have, and readable on its
own. -/
def isLabel (label : List Char) : Bool :=
  label.all (fun c => !isForbidden c && mapped? c == some [c]) &&
    !label.head?.any Text.isMark && joinersShow [] label

/-- A label as it reads and as it is written in ASCII. -/
def readLabel? (label : List Char) : Option (List Char × List Char) := do
  let isAscii (c : Char) : Bool := c.toNat < 0x80
  let (reads, written) ←
    match Text.stripFront? asciiMark label with
    | none =>
        some (label, if label.all isAscii then label else asciiMark ++ Punycode.encode label)
    | some code => do
        let name ← Punycode.decode? code
        guard (!name.all isAscii && Text.composed name = name)
        some (name, label)
  guard (isLabel reads)
  some (reads, written)

/-- A domain name in ASCII. -/
def toAscii? (name : List Char) : Option (List Char) := do
  let plain ← name.mapM mapped?
  let labels ← (Text.splitAll '.' (Text.composed plain.flatten)).mapM readLabel?
  let reads := labels.map Prod.fst
  guard (reads.all Direction.isSound ||
    !reads.any fun label => label.any fun c => (Direction.ofChar c).matters)
  some (['.'].intercalate (labels.map Prod.snd))

end DocStore.Domain
