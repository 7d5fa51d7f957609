import DocStore.Url.Basic
import DocStore.Url.Domain
import DocStore.Url.Escape
import DocStore.Url.Ipv6

/-!
# Hosts

A host between brackets is an IPv6 address.  Without them, a URL of the web has a
domain there, or an IPv4 address in one of many spellings, which is rewritten as four
numbers; the host of any other URL can be anything and is kept as it is.
-/

namespace DocStore.Url

/-- Characters that no host has. -/
def isForbidden (c : Char) : Bool :=
  c.toNat = 0 || "\t\n\r #/:<>?@[\\]^|".toList.contains c

/-- The address behind an opening bracket, in its own spelling. -/
def readIpv6 (text : List Char) : Except UrlFault String :=
  match text.getLast? with
  | some ']' =>
      match Ipv6.parse? text.dropLast with
      | some groups => .ok ("[" ++ Ipv6.text groups ++ "]")
      | none => .error .badIpv6
  | _ => .error .badIpv6

/-- A host that is kept as it is, but for characters other than those of ASCII and controls,
which become their bytes. -/
def readOpaque : List Char → Except UrlFault String
  | '[' :: rest => readIpv6 rest
  | text =>
      if text.any isForbidden then .error .badHost
      else .ok (String.ofList (text.flatMap fun c =>
        if c.toNat < 0x20 || 0x7F ≤ c.toNat then percentEncode c else [c]))

/-- A host that is a domain or an address. -/
def readDomain : List Char → Except UrlFault String
  | '[' :: rest => readIpv6 rest
  | text =>
      match (decodeText text).toOption.bind fun name => Domain.toAscii? name.toList with
      | none => .error .badDomain
      | some name =>
          if name.isEmpty then .error .emptyHost
          else if Ipv4.isMeant name then
            match Ipv4.ofHost? name with
            | some address => .ok (Ipv4.text address)
            | none => .error .badIpv4
          else .ok (String.ofList name)

/-- The host of a URL, none if it is empty where it can be. -/
def readHost (kind : SchemeKind) (text : List Char) : Except UrlFault (Option String) :=
  match kind with
  | .web _ => if text.isEmpty then .error .emptyHost else (readDomain text).map some
  | .file =>
      if text.isEmpty then .ok none
      else (readDomain text).map fun host => if host = "localhost" then none else some host
  | .other => (readOpaque text).map fun host => if host = "" then none else some host

end DocStore.Url
