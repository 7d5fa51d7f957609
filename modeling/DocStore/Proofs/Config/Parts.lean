import Mathlib.Data.List.TakeWhile
import Mathlib.Data.String.Basic
import DocStore.Config.Connection

/-!
# The parts of a URL

Reading a URL cuts it behind its scheme, at the first slash behind that, and at the
last at-sign in front of that slash.  `UrlParts` are the pieces, with what each of
them is free of; so any pieces of that kind, written one after the other, are read
piece by piece (`ofUrl_text`), and every URL with a scheme is made of such pieces
(`exists_parts`).

What is read has no separator that would cut it again: `isUnambiguous_of_ofUrl`.
-/

namespace DocStore.ConnectionConfig

open Text (cutFirst cutLast)

/-! ## Pieces -/

/-- The pieces of a URL between the places where it is cut. -/
structure UrlParts where
  scheme : String
  /-- The text in front of the last at-sign. -/
  login : Option (List Char)
  /-- Host and port. -/
  address : List Char
  /-- The text behind the first slash. -/
  path : Option (List Char)
  scheme_mem : scheme ∈ schemes
  slash_login : ∀ text ∈ login, '/' ∉ text
  slash_address : '/' ∉ address
  at_address : '@' ∉ address

namespace UrlParts

/-- What stands between the scheme and the first slash. -/
def front (p : UrlParts) : List Char :=
  match p.login with
  | some login => login ++ '@' :: p.address
  | none => p.address

/-- The first slash and what stands behind it. -/
def tail (p : UrlParts) : List Char :=
  match p.path with
  | some path => '/' :: path
  | none => []

/-- The URL. -/
def text (p : UrlParts) : List Char := p.scheme.toList ++ (p.front ++ p.tail)

/-- The target of a host and a port with the other pieces. -/
def target (p : UrlParts) (host : String) (port : Nat) : ConnectionConfig :=
  let database := String.ofList ((p.path.getD []).takeWhile (· != '?'))
  { default with
    host, port
    user := (p.login.map parseLogin).map Prod.fst
    password := (p.login.map parseLogin).bind Prod.snd
    database := if database = "" then defaultDatabase else database
    url := some (String.ofList p.text) }

/-- What the pieces are read as. -/
def read (p : UrlParts) : Except StoreError ConnectionConfig :=
  match parseAddress p.address with
  | .error e => .error e
  | .ok (host, port) =>
      if host = "" then .error (.invalidUrl "missing host") else .ok (p.target host port)

theorem slash_front (p : UrlParts) : '/' ∉ p.front := by
  have haddress := p.slash_address
  cases hlogin : p.login with
  | none => simpa [front, hlogin] using haddress
  | some login =>
    have hslash := p.slash_login login hlogin
    simp [front, hlogin, haddress, hslash]

theorem cutFirst_front_tail (p : UrlParts) :
    (cutFirst '/' (p.front ++ p.tail)).getD (p.front ++ p.tail, []) =
      (p.front, p.path.getD []) := by
  cases hpath : p.path with
  | none =>
    have hnone : cutFirst '/' p.front = none := Text.cutFirst_eq_none_iff.2 p.slash_front
    simp [tail, hpath, hnone]
  | some path => simp [tail, hpath, Text.cutFirst_append p.slash_front]

theorem cutLast_front (p : UrlParts) :
    cutLast '@' p.front = p.login.map fun login => (login, p.address) := by
  cases hlogin : p.login with
  | none => simpa [front, hlogin, Text.cutLast_eq_none_iff] using p.at_address
  | some login => simp [front, hlogin, Text.cutLast_append p.at_address]

theorem read_eq_ok_iff {p : UrlParts} {c : ConnectionConfig} :
    p.read = .ok c ↔ ∃ host port, parseAddress p.address = .ok (host, port) ∧ host ≠ "" ∧
      p.target host port = c := by
  unfold read
  cases haddress : parseAddress p.address with
  | error e => simp
  | ok found =>
    obtain ⟨host, port⟩ := found
    by_cases hhost : host = ""
    · simp [hhost]
    · simp [hhost]

end UrlParts

/-! ## Reading the pieces -/

/-- No scheme begins with another one. -/
theorem afterScheme?_append {scheme : String} (h : scheme ∈ schemes) (rest : List Char) :
    afterScheme? (scheme.toList ++ rest) = some rest := by
  have hshort : "postgres://".toList = ['p', 'o', 's', 't', 'g', 'r', 'e', 's', ':', '/', '/'] :=
    rfl
  have hlong : "postgresql://".toList =
      ['p', 'o', 's', 't', 'g', 'r', 'e', 's', 'q', 'l', ':', '/', '/'] := rfl
  simp only [schemes, List.mem_cons, List.not_mem_nil, or_false] at h
  rcases h with rfl | rfl
  · rw [hshort]
    rfl
  · rw [hlong]
    rfl

theorem exists_scheme {url rest : List Char} (h : afterScheme? url = some rest) :
    ∃ scheme ∈ schemes, url = scheme.toList ++ rest := by
  obtain ⟨scheme, hmem, hstrip⟩ := List.exists_of_findSome?_eq_some h
  refine ⟨scheme, hmem, ?_⟩
  rw [Text.stripFront?] at hstrip
  split at hstrip
  · rename_i hprefix
    obtain ⟨tail, htail⟩ := List.isPrefixOf_iff_prefix.1 hprefix
    simp only [Option.some.injEq] at hstrip
    rw [← hstrip, ← htail, List.drop_left]
  · simp at hstrip

/-- Pieces are read as they are. -/
theorem ofUrl_text (p : UrlParts) : ofUrl (String.ofList p.text) = p.read := by
  have hscheme : afterScheme? p.text = some (p.front ++ p.tail) :=
    afterScheme?_append p.scheme_mem _
  rw [ofUrl, String.toList_ofList, hscheme]
  have hcut := p.cutLast_front
  unfold UrlParts.read UrlParts.target
  cases hlogin : p.login with
  | none =>
    have haddress : p.front = p.address := by simp [UrlParts.front, hlogin]
    rw [hlogin, Option.map_none] at hcut
    simp only [p.cutFirst_front_tail, hcut, Option.map_none]
    rw [haddress]
    cases parseAddress p.address with
    | error e => rfl
    | ok found =>
      by_cases hhost : found.1 = ""
      · simp only [bind, Except.bind, hhost, if_true]
      · simp only [bind, Except.bind, hhost, if_false]
  | some login =>
    rw [hlogin, Option.map_some] at hcut
    simp only [p.cutFirst_front_tail, hcut, Option.map_some]
    cases parseAddress p.address with
    | error e => rfl
    | ok found =>
      by_cases hhost : found.1 = ""
      · simp only [bind, Except.bind, hhost, if_true]
      · simp only [bind, Except.bind, hhost, if_false]

/-- A text without slashes is the front of pieces with any path. -/
theorem exists_front {scheme : String} (hscheme : scheme ∈ schemes) (front : List Char)
    (hfront : '/' ∉ front) (path : Option (List Char)) :
    ∃ p : UrlParts, p.scheme = scheme ∧ p.front = front ∧ p.path = path := by
  cases hcut : cutLast '@' front with
  | none =>
    exact ⟨⟨scheme, none, front, path, hscheme, by simp, hfront,
      Text.cutLast_eq_none_iff.1 hcut⟩, rfl, rfl, rfl⟩
  | some cut =>
    obtain ⟨login, address⟩ := cut
    obtain ⟨rfl, hat⟩ := Text.eq_of_cutLast hcut
    rw [List.mem_append, List.mem_cons, not_or, not_or] at hfront
    exact ⟨⟨scheme, some login, address, path, hscheme, by simpa using hfront.1, hfront.2.2, hat⟩,
      rfl, rfl, rfl⟩

/-- A URL with a scheme is made of pieces. -/
theorem exists_parts {url : String} {rest : List Char}
    (h : afterScheme? url.toList = some rest) : ∃ p : UrlParts, url = String.ofList p.text := by
  obtain ⟨scheme, hscheme, hurl⟩ := exists_scheme h
  cases hcut : cutFirst '/' rest with
  | none =>
    obtain ⟨p, hs, hfront, hpath⟩ :=
      exists_front hscheme rest (Text.cutFirst_eq_none_iff.1 hcut) none
    refine ⟨p, ?_⟩
    rw [← String.toList_inj, String.toList_ofList, UrlParts.text, UrlParts.tail, hs, hfront,
      hpath, hurl, List.append_nil]
  | some cut =>
    obtain ⟨front, path⟩ := cut
    obtain ⟨hrest, hslash⟩ := Text.eq_of_cutFirst hcut
    obtain ⟨p, hs, hfront, hpath⟩ := exists_front hscheme front hslash (some path)
    refine ⟨p, ?_⟩
    rw [← String.toList_inj, String.toList_ofList, UrlParts.text, UrlParts.tail, hs, hfront,
      hpath, hurl, hrest]

/-- What is read was written as pieces. -/
theorem exists_parts_of_ofUrl {url : String} {c : ConnectionConfig} (h : ofUrl url = .ok c) :
    ∃ p : UrlParts, url = String.ofList p.text ∧ p.read = .ok c := by
  cases hscheme : afterScheme? url.toList with
  | none =>
    rw [ofUrl, hscheme] at h
    simp at h
  | some rest =>
    obtain ⟨p, hp⟩ := exists_parts hscheme
    refine ⟨p, hp, ?_⟩
    rw [← ofUrl_text, ← hp, h]

/-! ## What is read -/

theorem digitsValue_eq (digits : List Char) : digitsValue digits = Nat.ofDigitChars 10 digits 0 :=
  rfl

/-- A number in decimal has digits only. -/
theorem notMem_toString {c : Char} (h : c.isDigit = false) (n : Nat) :
    c ∉ (toString n).toList := by
  rw [Nat.toString_eq_repr, Nat.toList_repr]
  intro hmem
  have hdigit := Nat.isDigit_of_mem_toDigits (by decide) (by decide) hmem
  rw [h] at hdigit
  exact Bool.false_ne_true hdigit

/-- The digits of a port are read as the port. -/
theorem parsePort?_toString {n : Nat} (h : n < 0x10000) :
    parsePort? (toString n).toList = some n := by
  have hplus : Text.stripFront? ['+'] (toString n).toList = none := by
    rw [Text.stripFront?, if_neg]
    intro hprefix
    have hmem := (List.isPrefixOf_iff_prefix.1 hprefix).mem (List.mem_singleton_self '+')
    exact notMem_toString (by decide) n hmem
  have hdigits : ∀ c ∈ Nat.toDigits 10 n, c.isDigit = true := fun c hc =>
    Nat.isDigit_of_mem_toDigits (by decide) (by decide) hc
  have hne : Nat.toDigits 10 n ≠ [] := Nat.toDigits_ne_nil
  rw [parsePort?, hplus, Option.getD_none, Nat.toString_eq_repr, Nat.toList_repr,
    digitsValue_eq, Nat.ofDigitChars_ten_toDigits]
  simpa [hne, h] using hdigits

/-- A port is a number below the limit, written with digits behind at most one sign. -/
theorem of_parsePort? {text : List Char} {n : Nat} (h : parsePort? text = some n) :
    n < 0x10000 ∧ ∀ c ∈ text, c = '+' ∨ c.isDigit = true := by
  rw [parsePort?] at h
  split at h
  · simp at h
  · rename_i hdigits
    simp only [Bool.or_eq_true, Bool.not_eq_true', not_or, Bool.not_eq_false] at hdigits
    dsimp only at h
    split at h
    · rename_i hlimit
      obtain rfl := Option.some.inj h
      refine ⟨hlimit, ?_⟩
      cases hplus : Text.stripFront? ['+'] text with
      | none =>
        rw [hplus, Option.getD_none, List.all_eq_true] at hdigits
        exact fun c hc => .inr (hdigits.2 c hc)
      | some digits =>
        rw [hplus, Option.getD_some, List.all_eq_true] at hdigits
        have htext : text = '+' :: digits := by
          rw [Text.stripFront?] at hplus
          split at hplus
          · rename_i hprefix
            obtain ⟨tail, rfl⟩ := List.isPrefixOf_iff_prefix.1 hprefix
            simpa using hplus
          · simp at hplus
        rw [htext]
        exact List.forall_mem_cons.2 ⟨.inl rfl, fun c hc => .inr (hdigits.2 c hc)⟩
    · simp at h

/-- Host and port are all of an address, but for the last colon. -/
theorem of_parseAddress {text : List Char} {host : String} {port : Nat}
    (h : parseAddress text = .ok (host, port)) :
    port < 0x10000 ∧ ∃ rest : List Char, text = host.toList ++ rest ∧
      ∀ c ∈ rest, c = ':' ∨ c = '+' ∨ c.isDigit = true := by
  rw [parseAddress] at h
  split at h
  · simp only [Except.ok.injEq, Prod.mk.injEq] at h
    obtain ⟨rfl, rfl⟩ := h
    exact ⟨by decide, [], by simp, by simp⟩
  · rename_i front digits hcut
    split at h
    · rename_i n hport
      simp only [Except.ok.injEq, Prod.mk.injEq] at h
      obtain ⟨rfl, rfl⟩ := h
      obtain ⟨hlimit, hdigits⟩ := of_parsePort? hport
      obtain ⟨rfl, -⟩ := Text.eq_of_cutLast hcut
      exact ⟨hlimit, ':' :: digits, by simp,
        List.forall_mem_cons.2 ⟨.inl rfl, fun c hc => .inr (hdigits c hc)⟩⟩
    · simp at h

/-- A host and its port, with a colon between them. -/
theorem parseAddress_append (host : List Char) {n : Nat} (h : n < 0x10000) :
    parseAddress (host ++ ':' :: (toString n).toList) = .ok (String.ofList host, n) := by
  have hcolon := notMem_toString (c := ':') (by decide) n
  rw [parseAddress, Text.cutLast_append hcolon]
  simp only [parsePort?_toString h]

/-- A user and a password are all of a login, but for the first colon. -/
theorem of_parseLogin {text : List Char} {user : String} {password : Option String}
    (h : parseLogin text = (user, password)) :
    ':' ∉ user.toList ∧
      text = user.toList ++ (password.map fun p => ':' :: p.toList).getD [] := by
  rw [parseLogin] at h
  split at h
  · rename_i hcut
    simp only [Prod.mk.injEq] at h
    obtain ⟨rfl, rfl⟩ := h
    simpa using Text.cutFirst_eq_none_iff.1 hcut
  · rename_i before behind hcut
    simp only [Prod.mk.injEq] at h
    obtain ⟨rfl, rfl⟩ := h
    obtain ⟨rfl, hcolon⟩ := Text.eq_of_cutFirst hcut
    simpa using hcolon

/-- A user without colons and a password, if there is one, are read as they are. -/
theorem parseLogin_append {user : List Char} (h : ':' ∉ user) (password : Option String) :
    parseLogin (user ++ (password.map fun p => ':' :: p.toList).getD []) =
      (String.ofList user, password) := by
  cases password with
  | none => simp [parseLogin, Text.cutFirst_eq_none_iff.2 h]
  | some p => simp [parseLogin, Text.cutFirst_append h]

/-- Fields that hold no separator at which a URL with them would be cut. -/
structure IsUnambiguous (c : ConnectionConfig) : Prop where
  host_ne : c.host ≠ ""
  host : '/' ∉ c.host.toList ∧ '@' ∉ c.host.toList
  user : ∀ user ∈ c.user, '/' ∉ user.toList ∧ ':' ∉ user.toList
  password : ∀ password ∈ c.password, '/' ∉ password.toList ∧ c.user.isSome
  database_ne : c.database ≠ ""
  database : '?' ∉ c.database.toList

/-- What was read from a URL can be written as one. -/
theorem isUnambiguous_of_ofUrl {url : String} {c : ConnectionConfig} (h : ofUrl url = .ok c) :
    c.IsUnambiguous := by
  obtain ⟨p, -, hread⟩ := exists_parts_of_ofUrl h
  obtain ⟨host, port, haddress, hhost, rfl⟩ := UrlParts.read_eq_ok_iff.1 hread
  obtain ⟨-, rest, htext, -⟩ := of_parseAddress haddress
  have hslash := p.slash_address
  have hat := p.at_address
  rw [htext, List.mem_append, not_or] at hslash hat
  have hlogin : ∀ user password, p.login.map parseLogin = some (user, password) →
      ('/' ∉ user.toList ∧ ':' ∉ user.toList) ∧ ∀ word ∈ password, '/' ∉ word.toList := by
    intro user password hparse
    obtain ⟨login, hmem, hparse⟩ := Option.map_eq_some_iff.1 hparse
    obtain ⟨hcolon, rfl⟩ := of_parseLogin hparse
    have hfree := p.slash_login _ hmem
    rw [List.mem_append, not_or] at hfree
    refine ⟨⟨hfree.1, hcolon⟩, fun word hword => ?_⟩
    obtain rfl : password = some word := hword
    exact fun hslash => hfree.2 (List.mem_cons_of_mem _ hslash)
  constructor
  · exact hhost
  · exact ⟨hslash.1, hat.1⟩
  · intro user huser
    obtain ⟨⟨name, password⟩, hparse, rfl⟩ := Option.map_eq_some_iff.1 huser
    exact (hlogin _ _ hparse).1
  · intro word hword
    obtain ⟨⟨name, password⟩, hparse, hpassword⟩ := Option.bind_eq_some_iff.1 hword
    exact ⟨(hlogin _ _ hparse).2 word hpassword, by simp [UrlParts.target, hparse]⟩
  · simp only [UrlParts.target]
    split
    · decide
    · assumption
  · simp only [UrlParts.target]
    split
    · decide
    · intro hmark
      rw [String.toList_ofList] at hmark
      simpa using List.mem_takeWhile_imp hmark

end DocStore.ConnectionConfig
