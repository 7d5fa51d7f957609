import DocStore.Proofs.Config.RoundTrip

/-!
# Masked passwords

`maskPassword` looks for the first `://`, the last at-sign behind it and the first
colon between them, and writes the mask between colon and at-sign.  Reading a URL
cuts elsewhere, at the last at-sign in front of the first slash, so a password may
be less than what is masked, and never more:

* `maskPassword_login`: behind a scheme, a text up to its first colon and the text
  behind the last at-sign of all are shown, and nothing between them.
* `maskPassword_maskPassword`: what has been masked stays as it is.
* `sanitized_of_fields` and `ReadsPassword.sanitized` say what is shown of a target
  that is given by fields, and of one that is given by a URL.

So what is shown never depends on the password (`sanitized_independent`).
-/

namespace DocStore

open Text (cutFirst cutLast cutFirstText)

/-- What stands behind the last `sep`; the whole text where there is none. -/
def Text.behindLast (sep : Char) (text : List Char) : List Char :=
  ((cutLast sep text).map Prod.snd).getD text

/-- A text with a separator, cut at its last one: not in front of the one that is known. -/
theorem Text.cutLast_append_cons (sep : Char) (before rest : List Char) :
    ∃ more, cutLast sep (before ++ sep :: rest) = some (before ++ more, behindLast sep rest) := by
  cases hcut : cutLast sep rest with
  | none =>
    refine ⟨[], ?_⟩
    rw [cutLast_append (cutLast_eq_none_iff.1 hcut), behindLast, hcut, List.append_nil]
    rfl
  | some cut =>
    obtain ⟨middle, last⟩ := cut
    obtain ⟨hrest, hfree⟩ := eq_of_cutLast hcut
    refine ⟨sep :: middle, ?_⟩
    have hsplit : before ++ sep :: rest = (before ++ sep :: middle) ++ sep :: last := by
      rw [hrest]
      simp
    rw [hsplit, cutLast_append hfree, behindLast, hcut]
    rfl

/-- A text with a separator, cut at its first one. -/
theorem Text.exists_takeWhile (sep : Char) (before rest : List Char) :
    ∃ more, before ++ sep :: rest = before.takeWhile (· != sep) ++ sep :: more := by
  induction before with
  | nil => exact ⟨rest, rfl⟩
  | cons c before ih =>
    by_cases hc : c = sep
    · exact ⟨before ++ sep :: rest, by simp [hc]⟩
    · obtain ⟨more, hmore⟩ := ih
      exact ⟨more, by simp [hc, hmore]⟩

/-! ## What is shown -/

/-- Behind the text stands the first `://`, whatever follows. -/
def IsSchemeName (name : List Char) : Prop :=
  ∀ other, cutFirstText "://".toList (name ++ "://".toList ++ other) = some (name, other)

/-- Masking shows the user up to the first colon and what stands behind the last at-sign. -/
theorem maskPassword_login {scheme user : List Char} (hscheme : IsSchemeName scheme)
    (huser : ':' ∉ user) (hidden rest : List Char) :
    maskPassword (scheme ++ "://".toList ++ (user ++ ':' :: hidden ++ '@' :: rest)) =
      scheme ++ "://".toList ++ user ++ ':' :: passwordMask ++ '@' :: Text.behindLast '@' rest := by
  obtain ⟨more, hlast⟩ := Text.cutLast_append_cons '@' (user ++ ':' :: hidden) rest
  have hfirst : cutFirst ':' (user ++ ':' :: hidden ++ more) = some (user, hidden ++ more) := by
    rw [List.append_assoc, List.cons_append, Text.cutFirst_append huser]
  simp only [maskPassword, hscheme _, bind, Option.bind, hlast, hfirst, Option.getD_some]

/-- A text that changes when it is masked has a password between the first colon and the last
at-sign behind `://`. -/
theorem maskPassword_cases (text : List Char) :
    maskPassword text = text ∨ ∃ scheme user hidden rest,
      text = scheme ++ "://".toList ++ (user ++ ':' :: hidden ++ '@' :: rest) ∧
        IsSchemeName scheme ∧ ':' ∉ user ∧ '@' ∉ rest := by
  cases hscheme : cutFirstText "://".toList text with
  | none => exact .inl (by simp only [maskPassword, hscheme, bind, Option.bind, Option.getD_none])
  | some found =>
    obtain ⟨scheme, behind⟩ := found
    cases hlast : cutLast '@' behind with
    | none =>
      exact .inl (by simp only [maskPassword, hscheme, hlast, bind, Option.bind, Option.getD_none])
    | some found =>
      obtain ⟨login, rest⟩ := found
      cases hfirst : cutFirst ':' login with
      | none =>
        exact .inl (by
          simp only [maskPassword, hscheme, hlast, hfirst, bind, Option.bind, Option.getD_none])
      | some found =>
        obtain ⟨user, hidden⟩ := found
        obtain ⟨rfl, hat⟩ := Text.eq_of_cutLast hlast
        obtain ⟨rfl, hcolon⟩ := Text.eq_of_cutFirst hfirst
        exact .inr ⟨scheme, user, hidden, rest, (Text.cutFirstText_append hscheme []).1,
          fun other => (Text.cutFirstText_append hscheme other).2, hcolon, hat⟩

/-- What has been masked stays as it is. -/
theorem maskPassword_maskPassword (text : List Char) :
    maskPassword (maskPassword text) = maskPassword text := by
  obtain hsame | ⟨scheme, user, hidden, rest, rfl, hscheme, hcolon, hat⟩ :=
    maskPassword_cases text
  · rw [hsame, hsame]
  · have hrest : Text.behindLast '@' rest = rest := by
      rw [Text.behindLast, Text.cutLast_eq_none_iff.2 hat]
      rfl
    rw [maskPassword_login hscheme hcolon, hrest]
    have hshown := maskPassword_login hscheme hcolon passwordMask rest
    rw [hrest] at hshown
    simpa only [List.append_assoc] using hshown

namespace ConnectionConfig

/-! ## Targets -/

/-- A scheme ends with the first `://`. -/
theorem exists_name_of_scheme {scheme : String} (h : scheme ∈ schemes) :
    ∃ name, scheme.toList = name ++ "://".toList ∧ IsSchemeName name := by
  simp only [schemes, List.mem_cons, List.not_mem_nil, or_false] at h
  rcases h with rfl | rfl
  · exact ⟨"postgres".toList, rfl, fun other => rfl⟩
  · exact ⟨"postgresql".toList, rfl, fun other => rfl⟩

/-- A URL with a login, masked. -/
theorem maskPassword_scheme {scheme : String} (h : scheme ∈ schemes) {user : List Char}
    (huser : ':' ∉ user) (hidden rest : List Char) :
    maskPassword (scheme.toList ++ (user ++ ':' :: hidden ++ '@' :: rest)) =
      scheme.toList ++ user ++ ':' :: passwordMask ++ '@' :: Text.behindLast '@' rest := by
  obtain ⟨name, hname, hfirst⟩ := exists_name_of_scheme h
  rw [hname]
  exact maskPassword_login hfirst huser hidden rest

/-- Of a target given by fields, the user up to its first colon is shown, and what stands behind
the last at-sign. -/
theorem sanitized_of_fields {c : ConnectionConfig} {user password : String} (hurl : c.url = none)
    (huser : c.user = some user) (hpassword : c.password = some password) :
    c.sanitized = String.ofList ("postgres://".toList ++ user.toList.takeWhile (· != ':') ++
      ':' :: passwordMask ++ '@' :: Text.behindLast '@' c.placeText.toList) := by
  have hcolon : ':' ∉ user.toList.takeWhile (· != ':') := fun hmem => by
    simpa using List.mem_takeWhile_imp hmem
  obtain ⟨hidden, hlogin⟩ := Text.exists_takeWhile ':' user.toList password.toList
  have htext : c.connectionString.toList = "postgres://".toList ++
      (user.toList.takeWhile (· != ':') ++ ':' :: hidden ++ '@' :: c.placeText.toList) := by
    rw [connectionString_of_fields hurl, ← hlogin, loginText, huser, hpassword]
    simp
  rw [sanitized, htext, maskPassword_scheme List.mem_cons_self hcolon]

/-- The password that is read from a URL, with the texts before and behind it: it stands behind
the scheme, the user and a colon. -/
structure ReadsPassword (url : String) (c : ConnectionConfig)
    (before : List Char) (password : String) (behind : List Char) : Prop where
  read : ofUrl url = .ok c
  password_eq : c.password = some password
  start : ∃ scheme ∈ schemes, ∃ user ∈ c.user, before = scheme.toList ++ user.toList ++ [':']
  text : url.toList = before ++ password.toList ++ behind

theorem connectionString_of_ofUrl {url : String} {c : ConnectionConfig} (h : ofUrl url = .ok c) :
    c.connectionString = url := by
  obtain ⟨p, rfl, hread⟩ := exists_parts_of_ofUrl h
  obtain ⟨host, port, -, -, rfl⟩ := UrlParts.read_eq_ok_iff.1 hread
  rfl

/-- A password is read where one stands: between a user with a colon and an at-sign. -/
theorem exists_front_of_password {url password : String} {c : ConnectionConfig}
    (h : ofUrl url = .ok c) (hpassword : c.password = some password) :
    ∃ (p : UrlParts) (user : String), url = String.ofList p.text ∧ c.user = some user ∧
      ':' ∉ user.toList ∧
      p.front = user.toList ++ ':' :: password.toList ++ '@' :: p.address := by
  obtain ⟨p, rfl, hread⟩ := exists_parts_of_ofUrl h
  obtain ⟨host, port, -, -, rfl⟩ := UrlParts.read_eq_ok_iff.1 hread
  obtain ⟨⟨user, word⟩, hparse, hword⟩ := Option.bind_eq_some_iff.1 hpassword
  obtain rfl : word = some password := hword
  obtain ⟨login, hlogin, hparse'⟩ := Option.map_eq_some_iff.1 hparse
  obtain ⟨hcolon, rfl⟩ := of_parseLogin hparse'
  refine ⟨p, user, rfl, by simp [UrlParts.target, hparse], hcolon, ?_⟩
  simp [UrlParts.front, hlogin]

theorem exists_readsPassword {url password : String} {c : ConnectionConfig}
    (h : ofUrl url = .ok c) (hpassword : c.password = some password) :
    ∃ before behind, ReadsPassword url c before password ('@' :: behind) := by
  obtain ⟨p, user, hurl, huser, -, hfront⟩ := exists_front_of_password h hpassword
  refine ⟨p.scheme.toList ++ user.toList ++ [':'], p.address ++ p.tail, h, hpassword,
    ⟨p.scheme, p.scheme_mem, user, huser, rfl⟩, ?_⟩
  simp [hurl, UrlParts.text, hfront]

/-- An at-sign stands behind the password, and what is shown of the URL is what stands before
the password and what stands behind the last at-sign. -/
theorem ReadsPassword.sanitized {url password : String} {c : ConnectionConfig}
    {before behind : List Char} (h : ReadsPassword url c before password behind) :
    ∃ rest, behind = '@' :: rest ∧
      c.sanitized = String.ofList (before ++ passwordMask ++ '@' :: Text.behindLast '@' rest) := by
  obtain ⟨hread, hpassword, ⟨scheme, hscheme, user, huser, rfl⟩, htext⟩ := h
  obtain ⟨p, name, hurl, hname, hcolon, hfront⟩ := exists_front_of_password hread hpassword
  obtain rfl : user = name := Option.some.inj (huser.symm.trans hname)
  -- Both ways of cutting take a scheme off the front, and then the user and the password.
  have hrest : some (p.front ++ p.tail) =
      some (user.toList ++ ':' :: password.toList ++ behind) := by
    rw [← afterScheme?_append p.scheme_mem, ← afterScheme?_append hscheme, ← UrlParts.text]
    rw [hurl, String.toList_ofList] at htext
    simp [htext]
  have hbehind : '@' :: (p.address ++ p.tail) = behind := by
    simpa [hfront] using hrest
  have hwhole : url.toList = scheme.toList ++
      (user.toList ++ ':' :: password.toList ++ '@' :: (p.address ++ p.tail)) := by
    simp [htext, ← hbehind]
  refine ⟨p.address ++ p.tail, hbehind.symm, ?_⟩
  rw [ConnectionConfig.sanitized, connectionString_of_ofUrl hread, hwhole,
    maskPassword_scheme hscheme hcolon]
  simp

/-- What is shown of a target does not depend on its password.  Of a target given by fields, and
of one read from a URL, it is the text in front of the password (of a user with a colon, the part
before that) with the mask, and what stands behind the last at-sign of the rest; so two targets
that differ in the password only, and two URLs that differ only in the text that is read as the
password, look the same.  Masking again changes nothing. -/
theorem sanitized_independent :
    (∀ (c : ConnectionConfig) (user p q : String), c.url = none → c.user = some user →
      c.password = some p →
        { c with password := some q }.sanitized = c.sanitized ∧
        c.sanitized = String.ofList ("postgres://".toList ++ user.toList.takeWhile (· != ':') ++
          ':' :: passwordMask ++ '@' :: Text.behindLast '@' c.placeText.toList)) ∧
      (∀ (url password : String) (c : ConnectionConfig), ofUrl url = .ok c →
        c.password = some password →
          ∃ before rest, ReadsPassword url c before password ('@' :: rest) ∧
            c.sanitized =
              String.ofList (before ++ passwordMask ++ '@' :: Text.behindLast '@' rest)) ∧
      (∀ (u v p q : String) (c d : ConnectionConfig) (before behind : List Char),
        ReadsPassword u c before p behind → ReadsPassword v d before q behind →
          c.sanitized = d.sanitized) ∧
      ∀ text : List Char, maskPassword (maskPassword text) = maskPassword text := by
  refine ⟨fun c user p q hurl huser hpassword => ?_, fun url password c hread hpassword => ?_,
    fun u v p q c d before behind hu hv => ?_, maskPassword_maskPassword⟩
  · have hshown := sanitized_of_fields hurl huser hpassword
    have hother := sanitized_of_fields (c := { c with password := some q }) hurl huser rfl
    exact ⟨hother.trans hshown.symm, hshown⟩
  · obtain ⟨before, rest, hreads⟩ := exists_readsPassword hread hpassword
    obtain ⟨rest', hrest, hshown⟩ := hreads.sanitized
    obtain rfl : rest = rest' := List.tail_eq_of_cons_eq hrest
    exact ⟨before, rest, hreads, hshown⟩
  · obtain ⟨rest, hrest, hshown⟩ := hu.sanitized
    obtain ⟨rest', hrest', hshown'⟩ := hv.sanitized
    obtain rfl : rest = rest' := List.tail_eq_of_cons_eq (hrest.symm.trans hrest')
    rw [hshown, hshown']

/-- A target whose fields and whose passwords are full of separators. -/
def guarded (password : String) : ConnectionConfig :=
  { default with
    host := "a@b", user := some "u:v@w", password := some password, database := "d/@e:f" }

/-- What a URL with an at-sign in its options is read as. -/
def linked (url password : String) : ConnectionConfig :=
  { default with
    host := "h", user := some "u", password := some password, database := "db", url := some url }

theorem sanitized_independent_separators :
    ((guarded "p@/:").url = none ∧ (guarded "p@/:").user = some "u:v@w" ∧
      (guarded "p@/:").password = some "p@/:" ∧
      (guarded "://q@").sanitized = (guarded "p@/:").sanitized ∧
      (guarded "p@/:").sanitized = "postgres://u:********@e:f?sslmode=prefer") ∧
    (ofUrl "postgres://u:p@1:x@h/db?x=@y" = .ok (linked "postgres://u:p@1:x@h/db?x=@y" "p@1:x") ∧
      ∃ before rest, ReadsPassword "postgres://u:p@1:x@h/db?x=@y"
        (linked "postgres://u:p@1:x@h/db?x=@y" "p@1:x") before "p@1:x" ('@' :: rest)) ∧
    ReadsPassword "postgres://u:p@1:x@h/db?x=@y" (linked "postgres://u:p@1:x@h/db?x=@y" "p@1:x")
        "postgres://u:".toList "p@1:x" "@h/db?x=@y".toList ∧
      ReadsPassword "postgres://u:q@h/db?x=@y" (linked "postgres://u:q@h/db?x=@y" "q")
        "postgres://u:".toList "q" "@h/db?x=@y".toList ∧
      (linked "postgres://u:p@1:x@h/db?x=@y" "p@1:x").sanitized =
        (linked "postgres://u:q@h/db?x=@y" "q").sanitized := by
  obtain ⟨hfields, hurl, hpair, -⟩ := sanitized_independent
  obtain ⟨hother, hshown⟩ := hfields (guarded "p@/:") "u:v@w" "p@/:" "://q@" rfl rfl rfl
  obtain ⟨before, rest, hreads, -⟩ := hurl "postgres://u:p@1:x@h/db?x=@y" "p@1:x" _ rfl rfl
  have hstart : ∃ scheme ∈ schemes, ∃ user ∈ some "u",
      "postgres://u:".toList = scheme.toList ++ user.toList ++ [':'] :=
    ⟨"postgres://", List.mem_cons_self, "u", rfl, rfl⟩
  have hu : ReadsPassword "postgres://u:p@1:x@h/db?x=@y"
      (linked "postgres://u:p@1:x@h/db?x=@y" "p@1:x") "postgres://u:".toList "p@1:x"
      "@h/db?x=@y".toList := ⟨rfl, rfl, hstart, rfl⟩
  have hv : ReadsPassword "postgres://u:q@h/db?x=@y" (linked "postgres://u:q@h/db?x=@y" "q")
      "postgres://u:".toList "q" "@h/db?x=@y".toList := ⟨rfl, rfl, hstart, rfl⟩
  exact ⟨⟨rfl, rfl, rfl, hother, hshown.trans (by decide)⟩, ⟨rfl, before, rest, hreads⟩, hu, hv,
    hpair _ _ _ _ _ _ _ _ hu hv⟩

end ConnectionConfig

end DocStore
