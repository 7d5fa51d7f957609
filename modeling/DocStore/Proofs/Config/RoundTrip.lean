import DocStore.Proofs.Config.Parts

/-!
# URLs written and read

* `ofUrl_connectionString_iff`: the URL that is written for fields is read back as
  these fields exactly when they hold no separator that would cut them.
* `ofUrl_options_iff`: options behind a URL leave what is read from it as it is
  exactly when the URL has a slash behind its scheme.  Without one they are read as
  part of what stands in front of them.
-/

namespace DocStore.ConnectionConfig

open Text (cutFirst)

/-! ## Written from fields -/

/-- The options of a URL that is written for fields. -/
def optionText (c : ConnectionConfig) : String :=
  "sslmode=" ++ c.sslMode.option ++
    match c.applicationName with
    | some app => "&application_name=" ++ app
    | none => ""

/-- What such a URL has behind the login: host, port, database and options. -/
def placeText (c : ConnectionConfig) : String :=
  c.address ++ ("/" ++ c.database ++ "?" ++ c.optionText)

theorem connectionString_of_fields {c : ConnectionConfig} (h : c.url = none) :
    c.connectionString = "postgres://" ++ (c.loginText ++ c.placeText) := by
  have hoption : "?sslmode=" = "?" ++ "sslmode=" := rfl
  rw [connectionString, h, placeText, optionText, hoption]
  cases c.applicationName <;> simp only [String.append_assoc]

theorem toList_address (c : ConnectionConfig) :
    c.address.toList = c.host.toList ++ ':' :: (toString c.port).toList := by
  simp [address]

theorem notMem_address {c : ConnectionConfig} {mark : Char} (hhost : mark ∉ c.host.toList)
    (hcolon : mark ≠ ':') (hdigit : mark.isDigit = false) : mark ∉ c.address.toList := by
  rw [toList_address, List.mem_append, List.mem_cons, not_or, not_or]
  exact ⟨hhost, hcolon, notMem_toString hdigit c.port⟩

/-- The pieces of the URL that is written for fields. -/
def parts (c : ConnectionConfig) (h : c.IsUnambiguous) : UrlParts where
  scheme := "postgres://"
  login := c.user.map fun user =>
    user.toList ++ (c.password.map fun p => ':' :: p.toList).getD []
  address := c.address.toList
  path := some (c.database.toList ++ '?' :: c.optionText.toList)
  scheme_mem := List.mem_cons_self
  slash_login := by
    intro text htext
    obtain ⟨user, huser, rfl⟩ := Option.map_eq_some_iff.1 htext
    have hslash := (h.user user huser).1
    cases hpassword : c.password with
    | none => simpa using hslash
    | some password => simpa [hslash] using (h.password password hpassword).1
  slash_address := notMem_address h.host.1 (by decide) (by decide)
  at_address := notMem_address h.host.2 (by decide) (by decide)

theorem text_parts {c : ConnectionConfig} (h : c.IsUnambiguous) (hurl : c.url = none) :
    String.ofList (c.parts h).text = c.connectionString := by
  rw [← String.toList_inj, String.toList_ofList, connectionString_of_fields hurl, placeText]
  cases huser : c.user with
  | none =>
    simp [UrlParts.text, UrlParts.front, UrlParts.tail, parts, loginText, huser]
  | some user =>
    cases hpassword : c.password with
    | none =>
      simp [UrlParts.text, UrlParts.front, UrlParts.tail, parts, loginText, huser, hpassword]
    | some password =>
      simp [UrlParts.text, UrlParts.front, UrlParts.tail, parts, loginText, huser, hpassword]

theorem read_parts {c : ConnectionConfig} (h : c.IsUnambiguous) (hport : c.port < 0x10000) :
    (c.parts h).read = .ok ((c.parts h).target c.host c.port) := by
  have haddress : parseAddress c.address.toList = .ok (c.host, c.port) := by
    rw [toList_address, parseAddress_append _ hport, String.ofList_toList]
  exact UrlParts.read_eq_ok_iff.2 ⟨c.host, c.port, haddress, h.host_ne, rfl⟩

theorem target_parts {c : ConnectionConfig} (h : c.IsUnambiguous) (hurl : c.url = none) :
    (c.parts h).target c.host c.port =
      { default with
        host := c.host, port := c.port, user := c.user, password := c.password
        database := c.database, url := some c.connectionString } := by
  have hlogin : (c.parts h).login.map parseLogin = c.user.map fun user => (user, c.password) := by
    rw [parts, Option.map_map]
    refine Option.map_congr fun user huser => ?_
    rw [Function.comp_apply, parseLogin_append (h.user user huser).2, String.ofList_toList]
  have hpassword : (c.user.map fun user => (user, c.password)).bind Prod.snd = c.password := by
    cases huser : c.user with
    | some user => rfl
    | none =>
      cases hnone : c.password with
      | none => rfl
      | some password => simpa [huser] using (h.password password hnone).2
  have hdatabase : (c.database.toList ++ '?' :: c.optionText.toList).takeWhile (· != '?') =
      c.database.toList := by
    rw [List.takeWhile_append_of_pos]
    · simp
    · intro d hd
      simpa using ne_of_mem_of_not_mem hd h.database
  rw [UrlParts.target, hlogin, hpassword, text_parts h hurl]
  simp [parts, hdatabase, h.database_ne, Function.comp_def]

/-- A target given by fields is read back from the URL that is written for it exactly when its
fields hold no separator that cuts them: the host is there and has no slash and no at-sign, the
user no slash and no colon, the password no slash and a user before it, and the database is
there and has no question mark.  Nothing else matters: colons in the host, at-signs in user and
password, colons in the password, slashes in the database, the port, the encryption and the name
of the application. -/
theorem ofUrl_connectionString_iff {c : ConnectionConfig} (hurl : c.url = none)
    (hport : c.port < 0x10000) :
    ofUrl c.connectionString = .ok { default with
        host := c.host, port := c.port, user := c.user, password := c.password
        database := c.database, url := some c.connectionString } ↔
      c.IsUnambiguous := by
  constructor
  · intro h
    obtain ⟨hhost, hseparator, huser, hpassword, hdatabase, hmark⟩ := isUnambiguous_of_ofUrl h
    exact ⟨hhost, hseparator, huser, hpassword, hdatabase, hmark⟩
  · intro h
    rw [← target_parts h hurl, ← read_parts h hport, ← ofUrl_text, text_parts h hurl]

/-- Separators wherever they do no harm. -/
def crowded : ConnectionConfig :=
  { default with
    host := "::1", port := 65535, user := some "a@b", password := some "p:w@rd?"
    database := "main/x@y", sslMode := .require, applicationName := some "w/o?&@" }

theorem ofUrl_connectionString_iff_crowded :
    crowded.url = none ∧ crowded.port < 0x10000 ∧ crowded.IsUnambiguous ∧
      ofUrl "postgres://a@b:p:w@rd?@::1:65535/main/x@y?sslmode=require&application_name=w/o?&@" =
        .ok { default with
          host := "::1", port := 65535, user := some "a@b", password := some "p:w@rd?"
          database := "main/x@y"
          url := some
            "postgres://a@b:p:w@rd?@::1:65535/main/x@y?sslmode=require&application_name=w/o?&@" } := by
  have hplain : crowded.IsUnambiguous := by
    constructor <;> simp [crowded]
  exact ⟨rfl, by decide, hplain, (ofUrl_connectionString_iff rfl (by decide)).2 hplain⟩

/-! ## Options behind a URL -/

/-- A character stands in what is read from the front of a URL. -/
def InFront (c : ConnectionConfig) (mark : Char) : Prop :=
  mark ∈ c.host.toList ∨ (∃ user ∈ c.user, mark ∈ user.toList) ∨
    ∃ password ∈ c.password, mark ∈ password.toList

/-- A question mark in front of the path is read as part of the host, the user or the
password. -/
theorem mark_mem_front_iff {p : UrlParts} {c : ConnectionConfig} (h : p.read = .ok c) :
    '?' ∈ p.front ↔ c.InFront '?' := by
  obtain ⟨host, port, haddress, -, rfl⟩ := UrlParts.read_eq_ok_iff.1 h
  obtain ⟨-, rest, htext, hrest⟩ := of_parseAddress haddress
  have hport : '?' ∉ rest := fun hmem => by
    rcases hrest '?' hmem with hmark | hmark | hmark <;> exact absurd hmark (by decide)
  have hhost : '?' ∈ p.address ↔ '?' ∈ host.toList := by
    rw [htext, List.mem_append, or_iff_left hport]
  cases hlogin : p.login with
  | none => simp [UrlParts.front, InFront, UrlParts.target, hlogin, hhost]
  | some login =>
    obtain ⟨⟨user, password⟩, hparse⟩ : ∃ found, parseLogin login = found := ⟨_, rfl⟩
    obtain ⟨-, hwhole⟩ := of_parseLogin hparse
    have hmem : '?' ∈ login ↔
        '?' ∈ user.toList ∨ ∃ word ∈ password, '?' ∈ word.toList := by
      rw [hwhole]
      cases password <;> simp
    have hfront : '?' ∈ p.front ↔ '?' ∈ login ∨ '?' ∈ p.address := by
      simp [UrlParts.front, hlogin]
    rw [hfront, hmem, hhost, or_comm]
    simp [InFront, UrlParts.target, hlogin, hparse]

/-- A slash stands behind the scheme. -/
def HasPath (url : String) : Prop :=
  ∃ rest, afterScheme? url.toList = some rest ∧ '/' ∈ rest

theorem hasPath_text (p : UrlParts) : HasPath (String.ofList p.text) ↔ p.path ≠ none := by
  have hrest : afterScheme? p.text = some (p.front ++ p.tail) :=
    afterScheme?_append p.scheme_mem _
  rw [HasPath, String.toList_ofList, hrest]
  cases hpath : p.path <;> simp [UrlParts.tail, hpath, p.slash_front]

/-- Options behind a path are cut off with it. -/
theorem read_options_of_path {p : UrlParts} {path : List Char} (hpath : p.path = some path)
    (hmark : '?' ∉ path) {c : ConnectionConfig} (h : p.read = .ok c) (options : List Char) :
    ofUrl (String.ofList (p.text ++ '?' :: options)) =
      .ok { c with url := some (String.ofList (p.text ++ '?' :: options)) } := by
  let q : UrlParts := { p with path := some (path ++ '?' :: options) }
  have htext : q.text = p.text ++ '?' :: options := by
    simp [q, UrlParts.text, UrlParts.front, UrlParts.tail, hpath]
  have hdatabase : (path ++ '?' :: options).takeWhile (· != '?') = path.takeWhile (· != '?') := by
    have hall : ∀ d ∈ path, (d != '?') = true := fun d hd => by
      simpa using ne_of_mem_of_not_mem hd hmark
    rw [List.takeWhile_append_of_pos hall, List.takeWhile_eq_self_iff.2 hall]
    simp
  obtain ⟨host, port, haddress, hhost, rfl⟩ := UrlParts.read_eq_ok_iff.1 h
  have htarget : q.target host port =
      { p.target host port with url := some (String.ofList (p.text ++ '?' :: options)) } := by
    simp only [UrlParts.target, htext, hpath, q, Option.getD_some, hdatabase]
  rw [← htext, ofUrl_text, htext, ← htarget]
  exact UrlParts.read_eq_ok_iff.2 ⟨host, port, haddress, hhost, rfl⟩

/-- Without a path, the options up to their first slash stand in front. -/
theorem exists_parts_of_options {p : UrlParts} (hpath : p.path = none) (options : List Char) :
    ∃ q : UrlParts, q.text = p.text ++ '?' :: options ∧ '?' ∈ q.front := by
  have hslash := p.slash_front
  cases hcut : cutFirst '/' options with
  | none =>
    obtain ⟨q, hscheme, hfront, hpath'⟩ :=
      exists_front p.scheme_mem (p.front ++ '?' :: options)
        (by simpa [hslash] using Text.cutFirst_eq_none_iff.1 hcut) none
    refine ⟨q, ?_, by simp [hfront]⟩
    simp [UrlParts.text, UrlParts.tail, hscheme, hfront, hpath, hpath']
  | some cut =>
    obtain ⟨word, path⟩ := cut
    obtain ⟨hoptions, hfree⟩ := Text.eq_of_cutFirst hcut
    obtain ⟨q, hscheme, hfront, hpath'⟩ :=
      exists_front p.scheme_mem (p.front ++ '?' :: word) (by simpa [hslash] using hfree) (some path)
    refine ⟨q, ?_, by simp [hfront]⟩
    simp [UrlParts.text, UrlParts.tail, hscheme, hfront, hpath, hpath', hoptions]

/-- Options behind a URL without any.  If the URL has a slash behind its scheme, they change
nothing that is read from it, whatever they are, and the whole text is kept.  If it has none,
no options leave it as it was: either the URL is refused, or a question mark is read as part of
the host, the user or the password. -/
theorem ofUrl_options_iff {u : String} {c : ConnectionConfig} (hmark : '?' ∉ u.toList)
    (hread : ofUrl u = .ok c) (options : String) :
    ((∃ d, ofUrl (u ++ "?" ++ options) = .ok d ∧ d.host = c.host ∧ d.port = c.port ∧
        d.user = c.user ∧ d.password = c.password ∧ d.database = c.database ∧
        d.url = some (u ++ "?" ++ options)) ↔ HasPath u) ∧
      (¬ HasPath u → ∀ d, ofUrl (u ++ "?" ++ options) = .ok d → d.InFront '?') := by
  obtain ⟨p, rfl, hparts⟩ := exists_parts_of_ofUrl hread
  rw [String.toList_ofList] at hmark
  have htext : String.ofList p.text ++ "?" ++ options =
      String.ofList (p.text ++ '?' :: options.toList) := by
    rw [← String.toList_inj]
    simp
  have hplain : ¬ c.InFront '?' := by
    rw [← mark_mem_front_iff hparts]
    intro hmem
    exact hmark (List.mem_append_right _ (List.mem_append_left _ hmem))
  have hpathless : ¬ HasPath (String.ofList p.text) →
      ∀ d, ofUrl (String.ofList p.text ++ "?" ++ options) = .ok d → d.InFront '?' := by
    intro hnone d hd
    rw [hasPath_text, not_not] at hnone
    obtain ⟨q, hq, hfront⟩ := exists_parts_of_options hnone options.toList
    rw [htext, ← hq, ofUrl_text] at hd
    exact (mark_mem_front_iff hd).1 hfront
  refine ⟨⟨?_, ?_⟩, hpathless⟩
  · rintro ⟨d, hd, hhost, -, huser, hpassword, -, -⟩
    by_contra hnone
    have hin := hpathless hnone d hd
    rw [InFront, hhost, huser, hpassword] at hin
    exact hplain hin
  · intro hsome
    obtain ⟨path, hpath⟩ := Option.ne_none_iff_exists'.1 ((hasPath_text p).1 hsome)
    have hfree : '?' ∉ path := by
      intro hmem
      apply hmark
      rw [UrlParts.text, UrlParts.tail, hpath]
      exact List.mem_append_right _ (List.mem_append_right _ (List.mem_cons_of_mem _ hmem))
    refine ⟨{ c with url := some (String.ofList p.text ++ "?" ++ options) }, ?_,
      rfl, rfl, rfl, rfl, rfl, rfl⟩
    rw [htext]
    exact read_options_of_path hpath hfree hparts options.toList

/-- Options that hold every separator, behind a URL with a path and behind one without. -/
theorem ofUrl_options_iff_separators :
    (HasPath "postgres://u:p@h:5433/db" ∧
      ofUrl "postgres://u:p@h:5433/db" = .ok { default with
        host := "h", port := 5433, user := some "u", password := some "p", database := "db"
        url := some "postgres://u:p@h:5433/db" } ∧
      ∃ d, ofUrl ("postgres://u:p@h:5433/db" ++ "?" ++ "x=/y@z:1?") = .ok d ∧ d.host = "h" ∧
        d.port = 5433 ∧ d.user = some "u" ∧ d.password = some "p" ∧ d.database = "db" ∧
        d.url = some ("postgres://u:p@h:5433/db" ++ "?" ++ "x=/y@z:1?")) ∧
    ¬ HasPath "postgres://h" ∧
      ofUrl "postgres://h" = .ok { default with host := "h", url := some "postgres://h" } ∧
      ∀ d, ofUrl ("postgres://h" ++ "?" ++ "x=/y@z:1?") = .ok d → d.InFront '?' := by
  have hsome : HasPath "postgres://u:p@h:5433/db" := ⟨_, rfl, by decide⟩
  have hnone : ¬ HasPath "postgres://h" := by
    rintro ⟨rest, hrest, hslash⟩
    obtain rfl : ['h'] = rest := Option.some.inj hrest
    simp at hslash
  exact ⟨⟨hsome, rfl, (ofUrl_options_iff (by decide) rfl "x=/y@z:1?").1.2 hsome⟩,
    hnone, rfl, (ofUrl_options_iff (by decide) rfl "x=/y@z:1?").2 hnone⟩

/-- An option behind a host without a slash is taken for a part of the host, and one behind a
port for a part of the port. -/
theorem options_taken_for_host :
    ofUrl "postgres://localhost" =
        .ok { default with host := "localhost", url := some "postgres://localhost" } ∧
      ofUrl ("postgres://localhost" ++ "?" ++ "sslmode=disable") = .ok { default with
        host := "localhost?sslmode=disable"
        url := some "postgres://localhost?sslmode=disable" } ∧
      ofUrl "postgres://localhost:5433" = .ok { default with
        host := "localhost", port := 5433, url := some "postgres://localhost:5433" } ∧
      ofUrl ("postgres://localhost:5433" ++ "?" ++ "sslmode=disable") =
        .error (.invalidUrl "invalid port: 5433?sslmode=disable") :=
  ⟨rfl, rfl, rfl, rfl⟩

end DocStore.ConnectionConfig
