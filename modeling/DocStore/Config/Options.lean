import DocStore.Config.Connection
import DocStore.Time.Duration
import DocStore.Url.Query
import DocStore.Url.Reader

/-!
# Connection options

What is handed to the server when a connection is opened.  A target given by
fields is taken as it is; one given by a URL is read anew, with its escapes and
with the options behind its question mark, and the fields beside it do not count.
-/

namespace DocStore

/-- How a connection is encrypted.  A URL can ask for one more way than fields can. -/
inductive Encryption where
  | mode (m : SslMode)
  /-- Only if the server insists. -/
  | allow
  deriving DecidableEq

namespace Encryption

def name : Encryption → String
  | mode m => m.name
  | allow => "Allow"

/-- The way an option of a URL names, in any case. -/
def ofOption? (text : String) : Option Encryption :=
  let folded := String.ofList (Text.foldCase text.toList)
  if folded = "allow" then some allow
  else (SslMode.all.find? (·.option = folded)).map mode

end Encryption

/-- Options of a connection. -/
structure ConnectOptions where
  host : String
  /-- A socket of the file system in place of the host. -/
  socket : Option String
  port : Nat
  user : String
  password : Option String
  database : Option String
  applicationName : Option String
  encryption : Encryption
  deriving DecidableEq

namespace ConnectOptions

/-- What holds for a URL that says nothing. -/
def default : ConnectOptions where
  host := "localhost"
  socket := none
  port := ConnectionConfig.defaultPort
  user := "default_user"
  password := none
  database := none
  applicationName := none
  encryption := .mode .prefer

/-- A URL that cannot be used, in words. -/
def refuse {α : Type} (reason : String) : Except StoreError α :=
  .error (.invalidUrl ("error with configuration: " ++ reason))

/-- Decimal digits as a number below a limit, behind others that make up `n`.  The digits are
read in order, and the first of them that is none, or that passes the limit, is at fault. -/
def readDigits (limit : Nat) : (n : Nat) → List Char → Except StoreError Nat
  | n, [] => .ok n
  | n, c :: rest =>
      if !c.isDigit then refuse "invalid digit found in string"
      else
        let n := 10 * n + (c.toNat - '0'.toNat)
        if limit ≤ n then refuse "number too large to fit in target type"
        else readDigits limit n rest

/-- A number below a limit, in decimal, with a plus sign or without. -/
def readNumber (limit : Nat) (text : String) : Except StoreError Nat :=
  let digits := (Text.stripFront? ['+'] text.toList).getD text.toList
  if text = "" then refuse "cannot parse integer from empty string"
  else if digits.isEmpty then refuse "invalid digit found in string"
  else readDigits limit 0 digits

/-- The text behind the percent signs of a part of a URL. -/
def readPart (part : List Char) : Except StoreError String :=
  match Url.decodeText part with
  | .ok text => .ok text
  | .error fault => refuse fault.message

/-- With a host; a path is a socket. -/
def withHost (o : ConnectOptions) (host : String) : ConnectOptions :=
  if host.toList.head? = some '/' then { o with socket := some host } else { o with host }

/-- With one option of a URL.  Options that are not known here do not count. -/
def withOption (o : ConnectOptions) (option : String × String) :
    Except StoreError ConnectOptions :=
  let (name, value) := option
  match name with
  | "sslmode" | "ssl-mode" =>
      match Encryption.ofOption? value with
      | some encryption => .ok { o with encryption }
      | none =>
          refuse ("error with configuration: unknown value " ++ Text.shown value ++
            " for `ssl_mode`")
  | "statement-cache-capacity" => (readNumber 0x10000000000000000 value).map fun _ => o
  | "host" => .ok (o.withHost value)
  | "hostaddr" =>
      if (Ipv4.parse? value.toList).isSome || (Ipv6.parse? value.toList).isSome then
        .ok { o with host := value }
      else refuse "invalid IP address syntax"
  | "port" => (readNumber 0x10000 value).map fun port => { o with port }
  | "dbname" => .ok { o with database := some value }
  | "user" => .ok { o with user := value }
  | "password" => .ok { o with password := some value }
  | "application_name" => .ok { o with applicationName := some value }
  | _ => .ok o

/-- The host of a URL, which is a socket if it is a path. -/
def withUrlHost (o : ConnectOptions) (host : String) : Except StoreError ConnectOptions :=
  if (Url.percentDecode (Text.utf8 host)).head? = some '/'.toNat.toUInt8 then
    (readPart host.toList).map fun socket => { o with socket := some socket }
  else .ok { o with host }

/-- The options of a URL. -/
def ofUrl (text : String) : Except StoreError ConnectOptions := do
  let url ←
    match Url.parse text with
    | .ok url => .ok url
    | .error fault => refuse fault.message
  let o ←
    match url.host with
    | some host => default.withUrlHost host
    | none => .ok default
  let o := { o with port := url.port.getD o.port }
  let user ← readPart url.user
  let o := if user = "" then o else { o with user }
  let password ← url.password.mapM readPart
  let database ← readPart (url.path.dropWhile (· = '/'))
  let o := { o with password, database := if database = "" then none else some database }
  url.queryPairs.foldlM withOption o

/-- The options of a target. -/
def ofConfig (c : ConnectionConfig) : Except StoreError ConnectOptions := do
  c.validate
  match c.url with
  | some url => ofUrl url
  | none =>
      .ok { default with
        host := c.host
        port := c.port
        user := c.user.getD default.user
        password := c.password
        database := some c.database
        applicationName := c.applicationName
        encryption := .mode c.sslMode }

end ConnectOptions

/-- The error of connecting for longer than a limit. -/
def ConnectionConfig.overdue (c : ConnectionConfig) (limit : Duration) : StoreError :=
  .timeout ("connecting to " ++ c.sanitized ++ " took longer than " ++ limit.shown)

end DocStore
