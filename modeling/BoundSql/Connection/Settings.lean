import BoundSql.Failure
import BoundSql.Url.Reader

/-!
# Where to connect

A connection URL names the host, the port, the user, the password and the database.  Its parts are
taken as the URL has them, so what is encoded in it stays encoded.

* **`Settings`** — what a client needs in order to connect.
* **`Settings.ofUrl?`** — the settings of a connection URL.
-/

namespace BoundSql.Connection

/-- **What a client needs in order to connect**; what is missing is left to the client. -/
structure Settings where
  host : String
  port : Option Nat
  user : Option String
  password : Option String
  database : String
  deriving DecidableEq, Repr

/-- Why a URL names no connection. -/
inductive UrlFault where
  | unreadable (fault : Url.Fault)
  | wrongScheme (url : Url)
  | noHost (url : Url)
  | noDatabase (url : Url)
  deriving DecidableEq, Repr

/-- The text of a fault. -/
def UrlFault.message : UrlFault → String
  | .unreadable fault => fault.message
  | .wrongScheme url =>
    "connection URL does not have a `postgresql` scheme; url=" ++ String.ofList url.write
  | .noHost url => "missing host in connection URL; url=" ++ String.ofList url.write
  | .noDatabase url =>
    "no database specified - missing path in connection URL; url=" ++ String.ofList url.write

/-- The schemes of a connection URL. -/
def schemes : List String := ["postgres", "postgresql"]

/-- **The settings of a URL in its parts.**  The scheme is checked first, then the host, then the
database, which is the path without the slashes in front. -/
def Settings.ofParts? (url : Url) : Except UrlFault Settings :=
  if String.ofList url.scheme ∉ schemes then .error (.wrongScheme url)
  else
    match url.authority.bind fun a => a.host.map fun host => (a, host) with
    | none => .error (.noHost url)
    | some (a, host) =>
      let database := url.path.dropWhile (· == '/')
      if database.isEmpty then .error (.noDatabase url)
      else
        .ok {
          host := String.ofList host
          port := a.port
          user := if a.user.isEmpty then none else some (String.ofList a.user)
          password := a.password.map String.ofList
          database := String.ofList database }

/-- **The settings of a connection URL.** -/
def Settings.ofUrl? (s : String) : Except Failure Settings :=
  let read : Except UrlFault Settings := do
    Settings.ofParts? (← (Url.ofText? s).mapError .unreadable)
  read.mapError fun fault => .invalidUrl fault.message

end BoundSql.Connection
