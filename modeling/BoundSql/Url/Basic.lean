import BoundSql.Decimal.Digits

/-!
# URLs

* **`Url`** — a URL in its parts.  All of them are texts in which nothing is left to encode.
* **`Url.write`** — its text.
-/

namespace BoundSql

/-- **Who is asked and under which name**: credentials, host and port.  There is no host where an
empty one is given. -/
structure Url.Authority where
  user : List Char
  password : Option (List Char)
  host : Option (List Char)
  port : Option Nat
  deriving DecidableEq, Repr

/-- **A URL** in its parts. -/
structure Url where
  scheme : List Char
  authority : Option Url.Authority
  path : List Char
  query : Option (List Char)
  fragment : Option (List Char)
  deriving DecidableEq, Repr

namespace Url

/-- The credentials, with the sign that ends them; nothing if there are none. -/
def Authority.writeCredentials (a : Authority) : List Char :=
  match a.password with
  | some password => a.user ++ ':' :: (password ++ ['@'])
  | none => if a.user.isEmpty then [] else a.user ++ ['@']

/-- The text of an authority. -/
def Authority.write (a : Authority) : List Char :=
  let port :=
    match a.port with
    | some n => ':' :: Decimal.digits n
    | none => []
  '/' :: '/' :: (a.writeCredentials ++ a.host.getD [] ++ port)

/-- A part with its mark in front, if it is there. -/
def writeMarked (mark : Char) : Option (List Char) → List Char
  | some cs => mark :: cs
  | none => []

/-- **The text of a URL.**  A path that starts with two slashes and has no authority in front gets a
dot segment, lest it be read as one. -/
def write (u : Url) : List Char :=
  let front :=
    match u.authority with
    | some a => a.write
    | none => if ['/', '/'].isPrefixOf u.path then ['/', '.'] else []
  u.scheme ++ ':' :: (front ++ u.path ++ writeMarked '?' u.query ++ writeMarked '#' u.fragment)

end Url

end BoundSql
