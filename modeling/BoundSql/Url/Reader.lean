import BoundSql.Url.Address
import BoundSql.Url.Basic
import BoundSql.Url.PercentEncoding

/-!
# Reading URLs

Blanks and controls around a URL and line controls inside it are dropped.  Most schemes are treated
alike; those of the web and `file` have a path always, take a backslash for a slash, and write their
hosts in small letters.

* **`Url.Fault`** — why a text is no URL.
* **`Url.Manner`** — how a scheme is treated.
* **`readCredentials`**, **`readHost`**, **`readPort`**, **`resolvePath`** — the parts.
* **`Url.ofText?`** — the URL of a text.
-/

namespace BoundSql.Url

open Decimal

/-- **Why a text is no URL.** -/
inductive Fault where
  | relative
  | emptyHost
  | invalidPort
  | invalidAddress6
  | invalidAddress4
  | invalidCharacter
  | invalidName
  deriving DecidableEq, Repr

/-- The text of a fault. -/
def Fault.message : Fault → String
  | .relative => "relative URL without a base"
  | .emptyHost => "empty host"
  | .invalidPort => "invalid port number"
  | .invalidAddress6 => "invalid IPv6 address"
  | .invalidAddress4 => "invalid IPv4 address"
  | .invalidCharacter => "invalid domain character"
  | .invalidName => "invalid international domain name"

/-- **How a scheme is treated**: as one of the web, with the port that goes without saying; as files;
or as any other. -/
inductive Manner where
  | web (port : Nat)
  | file
  | plain
  deriving DecidableEq, Repr

/-- The manner of a scheme. -/
def Manner.ofScheme (scheme : List Char) : Manner :=
  match String.ofList scheme with
  | "http" | "ws" => .web 80
  | "https" | "wss" => .web 443
  | "ftp" => .web 21
  | "file" => .file
  | _ => .plain

/-- Whether a character separates segments of a path. -/
def Manner.isSlash (m : Manner) (c : Char) : Bool := c == '/' || (c == '\\' && m != .plain)

/-- Whether a character ends the authority. -/
def Manner.endsAuthority (m : Manner) (c : Char) : Bool :=
  m.isSlash c || c == '?' || c == '#'

/-- A text without blanks and controls at its ends and without line controls. -/
def cleaned (cs : List Char) : List Char :=
  let drop (cs : List Char) : List Char := cs.dropWhile fun c => c.toNat ≤ 0x20
  (drop (drop cs).reverse).reverse.filter fun c => c != '\t' && c != '\n' && c != '\r'

/-- **The scheme** in small letters, and what follows its colon. -/
def readScheme (cs : List Char) : Option (List Char × List Char) :=
  let allowed (c : Char) : Bool := c.isAlphanum || c == '+' || c == '-' || c == '.'
  let scheme := cs.takeWhile allowed
  match cs.dropWhile allowed with
  | ':' :: rest =>
    if (scheme.head?.map Char.isAlpha).getD false then some (scheme.map Char.toLower, rest)
    else none
  | _ => none

/-! ## Authority -/

/-- **The credentials**: user and password, and what follows them.  They end at the last `@` before
the path; the first colon parts them, and an empty password is none. -/
def readCredentials (m : Manner) (cs : List Char) :
    Except Fault (List Char × Option (List Char) × List Char) :=
  let authority := cs.takeWhile fun c => !m.endsAuthority c
  if !authority.contains '@' then .ok ([], none, cs)
  else
    let host := (authority.reverse.takeWhile (· != '@')).reverse
    let credentials := authority.take (authority.length - host.length - 1)
    let rest := cs.drop (credentials.length + 1)
    if credentials.isEmpty then
      if (rest.head?.map m.endsAuthority).getD false then .error .emptyHost
      else .ok ([], none, rest)
    else
      let user := credentials.takeWhile (· != ':')
      let password := (credentials.dropWhile (· != ':')).drop 1
      .ok (Part.credentials.encode user,
        if password.isEmpty then none else some (Part.credentials.encode password), rest)

/-- The length of a host: up to a colon that is not in brackets, or to the end of the authority. -/
def hostLength (m : Manner) (bracketed : Bool) : List Char → Nat
  | [] => 0
  | c :: rest =>
    if (c == ':' && !bracketed) || m.endsAuthority c then 0
    else hostLength m (if c == '[' then true else if c == ']' then false else bracketed) rest + 1

/-- The characters no host may contain. -/
def isForbiddenInHost (c : Char) : Bool :=
  c ∈ [Char.ofNat 0, '\t', '\n', '\r', ' ', '#', '/', ':', '<', '>', '?', '@', '[', '\\', ']', '^',
    '|']

/-- An address of sixteen bytes in brackets. -/
def bracketedHost? (cs : List Char) : Option (List Char) :=
  if cs.getLast? = some ']' ∧ 2 ≤ cs.length then
    (readAddress6 ((cs.drop 1).dropLast)).map fun pieces => '[' :: (writeAddress6 pieces ++ [']'])
  else none

/-- A host of the web: encoded bytes are read, letters made small, and numbers read as an address of
four bytes.  Names beyond ASCII are refused. -/
def webHost (cs : List Char) : Except Fault (List Char) :=
  let bytes := percentDecode cs
  let name := bytes.map fun b => (Char.ofNat b.toNat).toLower
  if name.isEmpty then .error .emptyHost
  else if name.any fun c => isForbiddenInHost c || isControlOrForeign c || c == '%' then
    .error .invalidName
  else if endsInNumber name then
    match readAddress4? name with
    | some n => .ok (writeAddress4 n)
    | none => .error .invalidAddress4
  else .ok name

/-- **The text of a host**, which may be empty. -/
def readHost (m : Manner) (cs : List Char) : Except Fault (List Char) :=
  if cs.head? = some '[' then
    match bracketedHost? cs with
    | some host => .ok host
    | none => .error .invalidAddress6
  else
    match m with
    | .plain =>
      if cs.any isForbiddenInHost then .error .invalidCharacter
      else .ok (Part.opaqueText.encode cs)
    | .web _ => webHost cs
    | .file =>
      if cs.isEmpty then .ok []
      else (webHost cs).map fun host => if String.ofList host = "localhost" then [] else host

/-- Takes in the digits of a port. -/
def readPortDigits (acc : Nat) : List Char → Except Fault Nat
  | [] => .ok acc
  | c :: rest =>
    if !c.isDigit ∨ 65535 < acc * 10 + digitValue c then .error .invalidPort
    else readPortDigits (acc * 10 + digitValue c) rest

/-- **The port after its colon**, and what follows it.  The port that goes without saying is
dropped. -/
def readPort (m : Manner) (cs : List Char) : Except Fault (Option Nat × List Char) :=
  let ends (c : Char) : Bool := c == '/' || c == '\\' || c == '?' || c == '#'
  let ds := cs.takeWhile fun c => !ends c
  match readPortDigits 0 ds with
  | .error fault => .error fault
  | .ok n => .ok (if ds.isEmpty ∨ m = .web n then none else some n, cs.dropWhile fun c => !ends c)

/-- **The authority after its slashes**, and what follows it. -/
def readAuthority (m : Manner) (cs : List Char) : Except Fault (Authority × List Char) := do
  let (user, password, rest) ← readCredentials m cs
  let length := hostLength m false rest
  let host ← readHost m (rest.take length)
  let rest := rest.drop length
  let credentials := !user.isEmpty || password.isSome
  if host.isEmpty ∧ rest.head? = some ':' then throw .emptyHost
  let (port, rest) ← match rest with
    | ':' :: rest => readPort m rest
    | rest => pure (none, rest)
  if host.isEmpty ∧ credentials then throw .emptyHost
  return (⟨user, password, if host.isEmpty then none else some host, port⟩, rest)

/-! ## Path -/

/-- The segments of a path. -/
def splitSegments (m : Manner) (cs : List Char) : List (List Char) := cs.splitOnP m.isSlash

/-- A segment in which every `%2e` is written as the point it stands for. -/
def pointed : List Char → List Char
  | '%' :: '2' :: e :: rest =>
    if e = 'e' ∨ e = 'E' then '.' :: pointed rest else '%' :: '2' :: pointed (e :: rest)
  | c :: rest => c :: pointed rest
  | [] => []

/-- Whether a text names a drive: a letter, and a colon or a bar. -/
def namesDrive (cs : List Char) : Bool :=
  match cs with
  | [letter, mark] => letter.isAlpha && (mark == ':' || mark == '|')
  | _ => false

/-- Whether a segment starts with a drive, up to its first backslash. -/
def startsWithDrive (segment : List Char) : Bool := namesDrive (segment.takeWhile (· != '\\'))

/-- The segments without the last one, unless that starts with a drive. -/
def goBack (done : List (List Char)) : List (List Char) :=
  if (done.getLast?.map startsWithDrive).getD false then done else done.dropLast

/-- Takes in segments.  One point stays where it is, two go back by one; at the end of the path
either leaves an empty segment. -/
def resolveSegments (done : List (List Char)) : List (List Char) → List (List Char)
  | [] => done
  | segment :: rest =>
    let dots := pointed segment
    let done :=
      if dots = ['.', '.'] then goBack done ++ (if rest.isEmpty then [[]] else [])
      else if dots = ['.'] then done ++ (if rest.isEmpty then [[]] else [])
      else done ++ [Part.path.encode segment]
    resolveSegments done rest

/-- **The path of segments**, after the slash it starts with.  The path of a file starts with one
slash only. -/
def resolvePath (m : Manner) (cs : List Char) : List Char :=
  let path := (resolveSegments [] (splitSegments m cs)).flatMap fun segment => '/' :: segment
  if m = .file then '/' :: path.dropWhile (· == '/') else path

/-- The drive with which the path of a file starts, and what follows it, the drive having a colon. -/
def driveOfPath? (path : List Char) : Option (List Char) :=
  match path with
  | '/' :: letter :: mark :: rest =>
    if namesDrive [letter, mark] && (rest.isEmpty || rest.head? == some '/') then
      some ('/' :: letter :: ':' :: rest)
    else none
  | _ => none

/-- The host of a file, and what follows it.  There is neither user nor port, and a drive is no
host. -/
def readFileHost (cs : List Char) : Except Fault (Option (List Char) × List Char) := do
  let text := cs.takeWhile fun c => !Manner.file.endsAuthority c
  if namesDrive text then return (none, cs)
  else
    let host ← readHost .file text
    return (if host.isEmpty then none else some host, cs.drop text.length)

/-- A path after an authority.  Without a slash there is none, but a scheme of the web or of files
has the root. -/
def readPath (m : Manner) (cs : List Char) : List Char :=
  match cs with
  | [] => if m = .plain then [] else ['/']
  | c :: rest => resolvePath m (if m.isSlash c then rest else cs)

/-! ## Whole texts -/

/-- The parts of a text before its query, its query and its fragment, with the last two encoded. -/
def splitMarks (m : Manner) (cs : List Char) :
    List Char × Option (List Char) × Option (List Char) :=
  let front := cs.takeWhile fun c => c != '?' && c != '#'
  let rest := cs.drop front.length
  let queryPart := if m = .plain then Part.query else Part.webQuery
  match rest with
  | '?' :: rest =>
    let query := rest.takeWhile (· != '#')
    let fragment :=
      match rest.drop query.length with
      | _ :: fragment => some (Part.fragment.encode fragment)
      | [] => none
    (front, some (queryPart.encode query), fragment)
  | _ :: fragment => (front, none, some (Part.fragment.encode fragment))
  | [] => (front, none, none)

/-- A URL from behind its scheme. -/
def ofRest (scheme : List Char) (m : Manner) (cs : List Char) : Except Fault Url := do
  let slashes := (cs.takeWhile m.isSlash).length
  let withAuthority (rest : List Char) : Except Fault Url := do
    let (authority, rest) ← readAuthority m rest
    let (path, query, fragment) := splitMarks m rest
    return ⟨scheme, some authority, readPath m path, query, fragment⟩
  match m with
  | .web _ => withAuthority (cs.drop slashes)
  | .file =>
    let (host, rest) ←
      if 2 ≤ slashes then readFileHost (cs.drop 2) else pure (none, cs.drop slashes)
    let (path, query, fragment) := splitMarks m rest
    let path := readPath m path
    match driveOfPath? path with
    | some path => return ⟨scheme, some ⟨[], none, none, none⟩, path, query, fragment⟩
    | none => return ⟨scheme, some ⟨[], none, host, none⟩, path, query, fragment⟩
  | .plain =>
    if 2 ≤ slashes then withAuthority (cs.drop 2)
    else
      let (path, query, fragment) := splitMarks m cs
      let path := if slashes = 1 then resolvePath m (path.drop 1) else Part.opaqueText.encode path
      return ⟨scheme, none, path, query, fragment⟩

/-- **The URL of a text.** -/
def ofText? (s : String) : Except Fault Url :=
  match readScheme (cleaned s.toList) with
  | some (scheme, rest) => ofRest scheme (.ofScheme scheme) rest
  | none => .error .relative

end BoundSql.Url
