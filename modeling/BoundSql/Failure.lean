import BoundSql.Detail

/-!
# Failures

A failure is a chain of links.  The first link is the one added last; the last link is the failure
that started it.  Most links carry a message; some wrap a failure that came from outside, with the
messages of its sources, and one records that undoing a transaction failed too.

* **`Failure`**, **`Failure.Link`** — the chain and its links.
* **`Failure.context`** — puts a failure in front of another.
* **`Failure.display`** — the messages of the links, joined by colons.
* **`Failure.root`**, **`Failure.suffixes`** — the start of the chain, and the chain from each link on.
* **`Failure.detail`** — the description of its structure.
-/

namespace BoundSql

/-- What a text was read as when reading failed inside another library, whose wording is its own. -/
inductive Form where
  | uuid
  | document
  | moment
  | parameterType
  deriving DecidableEq, Repr

/-- **A source of a failure from outside**: a message, or a text that could not be read. -/
inductive Source where
  | message (text : String)
  | unreadable (form : Form)
  deriving DecidableEq, Repr

/-- The message of a source. -/
def Source.text : Source → String
  | .message text => text
  | .unreadable .uuid => "not a UUID"
  | .unreadable .document => "not a JSON document"
  | .unreadable .moment => "not a date or a time"
  | .unreadable .parameterType => "a parameter of this type cannot be bound"

/-- **A failure from outside**: its own message, the sources behind it from the nearest to the
farthest, and the description of its structure. -/
structure Foreign where
  message : String
  sources : List Source
  detail : Detail

mutual

/-- **A failure**: its newest link and the older ones. -/
inductive Failure where
  | chain (newest : Failure.Link) (older : List Failure.Link)

/-- **One link of a failure.** -/
inductive Failure.Link where
  /-- A message and nothing else. -/
  | adhoc (message : String)
  /-- A failure of any library, shown by its own message. -/
  | wrapped (cause : Foreign)
  /-- A statement that the database driver could not carry out. -/
  | driver (cause : Foreign)
  /-- No connection could be had from the pool. -/
  | pool (cause : Foreign)
  /-- A connection URL that cannot be used. -/
  | invalidUrl (message : String)
  /-- A type without a counterpart, and where it was met. -/
  | unsupportedType (type context : String)
  /-- Undoing a transaction failed, with this failure. -/
  | rollbackFailed (rollback : Failure)

end

namespace Failure

/-- The kinds of failure that callers can tell apart. -/
inductive Category where
  | rollbackFailed
  | driverOperation
  | connectionPool
  | invalidUrl
  | unsupportedType
  | other
  deriving DecidableEq, Repr

/-- A failure of one link. -/
def ofLink (link : Link) : Failure := .chain link []

/-- The newest link. -/
def newest : Failure → Link
  | .chain link _ => link

/-- All links, the newest first. -/
def links : Failure → List Link
  | .chain link older => link :: older

/-- The kind of the newest link. -/
def category (f : Failure) : Category :=
  match f.newest with
  | .rollbackFailed _ => .rollbackFailed
  | .driver _ => .driverOperation
  | .pool _ => .connectionPool
  | .invalidUrl _ => .invalidUrl
  | .unsupportedType _ _ => .unsupportedType
  | .adhoc _ | .wrapped _ => .other

/-! ## Constructors -/

/-- A failure with a message. -/
def adhoc (message : String) : Failure := ofLink (.adhoc message)

/-- A connection URL that cannot be used. -/
def invalidUrl (message : String) : Failure := ofLink (.invalidUrl message)

/-- A type without a counterpart. -/
def unsupportedType (type context : String) : Failure := ofLink (.unsupportedType type context)

/-- A statement that the driver could not carry out. -/
def driver (cause : Foreign) : Failure := ofLink (.driver cause)

/-- No connection could be had from the pool. -/
def pool (cause : Foreign) : Failure := ofLink (.pool cause)

/-- A failure of any library. -/
def wrapped (cause : Foreign) : Failure := ofLink (.wrapped cause)

/-! ## Chains -/

/-- The start of the chain. -/
def root (f : Failure) : Failure :=
  match f with
  | .chain link older => ofLink ((link :: older).getLast (by simp))

/-- The chain from each of the links on. -/
def suffixesOf : List Link → List Failure
  | [] => []
  | link :: older => .chain link older :: suffixesOf older

/-- **The chain from each link on**, the whole chain first. -/
def suffixes (f : Failure) : List Failure := suffixesOf f.links

/-- Why a failure cannot be put in front of another. -/
inductive ContextFault where
  | alreadyCaused
  | shared
  deriving DecidableEq, Repr

/-- The text of a fault. -/
def ContextFault.message : ContextFault → String
  | .alreadyCaused => "consequent error must not already have a cause"
  | .shared => "consequent error must not be shared"

/-- **Puts `consequent` in front of a failure.**  It must be a single link, and no one else may hold
it; the first demand is checked first. -/
def context (f : Failure) (consequent : Failure) (shared : Bool) : Except ContextFault Failure :=
  match consequent with
  | .chain _ (_ :: _) => .error .alreadyCaused
  | .chain link [] => if shared then .error .shared else .ok (.chain link f.links)

/-- **Records that undoing failed as well**, in front of the failure that made it necessary. -/
def rollbackFailed (f : Failure) (rollback : Failure) : Failure :=
  .chain (.rollbackFailed rollback) f.links

/-- The failure with which undoing failed, if the newest link records one. -/
def rollbackFailure? (f : Failure) : Option Failure :=
  match f.newest with
  | .rollbackFailed rollback => some rollback
  | _ => none

/-- The failure of the driver that the newest link wraps, if it wraps one. -/
def driverFailure? (f : Failure) : Option Foreign :=
  match f.newest with
  | .driver cause => some cause
  | _ => none

end Failure

/-! ## Messages -/

/-- The messages of a failure from outside and of all its sources, joined by colons. -/
def Foreign.trail (e : Foreign) : String :=
  e.sources.foldl (fun text source => text ++ ": " ++ source.text) e.message

namespace Failure

mutual

/-- The message of one link. -/
def Link.display : Link → String
  | .adhoc message => message
  | .wrapped cause => cause.message
  | .driver cause => cause.trail
  | .pool cause => "connection pool: " ++ cause.message
  | .invalidUrl message => "invalid connection URL: " ++ message
  | .unsupportedType type context => "unsupported type `" ++ type ++ "` (" ++ context ++ ")"
  | .rollbackFailed rollback => "rollback failed (" ++ rollback.display ++ ")"

/-- **The message of a failure**: those of its links, joined by colons. -/
def display : Failure → String
  | .chain link older => link.display ++ displayOlder older

/-- The messages of the older links, each after a colon. -/
def displayOlder : List Link → String
  | [] => ""
  | link :: older => ": " ++ link.display ++ displayOlder older

end

/-- **The sources behind a failure**, the nearest first: what the newest link wraps and the sources
behind that.  The causes of the chain are not among them. -/
def sources (f : Failure) : List Source :=
  match f.newest with
  | .driver cause => .message cause.trail :: .message cause.message :: cause.sources
  | .pool cause =>
    .message ("connection pool: " ++ cause.message) :: .message cause.message :: cause.sources
  | .wrapped cause => .message cause.message :: cause.sources
  | _ => []

/-! ## Descriptions -/

mutual

/-- The description of one link. -/
def Link.detail : Link → Detail
  | .adhoc message => .tuple "Adhoc" [.fields "AdhocError" [("message", .quoted message)]]
  | .wrapped cause => .tuple "Anyhow" [cause.detail]
  | .driver cause =>
    .tuple "DriverOperationFailed" [.fields "DriverOperationFailed" [("inner", cause.detail)]]
  | .pool cause =>
    .tuple "ConnectionPool" [.fields "ConnectionPoolError" [("inner", cause.detail)]]
  | .invalidUrl message =>
    .tuple "InvalidConnectionUrl" [.fields "InvalidConnectionUrl" [("message", .quoted message)]]
  | .unsupportedType type context =>
    .tuple "UnsupportedType"
      [.fields "UnsupportedType" [("ty", .quoted type), ("context", .quoted context)]]
  | .rollbackFailed rollback =>
    .tuple "RollbackFailed" [.fields "RollbackFailed" [("rollback", rollback.detail)]]

/-- **The description of a failure**: its newest link, and the older ones as its cause. -/
def detail : Failure → Detail
  | .chain link older => .fields "Error" [("kind", link.detail), ("cause", detailOlder older)]

/-- The description of the older links, if there are any. -/
def detailOlder : List Link → Detail
  | [] => .name "None"
  | link :: older =>
    .tuple "Some" [.fields "Error" [("kind", link.detail), ("cause", detailOlder older)]]

end

end Failure

/-! ## Failures from outside -/

/-- A failure of this library as one from outside. -/
def Foreign.ofFailure (f : Failure) : Foreign := ⟨f.display, f.sources, f.detail⟩

/-- A failure from outside with a message and no structure to describe. -/
def Foreign.ofMessages (message : String) (sources : List Source) : Foreign :=
  ⟨message, sources, .quoted message⟩

/-! ## Laws of chains -/

namespace Failure

@[simp] theorem links_ofLink (link : Link) : (ofLink link).links = [link] := rfl

@[simp] theorem links_chain (link : Link) (older : List Link) :
    (Failure.chain link older).links = link :: older := rfl

@[simp] theorem links_rollbackFailed (f rollback : Failure) :
    (f.rollbackFailed rollback).links = .rollbackFailed rollback :: f.links := rfl

theorem links_ne_nil (f : Failure) : f.links ≠ [] := by cases f; simp

end Failure

end BoundSql
