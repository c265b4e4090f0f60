import BoundSql.Detail
import BoundSql.Wire.Execution

/-!
# Pools of connections

A pool opens connections when they are asked for, up to a number, and keeps those that are given
back.  A connection that was closed meanwhile is dropped when it would be handed out again.  Nobody
waits: where none can be had the checkout fails at once.

* **`Pool`** — the type, and **`Pool.ofSize`** a pool without connections.
* **`Pool.checkout`**, **`Pool.release`**, **`Pool.close`** — what is done with it.
* **`Pool.status`** — the numbers it shows.
-/

namespace BoundSql.Connection

open Wire

/-- **A connection to the server**, which may have been closed by it. -/
structure Link where
  isOpen : Bool := true
  deriving DecidableEq, Repr

/-- **A pool**: how many connections it may have, those waiting for use with the longest waiting
first, and how many are in use. -/
structure Pool where
  maxSize : Nat
  idle : List Link
  inUse : Nat
  closed : Bool
  deriving DecidableEq, Repr

/-- **Why no connection could be had.** -/
inductive PoolFault where
  | exhausted
  | closed
  | refused (error : ServerError)
  deriving DecidableEq, Repr

/-- A fault as a failure of the pool. -/
def PoolFault.failure : PoolFault → Failure
  | .exhausted =>
    .pool (.ofMessages "Timeout occurred while waiting for a slot to become available" [])
  | .closed => .pool (.ofMessages "Pool has been closed" [])
  | .refused error =>
    let cause := (ClientFault.server error).foreign
    .pool (.ofMessages ("Error occurred while creating a new object: " ++ cause.message)
      (.message cause.message :: cause.sources))

namespace Pool

/-- A pool without connections. -/
def ofSize (maxSize : Nat) : Pool := ⟨maxSize, [], 0, false⟩

/-- The number of connections, waiting and in use. -/
def size (p : Pool) : Nat := p.idle.length + p.inUse

/-- **Checks out a connection.**  Of those that wait the first that is open is taken and the closed
ones before it are dropped; if there is none, one is opened, unless the server refuses. -/
def checkout (p : Pool) (refusal : Option ServerError) : Except PoolFault Link × Pool :=
  if p.closed then (.error .closed, p)
  else if p.maxSize ≤ p.inUse then (.error .exhausted, p)
  else
    match p.idle.dropWhile (!·.isOpen), refusal with
    | link :: rest, _ => (.ok link, { p with idle := rest, inUse := p.inUse + 1 })
    | [], some error => (.error (.refused error), { p with idle := [] })
    | [], none => (.ok {}, { p with idle := [], inUse := p.inUse + 1 })

/-- **Gives a connection back.**  A closed pool does not keep it. -/
def release (p : Pool) (link : Link) : Pool :=
  { p with
    idle := if p.closed then p.idle else p.idle ++ [link]
    inUse := p.inUse - 1 }

/-- **Closes a pool**: the waiting connections are dropped and no more are handed out.  Those in use
stay until they are given back. -/
def close (p : Pool) : Pool := { p with maxSize := 0, idle := [], closed := true }

/-- **The numbers a pool shows.**  Nobody ever waits. -/
def status (p : Pool) : Detail :=
  let number (n : Nat) : Detail := .word (Decimal.digits n)
  .fields "Status"
    [("max_size", number p.maxSize), ("size", number p.size),
      ("available", number p.idle.length), ("waiting", number 0)]

/-- The description of a driver that works with a pool. -/
def detail (p : Pool) : Detail := .fields "PostgreSQL" [("status", p.status)]

end Pool

/-- The description of a connection in use. -/
def Link.detail : Detail := .partly "PostgreSQLConnection" []

/-- **Runs a statement on a connection**, which is closed from then on if the server closes it.
Nothing is sent on a closed connection. -/
def Link.execute {σ : Type} (link : Link) (server : Server σ) (state : σ) (text : String)
    (params : List Value) : Exchange σ × Link :=
  if link.isOpen then
    let exchange := Wire.execute server state text params
    (exchange, ⟨exchange.isOpen⟩)
  else (⟨.error ClientFault.closed.failure, [], state, false⟩, link)

/-- **Runs a statement on a connection of a pool**, which is given back afterwards. -/
def Pool.execute {σ : Type} (p : Pool) (refusal : Option ServerError) (server : Server σ)
    (state : σ) (text : String) (params : List Value) : Except Failure Response × List Sent × Pool :=
  match p.checkout refusal with
  | (.error fault, p) => (.error fault.failure, [], p)
  | (.ok link, p) =>
    let (exchange, link) := link.execute server state text params
    (exchange.result, exchange.sent, p.release link)

end BoundSql.Connection
