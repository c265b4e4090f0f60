import BoundSql.Connection.Pool

/-!
# Settings of a pool

* **`Timeouts`**, **`PoolSettings`** — how many connections, and how long to wait for them.
* **`writeDuration`** — the text of a duration.
* **`builderDetail`** — the description of a database that is about to be connected.
-/

namespace BoundSql.Connection

/-- The text of a duration given in milliseconds: in seconds from one second on, without zeros at
the end of the fraction. -/
def writeDuration (millis : Nat) : List Char :=
  if millis = 0 then ['0', 'n', 's']
  else if millis < 1000 then Decimal.digits millis ++ ['m', 's']
  else
    let fraction := ((Decimal.padded 3 (millis % 1000)).reverse.dropWhile (· == '0')).reverse
    let point := if fraction.isEmpty then [] else ['.']
    Decimal.digits (millis / 1000) ++ point ++ fraction ++ ['s']

/-- **How long to wait** for a connection in use, a new one and one that is used again, in
milliseconds; without a number, for ever. -/
structure Timeouts where
  wait : Option Nat := none
  create : Option Nat := none
  recycle : Option Nat := none
  deriving DecidableEq, Repr

/-- **The settings of a pool.** -/
structure PoolSettings where
  maxSize : Nat
  timeouts : Timeouts := {}
  deriving DecidableEq, Repr

/-- The description of timeouts. -/
def Timeouts.detail (t : Timeouts) : Detail :=
  let duration (d : Option Nat) : Detail := .option (d.map fun millis => .word (writeDuration millis))
  .fields "Timeouts"
    [("wait", duration t.wait), ("create", duration t.create), ("recycle", duration t.recycle)]

/-- The description of the settings of a pool. -/
def PoolSettings.detail (s : PoolSettings) : Detail :=
  .fields "PoolConfig"
    [("max_size", .word (Decimal.digits s.maxSize)), ("timeouts", s.timeouts.detail)]

/-- The description of a database that is about to be connected, with a log or without. -/
def builderDetail (logging : Bool) (s : PoolSettings) : Detail :=
  .fields "Builder"
    [("log", .name (if logging then "true" else "false")), ("pool", s.detail)]

end BoundSql.Connection
