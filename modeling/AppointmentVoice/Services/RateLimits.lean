import AppointmentVoice.Concurrency.Interleaving

/-!
# The counter of a rate limit

`enforce_rate_limit_counter` under one key: a counter in Redis that every request
increments, and that expires some time after the request that has created it has said so.
Either command can fail, before Redis has executed it or after, and a process can die
between the two.

The counter is a number with an expiry or without one (`Counter`), which is gone when its
expiry has come. A request sends `INCR`; the one that counts one sends `EXPIRE` (`setExpiry`);
and a count above the limit is refused (`checkLimit`). What Redis does with the next command,
and whether its answer arrives, is up to the surroundings (`Outage`), and so is the death of a
process.
-/

set_option autoImplicit false

namespace AppointmentVoice.RateLimits

open Concurrency

/-! ## Redis -/

/-- Microseconds in a second. -/
def second : Nat := 1000000

/-- The counters of one key are numbered in the order in which they come to life; without
an expiry a counter stays. -/
structure Counter where
  life : Nat
  count : Nat
  expiry : Option Nat
  deriving DecidableEq, Repr

/-- Whether commands get through; `lost` are executed and their answers do not arrive. -/
inductive Outage where
  | none
  | refused
  | lost
  deriving DecidableEq, Repr

/-- An expired counter is kept for its number only. -/
structure RateWorld where
  counter : Option Counter
  clock : Nat
  outage : Outage
  deriving DecidableEq, Repr

namespace RateWorld

/-- The counter has no expiry, or one that is still to come. -/
def alive (clock : Nat) (counter : Counter) : Bool :=
  match counter.expiry with
  | some expiry => clock < expiry
  | none => true

/-- The counter that Redis sees. -/
def live (world : RateWorld) : Option Counter :=
  world.counter.filter (alive world.clock)

/-- The number of the next counter. -/
def nextLife (world : RateWorld) : Nat :=
  match world.counter with
  | some counter => counter.life + 1
  | none => 0

/-- The counter after an `INCR`. -/
def counted (world : RateWorld) : Counter :=
  match world.live with
  | some counter => { counter with count := counter.count + 1 }
  | none => ⟨world.nextLife, 1, none⟩

/-- Before the first request. -/
def start (clock : Nat) : RateWorld := ⟨none, clock, .none⟩

end RateWorld

/-! ## Commands -/

/-- The Redis commands of a request. -/
inductive RateStmt where
  | incr
  | expire (windowSeconds : Nat)

/-- What `INCR` answers; the number of the counter is for the books, the code does not
see it. -/
structure Count where
  value : Nat
  life : Nat
  deriving DecidableEq, Repr

/-- `none` and `false` are a `RedisError`. -/
def RateStmt.Answer : RateStmt → Type
  | .incr => Option Count
  | .expire _ => Bool

/-- The commands and their answers. -/
abbrev RateSql : Signature := ⟨RateStmt, RateStmt.Answer⟩

/-- What arrives of the answer of an `INCR` that Redis has executed. -/
def RateWorld.incrReply (world : RateWorld) : Option Count :=
  if world.outage = .lost then none else some ⟨world.counted.count, world.counted.life⟩

/-- The counter once an `EXPIRE` has been executed. -/
def RateWorld.expiring (world : RateWorld) (windowSeconds : Nat) : Option Counter :=
  match world.live with
  | some counter => some { counter with expiry := some (world.clock + windowSeconds * second) }
  | none => world.counter

/-- A command that Redis refuses has no effect; one whose answer is lost has its own. -/
def execRate : (stmt : RateStmt) → RateWorld → stmt.Answer × RateWorld
  | .incr, world =>
      if world.outage = .refused then (none, world)
      else (world.incrReply, { world with counter := some world.counted })
  | .expire windowSeconds, world =>
      if world.outage = .refused then (false, world)
      else (decide (world.outage ≠ .lost),
        { world with counter := world.expiring windowSeconds })

/-! ## The limit -/

/-- `HTTPException` by its status. -/
inductive RateError where
  | serviceUnavailable
  | tooManyRequests
  deriving DecidableEq, Repr

/-- The programs of the rate limit. -/
abbrev RateM := Program RateSql RateError

/-- `INCR`; none if there is no answer. -/
def incr : RateM (Option Count) := Program.issue (S := RateSql) .incr

/-- `EXPIRE`; `false` if there is no answer. -/
def expire (windowSeconds : Nat) : RateM Bool :=
  Program.issue (S := RateSql) (.expire windowSeconds)

/-- The request that has created the counter sets its expiry. -/
def setExpiry (windowSeconds : Nat) (current : Count) : RateM Unit := do
  if current.value = 1 then
    if !(← expire windowSeconds) then throw .serviceUnavailable

/-- A count above the limit is refused. -/
def checkLimit (limit : Nat) (current : Count) : RateM Unit :=
  if limit < current.value then throw .tooManyRequests else pure ()

/-- `enforce_rate_limit_counter`: the request that counts one starts the window. -/
def enforceRateLimitCounter (limit windowSeconds : Nat) : RateM Unit := do
  let some current ← incr | throw .serviceUnavailable
  setExpiry windowSeconds current
  checkLimit limit current

/-- The requests under one key; time passes, and outages come and go. -/
def rateMachine (limit windowSeconds : Nat) : Machine RateSql RateWorld Unit RateError Unit where
  perform _ := enforceRateLimitCounter limit windowSeconds
  exec _ _ stmt world := some (execRate stmt world)
  enter _ world := world
  leave _ world := world
  ambient before after := after.counter = before.counter ∧ before.clock ≤ after.clock

/-- A counter with the requests that are under way. -/
abbrev RateConfig : Type := Config RateSql RateWorld Unit RateError Unit

end AppointmentVoice.RateLimits
