import AppointmentVoice.Concurrency.Paths
import AppointmentVoice.Services.RateLimits

/-!
# Rate limits limit, and recover unless an expiry is lost

Each request that passes has a count of its own, from one up to the limit, so that no more
requests pass within one life of the counter.  The counter gets its expiry from the request
that has created it.  As long as that request gets through, a counter without an expiry has
somebody who is about to set it.

**The result.** `rate_limits_hold_and_recover`: the bound in every run, and the expiry in every
run in which nothing is lost between the two commands; `counter_without_expiry` is a request
that dies in between.
-/

set_option autoImplicit false

namespace AppointmentVoice.RateLimits

open Concurrency

/-! ## What a request has seen -/

/-- Where a request is. -/
inductive Phase where
  | fresh
  | counted (count : Count)
  | limited (count : Count)
  | failed
  deriving DecidableEq, Repr

/-- The count with which a request may pass. -/
def Phase.ticket : Phase → Option Count
  | .counted count => some count
  | .limited count => some count
  | _ => none

def Phase.learn (phase : Phase) (event : Event RateSql) : Phase :=
  match event with
  | ⟨.incr, some count⟩ => .counted count
  | ⟨.incr, none⟩ => .failed
  | ⟨.expire _, true⟩ => (phase.ticket.map .limited).getD .failed
  | ⟨.expire _, false⟩ => .failed

def phaseOf (log : List (Event RateSql)) : Phase := log.foldl Phase.learn .fresh

def learnRate (windowSeconds : Nat) : Monitor RateSql Phase where
  may _ event :=
    match event with
    | ⟨.incr, some count⟩ => 1 ≤ count.value
    | _ => True
  must phase stmt :=
    match stmt with
    | .incr => phase = .fresh
    | .expire window => window = windowSeconds ∧ ∃ count, phase = .counted count ∧ count.value = 1
  learn := Phase.learn

/-- The request is not between its two commands. -/
def Phase.Past (phase : Phase) : Prop := ∀ count, phase = .counted count → count.value ≠ 1

/-- A request that passes has a count within the limit, and none ends between its two
commands. -/
structure Passes (limit : Nat) (result : Except RateError Unit) (phase : Phase) : Prop where
  passed : result = .ok () →
    ∃ count, phase.ticket = some count ∧ 1 ≤ count.value ∧ count.value ≤ limit
  past : phase.Past

def rateWatch (limit windowSeconds : Nat) : Watch RateSql Unit RateError Unit Phase where
  monitor _ := learnRate windowSeconds
  initial _ := .fresh
  post _ := Passes limit

theorem checkLimit_along {limit windowSeconds : Nat} {count : Count} {phase : Phase}
    (ticket : phase.ticket = some count) (past : phase.Past) (positive : 1 ≤ count.value) :
    (learnRate windowSeconds).Along (Passes limit) (checkLimit limit count) phase := by
  rw [checkLimit]
  split
  · exact .raise ⟨by rintro ⟨⟩, past⟩
  · rename_i within
    exact .ret ⟨fun _ => ⟨count, ticket, positive, Nat.not_lt.mp within⟩, past⟩

theorem setExpiry_along {windowSeconds : Nat} {count : Count} :
    (learnRate windowSeconds).Along
      (fun result phase => (result = .ok () → phase.ticket = some count) ∧ phase.Past)
      (setExpiry windowSeconds count) (.counted count) := by
  rw [setExpiry]
  split
  · rename_i first
    refine .call ⟨rfl, count, rfl, first⟩ fun answer _ => ?_
    cases answer with
    | false => exact .raise ⟨by rintro ⟨⟩, by rintro _ ⟨⟩⟩
    | true => exact .ret ⟨fun _ => rfl, by rintro _ ⟨⟩⟩
  · rename_i later
    exact .ret ⟨fun _ => rfl, by rintro _ ⟨⟩; exact later⟩

theorem enforce_along (limit windowSeconds : Nat) :
    (learnRate windowSeconds).Along (Passes limit)
      (enforceRateLimitCounter limit windowSeconds) .fresh := by
  refine .call rfl fun answer possible => ?_
  cases answer with
  | none => exact .raise ⟨by rintro ⟨⟩, by rintro _ ⟨⟩⟩
  | some count =>
      refine (setExpiry_along.mono fun result phase kept => ?_).bind
      cases result with
      | error error => exact ⟨by rintro ⟨⟩, kept.2⟩
      | ok value => exact checkLimit_along (kept.1 rfl) kept.2 possible

/-! ## The counts of one counter are different -/

/-- A count that has been given out. -/
def Issued (world : RateWorld) (count : Count) : Prop :=
  ∃ counter, world.counter = some counter ∧
    (count.life < counter.life ∨ count.life = counter.life ∧ count.value ≤ counter.count)

/-- The request has the count. -/
def Holds (count : Count) (_ : Unit) (log : List (Event RateSql)) : Prop :=
  (phaseOf log).ticket = some count

/-- An `INCR` counts on, or brings a new counter to life. -/
theorem counted_cases (world : RateWorld) :
    (∃ counter, world.live = some counter ∧ world.counter = some counter ∧
        world.counted = { counter with count := counter.count + 1 }) ∨
      world.live = none ∧ world.counted = ⟨world.nextLife, 1, none⟩ := by
  rw [RateWorld.counted]
  cases seen : world.live with
  | some counter => exact .inl ⟨counter, rfl, (Option.filter_eq_some_iff.mp seen).1, rfl⟩
  | none => exact .inr ⟨rfl, rfl⟩

theorem lt_nextLife {world : RateWorld} {counter : Counter}
    (stored : world.counter = some counter) :
    counter.life < world.nextLife := by
  rw [RateWorld.nextLife, stored]
  exact Nat.lt_succ_self counter.life

theorem counted_fresh (world : RateWorld) :
    ¬ Issued world ⟨world.counted.count, world.counted.life⟩ := by
  rintro ⟨counter, stored, old⟩
  rcases counted_cases world with ⟨other, -, same, counted⟩ | ⟨-, counted⟩
  · obtain rfl := Option.some.inj (stored.symm.trans same)
    rw [counted] at old
    dsimp only at old
    omega
  · rw [counted] at old
    have below := lt_nextLife stored
    dsimp only at old
    omega

/-- A count that has been given out stays given out. -/
theorem Issued.incr {world : RateWorld} {count : Count} (issued : Issued world count)
    (outage : Outage) : Issued { world with counter := some world.counted, outage } count := by
  obtain ⟨counter, stored, old⟩ := issued
  refine ⟨world.counted, rfl, ?_⟩
  rcases counted_cases world with ⟨other, -, same, counted⟩ | ⟨-, counted⟩
  · obtain rfl := Option.some.inj (stored.symm.trans same)
    rw [counted]
    dsimp only
    omega
  · rw [counted]
    have below := lt_nextLife stored
    dsimp only
    omega

theorem issued_of_counter {before after : RateWorld} {count : Count}
    (same : ∀ counter, before.counter = some counter →
      ∃ later, after.counter = some later ∧ later.life = counter.life ∧
        later.count = counter.count)
    (issued : Issued before count) : Issued after count := by
  obtain ⟨counter, stored, old⟩ := issued
  obtain ⟨later, present, life, counts⟩ := same counter stored
  exact ⟨later, present, by omega⟩

theorem Issued.exec {world : RateWorld} {count : Count} (issued : Issued world count) :
    ∀ stmt, Issued (execRate stmt world).2 count
  | .incr => by
      rw [execRate]
      split
      · exact issued
      · exact issued.incr world.outage
  | .expire windowSeconds => by
      rw [execRate]
      split
      · exact issued
      · refine issued_of_counter (fun counter stored => ?_) issued
        dsimp only
        rw [RateWorld.expiring]
        cases seen : world.live with
        | none => exact ⟨counter, stored, rfl, rfl⟩
        | some alive =>
            obtain rfl := Option.some.inj
              (stored.symm.trans (Option.filter_eq_some_iff.mp seen).1)
            exact ⟨_, rfl, rfl, rfl⟩

theorem Issued.step {limit windowSeconds : Nat} {before after : RateConfig} {action : Action Unit}
    {count : Count} (issued : Issued before.world count)
    (taken : Step (rateMachine limit windowSeconds) before action after) :
    Issued after.world count := by
  cases taken with
  | start call idle => exact issued
  | @issue pid call stmt next log answer world running executed =>
      have same : (execRate stmt before.world).2 = world :=
        congrArg Prod.snd (Option.some.inj executed)
      exact same ▸ issued.exec stmt
  | finish running ended => exact issued
  | stop running => exact issued
  | ambient changed =>
      exact issued_of_counter (fun counter stored => ⟨counter, changed.1.trans stored, rfl, rfl⟩)
        issued

/-- What is known of a run: every request does what the code does, and each count has been
given out, to one request only. -/
structure Booked (limit windowSeconds : Nat) (config : RateConfig) : Prop where
  watched : config.Watched (rateWatch limit windowSeconds)
  issued : config.Every fun world call log =>
    ∀ count, Holds count call log → Issued world count
  sole : ∀ count, config.Sole (Holds count)

theorem booked_initial (limit windowSeconds : Nat) (world : RateWorld) :
    Booked limit windowSeconds (Config.initial world) :=
  ⟨.initial _ _, .initial _, fun _ => Config.sole_initial _ _⟩

/-- A request has its count from the answer of its `INCR`. -/
theorem holds_snoc {count : Count} {log : List (Event RateSql)}
    {event : Event RateSql} (holds : Holds count () (log ++ [event])) :
    Holds count () log ∨ event = ⟨.incr, (some count : Option Count)⟩ := by
  rw [Holds, phaseOf, List.foldl_append] at holds
  change ((phaseOf log).learn event).ticket = some count at holds
  rcases event with ⟨incr | window, answer⟩
  · cases answer with
    | none => cases holds
    | some given => exact .inr (congrArg (Sigma.mk RateStmt.incr) holds)
  · cases answer with
    | false => cases holds
    | true =>
        refine .inl ?_
        rw [Holds]
        generalize phaseOf log = phase at *
        cases phase with
        | fresh => cases holds
        | failed => cases holds
        | counted given => exact holds
        | limited given => exact holds

/-- What an `INCR` answers. -/
theorem exec_incr {world after : RateWorld} {count : Count}
    (executed : execRate .incr world = ((some count : Option Count), after)) :
    count = ⟨world.counted.count, world.counted.life⟩ ∧
      after = { world with counter := some world.counted } := by
  rw [execRate] at executed
  split at executed
  · cases executed
  · obtain ⟨answer, same⟩ := Prod.mk.inj executed
    have reply : world.incrReply = some count := answer
    rw [RateWorld.incrReply] at reply
    split at reply
    · cases reply
    · exact ⟨(Option.some.inj reply).symm, same.symm⟩

theorem counted_positive (world : RateWorld) : 1 ≤ world.counted.count := by
  rcases counted_cases world with ⟨counter, -, -, counted⟩ | ⟨-, counted⟩
  · rw [counted]
    exact Nat.le_add_left 1 counter.count
  · rw [counted]

theorem issued_counted {world : RateWorld} :
    Issued { world with counter := some world.counted }
      ⟨world.counted.count, world.counted.life⟩ :=
  ⟨world.counted, rfl, .inr ⟨rfl, le_rfl⟩⟩

theorem issued_of_marked {config : RateConfig} {count : Count}
    {who : Pid ⊕ Nat}
    (issued : config.Every fun world call log =>
      ∀ count, Holds count call log → Issued world count)
    (marked : config.Marked (Holds count) who) : Issued config.world count := by
  cases who with
  | inl pid =>
      obtain ⟨process, running, holds⟩ := Config.marked_running.mp marked
      exact issued.running pid process running count holds
  | inr index =>
      obtain ⟨outcome, there, holds⟩ := Config.marked_finished.mp marked
      exact issued.finished outcome (List.mem_of_getElem? there) count holds

theorem Booked.step {limit windowSeconds : Nat} {before after : RateConfig} {action : Action Unit}
    (booked : Booked limit windowSeconds before)
    (taken : Step (rateMachine limit windowSeconds) before action after) :
    Booked limit windowSeconds after where
  watched := by
    refine booked.watched.step taken (fun _ => enforce_along limit windowSeconds) ?_
    rintro pid ⟨⟩ stmt next log answer world - - executed
    cases stmt with
    | expire window => cases answer <;> exact trivial
    | incr =>
        cases answer with
        | none => exact trivial
        | some count =>
            obtain ⟨rfl, -⟩ := exec_incr (Option.some.inj executed)
            exact counted_positive before.world
  issued := by
    refine booked.issued.step taken ?_ ?_ ?_
    · intro call log known count holds
      exact (known count holds).step taken
    · rintro pid ⟨⟩ - count ⟨⟩
    · rintro pid ⟨⟩ stmt next log answer - - executed known count holds
      rcases holds_snoc holds with old | event
      · exact (known count old).step taken
      · cases event
        obtain ⟨rfl, same⟩ := exec_incr (Option.some.inj executed)
        rw [same]
        exact issued_counted
  sole := by
    intro count
    refine (booked.sole count).step taken (by rintro ⟨⟩ ⟨⟩) ?_
    rintro _ ⟨running, executed, marks, new⟩ other marked
    rcases holds_snoc marks with old | event
    · exact new old
    · cases event
      obtain ⟨rfl, -⟩ := exec_incr (Option.some.inj executed)
      exact counted_fresh _ (issued_of_marked booked.issued marked)

/-! ## At most `limit` requests pass -/

/-- The count by which a request has passed, if that is of the given counter. -/
def countIn (life : Nat) (outcome : Outcome RateSql Unit RateError Unit) : Option Nat :=
  match outcome.result with
  | .ok () => ((phaseOf outcome.log).ticket.filter (·.life == life)).map (·.value)
  | .error _ => none

/-- How many requests have passed within one life of the counter. -/
def passes (life : Nat) (config : RateConfig) : Nat :=
  (config.finished.filterMap (countIn life)).length

theorem countIn_eq_some {life value : Nat} {outcome : Outcome RateSql Unit RateError Unit}
    (passed : countIn life outcome = some value) :
    outcome.result = .ok () ∧ (phaseOf outcome.log).ticket = some ⟨value, life⟩ := by
  rw [countIn] at passed
  split at passed
  · rename_i result
    obtain ⟨count, found, rfl⟩ := Option.map_eq_some_iff.mp passed
    obtain ⟨ticket, same⟩ := Option.filter_eq_some_iff.mp found
    obtain rfl := beq_iff_eq.mp same
    exact ⟨result, ticket⟩
  · cases passed

theorem Booked.passes_le {limit windowSeconds : Nat} {config : RateConfig}
    (booked : Booked limit windowSeconds config) (life : Nat) : passes life config ≤ limit := by
  have different : (config.finished.filterMap (countIn life)).Nodup := by
    rw [List.Nodup, List.pairwise_filterMap, List.pairwise_iff_getElem]
    rintro first second here there earlier value passed other passedToo rfl
    have holds := (countIn_eq_some passed).2
    have holdsToo := (countIn_eq_some passedToo).2
    have same := booked.sole ⟨value, life⟩ (.inr first) (.inr second)
      (Config.marked_finished.mpr ⟨_, List.getElem?_eq_getElem here, holds⟩)
      (Config.marked_finished.mpr ⟨_, List.getElem?_eq_getElem there, holdsToo⟩)
    exact absurd (Sum.inr.inj same) earlier.ne
  have within : (config.finished.filterMap (countIn life)).toFinset ⊆ Finset.Icc 1 limit := by
    intro value member
    obtain ⟨outcome, ended, passed⟩ := List.mem_filterMap.mp (List.mem_toFinset.mp member)
    obtain ⟨result, ticket⟩ := countIn_eq_some passed
    obtain ⟨count, found, positive, small⟩ := (booked.watched.finished outcome ended).passed result
    obtain rfl := Option.some.inj (ticket.symm.trans found)
    exact Finset.mem_Icc.mpr ⟨positive, small⟩
  calc passes life config
      = (config.finished.filterMap (countIn life)).toFinset.card :=
        (List.toFinset_card_of_nodup different).symm
    _ ≤ (Finset.Icc 1 limit).card := Finset.card_le_card within
    _ = limit := by rw [Nat.card_Icc, Nat.add_sub_cancel]

/-! ## The counter keeps an expiry -/

/-- The next command of the request is its `EXPIRE`. -/
def AtExpire (process : Process RateSql Unit RateError Unit) : Prop :=
  ∃ windowSeconds next, process.rest = .call (.expire windowSeconds) next

/-- Each counter gets its expiry: no `EXPIRE` fails before Redis has executed it, the answer
to the `INCR` that creates a counter arrives, and no process dies before its `EXPIRE`. -/
def Undisturbed (config : RateConfig) : Action Unit → Prop
  | .issue pid => ∀ process, config.running pid = some process →
      (AtExpire process → config.world.outage ≠ .refused) ∧
      (config.world.outage = .lost → AtExpire process ∨ config.world.live ≠ none)
  | .stop pid => ∀ process, config.running pid = some process → ¬ AtExpire process
  | _ => True

/-- A counter has at most the window left, or else somebody is about to see to it. -/
structure Expiring (windowSeconds : Nat) (config : RateConfig) : Prop where
  soon : ∀ counter expiry, config.world.counter = some counter → counter.expiry = some expiry →
    expiry ≤ config.world.clock + windowSeconds * second
  pending : ∀ counter, config.world.counter = some counter → counter.expiry = none →
    ∃ pid process, config.running pid = some process ∧ AtExpire process

theorem expiring_initial (windowSeconds clock : Nat) :
    Expiring windowSeconds (Config.initial (.start clock)) :=
  ⟨by rintro _ _ ⟨⟩, by rintro _ ⟨⟩⟩

/-- The request that has created the counter goes on to its `EXPIRE`. -/
theorem Booked.atExpire {limit windowSeconds : Nat} {config : RateConfig}
    (booked : Booked limit windowSeconds config) {pid : Pid}
    {process : Process RateSql Unit RateError Unit} {count : Count}
    (running : config.running pid = some process) (counted : phaseOf process.log = .counted count)
    (first : count.value = 1) : AtExpire process := by
  have along := booked.watched.running pid process running
  have here : (rateWatch limit windowSeconds).state process.call process.log = .counted count :=
    counted
  rw [here] at along
  obtain ⟨call, rest, log⟩ := process
  cases along with
  | ret met => exact absurd first (met.past count rfl)
  | raise met => exact absurd first (met.past count rfl)
  | @call stmt next _ allowed _ =>
      cases stmt with
      | incr => cases allowed
      | expire window => exact ⟨window, next, rfl⟩

theorem live_of_endless {world : RateWorld} {counter : Counter}
    (stored : world.counter = some counter) (endless : counter.expiry = none) :
    world.live = some counter := by
  rw [RateWorld.live, stored, Option.filter_eq_some_iff, RateWorld.alive, endless]
  exact ⟨rfl, rfl⟩

theorem not_atExpire_incr {call : Unit} {log : List (Event RateSql)}
    {next : Option Count → Program RateSql RateError Unit} :
    ¬ AtExpire ⟨call, .call .incr next, log⟩ := by
  rintro ⟨_, _, ⟨⟩⟩

/-- Whoever is about to set the expiry still is after the `INCR` of another. -/
theorem Expiring.waiting {windowSeconds : Nat} {before : RateConfig}
    (expiring : Expiring windowSeconds before) {pid : Pid} {call : Unit}
    {log : List (Event RateSql)} {next : Option Count → Program RateSql RateError Unit}
    (running : before.running pid = some ⟨call, .call .incr next, log⟩) {counter : Counter}
    (stored : before.world.counter = some counter) (endless : counter.expiry = none)
    (moved : Option (Process RateSql Unit RateError Unit)) :
    ∃ other process, Function.update before.running pid moved other = some process ∧
      AtExpire process := by
  obtain ⟨other, process, there, atExpire⟩ := expiring.pending counter stored endless
  have different : other ≠ pid := by
    rintro rfl
    obtain rfl := Option.some.inj (running.symm.trans there)
    exact not_atExpire_incr atExpire
  exact ⟨other, process, (Function.update_of_ne different _ _).trans there, atExpire⟩

theorem Expiring.incr {limit windowSeconds : Nat} {before after : RateConfig} {pid : Pid}
    {call : Unit} {log : List (Event RateSql)}
    {next : Option Count → Program RateSql RateError Unit} {answer : Option Count}
    {world : RateWorld} (expiring : Expiring windowSeconds before)
    (booked : Booked limit windowSeconds after)
    (arrives : before.world.outage = .lost → before.world.live ≠ none)
    (running : before.running pid = some ⟨call, .call .incr next, log⟩)
    (executed : execRate .incr before.world = (answer, world))
    (moved : after = ⟨world, Function.update before.running pid
      (some ⟨call, next answer, log ++ [⟨.incr, answer⟩]⟩), before.finished⟩) :
    Expiring windowSeconds after := by
  subst moved
  rw [execRate] at executed
  split at executed
  · obtain ⟨rfl, rfl⟩ := Prod.mk.inj executed
    exact ⟨expiring.soon, fun counter stored endless => expiring.waiting running stored endless _⟩
  · obtain ⟨reply, rfl⟩ := Prod.mk.inj executed
    rcases counted_cases before.world with ⟨counter, -, stored, counted⟩ | ⟨dead, counted⟩
    · refine ⟨fun other expiry same expires => ?_, fun other same endless => ?_⟩
      · obtain rfl := Option.some.inj same
        rw [counted] at expires
        exact expiring.soon counter expiry stored expires
      · obtain rfl := Option.some.inj same
        rw [counted] at endless
        exact expiring.waiting running stored endless _
    · refine ⟨fun other expiry same expires => ?_, fun other same endless => ?_⟩
      · obtain rfl := Option.some.inj same
        rw [counted] at expires
        cases expires
      · have known : answer = some ⟨1, before.world.nextLife⟩ := by
          have given : before.world.incrReply = answer := reply
          rw [RateWorld.incrReply, if_neg fun lost => arrives lost dead, counted] at given
          exact given.symm
        have phase : phaseOf (log ++ [⟨.incr, answer⟩]) =
            .counted ⟨1, before.world.nextLife⟩ := by
          rw [phaseOf, List.foldl_append, known]
          rfl
        exact ⟨pid, _, Function.update_self .., booked.atExpire (Function.update_self ..) phase rfl⟩

theorem Expiring.expire {windowSeconds : Nat} {before after : RateConfig} {answer : Bool}
    (expiring : Expiring windowSeconds before)
    (executed : execRate (.expire windowSeconds) before.world = (answer, after.world))
    (through : before.world.outage ≠ .refused) : Expiring windowSeconds after := by
  rw [execRate, if_neg through] at executed
  have world : { before.world with counter := before.world.expiring windowSeconds } = after.world :=
    congrArg Prod.snd executed
  refine ⟨fun counter expiry stored expires => ?_, fun counter stored endless => ?_⟩
  · rw [← world] at stored ⊢
    dsimp only [RateWorld.expiring] at stored ⊢
    split at stored
    · obtain rfl := Option.some.inj stored
      exact (Option.some.inj expires).ge
    · exact expiring.soon counter expiry stored expires
  · rw [← world] at stored
    dsimp only [RateWorld.expiring] at stored
    split at stored
    · obtain rfl := Option.some.inj stored
      cases endless
    · rename_i dead
      cases dead.symm.trans (live_of_endless stored endless)

theorem Expiring.step {limit windowSeconds : Nat} {before after : RateConfig} {action : Action Unit}
    (expiring : Expiring windowSeconds before) (booked : Booked limit windowSeconds before)
    (undisturbed : Undisturbed before action)
    (taken : Step (rateMachine limit windowSeconds) before action after) :
    Expiring windowSeconds after := by
  have bookedAfter := booked.step taken
  cases taken with
  | @start pid call idle =>
      refine ⟨expiring.soon, fun counter stored endless => ?_⟩
      obtain ⟨other, process, running, there⟩ := expiring.pending counter stored endless
      have different : other ≠ pid := by
        rintro rfl
        cases idle.symm.trans running
      exact ⟨other, process, (Function.update_of_ne different _ _).trans running, there⟩
  | @issue pid call stmt next log answer world running executed =>
      obtain ⟨through, arrives⟩ := undisturbed _ running
      cases stmt with
      | incr =>
          refine expiring.incr bookedAfter (fun lost => ?_) running (Option.some.inj executed) rfl
          exact (arrives lost).resolve_left not_atExpire_incr
      | expire window =>
          have along := booked.watched.running pid _ running
          cases along with
          | call allowed _ =>
              obtain ⟨rfl, -⟩ := allowed
              exact expiring.expire (Option.some.inj executed) (through ⟨_, _, rfl⟩)
  | @finish pid process result running ended =>
      refine ⟨expiring.soon, fun counter stored endless => ?_⟩
      obtain ⟨other, waiting, there, window, next, rest⟩ := expiring.pending counter stored endless
      have different : other ≠ pid := by
        rintro rfl
        obtain rfl := Option.some.inj (running.symm.trans there)
        rw [rest] at ended
        cases ended
      exact ⟨other, waiting, (Function.update_of_ne different _ _).trans there, window, next, rest⟩
  | @stop pid process running =>
      refine ⟨expiring.soon, fun counter stored endless => ?_⟩
      obtain ⟨other, waiting, there, atExpire⟩ := expiring.pending counter stored endless
      have different : other ≠ pid := by
        rintro rfl
        exact undisturbed waiting there atExpire
      exact ⟨other, waiting, (Function.update_of_ne different _ _).trans there, atExpire⟩
  | @ambient world changed =>
      obtain ⟨same, later⟩ := changed
      refine ⟨fun counter expiry stored expires => ?_, fun counter stored endless => ?_⟩
      · have bound := expiring.soon counter expiry (same ▸ stored) expires
        dsimp only
        omega
      · exact expiring.pending counter (same ▸ stored) endless

/-! ## Rate limits -/

/-- The counter that Redis has expires within the window. -/
def Recovers (windowSeconds : Nat) (world : RateWorld) : Prop :=
  ∀ counter, world.live = some counter →
    ∃ expiry, counter.expiry = some expiry ∧ expiry - world.clock ≤ windowSeconds * second

theorem Expiring.recovers {windowSeconds : Nat} {config : RateConfig}
    (expiring : Expiring windowSeconds config)
    (idle : ∀ pid process, config.running pid = some process → ¬ AtExpire process) :
    Recovers windowSeconds config.world := by
  intro counter seen
  have stored := (Option.filter_eq_some_iff.mp seen).1
  cases expires : counter.expiry with
  | some expiry =>
      have bound := expiring.soon counter expiry stored expires
      exact ⟨expiry, rfl, by omega⟩
  | none =>
      obtain ⟨pid, process, running, atExpire⟩ := expiring.pending counter stored expires
      exact absurd atExpire (idle pid process running)

/-- What is known of an undisturbed run. -/
def Orderly (limit windowSeconds : Nat) (config : RateConfig) : Prop :=
  Booked limit windowSeconds config ∧ Expiring windowSeconds config

/-- In every run at most `limit` requests pass within one life of the counter.  In a run in
which every counter is given its expiry, a counter expires within the window whenever no
request is between its two commands. -/
theorem rate_limits_hold_and_recover (limit windowSeconds clock : Nat) (config : RateConfig) :
    (Runs (rateMachine limit windowSeconds) (fun _ _ => True) (Config.initial (.start clock))
        config → ∀ life, passes life config ≤ limit) ∧
      (Runs (rateMachine limit windowSeconds) Undisturbed (Config.initial (.start clock)) config →
        (∀ pid process, config.running pid = some process → ¬ AtExpire process) →
        Recovers windowSeconds config.world) := by
  constructor
  · intro runs life
    exact (runs.invariant (booked_initial limit windowSeconds _)
      fun _ _ _ booked _ taken => booked.step taken).passes_le life
  · intro runs idle
    have orderly : Orderly limit windowSeconds (Config.initial (.start clock)) :=
      ⟨booked_initial limit windowSeconds _, expiring_initial windowSeconds clock⟩
    have known : Orderly limit windowSeconds config :=
      runs.invariant orderly fun _ _ _ known undisturbed taken =>
        ⟨known.1.step taken, known.2.step known.1 undisturbed taken⟩
    exact known.2.recovers idle

/-- Two requests under a limit of one. -/
def twoRequests : List (Action Unit) :=
  [.start 0 (), .issue 0, .issue 0, .finish 0, .start 1 (), .issue 1, .finish 1]

/-- No outage and no death. -/
def calm (config : RateConfig) : Action Unit → Bool
  | .issue _ => config.world.outage = .none
  | .stop _ => false
  | _ => true

theorem calm_undisturbed (config : RateConfig) (action : Action Unit)
    (holds : calm config action = true) : Undisturbed config action := by
  cases action with
  | issue pid =>
      rintro process -
      rw [calm, decide_eq_true_eq] at holds
      rw [holds]
      exact ⟨fun _ => by rintro ⟨⟩, by rintro ⟨⟩⟩
  | stop pid => cases holds
  | _ => trivial

theorem twoRequests_possible :
    ((Config.initial (.start 0) : RateConfig).runActions (rateMachine 1 60) twoRequests).isSome =
      true := by decide +kernel

/-- The second of two requests is refused, and the counter expires within the minute. -/
theorem second_request_is_refused : ∃ config : RateConfig,
    config.finished.map (fun outcome => outcome.result.toOption.isSome) = [true, false] ∧
      passes 0 config ≤ 1 ∧ Recovers 60 config.world := by
  have ran := (Option.some_get twoRequests_possible).symm
  have runs : Runs (rateMachine 1 60) Undisturbed (Config.initial (.start 0)) _ :=
    Runs.of_guarded calm_undisturbed twoRequests (by decide +kernel) ran
  refine ⟨_, by decide +kernel, (rate_limits_hold_and_recover 1 60 0 _).1
    (Runs.of_runActions twoRequests ran) 0, (rate_limits_hold_and_recover 1 60 0 _).2 runs ?_⟩
  intro pid process running
  rcases pid with _ | _ | pid <;> cases running

/-- The request that has created the counter dies before its `EXPIRE`. -/
def deathAfterIncr : List (Action Unit) := [.start 0 (), .issue 0, .stop 0]

theorem deathAfterIncr_possible :
    ((Config.initial (.start 0) : RateConfig).runActions (rateMachine 1 60)
      deathAfterIncr).isSome = true := by decide +kernel

/-- A counter without an expiry, and nobody who will set it. -/
theorem counter_without_expiry : ∃ config : RateConfig,
    Runs (rateMachine 1 60) (fun _ _ => True) (Config.initial (.start 0)) config ∧
      (∀ pid, config.running pid = none) ∧ ¬ Recovers 60 config.world := by
  refine ⟨_, Runs.of_runActions deathAfterIncr (Option.some_get deathAfterIncr_possible).symm,
    fun pid => ?_, fun recovers => ?_⟩
  · rcases pid with _ | pid <;> rfl
  · obtain ⟨expiry, expires, -⟩ := recovers ⟨0, 1, none⟩ (by decide +kernel)
    cases expires

end AppointmentVoice.RateLimits
