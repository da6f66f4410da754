import AppointmentVoice.Properties.PaymentAgreement

/-!
# No double booking

The exclusion constraint and the check before it keep two active bookings of one
member of staff from overlapping in any committed state of any interleaving.  A
call that loses the race shows nothing to anyone.

How it ends depends on where it loses.  `create_pending_payment_hold` inserts
the booking inside its `try` block and always ends with the domain error.
`create_booking` flushes the insert before its `try` block, so a conflict that
slips past the check leaves it as the driver's error; a schedule of two calls
shows it.  Where no insert of `create_booking` meets a visible overlapping row,
every losing call ends with the domain error.

**The result.** `noDoubleBooking_in_every_run` for the committed states and `races_end_cleanly`
for the calls; `create_booking_raises_integrity_error` is the schedule of two calls.
-/

set_option autoImplicit false

namespace AppointmentVoice

open Concurrency World

/-! ## The statements of a losing call -/

/-- The call is one of the two that make bookings. -/
def Call.makes : Call → Prop
  | .createBooking _ => True
  | .createPendingPaymentHold _ => True
  | _ => False

/-- The call has found its slot taken, by the check or by the constraint. -/
def Lost (log : Log) : Prop := ∃ event ∈ log, Losing event

/-- Two bookings take up a common moment. -/
def Booking.Overlap (first second : Booking) : Prop :=
  ∃ moment : Instant, (first.startsAt ≤ moment ∧ moment < first.endsAt) ∧
    (second.startsAt ≤ moment ∧ moment < second.endsAt)

/-- No two active bookings of one member of staff overlap. -/
def NoDoubleBooking (db : Db) : Prop :=
  ∀ first ∈ db.bookings, ∀ second ∈ db.bookings, first.id ≠ second.id →
    first.status.active = true → second.status.active = true → first.staffId.isSome = true →
    first.staffId = second.staffId → ¬first.Overlap second

/-- Overlapping active bookings of one member of staff violate the constraint. -/
theorem excludes_of_overlap {first second : Booking} (active : first.status.active = true)
    (activeToo : second.status.active = true) (staffed : first.staffId.isSome = true)
    (sameStaff : first.staffId = second.staffId) (overlap : first.Overlap second) :
    excludes first second = true := by
  obtain ⟨moment, ⟨begun, inside⟩, begunToo, insideToo⟩ := overlap
  have nonempty := Int.lt_of_le_of_lt begun inside
  have nonemptyToo := Int.lt_of_le_of_lt begunToo insideToo
  have before := Int.lt_of_le_of_lt begun insideToo
  have after := Int.lt_of_le_of_lt begunToo inside
  rw [sameStaff] at staffed
  simp only [excludes, active, activeToo, staffed, sameStaff, beq_self_eq_true, nonempty,
    nonemptyToo, before, after, decide_true, Bool.and_self]

theorem noDoubleBooking_of_consistent {world : World Call} (consistent : world.Consistent) :
    NoDoubleBooking world.db := by
  intro first one second two different active activeToo staffed sameStaff overlap
  have clash := excludes_of_overlap active activeToo staffed sameStaff overlap
  rw [consistent.exclusion (.inl one) (.inl two) different] at clash
  cases clash

/-- **No committed state of any run has a double booking.** -/
theorem noDoubleBooking_in_every_run {cfg : Settings} {db : Db} {nextId : Nat}
    (wellFormed : db.WellFormed nextId) {clock : Instant} {redisTakes : Nat → Bool}
    {config : BookingConfig}
    (runs : BookingRun cfg (bookingStart db nextId clock redisTakes) config) :
    NoDoubleBooking config.world.db := by
  have start := orderly_start cfg (fun _ => True) wellFormed trivial clock redisTakes
  have orderly := BookingRun.orderly lawful_true start runs
  exact noDoubleBooking_of_consistent orderly.invariant.1

/-! ## Losing at the check -/

/-- The next statement of a call, when it is an insert of `create_booking`, meets
no visible row that its booking overlaps. -/
def insertFree (config : BookingConfig) : Action Call → Bool
  | .issue pid =>
      match config.running pid with
      | some ⟨.createBooking _, .call (.insert draft) _, _⟩ =>
          match draft config.world.nextId with
          | .insertBooking row => !(config.world.view pid).bookings.any (excludes row)
          | _ => true
      | _ => true
  | _ => true

/-- A call of `create_booking` that has been refused by the constraint. -/
def RefusedCreate (call : Call) (event : Event Sql) : Prop :=
  (∃ args, call = .createBooking args) ∧ Refused event

/-- An insert that meets no visible overlapping row is not refused. -/
theorem not_refused_of_insertFree {config : BookingConfig} {pid : Pid} {call : Call} {stmt : Stmt}
    {next : stmt.Answer → Program Sql AppError Reply} {log : Log} {answer : stmt.Answer}
    {world : World Call} (free : insertFree config (.issue pid) = true)
    (running : config.running pid = some ⟨call, .call stmt next, log⟩)
    (executed : execStmt pid call stmt config.world = some (answer, world)) :
    ¬RefusedCreate call ⟨stmt, answer⟩ := by
  rintro ⟨⟨args, rfl⟩, refused⟩
  cases stmt with
  | insert draft =>
      simp only [insertFree, running] at free
      simp only [execStmt] at executed
      split at executed
      · cases executed
      split at executed
      · next violated =>
          cases executed
          cases refused
          cases drafted : draft config.world.nextId with
          | insertBooking row =>
              rw [drafted] at free violated
              rw [Bool.not_eq_true'] at free
              simp only [Db.violated, free] at violated
              cases violated
          | insertPayment row =>
              rw [drafted, Db.violated] at violated
              split at violated <;> cases violated
          | insertCalendarEvent row =>
              rw [drafted, Db.violated] at violated
              split at violated <;> cases violated
          | insertCustomer row =>
              rw [drafted, Db.violated] at violated
              split at violated <;> cases violated
          | _ =>
              rw [drafted] at violated
              cases violated
      · cases executed
        cases refused
  | _ => exact refused

/-- How a call that makes a booking may end: when it has lost, with the domain
error and nothing left behind, and never with the error of the driver. -/
structure EndsCleanly (outcome : Outcome Sql Call AppError Reply) : Prop where
  losing : Lost outcome.log → outcome.result = .error slotTaken ∧ Silent outcome.log
  raw : ∀ constraint, outcome.result ≠ .error (.integrity constraint)

/-- The promise of a call that makes a booking, when no insert of it was
refused. -/
theorem Promise.ends_cleanly {cfg : Settings} {law : Db → Prop}
    {outcome : Outcome Sql Call AppError Reply} (makes : outcome.call.makes)
    (promise : Promise cfg law outcome.call outcome.result outcome.log)
    (spared : ∀ event ∈ outcome.log, ¬RefusedCreate outcome.call event) : EndsCleanly outcome := by
  obtain ⟨call, result, log⟩ := outcome
  cases call with
  | createBooking args =>
      cases result with
      | ok reply =>
          exact ⟨fun ⟨event, member, losing⟩ => absurd losing (promise event member), nofun⟩
      | error error =>
          have failed : CreateFailed error log := promise
          have notRaw : ∀ constraint, error ≠ .integrity constraint := by
            intro constraint same
            obtain ⟨event, member, refused⟩ := failed.integrity constraint same
            exact spared event member ⟨⟨args, rfl⟩, refused⟩
          refine ⟨fun lost => ?_, fun constraint same => ?_⟩
          · obtain ⟨silent, taken | raw⟩ := failed.losing lost
            · exact ⟨congrArg Except.error taken, silent⟩
            · exact absurd raw (notRaw _)
          · cases same
            exact notRaw constraint rfl
  | createPendingPaymentHold args =>
      cases result with
      | ok reply =>
          exact ⟨fun ⟨event, member, losing⟩ => absurd losing (promise event member), nofun⟩
      | error error =>
          have failed : HoldFailed error log := promise
          refine ⟨fun lost => ?_, fun constraint same => ?_⟩
          · obtain ⟨silent, taken⟩ := failed.losing lost
            exact ⟨congrArg Except.error taken, silent⟩
          · cases same
            exact failed.integrity constraint rfl
  | _ => exact absurd makes id

/-- **Races for a slot.** No committed state has a double booking; and in a run
in which no insert of `create_booking` meets a visible overlapping row, every
call that loses ends with the domain error, has neither committed nor pushed
anything, and no call ends with the error of the driver. -/
theorem races_end_cleanly (cfg : Settings) {db : Db} {nextId : Nat}
    (wellFormed : db.WellFormed nextId) (clock : Instant) (redisTakes : Nat → Bool)
    {config : BookingConfig}
    (runs : Runs (bookingMachine cfg) (fun before action => insertFree before action = true)
      (bookingStart db nextId clock redisTakes) config) :
    NoDoubleBooking config.world.db ∧
      (∀ outcome ∈ config.finished, outcome.call.makes → EndsCleanly outcome) ∧
      Accountable cfg config := by
  have plain : BookingRun cfg (bookingStart db nextId clock redisTakes) config :=
    Runs.mono (fun _ _ _ => trivial) runs
  have start := orderly_start cfg (fun _ => True) wellFormed trivial clock redisTakes
  have orderly := BookingRun.orderly lawful_true start plain
  have spared : config.Spared fun call _ event => RefusedCreate call event := by
    refine Runs.spared runs (Config.spared_initial ..) ?_
    intro before pid call stmt next log answer world free running executed
    exact not_refused_of_insertFree free running executed
  refine ⟨noDoubleBooking_in_every_run wellFormed plain, fun outcome member makes => ?_,
    accountable cfg config⟩
  refine (orderly.finished outcome member).ends_cleanly makes fun event there => ?_
  obtain ⟨earlier, later, whole⟩ := List.append_of_mem there
  refine spared.finished outcome member earlier event ⟨later, ?_⟩
  rw [whole, List.append_assoc]
  rfl

/-! ## Two calls for one slot -/

def bookAnna : Call :=
  .createBooking
    { tenantId := 1, businessId := 1, customerId := 1, serviceId := 1, staffId := some 1,
      startsAt := 0 }

/-- The second call starts after the first has committed. -/
def loseAtCheck : List (Action Call) := wholeCall 0 bookAnna 16 ++ wholeCall 1 bookAnna 6

theorem loseAtCheck_possible :
    (sampleStart.runActions (bookingMachine sampleSettings) loseAtCheck).isSome = true := by
  decide +kernel

theorem loseAtCheck_free :
    sampleStart.passes (bookingMachine sampleSettings) insertFree loseAtCheck = true := by
  decide +kernel

/-- The call has found its slot taken by the check. -/
def lostAtCheck (outcome : Outcome Sql Call AppError Reply) : Bool :=
  outcome.call = bookAnna &&
    outcome.log.any fun
      | ⟨.select (.doubleBooking _ _ _ _ _), answer⟩ => (answer : Option Booking).isSome
      | _ => false

theorem lost_of_lostAtCheck {outcome : Outcome Sql Call AppError Reply}
    (lost : lostAtCheck outcome = true) : outcome.call.makes ∧ Lost outcome.log := by
  simp only [lostAtCheck, Bool.and_eq_true, decide_eq_true_eq, List.any_eq_true] at lost
  obtain ⟨called, event, member, found⟩ := lost
  refine ⟨called ▸ trivial, event, member, ?_⟩
  split at found
  · exact Option.isSome_iff_ne_none.mp found
  · cases found

theorem race_ends_cleanly_at_check :
    ∃ config, Runs (bookingMachine sampleSettings)
        (fun before action => insertFree before action = true) sampleStart config ∧
      NoDoubleBooking config.world.db ∧
      ∃ outcome ∈ config.finished, Lost outcome.log ∧ outcome.result = .error slotTaken ∧
        Silent outcome.log := by
  have runs := Runs.of_guarded (fun _ _ free => free) loseAtCheck loseAtCheck_free
    (Option.some_get loseAtCheck_possible).symm
  obtain ⟨single, clean, -⟩ :=
    races_end_cleanly sampleSettings sampleDb_wellFormed 0 (fun _ => true) runs
  have present : ((sampleStart.runActions (bookingMachine sampleSettings) loseAtCheck).get
      loseAtCheck_possible).finished.any lostAtCheck = true := by decide +kernel
  obtain ⟨outcome, member, found⟩ := List.any_eq_true.mp present
  obtain ⟨makes, lost⟩ := lost_of_lostAtCheck found
  obtain ⟨raised, silent⟩ := (clean outcome member makes).losing lost
  exact ⟨_, runs, single, outcome, member, lost, raised, silent⟩

/-- Both calls pass the check before one of them inserts. -/
def loseAtInsert : List (Action Call) :=
  .start 1 bookAnna :: List.replicate 6 (.issue 1) ++ wholeCall 0 bookAnna 16 ++
    [.issue 1, .finish 1]

theorem loseAtInsert_possible :
    (sampleStart.runActions (bookingMachine sampleSettings) loseAtInsert).isSome = true := by
  decide +kernel

/-- The call has ended with the error of the driver. -/
def raisedRaw (outcome : Outcome Sql Call AppError Reply) : Bool :=
  match outcome.result with
  | .error (.integrity _) => outcome.call = bookAnna
  | _ => false

theorem create_booking_raises_integrity_error :
    ¬∀ config, BookingRun sampleSettings sampleStart config →
      ∀ outcome ∈ config.finished, outcome.call.makes → EndsCleanly outcome := by
  intro clean
  have runs := BookingRun.of_actions loseAtInsert_possible
  have present : ((sampleStart.runActions (bookingMachine sampleSettings) loseAtInsert).get
      loseAtInsert_possible).finished.any raisedRaw = true := by decide +kernel
  obtain ⟨outcome, member, found⟩ := List.any_eq_true.mp present
  unfold raisedRaw at found
  split at found
  · next constraint raised =>
      have called : outcome.call = bookAnna := of_decide_eq_true found
      exact (clean _ runs outcome member (called ▸ trivial)).raw constraint raised
  · cases found

end AppointmentVoice
