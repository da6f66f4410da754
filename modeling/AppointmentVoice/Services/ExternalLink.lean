import AppointmentVoice.Database.Consistency
import AppointmentVoice.Services.Booking

/-!
# The booking link of a caller

A salon that takes bookings on a page of its own answers key 1 of the phone menu with a
message that carries the link.  The message is filed, the call's session ends, and the
job is pushed after the commit.

The machine here runs this handler beside the booking service and the workers.  An error
of the driver ends a call as a crash does, save in a worker: there it is caught, and the
job is given back.
-/

set_option autoImplicit false

namespace AppointmentVoice

open Concurrency World

/-! ## Answers to a caller -/

/-- What the phone does after a prompt. -/
inductive IvrAction where
  | continues
  | ends
  | transfers
  deriving DecidableEq, Repr

/-- A key and what it stands for. -/
structure IvrOption where
  key : String
  label : String
  deriving DecidableEq, Repr

/-- What a phone call is answered with. -/
structure IvrResponse where
  prompt : String
  options : List IvrOption := []
  action : IvrAction := .continues
  sessionId : Option Nat := none
  transferDestination : Option String := none
  deriving DecidableEq, Repr

/-- `IVR_DEFAULT_LOCALE`. -/
def ivrDefaultLocale : String := "en"

/-- `_session_locale`. -/
def sessionLocale (session : VoiceSession) : String :=
  if session.locale.isEmpty then ivrDefaultLocale else session.locale

/-- `resolve_prompt(PromptKey.EXTERNAL_LINK_SENT, …)`: a locale without a table falls back
to the default one. -/
def externalLinkSentPrompt (locale : String) : String :=
  if locale = "pl" then
    "Wysłaliśmy Ci SMS z linkiem do rezerwacji wizyty online. Dziękujemy, do usłyszenia!"
  else
    "We have sent you an SMS with a link to book your appointment online. Thank you, goodbye!"

/-! ## The handler -/

/-- `value or default` of an optional text. -/
def textOr (default : String) (text : Option String) : String :=
  match text with
  | some value => if value.isEmpty then default else value
  | none => default

/-- `enqueue_external_booking_link_sms`. -/
def enqueueExternalBookingLinkSms (business : Business) (callerPhone url : String)
    (label : Option String) (createdAt : Instant) : DbM Nat :=
  addIntent business.tenantId business.id none .externalBookingLink callerPhone
    (textOr "Book online" label ++ ": " ++ url) createdAt

/-- `_handle_press1_external`, for the rows that the handler of the key has read and the
time at which its transaction has begun. -/
def handlePress1External (session : VoiceSession) (business : Business) (startedAt : Instant) :
    DbM IvrResponse := do
  let url := textOr "" business.externalBookingUrl
  let intentId ← enqueueExternalBookingLinkSms business session.callerPhone url
    business.externalBookingLabel startedAt
  update (.updateVoiceSession session.id { step := some .externalLinkSent })
  commit
  enqueueJob (.sendNotification intentId)
  return {
    prompt := externalLinkSentPrompt (sessionLocale session)
    action := .ends
    sessionId := some session.id }

/-! ## A worker whose handler fails -/

/-- `process_next_job` when the database fails the handler: what the handler has not
committed is gone, and the job comes back or is given up. -/
def failJob (cfg : Settings) (entry : QueueEntry) (error : AppError) : DbM Nat := do
  let taken : Bool ← ask (.dequeue entry)
  if taken then do
    rollback
    settleJob cfg entry (some error)
    return 1
  else return 0

/-! ## The machine -/

/-- The calls that file messages, and those that handle their jobs. -/
inductive OutboxCall where
  | salon (call : Call)
  | handlePress1External (session : VoiceSession) (business : Business) (startedAt : Instant)
  | failJob (entry : QueueEntry) (error : AppError)
  deriving DecidableEq, Repr

/-- What the calls return. -/
inductive OutboxReply where
  | salon (reply : Reply)
  | response (response : IvrResponse)
  deriving DecidableEq, Repr

/-- The program of a call. -/
def OutboxCall.perform (cfg : Settings) : OutboxCall → DbM OutboxReply
  | .salon call => .salon <$> AppointmentVoice.perform cfg call
  | .handlePress1External session business startedAt =>
      .response <$> AppointmentVoice.handlePress1External session business startedAt
  | .failJob entry error =>
      (fun handled => .salon (.count handled)) <$> AppointmentVoice.failJob cfg entry error

/-- As the machine of the booking service, with the calls of the outbox. -/
def outboxMachine (cfg : Settings) :
    Machine Sql (World OutboxCall) OutboxCall AppError OutboxReply where
  perform := OutboxCall.perform cfg
  exec := execStmt
  enter pid world := world.release pid
  leave pid world := world.release pid
  ambient before after := ∃ db clock outside, before.clock ≤ clock ∧ SameLedger before.db db ∧
    before.outside.Drifts outside ∧ after = { before with db, clock, outside }

/-- The salon and its queue with the calls that are under way. -/
abbrev OutboxConfig := Config Sql (World OutboxCall) OutboxCall AppError OutboxReply

/-- A database before any call, with nothing in the queue. -/
abbrev outboxStart (db : Db) (nextId : Nat) (clock : Instant) (redisTakes : Nat → Bool) :
    OutboxConfig :=
  .initial (World.start db nextId clock redisTakes)

end AppointmentVoice
