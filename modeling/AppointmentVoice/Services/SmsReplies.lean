import AppointmentVoice.Ivr.Menus

/-!
# Replies to a reminder

A customer answers a reminder with a short message.  A word for no cancels his next
upcoming appointment, a word for yes is entered in the audit log.

The machine delivers such messages.  Nothing but time happens beside the deliveries.
-/

set_option autoImplicit false

namespace AppointmentVoice

open Concurrency World

/-! ## What a message says -/

/-- What a reply asks for. -/
inductive SmsReplyIntent where
  | confirm
  | cancel
  | unrecognized
  deriving DecidableEq, Repr

/-- `str.upper()` of a character, as far as it gives ASCII letters. -/
def upperChar (char : Char) : List Char :=
  match char.toNat with
  | 0xDF => ['S', 'S']
  | 0x131 => ['I']
  | 0x17F => ['S']
  | 0xFB00 => ['F', 'F']
  | 0xFB01 => ['F', 'I']
  | 0xFB02 => ['F', 'L']
  | 0xFB03 => ['F', 'F', 'I']
  | 0xFB04 => ['F', 'F', 'L']
  | 0xFB05 => ['S', 'T']
  | 0xFB06 => ['S', 'T']
  | _ => [char.toUpper]

/-- `body.strip().upper()`. -/
def normalizedReply (body : String) : String :=
  let stripped := ((body.toList.dropWhile isSpace).reverse.dropWhile isSpace).reverse
  String.ofList (stripped.flatMap upperChar)

/-- `_CONFIRM_KEYWORDS`. -/
def confirmKeywords : List String := ["C", "CONFIRM", "Y", "YES"]

/-- `_CANCEL_KEYWORDS`. -/
def cancelKeywords : List String := ["X", "CANCEL", "N", "NO"]

/-- `parse_reply_intent`. -/
@[irreducible] def parseReplyIntent (body : String) : SmsReplyIntent :=
  let normalized := normalizedReply body
  if normalized ∈ confirmKeywords then .confirm
  else if normalized ∈ cancelKeywords then .cancel
  else .unrecognized

/-! ## The handler -/

/-- A message to the number of a business. -/
structure SmsReply where
  businessId : Nat
  tenantId : Nat
  fromPhone : String
  body : String
  deriving DecidableEq, Repr

/-- `get_next_confirmed_booking`: the first one that is still to come. -/
def getNextConfirmedBooking (businessId tenantId customerId : Nat) : DbM (Option Booking) := do
  let time ← now
  select (.nextConfirmedBooking businessId tenantId customerId time)

/-- The branch for a word for no, with its `except ConflictError` clause. -/
def cancelByReply (cfg : Settings) (sms : SmsReply) (booking : Booking) : DbM Unit :=
  MonadExcept.tryCatch
    (do
      let _ ← cancelBooking cfg
        { bookingId := booking.id, businessId := sms.businessId, tenantId := sms.tenantId,
          reason := some "customer_sms_reply" }
      return ())
    fun
      | .conflict _ => pure ()
      | error => throw error

/-- `handle_sms_reply`: a cancel keyword cancels the next confirmed booking of the sender. -/
def handleSmsReply (cfg : Settings) (sms : SmsReply) : DbM SmsReplyIntent := do
  let intent := parseReplyIntent sms.body
  if intent = .unrecognized then return intent
  let customer : Option Customer ← getCustomerByPhone sms.businessId sms.tenantId sms.fromPhone
  match customer with
  | none => return intent
  | some customer => do
      let booking ← getNextConfirmedBooking sms.businessId sms.tenantId customer.id
      match booking with
      | none => return intent
      | some booking => do
          if intent = .cancel then cancelByReply cfg sms booking
          else do
            createAuditLog sms.tenantId none .bookingConfirmed booking.id (some "sms_reply")
            commit
          return intent

/-! ## The machine -/

/-- Deliveries of messages.  The history enters what a delivery commits as the
cancellation `entry`. -/
def smsMachine (cfg : Settings) (entry : CancelBooking) :
    Machine Sql (World Call) SmsReply AppError SmsReplyIntent where
  perform := handleSmsReply cfg
  exec pid _ := execStmt pid (.cancelBooking entry)
  enter pid world := world.release pid
  leave pid world := world.release pid
  ambient before after := ∃ clock, before.clock ≤ clock ∧ after = { before with clock }

/-- The salon with the deliveries that are under way. -/
abbrev SmsConfig := Config Sql (World Call) SmsReply AppError SmsReplyIntent

/-- The database before any delivery. -/
abbrev smsStart (db : Db) (nextId : Nat) (clock : Instant) (redisTakes : Nat → Bool) : SmsConfig :=
  .initial (World.start db nextId clock redisTakes)

end AppointmentVoice
