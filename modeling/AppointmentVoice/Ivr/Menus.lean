import AppointmentVoice.Customers.Services
import AppointmentVoice.Ivr.Prompts
import AppointmentVoice.Services.Availability

/-!
# The menus of a phone call

What the steps of a phone call share: reading the key as a number, the caller and the
salon's lists that a menu is built of, the search for slots, and the answers that read a
menu out.
-/

set_option autoImplicit false

namespace AppointmentVoice

open Concurrency

/-- The settings of the phone menu.  `date.today()` is the date in the zone of the
server. -/
structure IvrSettings extends Settings where
  serverZone : Zone

/-! ## Reading a key -/

/-- The value of a decimal digit of any script. -/
def decimalValue (char : Char) : Option Nat :=
  (Customers.decimalZeros.find? fun first =>
    first ≤ char.toNat && char.toNat < first + 10).map fun first => char.toNat - first

/-- What may follow a digit: digits, which single underscores may part. -/
def digitsAfter : List Char → Option (List Nat)
  | [] => some []
  | '_' :: char :: rest => do return (← decimalValue char) :: (← digitsAfter rest)
  | char :: rest => do return (← decimalValue char) :: (← digitsAfter rest)

/-- The digits of a numeral. -/
def digitsOf : List Char → Option (List Nat)
  | [] => none
  | char :: rest => do return (← decimalValue char) :: (← digitsAfter rest)

/-- The most digits that `int` reads. -/
def maxIntDigits : Nat := 4300

/-- The number of a text of digits, if it is not too long. -/
def unsignedInt (text : List Char) : Option Int := do
  let digits ← digitsOf text
  if maxIntDigits < digits.length then none
  else some (digits.foldl (fun number digit => number * 10 + digit) 0 : Nat)

/-- The text without the spaces at its two ends. -/
def trim (space : Char → Bool) (text : List Char) : List Char :=
  ((text.dropWhile space).reverse.dropWhile space).reverse

/-- `str.strip()`. -/
def strip (text : List Char) : List Char := trim isSpace text

/-- The spaces that `int` skips.  The separators from U+001C to U+001F are spaces for
`str.strip()` only. -/
def isIntSpace (char : Char) : Bool :=
  isSpace char && !(28 ≤ char.toNat && char.toNat ≤ 31)

/-- `int(text)`; `none` is a `ValueError`. -/
def pyInt (text : String) : Option Int :=
  match trim isIntSpace text.toList with
  | '+' :: rest => unsignedInt rest
  | '-' :: rest => (-·) <$> unsignedInt rest
  | rest => unsignedInt rest

/-- `idx = int(key) - 1` with its check; `none` is a `ValueError`. -/
def chosenIndex (key : String) (count : Nat) : Option Nat := do
  let number ← pyInt key
  let index := number - 1
  if index < 0 ∨ count ≤ index then none else some index.toNat

/-- What the key picks from a list. -/
def chosen {α : Type} (key : String) (items : List α) : Option α := do
  items[← chosenIndex key items.length]?

/-! ## The caller -/

/-- `get_customer_by_phone`: the customer of the business under the normalized number. -/
def getCustomerByPhone (businessId tenantId : Nat) (phone : String) : DbM (Option Customer) :=
  select (.customerByPhone businessId tenantId (Customers.normalizePhone phone))

/-- `db.refresh(customer)`. -/
def refreshCustomer (customerId tenantId : Nat) : DbM Customer := do
  orRaise .refresh (← select (.customer customerId tenantId))

/-- `db.commit()` with a new customer, and its `except IntegrityError` clause. -/
def commitCustomer (draft : Nat → Customer) : DbM (Option Nat) :=
  MonadExcept.tryCatch
    (do
      let id ← insert fun id => .insertCustomer (draft id)
      commit
      return some id)
    fun
      | .integrity _ => do
          rollback
          return none
      | error => throw error

/-- `get_or_create_customer`. -/
def getOrCreateCustomer (tenantId businessId : Nat) (phone : String)
    (name : Option String := none) : DbM Customer := do
  let _ ← requireBusiness businessId tenantId
  let existing : Option Customer ← getCustomerByPhone businessId tenantId phone
  match existing with
  | some customer => return customer
  | none => do
      let created ← commitCustomer fun id =>
        ⟨id, tenantId, businessId, phone, Customers.normalizePhone phone, name⟩
      match created with
      | some id => refreshCustomer id tenantId
      | none => do
          orRaise (.conflict "Customer with this phone already exists")
            (← getCustomerByPhone businessId tenantId phone)

/-- `_lookup_returning_caller_name`. -/
def lookupReturningCallerName (businessId tenantId : Nat) (callerPhone : String) :
    DbM (Option String) := do
  let customer : Option Customer ← getCustomerByPhone businessId tenantId callerPhone
  match customer with
  | none => return none
  | some customer => do
      let client : Option Client ← select (.clientByCustomer businessId tenantId customer.id)
      match client with
      | some client => return if client.name.isEmpty then customer.name else some client.name
      | none => return customer.name

/-! ## Lists of the salon -/

/-- `list_services`. -/
def listServices (businessId tenantId : Nat) : DbM (List Service) :=
  select (.services businessId tenantId)

/-- `list_staff`. -/
def listStaff (businessId tenantId : Nat) : DbM (List Staff) :=
  select (.staff businessId tenantId)

/-- `_schedulable_staff`. -/
def schedulableStaff (businessId tenantId : Nat) : DbM (List Staff) := do
  let staffMembers : List Staff ← listStaff businessId tenantId
  let businessHours : Option WorkingHours ← select (.anyWorkingHours businessId tenantId none)
  if businessHours.isSome then return staffMembers
  let scheduledIds : List Nat ← select (.scheduledStaffIds businessId tenantId)
  return staffMembers.filter fun member => scheduledIds.contains member.id

/-- `_last_used_staff_id`. -/
def lastUsedStaffId (session : VoiceSession) : DbM (Option Nat) := do
  let customer : Option Customer ←
    getCustomerByPhone session.businessId session.tenantId session.callerPhone
  match customer with
  | none => return none
  | some customer => do
      let lastBooking : Option Booking ←
        select (.lastStaffBooking session.businessId session.tenantId customer.id)
      return lastBooking.bind (·.staffId)

/-- The list with the preferred member in front, and whether there is one. -/
def preferredFirst (staffMembers : List Staff) (preferredId : Option Nat) :
    List Staff × Option Nat :=
  match preferredId with
  | none => (staffMembers, none)
  | some id =>
      let preferred := staffMembers.filter fun member => member.id == id
      if preferred.isEmpty then (staffMembers, none)
      else (preferred ++ staffMembers.filter fun member => member.id != id, some id)

/-- `_reorder_preferred_staff`. -/
def reorderPreferredStaff (session : VoiceSession) (staffMembers : List Staff) :
    DbM (List Staff × Option Nat) := do
  let preferredId ← lastUsedStaffId session
  return preferredFirst staffMembers preferredId

/-! ## Slots -/

/-- `date.today()`. -/
def today (cfg : IvrSettings) : DbM Date := do
  let time ← now
  return (cfg.serverZone.fromUtc time).fdiv dayLength

/-- The loop of `_find_slots` over the days that are left. -/
def collectSlots (daySlots : Date → DbM (List (Instant × Instant))) (maxSlots : Nat) :
    Nat → Date → List (Instant × Instant) → DbM (List (Instant × Instant))
  | 0, _, collected => return collected
  | days + 1, day, collected => do
      let found ← daySlots day
      if maxSlots ≤ (collected ++ found).length then return collected ++ found
      else collectSlots daySlots maxSlots days (day + 1) (collected ++ found)

/-- `_find_slots`. -/
def findSlots (cfg : IvrSettings) (session : VoiceSession) (serviceId : Nat)
    (staffId : Option Nat := none) : DbM (List (Instant × Instant)) := do
  let today ← today cfg
  let collected ← collectSlots (fun day => do
      let _ ← orOverflow (day * dayLength)
      getAvailableSlots cfg.toSettings session.tenantId session.businessId serviceId staffId day)
    cfg.ivrMaxSlots cfg.ivrSlotSearchDays today []
  return collected.take cfg.ivrMaxSlots

/-- `strftime("%A")`. -/
def weekdayName (date : Date) : String :=
  ["Monday", "Tuesday", "Wednesday", "Thursday", "Friday", "Saturday", "Sunday"].getD
    (weekday date).toNat ""

/-- `strftime("%B")`. -/
def monthName (month : Int) : String :=
  ["January", "February", "March", "April", "May", "June", "July", "August", "September",
    "October", "November", "December"].getD (month - 1).toNat ""

/-- `strftime("%-I:%M %p")`. -/
def clockText (instant : Instant) : String :=
  let seconds := (instant.fmod dayLength) / 1000000
  let hour := seconds / 3600
  toString (if hour % 12 = 0 then 12 else hour % 12) ++ ":" ++ twoDigits (seconds / 60 % 60) ++
    (if hour < 12 then " AM" else " PM")

/-- `_format_slot`. -/
def formatSlot (startsAt endsAt : Instant) : String :=
  let (_, month, day) := Formats.civil (dateOf startsAt)
  weekdayName (dateOf startsAt) ++ " " ++ monthName month ++ " " ++ toString day ++ " at " ++
    clockText startsAt ++ " to " ++ clockText endsAt ++ " UTC"

/-! ## Options -/

/-- `enumerate` with the keys from 1. -/
def numbered (labels : List String) : List IvrOption :=
  labels.zipIdx.map fun entry => ⟨toString (entry.2 + 1), entry.1⟩

/-- The services that have a key. -/
def keyedServices (services : List Service) : List Service := services.take 9

/-- The members of staff that have a key. -/
def keyedStaff (staffMembers : List Staff) : List Staff := staffMembers.take 9

/-- The options for the services. -/
def serviceOptions (services : List Service) : List IvrOption :=
  numbered ((keyedServices services).map (·.name))

/-- The options for the slots. -/
def slotOptions (slots : List (Instant × Instant)) : List IvrOption :=
  numbered (slots.map fun slot => formatSlot slot.1 slot.2)

/-! ## Answers -/

/-- `_main_menu_response`. -/
def mainMenuResponse (sessionId : Nat) (bookingMode : BookingMode) (locale : String)
    (greetingName : Option String := none) : IvrResponse :=
  let (press1Label, menu) := match bookingMode with
    | .externalBookingLink =>
        (resolvePrompt .labelBookingLinkSms locale, resolvePrompt .mainMenuExternal locale)
    | .internalBooking =>
        (resolvePrompt .labelBookAppointment locale, resolvePrompt .mainMenuInternal locale)
  let greeting := match greetingName with
    | some name => if name.isEmpty then "" else resolvePrompt .greetingPrefix locale { name }
    | none => ""
  { prompt := greeting ++ menu
    options := [⟨"1", press1Label⟩, ⟨"2", resolvePrompt .labelSpeakWithStaff locale⟩,
      ⟨"3", resolvePrompt .labelManageBooking locale⟩]
    sessionId := some sessionId }

/-- The question for a service, under the prompt that goes with it. -/
def serviceResponse (prompt : PromptKey) (session : VoiceSession) (services : List Service) :
    IvrResponse :=
  let locale := sessionLocale session
  { prompt := resolvePrompt prompt locale
      { options := formatOptionList (serviceOptions services) locale }
    options := serviceOptions services
    sessionId := some session.id }

/-- The question for a slot, under the prompt that goes with it. -/
def slotResponse (prompt : PromptKey) (session : VoiceSession) (slots : List (Instant × Instant))
    (serviceName : String := "") : IvrResponse :=
  let locale := sessionLocale session
  { prompt := resolvePrompt prompt locale
      { serviceName, options := formatOptionList (slotOptions slots) locale }
    options := slotOptions slots
    sessionId := some session.id }

/-- `_staff_selection_response`. -/
def staffSelectionResponse (session : VoiceSession) (staffMembers : List Staff)
    (serviceName : String) (preferredStaffId : Option Nat) : IvrResponse :=
  let locale := sessionLocale session
  let options := numbered ((keyedStaff staffMembers).map (·.name))
  let parts := (options.zip (keyedStaff staffMembers)).map fun entry =>
    resolvePrompt (if preferredStaffId = some entry.2.id then .staffOptionPreferred
      else .optionItem)
      locale { key := entry.1.key, label := entry.1.label }
  { prompt := resolvePrompt .staffSelectionPrompt locale
      { serviceName
        options := String.intercalate ", " (parts ++ [resolvePrompt .staffOptionAny locale]) }
    options := options ++ [⟨"0", resolvePrompt .labelAnyAvailableStaff locale⟩]
    sessionId := some session.id }

/-- The question at a step from which only key 1 leads on. -/
def singleOptionResponse (prompt label : PromptKey) (session : VoiceSession) : IvrResponse :=
  let locale := sessionLocale session
  { prompt := resolvePrompt prompt locale
    options := [⟨"1", resolvePrompt label locale⟩]
    sessionId := some session.id }

/-- An answer after which the call is over.  Some of them name the session. -/
def endResponse (prompt : PromptKey) (session : VoiceSession) (named : Bool := false)
    (args : PromptArgs := {}) : IvrResponse :=
  { prompt := resolvePrompt prompt (sessionLocale session) args
    action := .ends
    sessionId := if named then some session.id else none }

end AppointmentVoice
