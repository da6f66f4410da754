import AppointmentVoice.Ivr.Menus

/-!
# The phone menu

One key of a phone call, step by step: each step has a handler that reads the salon's
rows, changes the session of the call, and answers with the next prompt.

A change to the session is written where the handler makes it and stays uncommitted until
the next commit, its own or one of the booking service.  The rest of the handler works on
the changed row.
-/

set_option autoImplicit false

namespace AppointmentVoice

open Concurrency

/-! ## The session of a call -/

/-- Attributes of the session are set. -/
def setSession (session : VoiceSession) (change : SessionChange) : DbM VoiceSession := do
  update (.updateVoiceSession session.id change)
  return change.apply session

/-- `_TERMINAL_STEPS` of `handle_keypress`. -/
def terminalSteps : List IvrStep :=
  [.bookingConfirmed, .noSlots, .expired, .abandoned, .externalLinkSent, .bookingCancelled]

/-- `_NO_INPUT_MAX`. -/
def noInputMax : Nat := 3

/-- `_INVALID_KEY_MAX`. -/
def invalidKeyMax : Nat := 5

/-- `_REPEAT_KEYS`. -/
def repeatKeys : List String := ["*"]

/-- The session is ended, and the caller is told why. -/
def endSession (session : VoiceSession) (step : IvrStep) (prompt : PromptKey)
    (named : Bool := false) (args : PromptArgs := {}) : DbM IvrResponse := do
  let session ← setSession session { step := some step }
  commit
  return endResponse prompt session named args

/-- `_handle_invalid_key`. -/
def handleInvalidKey (session : VoiceSession) (reprompt : IvrResponse) : DbM IvrResponse := do
  let session ← setSession session { invalidKeyCount := some (session.invalidKeyCount + 1) }
  if invalidKeyMax ≤ session.invalidKeyCount then
    endSession session .expired .tooManyInvalidKeys
  else do
    commit
    return reprompt

/-! ## Repeating a prompt -/

/-- `_manage_booking_response`. -/
def manageBookingResponse (session : VoiceSession) (booking : Booking) : DbM IvrResponse := do
  let service ← requireServiceInBusiness booking.serviceId session.businessId session.tenantId
  let locale := sessionLocale session
  return {
    prompt := resolvePrompt .manageBookingFound locale
      { serviceName := service.name, when := formatSlot booking.startsAt booking.endsAt }
    options := [⟨"1", resolvePrompt .labelCancelAppointment locale⟩,
      ⟨"2", resolvePrompt .labelRescheduleAppointment locale⟩,
      ⟨"3", resolvePrompt .labelMainMenu locale⟩]
    sessionId := some session.id }

/-- The main menu of the session's salon. -/
def mainMenu (session : VoiceSession) : DbM IvrResponse := do
  let business ← requireBusiness session.businessId session.tenantId
  return mainMenuResponse session.id business.bookingMode (sessionLocale session)

/-- The question for the staff member once more. -/
def staffMenu (session : VoiceSession) (serviceName : String) : DbM IvrResponse := do
  let staffMembers ← schedulableStaff session.businessId session.tenantId
  let reordered ← reorderPreferredStaff session staffMembers
  return staffSelectionResponse session reordered.1 serviceName reordered.2

/-- The filed slots once more; without any, there is nothing to choose. -/
def slotMenu (prompt : PromptKey) (session : VoiceSession) : IvrResponse :=
  match session.slotCandidates.getD [] with
  | [] => endResponse .noSlots session true
  | candidates => slotResponse prompt session candidates

/-- `require_service_in_business` and `require_booking_in_business` for a key that may be
missing: no row has a missing key. -/
def requireSelected {α : Type} (error : AppError) (key : Option Nat) (require : Nat → DbM α) :
    DbM α :=
  match key with
  | some id => require id
  | none => throw error

/-- The service that the session has chosen. -/
def requireSelectedService (session : VoiceSession) : DbM Service :=
  requireSelected (.notFound "Service not found") session.selectedServiceId fun id =>
    requireServiceInBusiness id session.businessId session.tenantId

/-- The booking that the session manages. -/
def requireManagedBooking (session : VoiceSession) : DbM Booking :=
  requireSelected (.notFound "Booking not found") session.managedBookingId fun id =>
    requireBookingInBusiness id session.businessId session.tenantId

/-- `_reprompt_for_no_input`. -/
def repromptForNoInput (session : VoiceSession) : DbM IvrResponse :=
  match session.step with
  | .incoming => mainMenu session
  | .serviceSelection => do
      let services : List Service ← listServices session.businessId session.tenantId
      return serviceResponse .selectService session services
  | .staffSelection => do
      let service ← requireSelectedService session
      staffMenu session service.name
  | .slotSelection => return slotMenu .selectSlot session
  | .transferUnavailable => return singleOptionResponse .press1MainMenu .labelMainMenu session
  | .manageBooking => do
      let booking ← requireManagedBooking session
      manageBookingResponse session booking
  | .rescheduleSlotSelection => return slotMenu .selectNewTime session
  | _ => return {
      prompt := resolvePrompt .pleaseMakeASelection (sessionLocale session)
      sessionId := some session.id }

/-- `_handle_no_input`. -/
def handleNoInput (session : VoiceSession) : DbM IvrResponse := do
  let session ← setSession session { noInputCount := some (session.noInputCount + 1) }
  if noInputMax ≤ session.noInputCount then
    endSession session .expired .tooManyNoInput
  else do
    commit
    let reprompt ← repromptForNoInput session
    return { reprompt with
      prompt := resolvePrompt .noInputPrefix (sessionLocale session) ++ reprompt.prompt }

/-! ## The main menu -/

/-- `_handle_press1_internal`. -/
def handlePress1Internal (session : VoiceSession) : DbM IvrResponse := do
  let services : List Service ← listServices session.businessId session.tenantId
  if services.isEmpty then endSession session .noSlots .noServices
  else do
    let session ← setSession session { step := some .serviceSelection }
    commit
    return serviceResponse .selectService session services

/-- `_resolve_transfer_destination`. -/
def resolveTransferDestination (business : Business) (tenantId : Nat) : DbM (Option String) :=
  match business.transferDestinationPolicy with
  | .businessPhone =>
      return business.transferPhoneNumber.filter fun phone => !phone.toList.all isSpace
  | .staff => do
      let eligible : List Staff ← select (.eligibleTransferStaff business.id tenantId)
      return eligible.head?.bind (·.phone)
  | .unknown _ => return none

/-- `_handle_transfer_request`. -/
def handleTransferRequest (session : VoiceSession) : DbM IvrResponse := do
  let business ← requireBusiness session.businessId session.tenantId
  let refuse (prompt : PromptKey) : DbM IvrResponse := do
    let session ← setSession session { step := some .transferUnavailable }
    commit
    return singleOptionResponse prompt .labelBookAppointment session
  if !business.transferEnabled then refuse .transferDisabled
  else do
    let destination ← resolveTransferDestination business session.tenantId
    match destination with
    | none => refuse .transferNoStaff
    | some phone => do
        let session ← setSession session
          { step := some .abandoned, transferDestination := some (some phone) }
        commit
        return {
          prompt := resolvePrompt .transferring (sessionLocale session)
          action := .transfers
          sessionId := some session.id
          transferDestination := some phone }

/-- The booking that the caller can manage. -/
def nextBookingOfCaller (session : VoiceSession) : DbM (Option Booking) := do
  let customer : Option Customer ←
    getCustomerByPhone session.businessId session.tenantId session.callerPhone
  match customer with
  | none => return none
  | some customer => do
      let time ← now
      select (.nextConfirmedBooking session.businessId session.tenantId customer.id time)

/-- `_handle_manage_booking_request`. -/
def handleManageBookingRequest (session : VoiceSession) : DbM IvrResponse := do
  let booking : Option Booking ← nextBookingOfCaller session
  match booking with
  | none => do
      let reprompt ← mainMenu session
      return { reprompt with
        prompt := resolvePrompt .noUpcomingBookingPrefix (sessionLocale session) ++
          reprompt.prompt }
  | some booking => do
      let session ← setSession session
        { managedBookingId := some (some booking.id), step := some .manageBooking }
      commit
      manageBookingResponse session booking

/-- `_handle_incoming`. -/
def handleIncoming (session : VoiceSession) (key : String) : DbM IvrResponse :=
  if key = "1" then do
    let startedAt ← now
    let business ← requireBusiness session.businessId session.tenantId
    match business.bookingMode with
    | .externalBookingLink => handlePress1External session business startedAt
    | .internalBooking => handlePress1Internal session
  else if key = "2" then handleTransferRequest session
  else if key = "3" then handleManageBookingRequest session
  else do
    let menu ← mainMenu session
    handleInvalidKey session menu

/-- Back to the main menu. -/
def returnToMainMenu (session : VoiceSession) : DbM IvrResponse := do
  let business ← requireBusiness session.businessId session.tenantId
  let session ← setSession session { step := some .incoming }
  commit
  return mainMenuResponse session.id business.bookingMode (sessionLocale session)

/-- `_handle_transfer_unavailable`. -/
def handleTransferUnavailable (session : VoiceSession) (key : String) : DbM IvrResponse :=
  if key = "1" then returnToMainMenu session
  else handleInvalidKey session (singleOptionResponse .press1MainMenu .labelMainMenu session)

/-! ## Booking -/

/-- The search has found slots, which are filed with the session. -/
def offerSlots (session : VoiceSession) (slots : List (Instant × Instant)) (step : IvrStep)
    (prompt : PromptKey) (serviceName : String := "") : DbM IvrResponse := do
  let session ← setSession session { slotCandidates := some (some slots), step := some step }
  commit
  return slotResponse prompt session slots serviceName

/-- `_proceed_to_slot_search`. -/
def proceedToSlotSearch (cfg : IvrSettings) (session : VoiceSession) (selectedService : Service) :
    DbM IvrResponse := do
  let slots ← findSlots cfg session selectedService.id session.selectedStaffId
  if slots.isEmpty then
    endSession session .noSlots .noSlotsForService false { serviceName := selectedService.name }
  else offerSlots session slots .slotSelection .availableSlotsForService selectedService.name

/-- `_handle_service_selection`. -/
def handleServiceSelection (cfg : IvrSettings) (session : VoiceSession) (key : String) :
    DbM IvrResponse := do
  let services : List Service ← listServices session.businessId session.tenantId
  if services.isEmpty then endSession session .noSlots .noServices
  else match chosen key (keyedServices services) with
    | none => handleInvalidKey session (serviceResponse .invalidSelectService session services)
    | some selectedService => do
        let session ← setSession session { selectedServiceId := some (some selectedService.id) }
        let staffMembers : List Staff ← schedulableStaff session.businessId session.tenantId
        if staffMembers.length ≤ 1 then do
          let session ← setSession session
            { selectedStaffId := some (staffMembers.head?.map (·.id)) }
          proceedToSlotSearch cfg session selectedService
        else do
          let reordered ← reorderPreferredStaff session staffMembers
          let session ← setSession session { step := some .staffSelection }
          commit
          return staffSelectionResponse session reordered.1 selectedService.name reordered.2

/-- The member of staff that a key of the menu stands for: none of them for key 0. -/
def chosenStaff (key : String) (staffMembers : List Staff) : Option (Option Nat) :=
  if key = "0" then some none
  else (chosen key (keyedStaff staffMembers)).map fun member => some member.id

/-- `_handle_staff_selection`. -/
def handleStaffSelection (cfg : IvrSettings) (session : VoiceSession) (key : String) :
    DbM IvrResponse := do
  let service ← requireSelectedService session
  let staffMembers ← schedulableStaff session.businessId session.tenantId
  let reordered ← reorderPreferredStaff session staffMembers
  match chosenStaff key reordered.1 with
  | none =>
      handleInvalidKey session
        (staffSelectionResponse session reordered.1 service.name reordered.2)
  | some staffId => do
      let session ← setSession session { selectedStaffId := some staffId }
      proceedToSlotSearch cfg session service

/-- The slot has been booked. -/
def confirmSlot (session : VoiceSession) (booking : Booking) (slot : Instant × Instant)
    (prompt : PromptKey) : DbM IvrResponse := do
  let session ← setSession session
    { bookingId := some (some booking.id), selectedSlotStart := some (some slot.1)
      selectedSlotEnd := some (some slot.2), step := some .bookingConfirmed }
  commit
  return endResponse prompt session true { when := formatSlot slot.1 slot.2 }

/-- The slot that a key picks from the filed ones, and what to do with it. -/
def selectSlot (session : VoiceSession) (key : String) (invalid : PromptKey)
    (book : Instant × Instant → DbM IvrResponse) : DbM IvrResponse :=
  match session.slotCandidates with
  | none => endSession session .noSlots .noSlots
  | some candidates =>
      match chosen key candidates with
      | none => handleInvalidKey session (slotResponse invalid session candidates)
      | some slot => book slot

/-- `_handle_slot_selection`. -/
def handleSlotSelection (cfg : IvrSettings) (session : VoiceSession) (key : String) :
    DbM IvrResponse :=
  selectSlot session key .invalidSelectSlot fun slot => do
    let customer ← getOrCreateCustomer session.tenantId session.businessId session.callerPhone
    let booking ← requireSelected (.notFound "Service not found") session.selectedServiceId
      fun serviceId => createBooking cfg.toSettings
        { tenantId := session.tenantId, businessId := session.businessId
          customerId := customer.id, serviceId, staffId := session.selectedStaffId
          startsAt := slot.1, source := .ivr }
    confirmSlot session booking slot .bookingConfirmed

/-! ## Managing a booking -/

/-- Key 1 of `_handle_manage_booking`. -/
def cancelManaged (cfg : IvrSettings) (session : VoiceSession) (booking : Booking) :
    DbM IvrResponse := do
  let _ ← cancelBooking cfg.toSettings
    { bookingId := booking.id, businessId := session.businessId, tenantId := session.tenantId
      reason := some "customer_ivr_cancel" }
  endSession session .bookingCancelled .bookingCancelled true

/-- Key 2 of `_handle_manage_booking`: the search is given no staff member. -/
def offerNewTimes (cfg : IvrSettings) (session : VoiceSession) (booking : Booking) :
    DbM IvrResponse := do
  let slots ← findSlots cfg session booking.serviceId
  if slots.isEmpty then endSession session .noSlots .noSlotsToReschedule
  else offerSlots session slots .rescheduleSlotSelection .selectNewTime

/-- `_handle_manage_booking`. -/
def handleManageBooking (cfg : IvrSettings) (session : VoiceSession) (key : String) :
    DbM IvrResponse := do
  let booking ← requireManagedBooking session
  if key = "1" then cancelManaged cfg session booking
  else if key = "2" then offerNewTimes cfg session booking
  else if key = "3" then returnToMainMenu session
  else do
    let menu ← manageBookingResponse session booking
    handleInvalidKey session menu

/-- `_handle_reschedule_slot_selection`. -/
def handleRescheduleSlotSelection (cfg : IvrSettings) (session : VoiceSession) (key : String) :
    DbM IvrResponse :=
  selectSlot session key .invalidSelectNewTime fun slot => do
    let newBooking ← requireSelected (.notFound "Booking not found") session.managedBookingId
      fun bookingId => rescheduleBooking cfg.toSettings
        { bookingId, businessId := session.businessId, tenantId := session.tenantId
          newStartsAt := slot.1, reason := some "customer_rescheduled_via_ivr", source := .ivr }
    confirmSlot session newBooking slot .bookingRescheduled

/-! ## A key -/

/-- The handler of the session's step. -/
def handleStep (cfg : IvrSettings) (session : VoiceSession) (key : String) : DbM IvrResponse :=
  match session.step with
  | .incoming => handleIncoming session key
  | .serviceSelection => handleServiceSelection cfg session key
  | .staffSelection => handleStaffSelection cfg session key
  | .slotSelection => handleSlotSelection cfg session key
  | .transferUnavailable => handleTransferUnavailable session key
  | .manageBooking => handleManageBooking cfg session key
  | .rescheduleSlotSelection => handleRescheduleSlotSelection cfg session key
  | _ => return endResponse .unexpectedState session

/-- A key that has been pressed. -/
def handlePressedKey (cfg : IvrSettings) (session : VoiceSession) (key : String) :
    DbM IvrResponse := do
  let session ← (if session.noInputCount ≠ 0 then setSession session { noInputCount := some 0 }
    else pure session : DbM VoiceSession)
  if key ∈ repeatKeys then do
    commit
    repromptForNoInput session
  else handleStep cfg session key

/-- A call that is still going on. -/
def handleLiveKey (cfg : IvrSettings) (session : VoiceSession) (key : String) : DbM IvrResponse :=
  if key = "" then handleNoInput session else handlePressedKey cfg session key

/-- A call whose time is up. -/
def handleExpired (session : VoiceSession) : DbM IvrResponse :=
  if session.step ∈ terminalSteps then return endResponse .sessionExpired session
  else endSession session .expired .sessionExpired

/-- `handle_keypress`, for the session that has been found. -/
def handleFoundKeypress (cfg : IvrSettings) (session : VoiceSession) (key : String) :
    DbM IvrResponse := do
  let time ← now
  if session.expiresAt ≤ time then handleExpired session
  else if session.step ∈ terminalSteps then return endResponse .sessionAlreadyComplete session
  else handleLiveKey cfg session key

/-- `handle_keypress`. -/
def handleKeypress (cfg : IvrSettings) (sessionId tenantId : Nat) (key : String) :
    DbM IvrResponse := do
  let session ← orRaise (.notFound "Voice session not found")
    (← select (.voiceSession sessionId tenantId))
  handleFoundKeypress cfg session key

/-! ## Beginning a call -/

/-- The most characters that `voice_sessions.caller_phone` takes. -/
def callerPhoneLimit : Nat := 32

/-- `start_session`. -/
def startSession (cfg : IvrSettings) (businessId tenantId : Nat) (callerPhone : String) :
    DbM (VoiceSession × IvrResponse) := do
  let business ← requireBusiness businessId tenantId
  let time ← now
  if callerPhoneLimit < callerPhone.length then throw .data
  let draft (id : Nat) : VoiceSession :=
    { id, tenantId, businessId, callerPhone, step := .incoming, locale := business.language
      selectedServiceId := none, selectedStaffId := none, selectedSlotStart := none
      selectedSlotEnd := none, bookingId := none, managedBookingId := none, slotCandidates := none
      noInputCount := 0, invalidKeyCount := 0, callSid := none, transferDestination := none
      expiresAt := time + minutes cfg.ivrSessionTtlMinutes }
  let sessionId ← insert fun id => .insertVoiceSession (draft id)
  commit
  let session ← orRaise .refresh (← select (.voiceSessionByPrimaryKey sessionId))
  let greetingName ← lookupReturningCallerName businessId tenantId callerPhone
  return (session,
    mainMenuResponse session.id business.bookingMode (sessionLocale session) greetingName)

/-- The caller of a call without a number. -/
def unknownCaller : String := "unknown"

/-- `caller or "unknown"`. -/
def callerOf (caller : String) : String := if caller.isEmpty then unknownCaller else caller

/-- `twilio_voice_inbound`, for the salon that the called number belongs to. -/
def twilioVoiceInbound (cfg : IvrSettings) (business : Business) (callSid caller : String) :
    DbM (VoiceSession × IvrResponse) := do
  let existing : Option VoiceSession ← select (.voiceSessionByCallSid callSid)
  match existing with
  | some existing => do
      let response ← handleKeypress cfg existing.id existing.tenantId ""
      return (existing, response)
  | none => do
      let (session, response) ← startSession cfg business.id business.tenantId (callerOf caller)
      let session ← setSession session { callSid := some (some callSid) }
      commit
      return (session, response)

/-! ## The sweep -/

/-- The loop of `expire_stale_sessions`. -/
def expireSessions : List VoiceSession → DbM Unit
  | [] => pure ()
  | session :: rest => do
      let _ ← setSession session { step := some .expired }
      expireSessions rest

/-- `expire_stale_sessions`. -/
def expireStaleSessions : DbM Nat := do
  let time ← now
  let rows : List VoiceSession ← select (.staleVoiceSessions time)
  expireSessions rows
  if rows.isEmpty then return 0
  commit
  return rows.length

end AppointmentVoice
