import AppointmentVoice.Accounts.Users

/-!
# Salons and their phone lines

The three ways in which an admin sets up or changes a salon, as programs that can be
interleaved, and the look-up of the salon that an inbound call is for.

`createBusiness` and the onboarding insert a salon, `updateBusiness` changes one; nothing
compares the phone with those of other salons. The look-up takes any active salon with the
number, since its query has no order (`GetBusinessByInboundPhone`).
-/

set_option autoImplicit false

namespace AppointmentVoice.Accounts

open Concurrency

/-! ## The forms -/

/-- The body of `create_business`. -/
structure BusinessCreate where
  name : String
  timezone : String
  language : String := "en"
  phone : Option String := none
  ownerNotificationPhone : Option String := none
  transferPhoneNumber : Option String := none
  transferEnabled : Bool := false
  transferDestinationPolicy : String := "business_phone"
  bookingMode : String := "internal_booking"
  externalBookingUrl : Option String := none
  externalBookingLabel : Option String := none
  externalBookingProvider : Option String := none
  subscriptionPlan : String := "full_booking"
  deriving DecidableEq, Repr

/-- A field that is missing or null is left as it is. -/
structure BusinessUpdate where
  name : Option String := none
  timezone : Option String := none
  language : Option String := none
  phone : Option String := none
  ownerNotificationPhone : Option String := none
  transferPhoneNumber : Option String := none
  isActive : Option Bool := none
  transferEnabled : Option Bool := none
  transferDestinationPolicy : Option String := none
  bookingMode : Option String := none
  externalBookingUrl : Option String := none
  externalBookingLabel : Option String := none
  externalBookingProvider : Option String := none
  subscriptionPlan : Option String := none
  deriving DecidableEq, Repr

/-- A member of staff of the onboarding. -/
structure OnboardingStaffItem where
  name : String
  phone : Option String := none
  deriving DecidableEq, Repr

/-- A service of the onboarding. -/
structure OnboardingServiceItem where
  name : String
  durationMinutes : Nat
  durationPositive : 0 < durationMinutes
  currency : Option String := none
  deriving Repr

instance : DecidableEq OnboardingServiceItem := fun first second =>
  decidable_of_iff (first.name = second.name ∧ first.durationMinutes = second.durationMinutes ∧
    first.currency = second.currency) (by cases first; cases second; simp)

/-- Working hours of the onboarding. -/
structure OnboardingWorkingHoursItem where
  dayOfWeek : Int
  startTime : TimeOfDay
  endTime : TimeOfDay
  deriving DecidableEq, Repr

/-- The salon of the onboarding. -/
structure OnboardingBusinessSpec where
  name : String
  timezone : String
  phone : Option String := none
  bookingMode : String := "internal_booking"
  externalBookingUrl : Option String := none
  externalBookingLabel : Option String := none
  externalBookingProvider : Option String := none
  subscriptionPlan : String := "full_booking"
  deriving DecidableEq, Repr

/-- The body of the onboarding. -/
structure OnboardingSetupRequest where
  business : OnboardingBusinessSpec
  staff : List OnboardingStaffItem := []
  services : List OnboardingServiceItem := []
  workingHours : List OnboardingWorkingHoursItem := []
  deriving DecidableEq, Repr

/-! ## Creating and changing a salon -/

/-- `db.refresh(business)`. -/
def refreshSalon (id : Nat) : AccountM Salon := do
  orRaise .database (← select (.salonByPrimaryKey id))

/-- The row that is inserted for a body. -/
def BusinessCreate.salon (body : BusinessCreate) (tenantId id : Nat) : Salon where
  id := id
  tenantId := tenantId
  name := body.name
  timezone := body.timezone
  language := body.language
  phone := body.phone
  ownerNotificationPhone := body.ownerNotificationPhone
  transferPhoneNumber := body.transferPhoneNumber
  isActive := true
  transferEnabled := body.transferEnabled
  transferDestinationPolicy := body.transferDestinationPolicy
  bookingMode := body.bookingMode
  externalBookingUrl := body.externalBookingUrl
  externalBookingLabel := body.externalBookingLabel
  externalBookingProvider := body.externalBookingProvider
  subscriptionPlan := body.subscriptionPlan

/-- `create_business`. -/
def createBusiness (tenantId : Nat) (body : BusinessCreate) : AccountM Salon := do
  let id ← add fun id => .insertSalon (body.salon tenantId id)
  commit
  refreshSalon id

/-- `require_business`. -/
def requireBusiness (businessId tenantId : Nat) : AccountM Salon := do
  orRaise (.notFound "Business not found") (← select (.salon businessId tenantId))

/-- The flush of a salon, with no statement when no column has changed. -/
def flushSalon (id : Nat) (change : SalonChange) : AccountM Unit :=
  if change = {} then pure () else flush (.updateSalon id change)

/-- The columns that `update_business` changes. -/
def BusinessUpdate.changes (body : BusinessUpdate) (business : Salon) : SalonChange where
  name := changed business.name body.name
  timezone := changed business.timezone body.timezone
  language := changed business.language body.language
  phone := changed business.phone (body.phone.map some)
  ownerNotificationPhone :=
    (changed business.ownerNotificationPhone (body.ownerNotificationPhone.map some)).join
  transferPhoneNumber :=
    (changed business.transferPhoneNumber (body.transferPhoneNumber.map some)).join
  isActive := changed business.isActive body.isActive
  transferEnabled := changed business.transferEnabled body.transferEnabled
  transferDestinationPolicy :=
    changed business.transferDestinationPolicy body.transferDestinationPolicy
  bookingMode := changed business.bookingMode body.bookingMode
  externalBookingUrl := changed business.externalBookingUrl (body.externalBookingUrl.map some)
  externalBookingLabel := changed business.externalBookingLabel (body.externalBookingLabel.map some)
  externalBookingProvider :=
    changed business.externalBookingProvider (body.externalBookingProvider.map some)
  subscriptionPlan := changed business.subscriptionPlan body.subscriptionPlan

/-- `update_business`. -/
def updateBusiness (businessId tenantId : Nat) (body : BusinessUpdate) : AccountM Salon := do
  let business ← requireBusiness businessId tenantId
  flushSalon business.id (body.changes business)
  commit
  refreshSalon business.id

/-! ## Onboarding -/

/-- `_get_reusable_signup_business`. -/
def getReusableSignupBusiness (tenantId : Nat) : AccountM (Option Salon) := do
  let selfSignupAudit ← select (.selfSignupAudit tenantId)
  if selfSignupAudit then
    match ← select (.salons tenantId) with
    | [business] => do
        let hasStaff ← select (.staffOf business.id)
        let hasServices ← select (.servicesOf business.id)
        let hasWorkingHours ← select (.workingHoursOf business.id)
        return if hasStaff || hasServices || hasWorkingHours then none else some business
    | _ => return none
  else return none

namespace OnboardingBusinessSpec

/-- The row of a salon that is new. -/
def salon (spec : OnboardingBusinessSpec) (tenantId id : Nat) : Salon where
  id := id
  tenantId := tenantId
  name := spec.name
  timezone := spec.timezone
  phone := spec.phone
  isActive := true
  bookingMode := spec.bookingMode
  externalBookingUrl := spec.externalBookingUrl
  externalBookingLabel := spec.externalBookingLabel
  externalBookingProvider := spec.externalBookingProvider
  subscriptionPlan := spec.subscriptionPlan

/-- The columns of the reused salon that change. -/
def changes (spec : OnboardingBusinessSpec) (business : Salon) : SalonChange where
  name := changed business.name (some spec.name)
  timezone := changed business.timezone (some spec.timezone)
  phone := changed business.phone (some spec.phone)
  isActive := changed business.isActive (some true)
  bookingMode := changed business.bookingMode (some spec.bookingMode)
  externalBookingUrl := changed business.externalBookingUrl (some spec.externalBookingUrl)
  externalBookingLabel := changed business.externalBookingLabel (some spec.externalBookingLabel)
  externalBookingProvider :=
    changed business.externalBookingProvider (some spec.externalBookingProvider)
  subscriptionPlan := changed business.subscriptionPlan (some spec.subscriptionPlan)

end OnboardingBusinessSpec

/-- Flushes of new rows. -/
def addEach : List (Nat → AccountWrite) → AccountM Unit
  | [] => pure ()
  | draft :: drafts => do
      let _ ← add draft
      addEach drafts

/-- The rows that hang on the salon. -/
def OnboardingSetupRequest.dependents (request : OnboardingSetupRequest)
    (tenantId businessId : Nat) :
    List (Nat → AccountWrite) :=
  request.staff.map (fun item id => .insertStaff {
      id, tenantId, businessId
      name := item.name
      phone := item.phone
      isActive := true }) ++
    request.services.map (fun item id => .insertService {
      id, tenantId, businessId
      name := item.name
      durationMinutes := item.durationMinutes
      durationPositive := item.durationPositive
      isActive := true
      currency := item.currency
      depositRequired := false
      depositMinorUnits := none }) ++
    request.workingHours.map fun item _ => .insertWorkingHours {
      tenantId, businessId
      staffId := none
      dayOfWeek := item.dayOfWeek
      startTime := item.startTime
      endTime := item.endTime }

/-- What the onboarding returns. -/
structure OnboardingSetupResponse where
  businessId : Nat
  businessName : String
  staffCount : Nat
  serviceCount : Nat
  workingHoursCount : Nat
  deriving DecidableEq, Repr

/-- The salon of the onboarding: the one of the signup, if it is still empty, or a new
one. -/
def placeSalon (tenantId : Nat) (spec : OnboardingBusinessSpec) : AccountM Nat := do
  match ← getReusableSignupBusiness tenantId with
  | some business => do
      flushSalon business.id (spec.changes business)
      return business.id
  | none => add fun id => .insertSalon (spec.salon tenantId id)

/-- `setup_business_onboarding`: the salon with its staff, services and hours, in one commit. -/
def setupBusinessOnboarding (tenantId : Nat) (request : OnboardingSetupRequest) :
    AccountM OnboardingSetupResponse := do
  let id ← placeSalon tenantId request.business
  addEach (request.dependents tenantId id)
  commit
  let business ← refreshSalon id
  return {
    businessId := business.id
    businessName := business.name
    staffCount := request.staff.length
    serviceCount := request.services.length
    workingHoursCount := request.workingHours.length }

/-! ## The machine -/

/-- The requests of the admins of the tenants. -/
inductive SalonCall where
  | createBusiness (tenantId : Nat) (body : BusinessCreate)
  | updateBusiness (businessId tenantId : Nat) (body : BusinessUpdate)
  | setupBusinessOnboarding (tenantId : Nat) (request : OnboardingSetupRequest)
  deriving DecidableEq, Repr

/-- The tenant whose admin makes the request. -/
def SalonCall.tenantId : SalonCall → Nat
  | .createBusiness tenantId _ => tenantId
  | .updateBusiness _ tenantId _ => tenantId
  | .setupBusinessOnboarding tenantId _ => tenantId

/-- What the calls return. -/
inductive SalonReply where
  | business (row : Salon)
  | onboarding (response : OnboardingSetupResponse)
  deriving DecidableEq, Repr

/-- The program of a call. -/
def performSalon : SalonCall → AccountM SalonReply
  | .createBusiness tenantId body => .business <$> createBusiness tenantId body
  | .updateBusiness businessId tenantId body =>
      .business <$> updateBusiness businessId tenantId body
  | .setupBusinessOnboarding tenantId request =>
      .onboarding <$> setupBusinessOnboarding tenantId request

/-- The requests of the admins, interleaved over one database. -/
def salonMachine : Machine AccountSql (AccountWorld SalonCall) SalonCall AccountError
    SalonReply where
  perform := performSalon
  exec := execAccount
  enter pid world := world.release pid
  leave pid world := world.release pid
  ambient before after := ∃ clock, before.clock ≤ clock ∧ after = { before with clock }

/-- The salons with the calls that are under way. -/
abbrev SalonConfig := Config AccountSql (AccountWorld SalonCall) SalonCall AccountError SalonReply

/-! ## Inbound calls -/

/-- The salons that the query of `get_business_by_inbound_phone` matches. -/
def AccountDb.inbound (db : AccountDb) (phone : String) : List Salon :=
  db.salons.filter fun row => row.phone == some phone && row.isActive

/-- `get_business_by_inbound_phone`: the query has no order, so the first row may be any
one. -/
def GetBusinessByInboundPhone (db : AccountDb) (phone : String) : Option Salon → Prop
  | some business => phone.isEmpty = false ∧ business ∈ db.inbound phone
  | none => phone.isEmpty = true ∨ db.inbound phone = []

/-- The tenant and the salon with which `twilio_voice_inbound` starts a session for a call
to a number. -/
inductive StartsSession (db : AccountDb) (called : String) : Nat → Nat → Prop where
  | answered {business : Salon} (found : GetBusinessByInboundPhone db called (some business)) :
      StartsSession db called business.tenantId business.id

end AppointmentVoice.Accounts
