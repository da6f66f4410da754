import AppointmentVoice.Services.ExternalLink

/-!
# The texts of the phone menu

The templates of the phone menu in its two languages, and how a prompt is made of one.
A template is kept as the pieces into which `str.format` divides it.
-/

set_option autoImplicit false

namespace AppointmentVoice

/-! ## Templates -/

/-- The keys of the texts that the menu speaks. -/
inductive PromptKey where
  | sessionExpired
  | sessionAlreadyComplete
  | unexpectedState
  | tooManyInvalidKeys
  | tooManyNoInput
  | noInputPrefix
  | noSlots
  | noServices
  | pleaseMakeASelection
  | mainMenuInternal
  | mainMenuExternal
  | greetingPrefix
  | selectService
  | invalidSelectService
  | noSlotsForService
  | availableSlotsForService
  | selectSlot
  | invalidSelectSlot
  | bookingConfirmed
  | staffSelectionPrompt
  | externalLinkSent
  | transferDisabled
  | transferNoStaff
  | transferring
  | press1MainMenu
  | noUpcomingBookingPrefix
  | manageBookingFound
  | bookingCancelled
  | noSlotsToReschedule
  | selectNewTime
  | invalidSelectNewTime
  | bookingRescheduled
  | optionItem
  | staffOptionPreferred
  | staffOptionAny
  | labelMainMenu
  | labelBookAppointment
  | labelBookingLinkSms
  | labelSpeakWithStaff
  | labelManageBooking
  | labelCancelAppointment
  | labelRescheduleAppointment
  | labelAnyAvailableStaff
  deriving DecidableEq, Repr

/-- What a template leaves open. -/
inductive PromptField where
  | name
  | options
  | serviceName
  | when
  | key
  | label
  deriving DecidableEq, Repr

/-- A piece of a prompt: a text, or a field to be filled in. -/
inductive PromptPart where
  | text (text : String)
  | field (field : PromptField)
  deriving DecidableEq, Repr

/-- A prompt with its fields. -/
abbrev PromptTemplate := List PromptPart

/-- The keyword arguments of `resolve_prompt`. -/
structure PromptArgs where
  name : String := ""
  options : String := ""
  serviceName : String := ""
  when : String := ""
  key : String := ""
  label : String := ""

/-- The value of a field. -/
def PromptArgs.get (args : PromptArgs) : PromptField → String
  | .name => args.name
  | .options => args.options
  | .serviceName => args.serviceName
  | .when => args.when
  | .key => args.key
  | .label => args.label

/-- A piece with its field filled in. -/
def PromptPart.format (args : PromptArgs) : PromptPart → String
  | .text piece => piece
  | .field wanted => args.get wanted

/-- `template.format(**kwargs)`. -/
def PromptTemplate.format (template : PromptTemplate) (args : PromptArgs) : String :=
  String.join (template.map (PromptPart.format args))

/-! ## The tables -/

/-- `_PROMPTS["en"]`. -/
def promptsEn : PromptKey → PromptTemplate
  | .sessionExpired =>
      [.text "Your session has expired. Please call again to book an appointment."]
  | .sessionAlreadyComplete => [.text "This session is already complete. Please call again."]
  | .unexpectedState => [.text "Unexpected session state."]
  | .tooManyInvalidKeys =>
      [.text "Too many invalid inputs. Your session has ended. ",
        .text "Please call again to book an appointment."]
  | .tooManyNoInput =>
      [.text "We didn't receive any input. Your session has ended. ",
        .text "Please call again to book an appointment."]
  | .noInputPrefix => [.text "We didn't hear a response. "]
  | .noSlots => [.text "No slots are available. Please call back later."]
  | .noServices =>
      [.text "Sorry, no services are currently available. Please call back later."]
  | .pleaseMakeASelection => [.text "Please make a selection."]
  | .mainMenuInternal =>
      [.text "Welcome! Press 1 to book an appointment, press 2 to speak with a staff member, ",
        .text "or press 3 to manage an existing appointment."]
  | .mainMenuExternal =>
      [.text "Welcome! Press 1 to receive a booking link by SMS, ",
        .text "press 2 to speak with a staff member, ",
        .text "or press 3 to manage an existing appointment."]
  | .greetingPrefix => [.text "Welcome back, ", .field .name, .text "! "]
  | .selectService => [.text "Please select a service: ", .field .options, .text "."]
  | .invalidSelectService =>
      [.text "Invalid choice. Please select a service: ", .field .options, .text "."]
  | .noSlotsForService =>
      [.text "Sorry, there are no available slots for ", .field .serviceName,
        .text " in the next week. Please call back later."]
  | .availableSlotsForService =>
      [.text "Available slots for ", .field .serviceName, .text ": ", .field .options,
        .text ". Press your choice."]
  | .selectSlot => [.text "Please select a slot: ", .field .options, .text "."]
  | .invalidSelectSlot =>
      [.text "Invalid choice. Please select a slot: ", .field .options, .text "."]
  | .bookingConfirmed =>
      [.text "Your appointment has been booked for ", .field .when,
        .text ". You will receive an SMS confirmation. Thank you, goodbye!"]
  | .staffSelectionPrompt =>
      [.text "Who would you like to book your ", .field .serviceName, .text " with? ",
        .field .options, .text "."]
  | .externalLinkSent =>
      [.text "We have sent you an SMS with a link to book your appointment online. Thank you, goodbye!"]
  | .transferDisabled =>
      [.text "Transfer to staff is not available for this business. ",
        .text "Press 1 to book an appointment."]
  | .transferNoStaff =>
      [.text "Sorry, no staff members are available to take your call right now. ",
        .text "Press 1 to book an appointment."]
  | .transferring => [.text "Transferring you to a staff member. Please hold."]
  | .press1MainMenu => [.text "Press 1 to go back to the main menu."]
  | .noUpcomingBookingPrefix =>
      [.text "We couldn't find an upcoming appointment for this number. "]
  | .manageBookingFound =>
      [.text "We found your ", .field .serviceName, .text " appointment for ", .field .when,
        .text ". Press 1 to cancel it, press 2 to reschedule it, ",
        .text "or press 3 to go back to the main menu."]
  | .bookingCancelled => [.text "Your appointment has been cancelled. Thank you, goodbye!"]
  | .noSlotsToReschedule =>
      [.text "Sorry, there are no available slots to reschedule into right now. ",
        .text "Please call back later."]
  | .selectNewTime => [.text "Please select a new time: ", .field .options, .text "."]
  | .invalidSelectNewTime =>
      [.text "Invalid choice. Please select a new time: ", .field .options, .text "."]
  | .bookingRescheduled =>
      [.text "Your appointment has been rescheduled to ", .field .when,
        .text ". You will receive an SMS confirmation. Thank you, goodbye!"]
  | .optionItem => [.text "press ", .field .key, .text " for ", .field .label]
  | .staffOptionPreferred =>
      [.text "press ", .field .key, .text " for ", .field .label, .text ", who you saw last time"]
  | .staffOptionAny => [.text "press 0 for any available staff member"]
  | .labelMainMenu => [.text "Main menu"]
  | .labelBookAppointment => [.text "Book an appointment"]
  | .labelBookingLinkSms => [.text "Receive a booking link by SMS"]
  | .labelSpeakWithStaff => [.text "Speak with staff"]
  | .labelManageBooking => [.text "Manage an existing appointment"]
  | .labelCancelAppointment => [.text "Cancel appointment"]
  | .labelRescheduleAppointment => [.text "Reschedule appointment"]
  | .labelAnyAvailableStaff => [.text "Any available staff member"]

/-- `_PROMPTS["pl"]`. -/
def promptsPl : PromptKey → PromptTemplate
  | .sessionExpired =>
      [.text "Twoja sesja wygasła. Zadzwoń ponownie, aby zarezerwować wizytę."]
  | .sessionAlreadyComplete => [.text "Ta sesja została już zakończona. Zadzwoń ponownie."]
  | .unexpectedState => [.text "Nieoczekiwany stan sesji."]
  | .tooManyInvalidKeys =>
      [.text "Za dużo nieprawidłowych wyborów. Sesja została zakończona. ",
        .text "Zadzwoń ponownie, aby zarezerwować wizytę."]
  | .tooManyNoInput =>
      [.text "Nie otrzymaliśmy żadnej odpowiedzi. Sesja została zakończona. ",
        .text "Zadzwoń ponownie, aby zarezerwować wizytę."]
  | .noInputPrefix => [.text "Nie usłyszeliśmy odpowiedzi. "]
  | .noSlots => [.text "Nie ma dostępnych terminów. Zadzwoń ponownie później."]
  | .noServices =>
      [.text "Przepraszamy, obecnie nie ma dostępnych usług. Zadzwoń ponownie później."]
  | .pleaseMakeASelection => [.text "Proszę wybrać jedną z opcji."]
  | .mainMenuInternal =>
      [.text "Witamy! Naciśnij 1, aby zarezerwować wizytę, ",
        .text "naciśnij 2, aby połączyć się z pracownikiem, ",
        .text "lub naciśnij 3, aby zarządzać istniejącą wizytą."]
  | .mainMenuExternal =>
      [.text "Witamy! Naciśnij 1, aby otrzymać link do rezerwacji SMS-em, ",
        .text "naciśnij 2, aby połączyć się z pracownikiem, ",
        .text "lub naciśnij 3, aby zarządzać istniejącą wizytą."]
  | .greetingPrefix => [.text "Witamy ponownie, ", .field .name, .text "! "]
  | .selectService => [.text "Proszę wybrać usługę: ", .field .options, .text "."]
  | .invalidSelectService =>
      [.text "Nieprawidłowy wybór. Proszę wybrać usługę: ", .field .options, .text "."]
  | .noSlotsForService =>
      [.text "Przepraszamy, nie ma dostępnych terminów dla usługi ", .field .serviceName,
        .text " w najbliższym tygodniu. Zadzwoń ponownie później."]
  | .availableSlotsForService =>
      [.text "Dostępne terminy dla usługi ", .field .serviceName, .text ": ", .field .options,
        .text ". Naciśnij wybraną opcję."]
  | .selectSlot => [.text "Proszę wybrać termin: ", .field .options, .text "."]
  | .invalidSelectSlot =>
      [.text "Nieprawidłowy wybór. Proszę wybrać termin: ", .field .options, .text "."]
  | .bookingConfirmed =>
      [.text "Twoja wizyta została zarezerwowana na ", .field .when,
        .text ". Otrzymasz potwierdzenie SMS-em. Dziękujemy, do usłyszenia!"]
  | .staffSelectionPrompt =>
      [.text "Z kim chcesz zarezerwować usługę ", .field .serviceName, .text "? ",
        .field .options, .text "."]
  | .externalLinkSent =>
      [.text "Wysłaliśmy Ci SMS z linkiem do rezerwacji wizyty online. Dziękujemy, do usłyszenia!"]
  | .transferDisabled =>
      [.text "Połączenie z pracownikiem nie jest dostępne dla tej firmy. ",
        .text "Naciśnij 1, aby zarezerwować wizytę."]
  | .transferNoStaff =>
      [.text "Przepraszamy, żaden pracownik nie jest obecnie dostępny, aby odebrać połączenie. ",
        .text "Naciśnij 1, aby zarezerwować wizytę."]
  | .transferring => [.text "Łączymy Cię z pracownikiem. Proszę czekać."]
  | .press1MainMenu => [.text "Naciśnij 1, aby wrócić do menu głównego."]
  | .noUpcomingBookingPrefix =>
      [.text "Nie znaleźliśmy nadchodzącej wizyty dla tego numeru. "]
  | .manageBookingFound =>
      [.text "Znaleźliśmy Twoją wizytę na usługę ", .field .serviceName, .text " w terminie ",
        .field .when,
        .text ". Naciśnij 1, aby ją odwołać, naciśnij 2, aby zmienić termin, ",
        .text "lub naciśnij 3, aby wrócić do menu głównego."]
  | .bookingCancelled =>
      [.text "Twoja wizyta została odwołana. Dziękujemy, do usłyszenia!"]
  | .noSlotsToReschedule =>
      [.text "Przepraszamy, obecnie nie ma dostępnych terminów do zmiany. ",
        .text "Zadzwoń ponownie później."]
  | .selectNewTime => [.text "Proszę wybrać nowy termin: ", .field .options, .text "."]
  | .invalidSelectNewTime =>
      [.text "Nieprawidłowy wybór. Proszę wybrać nowy termin: ", .field .options, .text "."]
  | .bookingRescheduled =>
      [.text "Twoja wizyta została przełożona na ", .field .when,
        .text ". Otrzymasz potwierdzenie SMS-em. Dziękujemy, do usłyszenia!"]
  | .optionItem => [.text "naciśnij ", .field .key, .text " dla ", .field .label]
  | .staffOptionPreferred =>
      [.text "naciśnij ", .field .key, .text " dla ", .field .label,
        .text " — Twojego ostatniego wyboru"]
  | .staffOptionAny => [.text "naciśnij 0, aby wybrać dowolnego dostępnego pracownika"]
  | .labelMainMenu => [.text "Menu główne"]
  | .labelBookAppointment => [.text "Zarezerwuj wizytę"]
  | .labelBookingLinkSms => [.text "Otrzymaj link do rezerwacji SMS-em"]
  | .labelSpeakWithStaff => [.text "Połącz z pracownikiem"]
  | .labelManageBooking => [.text "Zarządzaj istniejącą wizytą"]
  | .labelCancelAppointment => [.text "Odwołaj wizytę"]
  | .labelRescheduleAppointment => [.text "Zmień termin wizyty"]
  | .labelAnyAvailableStaff => [.text "Dowolny dostępny pracownik"]

/-! ## Prompts -/

/-- `_PROMPTS.get(locale, _PROMPTS[IVR_DEFAULT_LOCALE])`.  Both tables have a text for
every key, so the second fallback is never taken. -/
def localeTable (locale : String) : PromptKey → PromptTemplate :=
  if locale = "pl" then promptsPl else promptsEn

/-- `resolve_prompt`: the prompt of the locale, or the English one. -/
def resolvePrompt (promptKey : PromptKey) (locale : String) (args : PromptArgs := {}) : String :=
  (localeTable locale promptKey).format args

/-- `format_option_list`: the options, with commas between them. -/
def formatOptionList (options : List IvrOption) (locale : String) : String :=
  String.intercalate ", " (options.map fun option =>
    resolvePrompt .optionItem locale { key := option.key, label := option.label })

end AppointmentVoice
