import AppointmentVoice.Concurrency.Overlay
import AppointmentVoice.Ivr.Sessions
import AppointmentVoice.Services.Clerks

/-!
# Phone calls beside each other

The machine of the telephone line: the requests that begin a call and bring its keys, the
sweep that ends stale calls, and beside them all that the booking service and the workers
do.  Of each request it is shown what it does to the sessions, whatever the answers:
`perform_along`.

A request has the rows of sessions that it has read or added in hand.  It changes no others,
and what it commits of them follows from what it has read.
-/

set_option autoImplicit false

namespace AppointmentVoice

open Concurrency World

/-! ## Requests -/

/-- `twilio_voice_keypress`, up to the document that is sent: `none` is "Session not found". -/
def twilioVoiceKeypress (cfg : IvrSettings) (sessionId : Nat) (digits : String) :
    DbM (Option (VoiceSession × IvrResponse)) := do
  let found : Option VoiceSession ← select (.voiceSessionByPrimaryKey sessionId)
  match found with
  | none => return none
  | some session =>
      MonadExcept.tryCatch
        (do
          let response ← handleKeypress cfg sessionId session.tenantId digits
          return some (session, response))
        fun
          | .notFound _ => return none
          | error => throw error

/-- The requests of the line, and the calls of the other services. -/
inductive LineCall where
  | startSession (businessId tenantId : Nat) (callerPhone : String)
  | handleKeypress (sessionId tenantId : Nat) (key : String)
  | twilioVoiceInbound (business : Business) (callSid caller : String)
  | twilioVoiceKeypress (sessionId : Nat) (digits : String)
  | expireStaleSessions
  | service (call : Call)
  deriving DecidableEq, Repr

/-- What the calls return. -/
inductive LineReply where
  | answered (session : VoiceSession) (response : IvrResponse)
  | response (response : IvrResponse)
  | unknown
  | expired (count : Nat)
  | service (reply : Reply)
  deriving DecidableEq, Repr

/-- The program of a call. -/
def performLine (cfg : IvrSettings) : LineCall → DbM LineReply
  | .startSession businessId tenantId callerPhone =>
      (fun begun => .answered begun.1 begun.2) <$> startSession cfg businessId tenantId callerPhone
  | .handleKeypress sessionId tenantId key =>
      .response <$> handleKeypress cfg sessionId tenantId key
  | .twilioVoiceInbound business callSid caller =>
      (fun begun => .answered begun.1 begun.2) <$> twilioVoiceInbound cfg business callSid caller
  | .twilioVoiceKeypress sessionId digits =>
      (fun found => found.elim .unknown fun answer => .answered answer.1 answer.2) <$>
        twilioVoiceKeypress cfg sessionId digits
  | .expireStaleSessions => .expired <$> expireStaleSessions
  | .service call => .service <$> perform cfg.toSettings call

/-- As the machine of the booking service.  Nobody edits the sessions in the catalogue. -/
def lineMachine (cfg : IvrSettings) : Machine Sql (World LineCall) LineCall AppError LineReply where
  perform := performLine cfg
  exec := execStmt
  enter pid world := world.release pid
  leave pid world := world.release pid
  ambient before after := ∃ db clock outside, before.clock ≤ clock ∧ SameLedger before.db db ∧
    db.voiceSessions = before.db.voiceSessions ∧ before.outside.Drifts outside ∧
    after = { before with db, clock, outside }

/-- The salon with the phone calls that are under way. -/
abbrev LineConfig := Config Sql (World LineCall) LineCall AppError LineReply

/-! ## Sessions in statements -/

/-- The sessions in an answer. -/
def sessionsOf : (query : Query) → query.Row → List VoiceSession
  | .voiceSession _ _, found => (found : Option VoiceSession).toList
  | .voiceSessionByPrimaryKey _, found => (found : Option VoiceSession).toList
  | .voiceSessionByCallSid _, found => (found : Option VoiceSession).toList
  | .staleVoiceSessions _, found => found
  | _, _ => []

/-- The session that a write adds. -/
def Write.newSession : Write → Option VoiceSession
  | .insertVoiceSession row => some row
  | _ => none

/-- The session that a write changes. -/
def Write.changedSession : Write → Option (Nat × SessionChange)
  | .updateVoiceSession id change => some (id, change)
  | _ => none

/-- The write neither adds nor changes a session. -/
structure Write.Spares (write : Write) : Prop where
  new : write.newSession = none
  changed : write.changedSession = none

/-- The statement leaves the sessions alone. -/
def Stmt.SparesSessions : Stmt → Prop
  | .insert draft => ∀ id, (draft id).Spares
  | .update write => write.Spares
  | _ => True

/-- The statement neither touches a session nor ends a transaction. -/
def Stmt.Elsewhere : Stmt → Prop
  | .commit => False
  | .rollback => False
  | stmt => stmt.SparesSessions

/-- The keys of the sessions that a request has read or added. -/
def sessionIds (log : List (Event Sql)) : List Nat :=
  log.flatMap fun
    | ⟨.select query, answer⟩ => (sessionsOf query answer).map (·.id)
    | ⟨.insert draft, .ok id⟩ => ((draft id).newSession.map (·.id)).toList
    | _ => []

/-- A request reads the session of a call only while no other request is in it: the telephone
network brings the keys of a call one after the other, and the sweep runs when no key is being
handled. -/
def OneAtATime (config : LineConfig) (action : Action LineCall) : Prop :=
  ∀ pid call query next log, action = .issue pid →
    config.running pid = some ⟨call, .call (.select query) next, log⟩ →
    ∀ row ∈ sessionsOf query (query.eval (config.world.view pid)), ∀ other process, other ≠ pid →
      config.running other = some process → row.id ∉ sessionIds process.log

theorem Stmt.salon_sparesSessions : Stmt.Salon Stmt.SparesSessions where
  select _ := trivial
  now := trivial
  audit _ _ := ⟨rfl, rfl⟩
  outbox _ _ _ := ⟨rfl, rfl⟩
  push _ _ := trivial
  event _ _ _ := ⟨rfl, rfl⟩
  commit := trivial
  rollback := trivial
  lock _ _ := trivial
  payment _ _ := ⟨rfl, rfl⟩
  enroll _ _ := ⟨rfl, rfl⟩
  waitlist _ := trivial
  staleOffers _ := trivial
  entry _ _ := ⟨rfl, rfl⟩
  book _ _ := ⟨rfl, rfl⟩
  pay _ _ := ⟨rfl, rfl⟩
  confirm _ := ⟨rfl, rfl⟩
  cancel _ _ := ⟨rfl, rfl⟩
  withdraw _ := trivial

theorem Stmt.Clerical.sparesSessions {stmt : Stmt} (clerical : stmt.Clerical) :
    stmt.SparesSessions := by
  cases stmt with
  | insert draft =>
      intro id
      obtain ⟨message, written, -, -⟩ := clerical.2 id
      rw [written]
      exact ⟨rfl, rfl⟩
  | update write =>
      obtain ⟨clerical, -⟩ := clerical
      cases clerical <;> exact ⟨rfl, rfl⟩
  | _ => exact trivial

/-- The services leave the sessions alone. -/
theorem perform_sparesSessions (cfg : Settings) (call : Call) :
    (perform cfg call).Only Stmt.SparesSessions := by
  cases call with
  | work task =>
      exact Issues.map _ ((Clerical.work cfg task).imp fun _ clerical => clerical.sparesSessions)
  | _ => exact Issues.perform Stmt.salon_sparesSessions cfg (fun _ same => by cases same)

/-! ## The rows in hand -/

/-- The sessions that a request has in hand. -/
abbrev Desk := Overlay VoiceSession

/-- What a statement makes of the rows in hand.  A request reads sessions only when it has
none. -/
def deskAfter (desk : Desk) : Event Sql → Desk
  | ⟨.select query, answer⟩ =>
      if desk.isEmpty then .ofRows (sessionsOf query answer) else desk
  | ⟨.insert draft, .ok id⟩ =>
      match (draft id).newSession with
      | some row => desk.draft row
      | none => desk
  | ⟨.update write, _⟩ =>
      match write.changedSession with
      | some (id, change) => desk.change VoiceSession.id id change.apply
      | none => desk
  | ⟨.commit, _⟩ => desk.saved
  | ⟨.rollback, _⟩ => desk.dropped
  | _ => desk

/-- A row may be committed. -/
structure Committable (maxSlots : Nat) (copy : Copy VoiceSession) : Prop where
  sound : copy.now.Sound maxSlots
  follows : ∀ old, copy.committed = some old → old.Follows copy.now

/-- The answer is that of tables whose sessions are sound and are those in hand. -/
structure Truthful (maxSlots : Nat) (desk : Desk) (query : Query) (answer : query.Row) (db : Db) :
    Prop where
  answers : answer = query.eval db
  unique : (db.voiceSessions.map (·.id)).Nodup
  held : ∀ copy ∈ desk, copy.now ∈ db.voiceSessions
  sound : desk.isEmpty = true → ∀ row ∈ db.voiceSessions, row.Sound maxSlots

/-- A request changes sessions that it has in hand, and commits what follows. -/
def lineMonitor (maxSlots : Nat) : Monitor Sql Desk where
  may
    | desk, ⟨.select query, answer⟩ => ∃ db, Truthful maxSlots desk query answer db
    | _, _ => True
  must
    | _, .insert draft => ∀ id, (draft id).changedSession = none ∧
        ∀ row, (draft id).newSession = some row → row.id = id
    | desk, .update write => write.newSession = none ∧
        ∀ id change, write.changedSession = some (id, change) → id ∈ desk.keys VoiceSession.id
    | desk, .commit => ∀ copy ∈ desk, Committable maxSlots copy
    | _, _ => True
  learn := deskAfter

/-- The other services have no sessions in hand. -/
def bystander : Monitor Sql Desk where
  may _ _ := True
  must _ stmt := stmt.SparesSessions
  learn desk _ := desk

/-- A phone call begins with no session on its desk; the other calls leave sessions alone. -/
def lineWatch (cfg : IvrSettings) : Watch Sql LineCall AppError LineReply Desk where
  monitor
    | .service _ => bystander
    | _ => lineMonitor cfg.ivrMaxSlots
  initial _ := []
  post _ _ _ := True

end AppointmentVoice
