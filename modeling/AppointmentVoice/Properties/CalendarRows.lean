import AppointmentVoice.Properties.PaymentAgreement
import AppointmentVoice.Services.Sequential
import AppointmentVoice.Services.Workers

/-!
# Calendar events, one job at a time

The jobs for one calendar event run one after the other: any sequence of workers that put
it into the provider's calendar or take it out, of sweeps that queue it again, and of
whatever happens elsewhere.  The provider answers each request as it likes, or raises; a
request that it has not answered with a success has changed nothing.  Of an event that it
has made it has to give an identifier that the column of the row takes: an event without
one cannot be named, and one whose identifier is too long is made and never recorded.

The row and the calendar then agree after every job.  The row says `SYNCED` or
`CANCEL_FAILED` exactly while the provider holds an event for it, it names that event, and
a row that is closed stays as it is.

`InAgreement` is the invariant.  `syncCalendarEventInWorker_ends`,
`cancelCalendarEventInWorker_ends` and `reconcileStaleCalendarEvents_ends` say that one job
or one sweep keeps it, and `Turns.carries` that any number of them does.

**Main result**: `calendar_rows_agree`.  `unstorable_identifiers_part_row_and_calendar` runs
the two kinds of answers that it excludes.
-/

set_option autoImplicit false

namespace AppointmentVoice

open Concurrency

/-! ## Rows and the provider's calendar -/

/-- The event needs no worker any more. -/
def CalendarEvent.closed (event : CalendarEvent) : Bool :=
  event.status == .cancelled || event.status == .cancelFailed

/-- The event waits to be put into the provider's calendar. -/
def CalendarEvent.due (event : CalendarEvent) : Bool :=
  event.status == .pending || event.status == .failed

/-- The row says that the provider holds an event for it. -/
def CalendarEvent.held (event : CalendarEvent) : Bool :=
  event.status == .synced || event.status == .cancelFailed

/-- The events that the provider holds for a row. -/
def Outside.liveFor (outside : Outside) (eventId : Nat) : List LiveEvent :=
  outside.live.filter (·.eventId == eventId)

/-- The provider has given the event an identifier that the column takes. -/
def LiveEvent.Named (event : LiveEvent) : Prop :=
  ∃ identifier, event.providerEventId = some identifier ∧ fitsColumn 255 identifier = true

/-- Every event that the provider holds for a row is named. -/
def Outside.NamesFor (outside : Outside) (eventId : Nat) : Prop :=
  ∀ event ∈ outside.liveFor eventId, event.Named

/-- The row of a calendar event. -/
def Db.eventRow (db : Db) (eventId : Nat) : Option CalendarEvent :=
  db.calendarEvents.find? (·.id == eventId)

/-- The calendar holds what the row says, and an event is not taken out more often than
the worker would try. -/
structure CalendarEvent.Agrees (cfg : Settings) (outside : Outside) (event : CalendarEvent) :
    Prop where
  live : outside.liveFor event.id =
    if event.held then [⟨event.id, event.providerEventId⟩] else []
  named : event.held = true → ∃ identifier, event.providerEventId = some identifier
  untried : event.due = true → event.cancelAttempts = 0
  tries : event.status = .synced → event.cancelAttempts < max 1 cfg.workerMaxRetries
  bounded : event.cancelAttempts ≤ max 1 cfg.workerMaxRetries

/-- The session is over, and the row of the event agrees with the calendar. -/
structure InAgreement (cfg : Settings) (eventId : Nat) (solo : Solo) (event : CalendarEvent) :
    Prop where
  ended : solo.writes = []
  found : solo.db.eventRow eventId = some event
  agrees : event.Agrees cfg solo.outside

/-! ## Turns -/

/-- A program has run alone to its end, and its session has been closed. -/
def worked {α : Type} (program : DbM α) (solo : Solo) : Solo :=
  (program.run Solo.exec solo).2.close

/-- Whatever happens elsewhere leaves the row of the event and the provider's events
for it as they are. -/
structure Elsewhere (eventId : Nat) (before after : Solo) : Prop where
  ended : after.writes = []
  rows : after.db.eventRow eventId = before.db.eventRow eventId
  live : after.outside.liveFor eventId = before.outside.liveFor eventId

/-- What may happen next, when no two jobs for the event overlap.  The provider names an event
that a job has made. -/
inductive Turn (cfg : Settings) (eventId : Nat) : Solo → Solo → Prop where
  | sync (solo : Solo)
      (named : (worked (runHandler cfg (.syncCalendarEvent eventId)) solo).outside.NamesFor
        eventId) :
      Turn cfg eventId solo (worked (runHandler cfg (.syncCalendarEvent eventId)) solo)
  | cancel (solo : Solo) :
      Turn cfg eventId solo (worked (runHandler cfg (.cancelCalendarEvent eventId)) solo)
  | reconcile (solo : Solo) :
      Turn cfg eventId solo (worked (reconcileStaleCalendarEvents cfg) solo)
  | elsewhere {before after : Solo} (untouched : Elsewhere eventId before after) :
      Turn cfg eventId before after

/-- Any number of turns. -/
abbrev Turns (cfg : Settings) (eventId : Nat) : Solo → Solo → Prop :=
  Relation.ReflTransGen (Turn cfg eventId)

section Lemmas

variable {cfg : Settings} {eventId : Nat} {solo : Solo} {event : CalendarEvent}

theorem Db.eventRow_id {db : Db} (found : db.eventRow eventId = some event) :
    event.id = eventId := by
  have condition := List.find?_some found
  rwa [beq_iff_eq] at condition

theorem CalendarChange.apply_id (change : CalendarChange) (row : CalendarEvent) :
    (change.apply row).id = row.id := (change.apply_sameEvent row).id

/-- An update of the event changes its row. -/
theorem Db.eventRow_update (db : Db) (eventId : Nat) (change : CalendarChange) :
    (db.apply (.updateCalendarEvent eventId change)).eventRow eventId =
      (db.eventRow eventId).map change.apply := by
  have fresh : ((fun row : CalendarEvent => row.id == eventId) ∘ fun row =>
      if row.id = eventId then change.apply row else row) = fun row => row.id == eventId := by
    funext row
    rw [Function.comp_apply]
    split
    · rw [change.apply_id]
    · rfl
  rw [eventRow, eventRow, Db.apply, List.find?_map, fresh]
  cases found : db.calendarEvents.find? (·.id == eventId) with
  | none => rfl
  | some row => rw [Option.map_some, Option.map_some, if_pos (eventRow_id found)]

theorem InAgreement.close (agreed : InAgreement cfg eventId solo event) :
    InAgreement cfg eventId solo.close event :=
  ⟨rfl, agreed.found, agreed.agrees⟩

theorem InAgreement.view (agreed : InAgreement cfg eventId solo event) : solo.view = solo.db := by
  rw [Solo.view, agreed.ended]
  rfl

/-- The row is found by its key. -/
theorem InAgreement.select (agreed : InAgreement cfg eventId solo event) :
    Query.eval (.calendarEventByPrimaryKey eventId) solo.view = some event := by
  rw [agreed.view]
  exact agreed.found

/-- A committed update of the event, after the provider has answered. -/
theorem InAgreement.updated (agreed : InAgreement cfg eventId solo event) {outside : Outside}
    {change : CalendarChange} (agrees : (change.apply event).Agrees cfg outside) :
    InAgreement cfg eventId
      ({ solo with outside }.amend (.updateCalendarEvent event.id change)).committed.close
      (change.apply event) := by
  refine ⟨rfl, ?_, agrees⟩
  have view : { solo with outside }.view = solo.db := agreed.view
  change ({ solo with outside }.amend (.updateCalendarEvent event.id change)).view.eventRow
    eventId = _
  rw [Solo.amend_view, view, Db.eventRow_id agreed.found, Db.eventRow_update, agreed.found]
  rfl

/-! ## The provider's answers -/

/-- What the provider answers next. -/
def Outside.nextResult (outside : Outside) : Option CalendarResult :=
  outside.calendarProvider outside.calendarCalls

/-- The request has been answered with a success. -/
def succeeds : Option CalendarResult → Bool
  | some result => result.success
  | none => false

/-- The identifier that the provider has given, if it has answered. -/
def identifierOf (result : Option CalendarResult) : Option String :=
  result.bind CalendarResult.providerEventId

theorem Outside.ask_create_fst (outside : Outside) (eventId : Nat)
    (payload : CalendarEventPayload) :
    (outside.ask (.createEvent eventId payload)).1 = outside.nextResult := by
  simp only [Outside.ask]
  rw [nextResult]
  rcases outside.calendarProvider outside.calendarCalls with _ | ⟨_ | _, made, error⟩
  · rfl
  · rfl
  · rfl

theorem Outside.ask_cancel_fst (outside : Outside) (providerEventId : Option String) :
    (outside.ask (.cancelEvent providerEventId)).1 = outside.nextResult := by
  simp only [Outside.ask]
  rw [nextResult]
  rcases outside.calendarProvider outside.calendarCalls with _ | ⟨_ | _, made, error⟩
  · rfl
  · rfl
  · rfl

/-- The event is put into the calendar, or nothing happens. -/
theorem Outside.ask_create_live (outside : Outside) (eventId : Nat)
    (payload : CalendarEventPayload) :
    ((outside.ask (.createEvent eventId payload)).2).liveFor eventId =
      outside.liveFor eventId ++
        if succeeds outside.nextResult then [⟨eventId, identifierOf outside.nextResult⟩]
        else [] := by
  simp only [Outside.ask]
  rw [nextResult]
  rcases outside.calendarProvider outside.calendarCalls with _ | ⟨_ | _, made, error⟩
  · exact (List.append_nil _).symm
  · exact (List.append_nil _).symm
  · simp [liveFor, succeeds, identifierOf, List.filter_append]

/-- The event that is named is taken out, or nothing happens. -/
theorem Outside.ask_cancel_live (outside : Outside) (eventId : Nat)
    (providerEventId : Option String) :
    ((outside.ask (.cancelEvent providerEventId)).2).liveFor eventId =
      if succeeds outside.nextResult then
        (outside.liveFor eventId).filter fun event => event.providerEventId != providerEventId
      else outside.liveFor eventId := by
  simp only [Outside.ask]
  rw [nextResult]
  rcases outside.calendarProvider outside.calendarCalls with _ | ⟨_ | _, made, error⟩
  · rfl
  · rfl
  · simp only [liveFor, succeeds, if_true, List.filter_filter, Bool.and_comm]

/-! ## What one job does -/

/-- The row agrees with the calendar again, and is as it was if it was closed. -/
def Carries (cfg : Settings) (eventId : Nat) (event : CalendarEvent) (after : Solo) : Prop :=
  ∃ later, InAgreement cfg eventId after later ∧
    (event.closed = true → later.status = event.status)

theorem InAgreement.stays (agreed : InAgreement cfg eventId solo event) :
    Carries cfg eventId event solo.close :=
  ⟨event, agreed.close, fun _ => rfl⟩

/-- The provider has changed nothing for the row, and neither has the job. -/
theorem InAgreement.unchanged (agreed : InAgreement cfg eventId solo event) {outside : Outside}
    (live : outside.liveFor event.id = solo.outside.liveFor event.id) :
    Carries cfg eventId event (Solo.close { solo with outside }) :=
  ⟨event, ⟨rfl, agreed.found, { agreed.agrees with live := live.trans agreed.agrees.live }⟩,
    fun _ => rfl⟩

theorem Carries.close (carries : Carries cfg eventId event solo) :
    Carries cfg eventId event solo.close := by
  obtain ⟨later, agreed, kept⟩ := carries
  exact ⟨later, agreed.close, kept⟩

theorem Ends.ask {β : Type} {request : Request} {next : request.Answer → DbM β}
    {post : Except AppError β → Solo → Prop}
    (ends : Ends (next (solo.outside.ask request).1)
      { solo with outside := (solo.outside.ask request).2 } post) :
    Ends (AppointmentVoice.ask request >>= next) solo post := ends

/-- What the handler comes to, however it ends, the worker comes to. -/
theorem Ends.runHandler {job : QueuedJob} {post : Solo → Prop}
    (ends : Ends (handleJob cfg job) solo fun _ after => post after.close) :
    Ends (AppointmentVoice.runHandler cfg job) solo fun _ after => post after := by
  refine Ends.bind (Ends.tryCatch (Ends.bind (ends.mono fun result after met => ?_)))
  cases result with
  | ok value => exact met
  | error error => exact met

/-- The mark that the worker leaves, when the row was not closed. -/
theorem InAgreement.marked (agreed : InAgreement cfg eventId solo event) {outside : Outside}
    {change : CalendarChange} (unclosed : event.closed = false)
    (agrees : (change.apply event).Agrees cfg outside) :
    Carries cfg eventId event
      ({ solo with outside }.amend (.updateCalendarEvent event.id change)).committed.close :=
  ⟨change.apply event, agreed.updated agrees, fun closed => by
    rw [unclosed] at closed
    cases closed⟩

theorem CalendarEvent.unclosed_of_due (due : event.due = true) : event.closed = false := by
  rw [CalendarEvent.due, Bool.or_eq_true, beq_iff_eq, beq_iff_eq] at due
  rcases due with pending | failed
  · rw [CalendarEvent.closed, pending]
    rfl
  · rw [CalendarEvent.closed, failed]
    rfl

theorem CalendarEvent.unheld_of_due (due : event.due = true) : event.held = false := by
  rw [CalendarEvent.due, Bool.or_eq_true, beq_iff_eq, beq_iff_eq] at due
  rcases due with pending | failed
  · rw [CalendarEvent.held, pending]
    rfl
  · rw [CalendarEvent.held, failed]
    rfl

/-- An event that was due is put into the calendar, or stays due, if the provider names it. -/
theorem recordSync_ends (agreed : InAgreement cfg eventId solo event) (due : event.due = true)
    {outside : Outside} {result : CalendarResult}
    (live : outside.liveFor event.id =
      if result.success then [⟨event.id, result.providerEventId⟩] else []) :
    Ends (recordSync cfg event result) { solo with outside } fun _ after =>
      after.close.outside.NamesFor eventId → Carries cfg eventId event after.close := by
  have unclosed := CalendarEvent.unclosed_of_due due
  have unheld := CalendarEvent.unheld_of_due due
  have untried := agreed.agrees.untried due
  have more : 0 < max 1 cfg.workerMaxRetries := Nat.lt_of_lt_of_le Nat.one_pos (Nat.le_max_left ..)
  unfold recordSync
  by_cases success : result.success = true
  · rw [if_pos success] at live ⊢
    -- The event has been made, so the condition speaks of it.
    have made : outside.NamesFor eventId →
        ∃ identifier, result.providerEventId = some identifier ∧
          fitsColumn 255 identifier = true := by
      intro names
      refine names ⟨event.id, result.providerEventId⟩ ?_
      rw [← Db.eventRow_id agreed.found, live]
      exact List.mem_singleton_self _
    refine Ends.now (Ends.orDataError (fun refused names => ?_) fun _ =>
      Ends.update fun names => ?_)
    · obtain ⟨identifier, named, fits⟩ := made names
      rw [CalendarResult.isStorable, if_pos success, named, Option.all_some, fits] at refused
      cases refused
    · obtain ⟨identifier, named, -⟩ := made names
      refine agreed.marked unclosed
        ⟨live, fun _ => ⟨identifier, named⟩, (by rintro ⟨⟩), fun _ => ?_, agreed.agrees.bounded⟩
      change event.cancelAttempts < _
      rwa [untried]
  · rw [if_neg success] at live ⊢
    have nothing : outside.liveFor event.id = solo.outside.liveFor event.id := by
      rw [live, agreed.agrees.live, unheld]
      rfl
    split
    · refine Ends.orDataError (fun _ _ => agreed.unchanged nothing) fun _ => Ends.update fun _ => ?_
      exact agreed.marked unclosed
        ⟨live, (by rintro ⟨⟩), fun _ => untried, (by rintro ⟨⟩), agreed.agrees.bounded⟩
    · refine Ends.orDataError (fun _ _ => agreed.unchanged nothing) fun _ =>
        Ends.update (Ends.commit fun _ => ?_)
      refine agreed.marked unclosed ⟨?_, ?_, fun _ => untried, ?_, agreed.agrees.bounded⟩
      · rw [show (CalendarChange.apply (.retrySync (event.attempts + 1) (lastErrorOf result))
          event).held = event.held from rfl, unheld]
        exact live
      · intro held
        change event.held = true at held
        rw [unheld] at held
        cases held
      · intro synced
        change event.status = .synced at synced
        rw [CalendarEvent.due, synced] at due
        cases due

/-- An event that was there is taken out of the calendar, or is still there. -/
theorem recordCancel_ends (agreed : InAgreement cfg eventId solo event)
    (synced : event.status = .synced) {outside : Outside} {result : CalendarResult}
    (live : outside.liveFor event.id =
      if result.success then [] else [⟨event.id, event.providerEventId⟩]) :
    Ends (recordCancel cfg event result) { solo with outside } fun _ after =>
      Carries cfg eventId event after.close := by
  have unclosed : event.closed = false := by
    rw [CalendarEvent.closed, synced]
    rfl
  have held : event.held = true := by
    rw [CalendarEvent.held, synced]
    rfl
  have named := agreed.agrees.named held
  have tries := agreed.agrees.tries synced
  unfold recordCancel
  by_cases success : result.success = true
  · rw [if_pos success] at live ⊢
    exact Ends.update (agreed.marked unclosed
      ⟨live, (by rintro ⟨⟩), (by rintro ⟨⟩), (by rintro ⟨⟩), tries⟩)
  · rw [if_neg success] at live ⊢
    have still : outside.liveFor event.id = solo.outside.liveFor event.id := by
      rw [live, agreed.agrees.live, if_pos held]
    split
    · refine Ends.orDataError (fun _ => agreed.unchanged still) fun _ => Ends.update ?_
      exact agreed.marked unclosed ⟨live, fun _ => named, (by rintro ⟨⟩), (by rintro ⟨⟩), tries⟩
    · next more =>
        refine Ends.orDataError (fun _ => agreed.unchanged still) fun _ =>
          Ends.update (Ends.commit ?_)
        refine agreed.marked unclosed ⟨?_, fun _ => named, ?_, fun _ => ?_, tries⟩
        · rw [show (CalendarChange.apply (.retryCancel (event.cancelAttempts + 1)
            (lastErrorOf result)) event).held = event.held from rfl, held]
          exact live
        · intro due
          change event.due = true at due
          rw [CalendarEvent.due, synced] at due
          cases due
        · exact Nat.lt_of_lt_of_le (Nat.lt_of_not_le more) (Nat.le_max_right ..)

/-- A row that has to be there, or the job ends. -/
theorem Ends.one {α β : Type} {row : Option α} {next : α → DbM β} {post : Solo → Prop}
    (missing : post solo) (found : ∀ value, Ends (next value) solo fun _ after => post after) :
    Ends (AppointmentVoice.one row >>= next) solo fun _ after => post after :=
  Ends.orRaise (fun _ => missing) fun value _ => found value

theorem Ends.staffOf {β : Type} {booking : Booking} {next : Option Staff → DbM β}
    {post : Solo → Prop} (missing : post solo)
    (found : ∀ staff, Ends (next staff) solo fun _ after => post after) :
    Ends (AppointmentVoice.staffOf booking >>= next) solo fun _ after => post after := by
  unfold AppointmentVoice.staffOf
  cases booking.staffId with
  | none => exact found none
  | some staffId =>
      simp only [bind_assoc]
      exact Ends.select _ (Ends.one missing fun member => found (some member))

theorem Ends.getCalendarIntegration {β : Type} {businessId tenantId : Nat} {staffId : Option Nat}
    {next : Option CalendarIntegration → DbM β} {post : Except AppError β → Solo → Prop}
    (ends : ∀ integration, Ends (next integration) solo post) :
    Ends (AppointmentVoice.getCalendarIntegration businessId tenantId staffId >>= next) solo
      post := by
  unfold AppointmentVoice.getCalendarIntegration
  cases staffId with
  | none => exact Ends.select _ (ends _)
  | some id =>
      refine Ends.bind (Ends.select (.calendarIntegration businessId tenantId (some id)) ?_)
      cases Query.eval (.calendarIntegration businessId tenantId (some id)) solo.view with
      | none => exact ends _
      | some own => exact ends (some own)

/-- **One job that puts the event into the calendar**, under an identifier that the row takes. -/
theorem syncCalendarEventInWorker_ends (agreed : InAgreement cfg eventId solo event) :
    Ends (syncCalendarEventInWorker cfg eventId) solo fun _ after =>
      after.close.outside.NamesFor eventId → Carries cfg eventId event after.close := by
  have stays : solo.close.outside.NamesFor eventId → Carries cfg eventId event solo.close :=
    fun _ => agreed.stays
  refine Ends.select (.calendarEventByPrimaryKey eventId) ?_
  rw [agreed.select]
  dsimp only
  split
  swap
  · exact stays
  next due =>
  have due : event.due = true := by
    rw [CalendarEvent.due, Bool.or_eq_true, beq_iff_eq, beq_iff_eq]
    exact due
  unfold syncEvent
  refine Ends.select _ (Ends.one stays fun booking => ?_)
  split
  · exact stays
  refine Ends.select _ (Ends.one stays fun service => ?_)
  refine Ends.staffOf stays fun staff => ?_
  refine Ends.getCalendarIntegration fun integration => ?_
  refine Ends.ask ?_
  generalize buildEventPayload booking service staff _ = payload
  rw [Outside.ask_create_fst]
  have live := solo.outside.ask_create_live event.id payload
  cases answered : solo.outside.nextResult with
  | none =>
      rw [answered] at live
      exact fun _ => agreed.unchanged (live.trans (List.append_nil _))
  | some result =>
      refine recordSync_ends agreed due (live.trans ?_)
      rw [answered, agreed.agrees.live, CalendarEvent.unheld_of_due due]
      rfl

/-- **One job that takes the event out of the calendar.** -/
theorem cancelCalendarEventInWorker_ends (agreed : InAgreement cfg eventId solo event) :
    Ends (cancelCalendarEventInWorker cfg eventId) solo fun _ after =>
      Carries cfg eventId event after.close := by
  refine Ends.select (.calendarEventByPrimaryKey eventId) ?_
  rw [agreed.select]
  dsimp only
  split
  · exact agreed.stays
  next open_ =>
  unfold withdrawEvent
  refine Ends.select _ (Ends.one agreed.stays fun booking => ?_)
  split
  · exact agreed.stays
  split
  · next due =>
      have due : event.due = true := by
        rw [CalendarEvent.due, Bool.or_eq_true, beq_iff_eq, beq_iff_eq]
        exact due
      have unheld := CalendarEvent.unheld_of_due due
      have live := agreed.agrees.live
      rw [unheld] at live
      have agrees : (CalendarChange.apply .drop event).Agrees cfg solo.outside :=
        ⟨live, (by rintro ⟨⟩), (by rintro ⟨⟩), (by rintro ⟨⟩), agreed.agrees.bounded⟩
      exact Ends.update (agreed.marked (CalendarEvent.unclosed_of_due due) agrees)
  · next later =>
      have synced : event.status = .synced := by
        cases status : event.status with
        | pending => exact absurd (.inl status) later
        | failed => exact absurd (.inr status) later
        | cancelled => exact absurd (.inl status) open_
        | cancelFailed => exact absurd (.inr status) open_
        | synced => rfl
      have held : event.held = true := by
        rw [CalendarEvent.held, synced]
        rfl
      refine Ends.ask ?_
      rw [Outside.ask_cancel_fst]
      have live := solo.outside.ask_cancel_live event.id event.providerEventId
      cases answered : solo.outside.nextResult with
      | none =>
          rw [answered] at live
          exact agreed.unchanged live
      | some result =>
          refine recordCancel_ends agreed synced (live.trans ?_)
          rw [answered, agreed.agrees.live, held]
          cases success : result.success with
          | true => simp [succeeds, success]
          | false => simp [succeeds, success]

/-! ## The sweep -/

/-- The row is as it was, up to the time of the last sweep. -/
def Rested (event later : CalendarEvent) : Prop :=
  ∃ reconciledAt, later = { event with reconciledAt }

theorem Rested.agrees {later : CalendarEvent} (rested : Rested event later)
    {outside other : Outside}
    (agrees : event.Agrees cfg outside) (live : other.live = outside.live) :
    later.Agrees cfg other := by
  obtain ⟨reconciledAt, rfl⟩ := rested
  refine ⟨?_, agrees.named, agrees.untried, agrees.tries, agrees.bounded⟩
  rw [Outside.liveFor, live]
  exact agrees.live

theorem Db.eventRow_update_of_ne (db : Db) {other : Nat} (different : other ≠ eventId)
    (change : CalendarChange) :
    (db.apply (.updateCalendarEvent other change)).eventRow eventId = db.eventRow eventId := by
  rw [eventRow, eventRow, Db.apply, List.find?_map]
  have fresh : ((fun row : CalendarEvent => row.id == eventId) ∘ fun row =>
      if row.id = other then change.apply row else row) = fun row => row.id == eventId := by
    funext row
    rw [Function.comp_apply]
    split
    · rw [change.apply_id]
    · rfl
  rw [fresh]
  cases found : db.calendarEvents.find? (·.id == eventId) with
  | none => rfl
  | some row =>
      rw [Option.map_some, if_neg]
      rw [eventRow_id found]
      exact different.symm

/-- The marks of the sweep leave the row at rest. -/
theorem eventRow_marks (db : Db) (stale : List CalendarEvent) (time : Instant)
    (found : db.eventRow eventId = some event) :
    ∃ later, (db.applyAll (stale.map fun row =>
      .updateCalendarEvent row.id (.requeue time))).eventRow eventId = some later ∧
        Rested event later := by
  induction stale generalizing db event with
  | nil => exact ⟨event, found, event.reconciledAt, rfl⟩
  | cons row stale ih =>
      rw [List.map_cons, Db.applyAll_cons]
      by_cases same : row.id = eventId
      · have marked := db.eventRow_update eventId (.requeue time)
        rw [found, Option.map_some] at marked
        obtain ⟨later, there, reconciledAt, equal⟩ := ih _ marked
        rw [same]
        exact ⟨later, there, reconciledAt, equal⟩
      · exact ih _ ((db.eventRow_update_of_ne same _).trans found)

/-- Nothing has been written, and the calendar is the same. -/
structure Apart (before after : Solo) : Prop where
  db : after.db = before.db
  writes : after.writes = before.writes
  live : after.outside.live = before.outside.live

/-- Jobs are pushed, whether Redis takes them or not. -/
theorem Ends.pushJobs {β : Type} {jobs : List QueuedJob} {next : Unit → DbM β}
    {post : Solo → Prop} (refused : ∀ after, Apart solo after → post after)
    (taken : ∀ after, Apart solo after → Ends (next ()) after fun _ last => post last) :
    Ends (AppointmentVoice.enqueueJobs jobs >>= next) solo fun _ after => post after := by
  induction jobs generalizing solo with
  | nil => exact taken solo ⟨rfl, rfl, rfl⟩
  | cons job jobs ih =>
      rw [AppointmentVoice.enqueueJobs, bind_assoc]
      refine Ends.enqueueJob (fun _ => ?_) fun _ => refused _ ⟨rfl, rfl, rfl⟩
      exact ih (fun after apart => refused after ⟨apart.db, apart.writes, apart.live⟩)
        fun after apart => taken after ⟨apart.db, apart.writes, apart.live⟩

theorem Ends.updateAll {β : Type} {writes : List Write} {next : Unit → DbM β}
    {post : Except AppError β → Solo → Prop}
    (ends : Ends (next ()) { solo with writes := solo.writes ++ writes } post) :
    Ends (AppointmentVoice.updateAll writes >>= next) solo post := by
  induction writes generalizing solo with
  | nil =>
      rw [List.append_nil] at ends
      exact ends
  | cons write writes ih =>
      rw [AppointmentVoice.updateAll, bind_assoc]
      refine Ends.update (ih ?_)
      rw [Solo.amend, List.append_assoc]
      exact ends

/-- **The sweep that queues stale events again.** -/
theorem reconcileStaleCalendarEvents_ends (agreed : InAgreement cfg eventId solo event) :
    Ends (reconcileStaleCalendarEvents cfg) solo fun _ after =>
      Carries cfg eventId event after.close := by
  have stays : ∀ after, Apart solo after → Carries cfg eventId event after.close := by
    intro after apart
    have found := agreed.found
    rw [← apart.db] at found
    have rested : Rested event event := ⟨event.reconciledAt, rfl⟩
    exact ⟨event, ⟨rfl, found, rested.agrees agreed.agrees apart.live⟩, fun _ => rfl⟩
  unfold reconcileStaleCalendarEvents requeue
  refine Ends.now (Ends.select _ (Ends.pushJobs stays fun after apart => ?_))
  split
  · exact stays after apart
  refine Ends.updateAll (Ends.commit ?_)
  have found := agreed.found
  rw [← apart.db] at found
  obtain ⟨later, there, rested⟩ := eventRow_marks after.db _ solo.clock found
  refine ⟨later, ⟨rfl, ?_, rested.agrees agreed.agrees apart.live⟩, fun _ => ?_⟩
  · change (after.db.applyAll (after.writes ++ _)).eventRow eventId = _
    rw [apart.writes, agreed.ended, List.nil_append]
    exact there
  · obtain ⟨reconciledAt, rfl⟩ := rested
    rfl

/-! ## Runs -/

/-- A job has been handled, or something has happened elsewhere. -/
theorem Turn.carries {after : Solo} (turn : Turn cfg eventId solo after)
    (agreed : InAgreement cfg eventId solo event) : Carries cfg eventId event after := by
  cases turn with
  | sync named =>
      have handled : Ends (handleJob cfg (.syncCalendarEvent eventId)) solo fun _ after =>
          after.close.outside.NamesFor eventId → Carries cfg eventId event after.close :=
        syncCalendarEventInWorker_ends agreed
      have ended : Ends (runHandler cfg (.syncCalendarEvent eventId)) solo fun _ after =>
          after.outside.NamesFor eventId → Carries cfg eventId event after := .runHandler handled
      exact Carries.close (ended named)
  | cancel =>
      have handled : Ends (handleJob cfg (.cancelCalendarEvent eventId)) solo fun _ after =>
          Carries cfg eventId event after.close := cancelCalendarEventInWorker_ends agreed
      exact handled.runHandler.close
  | reconcile => exact reconcileStaleCalendarEvents_ends agreed
  | elsewhere untouched =>
      refine ⟨event, ⟨untouched.ended, untouched.rows.trans agreed.found, ?_⟩, fun _ => rfl⟩
      refine { agreed.agrees with live := ?_ }
      rw [Db.eventRow_id agreed.found, untouched.live]
      have live := agreed.agrees.live
      rwa [Db.eventRow_id agreed.found] at live

/-- After any number of turns the row agrees with the calendar, and it is as it was if
it was closed. -/
theorem Turns.carries {after : Solo} (turns : Turns cfg eventId solo after)
    (agreed : InAgreement cfg eventId solo event) : Carries cfg eventId event after := by
  induction turns with
  | refl => exact ⟨event, agreed, fun _ => rfl⟩
  | tail _ last ih =>
      obtain ⟨middle, there, kept⟩ := ih
      obtain ⟨later, agrees, keptToo⟩ := last.carries there
      refine ⟨later, agrees, fun closed => ?_⟩
      have status := kept closed
      refine (keptToo ?_).trans status
      rw [CalendarEvent.closed, status]
      exact closed

end Lemmas

/-- A row as `enqueue_calendar_event` commits it, which the provider knows nothing of. -/
structure NewEvent (eventId : Nat) (solo : Solo) (event : CalendarEvent) : Prop where
  ended : solo.writes = []
  found : solo.db.eventRow eventId = some event
  pending : event.status = .pending
  untried : event.cancelAttempts = 0
  unknown : solo.outside.liveFor eventId = []

theorem NewEvent.agreed {cfg : Settings} {eventId : Nat} {solo : Solo} {event : CalendarEvent}
    (new : NewEvent eventId solo event) : InAgreement cfg eventId solo event := by
  have unheld : event.held = false := by
    rw [CalendarEvent.held, new.pending]
    rfl
  refine ⟨new.ended, new.found, ?_, fun held => ?_, fun _ => new.untried, fun synced => ?_, ?_⟩
  · rw [Db.eventRow_id new.found, new.unknown, unheld]
    rfl
  · rw [unheld] at held
    cases held
  · rw [new.pending] at synced
    cases synced
  · rw [new.untried]
    exact Nat.zero_le _

/-- **Rows and calendar agree.** After any sequence of jobs for a new event, in any order
and however often, the provider holds at most one event for the row, and one exactly when
the row says `SYNCED` or `CANCEL_FAILED`; a synced row names it; `CANCELLED` and
`CANCEL_FAILED` are never left; and `cancel_attempts` is at most the larger of one and
`worker_max_retries`.  The provider may answer anything, or raise, but for an event that it
has made it gives an identifier that the column takes. -/
theorem calendar_rows_agree (cfg : Settings) {eventId : Nat} {start after : Solo}
    {event : CalendarEvent} (new : NewEvent eventId start event)
    (turns : Turns cfg eventId start after) :
    ∃ row, after.db.eventRow eventId = some row ∧
      (after.outside.liveFor eventId).length ≤ 1 ∧
      ((after.outside.liveFor eventId).length = 1 ↔
        row.status = .synced ∨ row.status = .cancelFailed) ∧
      (row.status = .synced → ∃ identifier, row.providerEventId = some identifier ∧
        after.outside.liveFor eventId = [⟨eventId, some identifier⟩]) ∧
      row.cancelAttempts ≤ max 1 cfg.workerMaxRetries ∧
      (row.status = .cancelled ∨ row.status = .cancelFailed →
        ∀ later, Turns cfg eventId after later →
          ∃ last, later.db.eventRow eventId = some last ∧ last.status = row.status) := by
  obtain ⟨row, agreed, -⟩ := turns.carries new.agreed
  have live := agreed.agrees.live
  rw [Db.eventRow_id agreed.found] at live
  refine ⟨row, agreed.found, ?_, ?_, ?_, agreed.agrees.bounded, ?_⟩
  · rw [live]
    split
    · exact Nat.le_refl _
    · exact Nat.zero_le _
  · have held : row.held = true ↔ row.status = .synced ∨ row.status = .cancelFailed := by
      rw [CalendarEvent.held, Bool.or_eq_true, beq_iff_eq, beq_iff_eq]
    rw [live, ← held]
    split
    · next yes => exact iff_of_true rfl yes
    · next no => exact iff_of_false Nat.zero_ne_one no
  · intro synced
    have held : row.held = true := by
      rw [CalendarEvent.held, synced]
      rfl
    obtain ⟨identifier, named⟩ := agreed.agrees.named held
    refine ⟨identifier, named, ?_⟩
    rw [live, if_pos held, named]
  · intro closed later more
    have isClosed : row.closed = true := by
      rw [CalendarEvent.closed, Bool.or_eq_true, beq_iff_eq, beq_iff_eq]
      exact closed
    obtain ⟨last, there, kept⟩ := more.carries agreed
    exact ⟨last, there.found, kept isClosed⟩

/-- The salon with an appointment and its event, before any job for it, and a provider with
its answers. -/
def calendarStart (answers : Nat → Option CalendarResult) : Solo where
  db := { sampleDb with
    bookings := [⟨2, 1, 1, 1, 1, some 1, 0, minutes 30, .confirmed, .api, none, 0⟩]
    calendarEvents :=
      [{ id := 3, tenantId := 1, businessId := 1, bookingId := 2, provider := "null",
         createdAt := 0 }] }
  writes := []
  nextId := 10
  clock := 0
  jobs := []
  pushes := 0
  redisTakes _ := true
  outside := { Outside.start with calendarProvider := answers }

/-- The provider raises, makes the event, and then refuses to take it out. -/
def unwillingProvider : Nat → Option CalendarResult
  | 0 => none
  | 1 => some ⟨true, some "event-1", none⟩
  | _ => some ⟨false, none, some "unavailable"⟩

/-- The event is put into the calendar with the second attempt. -/
def calendarMade : Solo :=
  worked (runHandler sampleSettings (.syncCalendarEvent 3))
    (worked (runHandler sampleSettings (.syncCalendarEvent 3)) (calendarStart unwillingProvider))

/-- One attempt to take the event out fails. -/
def calendarAfter : Solo :=
  worked (runHandler sampleSettings (.cancelCalendarEvent 3)) calendarMade

/-- The row then still says that the provider holds the event, and names it. -/
theorem calendar_rows_agree_after_a_failure :
    ∃ row, calendarAfter.db.eventRow 3 = some row ∧ row.status = .synced ∧
      row.providerEventId = some "event-1" ∧ row.cancelAttempts = 1 ∧
      calendarAfter.outside.liveFor 3 = [⟨3, some "event-1"⟩] := by
  have nothing : (worked (runHandler sampleSettings (.syncCalendarEvent 3))
      (calendarStart unwillingProvider)).outside.liveFor 3 = [] := by decide +kernel
  have made : calendarMade.outside.liveFor 3 = [⟨3, some "event-1"⟩] := by decide +kernel
  have turns : Turns sampleSettings 3 (calendarStart unwillingProvider) calendarAfter := by
    refine ((Relation.ReflTransGen.single (.sync _ fun event member => ?_)).tail
      (.sync _ fun event member => ?_)).tail (.cancel _)
    · rw [nothing] at member
      cases member
    · change event ∈ calendarMade.outside.liveFor 3 at member
      rw [made] at member
      rw [List.mem_singleton.mp member]
      exact ⟨"event-1", rfl, by decide⟩
  obtain ⟨row, found, -, -, named, -⟩ :=
    calendar_rows_agree sampleSettings ⟨rfl, rfl, rfl, rfl, rfl⟩ turns
  have state : (calendarAfter.db.eventRow 3).map (fun row =>
      (row.status, row.providerEventId, row.cancelAttempts)) =
        some (.synced, some "event-1", 1) := by decide +kernel
  rw [found, Option.map_some, Option.some.injEq, Prod.mk.injEq, Prod.mk.injEq] at state
  obtain ⟨identifier, given, live⟩ := named state.1
  obtain rfl := Option.some.inj (given.symm.trans state.2.1)
  exact ⟨row, found, state.1, given, state.2.2, live⟩

/-- The provider makes an event under an identifier. -/
def madeUnder (providerEventId : Option String) (_ : Nat) : Option CalendarResult :=
  some ⟨true, providerEventId, none⟩

/-- An identifier that is longer than the column. -/
def longIdentifier : String := String.ofList (List.replicate 256 'e')

/-- A number of jobs that put the event into the calendar, one after the other. -/
def syncedTimes (providerEventId : Option String) : Nat → Solo
  | 0 => calendarStart (madeUnder providerEventId)
  | times + 1 => worked (runHandler sampleSettings (.syncCalendarEvent 3))
      (syncedTimes providerEventId times)

/-- An event that the provider makes without an identifier leaves a synced row that names
nothing.  One with an identifier that is too long leaves a row that is still `PENDING`, and
the next job makes a second event for it. -/
theorem unstorable_identifiers_part_row_and_calendar :
    (∃ row, (syncedTimes none 1).db.eventRow 3 = some row ∧ row.status = .synced ∧
      row.providerEventId = none) ∧
    (∃ row, (syncedTimes (some longIdentifier) 2).db.eventRow 3 = some row ∧
      row.status = .pending ∧
      ((syncedTimes (some longIdentifier) 2).outside.liveFor 3).length = 2) := by
  have nameless : ((syncedTimes none 1).db.eventRow 3).map (fun row =>
      (row.status, row.providerEventId)) = some (.synced, none) := by decide +kernel
  have twice : ((syncedTimes (some longIdentifier) 2).db.eventRow 3).map (·.status) =
      some .pending := by decide +kernel
  obtain ⟨row, found, state⟩ := Option.map_eq_some_iff.mp nameless
  obtain ⟨other, foundToo, pending⟩ := Option.map_eq_some_iff.mp twice
  rw [Prod.mk.injEq] at state
  exact ⟨⟨row, found, state.1, state.2⟩, other, foundToo, pending, by decide +kernel⟩

end AppointmentVoice
