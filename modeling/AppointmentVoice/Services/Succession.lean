import AppointmentVoice.Database.Effects
import AppointmentVoice.Services.History
import AppointmentVoice.Services.Statements

/-!
# How far a call has come with a booking

Calls that cancel or reschedule one and the same booking go through the same
stages: they lock its row, find it confirmed or not, cancel it, commit, and may
then make a new booking.  A tracker reads the stage off the statements and answers
of a call, and the walk through the service functions shows that a call that ends
without having committed anything has lost against another one, or has been stopped
by a row it could not find.

**Every call.** `track_perform`, put together from one lemma for each function.
-/

set_option autoImplicit false

namespace AppointmentVoice

open Concurrency World

/-! ## Calls on a booking -/

/-- The booking, as the calls name it. -/
def Booking.ref (booking : Booking) : BookingRef :=
  ⟨booking.id, booking.businessId, booking.tenantId⟩

/-- The call cancels or reschedules the booking. -/
def Call.on (target : Booking) : Call → Bool
  | .cancelBooking args => args.toBookingRef == target.ref
  | .rescheduleBooking args => args.toBookingRef == target.ref
  | _ => false

/-- An override without a reason is refused before anything is read. -/
def Call.blankOverride : Call → Bool
  | .cancelBooking args => args.override && blank args.reason
  | _ => false

/-! ## Stages -/

/-- Where a call on the booking is: it has begun, has lost, holds the lock of the booking, has
flushed the cancellation, has committed it, has flushed a new booking, has committed that. -/
inductive Stage where
  | begun
  | lost
  | locked
  | cancelling
  | moved
  | inserted
  | made
  deriving DecidableEq, Repr

/-- The cancellation has been committed. -/
def Stage.won : Stage → Bool
  | .moved => true
  | .inserted => true
  | .made => true
  | _ => false

/-- The stage, and whether a lookup has failed. -/
structure Progress where
  stage : Stage
  excused : Bool
  deriving DecidableEq, Repr

/-- The write is to the table of the bookings. -/
def Write.ofBooking : Write → Bool
  | .insertBooking _ => true
  | .updateBooking _ _ => true
  | _ => false

/-- The write changes the booking. -/
def Write.changes (id : Nat) : Write → Bool
  | .updateBooking other _ => other == id
  | _ => false

/-- A lookup that finds no row in the business of the booking, or a business in whose
time zone the start of the booking cannot be told. -/
def unfound (cfg : Settings) (target : Booking) : Event Sql → Bool
  | ⟨.select (.business _ _), answer⟩ =>
      (answer : Option Business).all fun row => !decide (cfg.TellsTime row target.startsAt)
  | ⟨.select (.customer _ _), answer⟩ =>
      (answer : Option Customer).all fun row => row.businessId != target.businessId
  | ⟨.select (.service _ _), answer⟩ =>
      (answer : Option Service).all fun row => row.businessId != target.businessId
  | _ => false

/-- The row of the booking is seen, with or without its lock. -/
def Stage.sees (target : Booking) (stage free : Stage) : Option Booking → Stage
  | some row =>
      if stage = .begun ∧ row.id = target.id then
        if row.status = .confirmed then free else .lost
      else stage
  | none => stage

/-- The stage after a statement and its answer. -/
def Stage.next (target : Booking) (stage : Stage) : Event Sql → Stage
  | ⟨.select (.booking _ _), answer⟩ => stage.sees target .begun answer
  | ⟨.selectBookingForUpdate _ _, answer⟩ => stage.sees target .locked answer
  | ⟨.update (.updateBooking _ _), _⟩ => if stage = .locked then .cancelling else stage
  | ⟨.insert draft, answer⟩ =>
      match (answer : Except Constraint Nat) with
      | .ok id => if stage = .moved ∧ (draft id).addsBooking = true then .inserted else stage
      | .error _ => stage
  | ⟨.commit, _⟩ =>
      match stage with
      | .inserted => .made
      | .made => .made
      | _ => .moved
  | ⟨.rollback, _⟩ => if stage = .inserted then .moved else stage
  | _ => stage

/-- The statements that a call on the booking may issue. -/
def Stage.allows (target : Booking) (stage : Stage) : Stmt → Prop
  | .insert draft => (∀ id, (draft id).ofBooking = false) ∨
      (stage = .moved ∧ ∀ id, ∃ row, draft id = .insertBooking row)
  | .update write => write.ofBooking = false ∨
      (stage = .locked ∧ ∃ reason, write = .updateBooking target.id (.cancel reason))
  | .commit => stage = .cancelling ∨ stage.won = true
  | .rollback => stage.won = true
  | _ => True

/-- The statements that any other call may issue. -/
def Stmt.Spares (target : Booking) : Stmt → Prop
  | .insert draft => ∀ id, (draft id).changes target.id = false
  | .update write => write.changes target.id = false
  | _ => True

/-- The answer to a question for one booking. -/
structure Shown (target : Booking) (id tenantId : Nat) (answer : Option Booking) : Prop where
  found : id = target.id → tenantId = target.tenantId → answer ≠ none
  key : ∀ row, answer = some row → row.id = id ∧ row.tenantId = tenantId
  row : ∀ row, answer = some row → row.id = target.id →
    row.businessId = target.businessId ∧ row.tenantId = target.tenantId ∧
      row.startsAt = target.startsAt ∧ row.status ≠ .pendingPayment

/-- Every entry fits the slot. -/
def WaitlistFilter.AcceptsAll (filter : WaitlistFilter) (entries : List WaitlistEntry) : Prop :=
  ∀ entry ∈ entries, filter.accepts entry = true

/-- The answers that a call may get. -/
def Possible (target : Booking) (stage : Stage) : Event Sql → Prop
  | ⟨.select (.booking id tenantId), answer⟩ =>
      stage = .begun → Shown target id tenantId answer
  | ⟨.selectBookingForUpdate id tenantId, answer⟩ =>
      stage = .begun → Shown target id tenantId answer
  | ⟨.insert draft, answer⟩ => ∀ constraint,
      (answer : Except Constraint Nat) = .error constraint → ∃ id, (draft id).constrained = true
  | ⟨.selectWaitlistForUpdateSkipLocked filter, answer⟩ => filter.AcceptsAll answer
  | _ => True

/-- The observer of one call. -/
def tracker (cfg : Settings) (target : Booking) (call : Call) : Monitor Sql Progress where
  may progress event := Possible target progress.stage event
  must progress stmt :=
    if call.on target then progress.stage.allows target stmt else stmt.Spares target
  learn progress event :=
    if call.on target then
      ⟨progress.stage.next target event, progress.excused || unfound cfg target event⟩
    else progress

/-- An error with which a call on the booking may end. -/
def Failed (target : Booking) (call : Call) (error : AppError) (progress : Progress) : Prop :=
  call.on target = true → progress.stage.won = true ∨ progress.excused = true ∨
    call.blankOverride = true ∨ (progress.stage = .lost ∧ ∃ message, error = .conflict message)

/-- How a function may end. -/
def Leaves (target : Booking) (call : Call) {α : Type} (returns : α → Progress → Prop) :
    Except AppError α → Progress → Prop
  | .ok value, progress => returns value progress
  | .error error, progress => Failed target call error progress

/-- How a call may end: one that returns has committed the cancellation. -/
def trackWatch (cfg : Settings) (target : Booking) : Watch Sql Call AppError Reply Progress where
  monitor := tracker cfg target
  initial _ := ⟨.begun, false⟩
  post call := Leaves target call fun _ progress =>
    call.on target = true → progress.stage.won = true

/-! ## Rules -/

/-- Statements that do not bear on the stage. -/
def Stmt.Quiet : Stmt → Prop
  | .insert draft => ∀ id, (draft id).ofBooking = false
  | .update write => write.ofBooking = false
  | .selectBookingForUpdate _ _ => False
  | .commit => False
  | .rollback => False
  | _ => True

/-- Statements that do not bear on whether the cancellation has been committed. -/
def Stmt.Late : Stmt → Prop
  | .insert draft => ∀ id, (draft id).ofBooking = false
  | .update write => write.ofBooking = false
  | _ => True

theorem Stmt.quiet_plain : Stmt.Plain Stmt.Quiet where
  select _ := trivial
  now := trivial
  push _ _ := trivial
  audit _ _ := rfl
  outbox _ _ _ := rfl

theorem Stmt.late_locking : Stmt.Locking Stmt.Late where
  select _ := trivial
  now := trivial
  push _ _ := trivial
  audit _ _ := rfl
  outbox _ _ _ := rfl
  event _ _ _ := rfl
  commit := trivial
  rollback := trivial
  lock _ _ := trivial
  waitlist _ := trivial
  staleOffers _ := trivial
  payment _ _ := rfl
  entry _ _ := rfl
  enroll _ _ := rfl

theorem Stmt.spares_locking (target : Booking) : Stmt.Locking (Stmt.Spares target) where
  select _ := trivial
  now := trivial
  push _ _ := trivial
  audit _ _ := rfl
  outbox _ _ _ := rfl
  event _ _ _ := rfl
  commit := trivial
  rollback := trivial
  lock _ _ := trivial
  waitlist _ := trivial
  staleOffers _ := trivial
  payment _ _ := rfl
  entry _ _ := rfl
  enroll _ _ := rfl

theorem Write.changes_of_ofBooking {write : Write} (other : write.ofBooking = false) (id : Nat) :
    write.changes id = false := by
  cases write with
  | updateBooking key change => cases other
  | _ => rfl

theorem Write.addsBooking_of_ofBooking {write : Write} (other : write.ofBooking = false) :
    write.addsBooking = false := by
  cases write with
  | insertBooking row => cases other
  | _ => rfl

theorem Stmt.Quiet.late {stmt : Stmt} (quiet : stmt.Quiet) : stmt.Late := by
  cases stmt with
  | insert draft => exact quiet
  | update write => exact quiet
  | _ => exact trivial

theorem Stmt.Late.spares {stmt : Stmt} (late : stmt.Late) (target : Booking) :
    stmt.Spares target := by
  cases stmt with
  | insert draft => exact fun id => Write.changes_of_ofBooking (late id) target.id
  | update write => exact Write.changes_of_ofBooking late target.id
  | _ => exact trivial

/-- A worker leaves the bookings as they are. -/
theorem Stmt.Clerical.late {stmt : Stmt} (clerical : stmt.Clerical) : stmt.Late := by
  cases stmt with
  | insert draft =>
      intro id
      obtain ⟨message, written, -, -⟩ := clerical.2 id
      rw [written]
      rfl
  | update write =>
      obtain ⟨clerical, -⟩ := clerical
      cases clerical <;> rfl
  | _ => exact trivial

section Rules

variable {cfg : Settings} {target : Booking} {call : Call} {progress : Progress} {α β : Type}

theorem tracker_learn_on (mine : call.on target = true) (event : Event Sql) :
    (tracker cfg target call).learn progress event =
      ⟨progress.stage.next target event,
        progress.excused || unfound cfg target event⟩ := by
  change (if call.on target = true then _ else _) = _
  rw [if_pos mine]

theorem tracker_learn_off (other : call.on target = false) (event : Event Sql) :
    (tracker cfg target call).learn progress event = progress := by
  change (if call.on target = true then _ else _) = _
  rw [other]
  rfl

theorem tracker_must_on (mine : call.on target = true) {stmt : Stmt} :
    (tracker cfg target call).must progress stmt ↔ progress.stage.allows target stmt := by
  change (if call.on target = true then _ else _) ↔ _
  rw [if_pos mine]

theorem tracker_must_off (other : call.on target = false) {stmt : Stmt} :
    (tracker cfg target call).must progress stmt ↔ stmt.Spares target := by
  change (if call.on target = true then _ else _) ↔ _
  rw [other]
  rfl

/-- A quiet statement leaves the stage alone, once the booking has been locked. -/
theorem Stage.next_quiet {stage : Stage} {stmt : Stmt} (quiet : stmt.Quiet)
    (past : stage ≠ .begun) (answer : stmt.Answer) : stage.next target ⟨stmt, answer⟩ = stage := by
  cases stmt with
  | select query =>
      cases query with
      | booking id tenantId =>
          cases answer with
          | none => rfl
          | some row => exact if_neg fun both => past both.1
      | _ => rfl
  | insert draft =>
      cases answer with
      | error constraint => rfl
      | ok id =>
          refine if_neg fun both => ?_
          rw [Write.addsBooking_of_ofBooking (quiet id)] at both
          cases both.2
  | update write =>
      cases write with
      | updateBooking id change => cases quiet
      | _ => rfl
  | selectBookingForUpdate id tenantId => cases quiet
  | commit => cases quiet
  | rollback => cases quiet
  | _ => rfl

/-- What has been committed stays committed. -/
theorem Stage.next_won {stage : Stage} (won : stage.won = true) (event : Event Sql) :
    (stage.next target event).won = true := by
  have past : stage ≠ .begun := by
    rintro rfl
    cases won
  obtain ⟨stmt, answer⟩ := event
  cases stmt with
  | select query =>
      have quiet : (Stmt.select query).Quiet := trivial
      rw [Stage.next_quiet quiet past]
      exact won
  | selectBookingForUpdate id tenantId =>
      cases answer with
      | none => exact won
      | some row =>
          change (if _ then _ else _ : Stage).won = true
          rw [if_neg fun both => past both.1]
          exact won
  | insert draft =>
      cases answer with
      | error constraint => exact won
      | ok id =>
          change (if _ then _ else _ : Stage).won = true
          split
          · rfl
          · exact won
  | update write =>
      cases write with
      | updateBooking id change =>
          change (if _ then _ else _ : Stage).won = true
          rw [if_neg]
          · exact won
          · rintro rfl
            cases won
      | _ => exact won
  | commit => cases stage <;> rfl
  | rollback =>
      change (if _ then _ else _ : Stage).won = true
      split
      · rfl
      · exact won
  | _ => exact won

/-- One statement later, at the same stage. -/
structure Follows (cfg : Settings) (target : Booking) (call : Call) (event : Event Sql)
    (before after : Progress) : Prop where
  stage : after.stage = before.stage
  excused : before.excused = true → after.excused = true
  unfound : call.on target = true → unfound cfg target event = true →
    after.excused = true

theorem tracker_follows {stmt : Stmt} (quiet : stmt.Quiet)
    (past : call.on target = true → progress.stage ≠ .begun) (answer : stmt.Answer) :
    Follows cfg target call ⟨stmt, answer⟩ progress
      ((tracker cfg target call).learn progress ⟨stmt, answer⟩) := by
  cases on : call.on target with
  | true =>
      rw [tracker_learn_on on]
      refine ⟨Stage.next_quiet quiet (past on) answer, fun excused => ?_, fun _ missing => ?_⟩
      · change (progress.excused || _) = true
        rw [excused, Bool.true_or]
      · change (progress.excused || _) = true
        rw [missing, Bool.or_true]
  | false =>
      rw [tracker_learn_off on]
      refine ⟨rfl, id, fun mine => ?_⟩
      rw [on] at mine
      cases mine

theorem tracker_must_late {stmt : Stmt} (late : stmt.Late)
    (commits : call.on target = true → stmt.ends = true → progress.stage.won = true) :
    (tracker cfg target call).must progress stmt := by
  cases on : call.on target with
  | true =>
      rw [tracker_must_on on]
      cases stmt with
      | insert draft => exact .inl late
      | update write => exact .inl late
      | commit => exact .inr (commits on rfl)
      | rollback => exact commits on rfl
      | _ => exact trivial
  | false =>
      rw [tracker_must_off on]
      exact late.spares target

/-- A quiet statement. -/
theorem track_quiet {stmt : Stmt} {next : stmt.Answer → DbM α}
    {post : Except AppError α → Progress → Prop} (quiet : stmt.Quiet)
    (past : call.on target = true → progress.stage ≠ .begun)
    (rest : ∀ answer later, Possible target progress.stage ⟨stmt, answer⟩ →
      Follows cfg target call ⟨stmt, answer⟩ progress later →
        (tracker cfg target call).Along post (next answer) later) :
    (tracker cfg target call).Along post (.call (S := Sql) stmt next) progress := by
  refine .call (tracker_must_late quiet.late fun _ ends => ?_) fun answer possible => ?_
  · cases stmt with
    | commit => cases quiet
    | rollback => cases quiet
    | _ => cases ends
  · exact rest answer _ possible (tracker_follows quiet past answer)

theorem tracker_learn_won (won : call.on target = true → progress.stage.won = true)
    (event : Event Sql) (mine : call.on target = true) :
    ((tracker cfg target call).learn progress event).stage.won = true := by
  rw [tracker_learn_on mine]
  exact Stage.next_won (won mine) event

/-- Statements that come after the commit. -/
theorem track_late {program : DbM α} (late : program.Only Stmt.Late)
    (won : call.on target = true → progress.stage.won = true) :
    (tracker cfg target call).Along
      (fun _ later => call.on target = true → later.stage.won = true) program progress := by
  induction late generalizing progress with
  | ret value => exact .ret won
  | raise error => exact .raise won
  | call fits _ ih =>
      exact .call (tracker_must_late fits fun mine _ => won mine)
        fun answer _ => ih answer (tracker_learn_won won _)

/-- Quiet statements after the commit of the cancellation. -/
theorem track_calm {program : DbM α} (quiet : program.Only Stmt.Quiet)
    (moved : call.on target = true → progress.stage = .moved) :
    (tracker cfg target call).Along
      (fun _ later => call.on target = true → later.stage = .moved) program progress := by
  induction quiet generalizing progress with
  | ret value => exact .ret moved
  | raise error => exact .raise moved
  | call fits _ ih =>
      refine track_quiet fits (fun mine => ?_) fun answer later _ follows =>
        ih answer fun mine => ?_
      · rw [moved mine]
        exact nofun
      · rw [follows.stage]
        exact moved mine

/-! ## Reading and noting -/

section Helpers

variable {returns : β → Progress → Prop}

theorem track_now {next : Instant → DbM β} {post : Except AppError β → Progress → Prop}
    (rest : ∀ time, (tracker cfg target call).Along post (next time) progress) :
    (tracker cfg target call).Along post (now >>= next) progress := by
  refine .call (tracker_must_late trivial fun _ ends => nomatch ends) fun time _ => ?_
  have same : (tracker cfg target call).learn progress ⟨.now, time⟩ = progress := by
    cases on : call.on target with
    | false => exact tracker_learn_off on _
    | true =>
        rw [tracker_learn_on on]
        obtain ⟨stage, excused⟩ := progress
        exact congrArg (Progress.mk stage) (Bool.or_false excused)
  rw [same]
  exact rest time

/-- A row of the audit log or of the outbox is never refused. -/
theorem track_insert {draft : Nat → Write} {next : Nat → DbM β}
    {post : Except AppError β → Progress → Prop} (quiet : ∀ id, (draft id).ofBooking = false)
    (free : ∀ id, (draft id).constrained = false)
    (past : call.on target = true → progress.stage ≠ .begun)
    (rest : ∀ id later, later.stage = progress.stage →
      (progress.excused = true → later.excused = true) →
        (tracker cfg target call).Along post (next id) later) :
    (tracker cfg target call).Along post (insert draft >>= next) progress := by
  refine track_quiet quiet past fun answer later possible follows => ?_
  cases answer with
  | ok id => exact rest id later follows.stage follows.excused
  | error constraint =>
      obtain ⟨id, refused⟩ := possible constraint rfl
      rw [free id] at refused
      cases refused

theorem failed_of_excused {error : AppError} (excused : call.on target = true →
    progress.excused = true) : Failed target call error progress :=
  fun mine => .inr (.inl (excused mine))

theorem track_requireBusiness {businessId tenantId : Nat} {next : Business → DbM β}
    (past : call.on target = true → progress.stage ≠ .begun)
    (rest : ∀ business later, later.stage = progress.stage →
      (progress.excused = true → later.excused = true) →
      (call.on target = true →
        later.excused = true ∨ cfg.TellsTime business target.startsAt) →
        (tracker cfg target call).Along (Leaves target call returns) (next business) later) :
    (tracker cfg target call).Along (Leaves target call returns)
      (requireBusiness businessId tenantId >>= next) progress := by
  have quiet : (Stmt.select (.business businessId tenantId)).Quiet := trivial
  refine track_quiet quiet past fun answer later _ follows => ?_
  cases answer with
  | none => exact .raise (failed_of_excused fun mine => follows.unfound mine rfl)
  | some business =>
      refine rest business later follows.stage follows.excused fun mine => ?_
      by_cases tells : cfg.TellsTime business target.startsAt
      · exact .inr tells
      · refine .inl (follows.unfound mine ?_)
        change (!decide (cfg.TellsTime business target.startsAt)) = true
        rw [decide_eq_false tells]
        rfl

/-- A row that is looked up and has to belong to the business. -/
theorem track_inBusiness {query : Query} {decode : query.Row → Option α} {missing error : AppError}
    {businessOf : α → Nat} {businessId : Nat} {next : α → DbM β}
    (past : call.on target = true → progress.stage ≠ .begun)
    (here : call.on target = true → businessId = target.businessId)
    (shows : ∀ answer, unfound cfg target ⟨.select query, answer⟩ =
      (decode answer).all fun row => businessOf row != target.businessId)
    (rest : ∀ row later, later.stage = progress.stage →
      (progress.excused = true → later.excused = true) →
        (tracker cfg target call).Along (Leaves target call returns) (next row) later) :
    (tracker cfg target call).Along (Leaves target call returns)
      ((do
        let row ← (do orRaise missing (decode (← select query)))
        if businessOf row ≠ businessId then throw error
        return row) >>= next) progress := by
  have quiet : (Stmt.select query).Quiet := trivial
  refine track_quiet quiet past fun answer later _ follows => ?_
  have excuses : call.on target = true → (decode answer).all
      (fun row => businessOf row != target.businessId) = true → later.excused = true := by
    intro mine missed
    exact follows.unfound mine ((shows answer).trans missed)
  change (tracker cfg target call).Along _ ((orRaise missing (decode answer) >>= _) >>= next) later
  cases found : decode answer with
  | none =>
      rw [found] at excuses
      exact .raise (failed_of_excused fun mine => excuses mine rfl)
  | some row =>
      rw [found] at excuses
      change (tracker cfg target call).Along _
        ((if businessOf row ≠ businessId then _ else _) >>= next) later
      by_cases same : businessOf row = businessId
      · rw [if_neg (not_not.mpr same)]
        exact rest row later follows.stage follows.excused
      · rw [if_pos same]
        refine .raise (failed_of_excused fun mine => excuses mine ?_)
        rw [here mine] at same
        exact bne_iff_ne.mpr same

theorem track_requireCustomerInBusiness {customerId businessId tenantId : Nat}
    {next : Customer → DbM β} (past : call.on target = true → progress.stage ≠ .begun)
    (here : call.on target = true → businessId = target.businessId)
    (rest : ∀ row later, later.stage = progress.stage →
      (progress.excused = true → later.excused = true) →
        (tracker cfg target call).Along (Leaves target call returns) (next row) later) :
    (tracker cfg target call).Along (Leaves target call returns)
      (requireCustomerInBusiness customerId businessId tenantId >>= next) progress := by
  have found := @track_inBusiness cfg target call progress Customer β returns
    (.customer customerId tenantId) id (.notFound "Customer not found")
    (.notFound "Customer not found") (·.businessId) businessId next past here (fun _ => rfl) rest
  exact found

theorem track_requireServiceInBusiness {serviceId businessId tenantId : Nat}
    {next : Service → DbM β} (past : call.on target = true → progress.stage ≠ .begun)
    (here : call.on target = true → businessId = target.businessId)
    (rest : ∀ row later, later.stage = progress.stage →
      (progress.excused = true → later.excused = true) →
        (tracker cfg target call).Along (Leaves target call returns) (next row) later) :
    (tracker cfg target call).Along (Leaves target call returns)
      (requireServiceInBusiness serviceId businessId tenantId >>= next) progress := by
  have found := @track_inBusiness cfg target call progress Service β returns
    (.service serviceId tenantId) id (.notFound "Service not found")
    (.notFound "Service not found") (·.businessId) businessId next past here (fun _ => rfl) rest
  exact found

theorem track_enqueueBookingCancellation {booking : Booking} {business : Business}
    {customer : Customer} {service : Service} {createdAt : Instant} {next : List Nat → DbM β}
    (past : call.on target = true → progress.stage ≠ .begun)
    (tells : call.on target = true →
      progress.excused = true ∨ cfg.TellsTime business booking.startsAt)
    (rest : ∀ ids later, later.stage = progress.stage →
      (progress.excused = true → later.excused = true) →
        (tracker cfg target call).Along (Leaves target call returns) (next ids) later) :
    (tracker cfg target call).Along (Leaves target call returns)
      (enqueueBookingCancellation cfg booking business customer service createdAt >>= next)
      progress := by
  rw [enqueueBookingCancellation, bind_assoc, formatLocalTime]
  split
  · rw [Program.pure_eq_ret, Program.ret_bind, bind_assoc]
    refine track_insert (fun _ => rfl) (fun _ => rfl) past fun first later stage excused => ?_
    rw [bind_assoc, addOwnerIntent]
    have done : ∀ owner last, last.stage = later.stage →
        (later.excused = true → last.excused = true) →
        (tracker cfg target call).Along (Leaves target call returns) (next (first :: owner)) last :=
      fun owner last sameStage mono => rest _ last (sameStage.trans stage) (mono ∘ excused)
    split
    · split
      · exact done [] later rfl id
      · rw [bind_assoc]
        exact track_insert (fun _ => rfl) (fun _ => rfl) (fun mine => stage ▸ past mine)
          fun id last => done [id] last
    · exact done [] later rfl id
  · next error failed =>
      refine .raise (failed_of_excused fun mine => ?_)
      exact (tells mine).resolve_right (Settings.not_tellsTime failed)

end Helpers

/-! ## Cancelling -/

section Walks

/-- The row that a call has locked, and what the call has come to with it. -/
structure Locked (target : Booking) (call : Call) (ref : BookingRef) (row : Booking)
    (progress : Progress) : Prop where
  key : row.id = ref.bookingId
  business : row.businessId = ref.businessId
  tenant : row.tenantId = ref.tenantId
  shown : row.id = target.id → row.businessId = target.businessId ∧
    row.tenantId = target.tenantId ∧ row.startsAt = target.startsAt ∧
      row.status ≠ .pendingPayment
  stage : call.on target = true → row.id = target.id ∧
    progress.stage = if row.status = .confirmed then .locked else .lost

theorem track_requireBookingInBusinessForUpdate {bookingId businessId tenantId : Nat}
    {next : Booking → DbM β} {returns : β → Progress → Prop} (begun : progress.stage = .begun)
    (own : call.on target = true → ⟨bookingId, businessId, tenantId⟩ = target.ref)
    (rest : ∀ row later, Locked target call ⟨bookingId, businessId, tenantId⟩ row later →
      (tracker cfg target call).Along (Leaves target call returns) (next row) later) :
    (tracker cfg target call).Along (Leaves target call returns)
      (requireBookingInBusinessForUpdate bookingId businessId tenantId >>= next) progress := by
  have late : (Stmt.selectBookingForUpdate bookingId tenantId).Late := trivial
  refine .call (tracker_must_late late fun _ ends => nomatch ends) fun answer possible => ?_
  have shown : Shown target bookingId tenantId answer := possible begun
  cases answer with
  | none =>
      refine .raise fun mine => ?_
      obtain ⟨sameId, -, sameTenant⟩ := BookingRef.mk.inj (own mine)
      exact absurd rfl (shown.found sameId sameTenant)
  | some row =>
      obtain ⟨sameId, sameTenant⟩ := shown.key row rfl
      change (tracker cfg target call).Along _
        ((if row.businessId ≠ businessId then _ else _) >>= next) _
      by_cases same : row.businessId = businessId
      · rw [if_neg (not_not.mpr same)]
        refine rest row _ ⟨sameId, same, sameTenant, shown.row row rfl, fun mine => ?_⟩
        have sameTarget : row.id = target.id := sameId.trans (BookingRef.mk.inj (own mine)).1
        rw [tracker_learn_on mine]
        exact ⟨sameTarget, if_pos ⟨begun, sameTarget⟩⟩
      · rw [if_pos same]
        refine .raise fun mine => ?_
        obtain ⟨theId, theBusiness, -⟩ := BookingRef.mk.inj (own mine)
        have there := (shown.row row rfl (sameId.trans theId)).1
        exact absurd (there.trans theBusiness.symm) same

/-- The update of a locked row that is found confirmed. -/
theorem track_cancels {row : Booking} {reason : Option String} {next : Unit → DbM β}
    {post : Except AppError β → Progress → Prop}
    (locked : call.on target = true → row.id = target.id ∧ progress.stage = .locked)
    (spared : call.on target = false → row.id ≠ target.id)
    (rest : ∀ later, (call.on target = true → later.stage = .cancelling) →
      (tracker cfg target call).Along post (next ()) later) :
    (tracker cfg target call).Along post
      (update (.updateBooking row.id (.cancel reason)) >>= next) progress := by
  refine .call ?_ fun answer _ => rest _ fun mine => ?_
  · cases on : call.on target with
    | true =>
        rw [tracker_must_on on]
        refine .inr ⟨(locked on).2, reason, ?_⟩
        rw [(locked on).1]
    | false =>
        rw [tracker_must_off on]
        exact beq_eq_false_iff_ne.mpr (spared on)
  · rw [tracker_learn_on mine]
    exact if_pos (locked mine).2

theorem track_commit {next : Unit → DbM β} {post : Except AppError β → Progress → Prop}
    (cancelling : call.on target = true → progress.stage = .cancelling)
    (rest : ∀ later, (call.on target = true → later.stage = .moved) →
      (tracker cfg target call).Along post (next ()) later) :
    (tracker cfg target call).Along post (commit >>= next) progress := by
  refine .call ?_ fun answer _ => rest _ fun mine => ?_
  · cases on : call.on target with
    | true =>
        rw [tracker_must_on on]
        exact .inl (cancelling on)
    | false =>
        rw [tracker_must_off on]
        exact trivial
  · rw [tracker_learn_on mine]
    change Stage.next target progress.stage ⟨.commit, ()⟩ = _
    rw [cancelling mine]
    rfl

theorem track_failLinkedPendingPayment {booking : Booking} {reason : Option String}
    {next : Unit → DbM β} {post : Except AppError β → Progress → Prop}
    (past : call.on target = true → progress.stage ≠ .begun)
    (rest : ∀ later, later.stage = progress.stage →
      (tracker cfg target call).Along post (next ()) later) :
    (tracker cfg target call).Along post (failLinkedPendingPayment booking reason >>= next)
      progress := by
  have quiet : (Stmt.select (.pendingPayment booking.id booking.tenantId)).Quiet := trivial
  refine track_quiet quiet past fun answer later _ follows => ?_
  cases answer with
  | none => exact rest later follows.stage
  | some payment =>
      have write : (Stmt.update (.updatePayment payment.id (.fail reason))).Quiet := rfl
      refine track_quiet write (fun mine => follows.stage ▸ past mine) fun _ last _ follows' => ?_
      exact rest last (follows'.stage.trans follows.stage)

/-- Cancelling a booking: a call that returns has committed the cancellation. -/
theorem track_cancelBooking {args : CancelBooking} (begun : progress.stage = .begun)
    (own : call.on target = true ↔ args.toBookingRef = target.ref)
    (blank : (args.override && blank args.reason) = true → call.blankOverride = true) :
    (tracker cfg target call).Along (Leaves target call fun _ later =>
      call.on target = true → later.stage = .moved) (cancelBooking cfg args) progress := by
  rw [cancelBooking]
  cases refused : (args.override && AppointmentVoice.blank args.reason) with
  | true => exact .raise fun mine => .inr (.inr (.inl (blank refused)))
  | false =>
  refine track_now fun startedAt => ?_
  refine track_requireBookingInBusinessForUpdate begun own.mp fun row locking locked => ?_
  by_cases gone : row.status = .cancelled
  · rw [if_pos gone]
    refine .raise fun mine => .inr (.inr (.inr ⟨?_, _, rfl⟩))
    rw [(locked.stage mine).2, gone]
    rfl
  rw [if_neg gone]
  have spared : call.on target = false → row.id ≠ target.id := by
    intro other same
    obtain ⟨business, tenant, -⟩ := locked.shown same
    have ref : args.toBookingRef = target.ref := by
      have sameId := locked.key
      have sameBusiness := locked.business
      have sameTenant := locked.tenant
      rw [Booking.ref, ← same, ← business, ← tenant, sameId, sameBusiness, sameTenant]
    rw [own.mpr ref] at other
    cases other
  have here : call.on target = true → row.businessId = target.businessId :=
    fun mine => (locked.shown (locked.stage mine).1).1
  have held : call.on target = true → row.id = target.id ∧ locking.stage = .locked := by
    intro mine
    obtain ⟨same, stage⟩ := locked.stage mine
    have confirmed : row.status = .confirmed := by
      cases status : row.status with
      | confirmed => rfl
      | cancelled => exact absurd status gone
      | pendingPayment => exact absurd status (locked.shown same).2.2.2
    rw [confirmed] at stage
    exact ⟨same, stage⟩
  refine track_cancels held spared fun p₁ cancelling => ?_
  -- From here to the commit the stage stays the same.
  have past : ∀ {later : Progress}, later.stage = p₁.stage → call.on target = true →
      later.stage ≠ .begun := by
    intro later same mine
    rw [same, cancelling mine]
    rintro ⟨⟩
  refine track_failLinkedPendingPayment (past rfl) fun p₂ s₂ => ?_
  rw [createAuditLog, bind_assoc]
  refine track_insert (fun _ => rfl) (fun _ => rfl) (past s₂) fun _ p₃ s₃ _ => ?_
  refine track_requireBusiness (past (s₃.trans s₂)) fun business p₄ s₄ _ tells => ?_
  have s₄ := s₄.trans (s₃.trans s₂)
  refine track_requireCustomerInBusiness (past s₄) here fun customer p₅ s₅ e₅ => ?_
  have s₅ := s₅.trans s₄
  refine track_requireServiceInBusiness (past s₅) here fun service p₆ s₆ e₆ => ?_
  have s₆ := s₆.trans s₅
  refine track_enqueueBookingCancellation (past s₆)
    (fun mine => ?_) fun ids p₇ s₇ _ => ?_
  · rw [(locked.shown (locked.stage mine).1).2.2.1]
    exact (tells mine).imp_left fun excused => e₆ (e₅ excused)
  have s₇ := s₇.trans s₆
  have quiet : (Stmt.selectWaitlistForUpdateSkipLocked (slotOf row args.tenantId)).Quiet := trivial
  refine track_quiet quiet (past s₇) fun matching p₈ fits follows => ?_
  have s₈ := follows.stage.trans s₇
  -- The end of the function, from the lookup of the calendar event on.
  have ending : ∀ (offerIds : List Nat) (later : Progress), later.stage = p₁.stage →
      (tracker cfg target call).Along (Leaves target call fun _ later =>
        call.on target = true → later.stage = .moved) (do
          let calendarEvent : Option CalendarEvent ← select (.calendarEvent row.id args.tenantId)
          commit
          let booking ← refreshBooking row.id
          enqueueJobs (ids.map .sendNotification)
          enqueueJobs (offerIds.map .sendNotification)
          enqueueJobs (calendarEvent.toList.map fun event => .cancelCalendarEvent event.id)
          return booking) later := by
    intro offerIds later same
    have plain := Stmt.quiet_plain
    have quiet : (Stmt.select (.calendarEvent row.id args.tenantId)).Quiet := trivial
    refine track_quiet quiet (past same) fun event p₉ _ follows => ?_
    refine track_commit (fun mine => ?_) fun p₁₀ moved => ?_
    · rw [follows.stage, same]
      exact cancelling mine
    · have withdraws : ∀ event : Option CalendarEvent, (enqueueJobs (event.toList.map
          fun row => .cancelCalendarEvent row.id)).Only Stmt.Quiet := by
        intro event
        refine Issues.enqueueJobs fun job member => ?_
        obtain ⟨row, -, rfl⟩ := List.mem_map.mp member
        exact trivial
      have calm :=
        @track_calm cfg target call p₁₀ _ _ (Program.Only.bind (Issues.refreshBooking plain row.id)
        fun booking => Program.Only.bind (Issues.notify plain ids)
          fun _ => Program.Only.bind (Issues.notify plain offerIds)
            fun _ => Program.Only.bind (withdraws event) fun _ => Issues.ret booking) moved
      refine calm.mono fun result last still => ?_
      cases result with
      | ok value => exact still
      | error error =>
          intro mine
          rw [still mine]
          exact .inl rfl
  cases matching with
  | nil => exact ending [] p₈ s₈
  | cons entry others =>
      have accepted : (slotOf row args.tenantId).accepts entry = true :=
        fits entry List.mem_cons_self
      have inBusiness : entry.businessId = row.businessId := by
        simp only [WaitlistFilter.accepts, WaitlistFilter.eligible, Bool.and_eq_true,
          beq_iff_eq] at accepted
        exact accepted.1.1.1.1.1
      change (tracker cfg target call).Along _ ((update _ >>= fun _ => _) >>= fun _ => _) p₈
      rw [bind_assoc]
      have write : (Stmt.update (.updateWaitlistEntry entry.id
        (.offer row.staffId startedAt))).Quiet := rfl
      refine track_quiet write (past s₈) fun _ p₉ _ follows => ?_
      have s₉ := follows.stage.trans s₈
      change (tracker cfg target call).Along _
        ((requireCustomerInBusiness _ _ _ >>= fun _ => _) >>= fun _ => _) p₉
      rw [bind_assoc]
      refine track_requireCustomerInBusiness (past s₉) (fun mine => inBusiness.trans (here mine))
        fun waiting p₁₀ s₁₀ _ => ?_
      rw [bind_assoc]
      refine track_insert (fun _ => rfl) (fun _ => rfl) (past (s₁₀.trans s₉))
        fun offerId p₁₁ s₁₁ _ => ?_
      exact ending [offerId] p₁₁ (s₁₁.trans (s₁₀.trans s₉))

/-! ## Booking again -/

/-- Quiet statements between the commit of the cancellation and the new booking. -/
theorem track_skip {program : DbM α} {next : α → DbM β} (quiet : program.Only Stmt.Quiet)
    (moved : call.on target = true → progress.stage = .moved)
    (rest : ∀ value later, (call.on target = true → later.stage = .moved) →
      (tracker cfg target call).Along
        (fun _ later => call.on target = true → later.stage.won = true) (next value) later) :
    (tracker cfg target call).Along
      (fun _ later => call.on target = true → later.stage.won = true) (program >>= next)
        progress := by
  refine .bind ((track_calm quiet moved).mono fun result later still => ?_)
  cases result with
  | ok value => exact rest value later still
  | error error =>
      intro mine
      rw [still mine]
      rfl

/-- Making the new booking leaves the cancellation committed. -/
theorem track_createBooking {args : CreateBooking}
    (moved : call.on target = true → progress.stage = .moved) :
    (tracker cfg target call).Along
      (fun _ later => call.on target = true → later.stage.won = true) (createBooking cfg args)
        progress := by
  have plain := Stmt.quiet_plain
  have late := Stmt.late_locking
  rw [createBooking]
  split
  · refine .raise fun mine => ?_
    rw [moved mine]
    rfl
  refine track_skip (Issues.now plain) moved fun startedAt p₁ m₁ => ?_
  refine track_skip (Issues.requireBusiness plain _ _) m₁ fun business p₂ m₂ => ?_
  refine track_skip (Issues.requireCustomerInBusiness plain _ _ _) m₂ fun customer p₃ m₃ => ?_
  refine track_skip (Issues.requireServiceInBusiness plain _ _ _) m₃ fun svc p₄ m₄ => ?_
  refine track_skip (Issues.requireStaffIfGiven plain _ _ _) m₄ fun _ p₅ m₅ => ?_
  refine track_skip (Issues.orOverflow _) m₅ fun endsAt p₆ m₆ => ?_
  refine track_skip (Issues.checkDoubleBooking plain _ _ _ _ _) m₆ fun _ p₇ m₇ => ?_
  refine .call ?_ fun answer _ => ?_
  · cases on : call.on target with
    | true =>
        rw [tracker_must_on on]
        exact .inr ⟨m₇ on, fun id => ⟨_, rfl⟩⟩
    | false =>
        rw [tracker_must_off on]
        exact fun _ => rfl
  refine track_late ?_ fun mine => ?_
  · cases answer with
    | error constraint => exact Issues.raise _
    | ok id =>
        refine Program.Only.bind (Issues.ret id) fun id => ?_
        refine Program.Only.bind (Issues.createAuditLog late.toPlain _ _ _ _ _) fun _ => ?_
        refine Program.Only.bind
          (Issues.enqueueBookingConfirmation late.toPlain _ _ _ _ _ _) fun _ => ?_
        refine Program.Only.bind (Program.Only.tryCatch ?_ (Issues.onIntegrityError late.toEnding))
          fun _ => ?_
        · refine Program.Only.bind (Issues.enqueueCalendarEvent late.toEnding _ _ _) fun _ => ?_
          exact Program.Only.bind (Program.Only.issue trivial) fun _ => Issues.ret _
        · refine Program.Only.bind (Issues.refreshBooking late.toPlain _) fun _ => ?_
          refine Program.Only.bind (Issues.notify late.toPlain _) fun _ => ?_
          exact Program.Only.bind (Issues.enqueueJob (late.push _ rfl)) fun _ => Issues.ret _
  · refine tracker_learn_won (fun mine => ?_) _ mine
    rw [m₇ mine]
    rfl

/-- Rescheduling a booking. -/
theorem track_rescheduleBooking {args : RescheduleBooking} (begun : progress.stage = .begun)
    (own : call.on target = true ↔ args.toBookingRef = target.ref) :
    (tracker cfg target call).Along (Leaves target call fun _ later =>
      call.on target = true → later.stage.won = true) (rescheduleBooking cfg args) progress := by
  have late := Stmt.late_locking
  have reads : (Stmt.select (.booking args.bookingId args.tenantId)).Late := trivial
  refine .call (tracker_must_late reads fun _ ends => nomatch ends) fun answer possible => ?_
  have shown : Shown target args.bookingId args.tenantId answer := possible begun
  cases answer with
  | none =>
      refine .raise fun mine => ?_
      obtain ⟨sameId, -, sameTenant⟩ := BookingRef.mk.inj (own.mp mine)
      exact absurd rfl (shown.found sameId sameTenant)
  | some row =>
      obtain ⟨sameId, sameTenant⟩ := shown.key row rfl
      change (tracker cfg target call).Along _
        ((if row.businessId ≠ args.businessId then _ else _) >>= _) _
      by_cases same : row.businessId = args.businessId
      · rw [if_neg (not_not.mpr same)]
        change (tracker cfg target call).Along _ (if row.status ≠ .confirmed then _ else _) _
        by_cases confirmed : row.status = .confirmed
        · rw [if_neg (not_not.mpr confirmed)]
          have still : ((tracker cfg target call).learn progress
              ⟨.select (.booking args.bookingId args.tenantId), some row⟩).stage = .begun := by
            cases on : call.on target with
            | false =>
                rw [tracker_learn_off on]
                exact begun
            | true =>
                rw [tracker_learn_on on]
                change Stage.sees target progress.stage .begun (some row) = .begun
                rw [Stage.sees, if_pos confirmed, begun, ite_self]
          have plain : (false && blank args.reason) = true → call.blankOverride = true := by
            intro refused
            cases refused
          have sameRef : (⟨row.id, args.businessId, args.tenantId⟩ : BookingRef) =
              args.toBookingRef := by rw [sameId]
          refine .bind ((track_cancelBooking still (own.trans (by rw [sameRef])) plain).mono
            fun result later moved => ?_)
          cases result with
          | error error => exact moved
          | ok old =>
              refine .bind ((track_createBooking moved).mono fun result last won => ?_)
              cases result with
              | error error => exact fun mine => .inl (won mine)
              | ok new =>
                  refine (track_late
                    (Program.Only.bind (Issues.createAuditLog late.toPlain _ _ _ _ _)
                    fun _ => Program.Only.bind (Program.Only.issue late.commit) fun _ =>
                      Issues.ret _)
                    won).mono fun result final wonFinal => ?_
                  cases result with
                  | ok value => exact wonFinal
                  | error error => exact fun mine => .inl (wonFinal mine)
        · rw [if_pos confirmed]
          refine .raise fun mine => .inr (.inr (.inr ⟨?_, _, rfl⟩))
          rw [tracker_learn_on mine]
          change Stage.sees target progress.stage .begun (some row) = .lost
          rw [Stage.sees, if_neg confirmed]
          exact if_pos ⟨begun, sameId.trans (BookingRef.mk.inj (own.mp mine)).1⟩
      · rw [if_pos same]
        refine .raise fun mine => ?_
        obtain ⟨theId, theBusiness, -⟩ := BookingRef.mk.inj (own.mp mine)
        have there := (shown.row row rfl (sameId.trans theId)).1
        exact absurd (there.trans theBusiness.symm) same

/-! ## Other calls -/

section Others

variable (other : call.on target = false)
include other

/-- A function that leaves the booking alone. -/
theorem track_spares {program : DbM α} (only : program.Only (Stmt.Spares target)) :
    (tracker cfg target call).Along (fun _ later => later = progress) program progress := by
  induction only with
  | ret value => exact .ret rfl
  | raise error => exact .raise rfl
  | call fits _ ih =>
      refine .call ((tracker_must_off other).mpr fits) fun answer _ => ?_
      rw [tracker_learn_off other]
      exact ih answer

omit other in
theorem track_bind {program : DbM α} {next : α → DbM β}
    (first : (tracker cfg target call).Along (fun _ later => later = progress) program progress)
    (second : ∀ value,
      (tracker cfg target call).Along (fun _ later => later = progress) (next value) progress) :
    (tracker cfg target call).Along (fun _ later => later = progress) (program >>= next)
      progress := by
  refine .bind (first.mono fun result later same => ?_)
  cases result with
  | ok value =>
      subst same
      exact second value
  | error error => exact same

/-- A hold that is locked is not the booking. -/
theorem track_lockHold {bookingId businessId tenantId : Nat} {next : Booking → DbM β}
    (begun : progress.stage = .begun)
    (rest : ∀ row : Booking, (row.status = .pendingPayment → row.id ≠ target.id) →
      (tracker cfg target call).Along (fun _ later => later = progress) (next row) progress) :
    (tracker cfg target call).Along (fun _ later => later = progress)
      (requireBookingInBusinessForUpdate bookingId businessId tenantId >>= next) progress := by
  refine .call ((tracker_must_off other).mpr trivial) fun answer possible => ?_
  have shown : Shown target bookingId tenantId answer := possible begun
  rw [tracker_learn_off other]
  cases answer with
  | none => exact .raise rfl
  | some row =>
      change (tracker cfg target call).Along _
        ((if row.businessId ≠ businessId then _ else _) >>= next) _
      by_cases same : row.businessId = businessId
      · rw [if_neg (not_not.mpr same)]
        refine rest row fun pending same => ?_
        exact (shown.row row rfl same).2.2.2 pending
      · rw [if_pos same]
        exact .raise rfl

theorem track_confirmBookingPayment {args : ConfirmBookingPayment}
    (begun : progress.stage = .begun) :
    (tracker cfg target call).Along (fun _ later => later = progress)
      (confirmBookingPayment cfg args) progress := by
  have spares := Stmt.spares_locking target
  have plain := spares.toPlain
  refine track_lockHold other begun fun row hold => ?_
  refine track_spares other ?_
  cases status : row.status with
  | confirmed =>
      refine Program.Only.bind (Issues.select plain _) fun payment => ?_
      cases payment with
      | none => exact Issues.raise _
      | some payment =>
          dsimp only
          split
          · exact Issues.ret _
          · exact Issues.raise _
  | cancelled => exact Issues.raise _
  | pendingPayment =>
      have confirms : Stmt.Spares target (.update (.updateBooking row.id .confirm)) :=
        beq_eq_false_iff_ne.mpr (hold status)
      refine Program.Only.bind (Issues.select plain _) fun found => ?_
      refine Program.Only.bind (Issues.orRaise _ _) fun payment => Issues.guard ?_
      refine Program.Only.bind (Issues.now plain) fun _ => ?_
      refine Program.Only.bind (Program.Only.issue (spares.payment _ _)) fun _ => ?_
      refine Program.Only.bind (Program.Only.issue confirms) fun _ => ?_
      refine Program.Only.bind (Issues.createAuditLog plain _ _ _ _ _) fun _ => ?_
      refine Program.Only.bind (Issues.requireBusiness plain _ _) fun _ => ?_
      refine Program.Only.bind (Issues.requireCustomerInBusiness plain _ _ _) fun _ => ?_
      refine Program.Only.bind (Issues.requireServiceInBusiness plain _ _ _) fun _ => ?_
      refine Program.Only.bind (Issues.enqueueBookingConfirmation plain _ _ _ _ _ _) fun _ => ?_
      refine Program.Only.bind (Issues.enqueueCalendarEvent spares.toEnding _ _ _) fun _ => ?_
      refine Program.Only.bind (Program.Only.issue spares.commit) fun _ => ?_
      refine Program.Only.bind (Issues.refreshBooking plain _) fun _ => ?_
      refine Program.Only.bind (Issues.notify plain _) fun _ => ?_
      exact Program.Only.bind (Issues.enqueueJob (plain.push _ rfl)) fun _ => Issues.ret _

theorem track_expirePendingPaymentHold {args : BookingRef} (begun : progress.stage = .begun) :
    (tracker cfg target call).Along (fun _ later => later = progress)
      (expirePendingPaymentHold args) progress := by
  have spares := Stmt.spares_locking target
  have plain := spares.toPlain
  refine track_bind (track_spares other (Issues.now plain)) fun startedAt => ?_
  refine track_lockHold other begun fun row hold => ?_
  refine track_spares other ?_
  by_cases pending : row.status = .pendingPayment
  · rw [if_neg (not_not.mpr pending)]
    have cancels : Stmt.Spares target
      (.update (.updateBooking row.id (.cancel (some holdExpired)))) :=
      beq_eq_false_iff_ne.mpr (hold pending)
    refine Program.Only.bind (Program.Only.issue cancels) fun _ => ?_
    refine Program.Only.bind (Issues.failLinkedPendingPayment spares.toCharging _ _) fun _ => ?_
    refine Program.Only.bind (Issues.createAuditLog plain _ _ _ _ _) fun _ => ?_
    refine Program.Only.bind (Program.Only.issue (spares.waitlist _)) fun matching => ?_
    refine Program.Only.bind ?_ fun _ => ?_
    · cases matching with
      | nil => exact Issues.ret _
      | cons entry rest =>
          refine Program.Only.bind (Program.Only.issue (spares.entry _ _)) fun _ => ?_
          refine Program.Only.bind (Issues.requireBusiness plain _ _) fun _ => ?_
          refine Program.Only.bind (Issues.requireServiceInBusiness plain _ _ _) fun _ => ?_
          refine Program.Only.bind (Issues.requireCustomerInBusiness plain _ _ _) fun _ => ?_
          exact Program.Only.bind (Issues.enqueueWaitlistOffer plain _ _ _ _ _) fun _ =>
            Issues.ret _
    refine Program.Only.bind (Program.Only.issue spares.commit) fun _ => ?_
    refine Program.Only.bind (Issues.refreshBooking plain _) fun _ => ?_
    exact Program.Only.bind (Issues.notify plain _) fun _ => Issues.ret _
  · rw [if_pos pending]
    exact Issues.raise _

theorem track_expireEach {bookings : List Booking} (begun : progress.stage = .begun) :
    (tracker cfg target call).Along (fun _ later => later = progress) (expireEach bookings)
      progress := by
  have spares := Stmt.spares_locking target
  induction bookings with
  | nil => exact .ret rfl
  | cons booking rest ih =>
      refine track_bind ?_ fun expired => track_bind ih fun others => .ret rfl
      refine .tryCatch ((track_bind (track_expirePendingPaymentHold other begun)
        fun _ => .ret rfl).mono fun result later same => ?_)
      subst same
      cases result with
      | ok value => exact rfl
      | error error =>
          refine track_spares other ?_
          cases error with
          | conflict message =>
              exact Program.Only.bind (Program.Only.issue spares.rollback) fun _ => Issues.ret _
          | _ => exact Issues.raise _

end Others

theorem track_map {program : DbM α} {wrap : α → β}
    (along : (tracker cfg target call).Along (Leaves target call fun _ later =>
      call.on target = true → later.stage.won = true) program progress) :
    (tracker cfg target call).Along (Leaves target call fun _ later =>
      call.on target = true → later.stage.won = true) (wrap <$> program) progress := by
  rw [map_eq_pure_bind]
  refine .bind (along.mono fun result later left => ?_)
  cases result with
  | ok value => exact .ret left
  | error error => exact left

/-- **Every call keeps to its tracker.** -/
theorem track_perform (cfg : Settings) (target : Booking) (call : Call) :
    (tracker cfg target call).Along ((trackWatch cfg target).post call) (perform cfg call)
      ⟨.begun, false⟩ := by
  have spares := Stmt.spares_locking target
  -- Of a call that is not on the booking nothing is asked at its end.
  have nothing : ∀ {γ : Type} {program : DbM γ}, call.on target = false →
      (tracker cfg target call).Along (fun _ later => later = ⟨.begun, false⟩) program
        ⟨.begun, false⟩ →
      (tracker cfg target call).Along (Leaves target call fun _ later =>
        call.on target = true → later.stage.won = true) program ⟨.begun, false⟩ := by
    intro γ program other along
    refine along.mono fun result later _ => ?_
    cases result with
    | ok value =>
        intro mine
        rw [other] at mine
        cases mine
    | error error =>
        intro mine
        rw [other] at mine
        cases mine
  cases call with
  | createBooking args =>
      exact track_map (nothing rfl (track_spares rfl
        (Issues.createBooking spares.toEnding (fun _ _ => rfl) _ _)))
  | createPendingPaymentHold args =>
      exact track_map (nothing rfl (track_spares rfl
        (Issues.createPendingPaymentHold spares.toEnding (fun _ _ => rfl) (fun _ _ => rfl) _)))
  | confirmBookingPayment args =>
      exact track_map (nothing rfl (track_confirmBookingPayment rfl rfl))
  | expirePendingPaymentHold args =>
      exact track_map (nothing rfl (track_expirePendingPaymentHold rfl rfl))
  | expireStalePaymentHolds =>
      refine track_map (nothing rfl ?_)
      refine track_bind (track_spares rfl (Issues.now spares.toPlain)) fun _ => ?_
      exact track_bind (track_spares rfl (Issues.select spares.toPlain _)) fun _ =>
        track_expireEach rfl rfl
  | refundBookingPayment args =>
      exact track_map
        (nothing rfl (track_spares rfl (Issues.refundBookingPayment spares.toCharging _)))
  | cancelBooking args =>
      refine track_map ((track_cancelBooking rfl beq_iff_eq id).mono fun result later left => ?_)
      cases result with
      | error error => exact left
      | ok value =>
          intro mine
          rw [left mine]
          rfl
  | rescheduleBooking args => exact track_map (track_rescheduleBooking rfl beq_iff_eq)
  | createWaitlistEntry args =>
      exact track_map
        (nothing rfl (track_spares rfl (Issues.createWaitlistEntry spares.toCharging _)))
  | expireStaleWaitlistOffers =>
      exact track_map (nothing rfl (track_spares rfl (Issues.expireStaleWaitlistOffers spares _)))
  | work task =>
      exact track_map (nothing rfl (track_spares rfl
        ((Clerical.work cfg task).imp fun _ clerical => clerical.late.spares target)))

end Walks

end Rules

end AppointmentVoice
