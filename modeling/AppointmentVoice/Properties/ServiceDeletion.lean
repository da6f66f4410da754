import AppointmentVoice.Catalog.References
import AppointmentVoice.Concurrency.Paths

/-!
# Deleting a service

`delete_service` looks for one kind of row that refers to the service: a booking that is
not cancelled.  The database looks at all of them.  So a cancelled booking, a line item, a
waitlist entry or a call that names the service, and a row that comes in after the look,
make the `DELETE` fail with an error that nobody handles.  As long as no row refers to the
service when the `DELETE` is executed, a deletion removes the service or is refused with a
domain error and changes nothing, and no row ever refers to a service that is gone.

**The result.** Every request keeps to its monitor (`performCatalog_along`), and deletions are
clean in every such run (`service_deletions_are_clean`); `cancelled_booking_breaks_deletion` is
a deletion that ends in the error of the database.
-/

set_option autoImplicit false

namespace AppointmentVoice.Catalog

open Concurrency

/-! ## How far a deletion is -/

inductive Deletion where
  | reading
  | deleting (serviceId : Nat)
  | deleted (serviceId : Nat)
  | unrelated
  deriving DecidableEq

/-- The deletion has been flushed, and then it has been committed. -/
def Deletion.learn (deletion : Deletion) : Event CatalogSql → Deletion
  | ⟨.select _, _⟩ => deletion
  | ⟨.delete serviceId, refused⟩ =>
      match (refused : Option CatalogConstraint) with
      | none => .deleting serviceId
      | some _ => .unrelated
  | ⟨.commit, _⟩ =>
      match deletion with
      | .deleting serviceId => .deleted serviceId
      | _ => .unrelated
  | _ => .unrelated

/-- The statements of a deletion. -/
def Deletion.must (serviceId : Nat) : Deletion → CatalogStmt → Prop
  | .reading, .select _ => True
  | .reading, .delete id => id = serviceId
  | .deleting _, .commit => True
  | _, _ => False

/-- A `DELETE` is not refused, and a service that is found is the one that was looked for. -/
def accepted : Event CatalogSql → Prop
  | ⟨.delete _, refused⟩ => refused = (none : Option CatalogConstraint)
  | ⟨.select (.service id _), found⟩ => ∀ svc, found = some svc → svc.id = id
  | _ => True

def deletionMonitor (serviceId : Nat) : Monitor CatalogSql Deletion where
  may _ := accepted
  must := Deletion.must serviceId
  learn := Deletion.learn

/-- Nothing is asked of another request. -/
def unrelatedMonitor : Monitor CatalogSql Deletion where
  may _ _ := True
  must _ _ := True
  learn _ _ := .unrelated

/-- A refusal that callers know how to answer. -/
def CatalogError.Refusal (error : CatalogError) : Prop :=
  (∃ message, error = .notFound message) ∨ ∃ message, error = .conflict message

/-- A deletion that returns has been committed; one that raises has only read. -/
def deletionEnds (serviceId : Nat) {α : Type} : Except CatalogError α → Deletion → Prop
  | .ok _, deletion => deletion = .deleted serviceId
  | .error error, deletion => deletion = .reading ∧ error.Refusal

def deletionWatch : Watch CatalogSql CatalogCall CatalogError CatalogResult Deletion where
  monitor
    | .deleteService serviceId _ _ => deletionMonitor serviceId
    | _ => unrelatedMonitor
  initial
    | .deleteService _ _ _ => .reading
    | _ => .unrelated
  post
    | .deleteService serviceId _ _ => deletionEnds serviceId
    | _ => fun _ _ => True

/-! ## The program -/

section Program

variable {serviceId : Nat} {α β : Type}

theorem along_orRaise {error : CatalogError} {value : Option α} {next : α → CatalogM β}
    {state : Deletion} {post : Except CatalogError β → Deletion → Prop}
    (raises : post (.error error) state)
    (rest : ∀ found, value = some found →
      (deletionMonitor serviceId).Along post (next found) state) :
    (deletionMonitor serviceId).Along post (orRaise error value >>= next) state := by
  cases value with
  | none => exact .raise raises
  | some found => exact rest found rfl

/-- **A deletion** reads, deletes the service that it was asked to delete, and commits. -/
theorem along_deleteService (tenantId businessId : Nat) :
    (deletionMonitor serviceId).Along (deletionEnds serviceId)
      (deleteService serviceId tenantId businessId) .reading := by
  unfold deleteService requireServiceInBusiness requireService
  rw [bind_assoc, bind_assoc]
  refine .issue trivial fun answer possible => ?_
  have missing : deletionEnds serviceId (.error (.notFound "Service not found") :
      Except CatalogError Unit) .reading := ⟨rfl, .inl ⟨_, rfl⟩⟩
  refine along_orRaise missing fun svc found => ?_
  have named : svc.id = serviceId := possible svc found
  refine .guard missing fun _ => ?_
  refine .issue trivial fun answer _ => ?_
  have conflict : deletionEnds serviceId (.error confirmedBookings : Except CatalogError Unit)
      .reading := ⟨rfl, .inr ⟨_, rfl⟩⟩
  dsimp only
  split
  · exact .raise conflict
  · rw [named]
    refine .bind (.issue rfl fun refused possible => ?_)
    obtain rfl : refused = (none : Option CatalogConstraint) := possible
    exact .ret (.call trivial fun _ _ => .ret rfl)

/-- **Every request keeps to its monitor.** -/
theorem performCatalog_along (call : CatalogCall) :
    (deletionWatch.monitor call).Along (deletionWatch.post call) (performCatalog call)
      (deletionWatch.initial call) := by
  cases call with
  | deleteService serviceId tenantId businessId =>
      refine .bind ((along_deleteService tenantId businessId).mono fun result state ends => ?_)
      cases result with
      | ok _ => exact .ret ends
      | error error => exact ends
  | _ => exact .of_lax (fun _ _ => trivial) (fun _ _ => trivial) _ _

end Program

/-! ## What the sessions have written -/

/-- A deletion that has only read has written nothing, and one that has been flushed is
there, unless the service is gone already. -/
structure Underway (world : CatalogWorld) (deletions : Pid → Deletion) : Prop where
  reading : ∀ pid, deletions pid = .reading → world.sessions.writesOf pid = []
  deleting : ∀ pid serviceId, deletions pid = .deleting serviceId →
    world.db.hasService serviceId = false ∨
      (pid, .deleteService serviceId) ∈ world.sessions.pending

section Underway

variable {world after : CatalogWorld} {deletions : Pid → Deletion} {pid : Pid} {mine : Deletion}

/-- One session moves, and the others keep their writes. -/
theorem Underway.moves (underway : Underway world deletions)
    (others : ∀ other, other ≠ pid →
      after.sessions.writesOf other = world.sessions.writesOf other)
    (gone : ∀ serviceId, world.db.hasService serviceId = false →
      after.db.hasService serviceId = false)
    (reading : mine = .reading → after.sessions.writesOf pid = [])
    (deleting : ∀ serviceId, mine = .deleting serviceId → after.db.hasService serviceId = false ∨
      (pid, .deleteService serviceId) ∈ after.sessions.pending) :
    Underway after (Function.update deletions pid mine) := by
  refine ⟨fun other stage => ?_, fun other serviceId stage => ?_⟩
  · by_cases same : other = pid
    · subst same
      rw [Function.update_self] at stage
      exact reading stage
    · rw [Function.update_of_ne same] at stage
      exact (others other same).trans (underway.reading other stage)
  · by_cases same : other = pid
    · subst same
      rw [Function.update_self] at stage
      exact deleting serviceId stage
    · rw [Function.update_of_ne same] at stage
      rw [← mem_writesOf, others other same, mem_writesOf]
      exact (underway.deleting other serviceId stage).imp_left (gone serviceId)

/-- A request begins or ends. -/
theorem Underway.release (underway : Underway world deletions) (pid : Pid)
    (rests : ∀ serviceId, mine ≠ .deleting serviceId) :
    Underway (world.release pid) (Function.update deletions pid mine) :=
  underway.moves (fun _ different => Sessions.writesOf_release_of_ne different)
    (fun _ gone => gone) (fun _ => Sessions.writesOf_release_self)
    fun serviceId stage => absurd stage (rests serviceId)

/-- A statement of another request. -/
theorem Underway.unrelated (underway : Underway world deletions) {event : Event CatalogSql}
    (effect : CatalogEffect pid world event after) :
    Underway after (Function.update deletions pid .unrelated) :=
  underway.moves (fun _ different => effect.others different) (fun _ gone => effect.gone gone)
    nofun nofun

/-- **A statement of a deletion** is accounted for. -/
theorem Underway.learns (underway : Underway world deletions) {event : Event CatalogSql}
    (effect : CatalogEffect pid world event after) :
    Underway after (Function.update deletions pid ((deletions pid).learn event)) := by
  refine underway.moves (fun _ different => effect.others different)
    (fun _ gone => effect.gone gone) (fun stage => ?_) fun serviceId stage => ?_
  · cases effect with
    | select query => exact underway.reading pid stage
    | commit => cases before : deletions pid <;> rw [before] at stage <;> cases stage
    | _ => cases stage
  · cases effect with
    | select query => exact underway.deleting pid serviceId stage
    | deleted has unreferenced free =>
        cases stage
        exact .inr (List.mem_append_right _ (List.mem_singleton_self _))
    | absent gone =>
        cases stage
        by_contra neither
        rw [not_or, Bool.not_eq_false] at neither
        exact Bool.eq_false_iff.mp gone ((hasService_view world pid _).mpr neither)
    | commit => cases before : deletions pid <;> rw [before] at stage <;> cases stage
    | _ => cases stage

/-- **A deletion that is committed** has removed the service. -/
theorem Underway.commits (underway : Underway world deletions) {serviceId : Nat}
    (flushed : deletions pid = .deleting serviceId) :
    (world.view pid).hasService serviceId = false := by
  refine Bool.eq_false_iff.mpr fun has => ?_
  obtain ⟨committed, notMine⟩ := (hasService_view world pid serviceId).mp has
  exact (underway.deleting pid serviceId flushed).elim (Bool.eq_false_iff.mp · committed) notMine

/-- What has been deleted after a statement is gone, if it was before. -/
theorem Underway.gone (underway : Underway world deletions) {event : Event CatalogSql}
    (effect : CatalogEffect pid world event after) {serviceId : Nat}
    (known : deletions pid = .deleted serviceId → world.db.hasService serviceId = false)
    (deleted : (deletions pid).learn event = .deleted serviceId) :
    after.db.hasService serviceId = false := by
  cases effect with
  | select query => exact known deleted
  | commit =>
      cases before : deletions pid with
      | deleting flushed =>
          rw [before] at deleted
          cases deleted
          exact underway.commits before
      | _ =>
          rw [before] at deleted
          cases deleted
  | _ => cases deleted

end Underway

/-- What the deletions that run have come to. -/
def CatalogConfig.deletions (config : CatalogConfig) : Pid → Deletion :=
  config.stages deletionWatch .unrelated

theorem Underway.step {before after : CatalogConfig} {action : Action CatalogCall}
    (underway : Underway before.world before.deletions) (watched : before.Watched deletionWatch)
    (taken : Step catalogMachine before action after) :
    Underway after.world after.deletions := by
  cases watched.staged taken .unrelated with
  | @start pid call idle world stages =>
      have deletions : after.deletions = _ := stages
      rw [world, deletions]
      refine underway.release pid fun serviceId => ?_
      cases call <;> nofun
  | @issue pid call stmt next log answer running allowed executed stages =>
      have deletions : after.deletions = _ := stages
      have effect := execCatalog_effect executed
      rw [deletions]
      cases call with
      | deleteService serviceId tenantId businessId => exact underway.learns effect
      | _ => exact underway.unrelated effect
  | @finish pid call result met world stages =>
      have deletions : after.deletions = _ := stages
      rw [world, deletions]
      exact underway.release pid nofun
  | @stop pid world stages =>
      have deletions : after.deletions = _ := stages
      rw [world, deletions]
      exact underway.release pid nofun
  | ambient changed stages =>
      have deletions : after.deletions = before.deletions := stages
      obtain ⟨clock, -, world⟩ := changed
      rw [world, deletions]
      exact ⟨underway.reading, underway.deleting⟩

/-- What has been deleted is gone. -/
def DeletedIsGone (world : CatalogWorld) (call : CatalogCall) (log : List (Event CatalogSql)) :
    Prop :=
  ∀ serviceId, deletionWatch.state call log = .deleted serviceId →
    world.db.hasService serviceId = false

theorem deletedIsGone_step {before after : CatalogConfig} {action : Action CatalogCall}
    (underway : Underway before.world before.deletions) (every : before.Every DeletedIsGone)
    (taken : Step catalogMachine before action after) : after.Every DeletedIsGone := by
  refine every.step taken ?_ ?_ ?_
  · intro call log known serviceId deleted
    exact gone_of_step taken (known serviceId deleted)
  · intro pid call started serviceId deleted
    cases call <;> cases deleted
  · intro pid call stmt next log answer issued running executed known serviceId deleted
    have here : before.deletions pid = _ := Config.stages_running running
    rw [Watch.state_snoc, ← here] at deleted
    cases call with
    | deleteService id tenantId businessId =>
        exact underway.gone (execCatalog_effect executed)
          (fun same => known serviceId (here ▸ same))
          deleted
    | _ => cases deleted

/-! ## The theorem -/

/-- The step executes no `DELETE` while a row refers to the service. -/
def deletesUnreferenced (config : CatalogConfig) : Action CatalogCall → Bool
  | .issue pid =>
      match config.running pid with
      | some ⟨_, .call (.delete serviceId) _, _⟩ => !config.world.db.refers serviceId
      | _ => true
  | _ => true

/-- A `DELETE` comes from a request that has only read. -/
theorem reading_of_delete {serviceId id tenantId businessId : Nat} {log : List (Event CatalogSql)}
    (allowed : (deletionMonitor id).must
      (deletionWatch.state (.deleteService id tenantId businessId) log) (.delete serviceId)) :
    deletionWatch.state (.deleteService id tenantId businessId) log = .reading := by
  change Deletion.must id _ _ at allowed
  cases stage : deletionWatch.state (.deleteService id tenantId businessId) log with
  | reading => rfl
  | _ =>
      rw [stage] at allowed
      exact allowed.elim

/-- The answers are possible: a service is found by its number, and a `DELETE` of a service
to which no row refers goes through. -/
theorem accepted_of_step {config : CatalogConfig} {pid : Pid} {call : CatalogCall}
    {stmt : CatalogStmt} {next : stmt.Answer → CatalogM CatalogResult}
    {log : List (Event CatalogSql)} {answer : stmt.Answer} {world : CatalogWorld}
    (underway : Underway config.world config.deletions) (watched : config.Watched deletionWatch)
    (alone : deletesUnreferenced config (.issue pid) = true)
    (running : config.running pid = some ⟨call, .call stmt next, log⟩)
    (executed : execCatalog pid stmt config.world = some (answer, world)) :
    (deletionWatch.monitor call).may (deletionWatch.state call log) ⟨stmt, answer⟩ := by
  have here : config.deletions pid = _ := Config.stages_running running
  have along := watched.running pid _ running
  cases call with
  | deleteService id tenantId businessId =>
      cases execCatalog_effect executed with
      | select query =>
          cases query with
          | service serviceId tenantId =>
              intro svc found
              have fits := List.find?_some (p := _) found
              rw [Bool.and_eq_true, beq_iff_eq] at fits
              exact fits.1
          | _ => exact trivial
      | @held serviceId referenced =>
          cases along with
          | call allowed rest =>
              -- The process has only read, so that it sees the committed rows.
              have reads : config.deletions pid = .reading := by
                rw [here]
                exact reading_of_delete allowed
              have nothing := underway.reading pid reads
              have unreferenced : (!config.world.db.refers serviceId) = true := by
                rw [deletesUnreferenced, running] at alone
                exact alone
              rw [CatalogWorld.view, Sessions.view_of_nil nothing] at referenced
              rw [Bool.not_eq_true'] at unreferenced
              exact absurd referenced (Bool.eq_false_iff.mp unreferenced)
      | deleted has unreferenced free => exact rfl
      | absent gone => exact rfl
      | _ => exact trivial
  | _ => exact trivial

/-- A deletion that has returned has removed the service, and no row of any of the tables
refers to it; one that has raised has raised a domain error and has changed nothing. -/
structure DeletionsAreClean (config : CatalogConfig) : Prop where
  removed : ∀ outcome ∈ config.finished, ∀ serviceId tenantId businessId result,
    outcome.call = .deleteService serviceId tenantId businessId → outcome.result = .ok result →
      config.world.db.hasService serviceId = false ∧ config.world.db.refers serviceId = false
  refused : ∀ outcome ∈ config.finished, ∀ serviceId tenantId businessId error,
    outcome.call = .deleteService serviceId tenantId businessId → outcome.result = .error error →
      error.Refusal ∧ ∀ event ∈ outcome.log, ChangesNothing event.1

/-- Only a statement that changes nothing leaves a deletion where it only reads. -/
theorem reading_of_learn {deletion : Deletion} {event : Event CatalogSql}
    (reading : deletion.learn event = .reading) :
    deletion = .reading ∧ ChangesNothing event.1 := by
  obtain ⟨stmt, answer⟩ := event
  cases stmt with
  | select query => exact ⟨reading, fun _ _ => rfl⟩
  | delete serviceId =>
      cases refused : (answer : Option CatalogConstraint) with
      | none =>
          rw [refused] at reading
          cases reading
      | some constraint =>
          rw [refused] at reading
          cases reading
  | commit => cases deletion <;> cases reading
  | _ => cases reading

/-- A deletion that has only read has changed nothing. -/
theorem changesNothing_of_reading {id tenantId businessId : Nat} {log : List (Event CatalogSql)}
    (reading : deletionWatch.state (.deleteService id tenantId businessId) log = .reading) :
    ∀ event ∈ log, ChangesNothing event.1 := by
  induction log using List.reverseRecOn with
  | nil => exact fun _ member => nomatch member
  | append_singleton log event ih =>
      rw [Watch.state_snoc] at reading
      obtain ⟨before, harmless⟩ := reading_of_learn reading
      intro other member
      rcases List.mem_append.mp member with old | new
      · exact ih before other old
      · rw [List.mem_singleton.mp new]
        exact harmless

/-- **Deletions are clean** in every run in which no row refers to a service when its `DELETE`
is executed. -/
theorem service_deletions_are_clean {db : CatalogDb} {nextId : Nat} {clock : Instant}
    (stored : ∀ serviceId, db.refers serviceId = true → db.hasService serviceId = true)
    {config : CatalogConfig}
    (runs : Runs catalogMachine (fun config action => deletesUnreferenced config action = true)
      (.initial (.start db nextId clock)) config) : DeletionsAreClean config := by
  suffices kept : Referential config.world ∧ config.Watched deletionWatch ∧
      Underway config.world config.deletions ∧ config.Every DeletedIsGone by
    obtain ⟨sound, watched, -, every⟩ := kept
    constructor
    · rintro ⟨call, outcome, log⟩ member serviceId tenantId businessId result rfl rfl
      have gone := every.finished _ member serviceId (watched.finished _ member)
      exact ⟨gone, Bool.eq_false_iff.mpr fun refers =>
        Bool.eq_false_iff.mp gone (sound.stored serviceId refers)⟩
    · rintro ⟨call, outcome, log⟩ member serviceId tenantId businessId error rfl rfl
      obtain ⟨reading, refusal⟩ := watched.finished _ member
      exact ⟨refusal, changesNothing_of_reading reading⟩
  induction runs with
  | refl => exact ⟨.start stored, .initial _ _, ⟨fun _ _ => rfl, nofun⟩, .initial _⟩
  | tail _ last ih =>
      obtain ⟨action, alone, taken⟩ := last
      obtain ⟨sound, watched, underway, every⟩ := ih
      refine ⟨sound.step taken, watched.step taken performCatalog_along ?_,
        underway.step watched taken, deletedIsGone_step underway every taken⟩
      rintro pid call stmt next log answer world rfl running executed
      exact accepted_of_step underway watched alone running executed

/-! ## Two runs -/

/-- Two services, and a booking of the first one. -/
def oneBooked (status : BookingStatus) : CatalogDb where
  businesses := []
  customers := []
  staff := []
  services := [offered 1, offered 2]
  bookings := [⟨10, 1, 1, 5, 1, none, 0, 1800000000, status, .api, none, 0⟩]
  bookingLineItems := []
  waitlistEntries := []
  voiceSessions := []

theorem oneBooked_stored (status : BookingStatus) (serviceId : Nat)
    (refers : (oneBooked status).refers serviceId = true) :
    (oneBooked status).hasService serviceId = true := by
  have first : (1 == serviceId) = true := by
    change (1 == serviceId || false || false || false || false) = true at refers
    simpa only [Bool.or_false] using refers
  rw [← beq_iff_eq.mp first]
  rfl

/-- A deletion that runs from its first statement to its result. -/
def deletionOf (serviceId statements : Nat) : List (Action CatalogCall) :=
  .start 0 (.deleteService serviceId 1 1) :: List.replicate statements (.issue 0) ++ [.finish 0]

/-- What a deletion has raised. -/
def raised (outcome : Outcome CatalogSql CatalogCall CatalogError CatalogResult) :
    Option (Nat × CatalogError) :=
  match outcome.call, outcome.result with
  | .deleteService serviceId _ _, .error error => some (serviceId, error)
  | _, _ => none

theorem of_raised {outcome : Outcome CatalogSql CatalogCall CatalogError CatalogResult}
    {serviceId : Nat} {error : CatalogError} (raises : raised outcome = some (serviceId, error)) :
    ∃ tenantId businessId, outcome.call = .deleteService serviceId tenantId businessId ∧
      outcome.result = .error error := by
  unfold raised at raises
  split at raises
  · next call result =>
      cases raises
      exact ⟨_, _, call, result⟩
  · cases raises

/-- The service that is booked stays, and the other one goes. -/
def bothDeletions : List (Action CatalogCall) := deletionOf 1 2 ++ deletionOf 2 4

theorem bothDeletions_possible : ((Config.initial (.start (oneBooked .confirmed) 11 0)).runActions
    catalogMachine bothDeletions).isSome = true := by
  decide +kernel

theorem booked_service_stays : ∃ config : CatalogConfig,
    Runs catalogMachine (fun config action => deletesUnreferenced config action = true)
        (.initial (.start (oneBooked .confirmed) 11 0)) config ∧
      config.finished.map raised = [some (1, confirmedBookings), none] ∧
      config.world.db.services.map (·.id) = [1] ∧ DeletionsAreClean config := by
  have guarded : (Config.initial (.start (oneBooked .confirmed) 11 0)).passes catalogMachine
      deletesUnreferenced bothDeletions = true := by decide +kernel
  have runs := Runs.of_guarded (fun _ _ passes => passes) bothDeletions guarded
    (Option.some_get bothDeletions_possible).symm
  exact ⟨_, runs, by decide +kernel, by decide +kernel,
    service_deletions_are_clean (oneBooked_stored .confirmed) runs⟩

theorem cancelledDeletion_possible :
    ((Config.initial (.start (oneBooked .cancelled) 11 0)).runActions
    catalogMachine (deletionOf 1 3)).isSome = true := by
  decide +kernel

/-- A cancelled booking is enough for the database to refuse the deletion. -/
theorem cancelled_booking_breaks_deletion : ∃ config : CatalogConfig,
    Runs catalogMachine (fun _ _ => True) (.initial (.start (oneBooked .cancelled) 11 0)) config ∧
      config.finished.map raised = [some (1, .integrity .foreignKey)] ∧
      ¬DeletionsAreClean config := by
  have runs := Runs.of_runActions (deletionOf 1 3) (Option.some_get cancelledDeletion_possible).symm
  have ends : ((((Config.initial (.start (oneBooked .cancelled) 11 0)).runActions catalogMachine
      (deletionOf 1 3)).get cancelledDeletion_possible).finished.map raised) =
        [some (1, .integrity .foreignKey)] := by decide +kernel
  refine ⟨_, runs, ends, fun clean => ?_⟩
  obtain ⟨outcome, member, raises⟩ := List.mem_map.mp
    (ends ▸ List.mem_singleton_self (some (1, CatalogError.integrity .foreignKey)))
  obtain ⟨tenantId, businessId, call, result⟩ := of_raised raises
  obtain ⟨⟨_, same⟩ | ⟨_, same⟩, -⟩ :=
    clean.refused outcome member 1 tenantId businessId _ call result
  · cases same
  · cases same

end AppointmentVoice.Catalog
