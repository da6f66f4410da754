import AppointmentVoice.Services.Discipline

/-!
# Rules for the statements of a session

A proof about a service function follows its text from statement to statement.
At each point it says which writes the session has made so far, what the session
knows about the world (`Knowledge`), and what is true of the statements issued
so far (`Memory`).  There is one rule for each statement, in the form in which
the functions are written: the statement, then the rest.

**The rules.** `select_rule`, `lock_rule`, `insert_rule`, `update_rule`, `commit_rule` and
their like, with `bind_rule` and `tryCatch_rule` for the text around them.
-/

set_option autoImplicit false

namespace AppointmentVoice

open Concurrency World

/-! ## Assertions -/

/-- The statements of a call so far, with their answers. -/
abbrev Log := List (Event Sql)

/-- Statements that neither end a transaction nor push a job, and that neither
find a double booking nor violate a constraint. -/
def Ordinary : Event Sql → Prop
  | ⟨.commit, _⟩ => False
  | ⟨.push _, _⟩ => False
  | ⟨.select (.doubleBooking _ _ _ _ _), answer⟩ => (answer : Option Booking) = none
  | ⟨.insert _, answer⟩ => ∃ id, (answer : Except Constraint Nat) = .ok id
  | _ => True

/-- What a session knows about the world. -/
structure Knowledge (pid : Pid) where
  holds : World Call → Prop
  fact : Fact pid holds

/-- What is true of the statements so far and stays true after ordinary ones. -/
structure Memory where
  holds : Log → Prop
  persists : ∀ {log event}, Ordinary event → holds log → holds (log ++ [event])

/-- The state of a session between two statements, with any condition on the
log. -/
def AtLog (pid : Pid) (writes : List Write) (knows : Knowledge pid) (before : Log → Prop)
    (world : World Call) (log : Log) : Prop :=
  world.writesOf pid = writes ∧ knows.holds world ∧ before log

/-- The state of a session between two statements. -/
abbrev At (pid : Pid) (writes : List Write) (knows : Knowledge pid) (recalls : Memory) :
    World Call → Log → Prop :=
  AtLog pid writes knows recalls.holds

/-- The program keeps the discipline; what it returns meets `ok` and what it
raises meets `err`. -/
structure Spec (cfg : Settings) (law : Db → Prop) (pid : Pid) (owner : Call) {α : Type}
    (pre : World Call → Log → Prop) (program : DbM α) (ok : α → World Call → Log → Prop)
    (err : AppError → Log → Prop) : Prop where
  triple : (bookingDiscipline law).Triple (bookingMachine cfg) pid owner pre program fun
    | .ok value, world, log => ok value world log
    | .error error, _, log => err error log

namespace Knowledge

variable {pid : Pid}

/-- Nothing is known. -/
def nothing (pid : Pid) : Knowledge pid := ⟨fun _ => True, .const True⟩

/-- Both are known. -/
def and (first second : Knowledge pid) : Knowledge pid := ⟨_, first.fact.and second.fact⟩

/-- All of a family is known. -/
def all {ι : Type} (each : ι → Knowledge pid) : Knowledge pid :=
  ⟨_, .all fun index => (each index).fact⟩

/-- Known under a premise. -/
def given (premise : Prop) (knows : Knowledge pid) : Knowledge pid :=
  ⟨fun world => premise → knows.holds world, .imp fun _ => knows.fact⟩

/-- The session holds the lock of the booking, whose row is the one it has read. -/
def held (pid : Pid) (booking : Booking) : Knowledge pid := ⟨_, held_fact booking⟩

/-- The session holds the lock of the waitlist entry, whose row is the one it has read. -/
def heldEntry (pid : Pid) (entry : WaitlistEntry) : Knowledge pid := ⟨_, heldEntry_fact entry⟩

/-- The session holds the lock of the booking, and the payment it has read is due. -/
def heldDue (pid : Pid) (booking : Booking) (payment : BookingPayment) : Knowledge pid :=
  ⟨_, heldDue_fact booking payment⟩

/-- The session holds the lock of the booking, and no payment is due for it. -/
def heldNothingDue (pid : Pid) (booking : Booking) : Knowledge pid :=
  ⟨_, heldNothingDue_fact booking⟩

/-- There is a booking with the key. -/
def known (pid : Pid) (bookingId : Nat) : Knowledge pid := ⟨_, known_fact bookingId⟩

/-- The payment is no longer pending. -/
def settled (pid : Pid) (paymentId : Nat) : Knowledge pid := ⟨_, settled_fact paymentId⟩

end Knowledge

namespace Memory

/-- Nothing is recalled. -/
def nothing : Memory := ⟨fun _ => True, fun _ _ => trivial⟩

/-- The statement has been issued. -/
def saw (event : Event Sql) : Memory :=
  ⟨fun log => event ∈ log, fun _ member => List.mem_append_left _ member⟩

def and (first second : Memory) : Memory :=
  ⟨fun log => first.holds log ∧ second.holds log,
    fun ordinary holds => ⟨first.persists ordinary holds.1, second.persists ordinary holds.2⟩⟩

end Memory

section Rules

variable {cfg : Settings} {law : Db → Prop} {pid : Pid} {owner : Call} {α β : Type}
variable {writes : List Write} {knows : Knowledge pid} {recalls : Memory}
variable {ok : α → World Call → Log → Prop} {err : AppError → Log → Prop}

theorem AtLog.stable {before : Log → Prop} (log : Log) :
    (bookingDiscipline law).Stable (bookingMachine cfg) pid
      (AtLog pid writes knows before · log) := by
  intro _ _ step holds
  refine ⟨?_, knows.fact.stable _ _ step holds.2.1, holds.2.2⟩
  obtain ⟨-, -, ⟨other, different, moves⟩ | ⟨db, clock, outside, -, -, -, rfl⟩⟩ := step
  · rw [moves.own.writes pid (Ne.symm different)]
    exact holds.1
  · exact holds.1

/-! ## Ends -/

theorem ret_rule {value : α} {before : Log → Prop}
    (holds : ∀ world log, world.Consistent → AtLog pid writes knows before world log →
      ok value world log) :
    Spec cfg law pid owner (AtLog pid writes knows before) (.ret value) ok err :=
  ⟨.ret AtLog.stable fun world log inv met => holds world log inv.1 met⟩

theorem raise_rule {error : AppError} {before : Log → Prop}
    (holds : ∀ log, before log → err error log) :
    Spec cfg law pid owner (AtLog pid writes knows before) (.raise error : DbM α) ok err :=
  ⟨.raise AtLog.stable fun _ log _ met => holds log met.2.2⟩

/-- Raising an error whose condition has already been shown. -/
theorem failed_rule {error : AppError} :
    Spec cfg law pid owner (fun _ log => err error log) (.raise error : DbM α) ok err :=
  ⟨.raise (fun _ => .const _) fun _ _ _ met => met⟩

/-! ## Composition -/

theorem bind_rule {pre : World Call → Log → Prop} {program : DbM β} {next : β → DbM α}
    (middle : β → World Call → Log → Prop)
    (first : Spec cfg law pid owner pre program middle err)
    (rest : ∀ value, Spec cfg law pid owner (middle value) (next value) ok err) :
    Spec cfg law pid owner pre (program >>= next) ok err := by
  refine ⟨.bind middle ?_ fun value => (rest value).triple⟩
  refine Discipline.Triple.consequence first.triple (fun _ _ _ met => met) ?_
  intro result world log inv met
  cases result with
  | ok value => exact met
  | error error => exact met

theorem tryCatch_rule {pre : World Call → Log → Prop} {program : DbM α}
    {handler : AppError → DbM α} (caught : AppError → Log → Prop)
    (guarded : Spec cfg law pid owner pre program ok caught)
    (handles : ∀ error, Spec cfg law pid owner (fun _ log => caught error log) (handler error)
      ok err) :
    Spec cfg law pid owner pre (MonadExcept.tryCatch program handler) ok err := by
  refine ⟨.tryCatch (fun error _ log => caught error log) ?_ fun error => (handles error).triple⟩
  refine Discipline.Triple.consequence guarded.triple (fun _ _ _ met => met) ?_
  intro result world log inv met
  cases result with
  | ok value => exact met
  | error error => exact met

theorem weaken_rule {pre strong : World Call → Log → Prop} {program : DbM α}
    {strongOk : α → World Call → Log → Prop} {strongErr : AppError → Log → Prop}
    (spec : Spec cfg law pid owner pre program strongOk strongErr)
    (before : ∀ world log, world.Consistent → strong world log → pre world log)
    (returned : ∀ value world log, strongOk value world log → ok value world log)
    (raised : ∀ error log, strongErr error log → err error log) :
    Spec cfg law pid owner strong program ok err := by
  refine ⟨Discipline.Triple.consequence spec.triple
    (fun world log inv => before world log inv.1) ?_⟩
  intro result world log inv met
  cases result with
  | ok value => exact returned value world log met
  | error error => exact raised error log met

/-! ## Statements without effect on the rows -/

/-- The rule for a statement under any stable condition. -/
theorem step_rule (stmt : Stmt) {next : stmt.Answer → DbM α} {pre : World Call → Log → Prop}
    (stable : ∀ log, (bookingDiscipline law).Stable (bookingMachine cfg) pid (pre · log))
    (middle : stmt.Answer → World Call → Log → Prop)
    (executes : ∀ world log answer after, world.Consistent → law world.db → pre world log →
      execStmt pid owner stmt world = some (answer, after) →
        (after.Consistent ∧ law after.db) ∧ Moves pid world after ∧
          middle answer after (log ++ [⟨stmt, answer⟩]))
    (continues : ∀ answer, Spec cfg law pid owner (middle answer) (next answer) ok err) :
    Spec cfg law pid owner pre (.call (S := Sql) stmt next) ok err :=
  ⟨.call middle stable
    (fun world log answer after inv met executed =>
      executes world log answer after inv.1 inv.2 met executed)
    fun answer => (continues answer).triple⟩

/-- The rule for a statement between two statements of a session. -/
theorem stmt_rule (stmt : Stmt) {next : stmt.Answer → DbM α} {before : Log → Prop}
    (middle : stmt.Answer → World Call → Log → Prop)
    (executes : ∀ world log answer after, world.Consistent → law world.db →
      AtLog pid writes knows before world log →
      execStmt pid owner stmt world = some (answer, after) →
        (after.Consistent ∧ law after.db) ∧ Moves pid world after ∧
          middle answer after (log ++ [⟨stmt, answer⟩]))
    (continues : ∀ answer, Spec cfg law pid owner (middle answer) (next answer) ok err) :
    Spec cfg law pid owner (AtLog pid writes knows before) (.call (S := Sql) stmt next) ok err :=
  step_rule stmt AtLog.stable middle executes continues

theorem AtLog.frame {before after : World Call} {log : Log} {event : Event Sql}
    (met : At pid writes knows recalls before log) (writes' : List Write)
    (own : after.writesOf pid = writes') (db : after.db = before.db)
    (locks : ∀ row, (row, pid) ∈ before.locks → (row, pid) ∈ after.locks)
    (ordinary : Ordinary event) : At pid writes' knows recalls after (log ++ [event]) :=
  ⟨own, knows.fact.frame db locks met.2.1, recalls.persists ordinary met.2.2⟩

/-- Reading rows: what is learned may be kept if it is a fact. -/
theorem select_rule {query : Query} {next : query.Row → DbM α} {before : Log → Prop}
    (learned : query.Row → Knowledge pid) (after : query.Row → Log → Prop)
    (gains : ∀ world : World Call, world.Consistent → knows.holds world →
      (learned (query.eval (world.db.applyAll writes))).holds world)
    (sees : ∀ answer log, before log → after answer (log ++ [⟨.select query, answer⟩]))
    (continues : ∀ answer, Spec cfg law pid owner
      (AtLog pid writes (knows.and (learned answer)) (after answer)) (next answer) ok err) :
    Spec cfg law pid owner (AtLog pid writes knows before) (select query >>= next) ok err := by
  refine stmt_rule (.select query)
    (fun answer => AtLog pid writes (knows.and (learned answer)) (after answer)) ?_ continues
  intro world log answer after consistent lawHolds met executed
  cases executed
  refine ⟨⟨consistent, lawHolds⟩, .quiet (.of_same rfl rfl) rfl rfl, met.1, ⟨met.2.1, ?_⟩,
    sees _ log met.2.2⟩
  have gained := gains world consistent met.2.1
  rw [← met.1] at gained
  exact gained

/-- Reading rows from which nothing has to be kept. -/
theorem glance_rule {query : Query} {next : query.Row → DbM α}
    (ordinary : ∀ answer, Ordinary ⟨.select query, answer⟩)
    (continues : ∀ answer, Spec cfg law pid owner (At pid writes knows recalls) (next answer)
      ok err) :
    Spec cfg law pid owner (At pid writes knows recalls) (select query >>= next) ok err := by
  refine stmt_rule (.select query) (fun _ => At pid writes knows recalls) ?_ continues
  intro world log answer after consistent lawHolds met executed
  cases executed
  exact ⟨⟨consistent, lawHolds⟩, .quiet (.of_same rfl rfl) rfl rfl,
    met.frame writes met.1 rfl (fun _ held => held) (ordinary _)⟩

theorem now_rule {next : Instant → DbM α}
    (continues : ∀ time, Spec cfg law pid owner (At pid writes knows recalls) (next time) ok err) :
    Spec cfg law pid owner (At pid writes knows recalls) (now >>= next) ok err := by
  refine stmt_rule .now (fun _ => At pid writes knows recalls) ?_ continues
  intro world log answer after consistent lawHolds met executed
  cases executed
  exact ⟨⟨consistent, lawHolds⟩, .quiet (.of_same rfl rfl) rfl rfl,
    met.frame writes met.1 rfl (fun _ held => held) trivial⟩

/-- A condition that does not depend on the world or the log. -/
theorem pure_rule {condition : Prop} {pre : World Call → Log → Prop} {program : DbM α}
    (spec : condition → Spec cfg law pid owner pre program ok err) :
    Spec cfg law pid owner (fun world log => condition ∧ pre world log) program ok err :=
  ⟨fun world log inv met => (spec met.1).triple world log inv met.2⟩

/-! ## Locks -/

theorem mem_locks_of_acquire {world : World Call} {key row : RowId}
    (held : (key, pid) ∈ world.locks) : (key, pid) ∈ (world.acquire pid row).locks :=
  mem_locks_acquire.mpr (.inl held)

/-- `SELECT … FOR UPDATE` of a booking in a session without writes. -/
theorem lock_rule {id tenantId : Nat} {next : Option Booking → DbM α} {before : Log → Prop}
    (after : Option Booking → Log → Prop)
    (sees : ∀ answer log, before log →
      after answer (log ++ [⟨.selectBookingForUpdate id tenantId, answer⟩]))
    (missing : Spec cfg law pid owner (AtLog pid [] knows (after none)) (next none) ok err)
    (found : ∀ row : Booking, row.id = id → row.tenantId = tenantId →
      Spec cfg law pid owner (AtLog pid [] (knows.and (.held pid row)) (after (some row)))
        (next (some row)) ok err) :
    Spec cfg law pid owner (AtLog pid [] knows before)
      (selectBookingForUpdate id tenantId >>= next) ok err := by
  refine stmt_rule (.selectBookingForUpdate id tenantId)
    (fun
      | none => AtLog pid [] knows (after none)
      | some row => fun world log => (row.id = id ∧ row.tenantId = tenantId) ∧
          AtLog pid [] (knows.and (.held pid row)) (after (some row)) world log) ?_ ?_
  · intro world log answer later consistent lawHolds met executed
    simp only [execStmt, view_of_writesOf_nil met.1] at executed
    split at executed
    · cases executed
      exact ⟨⟨consistent, lawHolds⟩, .quiet (.of_same rfl rfl) rfl rfl, met.1, met.2.1,
        sees none log met.2.2⟩
    · next row present =>
        split at executed
        · cases executed
        · next free =>
            cases executed
            have matched := List.find?_some present
            simp only [Bool.and_eq_true, beq_iff_eq] at matched
            refine ⟨⟨consistent.acquire (Bool.not_eq_true _ ▸ free), by
                rw [acquire_db]
                exact lawHolds⟩,
              .quiet (.acquire ..) (acquire_db ..) (acquire_journal ..), matched,
              (writesOf_acquire ..).trans met.1,
              ⟨knows.fact.frame (acquire_db ..) (fun _ => mem_locks_of_acquire) met.2.1, ?_⟩,
              sees (some row) log met.2.2⟩
            refine ⟨mem_locks_acquire.mpr (.inr ⟨rfl, rfl⟩), ?_⟩
            rw [acquire_db]
            exact List.mem_of_find?_eq_some present
  · intro answer
    cases answer with
    | none => exact missing
    | some row => exact pure_rule fun matched => found row matched.1 matched.2

/-- `find_matching_waitlist_entries(…, for_update=True)`. -/
theorem waitlist_rule {filter : WaitlistFilter} {next : List WaitlistEntry → DbM α}
    (none : ∀ entry, Write.insertWaitlistEntry entry ∉ writes)
    (nobody : Spec cfg law pid owner (At pid writes knows recalls) (next []) ok err)
    (somebody : ∀ entry, filter.accepts entry = true →
      (∀ change, Write.updateWaitlistEntry entry.id change ∉ writes) →
      Spec cfg law pid owner (At pid writes (knows.and (.heldEntry pid entry)) recalls)
        (next [entry]) ok err) :
    Spec cfg law pid owner (At pid writes knows recalls)
      (selectWaitlistForUpdateSkipLocked filter >>= next) ok err := by
  refine stmt_rule (.selectWaitlistForUpdateSkipLocked filter)
    (fun answer world log =>
      (answer = [] ∧ At pid writes knows recalls world log) ∨
      ∃ entry, answer = [entry] ∧ filter.accepts entry = true ∧
        (∀ change, Write.updateWaitlistEntry entry.id change ∉ writes) ∧
        At pid writes (knows.and (.heldEntry pid entry)) recalls world log) ?_ ?_
  · intro world log answer after consistent lawHolds met executed
    simp only [execStmt] at executed
    split at executed
    · cases executed
      exact ⟨⟨consistent, lawHolds⟩, .quiet (.of_same rfl rfl) rfl rfl, .inl ⟨rfl,
        met.frame writes met.1 rfl (fun _ held => held) trivial⟩⟩
    · next entry first =>
        cases executed
        have present := oldest_mem first
        simp only [List.mem_filter, Bool.and_eq_true, Bool.not_eq_true'] at present
        obtain ⟨there, accepted, free⟩ := present
        have waiting : entry.status = .waiting := by
          simp only [WaitlistFilter.accepts, Bool.and_eq_true, beq_iff_eq] at accepted
          exact accepted.2
        rw [view, met.1] at there
        obtain ⟨committed, untouched⟩ := Db.waiting_untouched none there waiting
        refine ⟨⟨consistent.acquire free, by rw [acquire_db]; exact lawHolds⟩,
          .quiet (.acquire ..) (acquire_db ..) (acquire_journal ..),
          .inr ⟨entry, rfl, accepted, untouched, (writesOf_acquire ..).trans met.1,
            ⟨knows.fact.frame (acquire_db ..) (fun _ => mem_locks_of_acquire) met.2.1, ?_⟩,
            recalls.persists trivial met.2.2⟩⟩
        refine ⟨mem_locks_acquire.mpr (.inr ⟨rfl, rfl⟩), ?_⟩
        rw [acquire_db]
        exact committed
  · refine fun answer => ⟨?_⟩
    rintro world log inv (⟨rfl, met⟩ | ⟨entry, rfl, accepted, untouched, met⟩)
    · exact nobody.triple world log inv met
    · exact (somebody entry accepted untouched).triple world log inv met

/-- The entries that a session holds. -/
def Knowledge.heldEntries (pid : Pid) (entries : List WaitlistEntry) : Knowledge pid :=
  .all fun entry => .given (entry ∈ entries) (.heldEntry pid entry)

/-- `_lock_stale_offered_entries` in a session without writes. -/
theorem staleOffers_rule {threshold : Instant} {next : List WaitlistEntry → DbM α}
    (continues : ∀ entries : List WaitlistEntry, (entries.map (·.id)).Nodup →
      (∀ entry ∈ entries, entry.status = .offered) →
      Spec cfg law pid owner (At pid [] (knows.and (.heldEntries pid entries)) recalls)
        (next entries) ok err) :
    Spec cfg law pid owner (At pid [] knows recalls)
      (selectStaleOffersForUpdateSkipLocked threshold >>= next) ok err := by
  refine stmt_rule (.selectStaleOffersForUpdateSkipLocked threshold)
    (fun (entries : List WaitlistEntry) world log =>
      ((entries.map (·.id)).Nodup ∧ ∀ entry ∈ entries, entry.status = .offered) ∧
        At pid [] (knows.and (.heldEntries pid entries)) recalls world log) ?_
    fun entries => pure_rule fun stale => continues entries stale.1 stale.2
  intro world log answer after consistent lawHolds met executed
  simp only [execStmt, view_of_writesOf_nil met.1] at executed
  cases executed
  generalize unlocked : world.db.waitlistEntries.filter (fun entry =>
    staleOffer threshold entry && !world.lockedByOther pid (.waitlistEntry entry.id)) = entries
  have each : ∀ entry ∈ entries, entry ∈ world.db.waitlistEntries ∧ entry.status = .offered ∧
      world.lockedByOther pid (.waitlistEntry entry.id) = false := by
    intro entry member
    rw [← unlocked] at member
    simp only [List.mem_filter, Bool.and_eq_true, Bool.not_eq_true', staleOffer, beq_iff_eq]
      at member
    exact ⟨member.1, member.2.1.1, member.2.2⟩
  obtain ⟨db, pending, journal, nextId⟩ := acquireAll_fields world pid
    (entries.map fun entry => .waitlistEntry entry.id)
  have free : ∀ row ∈ entries.map fun entry => RowId.waitlistEntry entry.id,
      world.lockedByOther pid row = false := by
    intro row member
    obtain ⟨entry, there, rfl⟩ := List.mem_map.mp member
    exact (each entry there).2.2
  have own : OwnOnly pid world
      (world.acquireAll pid (entries.map fun entry => .waitlistEntry entry.id)) := .acquireAll ..
  refine ⟨⟨consistent.acquireAll free, by rw [db]; exact lawHolds⟩, .quiet own db journal,
    ⟨?_, fun entry member => (each entry member).2.1⟩, ?_, ⟨?_, ?_⟩,
    recalls.persists trivial met.2.2⟩
  · refine (consistent.ids_nodup .waitlistEntries).sublist ?_
    rw [← unlocked]
    exact List.filter_sublist.map _
  · rw [writesOf, pending]
    exact met.1
  · exact knows.fact.frame db (fun _ held => mem_locks_acquireAll.mpr (.inl held)) met.2.1
  · intro entry member
    refine ⟨mem_locks_acquireAll.mpr (.inr ⟨List.mem_map_of_mem member, rfl⟩), ?_⟩
    rw [db]
    exact (each entry member).1

/-! ## Writes -/

/-- Inserting a row: it is added to the writes, or violates a constraint. -/
theorem insert_rule {draft : Nat → Write} {next : Nat → DbM α} (keyed : Keyed draft)
    (admissible : ∀ world, world.Consistent → knows.holds world → world.writesOf pid = writes →
      world.Admissible pid (draft world.nextId))
    (refused : ∀ constraint world log, world.Consistent → law world.db →
      At pid writes knows recalls world log →
      (world.view pid).violated (draft world.nextId) = some constraint →
      err (.integrity constraint) (log ++ [⟨.insert draft, .error constraint⟩]))
    (continues : ∀ id, Spec cfg law pid owner (At pid (writes ++ [draft id]) knows recalls)
      (next id) ok err) :
    Spec cfg law pid owner (At pid writes knows recalls) (insert draft >>= next) ok err := by
  refine stmt_rule (.insert draft)
    (fun
      | .ok id => At pid (writes ++ [draft id]) knows recalls
      | .error constraint => fun _ log => err (.integrity constraint) log) ?_ ?_
  · intro world log answer after consistent lawHolds met executed
    simp only [execStmt] at executed
    split at executed
    · cases executed
    · next granted =>
        split at executed
        · next constraint violated =>
            cases executed
            exact ⟨⟨consistent.advance, lawHolds⟩, .quiet (.of_same rfl rfl) rfl rfl,
              refused constraint world log consistent lawHolds met violated⟩
        · next allowed =>
            cases executed
            have added := consistent.append_insert keyed
              (admissible world consistent met.2.1 met.1) (Bool.not_eq_true _ ▸ granted) allowed
            have own := OwnOnly.append world pid (draft world.nextId)
            refine ⟨⟨added, lawHolds⟩, .quiet ⟨own.writes, own.locks⟩ rfl rfl,
              met.frame _ ?_ rfl (fun _ held => held) ⟨_, rfl⟩⟩
            rw [writesOf_append_self]
            exact congrArg (· ++ _) met.1
  · intro answer
    cases answer with
    | ok id => exact continues id
    | error constraint => exact failed_rule

/-- Inserting a row that no constraint speaks about. -/
theorem plainInsert_rule {draft : Nat → Write} {next : Nat → DbM α} (keyed : Keyed draft)
    (plain : ∀ id, (∃ row, draft id = .insertAudit row) ∨ ∃ row, draft id = .insertOutbox row)
    (continues : ∀ id, Spec cfg law pid owner (At pid (writes ++ [draft id]) knows recalls)
      (next id) ok err) :
    Spec cfg law pid owner (At pid writes knows recalls) (insert draft >>= next) ok err := by
  refine insert_rule keyed ?_ ?_ continues
  · intro world _ _ _
    rcases plain world.nextId with ⟨row, same⟩ | ⟨row, same⟩ <;> rw [same] <;>
      exact ⟨trivial, fun _ => nofun⟩
  · intro constraint world log _ _ _ violated
    rcases plain world.nextId with ⟨row, same⟩ | ⟨row, same⟩ <;> rw [same] at violated <;>
      cases violated

/-- Updating a row: the session waits for its lock and keeps it. -/
theorem update_rule {write : Write} {row : RowId} {next : Unit → DbM α}
    (target : write.target = some row)
    (backed : ∀ world, world.Consistent → knows.holds world → world.Backed pid write)
    (continues : Spec cfg law pid owner (At pid (writes ++ [write]) knows recalls) (next ()) ok
      err) :
    Spec cfg law pid owner (At pid writes knows recalls) (update write >>= next) ok err := by
  refine stmt_rule (.update write) (fun _ => At pid (writes ++ [write]) knows recalls) ?_
    fun _ => continues
  intro world log answer after consistent lawHolds met executed
  simp only [execStmt, target] at executed
  split at executed
  · cases executed
  · next free =>
      cases executed
      have known := knows.fact.frame (acquire_db world pid row)
        (fun _ => mem_locks_of_acquire) met.2.1
      have acquired := consistent.acquire (Bool.not_eq_true _ ▸ free)
      have held : (row, pid) ∈ (world.acquire pid row).locks :=
        mem_locks_acquire.mpr (.inr ⟨rfl, rfl⟩)
      refine ⟨⟨acquired.append_update target held (backed _ acquired known), ?_⟩,
        .quiet ((OwnOnly.acquire ..).trans (.append ..)) (acquire_db ..) (acquire_journal ..),
        met.frame _ ?_ (acquire_db ..) (fun _ => mem_locks_of_acquire) trivial⟩
      · change law (world.acquire pid row).db
        rw [acquire_db]
        exact lawHolds
      · rw [writesOf_append_self, writesOf_acquire, met.1]

/-! ## The end of a transaction -/

/-- Committing: the writes are those of an enabled transaction. -/
theorem commit_rule (lawful : Lawful law) {next : Unit → DbM α} (transaction : Transaction)
    (same : writes = transaction.writes) (knows' : Knowledge pid) (recalls' : Memory)
    (enabled : ∀ world, world.Consistent → knows.holds world → world.writesOf pid = writes →
      transaction.Enabled world.db owner)
    (later : ∀ world, world.Consistent → knows.holds world → world.writesOf pid = writes →
      knows'.holds (world.committed pid owner))
    (sees : ∀ log, recalls.holds log → recalls'.holds (log ++ [⟨.commit, ()⟩]))
    (continues : Spec cfg law pid owner (At pid [] knows' recalls') (next ()) ok err) :
    Spec cfg law pid owner (At pid writes knows recalls) (commit >>= next) ok err := by
  refine stmt_rule .commit (fun _ => At pid [] knows' recalls') ?_ fun _ => continues
  intro world log answer after consistent lawHolds met executed
  cases executed
  have allowed := enabled world consistent met.2.1 met.1
  have view : world.view pid = world.db.applyAll transaction.writes := by
    rw [World.view, met.1, same]
  refine ⟨⟨consistent.committed pid owner, ?_⟩,
    ⟨?_, .inr ⟨owner, transaction, ?_, allowed, view, ?_⟩⟩,
    writesOf_release_self .., later world consistent met.2.1 met.1, sees log met.2.2⟩
  · change law (world.view pid)
    rw [view]
    exact lawful.commit consistent.ids_nodup lawHolds allowed
  · exact ⟨(OwnOnly.release world pid).writes, (OwnOnly.release world pid).locks⟩
  · rw [met.1, same]
  · rw [← same, ← met.1]

/-- Rolling back in the handler of an error. -/
theorem rollback_rule {before : Log → Prop} {next : Unit → DbM α} (recalls' : Memory)
    (sees : ∀ log, before log → recalls'.holds (log ++ [⟨.rollback, ()⟩]))
    (continues : Spec cfg law pid owner (At pid [] (.nothing pid) recalls') (next ()) ok err) :
    Spec cfg law pid owner (fun _ log => before log) (rollback >>= next) ok err := by
  refine step_rule .rollback (fun _ => .const _) (fun _ => At pid [] (.nothing pid) recalls') ?_
    fun _ => continues
  intro world log answer after consistent lawHolds met executed
  cases executed
  exact ⟨⟨consistent.release pid, lawHolds⟩, .quiet (.release ..) rfl rfl, writesOf_release_self ..,
    trivial, sees log met⟩

/-! ## Redis -/

theorem enqueueJob_rule {job : QueuedJob} {next : Unit → DbM α}
    (sees : ∀ log, recalls.holds log → recalls.holds (log ++ [⟨.push job, true⟩]))
    (lost : ∀ log, recalls.holds log → err .redis (log ++ [⟨.push job, false⟩]))
    (continues : Spec cfg law pid owner (At pid writes knows recalls) (next ()) ok err) :
    Spec cfg law pid owner (At pid writes knows recalls) (enqueueJob job >>= next) ok err := by
  refine stmt_rule (.push job)
    (fun
      | true => At pid writes knows recalls
      | false => fun _ log => err .redis log) ?_ ?_
  · intro world log answer after consistent lawHolds met executed
    simp only [execStmt] at executed
    split at executed
    · cases executed
      exact ⟨⟨consistent.congr rfl rfl rfl rfl, lawHolds⟩, .quiet (.of_same rfl rfl) rfl rfl,
        met.1, knows.fact.frame (by rfl) (by exact fun _ held => held) met.2.1,
        sees log met.2.2⟩
    · cases executed
      exact ⟨⟨consistent.congr rfl rfl rfl rfl, lawHolds⟩, .quiet (.of_same rfl rfl) rfl rfl,
        lost log met.2.2⟩
  · intro answer
    cases answer with
    | true => exact continues
    | false => exact failed_rule

theorem enqueueJobs_rule {jobs : List QueuedJob} {next : Unit → DbM α}
    (sees : ∀ job log, recalls.holds log → recalls.holds (log ++ [⟨.push job, true⟩]))
    (lost : ∀ job log, recalls.holds log → err .redis (log ++ [⟨.push job, false⟩]))
    (continues : Spec cfg law pid owner (At pid writes knows recalls) (next ()) ok err) :
    Spec cfg law pid owner (At pid writes knows recalls) (enqueueJobs jobs >>= next) ok err := by
  induction jobs with
  | nil => exact continues
  | cons job jobs ih =>
      rw [enqueueJobs, bind_assoc]
      exact enqueueJob_rule (sees job) (lost job) ih

end Rules

end AppointmentVoice
