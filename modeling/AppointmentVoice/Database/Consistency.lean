import AppointmentVoice.Database.Rows

/-!
# The consistency of a world

What holds of the committed rows, the uncommitted writes and the locks of all
sessions together at every moment: a row is locked by one session at most and
updated only by the session that holds its lock, primary keys are unique over
all sessions and come before the next value of the sequence, no two rows of any
sessions violate the exclusion constraint, and every uncommitted row refers to
rows that will be there when it is committed.

Each way in which a statement can change the world is shown to keep this.  What
a statement has to bring along is said by `Write.Admissible`.

**The rules.** `Consistent.append_insert` and `Consistent.append_update` for a write,
`Consistent.acquire` for a lock, `Consistent.release` and `Consistent.committed` for the end of
a transaction.
-/

set_option autoImplicit false

namespace AppointmentVoice

open Concurrency

variable {Call : Type}

/-! ## The invariant -/

/-- The keys of a table over the committed rows and the inserts of all
sessions. -/
def Table.all (table : Table) (world : World Call) : List Nat :=
  table.ids world.db ++ world.pending.filterMap fun entry => table.inserted entry.2

namespace World

/-- A booking that is committed or inserted by an open session. -/
def Standing (world : World Call) (row : Booking) : Prop :=
  row ∈ world.db.bookings ∨ ∃ pid, Write.insertBooking row ∈ world.writesOf pid

/-- A booking that is committed, or inserted by the session itself. -/
def Referable (world : World Call) (pid : Pid) (bookingId : Nat) : Prop :=
  bookingId ∈ Table.bookings.ids world.db ∨
    ∃ row, Write.insertBooking row ∈ world.writesOf pid ∧ row.id = bookingId

/-- What an uncommitted write rests on. -/
def Backed (world : World Call) (pid : Pid) : Write → Prop
  | .insertPayment row => world.Referable pid row.bookingId
  | .insertCalendarEvent row => world.Referable pid row.bookingId
  | .updateBooking id .confirm =>
      ∃ row ∈ world.db.bookings, row.id = id ∧ row.status = .pendingPayment
  | _ => True

/-- What the database keeps up: a row has one lock holder, whoever changes a row holds its lock,
keys are unique and taken from the sequence, and active bookings of a member of staff do not
overlap. -/
structure Consistent (world : World Call) : Prop where
  exclusive : ∀ {row first second}, (row, first) ∈ world.locks → (row, second) ∈ world.locks →
    first = second
  locked : ∀ {pid write row}, write ∈ world.writesOf pid → write.target = some row →
    (row, pid) ∈ world.locks
  keys : ∀ table : Table, (table.all world).Nodup
  below : ∀ table : Table, ∀ id ∈ table.all world, id < world.nextId
  exclusion : ∀ {first second}, world.Standing first → world.Standing second →
    first.id ≠ second.id → excludes first second = false
  payments : ∀ payment ∈ world.db.bookingPayments,
    payment.bookingId ∈ Table.bookings.ids world.db
  events : ∀ event ∈ world.db.calendarEvents, event.bookingId ∈ Table.bookings.ids world.db
  backed : ∀ {pid write}, write ∈ world.writesOf pid → world.Backed pid write

/-- What a statement has to bring along for the write it adds. -/
def Admissible (world : World Call) (pid : Pid) (write : Write) : Prop :=
  world.Backed pid write ∧ ∀ row, write = .insertBooking row → world.writesOf pid = []

/-! ## What follows from it -/

namespace Consistent

variable {world : World Call}

theorem ids_nodup (consistent : world.Consistent) (table : Table) :
    (table.ids world.db).Nodup :=
  List.Nodup.of_append_left (consistent.keys table)

/-- A key inserted by an open session is not committed. -/
theorem inserted_fresh (consistent : world.Consistent) {table : Table} {pid : Pid} {write : Write}
    {id : Nat} (member : write ∈ world.writesOf pid) (key : table.inserted write = some id) :
    id ∉ table.ids world.db := by
  intro committed
  refine (List.disjoint_of_nodup_append (consistent.keys table)) committed ?_
  exact List.mem_filterMap.mpr ⟨(pid, write), mem_pending_iff.mpr member, key⟩

theorem booking_unique (consistent : world.Consistent) {first second : Booking}
    (one : first ∈ world.db.bookings) (two : second ∈ world.db.bookings)
    (same : first.id = second.id) : first = second :=
  List.inj_on_of_nodup_map (consistent.ids_nodup .bookings) one two same

theorem payment_unique (consistent : world.Consistent) {first second : BookingPayment}
    (one : first ∈ world.db.bookingPayments) (two : second ∈ world.db.bookingPayments)
    (same : first.id = second.id) : first = second :=
  List.inj_on_of_nodup_map (consistent.ids_nodup .bookingPayments) one two same

theorem entry_unique (consistent : world.Consistent) {first second : WaitlistEntry}
    (one : first ∈ world.db.waitlistEntries) (two : second ∈ world.db.waitlistEntries)
    (same : first.id = second.id) : first = second :=
  List.inj_on_of_nodup_map (consistent.ids_nodup .waitlistEntries) one two same

/-- Another session's writes leave a row alone whose lock a session holds. -/
theorem untouched (consistent : world.Consistent) {pid other : Pid} (different : other ≠ pid)
    {row : RowId} (held : (row, pid) ∈ world.locks) {write : Write}
    (target : write.target = some row) : write ∉ world.writesOf other :=
  fun member => different (consistent.exclusive (consistent.locked member target) held)

/-- A standing booking with the key of a committed one is that one. -/
theorem standing_committed (consistent : world.Consistent) {first second : Booking}
    (one : world.Standing first) (two : second ∈ world.db.bookings)
    (same : first.id = second.id) : first = second := by
  rcases one with committed | ⟨pid, inserted⟩
  · exact consistent.booking_unique committed two same
  · have committed : second.id ∈ Table.bookings.ids world.db := List.mem_map_of_mem two
    rw [← same] at committed
    exact absurd committed (consistent.inserted_fresh inserted rfl)

end Consistent

/-! ## Steps that write nothing -/

/-- Only the tables, the writes, the locks and the sequence matter. -/
theorem Consistent.congr {before after : World Call} (consistent : before.Consistent)
    (db : after.db = before.db) (pending : after.pending = before.pending)
    (locks : after.locks = before.locks) (nextId : after.nextId = before.nextId) :
    after.Consistent := by
  obtain ⟨afterDb, afterPending, afterLocks, afterNextId, clock, jobs, pushes, takes, journal,
    outside⟩ := after
  simp only at db pending locks nextId
  subst db pending locks nextId
  exact ⟨consistent.exclusive, consistent.locked, consistent.keys, consistent.below,
    consistent.exclusion, consistent.payments, consistent.events, consistent.backed⟩

/-- The tables that a change of the catalogue leaves alone. -/
structure SameLedger (before after : Db) : Prop where
  bookings : after.bookings = before.bookings
  bookingPayments : after.bookingPayments = before.bookingPayments
  auditLogs : after.auditLogs = before.auditLogs
  notificationOutbox : after.notificationOutbox = before.notificationOutbox
  calendarEvents : after.calendarEvents = before.calendarEvents
  waitlistEntries : after.waitlistEntries = before.waitlistEntries

theorem SameLedger.ids {before after : Db} (same : SameLedger before after) (table : Table) :
    table.ids after = table.ids before := by
  cases table
  · rw [Table.ids, Table.ids, same.bookings]
  · rw [Table.ids, Table.ids, same.bookingPayments]
  · rw [Table.ids, Table.ids, same.waitlistEntries]
  · rw [Table.ids, Table.ids, same.notificationOutbox]
  · rw [Table.ids, Table.ids, same.calendarEvents]

theorem Consistent.catalogue {world : World Call} (consistent : world.Consistent) {db : Db}
    {clock : Instant} {outside : Outside} (same : SameLedger world.db db) :
    ({ world with db, clock, outside } : World Call).Consistent where
  exclusive := consistent.exclusive
  locked := consistent.locked
  keys := fun table => by
    have unchanged := consistent.keys table
    unfold Table.all at unchanged ⊢
    rw [same.ids]
    exact unchanged
  below := fun table id member => by
    refine consistent.below table id ?_
    unfold Table.all at member ⊢
    rw [same.ids] at member
    exact member
  exclusion := fun one two => by
    unfold Standing at one two
    rw [same.bookings] at one two
    exact consistent.exclusion one two
  payments := fun payment member => by
    rw [same.bookingPayments] at member
    rw [same.ids]
    exact consistent.payments payment member
  events := fun event member => by
    rw [same.calendarEvents] at member
    rw [same.ids]
    exact consistent.events event member
  backed := fun {pid write} member => by
    have backed : world.Backed pid write := consistent.backed member
    cases write with
    | updateBooking id change =>
        cases change with
        | confirm =>
            obtain ⟨row, there, found⟩ := backed
            exact ⟨row, same.bookings ▸ there, found⟩
        | cancel reason => trivial
    | insertPayment row =>
        refine backed.imp_left fun known => ?_
        rw [same.ids]
        exact known
    | insertCalendarEvent row =>
        refine backed.imp_left fun known => ?_
        rw [same.ids]
        exact known
    | _ => trivial

/-! ## Locks -/

theorem Consistent.acquire {world : World Call} (consistent : world.Consistent) {pid : Pid}
    {row : RowId} (free : world.lockedByOther pid row = false) :
    (world.acquire pid row).Consistent := by
  have nobody : ∀ other, (row, other) ∈ world.locks → other = pid := by
    intro other member
    by_contra different
    have locked := lockedByOther_iff.mpr ⟨other, different, member⟩
    rw [free] at locked
    cases locked
  have same : ∀ other, (world.acquire pid row).writesOf other = world.writesOf other :=
    fun other => writesOf_acquire world pid other row
  refine
    { exclusive := ?_
      locked := fun member target => mem_locks_acquire.mpr (.inl ?_)
      keys := fun table => by simpa [Table.all] using consistent.keys table
      below := fun table id member => ?_
      exclusion := fun one two => ?_
      payments := by simpa using consistent.payments
      events := by simpa using consistent.events
      backed := fun {owner write} member => ?_ }
  · intro key first second one two
    rcases mem_locks_acquire.mp one with old | ⟨rfl, rfl⟩
    · rcases mem_locks_acquire.mp two with two | ⟨rfl, rfl⟩
      · exact consistent.exclusive old two
      · exact nobody first old
    · rcases mem_locks_acquire.mp two with two | ⟨-, rfl⟩
      · exact (nobody second two).symm
      · rfl
  · rw [same] at member
    exact consistent.locked member target
  · rw [acquire_nextId]
    exact consistent.below table id (by simpa [Table.all] using member)
  · simp only [Standing, acquire_db, same] at one two
    exact consistent.exclusion one two
  · rw [same] at member
    have backed := consistent.backed member
    cases write with
    | updateBooking id change => cases change <;> simp_all [Backed]
    | insertPayment row => simpa [Backed, Referable, same] using backed
    | insertCalendarEvent row => simpa [Backed, Referable, same] using backed
    | _ => trivial

theorem Consistent.acquireAll {world : World Call} (consistent : world.Consistent) {pid : Pid}
    {rows : List RowId} (free : ∀ row ∈ rows, world.lockedByOther pid row = false) :
    (world.acquireAll pid rows).Consistent := by
  induction rows generalizing world with
  | nil => exact consistent
  | cons row rows ih =>
      refine ih (consistent.acquire (free row List.mem_cons_self)) fun other member => ?_
      have freeBefore := free other (List.mem_cons_of_mem _ member)
      rw [← Bool.not_eq_true, lockedByOther_iff] at freeBefore ⊢
      rintro ⟨owner, different, locked⟩
      rcases mem_locks_acquire.mp locked with old | ⟨-, same⟩
      · exact freeBefore ⟨owner, different, old⟩
      · exact different same

/-! ## Writes -/

theorem mem_writesOf_append {world : World Call} {pid other : Pid} {added write : Write} :
    write ∈ (world.append pid added).writesOf other ↔
      write ∈ world.writesOf other ∨ (other = pid ∧ write = added) := by
  by_cases same : other = pid
  · subst same
    simp
  · rw [writesOf_append_of_ne world same]
    simp [same]

theorem Backed.append {world : World Call} {pid other : Pid} {added write : Write}
    (backed : world.Backed other write) : (world.append pid added).Backed other write := by
  have grows : ∀ {bookingId}, world.Referable other bookingId →
      (world.append pid added).Referable other bookingId := by
    rintro bookingId (known | ⟨row, inserted, same⟩)
    · exact .inl known
    · exact .inr ⟨row, mem_writesOf_append.mpr (.inl inserted), same⟩
  cases write with
  | updateBooking id change => cases change <;> exact backed
  | insertPayment row => exact grows backed
  | insertCalendarEvent row => exact grows backed
  | _ => trivial

/-- Adding an update of a row whose lock is held. -/
theorem Consistent.append_update {world : World Call} (consistent : world.Consistent) {pid : Pid}
    {write : Write} {row : RowId} (target : write.target = some row)
    (held : (row, pid) ∈ world.locks) (backed : world.Backed pid write) :
    (world.append pid write).Consistent := by
  have nothing : ∀ table : Table, table.inserted write = none := by
    intro table
    cases write <;> cases table <;> first | rfl | cases target
  have notInsert : ∀ booking, write ≠ .insertBooking booking := by
    rintro booking rfl
    cases target
  have sameKeys : ∀ table : Table, table.all (world.append pid write) = table.all world := by
    intro table
    simp [Table.all, append, List.filterMap_append, nothing]
  have standing : ∀ {booking}, (world.append pid write).Standing booking →
      world.Standing booking := by
    rintro booking (committed | ⟨owner, inserted⟩)
    · exact .inl committed
    · rcases mem_writesOf_append.mp inserted with old | ⟨-, same⟩
      · exact .inr ⟨owner, old⟩
      · exact absurd same.symm (notInsert booking)
  refine
    { exclusive := consistent.exclusive
      locked := ?_
      keys := fun table => by
        rw [sameKeys]
        exact consistent.keys table
      below := fun table id member => consistent.below table id (sameKeys table ▸ member)
      exclusion := fun one two => consistent.exclusion (standing one) (standing two)
      payments := consistent.payments
      events := consistent.events
      backed := ?_ }
  · intro owner other key member named
    rcases mem_writesOf_append.mp member with old | ⟨rfl, rfl⟩
    · exact consistent.locked old named
    · rw [target] at named
      cases named
      exact held
  · intro owner other member
    rcases mem_writesOf_append.mp member with old | ⟨rfl, rfl⟩
    · exact (consistent.backed old).append
    · exact backed.append

/-- A draft that takes its key from the sequence and updates nothing. -/
structure Keyed (draft : Nat → Write) : Prop where
  key : ∀ (table : Table) (id : Nat), table.inserted (draft id) = none ∨
    table.inserted (draft id) = some id
  target : ∀ id, (draft id).target = none

/-- Drawing a key from the sequence. -/
theorem Consistent.advance {world : World Call} (consistent : world.Consistent) :
    ({ world with nextId := world.nextId + 1 } : World Call).Consistent where
  exclusive := consistent.exclusive
  locked := consistent.locked
  keys := consistent.keys
  below := fun table id member =>
    Nat.lt_succ_of_lt (consistent.below table id member)
  exclusion := consistent.exclusion
  payments := consistent.payments
  events := consistent.events
  backed := consistent.backed

/-- Nothing that an insert must not stand beside is standing. -/
theorem not_excludes_of_granted {world : World Call} {pid : Pid} {row other : Booking}
    (noWrites : world.writesOf pid = [])
    (granted : world.mustWait pid (.insertBooking row) = false)
    (allowed : (world.view pid).violated (.insertBooking row) = none)
    (standing : world.Standing other) : excludes row other = false := by
  rcases standing with committed | ⟨owner, inserted⟩
  · rw [view_of_writesOf_nil noWrites] at allowed
    simp only [Db.violated] at allowed
    split at allowed
    · cases allowed
    · next nobody =>
        rw [Bool.not_eq_true, List.any_eq_false] at nobody
        simpa using nobody other committed
  · by_cases own : owner = pid
    · subst own
      rw [noWrites] at inserted
      cases inserted
    · rw [mustWait, List.any_eq_false] at granted
      have apart := granted (owner, .insertBooking other) (mem_pending_iff.mpr inserted)
      simp only [Write.clash, Bool.and_eq_true, bne_iff_ne, ne_eq, own, not_false_eq_true,
        true_and, Bool.or_false, Bool.not_eq_true] at apart
      by_contra clash
      rw [Bool.not_eq_false] at clash
      simp [clash] at apart

theorem excludes_symm {first second : Booking} (clash : excludes first second = true) :
    excludes second first = true := by
  simp only [excludes, Bool.and_eq_true, beq_iff_eq] at clash ⊢
  obtain ⟨⟨⟨⟨⟨⟨⟨one, two⟩, staff⟩, equal⟩, proper⟩, properOther⟩, before⟩, after⟩ := clash
  exact ⟨⟨⟨⟨⟨⟨⟨two, one⟩, equal ▸ staff⟩, equal.symm⟩, properOther⟩, proper⟩, after⟩, before⟩

/-- Adding a row. -/
theorem Consistent.append_insert {world : World Call} (consistent : world.Consistent) {pid : Pid}
    {draft : Nat → Write} (keyed : Keyed draft)
    (admissible : world.Admissible pid (draft world.nextId))
    (granted : world.mustWait pid (draft world.nextId) = false)
    (allowed : (world.view pid).violated (draft world.nextId) = none) :
    (({ world with nextId := world.nextId + 1 } : World Call).append pid
      (draft world.nextId)).Consistent := by
  have advanced := consistent.advance
  have keysGrow : ∀ table : Table,
      table.all (({ world with nextId := world.nextId + 1 } : World Call).append pid
        (draft world.nextId)) =
      table.all world ++ (table.inserted (draft world.nextId)).toList := by
    intro table
    simp only [Table.all, append, List.filterMap_append, List.append_assoc,
      List.append_cancel_left_eq]
    cases found : table.inserted (draft world.nextId) <;> simp [found]
  have standing : ∀ {booking}, (({ world with nextId := world.nextId + 1 } : World Call).append pid
      (draft world.nextId)).Standing booking →
      world.Standing booking ∨ draft world.nextId = .insertBooking booking := by
    rintro booking (committed | ⟨owner, inserted⟩)
    · exact .inl (.inl committed)
    · rcases mem_writesOf_append.mp inserted with old | ⟨-, same⟩
      · exact .inl (.inr ⟨owner, old⟩)
      · exact .inr same.symm
  have apart : ∀ {booking other}, draft world.nextId = .insertBooking booking →
      world.Standing other → excludes booking other = false := by
    intro booking other same stands
    exact not_excludes_of_granted (admissible.2 booking same) (same ▸ granted)
      (same ▸ allowed) stands
  refine
    { exclusive := consistent.exclusive
      locked := ?_
      keys := fun table => ?_
      below := fun table id member => ?_
      exclusion := fun {first second} one two different => ?_
      payments := consistent.payments
      events := consistent.events
      backed := ?_ }
  · intro owner other key member named
    rcases mem_writesOf_append.mp member with old | ⟨rfl, rfl⟩
    · exact consistent.locked old named
    · rw [keyed.target] at named
      cases named
  · rw [keysGrow]
    rcases keyed.key table world.nextId with nothing | key
    · simpa [nothing] using consistent.keys table
    · rw [key]
      refine List.nodup_append.mpr ⟨consistent.keys table, List.nodup_singleton _, ?_⟩
      intro id member other fresh
      rw [Option.toList_some, List.mem_singleton] at fresh
      have earlier := consistent.below table id member
      omega
  · rw [keysGrow] at member
    rcases List.mem_append.mp member with old | new
    · exact Nat.lt_succ_of_lt (consistent.below table id old)
    · rcases keyed.key table world.nextId with nothing | key
      · simp [nothing] at new
      · rw [key, Option.toList_some, List.mem_singleton] at new
        subst new
        exact Nat.lt_succ_self _
  · rcases standing one with one | one
    · rcases standing two with two | two
      · exact consistent.exclusion one two different
      · by_contra clash
        rw [Bool.not_eq_false] at clash
        have mirrored := excludes_symm clash
        rw [apart two one] at mirrored
        cases mirrored
    · rcases standing two with two | two
      · exact apart one two
      · rw [one] at two
        cases two
        exact absurd rfl different
  · intro owner other member
    rcases mem_writesOf_append.mp member with old | ⟨rfl, rfl⟩
    · exact (advanced.backed old).append
    · have backed : ({ world with nextId := world.nextId + 1 } : World Call).Backed owner
          (draft world.nextId) := admissible.1
      exact backed.append

/-! ## The end of a transaction -/

theorem mem_writesOf_release {world : World Call} {pid other : Pid} {write : Write} :
    write ∈ (world.release pid).writesOf other ↔ write ∈ world.writesOf other ∧ other ≠ pid := by
  by_cases same : other = pid
  · subst same
    simp
  · rw [writesOf_release_of_ne world same]
    simp [same]

theorem Consistent.release {world : World Call} (consistent : world.Consistent) (pid : Pid) :
    (world.release pid).Consistent := by
  have fewer : ∀ table : Table, (table.all (world.release pid)).Sublist (table.all world) := by
    intro table
    exact (List.Sublist.refl _).append (List.filter_sublist.filterMap _)
  have standing : ∀ {booking}, (world.release pid).Standing booking → world.Standing booking := by
    rintro booking (committed | ⟨owner, inserted⟩)
    · exact .inl committed
    · exact .inr ⟨owner, (mem_writesOf_release.mp inserted).1⟩
  refine
    { exclusive := fun one two =>
        consistent.exclusive (mem_locks_release.mp one).1 (mem_locks_release.mp two).1
      locked := fun member target => ?_
      keys := fun table => (fewer table).nodup (consistent.keys table)
      below := fun table id member =>
        consistent.below table id ((fewer table).subset member)
      exclusion := fun one two => consistent.exclusion (standing one) (standing two)
      payments := consistent.payments
      events := consistent.events
      backed := fun {owner write} member => ?_ }
  · obtain ⟨old, different⟩ := mem_writesOf_release.mp member
    exact mem_locks_release.mpr ⟨consistent.locked old target, different⟩
  · obtain ⟨old, different⟩ := mem_writesOf_release.mp member
    have backed := consistent.backed old
    have kept : ∀ {bookingId}, world.Referable owner bookingId →
        (world.release pid).Referable owner bookingId := by
      rintro bookingId (known | ⟨row, inserted, same⟩)
      · exact .inl known
      · exact .inr ⟨row, mem_writesOf_release.mpr ⟨inserted, different⟩, same⟩
    cases write with
    | updateBooking id change => cases change <;> exact backed
    | insertPayment row => exact kept backed
    | insertCalendarEvent row => exact kept backed
    | _ => trivial

/-- The world after a session has committed. -/
def committed (world : World Call) (pid : Pid) (call : Call) : World Call :=
  { world.release pid with
    db := world.view pid
    journal := world.journal ++ [⟨call, world.writesOf pid⟩] }

theorem mem_writesOf_committed {world : World Call} {pid other : Pid} {call : Call}
    {write : Write} :
    write ∈ (world.committed pid call).writesOf other ↔
      write ∈ world.writesOf other ∧ other ≠ pid :=
  mem_writesOf_release

theorem mem_locks_committed {world : World Call} {pid other : Pid} {call : Call} {key : RowId} :
    (key, other) ∈ (world.committed pid call).locks ↔
      (key, other) ∈ world.locks ∧ other ≠ pid :=
  mem_locks_release

/-- A booking standing after a commit is a version of one standing before it,
and is active only if that one was. -/
theorem Consistent.standing_committed_origin {world : World Call} (consistent : world.Consistent)
    {pid : Pid} {call : Call} {row : Booking} (standing : (world.committed pid call).Standing row) :
    ∃ origin, world.Standing origin ∧ row.SameSlot origin ∧
      (row.status.active = true → origin.status.active = true) := by
  rcases standing with there | ⟨owner, inserted⟩
  · obtain ⟨origin, source, same, -, active⟩ := Db.mem_applyAll_bookings there
    have stands : world.Standing origin := source.imp_right fun inserted => ⟨pid, inserted⟩
    refine ⟨origin, stands, same, fun now => ?_⟩
    rcases active now with before | confirmed
    · exact before
    · obtain ⟨held, member, sameId, pending⟩ := consistent.backed confirmed
      rw [consistent.standing_committed stands member (same.id.symm.trans sameId.symm), pending]
      rfl
  · exact ⟨row, .inr ⟨owner, (mem_writesOf_committed.mp inserted).1⟩, .refl row, id⟩

/-- The keys are the same before and after a commit, up to order. -/
theorem all_committed_perm (world : World Call) (pid : Pid) (call : Call) (table : Table) :
    (table.all (world.committed pid call)).Perm (table.all world) := by
  have split : (table.ids (world.view pid)) =
      table.ids world.db ++ (world.pending.filter (·.1 == pid)).filterMap fun entry =>
        table.inserted entry.2 := by
    rw [view, Table.ids_applyAll, writesOf, List.filterMap_map]
    rfl
  change (table.ids (world.view pid) ++ (world.pending.filter (·.1 != pid)).filterMap fun entry =>
    table.inserted entry.2).Perm _
  rw [split, List.append_assoc, ← List.filterMap_append, Table.all]
  refine List.Perm.append_left _ (List.Perm.filterMap _ ?_)
  exact List.filter_append_perm _ _

theorem Consistent.committed {world : World Call} (consistent : world.Consistent) (pid : Pid)
    (call : Call) : (world.committed pid call).Consistent := by
  have known : ∀ {id}, id ∈ Table.bookings.ids world.db →
      id ∈ Table.bookings.ids (world.view pid) := by
    intro id member
    rw [view, Table.ids_applyAll]
    exact List.mem_append_left _ member
  have referable : ∀ {bookingId}, world.Referable pid bookingId →
      bookingId ∈ Table.bookings.ids (world.view pid) := by
    rintro bookingId (member | ⟨row, inserted, same⟩)
    · exact known member
    · rw [view, Table.ids_applyAll]
      exact List.mem_append_right _ (List.mem_filterMap.mpr ⟨_, inserted, by rw [← same]; rfl⟩)
  refine
    { exclusive := fun one two =>
        consistent.exclusive (mem_locks_committed.mp one).1 (mem_locks_committed.mp two).1
      locked := fun member target => ?_
      keys := fun table => (all_committed_perm world pid call table).nodup_iff.mpr
        (consistent.keys table)
      below := fun table id member => consistent.below table id
        ((all_committed_perm world pid call table).mem_iff.mp member)
      exclusion := fun {first second} one two different => ?_
      payments := fun payment member => ?_
      events := fun event member => ?_
      backed := fun {owner write} member => ?_ }
  · obtain ⟨old, different⟩ := mem_writesOf_committed.mp member
    exact mem_locks_committed.mpr ⟨consistent.locked old target, different⟩
  · obtain ⟨origin, stands, same, active⟩ := consistent.standing_committed_origin one
    obtain ⟨other, standsOther, sameOther, activeOther⟩ :=
      consistent.standing_committed_origin two
    by_contra clash
    rw [Bool.not_eq_false] at clash
    have before := same.excludes sameOther active activeOther clash
    rw [consistent.exclusion stands standsOther
      (by rw [← same.id, ← sameOther.id]; exact different)] at before
    cases before
  · obtain ⟨origin, source, -, sameBooking, -, -⟩ := Db.mem_applyAll_payments member
    rw [sameBooking]
    rcases source with old | inserted
    · exact known (consistent.payments origin old)
    · exact referable (consistent.backed inserted)
  · obtain ⟨origin, source, version⟩ := Db.mem_applyAll_events member
    rw [version.bookingId]
    rcases source with old | inserted
    · exact known (consistent.events origin old)
    · exact referable (consistent.backed inserted)
  · obtain ⟨old, different⟩ := mem_writesOf_committed.mp member
    have backed := consistent.backed old
    have kept : ∀ {bookingId}, world.Referable owner bookingId →
        (world.committed pid call).Referable owner bookingId := by
      rintro bookingId (member | ⟨row, inserted, same⟩)
      · exact .inl (known member)
      · exact .inr ⟨row, mem_writesOf_committed.mpr ⟨inserted, different⟩, same⟩
    cases write with
    | updateBooking id change =>
        cases change with
        | confirm =>
            obtain ⟨row, there, rfl, pending⟩ := backed
            have held := consistent.locked old rfl
            refine ⟨row, Db.mem_bookings_applyAll (fun change => ?_) there, rfl, pending⟩
            exact consistent.untouched (Ne.symm different) held rfl
        | cancel reason => trivial
    | insertPayment row => exact kept backed
    | insertCalendarEvent row => exact kept backed
    | _ => trivial

end World

end AppointmentVoice
