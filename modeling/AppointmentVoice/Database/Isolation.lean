import AppointmentVoice.Database.Session

/-!
# What a statement leaves alone

Small facts about the parts of the world: whose writes and locks a statement
changes, what a session sees, and which rows a list of writes keeps.  A
statement other than a commit leaves the committed database and the journal
alone and touches only the writes and locks of its own session (`OwnOnly`).
-/

set_option autoImplicit false

namespace AppointmentVoice

open Concurrency

variable {Call : Type}

/-! ## Writes and locks of the sessions -/

namespace World

theorem mem_pending_iff {world : World Call} {pid : Pid} {write : Write} :
    (pid, write) ∈ world.pending ↔ write ∈ world.writesOf pid := by
  simp only [writesOf, List.mem_map, List.mem_filter, beq_iff_eq]
  constructor
  · intro member
    exact ⟨(pid, write), ⟨member, rfl⟩, rfl⟩
  · rintro ⟨⟨other, value⟩, ⟨member, same⟩, equal⟩
    simp only at same equal
    subst same equal
    exact member

theorem holds_iff {world : World Call} {pid : Pid} {row : RowId} :
    world.holds pid row = true ↔ (row, pid) ∈ world.locks := by
  simp [holds]

theorem lockedByOther_iff {world : World Call} {pid : Pid} {row : RowId} :
    world.lockedByOther pid row = true ↔ ∃ other, other ≠ pid ∧ (row, other) ∈ world.locks := by
  simp only [lockedByOther, List.any_eq_true, Bool.and_eq_true, beq_iff_eq, bne_iff_ne, ne_eq]
  constructor
  · rintro ⟨⟨key, other⟩, member, rfl, different⟩
    exact ⟨other, different, member⟩
  · rintro ⟨other, different, member⟩
    exact ⟨(row, other), member, rfl, different⟩

@[simp] theorem writesOf_append_self (world : World Call) (pid : Pid) (write : Write) :
    (world.append pid write).writesOf pid = world.writesOf pid ++ [write] := by
  simp [append, writesOf]

theorem writesOf_append_of_ne (world : World Call) {pid other : Pid} (different : other ≠ pid)
    (write : Write) : (world.append pid write).writesOf other = world.writesOf other := by
  simp [append, writesOf, different.symm]

@[simp] theorem writesOf_acquire (world : World Call) (pid other : Pid) (row : RowId) :
    (world.acquire pid row).writesOf other = world.writesOf other := by
  unfold acquire
  split <;> rfl

@[simp] theorem writesOf_release_self (world : World Call) (pid : Pid) :
    (world.release pid).writesOf pid = [] := by
  simp [release, writesOf, List.filter_filter]

theorem writesOf_release_of_ne (world : World Call) {pid other : Pid} (different : other ≠ pid) :
    (world.release pid).writesOf other = world.writesOf other := by
  simp only [release, writesOf, List.filter_filter]
  congr 1
  refine List.filter_congr fun entry _ => ?_
  by_cases same : entry.1 = other
  · simp [same, different]
  · simp [same]

theorem mem_locks_acquire {world : World Call} {pid other : Pid} {row key : RowId} :
    (key, other) ∈ (world.acquire pid row).locks ↔
      (key, other) ∈ world.locks ∨ (key = row ∧ other = pid) := by
  unfold acquire
  split
  · next held =>
      rw [holds_iff] at held
      constructor
      · exact .inl
      · rintro (member | ⟨rfl, rfl⟩)
        · exact member
        · exact held
  · simp [List.mem_append]

theorem mem_locks_acquireAll {world : World Call} {pid other : Pid} {rows : List RowId}
    {key : RowId} :
    (key, other) ∈ (world.acquireAll pid rows).locks ↔
      (key, other) ∈ world.locks ∨ (key ∈ rows ∧ other = pid) := by
  induction rows generalizing world with
  | nil => simp [acquireAll]
  | cons row rows ih =>
      change (key, other) ∈ ((world.acquire pid row).acquireAll pid rows).locks ↔ _
      rw [ih, mem_locks_acquire, List.mem_cons]
      tauto

theorem mem_locks_release {world : World Call} {pid other : Pid} {key : RowId} :
    (key, other) ∈ (world.release pid).locks ↔ (key, other) ∈ world.locks ∧ other ≠ pid := by
  simp [release]

@[simp] theorem acquire_db (world : World Call) (pid : Pid) (row : RowId) :
    (world.acquire pid row).db = world.db := by
  unfold acquire
  split <;> rfl

@[simp] theorem acquire_journal (world : World Call) (pid : Pid) (row : RowId) :
    (world.acquire pid row).journal = world.journal := by
  unfold acquire
  split <;> rfl

@[simp] theorem acquire_nextId (world : World Call) (pid : Pid) (row : RowId) :
    (world.acquire pid row).nextId = world.nextId := by
  unfold acquire
  split <;> rfl

@[simp] theorem acquire_pending (world : World Call) (pid : Pid) (row : RowId) :
    (world.acquire pid row).pending = world.pending := by
  unfold acquire
  split <;> rfl

@[simp] theorem acquire_jobs (world : World Call) (pid : Pid) (row : RowId) :
    (world.acquire pid row).jobs = world.jobs := by
  unfold acquire
  split <;> rfl

@[simp] theorem acquire_outside (world : World Call) (pid : Pid) (row : RowId) :
    (world.acquire pid row).outside = world.outside := by
  unfold acquire
  split <;> rfl

/-- Taking locks changes nothing but the lock table. -/
theorem acquireAll_fields (world : World Call) (pid : Pid) (rows : List RowId) :
    (world.acquireAll pid rows).db = world.db ∧
      (world.acquireAll pid rows).pending = world.pending ∧
      (world.acquireAll pid rows).journal = world.journal ∧
      (world.acquireAll pid rows).nextId = world.nextId := by
  induction rows generalizing world with
  | nil => exact ⟨rfl, rfl, rfl, rfl⟩
  | cons row rows ih =>
      obtain ⟨db, pending, journal, nextId⟩ := ih (world.acquire pid row)
      exact ⟨db.trans (acquire_db ..), pending.trans (acquire_pending ..),
        journal.trans (acquire_journal ..), nextId.trans (acquire_nextId ..)⟩

theorem acquireAll_jobs (world : World Call) (pid : Pid) (rows : List RowId) :
    (world.acquireAll pid rows).jobs = world.jobs := by
  induction rows generalizing world with
  | nil => rfl
  | cons row rows ih => exact (ih (world.acquire pid row)).trans (acquire_jobs ..)

theorem acquireAll_outside (world : World Call) (pid : Pid) (rows : List RowId) :
    (world.acquireAll pid rows).outside = world.outside := by
  induction rows generalizing world with
  | nil => rfl
  | cons row rows ih => exact (ih (world.acquire pid row)).trans (acquire_outside ..)

/-- A session without writes sees the committed database. -/
theorem view_of_writesOf_nil {world : World Call} {pid : Pid} (none : world.writesOf pid = []) :
    world.view pid = world.db := by
  rw [view, none]
  rfl

/-- One session changed at most its own writes and locks, and the sequence. -/
structure OwnOnly (pid : Pid) (before after : World Call) : Prop where
  writes : ∀ other, other ≠ pid → after.writesOf other = before.writesOf other
  locks : ∀ row other, other ≠ pid → ((row, other) ∈ after.locks ↔ (row, other) ∈ before.locks)

theorem OwnOnly.of_same {pid : Pid} {before after : World Call}
    (pending : after.pending = before.pending) (locks : after.locks = before.locks) :
    OwnOnly pid before after where
  writes := fun other _ => by rw [writesOf, writesOf, pending]
  locks := fun row other _ => by rw [locks]

theorem OwnOnly.acquire (world : World Call) (pid : Pid) (row : RowId) :
    OwnOnly pid world (world.acquire pid row) where
  writes := fun other _ => writesOf_acquire world pid other row
  locks := fun key other different => by
    rw [mem_locks_acquire]
    constructor
    · rintro (member | ⟨-, same⟩)
      · exact member
      · exact absurd same different
    · exact .inl

theorem OwnOnly.acquireAll (world : World Call) (pid : Pid) (rows : List RowId) :
    OwnOnly pid world (world.acquireAll pid rows) where
  writes := fun other _ => by rw [writesOf, writesOf, (acquireAll_fields world pid rows).2.1]
  locks := fun row other different => by
    rw [mem_locks_acquireAll]
    exact or_iff_left fun mine => different mine.2

theorem OwnOnly.append (world : World Call) (pid : Pid) (write : Write) :
    OwnOnly pid world (world.append pid write) where
  writes := fun _ different => writesOf_append_of_ne world different write
  locks := fun _ _ _ => Iff.rfl

theorem OwnOnly.release (world : World Call) (pid : Pid) :
    OwnOnly pid world (world.release pid) where
  writes := fun _ different => writesOf_release_of_ne world different
  locks := fun row other different => by
    rw [mem_locks_release]
    exact and_iff_left different

theorem OwnOnly.trans {pid : Pid} {first second third : World Call}
    (one : OwnOnly pid first second) (two : OwnOnly pid second third) :
    OwnOnly pid first third where
  writes := fun other different => (two.writes other different).trans (one.writes other different)
  locks := fun row other different =>
    (two.locks row other different).trans (one.locks row other different)

end World

/-! ## The oldest entry -/

theorem oldest_mem {entries : List WaitlistEntry} {entry : WaitlistEntry}
    (found : oldest entries = some entry) : entry ∈ entries := by
  induction entries generalizing entry with
  | nil => cases found
  | cons first rest ih =>
      simp only [oldest] at found
      split at found
      · cases found
        exact List.mem_cons_self
      · next other later =>
          split at found
          · cases found
            exact List.mem_cons_self
          · cases found
            exact List.mem_cons_of_mem _ (ih later)

theorem oldest_eq_none {entries : List WaitlistEntry} (none : oldest entries = none) :
    entries = [] := by
  cases entries with
  | nil => rfl
  | cons entry rest =>
      rw [oldest] at none
      split at none
      · cases none
      · split at none <;> cases none

end AppointmentVoice
