import AppointmentVoice.Concurrency.Interleaving

/-!
# Sessions at READ COMMITTED

Sessions over any tables, given by what a write does to them and by which uncommitted
writes of others it has to wait for.  A session sees the committed rows and its own
writes; its writes are kept apart until the commit, which applies them in order, and are
dropped when the transaction ends in another way.

What a session has pending, and what it sees, after a write, an end and a commit is said by the
simp lemmas `writesOf_add_self`, `view_add_self` and their like.
-/

set_option autoImplicit false

namespace AppointmentVoice.Concurrency

/-- What a write does to the tables, and which writes of other sessions it waits for. -/
class Storage (Db Write : Type) where
  apply : Db → Write → Db
  waitsFor : Write → Write → Bool

/-- The committed rows and the uncommitted writes of the open sessions. -/
structure Sessions (Db Write : Type) where
  db : Db
  pending : List (Pid × Write)

namespace Sessions

section Pending

variable {Db Write : Type}

/-- The uncommitted writes of a session, in order. -/
def writesOf (sessions : Sessions Db Write) (pid : Pid) : List Write :=
  (sessions.pending.filter (·.1 == pid)).map Prod.snd

/-- Add an uncommitted write. -/
def add (sessions : Sessions Db Write) (pid : Pid) (write : Write) : Sessions Db Write :=
  { sessions with pending := sessions.pending ++ [(pid, write)] }

/-- End the transaction of a session without its writes. -/
def release (sessions : Sessions Db Write) (pid : Pid) : Sessions Db Write :=
  { sessions with pending := sessions.pending.filter (·.1 != pid) }

variable {sessions : Sessions Db Write} {pid other : Pid}

theorem writesOf_add_self (write : Write) :
    (sessions.add pid write).writesOf pid = sessions.writesOf pid ++ [write] := by
  simp [add, writesOf]

theorem writesOf_add_of_ne (different : other ≠ pid) (write : Write) :
    (sessions.add pid write).writesOf other = sessions.writesOf other := by
  simp [add, writesOf, different.symm]

theorem writesOf_release_self : (sessions.release pid).writesOf pid = [] := by
  simp [release, writesOf, List.filter_filter]

theorem writesOf_release_of_ne (different : other ≠ pid) :
    (sessions.release pid).writesOf other = sessions.writesOf other := by
  simp only [release, writesOf, List.filter_filter]
  congr 1
  refine List.filter_congr fun entry _ => ?_
  by_cases same : entry.1 = other
  · simp [same, different]
  · simp [same]

end Pending

section Views

variable {Db Write : Type} [Storage Db Write]

/-- The tables after some writes. -/
def applyAll (db : Db) (writes : List Write) : Db := writes.foldl Storage.apply db

/-- What a statement of a session sees. -/
def view (sessions : Sessions Db Write) (pid : Pid) : Db :=
  applyAll sessions.db (sessions.writesOf pid)

/-- Another session has an uncommitted write that this one has to wait for. -/
def mustWait (sessions : Sessions Db Write) (pid : Pid) (write : Write) : Bool :=
  sessions.pending.any fun entry =>
    entry.1 != pid && Storage.waitsFor Db write entry.2

/-- End the transaction of a session with its writes. -/
def committed (sessions : Sessions Db Write) (pid : Pid) : Sessions Db Write :=
  { sessions.release pid with db := sessions.view pid }

variable {sessions : Sessions Db Write} {pid other : Pid}

@[simp] theorem applyAll_nil (db : Db) : applyAll db ([] : List Write) = db := rfl

@[simp] theorem applyAll_cons (db : Db) (write : Write) (writes : List Write) :
    applyAll db (write :: writes) = applyAll (Storage.apply db write) writes := rfl

theorem writesOf_committed_self : (sessions.committed pid).writesOf pid = [] :=
  writesOf_release_self

theorem writesOf_committed_of_ne (different : other ≠ pid) :
    (sessions.committed pid).writesOf other = sessions.writesOf other :=
  writesOf_release_of_ne different

/-- A session sees its own write. -/
theorem view_add_self (write : Write) :
    (sessions.add pid write).view pid = Storage.apply (sessions.view pid) write := by
  rw [view, writesOf_add_self, applyAll, List.foldl_append]
  rfl

theorem view_release_self : (sessions.release pid).view pid = sessions.db := by
  rw [view, writesOf_release_self]
  rfl

theorem view_committed_self : (sessions.committed pid).view pid = sessions.view pid := by
  rw [view, writesOf_committed_self]
  rfl

/-- A session without writes sees the committed rows. -/
theorem view_of_nil (nothing : sessions.writesOf pid = []) : sessions.view pid = sessions.db := by
  rw [view, nothing, applyAll_nil]

end Views

end Sessions

end AppointmentVoice.Concurrency
