import AppointmentVoice.Concurrency.ReadCommitted

/-!
# Inserts that are checked before

A table without a constraint: a session reads the rows that are committed, sees that none
of them is in the way of its own, and then inserts it.  Nothing holds the others back in
between.  The rows stay compatible as long as nobody reads for a row while a session with
one that is in its way has read and not yet committed.

Rows count by what the check looks at, their slots; a write inserts at most one of them,
and may remove others.

**The rules.** `check` for a session that reads for a slot, `add` for its insert, and `commit`,
by which the slots stay compatible.
-/

set_option autoImplicit false

namespace AppointmentVoice.Concurrency

/-- Where the slots of a table are, which one a write inserts, what each of them satisfies,
and which are compatible. -/
structure CheckedTable (Db Write Slot : Type) [Storage Db Write] where
  slots : Db → List Slot
  inserted : Write → Option Slot
  Fits : Slot → Prop
  Compatible : Slot → Slot → Prop
  symm : ∀ slot other, Compatible slot other → Compatible other slot
  slots_apply : ∀ db (write : Write),
    (slots (Storage.apply db write)).Sublist (slots db ++ (inserted write).toList)

/-- What a session is about: nothing, a slot that it has checked, or one that it has added
to its transaction. -/
inductive Plan (Slot : Type) where
  | idle
  | checked (slot : Slot)
  | added (slot : Slot)
  deriving DecidableEq

namespace Plan

variable {Slot : Type}

/-- The slot that a plan is about. -/
def slot? : Plan Slot → Option Slot
  | .idle => none
  | .checked slot => some slot
  | .added slot => some slot

/-- The slots that the transaction inserts. -/
def drafts : Plan Slot → List Slot
  | .idle => []
  | .checked _ => []
  | .added slot => [slot]

theorem mem_drafts {plan : Plan Slot} {slot : Slot} (member : slot ∈ plan.drafts) :
    plan.slot? = some slot := by
  cases plan with
  | idle => cases member
  | checked slot => cases member
  | added other => rw [List.mem_singleton.mp member, slot?]

end Plan

namespace CheckedTable

variable {Db Write Slot : Type} [Storage Db Write] (table : CheckedTable Db Write Slot)

/-- The slots that some writes insert. -/
def drafts (writes : List Write) : List Slot := writes.filterMap table.inserted

/-- Committed slots are compatible with each other and with those that have been checked,
which are compatible with each other, and each transaction inserts what its session is
about. -/
structure Apart (sessions : Sessions Db Write) (plans : Pid → Plan Slot) : Prop where
  committed : (table.slots sessions.db).Pairwise table.Compatible
  fits : ∀ slot ∈ table.slots sessions.db, table.Fits slot
  planned : ∀ pid slot, (plans pid).slot? = some slot → table.Fits slot
  checked : ∀ pid slot, (plans pid).slot? = some slot →
    ∀ other ∈ table.slots sessions.db, table.Compatible slot other
  apart : ∀ pid other slot otherSlot, pid ≠ other → (plans pid).slot? = some slot →
    (plans other).slot? = some otherSlot → table.Compatible slot otherSlot
  pending : ∀ pid, table.drafts (sessions.writesOf pid) = (plans pid).drafts

variable {table} {sessions : Sessions Db Write} {plans : Pid → Plan Slot} {pid : Pid}

theorem slots_applyAll (table : CheckedTable Db Write Slot) (db : Db) (writes : List Write) :
    (table.slots (Sessions.applyAll db writes)).Sublist
      (table.slots db ++ table.drafts writes) := by
  induction writes generalizing db with
  | nil =>
      simpa only [Sessions.applyAll_nil, drafts, List.filterMap_nil, List.append_nil] using
        List.Sublist.refl _
  | cons write writes ih =>
      have first := (table.slots_apply db write).append (List.Sublist.refl (table.drafts writes))
      have both := (ih (Storage.apply db write)).trans first
      rw [List.append_assoc] at both
      cases kind : table.inserted write with
      | none => simpa [drafts, kind] using both
      | some slot => simpa [drafts, kind] using both

namespace Apart

/-- What the plans of the others are. -/
theorem slot_update_of_ne {other : Pid} {plan : Plan Slot} (different : other ≠ pid) :
    (Function.update plans pid plan other).slot? = (plans other).slot? := by
  rw [Function.update_of_ne different]

/-- A session gives up its plan, or has none any more, and its writes are gone. -/
theorem drop (apart : table.Apart sessions plans) {after : Sessions Db Write}
    (db : table.slots after.db = table.slots sessions.db)
    (mine : table.drafts (after.writesOf pid) = [])
    (others : ∀ other, other ≠ pid → after.writesOf other = sessions.writesOf other) :
    table.Apart after (Function.update plans pid .idle) where
  committed := db ▸ apart.committed
  fits := db ▸ apart.fits
  planned other slot planned := by
    by_cases same : other = pid
    · rw [same, Function.update_self] at planned
      cases planned
    · exact apart.planned other slot (slot_update_of_ne same ▸ planned)
  checked other slot planned row member := by
    by_cases same : other = pid
    · rw [same, Function.update_self] at planned
      cases planned
    · rw [slot_update_of_ne same] at planned
      exact apart.checked other slot planned row (db ▸ member)
  apart first second slot otherSlot different planned plannedToo := by
    by_cases same : first = pid
    · rw [same, Function.update_self] at planned
      cases planned
    · by_cases sameToo : second = pid
      · rw [sameToo, Function.update_self] at plannedToo
        cases plannedToo
      · rw [slot_update_of_ne same] at planned
        rw [slot_update_of_ne sameToo] at plannedToo
        exact apart.apart first second slot otherSlot different planned plannedToo
  pending other := by
    by_cases same : other = pid
    · rw [same, Function.update_self, mine, Plan.drafts]
    · rw [Function.update_of_ne same, others other same]
      exact apart.pending other

theorem release (apart : table.Apart sessions plans) (pid : Pid) :
    table.Apart (sessions.release pid) (Function.update plans pid .idle) :=
  apart.drop rfl (by rw [Sessions.writesOf_release_self, drafts, List.filterMap_nil])
    fun _ different => Sessions.writesOf_release_of_ne different

/-- **A commit keeps the slots compatible**: what it inserts has been checked, and nothing
in its way has come in since. -/
theorem commit (apart : table.Apart sessions plans) (pid : Pid) :
    table.Apart (sessions.committed pid) (Function.update plans pid .idle) := by
  have rows : (table.slots (sessions.committed pid).db).Sublist
      (table.slots sessions.db ++ (plans pid).drafts) := by
    rw [← apart.pending pid]
    exact slots_applyAll table sessions.db (sessions.writesOf pid)
  have ended : table.Apart (sessions.release pid) (Function.update plans pid .idle) :=
    apart.release pid
  have draft : ∀ slot ∈ (plans pid).drafts, (plans pid).slot? = some slot := fun slot member =>
    Plan.mem_drafts member
  refine ⟨List.Pairwise.sublist rows ?_, fun slot member => ?_, ended.planned,
    fun other slot planned row member => ?_, ended.apart, ?_⟩
  · refine List.pairwise_append.mpr ⟨apart.committed, ?_, fun row member slot drafted => ?_⟩
    · cases plans pid with
      | idle => exact .nil
      | checked slot => exact .nil
      | added slot => exact List.pairwise_singleton ..
    · exact table.symm _ _ (apart.checked pid slot (draft slot drafted) row member)
  · rcases List.mem_append.mp (rows.subset member) with old | drafted
    · exact apart.fits slot old
    · exact apart.planned pid slot (draft slot drafted)
  · by_cases same : other = pid
    · rw [same, Function.update_self] at planned
      cases planned
    · rw [slot_update_of_ne same] at planned
      rcases List.mem_append.mp (rows.subset member) with old | drafted
      · exact apart.checked other slot planned row old
      · exact apart.apart other pid slot row same planned (draft row drafted)
  · exact ended.pending

/-- **A session reads for a slot**, while no session with one that is in its way has read
and not yet committed. -/
theorem check (apart : table.Apart sessions plans) {slot : Slot} (idle : plans pid = .idle)
    (fits : table.Fits slot)
    (clear : ∀ other ∈ table.slots sessions.db, table.Compatible slot other)
    (alone : ∀ other otherSlot, other ≠ pid → (plans other).slot? = some otherSlot →
      table.Compatible slot otherSlot) :
    table.Apart sessions (Function.update plans pid (.checked slot)) where
  committed := apart.committed
  fits := apart.fits
  planned other found planned := by
    by_cases same : other = pid
    · rw [same, Function.update_self] at planned
      cases planned
      exact fits
    · exact apart.planned other found (slot_update_of_ne same ▸ planned)
  checked other found planned row member := by
    by_cases same : other = pid
    · rw [same, Function.update_self] at planned
      cases planned
      exact clear row member
    · rw [slot_update_of_ne same] at planned
      exact apart.checked other found planned row member
  apart first second found otherSlot different planned plannedToo := by
    by_cases same : first = pid
    · subst same
      rw [Function.update_self] at planned
      rw [slot_update_of_ne different.symm] at plannedToo
      cases planned
      exact alone second otherSlot different.symm plannedToo
    · rw [slot_update_of_ne same] at planned
      by_cases sameToo : second = pid
      · rw [sameToo, Function.update_self] at plannedToo
        cases plannedToo
        exact table.symm _ _ (alone first found same planned)
      · rw [slot_update_of_ne sameToo] at plannedToo
        exact apart.apart first second found otherSlot different planned plannedToo
  pending other := by
    by_cases same : other = pid
    · have before := apart.pending pid
      rw [idle] at before
      rw [same, Function.update_self]
      exact before
    · rw [Function.update_of_ne same]
      exact apart.pending other

/-- A session adds what it has checked to its transaction. -/
theorem add (apart : table.Apart sessions plans) {slot : Slot} {write : Write}
    (checked : plans pid = .checked slot) (inserts : table.inserted write = some slot) :
    table.Apart (sessions.add pid write) (Function.update plans pid (.added slot)) := by
  have slots : ∀ other, (Function.update plans pid (.added slot) other).slot? =
      (plans other).slot? := by
    intro other
    by_cases same : other = pid
    · rw [same, Function.update_self, checked]
      rfl
    · exact slot_update_of_ne same
  refine ⟨apart.committed, apart.fits, fun other found planned => ?_, fun other found planned => ?_,
    fun first second found otherSlot different planned plannedToo => ?_, fun other => ?_⟩
  · exact apart.planned other found (slots other ▸ planned)
  · exact apart.checked other found (slots other ▸ planned)
  · exact apart.apart first second found otherSlot different (slots first ▸ planned)
      (slots second ▸ plannedToo)
  · by_cases same : other = pid
    · have before := apart.pending pid
      rw [checked, Plan.drafts] at before
      rw [same, Function.update_self, Sessions.writesOf_add_self, drafts, List.filterMap_append]
      change table.drafts _ ++ _ = _
      rw [before, List.filterMap_cons, inserts]
      rfl
    · rw [Function.update_of_ne same, Sessions.writesOf_add_of_ne same]
      exact apart.pending other

/-- A write that inserts nothing. -/
theorem remove (apart : table.Apart sessions plans) (pid : Pid) {write : Write}
    (inserts : table.inserted write = none) : table.Apart (sessions.add pid write) plans := by
  refine ⟨apart.committed, apart.fits, apart.planned, apart.checked, apart.apart, fun other => ?_⟩
  by_cases same : other = pid
  · rw [same, Sessions.writesOf_add_self, drafts, List.filterMap_append,
      List.filterMap_cons, inserts,
      List.filterMap_nil, List.append_nil]
    exact apart.pending pid
  · rw [Sessions.writesOf_add_of_ne same]
    exact apart.pending other

end Apart

end CheckedTable

end AppointmentVoice.Concurrency
