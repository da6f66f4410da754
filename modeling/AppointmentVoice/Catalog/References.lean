import AppointmentVoice.Catalog.Services

/-!
# References to services

What the foreign keys keep true by themselves, whatever the requests do: every row,
committed or not, refers to a service that is there, and a service that is being deleted
has no row that refers to it.
-/

set_option autoImplicit false

namespace AppointmentVoice.Catalog

open Concurrency

/-! ## Writes and references -/

section Writes

theorem refers_insert (db : CatalogDb) (row : CatalogRow) (serviceId : Nat) :
    (db.insert row).refers serviceId = true ↔
      db.refers serviceId = true ∨ row.serviceId = serviceId := by
  cases row with
  | booking row =>
      simp only [CatalogDb.insert, CatalogDb.refers, CatalogRow.serviceId, List.any_append,
        List.any_cons, List.any_nil, Bool.or_false, Bool.or_eq_true, beq_iff_eq]
      tauto
  | lineItem row =>
      simp only [CatalogDb.insert, CatalogDb.refers, CatalogRow.serviceId, List.any_append,
        List.any_cons, List.any_nil, Bool.or_false, Bool.or_eq_true, beq_iff_eq]
      tauto
  | waitlistEntry row =>
      simp only [CatalogDb.insert, CatalogDb.refers, CatalogRow.serviceId, List.any_append,
        List.any_cons, List.any_nil, Bool.or_false, Bool.or_eq_true, beq_iff_eq]
      tauto

theorem services_insert (db : CatalogDb) (row : CatalogRow) :
    (db.insert row).services = db.services := by
  cases row <;> rfl

theorem refers_apply (db : CatalogDb) (write : CatalogWrite) (serviceId : Nat) :
    (db.apply write).refers serviceId = true ↔
      db.refers serviceId = true ∨ write.refersTo = some serviceId := by
  cases write with
  | insert row =>
      rw [CatalogWrite.refersTo, Option.some_inj]
      exact refers_insert db row serviceId
  | updateService id columns => exact ⟨.inl, fun either => either.resolve_right nofun⟩
  | deleteService id => exact ⟨.inl, fun either => either.resolve_right nofun⟩

theorem hasService_apply (db : CatalogDb) (write : CatalogWrite) (serviceId : Nat) :
    (db.apply write).hasService serviceId = true ↔
      db.hasService serviceId = true ∧ write ≠ .deleteService serviceId := by
  cases write with
  | insert row =>
      rw [CatalogDb.hasService, CatalogDb.apply, services_insert]
      exact ⟨fun has => ⟨has, nofun⟩, And.left⟩
  | updateService id columns =>
      refine Iff.trans ?_ (and_iff_left nofun).symm
      rw [CatalogDb.hasService, CatalogDb.hasService, CatalogDb.apply, List.any_map]
      refine Eq.congr_left (congrArg (List.any db.services) ?_)
      funext svc
      rw [Function.comp_apply]
      split
      · rfl
      · rfl
  | deleteService id =>
      simp only [CatalogDb.apply, CatalogDb.hasService, List.any_filter, List.any_eq_true,
        Bool.and_eq_true, bne_iff_ne, beq_iff_eq, ne_eq, CatalogWrite.deleteService.injEq]
      constructor
      · rintro ⟨svc, member, other, rfl⟩
        exact ⟨⟨svc, member, rfl⟩, fun same => other same.symm⟩
      · rintro ⟨⟨svc, member, rfl⟩, other⟩
        exact ⟨svc, member, fun same => other same.symm, rfl⟩

theorem refers_applyAll (db : CatalogDb) (writes : List CatalogWrite) (serviceId : Nat) :
    (Sessions.applyAll db writes).refers serviceId = true ↔
      db.refers serviceId = true ∨ ∃ write ∈ writes, write.refersTo = some serviceId := by
  induction writes generalizing db with
  | nil => simp
  | cons write writes ih =>
      simp only [Sessions.applyAll_cons, ih, List.mem_cons, exists_eq_or_imp, ← or_assoc]
      exact or_congr_left (refers_apply db write serviceId)

theorem hasService_applyAll (db : CatalogDb) (writes : List CatalogWrite) (serviceId : Nat) :
    (Sessions.applyAll db writes).hasService serviceId = true ↔
      db.hasService serviceId = true ∧ ∀ write ∈ writes, write ≠ .deleteService serviceId := by
  induction writes generalizing db with
  | nil => simp
  | cons write writes ih =>
      rw [Sessions.applyAll_cons, ih, List.forall_mem_cons, ← and_assoc]
      exact and_congr_left fun _ => hasService_apply db write serviceId

theorem mem_writesOf {sessions : Sessions CatalogDb CatalogWrite} {pid : Pid}
    {write : CatalogWrite} : write ∈ sessions.writesOf pid ↔ (pid, write) ∈ sessions.pending := by
  rw [Sessions.writesOf, List.mem_map]
  constructor
  · rintro ⟨entry, filtered, rfl⟩
    obtain ⟨pending, mine⟩ := List.mem_filter.mp filtered
    rw [← beq_iff_eq.mp mine]
    exact pending
  · intro pending
    exact ⟨(pid, write), List.mem_filter.mpr ⟨pending, beq_self_eq_true pid⟩, rfl⟩

end Writes

/-! ## The invariant -/

/-- Every row refers to a service that is there, and nothing refers to one that is being
deleted. -/
structure Referential (world : CatalogWorld) : Prop where
  stored : ∀ serviceId, world.db.refers serviceId = true → world.db.hasService serviceId = true
  drafted : ∀ entry ∈ world.sessions.pending, ∀ serviceId, entry.2.refersTo = some serviceId →
    world.db.hasService serviceId = true
  deleting : ∀ entry ∈ world.sessions.pending, ∀ serviceId, entry.2 = .deleteService serviceId →
    world.db.refers serviceId = false ∧
      ∀ other ∈ world.sessions.pending, other.2.refersTo ≠ some serviceId

section Worlds

variable {world : CatalogWorld} {pid : Pid}

theorem refers_view (world : CatalogWorld) (pid : Pid) (serviceId : Nat) :
    (world.view pid).refers serviceId = true ↔ world.db.refers serviceId = true ∨
      ∃ write, (pid, write) ∈ world.sessions.pending ∧ write.refersTo = some serviceId := by
  simp only [← mem_writesOf]
  exact refers_applyAll ..

theorem hasService_view (world : CatalogWorld) (pid : Pid) (serviceId : Nat) :
    (world.view pid).hasService serviceId = true ↔ world.db.hasService serviceId = true ∧
      (pid, .deleteService serviceId) ∉ world.sessions.pending := by
  refine (hasService_applyAll ..).trans (and_congr_right fun _ => ?_)
  rw [← mem_writesOf]
  exact ⟨fun none member => none _ member rfl, fun none write member same => none (same ▸ member)⟩

/-- A write that does not have to wait is not in the way of another session's. -/
theorem waitsFor_of_free {write : CatalogWrite} (free : world.sessions.mustWait pid write = false)
    {entry : Pid × CatalogWrite} (pending : entry ∈ world.sessions.pending)
    (other : entry.1 ≠ pid) : write.waitsFor entry.2 = false := by
  have each := List.any_eq_false.mp free entry pending
  rw [bne_iff_ne.mpr other, Bool.true_and, Bool.not_eq_true] at each
  exact each

namespace Referential

theorem start {db : CatalogDb} {nextId : Nat} {clock : Instant}
    (stored : ∀ serviceId, db.refers serviceId = true → db.hasService serviceId = true) :
    Referential (.start db nextId clock) where
  stored := stored
  drafted _ pending := nomatch pending
  deleting _ pending := nomatch pending

/-- Writes may be dropped. -/
theorem release (sound : Referential world) (pid : Pid) : Referential (world.release pid) where
  stored := sound.stored
  drafted entry pending := sound.drafted entry (List.mem_of_mem_filter pending)
  deleting entry pending serviceId deletes := by
    obtain ⟨unreferenced, undrafted⟩ :=
      sound.deleting entry (List.mem_of_mem_filter pending) serviceId deletes
    exact ⟨unreferenced, fun other member => undrafted other (List.mem_of_mem_filter member)⟩

theorem commit (sound : Referential world) (pid : Pid) :
    Referential { world with sessions := world.sessions.committed pid } := by
  -- What the session inserts refers to a service that nobody is deleting.
  have survives : ∀ serviceId, world.db.hasService serviceId = true →
      (∀ entry ∈ world.sessions.pending, entry.2 ≠ .deleteService serviceId) →
      (world.view pid).hasService serviceId = true := by
    intro serviceId has kept
    exact (hasService_view world pid serviceId).mpr ⟨has, fun pending => kept _ pending rfl⟩
  refine ⟨fun serviceId refers => ?_, fun entry pending serviceId refers => ?_,
    fun entry pending serviceId deletes => ?_⟩
  · rcases (refers_view world pid serviceId).mp refers with old | ⟨write, mine, names⟩
    · refine survives serviceId (sound.stored serviceId old) fun entry pending deletes => ?_
      exact absurd old (Bool.eq_false_iff.mp (sound.deleting entry pending serviceId deletes).1)
    · refine survives serviceId
        (sound.drafted _ mine serviceId names) fun entry pending deletes => ?_
      exact (sound.deleting entry pending serviceId deletes).2 _ mine names
  · have old := List.mem_of_mem_filter pending
    refine survives serviceId
      (sound.drafted entry old serviceId refers) fun other member deletes => ?_
    exact (sound.deleting other member serviceId deletes).2 entry old refers
  · obtain ⟨unreferenced, undrafted⟩ :=
      sound.deleting entry (List.mem_of_mem_filter pending) serviceId deletes
    refine ⟨Bool.eq_false_iff.mpr fun refers => ?_, fun other member =>
      undrafted other (List.mem_of_mem_filter member)⟩
    rcases (refers_view world pid serviceId).mp refers with old | ⟨write, mine, names⟩
    · exact Bool.eq_false_iff.mp unreferenced old
    · exact undrafted _ mine names

/-- **An accepted row** refers to a service that is there and that nobody is deleting. -/
theorem insert (sound : Referential world) {row : CatalogRow} {nextId : Nat}
    (has : (world.view pid).hasService row.serviceId = true)
    (free : world.sessions.mustWait pid (.insert row) = false) :
    Referential { world with sessions := world.sessions.add pid (.insert row), nextId } := by
  obtain ⟨committed, notMine⟩ := (hasService_view world pid row.serviceId).mp has
  have kept : ∀ entry ∈ world.sessions.pending, entry.2 ≠ .deleteService row.serviceId := by
    intro entry pending deletes
    obtain ⟨owner, write⟩ := entry
    obtain rfl : write = .deleteService row.serviceId := deletes
    by_cases mine : owner = pid
    · exact notMine (mine ▸ pending)
    · have waits := waitsFor_of_free free pending mine
      simp [CatalogWrite.waitsFor] at waits
  refine ⟨sound.stored, fun entry member serviceId refers => ?_,
    fun entry member serviceId deletes => ?_⟩
  · rcases List.mem_append.mp member with old | new
    · exact sound.drafted entry old serviceId refers
    · rw [List.mem_singleton] at new
      subst new
      obtain rfl : row.serviceId = serviceId := Option.some.inj refers
      exact committed
  · rcases List.mem_append.mp member with old | new
    · obtain ⟨unreferenced, undrafted⟩ := sound.deleting entry old serviceId deletes
      refine ⟨unreferenced, fun other memberToo refers => ?_⟩
      rcases List.mem_append.mp memberToo with older | new
      · exact undrafted other older refers
      · rw [List.mem_singleton] at new
        subst new
        obtain rfl : row.serviceId = serviceId := Option.some.inj refers
        exact kept entry old deletes
    · rw [List.mem_singleton] at new
      subst new
      cases deletes

theorem update (sound : Referential world) (pid : Pid) (serviceId : Nat)
    (columns : ServiceColumns) :
    Referential { world with
      sessions := world.sessions.add pid (.updateService serviceId columns) } := by
  refine ⟨sound.stored, fun entry member other refers => ?_, fun entry member other deletes => ?_⟩
  · rcases List.mem_append.mp member with old | new
    · exact sound.drafted entry old other refers
    · rw [List.mem_singleton] at new
      subst new
      cases refers
  · rcases List.mem_append.mp member with old | new
    · obtain ⟨unreferenced, undrafted⟩ := sound.deleting entry old other deletes
      refine ⟨unreferenced, fun further memberToo refers => ?_⟩
      rcases List.mem_append.mp memberToo with older | new
      · exact undrafted further older refers
      · rw [List.mem_singleton] at new
        subst new
        cases refers
    · rw [List.mem_singleton] at new
      subst new
      cases deletes

/-- **An accepted deletion** leaves no row behind that refers to the service. -/
theorem delete (sound : Referential world) {serviceId : Nat}
    (unreferenced : (world.view pid).refers serviceId = false)
    (free : world.sessions.mustWait pid (.deleteService serviceId) = false) :
    Referential { world with sessions := world.sessions.add pid (.deleteService serviceId) } := by
  rw [Bool.eq_false_iff] at unreferenced
  have undrafted : ∀ entry ∈ world.sessions.pending, entry.2.refersTo ≠ some serviceId := by
    rintro ⟨owner, write⟩ pending refers
    by_cases mine : owner = pid
    · exact unreferenced ((refers_view world pid serviceId).mpr
        (.inr ⟨write, mine ▸ pending, refers⟩))
    · have waits := waitsFor_of_free free pending mine
      simp [CatalogWrite.waitsFor, refers] at waits
  have uncommitted : world.db.refers serviceId = false :=
    Bool.eq_false_iff.mpr fun refers =>
      unreferenced ((refers_view world pid serviceId).mpr (.inl refers))
  refine ⟨sound.stored, fun entry member other refers => ?_, fun entry member other deletes => ?_⟩
  · rcases List.mem_append.mp member with old | new
    · exact sound.drafted entry old other refers
    · rw [List.mem_singleton] at new
      subst new
      cases refers
  · have both : world.db.refers other = false ∧
        ∀ further ∈ world.sessions.pending, further.2.refersTo ≠ some other := by
      rcases List.mem_append.mp member with old | new
      · exact sound.deleting entry old other deletes
      · rw [List.mem_singleton] at new
        subst new
        cases deletes
        exact ⟨uncommitted, undrafted⟩
    refine ⟨both.1, fun further memberToo refers => ?_⟩
    rcases List.mem_append.mp memberToo with older | new
    · exact both.2 further older refers
    · rw [List.mem_singleton] at new
      subst new
      cases refers

/-- **Every effect keeps the references.** -/
theorem effect (sound : Referential world) {event : Event CatalogSql} {after : CatalogWorld}
    (effect : CatalogEffect pid world event after) : Referential after := by
  cases effect with
  | select query => exact sound
  | refused refuses => exact ⟨sound.stored, sound.drafted, sound.deleting⟩
  | inserted accepted free =>
      rw [CatalogDb.refuses, Option.or_eq_none_iff] at accepted
      refine sound.insert ?_ free
      by_contra missing
      rw [if_neg missing] at accepted
      cases accepted.2
  | updated has => exact sound.update pid _ _
  | missed gone => exact sound
  | deleted has unreferenced free => exact sound.delete unreferenced free
  | held referenced => exact sound
  | absent gone => exact sound
  | commit => exact sound.commit pid

/-- **Every step keeps the references.** -/
theorem step {before after : CatalogConfig} {action : Action CatalogCall}
    (sound : Referential before.world) (taken : Step catalogMachine before action after) :
    Referential after.world := by
  cases taken with
  | @start pid call idle => exact sound.release pid
  | issue running executed => exact sound.effect (execCatalog_effect executed)
  | @finish pid process result running ended => exact sound.release pid
  | @stop pid process running => exact sound.release pid
  | ambient changed =>
      obtain ⟨clock, -, rfl⟩ := changed
      exact ⟨sound.stored, sound.drafted, sound.deleting⟩

end Referential

end Worlds

/-! ## What a statement leaves alone -/

/-- The statement changes nothing, whatever there is. -/
def ChangesNothing (stmt : CatalogStmt) : Prop := ∀ pid world, (effectOf pid stmt world).2 = world

section Frames

variable {world after : CatalogWorld} {pid : Pid} {event : Event CatalogSql}

/-- A statement of a session leaves the writes of the others. -/
theorem CatalogEffect.others (effect : CatalogEffect pid world event after) {other : Pid}
    (different : other ≠ pid) : after.sessions.writesOf other = world.sessions.writesOf other := by
  cases effect with
  | inserted accepted free => exact Sessions.writesOf_add_of_ne different _
  | updated has => exact Sessions.writesOf_add_of_ne different _
  | deleted has unreferenced free => exact Sessions.writesOf_add_of_ne different _
  | commit => exact Sessions.writesOf_committed_of_ne different
  | _ => rfl

/-- **A service that is gone stays gone.** -/
theorem CatalogEffect.gone (effect : CatalogEffect pid world event after) {serviceId : Nat}
    (gone : world.db.hasService serviceId = false) : after.db.hasService serviceId = false := by
  cases effect with
  | commit =>
      exact Bool.eq_false_iff.mpr fun has =>
        Bool.eq_false_iff.mp gone ((hasService_view world pid serviceId).mp has).1
  | _ => exact gone

theorem gone_of_step {before after : CatalogConfig} {action : Action CatalogCall}
    (taken : Step catalogMachine before action after) {serviceId : Nat}
    (gone : before.world.db.hasService serviceId = false) :
    after.world.db.hasService serviceId = false := by
  cases taken with
  | start call idle => exact gone
  | issue running executed => exact (execCatalog_effect executed).gone gone
  | finish running ended => exact gone
  | stop running => exact gone
  | ambient changed =>
      obtain ⟨clock, -, rfl⟩ := changed
      exact gone

end Frames

/-! ## A service of the first salon -/

theorem halfHour_pos : 0 < 30 := Nat.succ_pos 29

/-- A service of the salon. -/
def offered (id : Nat) : Service :=
  ⟨id, 1, 1, "Haircut", 30, halfHour_pos, true, none, false, none⟩

end AppointmentVoice.Catalog
