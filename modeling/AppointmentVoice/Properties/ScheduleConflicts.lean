import AppointmentVoice.Concurrency.CheckedInserts
import AppointmentVoice.Concurrency.Paths
import AppointmentVoice.Intervals.Windows
import AppointmentVoice.Schedule.Services

/-!
# Schedule rows are free of conflicts

Both services read the rows of a scope, look for one that is in the way, and insert.  Two
creations that read before either has committed do not see each other, and both rows are
there.  As long as no creation reads its scope while another one with a conflicting row is
between its own read and its commit, a closure is alone in its scope, and special hours
and blocks are disjoint.

**The result.** A creation inserts only what its read of the scope has let pass
(`performSchedule_along`), every step keeps the scopes guarded (`Guarded.step`), and so the
rows stay free of conflicts (`schedule_stays_conflict_free`); `both_closures_commit` is a race
of two closures.
-/

set_option autoImplicit false

namespace AppointmentVoice.Schedule

open Concurrency Program

/-! ## Rows that get along -/

/-- The times that special hours take up. -/
def AvailabilityException.hours (row : AvailabilityException) : Set TimeOfDay :=
  {time | ∃ start stop, row.startTime = some start ∧ row.endTime = some stop ∧
    time ∈ Intervals.Window.points (start, stop)}

/-- The times that a block takes up. -/
def RecurringStaffBlock.hours (row : RecurringStaffBlock) : Set TimeOfDay :=
  Intervals.Window.points (row.startTime, row.endTime)

/-- The scope of an exception: its salon, its staff member or none, and its date. -/
def AvailabilityException.scope (row : AvailabilityException) : Nat × Option Nat × Date :=
  (row.businessId, row.staffId, row.date)

/-- The scope of a block: its salon, its staff member or none, and its weekday. -/
def RecurringStaffBlock.scope (row : RecurringStaffBlock) : Nat × Option Nat × Int :=
  (row.businessId, row.staffId, row.dayOfWeek)

/-- In one scope there is no closure beside another row, and special hours are disjoint. -/
def AvailabilityException.Compatible (row other : AvailabilityException) : Prop :=
  row.scope = other.scope →
    row.isClosed = false ∧ other.isClosed = false ∧ Disjoint row.hours other.hours

/-- In one scope blocks are disjoint. -/
def RecurringStaffBlock.Compatible (row other : RecurringStaffBlock) : Prop :=
  row.scope = other.scope → Disjoint row.hours other.hours

/-- The tables are free of conflicts. -/
def ConflictFree (db : ScheduleDb) : Prop :=
  db.exceptions.Pairwise AvailabilityException.Compatible ∧
    db.blocks.Pairwise RecurringStaffBlock.Compatible

/-- The two windows meet, as the services compare them. -/
def AvailabilityException.overlaps (row other : AvailabilityException) : Bool :=
  match row.startTime, row.endTime, other.startTime, other.endTime with
  | some start, some stop, some otherStart, some otherStop => start < otherStop && otherStart < stop
  | _, _, _, _ => false

def RecurringStaffBlock.overlaps (row other : RecurringStaffBlock) : Bool :=
  other.startTime < row.endTime && row.startTime < other.endTime

/-- What the check of an exception looks at. -/
def AvailabilityException.passes (row other : AvailabilityException) : Bool :=
  !(row.isClosed || other.isClosed) && !row.overlaps other

theorem disjoint_of_not_overlap {start stop otherStart otherStop : TimeOfDay}
    (proper : start < stop)
    (properToo : otherStart < otherStop)
    (apart : (start < otherStop && otherStart < stop : Bool) = false) :
    Disjoint (Intervals.Window.points (start, stop))
      (Intervals.Window.points (otherStart, otherStop)) := by
  have windows : Intervals.Window.Proper (start, stop) ∧
      Intervals.Window.Proper (otherStart, otherStop) := ⟨proper, properToo⟩
  rw [Intervals.disjoint_iff windows.1 windows.2]
  rw [Bool.and_eq_false_iff, decide_eq_false_iff_not, decide_eq_false_iff_not, not_lt,
    not_lt] at apart
  exact apart.symm

/-- Rows that pass the check are compatible. -/
theorem AvailabilityException.compatible_of_passes {row other : AvailabilityException}
    (passes : row.passes other = true) : row.Compatible other := by
  intro _
  rw [AvailabilityException.passes, Bool.and_eq_true, Bool.not_eq_true', Bool.not_eq_true',
    Bool.or_eq_false_iff] at passes
  obtain ⟨⟨isOpen, openToo⟩, apart⟩ := passes
  obtain ⟨start, stop, starts, stops, proper⟩ := row.endsAfterStart isOpen
  obtain ⟨otherStart, otherStop, startsToo, stopsToo, properToo⟩ := other.endsAfterStart openToo
  refine ⟨isOpen, openToo, ?_⟩
  rw [AvailabilityException.overlaps, starts, stops, startsToo, stopsToo] at apart
  have disjoint := disjoint_of_not_overlap proper properToo apart
  rw [Set.disjoint_left] at disjoint ⊢
  rintro time ⟨first, last, is, isToo, inside⟩ ⟨firstToo, lastToo, is', isToo', insideToo⟩
  cases is.symm.trans starts
  cases isToo.symm.trans stops
  cases is'.symm.trans startsToo
  cases isToo'.symm.trans stopsToo
  exact disjoint inside insideToo

theorem RecurringStaffBlock.compatible_of_not_overlaps {row other : RecurringStaffBlock}
    (apart : row.overlaps other = false) : row.Compatible other :=
  fun _ => disjoint_of_not_overlap row.endAfterStart other.endAfterStart (Bool.and_comm _ _ ▸ apart)

theorem AvailabilityException.Compatible.symm {row other : AvailabilityException}
    (compatible : row.Compatible other) : other.Compatible row := by
  intro same
  obtain ⟨isOpen, openToo, disjoint⟩ := compatible same.symm
  exact ⟨openToo, isOpen, disjoint.symm⟩

theorem RecurringStaffBlock.Compatible.symm {row other : RecurringStaffBlock}
    (compatible : row.Compatible other) : other.Compatible row :=
  fun same => (compatible same.symm).symm

/-! ## The two tables -/

/-- The row without its number. -/
def AvailabilityException.unnumbered (row : AvailabilityException) : AvailabilityException :=
  { row with id := 0 }

def RecurringStaffBlock.unnumbered (row : RecurringStaffBlock) : RecurringStaffBlock :=
  { row with id := 0 }

/-- A row belongs to a salon of its tenant. -/
def OwnedBy (businesses : List Business) (businessId tenantId : Nat) : Prop :=
  ∃ business ∈ businesses, business.id = businessId ∧ business.tenantId = tenantId

def exceptionTable (businesses : List Business) :
    CheckedTable ScheduleDb ScheduleWrite AvailabilityException where
  slots db := db.exceptions.map AvailabilityException.unnumbered
  inserted
    | .insertException row => some row.unnumbered
    | _ => none
  Fits slot := OwnedBy businesses slot.businessId slot.tenantId
  Compatible := AvailabilityException.Compatible
  symm _ _ := AvailabilityException.Compatible.symm
  slots_apply db write := by
    cases write with
    | insertException row =>
        change ((db.exceptions ++ [row]).map _).Sublist _
        rw [List.map_append]
        exact .refl _
    | insertBlock row =>
        rw [Option.toList_none, List.append_nil]
        exact .refl _
    | deleteException id =>
        rw [Option.toList_none, List.append_nil]
        exact List.filter_sublist.map _
    | deleteBlock id =>
        rw [Option.toList_none, List.append_nil]
        exact .refl _

def blockTable (businesses : List Business) :
    CheckedTable ScheduleDb ScheduleWrite RecurringStaffBlock where
  slots db := db.blocks.map RecurringStaffBlock.unnumbered
  inserted
    | .insertBlock row => some row.unnumbered
    | _ => none
  Fits slot := OwnedBy businesses slot.businessId slot.tenantId
  Compatible := RecurringStaffBlock.Compatible
  symm _ _ := RecurringStaffBlock.Compatible.symm
  slots_apply db write := by
    cases write with
    | insertBlock row =>
        change ((db.blocks ++ [row]).map _).Sublist _
        rw [List.map_append]
        exact .refl _
    | insertException row =>
        rw [Option.toList_none, List.append_nil]
        exact .refl _
    | deleteException id =>
        rw [Option.toList_none, List.append_nil]
        exact .refl _
    | deleteBlock id =>
        rw [Option.toList_none, List.append_nil]
        exact List.filter_sublist.map _

/-! ## What a request has checked -/

/-- The exception or the block that a request is about, or that it deletes one. -/
structure Plans where
  exception : Plan AvailabilityException := .idle
  block : Plan RecurringStaffBlock := .idle
  deletes : Bool := false

/-- The row of a request has been added. -/
def Plans.added (plans : Plans) : Plans :=
  match plans.exception, plans.block with
  | .checked row, _ => { plans with exception := .added row }
  | _, .checked row => { plans with block := .added row }
  | _, _ => plans

/-- A read of the scope checks the row of the request; a commit ends its transaction. -/
def ScheduleCall.learn (call : ScheduleCall) (plans : Plans) : Event ScheduleSql → Plans
  | ⟨.select (.exceptionsOf _ _ _ _), existing⟩ =>
      match call with
      | .createAvailabilityException tenantId businessId body =>
          if List.all existing (body.row tenantId businessId 0).passes then
            { exception := .checked (body.row tenantId businessId 0) }
          else {}
      | _ => plans
  | ⟨.select (.blocksOf _ _ _ _), existing⟩ =>
      match call with
      | .createRecurringStaffBlock tenantId businessId body =>
          if List.any existing (body.row tenantId businessId 0).overlaps then {}
          else { block := .checked (body.row tenantId businessId 0) }
      | _ => plans
  | ⟨.insert _, _⟩ => plans.added
  | ⟨.delete _, _⟩ => { plans with deletes := true }
  | ⟨.commit, _⟩ => {}
  | _ => plans

section Monitors

variable (businesses : List Business) (call : ScheduleCall)

/-- The answers that are possible: a salon that is found is one of those that there are. -/
def ScheduleCall.may : Event ScheduleSql → Prop
  | ⟨.select (.business id tenantId), some _⟩ => OwnedBy businesses id tenantId
  | _ => True

/-- The statements of a request: it reads the scope of its own row, in a salon that is
there, and inserts what it has checked. -/
def ScheduleCall.must (plans : Plans) : ScheduleStmt → Prop
  | .select (.exceptionsOf businessId tenantId staffId date) =>
      plans = {} ∧ OwnedBy businesses businessId tenantId ∧ ∃ body,
        call = .createAvailabilityException tenantId businessId body ∧ body.staffId = staffId ∧
          body.date = date
  | .select (.blocksOf businessId tenantId staffId dayOfWeek) =>
      plans = {} ∧ OwnedBy businesses businessId tenantId ∧ ∃ body,
        call = .createRecurringStaffBlock tenantId businessId body ∧ body.staffId = staffId ∧
          body.dayOfWeek = dayOfWeek
  | .insert draft => ∀ id,
      (∃ row, draft id = .insertException row ∧ plans = { exception := .checked row.unnumbered }) ∨
        ∃ row, draft id = .insertBlock row ∧ plans = { block := .checked row.unnumbered }
  | .delete write => ∃ id, write = .deleteException id ∨ write = .deleteBlock id
  | _ => True

def scheduleMonitor : Monitor ScheduleSql Plans where
  may _ := ScheduleCall.may businesses
  must := ScheduleCall.must businesses call
  learn := call.learn

def scheduleWatch : Watch ScheduleSql ScheduleCall ScheduleError Unit Plans where
  monitor := scheduleMonitor businesses
  initial _ := {}
  post _ _ _ := True

end Monitors

/-- What the process with this name is about. -/
def ScheduleConfig.plans (config : ScheduleConfig) : Pid → Plans :=
  config.stages (scheduleWatch []) {}

/-! ## The programs of the requests -/

section Programs

variable {businesses : List Business} {call : ScheduleCall} {α β : Type} {plans : Plans}

theorem along_orRaise {error : ScheduleError} {value : Option α} {next : α → ScheduleM β}
    {post : Except ScheduleError β → Plans → Prop} (raises : post (.error error) plans)
    (rest : ∀ found, value = some found →
      (scheduleMonitor businesses call).Along post (next found) plans) :
    (scheduleMonitor businesses call).Along post (orRaise error value >>= next) plans := by
  cases value with
  | none => exact .raise raises
  | some found => exact rest found rfl

/-- The salon is there, and the staff member is in it, before the scope is read. -/
theorem along_require {businessId tenantId : Nat} {staffId : Option Nat} {next : Unit → ScheduleM β}
    {post : Except ScheduleError β → Plans → Prop} (raises : ∀ error, post (.error error) plans)
    (rest : OwnedBy businesses businessId tenantId →
      (scheduleMonitor businesses call).Along post (next ()) plans) :
    (scheduleMonitor businesses call).Along post (do
      let _ ← requireBusiness businessId tenantId
      next (← requireScope staffId businessId tenantId)) plans := by
  refine .issue trivial fun answer possible => along_orRaise (raises _) fun business found => ?_
  obtain rfl : answer = some business := found
  have owned : OwnedBy businesses businessId tenantId := possible
  cases staffId with
  | none => exact rest owned
  | some staffId =>
      unfold requireScope requireStaffInBusiness requireStaff
      dsimp only
      rw [bind_assoc, bind_assoc]
      refine .issue trivial fun answer _ => ?_
      cases (answer : Option Staff) with
      | none => exact .raise (raises _)
      | some member => exact .guard (raises _) fun _ => rest owned

/-- The loop raises unless no window meets that of the request. -/
theorem ensureNoOverlap_ok {row : AvailabilityException} (isOpen : row.isClosed = false)
    {existing : List AvailabilityException} (openToo : existing.any (·.isClosed) = false) :
    ensureNoOverlap row.startTime row.endTime existing =
      if existing.all row.passes then pure () else throw exceptionOverlap := by
  obtain ⟨start, stop, starts, stops, -⟩ := row.endsAfterStart isOpen
  induction existing with
  | nil => rfl
  | cons e existing ih =>
      rw [List.any_cons, Bool.or_eq_false_iff] at openToo
      obtain ⟨first, last, is, isToo, -⟩ := e.endsAfterStart openToo.1
      have rest := ih openToo.2
      have here : row.passes e = !(start < last && first < stop : Bool) := by
        rw [AvailabilityException.passes, isOpen, openToo.1, AvailabilityException.overlaps, starts,
          stops, is, isToo]
        rfl
      rw [List.all_cons, here]
      rw [ensureNoOverlap, rest, starts, stops, is, isToo]
      by_cases before : first < stop
      · by_cases after : start < last
        · simp [earlier, before, after]
        · simp [earlier, before, after]
      · simp [earlier, before]

/-- **A creation of an exception** inserts only what its read of the scope has let pass. -/
theorem along_createAvailabilityException (tenantId businessId : Nat)
    (body : AvailabilityExceptionCreate) :
    (scheduleMonitor businesses (.createAvailabilityException tenantId businessId body)).Along
      (fun _ _ => True) (createAvailabilityException tenantId businessId body) {} := by
  refine along_require (fun _ => trivial) fun owned => ?_
  unfold ensureNoConflictingException
  rw [bind_assoc]
  refine .issue ⟨rfl, owned, body, rfl, rfl, rfl⟩ fun existing _ => ?_
  obtain ⟨existing, rfl⟩ : ∃ rows : List AvailabilityException, rows = existing := ⟨existing, rfl⟩
  -- What is left once nothing is in the way.
  have inserts : (scheduleMonitor businesses
    (.createAvailabilityException tenantId businessId body)).Along
      (fun _ _ => True) (do
        let id ← insert fun id => .insertException (body.row tenantId businessId id)
        commit
        orRaise .database (← select (.exceptionByPrimaryKey id)))
      { exception := .checked (body.row tenantId businessId 0) } := by
    refine .issue (fun id => .inl ⟨_, rfl, rfl⟩) fun id _ => .issue trivial fun _ _ =>
      .issue trivial fun answer _ => ?_
    cases (answer : Option AvailabilityException) with
    | none => exact .raise trivial
    | some row => exact .ret trivial
  change (scheduleMonitor _ _).Along _ _
    (if List.all existing (body.row tenantId businessId 0).passes then
      { exception := .checked (body.row tenantId businessId 0) } else {})
  by_cases none : existing.isEmpty = true
  · rw [List.isEmpty_iff] at none
    subst none
    exact inserts
  rw [if_neg none]
  refine .guard trivial fun closed => ?_
  rw [Bool.not_eq_true, Bool.or_eq_false_iff] at closed
  have isOpen : (body.row tenantId businessId 0).isClosed = false := closed.1
  have checks : ensureNoOverlap body.startTime body.endTime existing = _ :=
    ensureNoOverlap_ok isOpen closed.2
  rw [checks]
  by_cases passes : existing.all (body.row tenantId businessId 0).passes = true
  · rw [if_pos passes, if_pos passes]
    exact inserts
  · rw [if_neg passes]
    exact .raise trivial

/-- **A creation of a block** inserts only what its read of the scope has let pass. -/
theorem along_createRecurringStaffBlock (tenantId businessId : Nat)
    (body : RecurringStaffBlockCreate) :
    (scheduleMonitor businesses (.createRecurringStaffBlock tenantId businessId body)).Along
      (fun _ _ => True) (createRecurringStaffBlock tenantId businessId body) {} := by
  refine along_require (fun _ => trivial) fun owned => ?_
  unfold ensureNoConflictingBlock
  rw [bind_assoc]
  refine .issue ⟨rfl, owned, body, rfl, rfl, rfl⟩ fun existing _ => ?_
  obtain ⟨existing, rfl⟩ : ∃ rows : List RecurringStaffBlock, rows = existing := ⟨existing, rfl⟩
  refine .bind ?_
  split
  · exact .raise trivial
  next clear =>
    change (scheduleMonitor _ _).Along _ _
      (if List.any existing (body.row tenantId businessId 0).overlaps then {}
        else { block := .checked (body.row tenantId businessId 0) })
    have apart : ¬existing.any (body.row tenantId businessId 0).overlaps = true := clear
    rw [if_neg apart]
    refine .ret (.issue (fun id => .inr ⟨_, rfl, rfl⟩) fun id _ => .issue trivial fun _ _ =>
      .issue trivial fun answer _ => ?_)
    cases (answer : Option RecurringStaffBlock) with
    | none => exact .raise trivial
    | some row => exact .ret trivial

/-- **Every request keeps to its monitor.** -/
theorem performSchedule_along (call : ScheduleCall) :
    (scheduleMonitor businesses call).Along (fun _ _ => True) (performSchedule call) {} := by
  cases call with
  | createAvailabilityException tenantId businessId body =>
      refine .bind ((along_createAvailabilityException tenantId businessId body).mono
        fun result later _ => ?_)
      cases result with
      | ok row => exact .ret trivial
      | error error => exact trivial
  | createRecurringStaffBlock tenantId businessId body =>
      refine .bind ((along_createRecurringStaffBlock tenantId businessId body).mono
        fun result later _ => ?_)
      cases result with
      | ok row => exact .ret trivial
      | error error => exact trivial
  | deleteAvailabilityException exceptionId tenantId businessId =>
      refine .issue trivial fun answer _ => ?_
      cases (answer : Option AvailabilityException) with
      | none => exact .raise trivial
      | some exc =>
          refine .guard trivial fun _ => ?_
          exact .issue ⟨_, .inl rfl⟩ fun _ _ => .call trivial fun _ _ => .ret trivial
  | deleteRecurringStaffBlock blockId tenantId businessId =>
      refine .issue trivial fun answer _ => ?_
      cases (answer : Option RecurringStaffBlock) with
      | none => exact .raise trivial
      | some block =>
          refine .guard trivial fun _ => ?_
          exact .issue ⟨_, .inr rfl⟩ fun _ _ => .call trivial fun _ _ => .ret trivial

end Programs

/-! ## One step -/

/-- Each salon has its own number. -/
def SingleBusinesses (businesses : List Business) : Prop :=
  ∀ first ∈ businesses, ∀ second ∈ businesses, first.id = second.id → first = second

/-- The salon names the tenant. -/
theorem OwnedBy.tenant {businesses : List Business} (single : SingleBusinesses businesses)
    {businessId tenantId otherTenant : Nat} (owned : OwnedBy businesses businessId tenantId)
    (ownedToo : OwnedBy businesses businessId otherTenant) : tenantId = otherTenant := by
  obtain ⟨first, member, named, tenant⟩ := owned
  obtain ⟨second, memberToo, namedToo, tenantToo⟩ := ownedToo
  rw [← tenant, ← tenantToo, single first member second memberToo (named.trans namedToo.symm)]

/-- **The invariant**: the salons are those of the start, in both tables the rows get along
with each other and with those that have been checked, and a request that has done nothing
yet has written nothing. -/
structure Guarded (businesses : List Business) (world : ScheduleWorld) (plans : Pid → Plans) :
    Prop where
  salons : world.db.businesses = businesses
  exceptions : (exceptionTable businesses).Apart world.sessions fun pid => (plans pid).exception
  blocks : (blockTable businesses).Apart world.sessions fun pid => (plans pid).block
  fresh : ∀ pid, plans pid = {} → world.sessions.writesOf pid = []

section Steps

variable {businesses : List Business} {world : ScheduleWorld} {plans : Pid → Plans} {pid : Pid}

theorem exception_update (plans : Pid → Plans) (pid : Pid) (mine : Plans) :
    (fun other => (Function.update plans pid mine other).exception) =
      Function.update (fun other => (plans other).exception) pid mine.exception := by
  funext other
  by_cases same : other = pid
  · rw [same, Function.update_self, Function.update_self]
  · rw [Function.update_of_ne same, Function.update_of_ne same]

theorem block_update (plans : Pid → Plans) (pid : Pid) (mine : Plans) :
    (fun other => (Function.update plans pid mine other).block) =
      Function.update (fun other => (plans other).block) pid mine.block := by
  funext other
  by_cases same : other = pid
  · rw [same, Function.update_self, Function.update_self]
  · rw [Function.update_of_ne same, Function.update_of_ne same]

/-- Only the session that moves may have writes that it did not have. -/
theorem fresh_update {sessions after : Sessions ScheduleDb ScheduleWrite} {mine : Plans}
    (fresh : ∀ other, plans other = {} → sessions.writesOf other = [])
    (others : ∀ other, other ≠ pid → after.writesOf other = sessions.writesOf other)
    (here : mine = {} → after.writesOf pid = []) :
    ∀ other, Function.update plans pid mine other = {} → after.writesOf other = [] := by
  intro other idle
  by_cases same : other = pid
  · subst same
    rw [Function.update_self] at idle
    exact here idle
  · rw [Function.update_of_ne same] at idle
    exact (others other same).trans (fresh other idle)

theorem businesses_applyAll (db : ScheduleDb) (writes : List ScheduleWrite) :
    (Sessions.applyAll db writes).businesses = db.businesses := by
  induction writes generalizing db with
  | nil => rfl
  | cons write writes ih =>
      rw [Sessions.applyAll_cons, ih]
      cases write <;> rfl

namespace Guarded

/-- A request that begins or ends has no plan and no writes. -/
theorem release (guarded : Guarded businesses world plans) (pid : Pid) :
    Guarded businesses (world.release pid) (Function.update plans pid {}) where
  salons := guarded.salons
  exceptions := by
    rw [exception_update]
    exact guarded.exceptions.release pid
  blocks := by
    rw [block_update]
    exact guarded.blocks.release pid
  fresh := fresh_update guarded.fresh (fun _ different => Sessions.writesOf_release_of_ne different)
    fun _ => Sessions.writesOf_release_self

theorem commit (guarded : Guarded businesses world plans) (pid : Pid) :
    Guarded businesses { world with sessions := world.sessions.committed pid }
      (Function.update plans pid {}) where
  salons := (businesses_applyAll ..).trans guarded.salons
  exceptions := by
    rw [exception_update]
    exact guarded.exceptions.commit pid
  blocks := by
    rw [block_update]
    exact guarded.blocks.commit pid
  fresh := fresh_update guarded.fresh
    (fun _ different => Sessions.writesOf_committed_of_ne different)
    fun _ => Sessions.writesOf_committed_self

/-- A statement that teaches nothing and writes nothing. -/
theorem unchanged (guarded : Guarded businesses world plans) {mine : Plans}
    (same : mine = plans pid) : Guarded businesses world (Function.update plans pid mine) := by
  rw [same, Function.update_eq_self]
  exact guarded

/-- The row of an exception that the check lets pass gets along with what is committed. -/
theorem clearException (guarded : Guarded businesses world plans)
    (single : SingleBusinesses businesses) {tenantId businessId : Nat}
    {body : AvailabilityExceptionCreate} (owned : OwnedBy businesses businessId tenantId)
    (passes : (ScheduleQuery.eval (.exceptionsOf businessId tenantId body.staffId body.date)
      world.db).all (body.row tenantId businessId 0).passes = true) :
    ∀ slot ∈ (exceptionTable businesses).slots world.db,
      (body.row tenantId businessId 0).Compatible slot := by
  rintro slot member same
  obtain ⟨row, stored, rfl⟩ := List.mem_map.mp member
  obtain ⟨salon, staff, date⟩ : businessId = row.businessId ∧ body.staffId = row.staffId ∧
      body.date = row.date := by
    rw [AvailabilityException.scope, AvailabilityException.scope, Prod.mk.injEq,
      Prod.mk.injEq] at same
    exact same
  have tenant : row.tenantId = tenantId :=
    OwnedBy.tenant single (guarded.exceptions.fits row.unnumbered member) (salon ▸ owned)
  have answered : row ∈ ScheduleQuery.eval
      (.exceptionsOf businessId tenantId body.staffId body.date) world.db := by
    refine List.mem_filter.mpr ⟨stored, ?_⟩
    rw [salon, staff, date, tenant]
    simp
  exact AvailabilityException.compatible_of_passes (List.all_eq_true.mp passes row answered) same

theorem clearBlock (guarded : Guarded businesses world plans)
    (single : SingleBusinesses businesses) {tenantId businessId : Nat}
    {body : RecurringStaffBlockCreate} (owned : OwnedBy businesses businessId tenantId)
    (apart : ¬(ScheduleQuery.eval (.blocksOf businessId tenantId body.staffId body.dayOfWeek)
      world.db).any (body.row tenantId businessId 0).overlaps = true) :
    ∀ slot ∈ (blockTable businesses).slots world.db,
      (body.row tenantId businessId 0).Compatible slot := by
  rintro slot member same
  obtain ⟨row, stored, rfl⟩ := List.mem_map.mp member
  obtain ⟨salon, staff, day⟩ : businessId = row.businessId ∧ body.staffId = row.staffId ∧
      body.dayOfWeek = row.dayOfWeek := by
    rw [RecurringStaffBlock.scope, RecurringStaffBlock.scope, Prod.mk.injEq, Prod.mk.injEq] at same
    exact same
  have tenant : row.tenantId = tenantId :=
    OwnedBy.tenant single (guarded.blocks.fits row.unnumbered member) (salon ▸ owned)
  have answered : row ∈ ScheduleQuery.eval
      (.blocksOf businessId tenantId body.staffId body.dayOfWeek) world.db := by
    refine List.mem_filter.mpr ⟨stored, ?_⟩
    rw [salon, staff, day, tenant]
    simp
  rw [List.any_eq_true, not_exists] at apart
  have clear := Bool.eq_false_iff.mpr fun meets => apart row ⟨answered, meets⟩
  exact RecurringStaffBlock.compatible_of_not_overlaps clear same

/-- **An exception is checked** while nobody with one in its way is between his read and
his commit. -/
theorem checksException (guarded : Guarded businesses world plans) {row : AvailabilityException}
    (idle : plans pid = {}) (owned : OwnedBy businesses row.businessId row.tenantId)
    (clear : ∀ slot ∈ (exceptionTable businesses).slots world.db, row.Compatible slot)
    (alone : ∀ other slot, other ≠ pid → (plans other).exception.slot? = some slot →
      row.Compatible slot) :
    Guarded businesses world (Function.update plans pid { exception := .checked row }) where
  salons := guarded.salons
  exceptions := by
    rw [exception_update]
    exact guarded.exceptions.check (by rw [idle]) owned clear alone
  blocks := by
    have none : (plans pid).block = .idle := by rw [idle]
    rw [block_update]
    change (blockTable businesses).Apart _ (Function.update _ pid .idle)
    rw [← none, Function.update_eq_self (f := fun other => (plans other).block)]
    exact guarded.blocks
  fresh := fresh_update guarded.fresh (fun _ _ => rfl) fun none => nomatch none

theorem checksBlock (guarded : Guarded businesses world plans) {row : RecurringStaffBlock}
    (idle : plans pid = {}) (owned : OwnedBy businesses row.businessId row.tenantId)
    (clear : ∀ slot ∈ (blockTable businesses).slots world.db, row.Compatible slot)
    (alone : ∀ other slot, other ≠ pid → (plans other).block.slot? = some slot →
      row.Compatible slot) :
    Guarded businesses world (Function.update plans pid { block := .checked row }) where
  salons := guarded.salons
  exceptions := by
    have none : (plans pid).exception = .idle := by rw [idle]
    rw [exception_update]
    change (exceptionTable businesses).Apart _ (Function.update _ pid .idle)
    rw [← none, Function.update_eq_self (f := fun other => (plans other).exception)]
    exact guarded.exceptions
  blocks := by
    rw [block_update]
    exact guarded.blocks.check (by rw [idle]) owned clear alone
  fresh := fresh_update guarded.fresh (fun _ _ => rfl) fun none => nomatch none

/-- The row that has been checked is added to the transaction. -/
theorem insert (guarded : Guarded businesses world plans) {draft : Nat → ScheduleWrite}
    (planned : (∃ row, draft world.nextId = .insertException row ∧
        plans pid = { exception := .checked row.unnumbered }) ∨
      ∃ row, draft world.nextId = .insertBlock row ∧
        plans pid = { block := .checked row.unnumbered }) :
    Guarded businesses ⟨world.sessions.add pid (draft world.nextId), world.nextId + 1⟩
      (Function.update plans pid (plans pid).added) := by
  rcases planned with ⟨row, drafted, plan⟩ | ⟨row, drafted, plan⟩
  · rw [drafted, plan]
    have other : (plans pid).block = .idle := by rw [plan]
    refine ⟨guarded.salons, ?_, ?_, fresh_update guarded.fresh
      (fun _ different => Sessions.writesOf_add_of_ne different _) fun none => nomatch none⟩
    · rw [exception_update]
      exact guarded.exceptions.add (by rw [plan]) rfl
    · rw [block_update]
      change (blockTable businesses).Apart _ (Function.update _ pid .idle)
      rw [← other, Function.update_eq_self (f := fun other => (plans other).block)]
      exact guarded.blocks.remove pid rfl
  · rw [drafted, plan]
    have other : (plans pid).exception = .idle := by rw [plan]
    refine ⟨guarded.salons, ?_, ?_, fresh_update guarded.fresh
      (fun _ different => Sessions.writesOf_add_of_ne different _) fun none => nomatch none⟩
    · rw [exception_update]
      change (exceptionTable businesses).Apart _ (Function.update _ pid .idle)
      rw [← other, Function.update_eq_self (f := fun other => (plans other).exception)]
      exact guarded.exceptions.remove pid rfl
    · rw [block_update]
      exact guarded.blocks.add (by rw [plan]) rfl

theorem delete (guarded : Guarded businesses world plans) {write : ScheduleWrite}
    (deletion : ∃ id, write = .deleteException id ∨ write = .deleteBlock id) :
    Guarded businesses { world with sessions := world.sessions.add pid write }
      (Function.update plans pid { plans pid with deletes := true }) := by
  obtain ⟨noException, noBlock⟩ : (exceptionTable businesses).inserted write = none ∧
      (blockTable businesses).inserted write = none := by
    obtain ⟨id, rfl | rfl⟩ := deletion
    · exact ⟨rfl, rfl⟩
    · exact ⟨rfl, rfl⟩
  refine ⟨guarded.salons, ?_, ?_, fresh_update guarded.fresh
    (fun _ different => Sessions.writesOf_add_of_ne different _) fun none => ?_⟩
  · rw [exception_update]
    dsimp only
    rw [Function.update_eq_self (f := fun other => (plans other).exception)]
    exact guarded.exceptions.remove pid noException
  · rw [block_update]
    dsimp only
    rw [Function.update_eq_self (f := fun other => (plans other).block)]
    exact guarded.blocks.remove pid noBlock
  · exact nomatch congrArg Plans.deletes none

end Guarded

/-- No other request with a row in the way of that of the call is between its own read of
the scope and its commit. -/
def ScheduleCall.ReadsAlone (call : ScheduleCall) (plans : Pid → Plans) (pid : Pid) :
    ScheduleStmt → Prop
  | .select (.exceptionsOf _ _ _ _) => ∀ tenantId businessId body,
      call = .createAvailabilityException tenantId businessId body →
        ∀ other slot, other ≠ pid → (plans other).exception.slot? = some slot →
          (body.row tenantId businessId 0).Compatible slot
  | .select (.blocksOf _ _ _ _) => ∀ tenantId businessId body,
      call = .createRecurringStaffBlock tenantId businessId body →
        ∀ other slot, other ≠ pid → (plans other).block.slot? = some slot →
          (body.row tenantId businessId 0).Compatible slot
  | _ => True

/-- **Every statement keeps the invariant**, if it reads its scope alone. -/
theorem Guarded.issue (guarded : Guarded businesses world plans)
    (single : SingleBusinesses businesses) {call : ScheduleCall} {stmt : ScheduleStmt}
    (allowed : ScheduleCall.must businesses call (plans pid) stmt)
    (alone : call.ReadsAlone plans pid stmt) :
    Guarded businesses (effectOf pid stmt world).2 (Function.update plans pid
      (call.learn (plans pid) ⟨stmt, (effectOf pid stmt world).1⟩)) := by
  cases stmt with
  | insert draft => exact guarded.insert (allowed world.nextId)
  | delete write => exact guarded.delete allowed
  | commit => exact guarded.commit pid
  | select query =>
      cases query with
      | business id tenantId => exact guarded.unchanged rfl
      | staff id tenantId => exact guarded.unchanged rfl
      | exception id tenantId => exact guarded.unchanged rfl
      | block id tenantId => exact guarded.unchanged rfl
      | exceptionByPrimaryKey id => exact guarded.unchanged rfl
      | blockByPrimaryKey id => exact guarded.unchanged rfl
      | exceptionsOf businessId tenantId staffId date =>
          obtain ⟨idle, owned, body, rfl, rfl, rfl⟩ := allowed
          have committed := Sessions.view_of_nil (guarded.fresh pid idle)
          change Guarded businesses world (Function.update plans pid
            (if List.all
              (ScheduleQuery.eval (.exceptionsOf businessId tenantId body.staffId body.date)
              (world.sessions.view pid)) (body.row tenantId businessId 0).passes then
                { exception := .checked (body.row tenantId businessId 0) } else {}))
          rw [committed]
          split
          · next passes =>
              exact guarded.checksException idle owned (guarded.clearException single owned passes)
                (alone tenantId businessId body rfl)
          · exact guarded.unchanged idle.symm
      | blocksOf businessId tenantId staffId dayOfWeek =>
          obtain ⟨idle, owned, body, rfl, rfl, rfl⟩ := allowed
          have committed := Sessions.view_of_nil (guarded.fresh pid idle)
          change Guarded businesses world (Function.update plans pid
            (if List.any
              (ScheduleQuery.eval (.blocksOf businessId tenantId body.staffId body.dayOfWeek)
              (world.sessions.view pid)) (body.row tenantId businessId 0).overlaps then {}
                else { block := .checked (body.row tenantId businessId 0) }))
          rw [committed]
          split
          · exact guarded.unchanged idle.symm
          · next apart =>
              exact guarded.checksBlock idle owned (guarded.clearBlock single owned apart)
                (alone tenantId businessId body rfl)

end Steps

/-- The step reads no scope while a request with a row in the way of its own has read it and
not yet committed. -/
def ReadsAlone (config : ScheduleConfig) : Action ScheduleCall → Prop
  | .issue pid => ∀ call stmt next log, config.running pid = some ⟨call, .call stmt next, log⟩ →
      call.ReadsAlone config.plans pid stmt
  | _ => True

/-- The answers are possible: the salons are those of the start. -/
theorem Guarded.possible {businesses : List Business} {world : ScheduleWorld}
    {plans : Pid → Plans} (guarded : Guarded businesses world plans) {pid : Pid}
    {stmt : ScheduleStmt} {answer : stmt.Answer} (answered : (effectOf pid stmt world).1 = answer) :
    ScheduleCall.may businesses ⟨stmt, answer⟩ := by
  cases stmt with
  | select query =>
      cases query with
      | business id tenantId =>
          obtain ⟨found, rfl⟩ : ∃ found : Option Business, found = answer := ⟨answer, rfl⟩
          cases found with
          | none => exact trivial
          | some business =>
              have stored : (world.sessions.view pid).businesses = businesses :=
                (businesses_applyAll ..).trans guarded.salons
              have found : (world.sessions.view pid).businesses.find? _ = some business := answered
              rw [stored] at found
              have fits := List.find?_some found
              rw [Bool.and_eq_true, beq_iff_eq, beq_iff_eq] at fits
              exact ⟨business, List.mem_of_find?_eq_some found, fits⟩
      | _ => exact trivial
  | _ => exact trivial

/-- **Every step keeps the invariant**, if it reads its scope alone. -/
theorem Guarded.step {businesses : List Business} {config later : ScheduleConfig}
    {action : Action ScheduleCall} (guarded : Guarded businesses config.world config.plans)
    (single : SingleBusinesses businesses) (watched : config.Watched (scheduleWatch businesses))
    (alone : ReadsAlone config action) (taken : Step scheduleMachine config action later) :
    Guarded businesses later.world later.plans := by
  cases watched.staged taken {} with
  | start idle world stages =>
      have plans : later.plans = _ := stages
      rw [world, plans]
      exact guarded.release _
  | @issue pid call stmt next log answer running allowed executed stages =>
      have plans : later.plans = _ := stages
      have effect := execSchedule_some executed
      have world : later.world = (effectOf pid stmt config.world).2 :=
        (congrArg Prod.snd effect).symm
      have answered : answer = (effectOf pid stmt config.world).1 := (congrArg Prod.fst effect).symm
      rw [world, plans, answered]
      exact guarded.issue single allowed (alone call stmt next log running)
  | finish met world stages =>
      have plans : later.plans = _ := stages
      rw [world, plans]
      exact guarded.release _
  | stop world stages =>
      have plans : later.plans = _ := stages
      rw [world, plans]
      exact guarded.release _
  | ambient changed stages => exact changed.elim

/-! ## The theorem -/

/-- A database before any request: each salon has its number, and the rows belong to salons
of their tenants and are free of conflicts. -/
structure ScheduleDb.Ready (db : ScheduleDb) : Prop where
  single : SingleBusinesses db.businesses
  exceptionsOwned : ∀ row ∈ db.exceptions, OwnedBy db.businesses row.businessId row.tenantId
  blocksOwned : ∀ row ∈ db.blocks, OwnedBy db.businesses row.businessId row.tenantId
  conflictFree : ConflictFree db

/-- The slots of the tables get along just when the rows do. -/
theorem conflictFree_iff (businesses : List Business) (db : ScheduleDb) :
    ConflictFree db ↔
      ((exceptionTable businesses).slots db).Pairwise AvailabilityException.Compatible ∧
        ((blockTable businesses).slots db).Pairwise RecurringStaffBlock.Compatible := by
  change _ ↔ (db.exceptions.map _).Pairwise _ ∧ (db.blocks.map _).Pairwise _
  rw [List.pairwise_map, List.pairwise_map]
  exact Iff.rfl

theorem ScheduleDb.Ready.guarded {db : ScheduleDb} (ready : db.Ready) (nextId : Nat) :
    Guarded db.businesses (ScheduleWorld.start db nextId) fun _ => {} := by
  have free := (conflictFree_iff db.businesses db).mp ready.conflictFree
  refine ⟨rfl, ⟨free.1, fun slot member => ?_, ?_, ?_, ?_, fun _ => rfl⟩,
    ⟨free.2, fun slot member => ?_, ?_, ?_, ?_, fun _ => rfl⟩, fun _ _ => rfl⟩
  · obtain ⟨row, stored, rfl⟩ := List.mem_map.mp member
    exact ready.exceptionsOwned row stored
  · exact fun _ _ planned => nomatch planned
  · exact fun _ _ planned => nomatch planned
  · exact fun _ _ _ _ _ planned => nomatch planned
  · obtain ⟨row, stored, rfl⟩ := List.mem_map.mp member
    exact ready.blocksOwned row stored
  · exact fun _ _ planned => nomatch planned
  · exact fun _ _ planned => nomatch planned
  · exact fun _ _ _ _ _ planned => nomatch planned

/-- **Schedule rows stay free of conflicts** in every run in which each creation reads its
scope while no other one with a row in its way is between its read and its commit. -/
theorem schedule_stays_conflict_free (db : ScheduleDb) (nextId : Nat) (ready : db.Ready)
    {config : ScheduleConfig}
    (runs : Runs scheduleMachine ReadsAlone
      (Config.initial (ScheduleWorld.start db nextId)) config) :
    ConflictFree config.world.db := by
  suffices kept : config.Watched (scheduleWatch db.businesses) ∧
      Guarded db.businesses config.world config.plans from
    (conflictFree_iff db.businesses config.world.db).mpr
      ⟨kept.2.exceptions.committed, kept.2.blocks.committed⟩
  induction runs with
  | refl => exact ⟨.initial _ _, ready.guarded nextId⟩
  | tail _ last ih =>
      obtain ⟨action, alone, taken⟩ := last
      obtain ⟨watched, guarded⟩ := ih
      refine ⟨watched.step taken (fun call => performSchedule_along call) ?_,
        guarded.step ready.single watched alone taken⟩
      rintro pid call stmt next log answer world - - executed
      exact guarded.possible (congrArg Prod.fst (execSchedule_some executed))

/-- Whoever runs alone reads alone. -/
theorem readsAlone_of_alone {pid : Pid} (config : ScheduleConfig) (action : Action ScheduleCall)
    (alone : ∀ other, other ≠ pid → config.running other = none) (mine : action.by pid = true) :
    ReadsAlone config action := by
  have idle : ∀ other, other ≠ pid → config.plans other = {} :=
    fun other different => Config.stages_idle (alone other different)
  cases action with
  | issue actor =>
      obtain rfl : actor = pid := beq_iff_eq.mp mine
      intro call stmt next log running
      unfold ScheduleCall.ReadsAlone
      split
      · intro _ _ _ _ other slot different planned
        rw [idle other different] at planned
        cases planned
      · intro _ _ _ _ other slot different planned
        rw [idle other different] at planned
        cases planned
      · exact trivial
  | _ => exact trivial

/-- A salon without exceptions and blocks. -/
def openSalon : ScheduleDb where
  businesses := [⟨1, 1, "Salon", "UTC", "en", none, none, false, .businessPhone, .internalBooking,
    none, none⟩]
  staff := []
  exceptions := []
  blocks := []

theorem openSalon_ready : openSalon.Ready where
  single _ member _ memberToo _ :=
    (List.mem_singleton.mp member).trans (List.mem_singleton.mp memberToo).symm
  exceptionsOwned _ member := nomatch member
  blocksOwned _ member := nomatch member
  conflictFree := ⟨.nil, .nil⟩

/-- Special hours on one day. -/
def specialHours (start stop : TimeOfDay) (proper : start < stop) :
    AvailabilityExceptionCreate where
  date := 0
  isClosed := false
  startTime := some start
  endTime := some stop
  endsAfterStart _ := ⟨start, stop, rfl, rfl, proper⟩

/-- A closure on the same day. -/
def closure : AvailabilityExceptionCreate where
  date := 0
  isClosed := true
  endsAfterStart isOpen := nomatch isOpen

/-- A request that runs from its first statement to its result. -/
def requested (call : ScheduleCall) (statements : Nat) : List (Action ScheduleCall) :=
  .start 0 call :: List.replicate statements (.issue 0) ++ [.finish 0]

/-- Special hours for the first half of the day, a closure, which is refused, and special
hours for the second half. -/
def oneByOne : List (Action ScheduleCall) :=
  requested (.createAvailabilityException 1 1 (specialHours 0 43200000000 (by decide))) 5 ++
    requested (.createAvailabilityException 1 1 closure) 2 ++
      requested (.createAvailabilityException 1 1
        (specialHours 43200000000 86399999999 (by decide))) 5

theorem oneByOne_possible : ((Config.initial (ScheduleWorld.start openSalon 1)).runActions
    scheduleMachine oneByOne).isSome = true := by
  decide +kernel

theorem halves_of_a_day : ∃ config : ScheduleConfig,
    Runs scheduleMachine ReadsAlone (Config.initial (ScheduleWorld.start openSalon 1)) config ∧
      config.world.db.exceptions.map (fun row => (row.startTime, row.endTime)) =
        [(some 0, some 43200000000), (some 43200000000, some 86399999999)] ∧
      ConflictFree config.world.db := by
  have mine : oneByOne.all (·.by 0) = true := by decide
  have runs := Runs.of_single readsAlone_of_alone oneByOne mine (fun _ _ => rfl)
    (Option.some_get oneByOne_possible).symm
  exact ⟨_, runs, by decide +kernel, schedule_stays_conflict_free openSalon 1 openSalon_ready runs⟩

/-- Two closures of one day, which both read it before either commits. -/
def bothRead : List (Action ScheduleCall) :=
  [.start 0 (.createAvailabilityException 1 1 closure),
    .start 1 (.createAvailabilityException 1 1 closure), .issue 0, .issue 1, .issue 0, .issue 1,
    .issue 0, .issue 1, .issue 0, .issue 1]

theorem bothRead_possible : ((Config.initial (ScheduleWorld.start openSalon 1)).runActions
    scheduleMachine bothRead).isSome = true := by
  decide +kernel

/-- Both closures of the day are committed. -/
theorem both_closures_commit : ∃ config : ScheduleConfig,
    Runs scheduleMachine (fun _ _ => True)
      (Config.initial (ScheduleWorld.start openSalon 1)) config ∧
      config.world.db.exceptions.map (fun row => (row.scope, row.isClosed)) =
        [((1, none, 0), true), ((1, none, 0), true)] ∧ ¬ConflictFree config.world.db := by
  have stored : (((Config.initial (ScheduleWorld.start openSalon 1)).runActions scheduleMachine
      bothRead).get bothRead_possible).world.db.exceptions.map
        (fun row => (row.scope, row.isClosed)) =
          [((1, none, 0), true), ((1, none, 0), true)] := by
    decide +kernel
  refine ⟨_, .of_runActions bothRead (Option.some_get bothRead_possible).symm, stored,
    fun free => ?_⟩
  obtain ⟨first, rest, rows, is, others⟩ := List.map_eq_cons_iff.mp stored
  obtain ⟨second, last, rowsToo, isToo, -⟩ := List.map_eq_cons_iff.mp others
  have pair := free.1
  rw [rows, rowsToo, List.pairwise_cons] at pair
  rw [Prod.mk.injEq] at is isToo
  have closed := (pair.1 second (List.mem_cons_self ..) (is.1.trans isToo.1.symm)).1
  cases closed.symm.trans is.2

end AppointmentVoice.Schedule
