import AppointmentVoice.Catalog.References
import AppointmentVoice.Concurrency.Paths
import AppointmentVoice.Concurrency.UniqueIndex

/-!
# Line items of a booking

`add_booking_line_item` counts the items that are there and inserts the next one under
that number.  The unique constraint on booking and position refuses a row whose count is
out of date, so that the positions never have a gap and come in the order of the commits.
What the refused call raises is the error of the database, which nobody handles.  As long
as no item of the booking has come in between the count and the `INSERT`, every call adds
its item or raises a domain error and changes nothing.

**One call.** A call reads, counts, inserts and commits (`along_addBookingLineItem`); its
statements and those of an edit keep the items in order (`InOrder.adds`, `InOrder.edits`), and
an item that is committed is the next one of its booking (`InOrder.commitsItem`).

**The result.** In such a run the items keep their order and the durations that their calls
have read (`line_items_keep_order_and_snapshot`); `second_count_is_out_of_date` is a race of
two calls.
-/

set_option autoImplicit false

namespace AppointmentVoice.Catalog

open Concurrency

/-! ## How far a call is -/

/-- What a call has read and written; a row that is not inserted yet has no number. -/
inductive Adding where
  | reading
  | booked (booking : Booking)
  | priced (booking : Booking) (svc : Service)
  | counted (svc : Service) (row : BookingLineItem)
  | inserted (svc : Service) (row : BookingLineItem)
  | added (svc : Service) (row : BookingLineItem)
  | refused (constraint : CatalogConstraint)
  | lost
  | editing
  | foreign
  | idle

def BookingLineItem.numbered (row : BookingLineItem) (id : Nat) : BookingLineItem := { row with id }

/-- The call has only read. -/
def Adding.OnlyReads : Adding → Prop
  | .reading => True
  | .booked _ => True
  | .priced _ _ => True
  | .counted _ _ => True
  | _ => False

/-- The item that a call is about to insert, from what it has read. -/
def itemDraft (bookingId tenantId serviceId : Nat) (booking : Booking) (svc : Service)
    (position : Nat) : BookingLineItem :=
  ⟨0, tenantId, booking.businessId, bookingId, serviceId, position, svc.durationMinutes⟩

/-- What the answer to a query teaches. -/
def Adding.reads (bookingId tenantId serviceId : Nat) (adding : Adding) :
    (query : CatalogQuery) → query.Row → Adding
  | .booking _ _, found =>
      match adding, (found : Option Booking) with
      | .reading, some booking => .booked booking
      | state, _ => state
  | .service _ _, found =>
      match adding, (found : Option Service) with
      | .booked booking, some svc => .priced booking svc
      | state, _ => state
  | .lineItemCount _, (position : Nat) =>
      match adding with
      | .priced booking svc =>
          .counted svc (itemDraft bookingId tenantId serviceId booking svc position)
      | state => state
  | _, _ => adding

def Adding.learn (bookingId tenantId serviceId : Nat) (adding : Adding) :
    Event CatalogSql → Adding
  | ⟨.select query, found⟩ => adding.reads bookingId tenantId serviceId query found
  | ⟨.insert _, answer⟩ =>
      match adding, (answer : Except CatalogConstraint Nat) with
      | .counted svc row, .ok id => .inserted svc (row.numbered id)
      | _, .error constraint => .refused constraint
      | _, .ok _ => .lost
  | ⟨.commit, _⟩ =>
      match adding with
      | .inserted svc row => .added svc row
      | _ => .lost
  | _ => .lost

/-- The statements of a call, in their order. -/
inductive Adding.Next (bookingId tenantId serviceId : Nat) : Adding → CatalogStmt → Prop where
  | booking : Next bookingId tenantId serviceId .reading (.select (.booking bookingId tenantId))
  | service (booking : Booking) :
      Next bookingId tenantId serviceId (.booked booking) (.select (.service serviceId tenantId))
  | count {booking : Booking} {svc : Service} (named : booking.id = bookingId)
      (owned : booking.tenantId = tenantId) (priced : svc.id = serviceId) :
      Next bookingId tenantId serviceId (.priced booking svc) (.select (.lineItemCount bookingId))
  | insert {svc : Service} {row : BookingLineItem} {draft : Nat → Instant → CatalogRow}
      (drafts : ∀ id clock, draft id clock = .lineItem (row.numbered id)) :
      Next bookingId tenantId serviceId (.counted svc row) (.insert draft)
  | commit (svc : Service) (row : BookingLineItem) :
      Next bookingId tenantId serviceId (.inserted svc row) .commit
  | refresh (svc : Service) (row : BookingLineItem) :
      Next bookingId tenantId serviceId (.added svc row) (.select (.lineItemByPrimaryKey row.id))

/-- A row that is found is the one that was looked for. -/
def Adding.may (adding : Adding) : Event CatalogSql → Prop
  | ⟨.select (.booking id tenant), found⟩ =>
      ∀ booking, found = some booking → booking.id = id ∧ booking.tenantId = tenant
  | ⟨.select (.service id _), found⟩ => ∀ svc, found = some svc → svc.id = id
  | ⟨.select (.lineItemByPrimaryKey id), found⟩ =>
      ∀ svc row, adding = .added svc row → id = row.id → found = some row
  | _ => True

/-- A call that returns has committed its item; one that raises has found nothing, or has
been refused. -/
def Adding.ends {α : Type} (item : α → Option BookingLineItem) (result : Except CatalogError α)
    (adding : Adding) : Prop :=
  match result with
  | .ok value => ∃ svc row, item value = some row ∧ adding = .added svc row
  | .error error => ((∃ message, error = .notFound message) ∧ adding.OnlyReads) ∨
      ∃ constraint, error = .integrity constraint ∧ adding = .refused constraint

def CatalogResult.item : CatalogResult → Option BookingLineItem
  | .lineItem row => some row
  | _ => Option.none

def addingMonitor (bookingId tenantId serviceId : Nat) : Monitor CatalogSql Adding where
  may := Adding.may
  must := Adding.Next bookingId tenantId serviceId
  learn := Adding.learn bookingId tenantId serviceId

/-- The statements of an edit. -/
def Edits : CatalogStmt → Prop
  | .insert _ => False
  | .delete _ => False
  | _ => True

def editingMonitor : Monitor CatalogSql Adding where
  may _ _ := True
  must _ := Edits
  learn _ _ := .editing

/-- Nothing is asked of any other request. -/
def foreignMonitor : Monitor CatalogSql Adding where
  may _ _ := True
  must _ _ := True
  learn _ _ := .foreign

def itemWatch : Watch CatalogSql CatalogCall CatalogError CatalogResult Adding where
  monitor
    | .addBookingLineItem bookingId tenantId serviceId => addingMonitor bookingId tenantId serviceId
    | .updateService _ _ _ _ => editingMonitor
    | _ => foreignMonitor
  initial
    | .addBookingLineItem _ _ _ => .reading
    | .updateService _ _ _ _ => .editing
    | _ => .foreign
  post
    | .addBookingLineItem _ _ _ => Adding.ends CatalogResult.item
    | _ => fun _ _ => True

/-! ## The programs -/

section Programs

variable {bookingId tenantId serviceId : Nat}

theorem along_orRaise_adding {α β : Type} {error : CatalogError} {value : Option α}
    {next : α → CatalogM β} {state : Adding} {post : Except CatalogError β → Adding → Prop}
    (raises : value = none → post (.error error) state)
    (rest : ∀ found, value = some found →
      (addingMonitor bookingId tenantId serviceId).Along post (next found) state) :
    (addingMonitor bookingId tenantId serviceId).Along post (orRaise error value >>=
      next) state := by
  cases value with
  | none => exact .raise (raises rfl)
  | some found => exact rest found rfl

/-- **A call** reads, counts, inserts the item under its count, and commits. -/
theorem along_addBookingLineItem :
    (addingMonitor bookingId tenantId serviceId).Along (Adding.ends some)
      (addBookingLineItem bookingId tenantId serviceId) .reading := by
  unfold addBookingLineItem requireBooking requireService
  rw [bind_assoc]
  refine .issue .booking fun answer possible => ?_
  refine along_orRaise_adding ?_ fun booking found => ?_
  · intro missing
    obtain rfl : answer = (none : Option Booking) := missing
    exact .inl ⟨⟨_, rfl⟩, trivial⟩
  obtain rfl : answer = some booking := found
  have named := possible booking rfl
  rw [bind_assoc]
  refine .issue (.service booking) fun answer possible => ?_
  refine along_orRaise_adding ?_ fun svc found => ?_
  · intro missing
    obtain rfl : answer = (none : Option Service) := missing
    exact .inl ⟨⟨_, rfl⟩, trivial⟩
  obtain rfl : answer = some svc := found
  have priced := possible svc rfl
  have elsewhere : Adding.ends (some : BookingLineItem → _)
      (.error (.notFound "Service not found")) (.priced booking svc) := .inl ⟨⟨_, rfl⟩, trivial⟩
  dsimp only
  split
  · exact .raise elsewhere
  refine .issue (.count named.1 named.2 priced) fun position _ => ?_
  refine .bind (.issue (.insert fun id _ => rfl) fun answer _ => ?_)
  cases (answer : Except CatalogConstraint Nat) with
  | error constraint => exact .raise (.inr ⟨constraint, rfl, rfl⟩)
  | ok id =>
      refine .ret (.issue (.commit svc _) fun _ _ =>
        .issue (.refresh svc _) fun found possible => ?_)
      obtain rfl := possible svc _ rfl rfl
      exact .ret ⟨svc, _, rfl, rfl⟩

theorem only_orRaise {kind : CatalogStmt → Prop} {α : Type} (error : CatalogError)
    (value : Option α) : Program.Only (S := CatalogSql) kind (orRaise error value) := by
  cases value with
  | none => exact .raise error
  | some found => exact .ret found

/-- An edit inserts and deletes nothing. -/
theorem updateService_edits (serviceId businessId tenantId : Nat) (body : ServiceColumns) :
    Program.Only (S := CatalogSql) Edits (updateService serviceId businessId tenantId body) := by
  unfold updateService requireServiceInBusiness requireService checkDepositFields update
  refine .bind (.bind (.bind (.issue trivial) fun found => only_orRaise _ found) fun svc => ?_)
    fun svc => .bind ?_ fun _ => .bind ?_ fun _ => .bind (.issue trivial) fun _ =>
      .bind (.issue trivial) fun found => only_orRaise _ found
  · dsimp only
    split
    · exact .bind (.raise _) fun _ => .ret _
    · exact .ret _
  · split
    · exact .raise _
    · exact .ret _
  · split
    · exact .ret _
    · refine .bind (.issue trivial) fun found => ?_
      split
      · exact .raise _
      · exact .ret _

theorem along_updateService (serviceId businessId tenantId : Nat) (body : ServiceColumns) :
    editingMonitor.Along (fun _ later => Adding.editing = later)
      (updateService serviceId businessId tenantId body) .editing :=
  .of_only rfl (fun _ _ _ edits => ⟨edits, fun _ => rfl⟩) (updateService_edits ..)

/-- **Every request keeps to its monitor.** -/
theorem performCatalog_items (call : CatalogCall) :
    (itemWatch.monitor call).Along (itemWatch.post call) (performCatalog call)
      (itemWatch.initial call) := by
  cases call with
  | addBookingLineItem bookingId tenantId serviceId =>
      refine .bind (along_addBookingLineItem.mono fun result state ends => ?_)
      cases result with
      | ok row => exact .ret ends
      | error error => exact ends
  | updateService serviceId businessId tenantId body =>
      refine .bind ((along_updateService ..).mono fun result state _ => ?_)
      cases result with
      | ok row => exact .ret trivial
      | error error => exact trivial
  | _ => exact .of_lax (fun _ _ => trivial) (fun _ _ => trivial) _ _

end Programs

/-! ## The table of items -/

def insertedItem : CatalogWrite → Option BookingLineItem
  | .insert (.lineItem row) => some row
  | _ => none

theorem inserted_lineItem {write : CatalogWrite} {row : BookingLineItem}
    (inserts : insertedItem write = some row) : write = .insert (.lineItem row) := by
  cases write with
  | insert inserted =>
      cases inserted with
      | lineItem other =>
          cases inserts
          rfl
      | _ => cases inserts
  | _ => cases inserts

/-- The items and their constraint. -/
def lineItemIndex : UniqueIndex CatalogDb CatalogWrite BookingLineItem where
  rows db := db.bookingLineItems
  inserted := insertedItem
  id := BookingLineItem.id
  collides := BookingLineItem.collides
  comm row other := by
    simp only [BookingLineItem.collides, Bool.beq_comm]
  rows_apply db write := by
    cases write with
    | insert row =>
        cases row with
        | lineItem row => rfl
        | booking row => exact (List.append_nil _).symm
        | waitlistEntry row => exact (List.append_nil _).symm
    | updateService id columns => exact (List.append_nil _).symm
    | deleteService id => exact (List.append_nil _).symm
  waits write other row otherRow inserts insertsToo collide := by
    obtain rfl := inserted_lineItem inserts
    obtain rfl := inserted_lineItem insertsToo
    exact collide

open CatalogQuery (itemsOf)

/-- The items of each booking are numbered from zero on, in the order of the table. -/
def Positioned (db : CatalogDb) : Prop :=
  ∀ bookingId, (itemsOf db bookingId).map (·.position) = List.range (itemsOf db bookingId).length

theorem itemsOf_append {db after : CatalogDb} {row : BookingLineItem}
    (appended : after.bookingLineItems = db.bookingLineItems ++ [row]) (bookingId : Nat) :
    itemsOf after bookingId =
      itemsOf db bookingId ++ if row.bookingId = bookingId then [row] else [] := by
  rw [itemsOf, itemsOf, appended, List.filter_append]
  congr 1
  by_cases same : row.bookingId = bookingId <;> simp [same]

/-- **The next item keeps the numbers.** -/
theorem Positioned.append {db after : CatalogDb} {row : BookingLineItem}
    (positioned : Positioned db)
    (appended : after.bookingLineItems = db.bookingLineItems ++ [row])
    (last : row.position = (itemsOf db row.bookingId).length) : Positioned after := by
  intro bookingId
  rw [itemsOf_append appended]
  by_cases same : row.bookingId = bookingId
  · subst same
    rw [if_pos rfl, List.map_append, positioned, List.length_append, List.map_singleton,
      List.length_singleton, List.range_succ, last]
  · rw [if_neg same, List.append_nil]
    exact positioned bookingId

/-- A position up to the number of the items that no item has is the next one. -/
theorem Positioned.eq_length {db : CatalogDb} (positioned : Positioned db) {row : BookingLineItem}
    (counted : row.position ≤ (itemsOf db row.bookingId).length)
    (free : ∀ other ∈ db.bookingLineItems, row.collides other = false) :
    row.position = (itemsOf db row.bookingId).length := by
  by_contra short
  have taken : row.position ∈ (itemsOf db row.bookingId).map (·.position) := by
    rw [positioned, List.mem_range]
    omega
  obtain ⟨other, member, same⟩ := List.mem_map.mp taken
  obtain ⟨stored, ofBooking⟩ := List.mem_filter.mp member
  refine Bool.eq_false_iff.mp (free other stored) ?_
  rw [BookingLineItem.collides, Bool.and_eq_true, beq_iff_eq, beq_iff_eq]
  exact ⟨(beq_iff_eq.mp ofBooking).symm, same.symm⟩

/-- Numbers that are in order are unique. -/
theorem Positioned.apart {db : CatalogDb} (positioned : Positioned db) :
    db.bookingLineItems.Pairwise fun row other => row.collides other = false := by
  have each : ∀ bookingId, db.bookingLineItems.Pairwise fun row other =>
      (row.bookingId == bookingId) = true → (other.bookingId == bookingId) = true →
        row.position ≠ other.position := by
    intro bookingId
    rw [← List.pairwise_filter, ← List.pairwise_map (f := BookingLineItem.position)]
    have distinct := List.nodup_range (n := (itemsOf db bookingId).length)
    rw [← positioned bookingId] at distinct
    exact distinct
  rw [List.pairwise_iff_getElem]
  intro first second inside insideToo before
  refine Bool.eq_false_iff.mpr fun collide => ?_
  rw [BookingLineItem.collides, Bool.and_eq_true, beq_iff_eq, beq_iff_eq] at collide
  exact List.pairwise_iff_getElem.mp (each _) first second inside insideToo before
    (beq_iff_eq.mpr collide.1) (beq_iff_eq.mpr rfl) collide.2

/-! ## What the sessions have written -/

/-- The booking of the item is one of those that there were, and of the item's tenant. -/
def Standing (start : CatalogDb) (row : BookingLineItem) : Prop :=
  ∃ booking ∈ start.bookings, booking.id = row.bookingId ∧ booking.tenantId = row.tenantId

/-- What is so in the world when a call is as far as that. -/
def Adding.Holds (start : CatalogDb) (world : CatalogWorld) (pid : Pid) : Adding → Prop
  | .booked booking => world.sessions.writesOf pid = [] ∧ booking ∈ start.bookings
  | .priced booking svc =>
      world.sessions.writesOf pid = [] ∧ booking ∈ start.bookings ∧
        world.db.hasService svc.id = true
  | .counted _ row =>
      world.sessions.writesOf pid = [] ∧ Standing start row ∧
        world.db.hasService row.serviceId = true ∧
        row.position ≤ (itemsOf world.db row.bookingId).length
  | .inserted _ row =>
      world.sessions.writesOf pid = [.insert (.lineItem row)] ∧ Standing start row ∧
        row.position = (itemsOf world.db row.bookingId).length
  | .added _ row => world.sessions.writesOf pid = [] ∧ row ∈ world.db.bookingLineItems
  | .editing =>
      ∀ write ∈ world.sessions.writesOf pid, ∃ id columns, write = .updateService id columns
  | .foreign => False
  | .lost => False
  | _ => world.sessions.writesOf pid = []

/-- The bookings stay, and items and services are never lost. -/
structure Grows (before after : CatalogDb) : Prop where
  bookings : after.bookings = before.bookings
  items : before.bookingLineItems <+: after.bookingLineItems
  services : ∀ serviceId, before.hasService serviceId = true → after.hasService serviceId = true

theorem Grows.refl (db : CatalogDb) : Grows db db := ⟨rfl, List.prefix_rfl, fun _ => id⟩

theorem Grows.length_le {before after : CatalogDb} (grows : Grows before after) (bookingId : Nat) :
    (itemsOf before bookingId).length ≤ (itemsOf after bookingId).length :=
  (grows.items.sublist.filter _).length_le

/-- Edits leave the items and the bookings alone. -/
theorem applyAll_edits (db : CatalogDb) {writes : List CatalogWrite}
    (edits : ∀ write ∈ writes, ∃ id columns, write = .updateService id columns) :
    (Sessions.applyAll db writes).bookingLineItems = db.bookingLineItems ∧
      (Sessions.applyAll db writes).bookings = db.bookings := by
  induction writes generalizing db with
  | nil => exact ⟨rfl, rfl⟩
  | cons write writes ih =>
      obtain ⟨id, columns, rfl⟩ := edits write List.mem_cons_self
      exact ih (db.apply (.updateService id columns)) fun other member =>
        edits other (List.mem_cons_of_mem _ member)

/-- What holds for one session goes on to hold while the others go on. -/
theorem Adding.Holds.mono {start : CatalogDb} {world after : CatalogWorld} {pid : Pid}
    {adding : Adding} (holds : adding.Holds start world pid) (grows : Grows world.db after.db)
    (writes : after.sessions.writesOf pid = world.sessions.writesOf pid)
    (same : ∀ svc row, adding = .inserted svc row →
      (itemsOf after.db row.bookingId).length = (itemsOf world.db row.bookingId).length) :
    adding.Holds start after pid := by
  cases adding with
  | booked booking => exact ⟨writes.trans holds.1, holds.2⟩
  | priced booking svc => exact ⟨writes.trans holds.1, holds.2.1, grows.services _ holds.2.2⟩
  | counted svc row =>
      exact ⟨writes.trans holds.1, holds.2.1, grows.services _ holds.2.2.1,
        holds.2.2.2.trans (grows.length_le row.bookingId)⟩
  | inserted svc row =>
      exact ⟨writes.trans holds.1, holds.2.1, holds.2.2.trans (same svc row rfl).symm⟩
  | added svc row => exact ⟨writes.trans holds.1, grows.items.subset holds.2⟩
  | editing =>
      intro write member
      rw [writes] at member
      exact holds write member
  | reading => exact writes.trans holds
  | refused constraint => exact writes.trans holds
  | idle => exact writes.trans holds
  | lost => exact holds
  | foreign => exact holds

/-- **The invariant**: the items are numbered in their order and belong to the tenants of
their bookings, no two rows are in each other's way, and every session has written what it
should have. -/
structure InOrder (start : CatalogDb) (world : CatalogWorld) (adding : Pid → Adding) : Prop where
  index : lineItemIndex.Sound world.sessions world.nextId
  positioned : Positioned world.db
  grows : Grows start world.db
  tenants : ∀ row ∈ world.db.bookingLineItems, ∀ booking ∈ start.bookings,
    booking.id = row.bookingId → booking.tenantId = row.tenantId
  holds : ∀ pid, (adding pid).Holds start world pid

section Steps

variable {start : CatalogDb} {world after : CatalogWorld} {adding : Pid → Adding} {pid : Pid}
  {mine : Adding}

/-- A session moves, and nothing is committed. -/
theorem InOrder.moves (inOrder : InOrder start world adding) (same : after.db = world.db)
    (index : lineItemIndex.Sound after.sessions after.nextId)
    (others : ∀ other, other ≠ pid →
      after.sessions.writesOf other = world.sessions.writesOf other)
    (holds : mine.Holds start after pid) :
      InOrder start after (Function.update adding pid mine) where
  index := index
  positioned := same ▸ inOrder.positioned
  grows := same ▸ inOrder.grows
  tenants := same ▸ inOrder.tenants
  holds other := by
    by_cases own : other = pid
    · rw [own, Function.update_self]
      exact holds
    · rw [Function.update_of_ne own]
      exact (inOrder.holds other).mono (same ▸ .refl _) (others other own) fun _ _ _ => by rw [same]

/-- A request begins or ends. -/
theorem InOrder.release (inOrder : InOrder start world adding)
    (holds : mine.Holds start (world.release pid) pid) :
    InOrder start (world.release pid) (Function.update adding pid mine) :=
  inOrder.moves rfl (inOrder.index.release pid)
    (fun _ different => Sessions.writesOf_release_of_ne different) holds

/-- A session that has written nothing sees the committed rows. -/
theorem view_eq (nothing : world.sessions.writesOf pid = []) : world.view pid = world.db :=
  Sessions.view_of_nil nothing

/-- A session commits what it has written. -/
theorem InOrder.commits (inOrder : InOrder start world adding)
    (grows : Grows world.db (world.view pid)) (positioned : Positioned (world.view pid))
    (tenants : ∀ row ∈ (world.view pid).bookingLineItems, ∀ booking ∈ start.bookings,
      booking.id = row.bookingId → booking.tenantId = row.tenantId)
    (same : ∀ other svc row, other ≠ pid → adding other = .inserted svc row →
      (itemsOf (world.view pid) row.bookingId).length = (itemsOf world.db row.bookingId).length)
    (holds : mine.Holds start { world with sessions := world.sessions.committed pid } pid) :
    InOrder start { world with sessions := world.sessions.committed pid }
      (Function.update adding pid mine) where
  index := inOrder.index.committed pid
  positioned := positioned
  grows := ⟨grows.bookings.trans inOrder.grows.bookings, inOrder.grows.items.trans grows.items,
    fun serviceId has => grows.services serviceId (inOrder.grows.services serviceId has)⟩
  tenants := tenants
  holds other := by
    by_cases own : other = pid
    · rw [own, Function.update_self]
      exact holds
    · rw [Function.update_of_ne own]
      exact (inOrder.holds other).mono grows (Sessions.writesOf_committed_of_ne own)
        fun svc row stage => same other svc row own stage

/-- **An edit is committed**: items and bookings stay as they are. -/
theorem InOrder.commitsEdit (inOrder : InOrder start world adding)
    (edits : ∀ write ∈ world.sessions.writesOf pid, ∃ id columns,
      write = .updateService id columns) :
    InOrder start { world with sessions := world.sessions.committed pid }
      (Function.update adding pid .editing) := by
  have services : ∀ serviceId, world.db.hasService serviceId = true →
      (world.view pid).hasService serviceId = true := by
    intro serviceId has
    refine (hasService_view world pid serviceId).mpr ⟨has, fun pending => ?_⟩
    obtain ⟨id, columns, absurdly⟩ := edits _ (mem_writesOf.mpr pending)
    cases absurdly
  obtain ⟨items, bookings⟩ := applyAll_edits world.db edits
  have rows : (world.view pid).bookingLineItems = world.db.bookingLineItems := items
  have kept : ∀ bookingId, itemsOf (world.view pid) bookingId = itemsOf world.db bookingId := by
    intro bookingId
    rw [itemsOf, itemsOf, rows]
  refine inOrder.commits ⟨bookings, rows ▸ List.prefix_rfl, services⟩ (fun bookingId => ?_) ?_
    (fun _ _ row _ _ => by rw [kept]) ?_
  · rw [kept]
    exact inOrder.positioned bookingId
  · rw [rows]
    exact inOrder.tenants
  · intro write member
    rw [Sessions.writesOf_committed_self] at member
    cases member

/-- **An item is committed**: it is the next one of its booking, and no other session has one
ready for the same booking. -/
theorem InOrder.commitsItem (inOrder : InOrder start world adding) {svc : Service}
    {row : BookingLineItem} (stage : adding pid = .inserted svc row)
    (single : (start.bookings.map (·.id)).Nodup) :
    InOrder start { world with sessions := world.sessions.committed pid }
      (Function.update adding pid (.added svc row)) := by
  have mine := inOrder.holds pid
  rw [stage] at mine
  obtain ⟨writes, standing, next⟩ := mine
  have view : world.view pid = world.db.insert (.lineItem row) := by
    rw [CatalogWorld.view, Sessions.view, writes]
    rfl
  have rows : (world.view pid).bookingLineItems = world.db.bookingLineItems ++ [row] := by
    rw [view]
    rfl
  refine inOrder.commits ⟨?_, ?_, fun serviceId has => ?_⟩
    (inOrder.positioned.append rows next) ?_ ?_ ?_
  · rw [view]
    rfl
  · rw [rows]
    exact List.prefix_append _ _
  · rw [view]
    exact has
  · intro other member booking ofStart named
    rw [rows] at member
    rcases List.mem_append.mp member with old | new
    · exact inOrder.tenants other old booking ofStart named
    · rw [List.mem_singleton] at new
      subst new
      obtain ⟨found, ofStartToo, namedToo, owned⟩ := standing
      rw [List.inj_on_of_nodup_map single ofStart ofStartToo (named.trans namedToo.symm)]
      exact owned
  · intro other otherSvc otherRow different otherStage
    rw [itemsOf_append rows]
    -- Two sessions with the next item of one booking would be in each other's way.
    by_cases same : row.bookingId = otherRow.bookingId
    · have theirs := inOrder.holds other
      rw [otherStage] at theirs
      obtain ⟨otherWrites, -, otherNext⟩ := theirs
      have apart := inOrder.index.apart_of_pending
        (mem_writesOf.mp (writes ▸ List.mem_singleton_self _))
        (mem_writesOf.mp (otherWrites ▸ List.mem_singleton_self _))
        (fun equal => different (congrArg Prod.fst equal).symm) rfl rfl
      refine absurd apart.2 ?_
      rw [Bool.not_eq_false]
      change BookingLineItem.collides row otherRow = true
      rw [BookingLineItem.collides, same, next, otherNext, same, beq_self_eq_true, beq_self_eq_true]
      rfl
    · rw [if_neg same, List.append_nil]
  · refine ⟨Sessions.writesOf_committed_self, ?_⟩
    change row ∈ (world.view pid).bookingLineItems
    rw [rows]
    exact List.mem_append_right _ (List.mem_singleton_self row)

/-- A refused row has used up its number. -/
theorem InOrder.skips (inOrder : InOrder start world adding)
    (nothing : world.sessions.writesOf pid = []) (constraint : CatalogConstraint) :
    InOrder start { world with nextId := world.nextId + 1 }
      (Function.update adding pid (.refused constraint)) :=
  inOrder.moves rfl (inOrder.index.sublist (.refl _) (Nat.le_succ _)) (fun _ _ => rfl) nothing

/-- **An item is inserted**: nobody has taken its position, so that it is the next one. -/
theorem InOrder.inserts (inOrder : InOrder start world adding) {svc : Service}
    {row : BookingLineItem} (stage : adding pid = .counted svc row)
    (accepted : world.db.clash (.lineItem (row.numbered world.nextId)) = none)
    (free : world.sessions.mustWait pid (.insert (.lineItem (row.numbered world.nextId))) = false) :
    InOrder start { world with
        sessions := world.sessions.add pid (.insert (.lineItem (row.numbered world.nextId)))
        nextId := world.nextId + 1 }
      (Function.update adding pid (.inserted svc (row.numbered world.nextId))) := by
  have mine := inOrder.holds pid
  rw [stage] at mine
  obtain ⟨nothing, standing, -, counted⟩ := mine
  have apart : ∀ other ∈ world.db.bookingLineItems, row.collides other = false := by
    intro other member
    refine Bool.eq_false_iff.mpr fun collide => ?_
    have taken : world.db.bookingLineItems.any (row.numbered world.nextId).collides = true :=
      List.any_eq_true.mpr ⟨other, member, collide⟩
    rw [CatalogDb.clash, if_pos taken] at accepted
    cases accepted
  have index : lineItemIndex.Sound
      (world.sessions.add pid (.insert (.lineItem (row.numbered world.nextId))))
      (world.nextId + 1) := by
    refine inOrder.index.add (fun other inserts => ?_) (fun other inserts => ?_) free
    · cases inserts
      rfl
    · cases inserts
      intro other member
      change other ∈ (world.view pid).bookingLineItems at member
      rw [view_eq nothing] at member
      exact apart other member
  refine inOrder.moves rfl index (fun _ different => Sessions.writesOf_add_of_ne different _)
    ⟨?_, standing, inOrder.positioned.eq_length counted apart⟩
  rw [Sessions.writesOf_add_self, nothing, List.nil_append]

/-- **Every statement of a call keeps the invariant.** -/
theorem InOrder.adds (inOrder : InOrder start world adding)
    (single : (start.bookings.map (·.id)).Nodup) {bookingId tenantId serviceId : Nat}
    {stmt : CatalogStmt} {answer : stmt.Answer}
    (allowed : Adding.Next bookingId tenantId serviceId (adding pid) stmt)
    (effect : CatalogEffect pid world ⟨stmt, answer⟩ after) :
    InOrder start after (Function.update adding pid
      ((adding pid).learn bookingId tenantId serviceId ⟨stmt, answer⟩)) := by
  have mine := inOrder.holds pid
  generalize stage : adding pid = state at allowed mine
  have quiet : ∀ {mine : Adding}, mine.Holds start world pid →
      InOrder start world (Function.update adding pid mine) :=
    fun holds => inOrder.moves rfl inOrder.index (fun _ _ => rfl) holds
  cases allowed with
  | booking =>
      cases effect with
      | select query =>
          refine quiet ?_
          change Adding.Holds start world pid (Adding.reads bookingId tenantId serviceId .reading
            (.booking bookingId tenantId) (CatalogQuery.eval _ (world.view pid)))
          cases found : CatalogQuery.eval (.booking bookingId tenantId) (world.view pid) with
          | none => exact mine
          | some booking =>
              have stored : booking ∈ (world.view pid).bookings := List.mem_of_find?_eq_some found
              rw [view_eq mine, inOrder.grows.bookings] at stored
              exact ⟨mine, stored⟩
  | service booking =>
      cases effect with
      | select query =>
          refine quiet ?_
          change Adding.Holds start world pid (Adding.reads bookingId tenantId serviceId
            (.booked booking) (.service serviceId tenantId) (CatalogQuery.eval _ (world.view pid)))
          cases found : CatalogQuery.eval (.service serviceId tenantId) (world.view pid) with
          | none => exact mine
          | some svc =>
              have stored : svc ∈ (world.view pid).services := List.mem_of_find?_eq_some found
              rw [view_eq mine.1] at stored
              exact ⟨mine.1, mine.2, List.any_eq_true.mpr ⟨svc, stored, beq_self_eq_true svc.id⟩⟩
  | @count booking svc named owned priced =>
      cases effect with
      | select query =>
          obtain ⟨nothing, ofStart, has⟩ := mine
          refine quiet ⟨nothing, ⟨booking, ofStart, named, owned⟩, priced ▸ has, ?_⟩
          change (itemsOf (world.view pid) bookingId).length ≤ (itemsOf world.db bookingId).length
          rw [view_eq nothing]
  | @insert svc row draft drafts =>
      cases effect with
      | refused refuses => exact inOrder.skips mine.1 _
      | inserted accepted free =>
          rw [drafts] at accepted free ⊢
          rw [view_eq mine.1, CatalogDb.refuses, Option.or_eq_none_iff] at accepted
          exact inOrder.inserts stage accepted.1 free
  | commit svc row =>
      cases effect with
      | commit => exact inOrder.commitsItem stage single
  | refresh svc row =>
      cases effect with
      | select query => exact quiet mine

/-- **Every statement of an edit keeps the invariant.** -/
theorem InOrder.edits (inOrder : InOrder start world adding) (stage : adding pid = .editing)
    {stmt : CatalogStmt} {answer : stmt.Answer} (allowed : Edits stmt)
    (effect : CatalogEffect pid world ⟨stmt, answer⟩ after) :
    InOrder start after (Function.update adding pid .editing) := by
  have mine := inOrder.holds pid
  rw [stage] at mine
  cases effect with
  | select query => exact inOrder.moves rfl inOrder.index (fun _ _ => rfl) mine
  | missed gone => exact inOrder.moves rfl inOrder.index (fun _ _ => rfl) mine
  | @updated serviceId columns has =>
      have all : lineItemIndex.all (world.sessions.add pid (.updateService serviceId columns)) =
          lineItemIndex.all world.sessions := by
        rw [UniqueIndex.all_add]
        exact List.append_nil _
      refine inOrder.moves rfl (inOrder.index.sublist (all ▸ .refl _) (Nat.le_refl _))
        (fun _ different => Sessions.writesOf_add_of_ne different _) fun write member => ?_
      change write ∈ (world.sessions.add pid _).writesOf pid at member
      rw [Sessions.writesOf_add_self] at member
      rcases List.mem_append.mp member with old | new
      · exact mine write old
      · exact ⟨serviceId, columns, List.mem_singleton.mp new⟩
  | commit => exact inOrder.commitsEdit mine
  | refused refuses => exact allowed.elim
  | inserted accepted free => exact allowed.elim
  | deleted has unreferenced free => exact allowed.elim
  | held referenced => exact allowed.elim
  | absent gone => exact allowed.elim

end Steps

/-! ## Steps of the machine -/

/-- How far the calls are. -/
def CatalogConfig.adding (config : CatalogConfig) : Pid → Adding := config.stages itemWatch .idle

/-- Items are added and services are edited, and every call runs to its end. -/
def addsAndEdits : Action CatalogCall → Bool
  | .start _ (.addBookingLineItem _ _ _) => true
  | .start _ (.updateService _ _ _ _) => true
  | .start _ _ => false
  | .stop _ => false
  | _ => true

/-- A monitor that learns nothing. -/
theorem constant_state {call : CatalogCall} {state : Adding}
    (initial : itemWatch.initial call = state)
    (learns : ∀ adding event, (itemWatch.monitor call).learn adding event = state)
    (log : List (Event CatalogSql)) : itemWatch.state call log = state := by
  cases log using List.reverseRecOn with
  | nil => exact initial
  | append_singleton log event =>
      rw [Watch.state_snoc]
      exact learns _ event

theorem InOrder.step {start : CatalogDb} {before after : CatalogConfig}
    {action : Action CatalogCall}
    (inOrder : InOrder start before.world before.adding)
    (single : (start.bookings.map (·.id)).Nodup) (watched : before.Watched itemWatch)
    (admitted : addsAndEdits action = true) (taken : Step catalogMachine before action after) :
    InOrder start after.world after.adding := by
  cases watched.staged taken .idle with
  | @start pid call idle world stages =>
      have adding : after.adding = _ := stages
      rw [world, adding]
      refine inOrder.release ?_
      cases call with
      | addBookingLineItem bookingId tenantId serviceId => exact Sessions.writesOf_release_self
      | updateService serviceId businessId tenantId body =>
          intro write member
          change write ∈ (before.world.sessions.release pid).writesOf pid at member
          rw [Sessions.writesOf_release_self] at member
          cases member
      | _ => cases admitted
  | @issue pid call stmt next log answer running allowed executed stages =>
      have adding : after.adding = _ := stages
      have here : before.adding pid = itemWatch.state call log := Config.stages_running running
      have effect := execCatalog_effect executed
      rw [adding]
      cases call with
      | addBookingLineItem bookingId tenantId serviceId => exact inOrder.adds single allowed effect
      | updateService serviceId businessId tenantId body =>
          exact inOrder.edits (here.trans (constant_state rfl (fun _ _ => rfl) log)) allowed effect
      | _ =>
          have foreign := inOrder.holds pid
          rw [here, constant_state rfl (fun _ _ => rfl) log] at foreign
          exact foreign.elim
  | @finish pid call result met world stages =>
      have adding : after.adding = _ := stages
      rw [world, adding]
      exact inOrder.release Sessions.writesOf_release_self
  | @stop pid world stages => cases admitted
  | ambient changed stages =>
      have adding : after.adding = before.adding := stages
      obtain ⟨clock, -, world⟩ := changed
      rw [world, adding]
      exact ⟨inOrder.index, inOrder.positioned, inOrder.grows, inOrder.tenants, fun pid =>
        (inOrder.holds pid).mono (.refl _) rfl fun _ _ _ => rfl⟩

/-! ## What the logs show -/

/-- The call is about the item, and has read the service with the duration of the item. -/
structure PricedBy (item : BookingLineItem) (call : CatalogCall) (log : List (Event CatalogSql)) :
    Prop where
  call : call = .addBookingLineItem item.bookingId item.tenantId item.serviceId
  read : ∃ svc : Service, svc.durationMinutes = item.durationMinutes ∧
    ⟨.select (.service item.serviceId item.tenantId), some svc⟩ ∈ log

/-- The call has inserted the item with the duration that it has read. -/
structure AddedBy (item : BookingLineItem) (call : CatalogCall) (log : List (Event CatalogSql)) :
    Prop extends PricedBy item call log where
  inserted : ∃ draft, ⟨.insert draft, (.ok item.id : Except CatalogConstraint Nat)⟩ ∈ log

theorem PricedBy.snoc {item : BookingLineItem} {call : CatalogCall} {log : List (Event CatalogSql)}
    (priced : PricedBy item call log) (event : Event CatalogSql) :
    PricedBy item call (log ++ [event]) := by
  obtain ⟨svc, same, read⟩ := priced.read
  exact ⟨priced.call, svc, same, List.mem_append_left _ read⟩

theorem AddedBy.snoc {item : BookingLineItem} {call : CatalogCall} {log : List (Event CatalogSql)}
    (added : AddedBy item call log) (event : Event CatalogSql) :
    AddedBy item call (log ++ [event]) := by
  obtain ⟨draft, inserted⟩ := added.inserted
  exact ⟨added.toPricedBy.snoc event, draft, List.mem_append_left _ inserted⟩

/-- What the log of a call shows when it is as far as that. -/
def Adding.Recorded (bookingId tenantId serviceId : Nat) (log : List (Event CatalogSql)) :
    Adding → Prop
  | .priced _ svc =>
      ⟨.select (.service serviceId tenantId), (some svc : Option Service)⟩ ∈ log
  | .counted _ row => PricedBy row (.addBookingLineItem bookingId tenantId serviceId) log
  | .inserted _ row => AddedBy row (.addBookingLineItem bookingId tenantId serviceId) log
  | .added _ row => AddedBy row (.addBookingLineItem bookingId tenantId serviceId) log
  | _ => True

/-- **Every statement of a call is recorded.** -/
theorem Adding.Recorded.snoc {bookingId tenantId serviceId : Nat} {log : List (Event CatalogSql)}
    {adding : Adding} (recorded : adding.Recorded bookingId tenantId serviceId log)
    {stmt : CatalogStmt} (allowed : Adding.Next bookingId tenantId serviceId adding stmt)
    (answer : stmt.Answer) :
    (adding.learn bookingId tenantId serviceId ⟨stmt, answer⟩).Recorded bookingId tenantId serviceId
      (log ++ [⟨stmt, answer⟩]) := by
  cases allowed with
  | booking =>
      cases (answer : Option Booking) with
      | none => exact trivial
      | some booking => exact trivial
  | service booking =>
      cases (answer : Option Service) with
      | none => exact trivial
      | some svc => exact List.mem_append_right _ (List.mem_singleton_self _)
  | count named owned priced => exact ⟨rfl, _, rfl, List.mem_append_left _ recorded⟩
  | @insert svc row draft drafts =>
      have priced := PricedBy.snoc recorded ⟨.insert draft, answer⟩
      cases (answer : Except CatalogConstraint Nat) with
      | error constraint => exact trivial
      | ok id =>
          exact ⟨⟨priced.call, priced.read⟩, draft,
            List.mem_append_right _ (List.mem_singleton_self _)⟩
  | commit svc row => exact AddedBy.snoc recorded _
  | refresh svc row => exact AddedBy.snoc recorded _

/-- What is known of every call from its log. -/
def LogsShow (_ : CatalogWorld) (call : CatalogCall) (log : List (Event CatalogSql)) : Prop :=
  ∀ bookingId tenantId serviceId, call = .addBookingLineItem bookingId tenantId serviceId →
    (itemWatch.state call log).Recorded bookingId tenantId serviceId log

/-- What a process does next is what its monitor allows. -/
theorem next_of_running {config : CatalogConfig} (watched : config.Watched itemWatch) {pid : Pid}
    {bookingId tenantId serviceId : Nat} {stmt : CatalogStmt}
    {next : stmt.Answer → CatalogM CatalogResult} {log : List (Event CatalogSql)}
    (running : config.running pid =
      some ⟨.addBookingLineItem bookingId tenantId serviceId, .call stmt next, log⟩) :
    Adding.Next bookingId tenantId serviceId
      (itemWatch.state (.addBookingLineItem bookingId tenantId serviceId) log) stmt := by
  have along := watched.running pid _ running
  cases along with
  | call allowed rest => exact allowed

theorem logsShow_step {before after : CatalogConfig} {action : Action CatalogCall}
    (every : before.Every LogsShow) (watched : before.Watched itemWatch)
    (taken : Step catalogMachine before action after) : after.Every LogsShow := by
  refine every.step taken (fun _ _ known => known) ?_ ?_
  · rintro pid call started bookingId tenantId serviceId rfl
    exact trivial
  · rintro pid call stmt next log answer issued running executed known bookingId
      tenantId serviceId rfl
    rw [Watch.state_snoc]
    exact (known bookingId tenantId serviceId rfl).snoc (next_of_running watched running) answer

/-- Only a statement that changes nothing leaves a call where it only reads. -/
theorem onlyReads_of_learn {bookingId tenantId serviceId : Nat} {adding : Adding}
    {event : Event CatalogSql}
    (reads : (adding.learn bookingId tenantId serviceId event).OnlyReads) :
    adding.OnlyReads ∧ ChangesNothing event.1 := by
  obtain ⟨stmt, answer⟩ := event
  cases stmt with
  | select query =>
      refine ⟨?_, fun _ _ => rfl⟩
      cases query with
      | booking id tenant =>
          cases (answer : Option Booking) <;> cases adding <;> first | exact trivial | exact reads
      | service id tenant =>
          cases (answer : Option Service) <;> cases adding <;> first | exact trivial | exact reads
      | lineItemCount id => cases adding <;> first | exact trivial | exact reads
      | _ => exact reads
  | insert draft =>
      cases (answer : Except CatalogConstraint Nat) <;> cases adding <;> exact reads.elim
  | commit => cases adding <;> exact reads.elim
  | update _ _ => exact reads.elim
  | delete _ => exact reads.elim

/-- A call that has only read has changed nothing. -/
theorem changesNothing_of_onlyReads {bookingId tenantId serviceId : Nat}
    {log : List (Event CatalogSql)}
    (reads : (itemWatch.state (.addBookingLineItem bookingId tenantId serviceId) log).OnlyReads) :
    ∀ event ∈ log, ChangesNothing event.1 := by
  induction log using List.reverseRecOn with
  | nil => exact fun _ member => nomatch member
  | append_singleton log event ih =>
      rw [Watch.state_snoc] at reads
      obtain ⟨before, harmless⟩ := onlyReads_of_learn reads
      intro other member
      rcases List.mem_append.mp member with old | new
      · exact ih before other old
      · rw [List.mem_singleton.mp new]
        exact harmless

/-! ## The theorem -/

/-- The item that the step inserts has a position that no committed item of its booking has. -/
def insertsFresh (config : CatalogConfig) : Action CatalogCall → Bool
  | .issue pid =>
      match config.running pid with
      | some ⟨_, .call (.insert draft) _, _⟩ =>
          match draft config.world.nextId config.world.clock with
          | .lineItem row => !config.world.db.bookingLineItems.any row.collides
          | _ => true
      | _ => true
  | _ => true

/-- No call has been refused. -/
def NeverRefused (_ : CatalogWorld) (call : CatalogCall) (log : List (Event CatalogSql)) : Prop :=
  ∀ constraint, itemWatch.state call log ≠ .refused constraint

/-- **A fresh item is accepted.** -/
theorem learn_ne_refused {start : CatalogDb} {world after : CatalogWorld} {pid : Pid}
    {adding : Adding} {bookingId tenantId serviceId : Nat} {stmt : CatalogStmt}
    {answer : stmt.Answer} (holds : adding.Holds start world pid)
    (allowed : Adding.Next bookingId tenantId serviceId adding stmt)
    (fresh : ∀ draft row, stmt = .insert draft →
      draft world.nextId world.clock = .lineItem row →
        world.db.bookingLineItems.any row.collides = false)
    (effect : CatalogEffect pid world ⟨stmt, answer⟩ after) (constraint : CatalogConstraint) :
    adding.learn bookingId tenantId serviceId ⟨stmt, answer⟩ ≠ .refused constraint := by
  cases allowed with
  | booking => cases (answer : Option Booking) <;> nofun
  | service booking => cases (answer : Option Service) <;> nofun
  | count named owned priced => nofun
  | commit svc row => nofun
  | refresh svc row => nofun
  | @insert svc row draft drafts =>
      cases effect with
      | inserted accepted free => nofun
      | refused refuses =>
          obtain ⟨nothing, -, has, -⟩ := holds
          have free := fresh draft (row.numbered world.nextId) rfl (drafts _ _)
          have stands : world.db.hasService
            (CatalogRow.serviceId (.lineItem (row.numbered world.nextId))) =
              true := has
          rw [drafts, view_eq nothing, CatalogDb.refuses, CatalogDb.clash, free, stands] at refuses
          cases refuses

theorem neverRefused_step {start : CatalogDb} {before after : CatalogConfig}
    {action : Action CatalogCall} (every : before.Every NeverRefused)
    (inOrder : InOrder start before.world before.adding) (watched : before.Watched itemWatch)
    (fresh : insertsFresh before action = true)
    (taken : Step catalogMachine before action after) : after.Every NeverRefused := by
  refine every.step taken (fun _ _ known => known) ?_ ?_
  · intro pid call started constraint
    cases call <;> nofun
  · rintro pid call stmt next log answer rfl running executed - constraint
    have here : before.adding pid = itemWatch.state call log := Config.stages_running running
    have holds := inOrder.holds pid
    rw [here] at holds
    rw [Watch.state_snoc]
    cases call with
    | addBookingLineItem bookingId tenantId serviceId =>
        refine learn_ne_refused holds (next_of_running watched running) ?_
          (execCatalog_effect executed) constraint
        rintro draft row rfl drafted
        rw [insertsFresh, running] at fresh
        dsimp only at fresh
        rw [drafted] at fresh
        exact Bool.not_eq_true' _ ▸ fresh
    | _ => nofun

/-- What the items of the bookings come to: numbered from zero on without a gap, listed in
the order of the table, to which a commit appends, and each with the duration that the
service had when its call read it; and what each call has done. -/
structure LineItemsKept (start : CatalogDb) (config : CatalogConfig) : Prop where
  appended : start.bookingLineItems <+: config.world.db.bookingLineItems
  positions : ∀ bookingId, (itemsOf config.world.db bookingId).map (·.position) =
    List.range (itemsOf config.world.db bookingId).length
  listed : ∀ pid, config.running pid = none → ∀ booking ∈ config.world.db.bookings,
    ((listBookingLineItems booking.id booking.tenantId).run (effectOf pid) config.world).1 =
      .ok (itemsOf config.world.db booking.id)
  total : ∀ pid, config.running pid = none → ∀ booking ∈ config.world.db.bookings,
    ((getBookingTotalDurationMinutes booking.id booking.tenantId).run (effectOf pid)
      config.world).1 = .ok ((itemsOf config.world.db booking.id).map (·.durationMinutes)).sum
  snapshot : ∀ item ∈ config.world.db.bookingLineItems,
    item ∈ start.bookingLineItems ∨ ∃ who, config.Marked (AddedBy item) who
  added : ∀ outcome ∈ config.finished, ∀ bookingId tenantId serviceId result,
    outcome.call = .addBookingLineItem bookingId tenantId serviceId → outcome.result = .ok result →
      ∃ item, result = .lineItem item ∧ AddedBy item outcome.call outcome.log ∧
        config.world.db.bookingLineItems.filter (·.id == item.id) = [item]
  refused : ∀ outcome ∈ config.finished, ∀ bookingId tenantId serviceId error,
    outcome.call = .addBookingLineItem bookingId tenantId serviceId →
      outcome.result = .error error →
        error.Domain ∧ ∀ event ∈ outcome.log, ChangesNothing event.1

/-- A database before any call: bookings have their numbers, items have theirs below the next
one, come in the order of their positions, and belong to the tenants of their bookings. -/
structure CatalogDb.Ready (db : CatalogDb) (nextId : Nat) : Prop where
  bookings : (db.bookings.map (·.id)).Nodup
  items : (db.bookingLineItems.map (·.id)).Nodup
  numbered : ∀ row ∈ db.bookingLineItems, row.id < nextId
  positioned : Positioned db
  tenants : ∀ row ∈ db.bookingLineItems, ∀ booking ∈ db.bookings, booking.id = row.bookingId →
    booking.tenantId = row.tenantId

theorem CatalogDb.Ready.inOrder {db : CatalogDb} {nextId : Nat} (ready : db.Ready nextId)
    (clock : Instant) : InOrder db (.start db nextId clock) fun _ => .idle where
  index := by
    have rows : lineItemIndex.all (CatalogWorld.start db nextId clock).sessions =
        db.bookingLineItems := List.append_nil _
    constructor
    · rw [rows]
      exact (List.pairwise_map.mp ready.items).and ready.positioned.apart
    · rw [rows]
      exact ready.numbered
  positioned := ready.positioned
  grows := .refl db
  tenants := ready.tenants
  holds _ := rfl

section Reached

variable {start : CatalogDb} {config : CatalogConfig} {pid : Pid}

/-- A session that has neither inserted nor edited has written nothing. -/
theorem Adding.Holds.nothing {world : CatalogWorld} {adding : Adding}
    (holds : adding.Holds start world pid) (notInserted : ∀ svc row, adding ≠ .inserted svc row)
    (notEditing : adding ≠ .editing) : world.sessions.writesOf pid = [] := by
  cases adding with
  | inserted svc row => exact absurd rfl (notInserted svc row)
  | editing => exact absurd rfl notEditing
  | booked booking => exact holds.1
  | priced booking svc => exact holds.1
  | counted svc row => exact holds.1
  | added svc row => exact holds.1
  | lost => exact holds.elim
  | foreign => exact holds.elim
  | reading => exact holds
  | refused constraint => exact holds
  | idle => exact holds

/-- A new item is one that a session had ready. -/
theorem InOrder.of_mem {world after : CatalogWorld} {adding : Pid → Adding}
    {event : Event CatalogSql} {item : BookingLineItem} (inOrder : InOrder start world adding)
    (effect : CatalogEffect pid world event after) (member : item ∈ after.db.bookingLineItems) :
    item ∈ world.db.bookingLineItems ∨ event.1 = .commit ∧
      ∃ svc, adding pid = .inserted svc item := by
  cases effect with
  | commit =>
      change item ∈ lineItemIndex.rows (world.sessions.view pid) at member
      rw [UniqueIndex.rows_view, List.mem_append] at member
      refine member.imp_right fun drafted => ⟨rfl, ?_⟩
      obtain ⟨write, written, inserts⟩ := List.mem_filterMap.mp drafted
      obtain rfl := inserted_lineItem inserts
      have holds := inOrder.holds pid
      by_contra otherwise
      rw [not_exists] at otherwise
      by_cases editing : adding pid = .editing
      · rw [editing] at holds
        obtain ⟨id, columns, absurdly⟩ := holds _ written
        cases absurdly
      · rw [holds.nothing (fun svc row stage => ?_) editing] at written
        · cases written
        · rw [stage] at holds
          rw [holds.1, List.mem_singleton] at written
          cases written
          exact otherwise svc stage
  | _ => exact .inl member

/-- The list is the table: the items of a booking are of its tenant and in their order. -/
theorem InOrder.list_eq (inOrder : InOrder start config.world config.adding)
    (idle : config.running pid = none) {booking : Booking}
    (member : booking ∈ config.world.db.bookings) :
    (listBookingLineItems booking.id booking.tenantId).run (effectOf pid) config.world =
      (.ok (itemsOf config.world.db booking.id), config.world) := by
  have stage : config.adding pid = .idle := Config.stages_idle idle
  have nothing := inOrder.holds pid
  rw [stage] at nothing
  have found : ((CatalogQuery.booking booking.id booking.tenantId).eval
      (config.world.view pid)).isSome = true := by
    rw [view_eq nothing]
    refine List.find?_isSome.mpr ⟨booking, member, ?_⟩
    rw [beq_self_eq_true, beq_self_eq_true]
    rfl
  have rows : (CatalogQuery.lineItems booking.id booking.tenantId).eval (config.world.view pid) =
      itemsOf config.world.db booking.id := by
    rw [view_eq nothing]
    have owned : (itemsOf config.world.db booking.id).filter (·.tenantId == booking.tenantId) =
        itemsOf config.world.db booking.id := by
      refine List.filter_eq_self.mpr fun row ofBooking => ?_
      obtain ⟨stored, named⟩ := List.mem_filter.mp ofBooking
      exact beq_iff_eq.mpr (inOrder.tenants row stored booking
        (inOrder.grows.bookings ▸ member) (beq_iff_eq.mp named).symm).symm
    change List.insertionSort _ (List.filter _ _) = _
    rw [owned]
    refine List.Pairwise.insertionSort_eq ?_
    have sorted := List.pairwise_le_range (n := (itemsOf config.world.db booking.id).length)
    rw [← inOrder.positioned booking.id] at sorted
    exact List.pairwise_map.mp sorted
  obtain ⟨stored, same⟩ := Option.isSome_iff_exists.mp found
  change ((orRaise (.notFound "Booking not found") (CatalogQuery.eval (.booking booking.id
    booking.tenantId) (config.world.view pid)) >>= fun _ => select (.lineItems booking.id
      booking.tenantId)).run (effectOf pid) config.world) = _
  rw [same]
  change ((Except.ok ((CatalogQuery.lineItems booking.id booking.tenantId).eval
    (config.world.view pid)), config.world) : Except CatalogError _ × CatalogWorld) = _
  rw [rows]

theorem InOrder.total_eq (inOrder : InOrder start config.world config.adding)
    (idle : config.running pid = none) {booking : Booking}
    (member : booking ∈ config.world.db.bookings) :
    ((getBookingTotalDurationMinutes booking.id booking.tenantId).run (effectOf pid)
      config.world).1 = .ok ((itemsOf config.world.db booking.id).map (·.durationMinutes)).sum := by
  rw [getBookingTotalDurationMinutes, Program.run_bind, inOrder.list_eq idle member]
  rfl

theorem InOrder.eq_of_id {world : CatalogWorld} {adding : Pid → Adding}
    (inOrder : InOrder start world adding) {row other : BookingLineItem}
    (member : row ∈ world.db.bookingLineItems) (memberToo : other ∈ world.db.bookingLineItems)
    (same : row.id = other.id) : row = other :=
  inOrder.index.eq_of_id (UniqueIndex.mem_all_of_committed member)
    (UniqueIndex.mem_all_of_committed memberToo) same

/-- An item that is there is found by its number. -/
theorem InOrder.find_eq {world : CatalogWorld} {adding : Pid → Adding}
    (inOrder : InOrder start world adding) {row : BookingLineItem}
    (member : row ∈ world.db.bookingLineItems) :
    world.db.bookingLineItems.find? (·.id == row.id) = some row := by
  have some_found : (world.db.bookingLineItems.find? (·.id == row.id)).isSome = true :=
    List.find?_isSome.mpr ⟨row, member, beq_self_eq_true row.id⟩
  obtain ⟨other, found⟩ := Option.isSome_iff_exists.mp some_found
  have stored := List.mem_of_find?_eq_some found
  have named := List.find?_some found
  rw [found, inOrder.eq_of_id stored member (beq_iff_eq.mp named)]

/-- There is one item with the number. -/
theorem InOrder.filter_eq {world : CatalogWorld} {adding : Pid → Adding}
    (inOrder : InOrder start world adding) {row : BookingLineItem}
    (member : row ∈ world.db.bookingLineItems) :
    world.db.bookingLineItems.filter (·.id == row.id) = [row] := by
  have distinct : (world.db.bookingLineItems.filter (·.id == row.id)).Pairwise
      fun first second => first.id ≠ second.id :=
    ((List.pairwise_append.mp inOrder.index.apart).1.sublist List.filter_sublist).imp And.left
  have only : ∀ other ∈ world.db.bookingLineItems.filter (·.id == row.id), other = row := by
    intro other filtered
    obtain ⟨stored, named⟩ := List.mem_filter.mp filtered
    exact inOrder.eq_of_id stored member (beq_iff_eq.mp named)
  have there : row ∈ world.db.bookingLineItems.filter (·.id == row.id) :=
    List.mem_filter.mpr ⟨member, beq_self_eq_true row.id⟩
  cases rows : world.db.bookingLineItems.filter (·.id == row.id) with
  | nil =>
      rw [rows] at there
      cases there
  | cons first rest =>
      rw [rows] at distinct only
      rw [only first List.mem_cons_self]
      cases rest with
      | nil => rfl
      | cons second rest =>
          have apart := List.rel_of_pairwise_cons distinct List.mem_cons_self
          rw [only first List.mem_cons_self, only second (by simp)] at apart
          exact absurd rfl apart

/-- **The answers are possible**: what is found is what was looked for. -/
theorem InOrder.may {world after : CatalogWorld} {adding : Pid → Adding}
    {event : Event CatalogSql} (inOrder : InOrder start world adding)
    (effect : CatalogEffect pid world event after) : (adding pid).may event := by
  cases effect with
  | select query =>
      cases query with
      | booking id tenantId =>
          intro booking found
          have fits := List.find?_some (show List.find? _ _ = some booking from found)
          rw [Bool.and_eq_true, beq_iff_eq, beq_iff_eq] at fits
          exact fits
      | service id tenantId =>
          intro svc found
          have fits := List.find?_some (show List.find? _ _ = some svc from found)
          rw [Bool.and_eq_true, beq_iff_eq] at fits
          exact fits.1
      | lineItemByPrimaryKey id =>
          rintro svc row stage rfl
          have holds := inOrder.holds pid
          rw [stage] at holds
          change List.find? _ (world.view pid).bookingLineItems = some row
          rw [view_eq holds.1]
          exact inOrder.find_eq holds.2
      | _ => exact trivial
  | _ => exact trivial

/-- **Where items come from**: those of the start, and those that calls have added with the
duration that they have read. -/
theorem snapshot_step {before after : CatalogConfig} {action : Action CatalogCall}
    (snapshot : ∀ item ∈ before.world.db.bookingLineItems,
      item ∈ start.bookingLineItems ∨ ∃ who, before.Marked (AddedBy item) who)
    (inOrder : InOrder start before.world before.adding) (every : before.Every LogsShow)
    (admitted : addsAndEdits action = true) (taken : Step catalogMachine before action after) :
    ∀ item ∈ after.world.db.bookingLineItems,
      item ∈ start.bookingLineItems ∨ ∃ who, after.Marked (AddedBy item) who := by
  intro item member
  have goesOn : ∀ pid, action ≠ .stop pid := by
    rintro pid rfl
    cases admitted
  have old : item ∈ before.world.db.bookingLineItems →
      item ∈ start.bookingLineItems ∨ ∃ who, after.Marked (AddedBy item) who := by
    intro there
    refine (snapshot item there).imp_right fun ⟨who, marked⟩ => ?_
    exact marked.lasts taken goesOn fun _ _ event added => added.snoc event
  cases taken with
  | start call idle => exact old member
  | @issue pid call stmt next log answer world running executed =>
      rcases inOrder.of_mem (execCatalog_effect executed) member with there | ⟨commits, svc, stage⟩
      · exact old there
      · have here : before.adding pid = itemWatch.state call log := Config.stages_running running
        rw [here] at stage
        refine .inr ⟨.inl pid, Config.marked_running.mpr ⟨_, Function.update_self .., ?_⟩⟩
        cases call with
        | addBookingLineItem bookingId tenantId serviceId =>
            have recorded := every.running pid _ running bookingId tenantId serviceId rfl
            dsimp only at recorded
            rw [stage] at recorded
            exact AddedBy.snoc recorded _
        | _ =>
            rw [constant_state rfl (fun _ _ => rfl) log] at stage
            cases stage
  | finish running ended => exact old member
  | stop running => cases admitted
  | ambient changed =>
      obtain ⟨clock, -, rfl⟩ := changed
      exact old member

/-- A statement loses no item. -/
theorem CatalogEffect.items_subset {world after : CatalogWorld} {event : Event CatalogSql}
    (effect : CatalogEffect pid world event after) :
    world.db.bookingLineItems ⊆ after.db.bookingLineItems := by
  cases effect with
  | commit => exact fun row => UniqueIndex.mem_view_of_committed lineItemIndex pid
  | _ => exact fun _ => id

/-- The items of the calls that have returned are there. -/
def ReturnedAreThere (config : CatalogConfig) : Prop :=
  ∀ outcome ∈ config.finished, ∀ svc row,
    itemWatch.state outcome.call outcome.log = .added svc row →
      row ∈ config.world.db.bookingLineItems

theorem returnedAreThere_step {before after : CatalogConfig} {action : Action CatalogCall}
    (there : ReturnedAreThere before) (inOrder : InOrder start before.world before.adding)
    (taken : Step catalogMachine before action after) : ReturnedAreThere after := by
  cases taken with
  | start call idle => exact there
  | issue running executed =>
      intro outcome member svc row stage
      exact (execCatalog_effect executed).items_subset (there outcome member svc row stage)
  | @finish pid process result running ended =>
      intro outcome member svc row stage
      rcases List.mem_append.mp member with old | new
      · exact there outcome old svc row stage
      · rw [List.mem_singleton] at new
        subst new
        have here : before.adding pid = itemWatch.state process.call process.log :=
          Config.stages_running running
        have holds := inOrder.holds pid
        rw [here, stage] at holds
        exact holds.2
  | stop running => exact there
  | ambient changed =>
      obtain ⟨clock, -, rfl⟩ := changed
      exact there

end Reached

/-- **Line items keep their order and their durations** in every run in which each item is
inserted while nothing has come in since its count.  The duration of an item is the one that
the `SELECT` of its own call has read, and a call runs to its end. -/
theorem line_items_keep_order_and_snapshot {db : CatalogDb} {nextId : Nat} {clock : Instant}
    (ready : db.Ready nextId) {config : CatalogConfig}
    (runs : Runs catalogMachine
      (fun config action => addsAndEdits action = true ∧ insertsFresh config action = true)
      (.initial (.start db nextId clock)) config) : LineItemsKept db config := by
  suffices kept : config.Watched itemWatch ∧ InOrder db config.world config.adding ∧
      config.Every LogsShow ∧ config.Every NeverRefused ∧ ReturnedAreThere config ∧
      ∀ item ∈ config.world.db.bookingLineItems,
        item ∈ db.bookingLineItems ∨ ∃ who, config.Marked (AddedBy item) who by
    obtain ⟨watched, inOrder, logsShow, neverRefused, there, snapshot⟩ := kept
    refine ⟨inOrder.grows.items, inOrder.positioned, fun pid idle booking member => ?_,
      fun pid idle booking member => inOrder.total_eq idle member, snapshot, ?_, ?_⟩
    · rw [inOrder.list_eq idle member]
    · rintro ⟨call, outcome, log⟩ member bookingId tenantId serviceId result rfl rfl
      obtain ⟨svc, item, returned, stage⟩ := watched.finished _ member
      have recorded := logsShow.finished _ member bookingId tenantId serviceId rfl
      rw [stage] at recorded
      refine ⟨item, ?_, recorded, inOrder.filter_eq (there _ member svc item stage)⟩
      cases result with
      | lineItem row =>
          cases returned
          rfl
      | _ => cases returned
    · rintro ⟨call, outcome, log⟩ member bookingId tenantId serviceId error rfl rfl
      rcases watched.finished _ member with ⟨⟨message, rfl⟩, reads⟩ | ⟨constraint, -, refused⟩
      · exact ⟨trivial, changesNothing_of_onlyReads reads⟩
      · exact absurd refused (neverRefused.finished _ member constraint)
  induction runs with
  | refl =>
      have none : ReturnedAreThere (Config.initial (.start db nextId clock) : CatalogConfig) := by
        intro outcome member
        cases member
      exact ⟨.initial _ _, ready.inOrder clock, .initial _, .initial _, none,
        fun _ member => .inl member⟩
  | tail _ last ih =>
      obtain ⟨action, ⟨admitted, fresh⟩, taken⟩ := last
      obtain ⟨watched, inOrder, logsShow, neverRefused, there, snapshot⟩ := ih
      refine ⟨watched.step taken performCatalog_items ?_,
        inOrder.step ready.bookings watched admitted taken, logsShow_step logsShow watched taken,
        neverRefused_step neverRefused inOrder watched fresh taken,
        returnedAreThere_step there inOrder taken,
        snapshot_step snapshot inOrder logsShow admitted taken⟩
      rintro pid call stmt next log answer world rfl running executed
      have possible := inOrder.may (execCatalog_effect executed)
      have here : CatalogConfig.adding _ pid = itemWatch.state call log :=
        Config.stages_running running
      rw [here] at possible
      cases call with
      | addBookingLineItem bookingId tenantId serviceId => exact possible
      | _ => exact trivial

/-! ## Two runs -/

/-- A booking of a salon with one service. -/
def oneBooking : CatalogDb where
  businesses := []
  customers := []
  staff := []
  services := [offered 1]
  bookings := [⟨10, 1, 1, 5, 1, none, 0, 1800000000, .confirmed, .api, none, 0⟩]
  bookingLineItems := []
  waitlistEntries := []
  voiceSessions := []

theorem oneBooking_ready : oneBooking.Ready 11 where
  bookings := List.nodup_singleton _
  items := List.nodup_nil
  numbered _ member := nomatch member
  positioned _ := rfl
  tenants _ member := nomatch member

/-- A call of a process that runs from its first statement to its result. -/
def called (pid : Pid) (call : CatalogCall) (statements : Nat) : List (Action CatalogCall) :=
  .start pid call :: List.replicate statements (.issue pid) ++ [.finish pid]

/-- An item, the service made longer, and another item. -/
def addEditAdd : List (Action CatalogCall) :=
  called 0 (.addBookingLineItem 10 1 1) 6 ++
    called 0 (.updateService 1 1 1 { durationMinutes := some 45 }) 4 ++
      called 0 (.addBookingLineItem 10 1 1) 6

theorem addEditAdd_possible : ((Config.initial (.start oneBooking 11 0)).runActions catalogMachine
    addEditAdd).isSome = true := by
  decide +kernel

theorem edited_service_keeps_items : ∃ config : CatalogConfig,
    Runs catalogMachine
        (fun config action => addsAndEdits action = true ∧ insertsFresh config action = true)
        (.initial (.start oneBooking 11 0)) config ∧
      config.world.db.bookingLineItems.map (fun row => (row.position, row.durationMinutes)) =
        [(0, 30), (1, 45)] ∧ LineItemsKept oneBooking config := by
  have guarded : (Config.initial (.start oneBooking 11 0)).passes catalogMachine
      (fun config action => addsAndEdits action && insertsFresh config action)
        addEditAdd = true := by
    decide +kernel
  have runs := Runs.of_guarded (fun _ _ passes => Bool.and_eq_true_iff.mp passes) addEditAdd guarded
    (Option.some_get addEditAdd_possible).symm
  exact ⟨_, runs, by decide +kernel, line_items_keep_order_and_snapshot oneBooking_ready runs⟩

/-- Both calls count before either inserts. -/
def bothCount : List (Action CatalogCall) :=
  .start 0 (.addBookingLineItem 10 1 1) :: List.replicate 3 (.issue 0) ++
    called 1 (.addBookingLineItem 10 1 1) 6 ++ [.issue 0, .finish 0]

theorem bothCount_possible : ((Config.initial (.start oneBooking 11 0)).runActions catalogMachine
    bothCount).isSome = true := by
  decide +kernel

/-- What an addition has raised. -/
def raisedByItem (outcome : Outcome CatalogSql CatalogCall CatalogError CatalogResult) :
    Option CatalogError :=
  match outcome.call, outcome.result with
  | .addBookingLineItem _ _ _, .error error => some error
  | _, _ => none

theorem of_raisedByItem {outcome : Outcome CatalogSql CatalogCall CatalogError CatalogResult}
    {error : CatalogError} (raises : raisedByItem outcome = some error) :
    ∃ bookingId tenantId serviceId,
      outcome.call = .addBookingLineItem bookingId tenantId serviceId ∧
        outcome.result = .error error := by
  unfold raisedByItem at raises
  split at raises
  · next call result =>
      cases raises
      exact ⟨_, _, _, call, result⟩
  · cases raises

/-- The call that inserts second raises the error of the database. -/
theorem second_count_is_out_of_date : ∃ config : CatalogConfig,
    Runs catalogMachine (fun _ _ => True) (.initial (.start oneBooking 11 0)) config ∧
      config.finished.map raisedByItem =
        [none, some (.integrity .uqBookingLineItemsBookingPosition)] ∧
      ¬LineItemsKept oneBooking config := by
  have runs := Runs.of_runActions bothCount (Option.some_get bothCount_possible).symm
  have ends : (((Config.initial (.start oneBooking 11 0)).runActions catalogMachine
      bothCount).get bothCount_possible).finished.map raisedByItem =
        [none, some (.integrity .uqBookingLineItemsBookingPosition)] := by decide +kernel
  refine ⟨_, runs, ends, fun kept => ?_⟩
  obtain ⟨outcome, member, raises⟩ := List.mem_map.mp
    (ends ▸ List.mem_cons_of_mem _ (List.mem_singleton_self
      (some (CatalogError.integrity .uqBookingLineItemsBookingPosition))))
  obtain ⟨bookingId, tenantId, serviceId, call, result⟩ := of_raisedByItem raises
  exact (kept.refused outcome member bookingId tenantId serviceId _ call result).1

end AppointmentVoice.Catalog
