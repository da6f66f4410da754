import AppointmentVoice.Services.Settling

/-!
# Freeing slots among other sessions

The proofs that `cancel_booking`, `expire_pending_payment_hold`,
`reschedule_booking` and the two sweeps keep the discipline: a booking is freed
together with its waiting payment, and the freed slot is offered to at most one
entry that still waits for it.

**The specifications.** `cancelBooking_spec`, `expirePendingPaymentHold_spec`,
`rescheduleBooking_spec`, `expireStalePaymentHolds_spec` and `expireStaleWaitlistOffers_spec`.
-/

set_option autoImplicit false

namespace AppointmentVoice

open Concurrency World

section Freeing

variable {cfg : Settings} {law : Db → Prop} {pid : Pid} {owner : Call} {α : Type}
variable {writes : List Write} {knows : Knowledge pid} {recalls : Memory}
variable {ok : α → World Call → Log → Prop} {err : AppError → Log → Prop}

/-- A condition on something that exists. -/
theorem exists_rule {ι : Type} {pre : ι → World Call → Log → Prop} {program : DbM α}
    (spec : ∀ index, Spec cfg law pid owner (pre index) program ok err) :
    Spec cfg law pid owner (fun world log => ∃ index, pre index world log) program ok err :=
  ⟨fun world log inv ⟨index, met⟩ => (spec index).triple world log inv met⟩

/-! ## The payment of a freed booking -/

/-- What is known about the payment of a booking that is being freed. -/
def Knowledge.due (pid : Pid) (booking : Booking) : Option BookingPayment → Knowledge pid
  | some payment => .heldDue pid booking payment
  | none => .heldNothingDue pid booking

theorem failLinkedPendingPayment_rule {booking : Booking} {reason : Option String}
    {next : Unit → DbM α} (held : ∀ world, knows.holds world → Held pid booking world)
    (unpaid : ∀ db : Db, (db.applyAll writes).bookingPayments = db.bookingPayments)
    (continues : ∀ payment, Spec cfg law pid owner
      (At pid (writes ++ failWrites reason payment) (knows.and (.due pid booking payment)) recalls)
      (next ()) ok err) :
    Spec cfg law pid owner (At pid writes knows recalls)
      (failLinkedPendingPayment booking reason >>= next) ok err := by
  unfold failLinkedPendingPayment
  refine select_rule (fun answer => .due pid booking answer) (fun _ => recalls.holds) ?_
    (fun _ _ => recalls.persists trivial) fun answer => ?_
  · intro world consistent known
    have holds := held world known
    simp only [Query.eval, unpaid]
    cases found : world.db.bookingPayments.find? fun row =>
        row.bookingId == booking.id && row.tenantId == booking.tenantId &&
          row.status == .pending with
    | none =>
        refine ⟨holds, fun payment due => ?_⟩
        have absent := List.find?_eq_none.mp found payment due.there
        simp [due.ofBooking, due.tenant, due.pending] at absent
    | some payment =>
        have matched := List.find?_some found
        simp only [Bool.and_eq_true, beq_iff_eq] at matched
        exact ⟨holds, List.mem_of_find?_eq_some found, matched.2, matched.1.1, matched.1.2⟩
  · cases answer with
    | none =>
        have continued := continues none
        rw [failWrites, List.append_nil] at continued
        exact continued
    | some payment => exact update_rule rfl (fun _ _ _ => trivial) (continues (some payment))

theorem due_enabled {booking : Booking} {payment : Option BookingPayment} {world : World Call}
    (known : (Knowledge.due pid booking payment).holds world) :
    (∀ row, payment = some row → row.Due world.db booking) ∧
      (payment = none → booking.NothingDue world.db) := by
  cases payment with
  | none => exact ⟨(fun _ same => nomatch same), fun _ => known.2⟩
  | some row => exact ⟨fun other same => by cases same; exact known.2, fun same => nomatch same⟩

/-! ## The offer of a freed slot -/

/-- An offer that fits the slot, with its message. -/
structure Offer.Fits (slot : WaitlistFilter) (offer : Offer) : Prop where
  accepted : slot.accepts offer.entry = true
  staff : offer.staffId = slot.staffId
  purpose : offer.message.purpose = .waitlistOffer
  tenant : offer.message.tenantId = offer.entry.tenantId
  business : offer.message.businessId = offer.entry.businessId
  fresh : offer.message.Fresh

theorem Offer.Fits.enabled {slot : WaitlistFilter} {offer : Offer} (fits : offer.Fits slot)
    {db : Db} (there : offer.entry ∈ db.waitlistEntries) : offer.Enabled db slot :=
  ⟨there, fits.accepted, fits.staff, fits.purpose, fits.tenant, fits.business, fits.fresh⟩

/-- The session holds the entry to which the slot is offered, if there is one. -/
def Knowledge.offered (pid : Pid) : Option Offer → Knowledge pid
  | some offer => .heldEntry pid offer.entry
  | none => .nothing pid

/-- The state after a freed slot has been offered, or nobody was found. -/
def AfterOffer (pid : Pid) (writes : List Write) (knows : Knowledge pid) (recalls : Memory)
    (slot : WaitlistFilter) (world : World Call) (log : Log) : Prop :=
  ∃ offer : Option Offer, (∀ given, offer = some given → given.Fits slot) ∧
    At pid (writes ++ Offer.writes? offer) (knows.and (.offered pid offer)) recalls world log

theorem AfterOffer.nobody {slot : WaitlistFilter} {world : World Call} {log : Log}
    (met : At pid writes knows recalls world log) :
    AfterOffer pid writes knows recalls slot world log :=
  ⟨none, (fun _ same => nomatch same), by rw [Offer.writes?, List.append_nil]; exact met.1,
    ⟨met.2.1, trivial⟩, met.2.2⟩

theorem AfterOffer.somebody {slot : WaitlistFilter} (offer : Offer) {world : World Call}
    {log : Log} (fits : offer.Fits slot)
    (met : At pid
      (writes ++ [.updateWaitlistEntry offer.entry.id (.offer offer.staffId offer.offeredAt)] ++
        [.insertOutbox offer.message]) (knows.and (.heldEntry pid offer.entry)) recalls world log) :
    AfterOffer pid writes knows recalls slot world log := by
  refine ⟨some offer, fun other same => by cases same; exact fits, ?_⟩
  rw [List.append_assoc] at met
  exact met

/-- The commit of a freed booking, after the slot may have been offered. -/
theorem commitFree_rule (lawful : Lawful law) (booking : Booking) (reason : Option String)
    (payment : Option BookingPayment) (audit : AuditLog) (messages : List NotificationOutbox)
    (offer : Option Offer) {next : Unit → DbM α} (recalls' : Memory)
    (same : writes = Transaction.writes (.free booking reason payment audit messages offer))
    (held : ∀ world, knows.holds world → Held pid booking world)
    (due : ∀ world, knows.holds world → (Knowledge.due pid booking payment).holds world)
    (offered : ∀ world, knows.holds world → (Knowledge.offered pid offer).holds world)
    (fits : ∀ given, offer = some given → given.Fits (slotOf booking booking.tenantId))
    (frees : Frees owner booking audit messages)
    (sees : ∀ log, recalls.holds log → recalls'.holds (log ++ [⟨.commit, ()⟩]))
    (continues : Spec cfg law pid owner (At pid [] (.known pid booking.id) recalls') (next ()) ok
      err) :
    Spec cfg law pid owner (At pid writes knows recalls) (commit >>= next) ok err := by
  refine commit_rule lawful _ same (.known pid booking.id) recalls' ?_ ?_ sees continues
  · intro world _ known _
    obtain ⟨paid, nothing⟩ := due_enabled (due world known)
    refine .free (held world known).2 frees paid nothing fun given present => ?_
    have there := offered world known
    rw [present] at there
    exact (fits given present).enabled there.2
  · intro world _ known _
    exact known_applyAll _ (List.mem_map_of_mem (held world known).2)

theorem expirePendingPaymentHold_spec (lawful : Lawful law) (expires : owner.expires = true)
    (args : BookingRef) :
    Spec cfg law pid owner (At pid [] (.nothing pid) .nothing) (expirePendingPaymentHold args)
      (fun _ => At pid [] (.nothing pid) .nothing) (fun _ _ => True) := by
  unfold expirePendingPaymentHold
  refine now_rule fun startedAt => ?_
  refine requireBookingInBusinessForUpdate_rule (fun _ => Memory.nothing.holds)
    (fun _ _ _ => trivial) (fun _ _ _ _ _ => trivial) fun booking _ sameTenant _ => ?_
  dsimp only
  split
  · exact raise_rule fun _ _ => trivial
  next pending =>
  rw [not_not] at pending
  refine update_rule rfl (fun _ _ _ => trivial) ?_
  refine failLinkedPendingPayment_rule (fun _ known => known.2) (fun _ => rfl) fun payment => ?_
  refine createAuditLog_rule fun audit action _ => ?_
  refine waitlist_rule (by cases payment <;> simp [failWrites])
    (bind_rule (fun _ => AfterOffer pid _ _ .nothing
      (slotOf booking args.tenantId)) (ret_rule fun _ _ _ met => .nobody met) ?tail)
    fun entry accepted _ => bind_rule (fun _ => AfterOffer pid _ _ .nothing
      (slotOf booking args.tenantId)) ?_ ?tail
  case tail =>
    refine fun offerIds => exists_rule fun offer => pure_rule fun fits => ?_
    refine commitFree_rule lawful booking (some holdExpired) payment audit [] offer .nothing
      (by simp [Transaction.writes]) (fun _ known => known.1.1.2)
      (fun _ known => known.1.2) (fun _ known => known.2) (sameTenant ▸ fits)
      (.expire expires pending action) (fun _ _ => trivial) ?_
    refine refreshBooking_rule (fun _ known => known) fun fresh _ => ?_
    refine enqueueJobs_rule (fun _ _ _ => trivial) (fun _ _ _ => trivial) ?_
    exact ret_rule fun _ _ _ met => ⟨met.1, trivial, trivial⟩
  refine update_rule rfl (fun _ _ _ => trivial) ?_
  refine requireBusiness_rule (fun _ => .nothing) (fun _ _ _ => trivial) (fun _ _ _ => trivial)
    fun business => ?_
  refine requireServiceInBusiness_rule (fun _ _ _ => trivial) fun service => ?_
  refine requireCustomerInBusiness_rule (fun _ _ _ => trivial) fun customer => ?_
  refine enqueueWaitlistOffer_rule fun message tenant inBusiness purpose fresh => ?_
  refine ret_rule fun world log _ met => ?_
  exact .somebody ⟨entry, booking.staffId, startedAt, message⟩
    ⟨accepted, rfl, purpose, tenant, inBusiness, fresh⟩ met

/-- The sweep skips the holds that are no longer pending. -/
theorem expireEach_spec (lawful : Lawful law) (expires : owner.expires = true)
    (stale : List Booking) :
    Spec cfg law pid owner (At pid [] (.nothing pid) .nothing) (expireEach stale)
      (fun _ => At pid [] (.nothing pid) .nothing) (fun _ _ => True) := by
  induction stale with
  | nil => exact ret_rule fun _ _ _ met => met
  | cons booking rest ih =>
      rw [expireEach]
      refine bind_rule (fun _ => At pid [] (.nothing pid) .nothing) ?_ fun expired => ?_
      · refine tryCatch_rule (fun _ _ => True) ?_ fun error => ?_
        · refine bind_rule _ (expirePendingPaymentHold_spec lawful expires _) fun _ => ?_
          exact ret_rule fun _ _ _ met => met
        · cases error with
          | conflict message =>
              exact rollback_rule .nothing (fun _ _ => trivial) (ret_rule fun _ _ _ met => met)
          | _ => exact ⟨.raise (fun _ => .const _) fun _ _ _ _ => trivial⟩
      · refine bind_rule _ ih fun others => ?_
        exact ret_rule fun _ _ _ met => met

theorem expireStalePaymentHolds_spec (lawful : Lawful law) (expires : owner.expires = true) :
    Spec cfg law pid owner (At pid [] (.nothing pid) .nothing) (expireStalePaymentHolds cfg)
      (fun _ => At pid [] (.nothing pid) .nothing) (fun _ _ => True) := by
  unfold expireStalePaymentHolds
  refine now_rule fun time => ?_
  exact glance_rule (fun _ => trivial) fun stale => expireEach_spec lawful expires stale

theorem cancelBooking_spec (lawful : Lawful law) (cancels : owner.cancels = true)
    (args : CancelBooking) :
    Spec cfg law pid owner (At pid [] (.nothing pid) .nothing) (cancelBooking cfg args)
      (fun _ => At pid [] (.nothing pid) .nothing) (fun _ _ => True) := by
  unfold cancelBooking
  dsimp only
  split
  · exact raise_rule fun _ _ => trivial
  refine now_rule fun startedAt => ?_
  refine requireBookingInBusinessForUpdate_rule (fun _ => Memory.nothing.holds)
    (fun _ _ _ => trivial) (fun _ _ _ _ _ => trivial) fun booking _ sameTenant _ => ?_
  split
  · exact raise_rule fun _ _ => trivial
  next active =>
  refine update_rule rfl (fun _ _ _ => trivial) ?_
  refine failLinkedPendingPayment_rule (fun _ known => known.2) (fun _ => rfl) fun payment => ?_
  refine createAuditLog_rule fun audit action _ => ?_
  refine requireBusiness_rule (fun _ => .nothing) (fun _ _ _ => trivial) (fun _ _ _ => trivial)
    fun business => ?_
  refine requireCustomerInBusiness_rule (fun _ _ _ => trivial) fun customer => ?_
  refine requireServiceInBusiness_rule (fun _ _ _ => trivial) fun service => ?_
  refine enqueueBookingCancellation_rule (fun _ _ _ _ => trivial) fun intentIds messages about => ?_
  refine waitlist_rule (by cases payment <;> simp [failWrites])
    (bind_rule (fun _ => AfterOffer pid _ _ .nothing
      (slotOf booking args.tenantId)) (ret_rule fun _ _ _ met => .nobody met) ?tail)
    fun entry accepted _ => bind_rule (fun _ => AfterOffer pid _ _ .nothing
      (slotOf booking args.tenantId)) ?_ ?tail
  case tail =>
    refine fun offerIds => exists_rule fun offer => pure_rule fun fits => ?_
    refine glance_rule (fun _ => trivial) fun calendarEvent => ?_
    refine commitFree_rule lawful booking args.reason payment audit messages offer .nothing
      (by simp [Transaction.writes]) (fun _ known => known.1.1.2) (fun _ known => known.1.2)
      (fun _ known => known.2) (sameTenant ▸ fits) (.cancel cancels active ?_ about)
      (fun _ _ => trivial) ?_
    · split at action
      · exact .inr action
      · exact .inl action
    refine refreshBooking_rule (fun _ known => known) fun fresh _ => ?_
    refine enqueueJobs_rule (fun _ _ _ => trivial) (fun _ _ _ => trivial) ?_
    refine enqueueJobs_rule (fun _ _ _ => trivial) (fun _ _ _ => trivial) ?_
    refine enqueueJobs_rule (fun _ _ _ => trivial) (fun _ _ _ => trivial) ?_
    exact ret_rule fun _ _ _ met => ⟨met.1, trivial, trivial⟩
  refine update_rule rfl (fun _ _ _ => trivial) ?_
  refine requireCustomerInBusiness_rule (fun _ _ _ => trivial) fun waitlistCustomer => ?_
  refine enqueueWaitlistOffer_rule fun message tenant inBusiness purpose fresh => ?_
  refine ret_rule fun world log _ met => ?_
  exact .somebody ⟨entry, booking.staffId, startedAt, message⟩
    ⟨accepted, rfl, purpose, tenant, inBusiness, fresh⟩ met

/-- `create_booking` at any point of a longer call. -/
theorem createBooking_quiet (lawful : Lawful law) (books : owner.books = true)
    (args : CreateBooking) :
    Spec cfg law pid owner (At pid [] (.nothing pid) .nothing) (createBooking cfg args)
      (fun _ => At pid [] (.nothing pid) .nothing) (fun _ _ => True) := by
  refine ⟨fun world log inv met => ?_⟩
  have spec : Spec cfg law pid owner (At pid [] (.nothing pid) (.ordinary log))
      (createBooking cfg args) (fun _ => At pid [] (.nothing pid) .nothing) (fun _ _ => True) :=
    weaken_rule (createBooking_spec lawful books args log) (fun _ _ _ met => met)
      (fun _ _ _ later => ⟨later.1, trivial, trivial⟩) fun _ _ _ => trivial
  exact spec.triple world log inv ⟨met.1, trivial, Memory.ordinary_self log⟩

theorem rescheduleBooking_spec (lawful : Lawful law) {args : RescheduleBooking}
    (caller : owner = .rescheduleBooking args) :
    Spec cfg law pid owner (At pid [] (.nothing pid) .nothing) (rescheduleBooking cfg args)
      (fun _ _ _ => True) (fun _ _ => True) := by
  have books : owner.books = true := by
    rw [caller]
    rfl
  have cancels : owner.cancels = true := by
    rw [caller]
    rfl
  unfold rescheduleBooking
  refine requireBookingInBusiness_rule (fun _ _ _ => trivial) fun found _ _ => ?_
  dsimp only
  split
  · exact raise_rule fun _ _ => trivial
  refine bind_rule (fun _ => At pid [] (.nothing pid) .nothing)
    (weaken_rule (cancelBooking_spec lawful cancels _)
      (fun _ _ _ met => ⟨met.1, trivial, trivial⟩) (fun _ _ _ met => met) fun _ _ _ => trivial)
    fun old => ?_
  refine bind_rule _ (createBooking_quiet lawful books _) fun new => ?_
  refine createAuditLog_rule fun audit action _ => ?_
  refine commit_rule lawful (.note audit) rfl (.nothing pid) .nothing ?_
    (fun _ _ _ _ => trivial) (fun _ _ => trivial) (ret_rule fun _ _ _ _ => trivial)
  intro world _ _ _
  subst caller
  exact .note action

/-! ## The waitlist sweep -/

/-- The entries to which the rounds so far have offered a slot. -/
def offeredEntries (rounds : List Round) : List WaitlistEntry :=
  rounds.filterMap fun round => round.offer.map (·.entry)

/-- The rounds so far: every offer fits its slot, and no entry got two. -/
structure RoundsMade (rounds : List Round) : Prop where
  fits : ∀ round ∈ rounds, ∀ given, round.offer = some given → given.Fits round.slot
  distinct : ((rounds.filterMap (·.offer)).map (·.entry.id)).Nodup

/-- The state of the sweep after some rounds. -/
def SweptTo (pid : Pid) (stale : List WaitlistEntry) (rounds : List Round) :
    World Call → Log → Prop :=
  At pid (rounds.flatMap Round.writes)
    ((Knowledge.heldEntries pid stale).and (.heldEntries pid (offeredEntries rounds))) .nothing

theorem RoundsMade.snoc_nobody {rounds : List Round} (made : RoundsMade rounds)
    (entry : WaitlistEntry) (expiredAt : Instant) :
    RoundsMade (rounds ++ [⟨entry, expiredAt, none⟩]) where
  fits := by
    intro round member given offered
    rcases List.mem_append.mp member with old | new
    · exact made.fits round old given offered
    · rw [List.mem_singleton] at new
      subst new
      cases offered
  distinct := by simpa using made.distinct

/-- An update of the waitlist for every offer made. -/
theorem offer_written {rounds : List Round} {offer : Offer}
    (member : offer ∈ rounds.filterMap (·.offer)) :
    Write.updateWaitlistEntry offer.entry.id (.offer offer.staffId offer.offeredAt) ∈
      rounds.flatMap Round.writes := by
  obtain ⟨round, there, given⟩ := List.mem_filterMap.mp member
  refine List.mem_flatMap.mpr ⟨round, there, ?_⟩
  simp [Round.writes, given, Offer.writes?, Offer.writes]

theorem RoundsMade.snoc_somebody {rounds : List Round} (made : RoundsMade rounds)
    (entry : WaitlistEntry) (expiredAt : Instant) (offer : Offer)
    (fits : offer.Fits (Round.slot ⟨entry, expiredAt, some offer⟩))
    (untouched : ∀ change, Write.updateWaitlistEntry offer.entry.id change ∉
      rounds.flatMap Round.writes) :
    RoundsMade (rounds ++ [⟨entry, expiredAt, some offer⟩]) where
  fits := by
    intro round member given offered
    rcases List.mem_append.mp member with old | new
    · exact made.fits round old given offered
    · rw [List.mem_singleton] at new
      subst new
      cases offered
      exact fits
  distinct := by
    simp only [List.filterMap_append, List.filterMap_cons, List.filterMap_nil, List.map_append,
      List.map_cons, List.map_nil]
    refine List.nodup_append.mpr ⟨made.distinct, List.nodup_singleton _, ?_⟩
    rintro id member other new rfl
    rw [List.mem_singleton] at new
    obtain ⟨earlier, there, same⟩ := List.mem_map.mp member
    refine untouched (.offer earlier.staffId earlier.offeredAt) ?_
    rw [← new, ← same]
    exact offer_written there

/-- The sweep enters nobody on the waitlist. -/
theorem rounds_enroll_nobody (rounds : List Round) (expired : WaitlistEntry) (expiredAt : Instant)
    (entry : WaitlistEntry) :
    Write.insertWaitlistEntry entry ∉ rounds.flatMap Round.writes ++
      [.updateWaitlistEntry expired.id (.expire expiredAt)] := by
  simp only [List.mem_append, List.mem_flatMap, List.mem_singleton, reduceCtorEq, or_false,
    not_exists, not_and]
  intro round _
  cases given : round.offer <;> simp [Round.writes, Offer.writes?, Offer.writes, given]

theorem expireOffers_rule {startedAt : Instant} (stale : List WaitlistEntry)
    {entries : List WaitlistEntry} (rounds : List Round) {next : List Nat → DbM α}
    (fails : ∀ error log, err error log)
    (made : RoundsMade rounds)
    (continues : ∀ ids rounds', rounds'.map (·.expired) = rounds.map (·.expired) ++ entries →
      RoundsMade rounds' → Spec cfg law pid owner (SweptTo pid stale rounds') (next ids) ok err) :
    Spec cfg law pid owner (SweptTo pid stale rounds) (expireOffers startedAt entries >>= next) ok
      err := by
  induction entries generalizing rounds next with
  | nil => exact continues [] rounds (by simp) made
  | cons entry rest ih =>
      simp only [expireOffers, escalateToNextWaitingEntry, bind_assoc]
      refine update_rule rfl (fun _ _ _ => trivial) ?_
      refine waitlist_rule (rounds_enroll_nobody rounds entry startedAt) ?_
        fun candidate accepted untouched => ?_
      · refine weaken_rule (ih _ (made.snoc_nobody entry startedAt) ?_) ?_ (fun _ _ _ met => met)
          fun _ _ met => met
        · intro ids rounds' expired made'
          exact continues ids rounds' (by simpa using expired) made'
        · rintro world log - ⟨own, known, -⟩
          refine ⟨?_, ?_, trivial⟩
          · simpa [Round.writes, Offer.writes?] using own
          · simpa [offeredEntries] using known
      · simp only [bind_assoc]
        refine update_rule rfl (fun _ _ _ => trivial) ?_
        refine requireBusiness_rule (fun _ => .nothing) (fun _ _ _ => trivial)
          (fun _ _ _ => fails _ _) fun business => ?_
        refine requireCustomerInBusiness_rule (fun _ _ _ => fails _ _) fun customer => ?_
        refine requireServiceInBusiness_rule (fun _ _ _ => fails _ _) fun service => ?_
        refine enqueueWaitlistOffer_rule fun message tenant inBusiness purpose fresh => ?_
        refine weaken_rule (ih _ (made.snoc_somebody entry startedAt
          ⟨candidate, entry.offeredForStaffId, startedAt, message⟩
          ⟨accepted, rfl, purpose, tenant, inBusiness, fresh⟩ ?_) ?_) ?_ (fun _ _ _ met => met)
          fun _ _ met => met
        · intro change member
          exact untouched change (List.mem_append_left _ member)
        · intro ids rounds' expired made'
          exact continues (message.id :: ids) rounds' (by simpa using expired) made'
        · rintro world log - ⟨own, ⟨⟨staleHeld, offeredHeld⟩, candidateHeld⟩, -⟩
          refine ⟨?_, ⟨staleHeld, fun held member => ?_⟩, trivial⟩
          · simpa [Round.writes, Offer.writes?, Offer.writes] using own
          · simp only [offeredEntries, List.filterMap_append, List.mem_append] at member
            rcases member with old | new
            · exact offeredHeld held old
            · simp only [List.filterMap_cons, Option.map_some, List.filterMap_nil,
                List.mem_singleton] at new
              subst new
              exact candidateHeld

theorem expireStaleWaitlistOffers_spec (lawful : Lawful law)
    (caller : owner = .expireStaleWaitlistOffers) :
    Spec cfg law pid owner (At pid [] (.nothing pid) .nothing) (expireStaleWaitlistOffers cfg)
      (fun _ _ _ => True) (fun _ _ => True) := by
  unfold expireStaleWaitlistOffers
  refine now_rule fun startedAt => ?_
  refine staleOffers_rule fun stale distinct offered => ?_
  split
  · exact ret_rule fun _ _ _ _ => trivial
  refine weaken_rule (expireOffers_rule stale [] (fun _ _ => trivial)
    ⟨by simp, by simp⟩ fun offerIds rounds expired made => ?_) ?_ (fun _ _ _ met => met)
    fun _ _ met => met
  · refine commit_rule lawful (.sweep rounds) rfl (.nothing pid) .nothing ?_
      (fun _ _ _ _ => trivial) (fun _ _ => trivial) ?_
    · rintro world - ⟨staleHeld, offeredHeld⟩ -
      subst caller
      rw [List.map_nil, List.nil_append] at expired
      have memberStale : ∀ round ∈ rounds, round.expired ∈ stale := by
        intro round member
        rw [← expired]
        exact List.mem_map_of_mem member
      refine .sweep ?_ ?_ ?_ made.distinct
      · rw [← expired, List.map_map] at distinct
        exact distinct
      · intro round member
        exact ⟨(staleHeld _ (memberStale round member)).2, offered _ (memberStale round member)⟩
      · intro round member given present
        refine (made.fits round member given present).enabled ?_
        refine (offeredHeld given.entry ?_).2
        exact List.mem_filterMap.mpr ⟨round, member, by rw [present]; rfl⟩
    · refine enqueueJobs_rule (fun _ _ _ => trivial) (fun _ _ _ => trivial) ?_
      exact ret_rule fun _ _ _ _ => trivial
  · rintro world log - ⟨own, known, -⟩
    exact ⟨own,
      ⟨known.2, by simp [Knowledge.heldEntries, Knowledge.all, Knowledge.given, offeredEntries]⟩,
      trivial⟩

end Freeing

end AppointmentVoice
