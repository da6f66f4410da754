import AppointmentVoice.Ivr.Progress

/-!
# Every handler keeps to the line

One lemma for each handler of a key, from the row that it is given to what it commits, then
the requests that read the row or make it, and the sweep.
-/

set_option autoImplicit false

namespace AppointmentVoice

open Concurrency World

section Handlers

variable {cfg : IvrSettings} {maxSlots : Nat} {session stored row : VoiceSession}

/-! ## Ends -/

/-- A call whose row is at the committed step is ended for good. -/
theorem Working.ends (working : Working maxSlots session stored row) {step : IvrStep}
    (last : step ∈ [IvrStep.noSlots, .expired, .externalLinkSent])
    (leads : step ∈ session.step.next) :
    Committable maxSlots ⟨some stored, SessionChange.apply { step := some step } row⟩ where
  sound := working.unfinished.closed last
  follows old same := by
    cases same
    refine .of_live (working.sameCall.trans (VoiceSession.sameCall_apply _ row)) working.live ?_
    exact .inr (working.step_eq ▸ leads)

theorem keeps_noSlots (working : Working maxSlots session stored row) {prompt : PromptKey}
    {named : Bool} {args : PromptArgs} (leads : .noSlots ∈ session.step.next) :
    KeepsTo maxSlots (inHand stored row) (endSession session .noSlots prompt named args) :=
  keeps_end working.id_eq (working.ends (by decide) leads)

/-- A counter has been raised, and the call is ended. -/
theorem Working.expires (working : Working maxSlots session stored row) {change : SessionChange}
    (unfinished : (change.apply row).Unfinished) :
    Committable maxSlots
      ⟨some stored, SessionChange.apply { step := some .expired } (change.apply row)⟩ where
  sound := unfinished.closed (by decide)
  follows old same := by
    cases same
    refine .of_live (working.sameCall.trans ((VoiceSession.sameCall_apply _ row).trans
      (VoiceSession.sameCall_apply _ _))) working.live ?_
    exact .inr (IvrStep.expired_mem_next working.live)

/-- A counter has been raised, and the call goes on. -/
theorem Working.counts (working : Working maxSlots session stored row) {change : SessionChange}
    (unfinished : (change.apply row).Unfinished) (keeps : change.Keeps) (stays : change.step = none)
    (patience : (change.apply row).noInputCount < noInputMax ∧
      (change.apply row).invalidKeyCount < invalidKeyMax) :
    Committable maxSlots ⟨some stored, change.apply row⟩ where
  sound := by
    refine unfinished.sound (fun _ => patience) ?_
    have same : (change.apply row).step = row.step := by
      rw [SessionChange.apply, stays]
      rfl
    rw [same]
    exact working.sound.equipped.apply keeps
  follows old same := by
    cases same
    refine .of_live (working.sameCall.trans (VoiceSession.sameCall_apply _ row))
      working.live (.inl ?_)
    rw [SessionChange.apply, stays]
    exact working.step

theorem keeps_handleInvalidKey (working : Working maxSlots session stored row)
    (reprompt : IvrResponse) :
    KeepsTo maxSlots (inHand stored row) (handleInvalidKey session reprompt) := by
  have patience := working.sound.patience working.live_row
  have same : session.invalidKeyCount = row.invalidKeyCount := by
    obtain ⟨count, rfl⟩ := working.seen
    rfl
  rw [handleInvalidKey, same]
  refine keeps_set working.id_eq ?_
  have unfinished := working.unfinished.mistaken patience.2
  split
  · exact keeps_end working.id_eq (working.expires unfinished)
  · next few =>
      refine keeps_commit (working.counts unfinished ⟨rfl, rfl, rfl, rfl, rfl, rfl, rfl⟩ rfl
        ⟨patience.1, ?_⟩) (.ret trivial)
      exact Nat.lt_of_not_le few

theorem keeps_handleNoInput (rests : AtRest maxSlots session stored session) :
    KeepsTo maxSlots (inHand stored session) (handleNoInput session) := by
  have patience := rests.sound.patience rests.live_row
  refine keeps_set rfl ?_
  have unfinished := rests.unfinished.silent patience.1
  split
  · exact keeps_end rfl (rests.expires unfinished)
  · next few =>
      refine keeps_commit (rests.counts unfinished ⟨rfl, rfl, rfl, rfl, rfl, rfl, rfl⟩ rfl
        ⟨Nat.lt_of_not_le few, patience.2⟩) ?_
      exact keeps_aside (Issues.repromptForNoInput Stmt.elsewhere_plain.toNoting _) rfl fun _ =>
        .ret trivial

/-! ## The main menu -/

theorem keeps_handlePress1Internal (working : Working maxSlots session stored row)
    (here : session.step = .incoming) :
    KeepsTo maxSlots (inHand stored row) (handlePress1Internal session) := by
  refine keeps_aside (Issues.select Stmt.elsewhere_plain.toNoting _) rfl fun services => ?_
  split
  · exact keeps_noSlots working (here ▸ by decide)
  · refine keeps_set working.id_eq
      (keeps_commit (working.moves ⟨rfl, rfl, rfl, rfl, rfl, rfl⟩ ?_ ?_)
      (.ret trivial))
    · rw [here]
      exact List.mem_cons_self
    · exact trivial

theorem keeps_handlePress1External (working : Working maxSlots session stored row)
    (here : session.step = .incoming) (business : Business) (startedAt : Instant) :
    KeepsTo maxSlots (inHand stored row) (handlePress1External session business startedAt) := by
  refine keeps_aside (Issues.addIntent Stmt.elsewhere_plain.toNoting _ _ _ _ _ _ _) rfl fun _ => ?_
  refine keeps_update working.id_eq (keeps_commit (working.ends (by decide) (here ▸ by decide)) ?_)
  exact keeps_aside (Issues.enqueueJob trivial) rfl fun _ => .ret trivial

theorem keeps_handleTransferRequest (working : Working maxSlots session stored row)
    (here : session.step = .incoming) :
    KeepsTo maxSlots (inHand stored row) (handleTransferRequest session) := by
  have noting := Stmt.elsewhere_plain.toNoting
  have refuses : ∀ prompt : PromptKey, KeepsTo maxSlots (inHand stored row) (do
      let session ← setSession session { step := some .transferUnavailable }
      commit
      return singleOptionResponse prompt .labelBookAppointment session) := by
    intro prompt
    refine keeps_set working.id_eq
      (keeps_commit (working.moves ⟨rfl, rfl, rfl, rfl, rfl, rfl⟩ ?_ ?_)
      (.ret trivial))
    · rw [here]
      change IvrStep.transferUnavailable ∈ _
      decide
    · exact trivial
  refine keeps_aside (Issues.requireBusiness noting _ _) rfl fun business => ?_
  dsimp only
  split
  · exact refuses _
  · refine keeps_aside (Issues.resolveTransferDestination noting _ _) rfl fun destination => ?_
    cases destination with
    | none => exact refuses _
    | some phone =>
        refine keeps_set working.id_eq (keeps_commit ⟨?_, ?_⟩ (.ret trivial))
        · have sound := working.sound
          exact ⟨sound.silence, sound.mistakes, fun live =>
            absurd live (show ¬IvrStep.abandoned.Live by decide), rfl,
            fun _ passed => absurd rfl passed⟩
        · rintro old ⟨⟩
          refine .of_live (working.sameCall.trans (VoiceSession.sameCall_apply _ row))
            working.live ?_
          right
          rw [← working.step_eq, here]
          change IvrStep.abandoned ∈ _
          decide

theorem keeps_handleManageBookingRequest (working : Working maxSlots session stored row)
    (here : session.step = .incoming) :
    KeepsTo maxSlots (inHand stored row) (handleManageBookingRequest session) := by
  have noting := Stmt.elsewhere_plain.toNoting
  refine keeps_aside (Issues.nextBookingOfCaller noting _) rfl fun booking => ?_
  cases booking with
  | none => exact keeps_aside (Issues.mainMenu noting _) rfl fun _ => .ret trivial
  | some booking =>
      refine keeps_set working.id_eq
        (keeps_commit (working.moves ⟨rfl, rfl, rfl, rfl, rfl, rfl⟩ ?_ ?_) ?_)
      · rw [here]
        change IvrStep.manageBooking ∈ _
        decide
      · exact rfl
      · exact keeps_only (Issues.manageBookingResponse noting _ _) rfl

theorem keeps_handleIncoming (working : Working maxSlots session stored row)
    (here : session.step = .incoming) (key : String) :
    KeepsTo maxSlots (inHand stored row) (handleIncoming session key) := by
  have noting := Stmt.elsewhere_plain.toNoting
  unfold handleIncoming
  split
  · refine keeps_aside (Issues.now noting) rfl fun startedAt =>
      keeps_aside (Issues.requireBusiness noting _ _) rfl fun business => ?_
    cases business.bookingMode with
    | externalBookingLink => exact keeps_handlePress1External working here business startedAt
    | internalBooking => exact keeps_handlePress1Internal working here
  · split
    · exact keeps_handleTransferRequest working here
    · split
      · exact keeps_handleManageBookingRequest working here
      · exact keeps_aside (Issues.mainMenu noting _) rfl fun menu =>
          keeps_handleInvalidKey working menu

theorem keeps_returnToMainMenu (working : Working maxSlots session stored row)
    (leads : .incoming ∈ session.step.next) :
    KeepsTo maxSlots (inHand stored row) (returnToMainMenu session) := by
  refine keeps_aside (Issues.requireBusiness Stmt.elsewhere_plain.toNoting _ _)
    rfl fun business => ?_
  exact keeps_set working.id_eq
    (keeps_commit (working.moves ⟨rfl, rfl, rfl, rfl, rfl, rfl⟩ leads trivial)
    (.ret trivial))

theorem keeps_handleTransferUnavailable (working : Working maxSlots session stored row)
    (here : session.step = .transferUnavailable) (key : String) :
    KeepsTo maxSlots (inHand stored row) (handleTransferUnavailable session key) := by
  unfold handleTransferUnavailable
  split
  · exact keeps_returnToMainMenu working (here ▸ by decide)
  · exact keeps_handleInvalidKey working _

/-! ## Slots -/

/-- No more slots are found than are offered. -/
theorem keeps_findSlots {α : Type} {desk : Desk} {serviceId : Nat} {staffId : Option Nat}
    {next : List (Instant × Instant) → DbM α} (held : desk.isEmpty = false)
    (rest : ∀ slots, slots.length ≤ cfg.ivrMaxSlots → KeepsTo maxSlots desk (next slots)) :
    KeepsTo maxSlots desk (findSlots cfg session serviceId staffId >>= next) := by
  have noting := Stmt.elsewhere_plain.toNoting
  unfold findSlots today
  simp only [bind_assoc]
  refine keeps_aside (Issues.now noting) held fun _ => keeps_aside (Issues.ret _) held fun day => ?_
  refine keeps_aside (Issues.collectSlots (fun _ => Program.Only.bind (Issues.orOverflow _) fun _ =>
    Issues.getAvailableSlots noting _ _ _ _ _ _) _ _ _ _) held
    fun collected => ?_
  exact rest _ (List.length_take_le _ _)

/-- The slots that have been found are filed. -/
theorem keeps_offerSlots (working : Working maxSlots session stored row)
    {slots : List (Instant × Instant)} (some : slots.isEmpty = false)
    (few : slots.length ≤ maxSlots)
    {step : IvrStep} (leads : step ∈ session.step.next)
    (equipped : ∀ after : VoiceSession, after.selectedServiceId = row.selectedServiceId →
      after.managedBookingId = row.managedBookingId → after.Offers maxSlots →
        after.Equipped maxSlots step) {prompt : PromptKey} {serviceName : String} :
    KeepsTo maxSlots (inHand stored row) (offerSlots session slots step prompt serviceName) := by
  refine keeps_set working.id_eq
    (keeps_commit (working.moves ⟨rfl, rfl, rfl, rfl, rfl, rfl⟩ leads ?_)
    (.ret trivial))
  refine equipped _ rfl rfl ⟨slots, rfl, ?_, few⟩
  rintro rfl
  cases some

theorem keeps_proceedToSlotSearch (working : Working cfg.ivrMaxSlots session stored row)
    (here : session.step ∈ [IvrStep.serviceSelection, .staffSelection])
    (chosen : row.selectedServiceId.isSome) (service : Service) :
    KeepsTo cfg.ivrMaxSlots (inHand stored row) (proceedToSlotSearch cfg session service) := by
  have leads : .noSlots ∈ session.step.next ∧ .slotSelection ∈ session.step.next := by
    rcases List.mem_pair.mp here with here | here <;> rw [here] <;> decide
  refine keeps_findSlots rfl fun slots few => ?_
  cases empty : slots.isEmpty with
  | true => exact keeps_noSlots working leads.1
  | false =>
      refine keeps_offerSlots working empty few leads.2 fun after same _ offers => ⟨?_, offers⟩
      rw [same]
      exact chosen

/-! ## Choices -/

theorem keeps_handleServiceSelection (working : Working cfg.ivrMaxSlots session stored row)
    (here : session.step = .serviceSelection) (key : String) :
    KeepsTo cfg.ivrMaxSlots (inHand stored row) (handleServiceSelection cfg session key) := by
  have noting := Stmt.elsewhere_plain.toNoting
  have stays : row.step = .serviceSelection := by rw [working.step, ← working.step_eq, here]
  refine keeps_aside (Issues.select noting _) rfl fun services => ?_
  split
  · exact keeps_noSlots working (here ▸ by decide)
  · split
    · exact keeps_handleInvalidKey working _
    · next service picked =>
        have asked : Working cfg.ivrMaxSlots
            (SessionChange.apply { selectedServiceId := some (some service.id) } session) stored
            (SessionChange.apply { selectedServiceId := some (some service.id) } row) :=
          working.chooses ⟨rfl, rfl, rfl, rfl, rfl, rfl⟩ rfl (stays ▸ trivial)
        refine keeps_set working.id_eq (keeps_aside (Issues.schedulableStaff noting _ _) rfl
          fun staffMembers => ?_)
        split
        · refine keeps_set asked.id_eq (keeps_proceedToSlotSearch ?_ ?_ rfl _)
          · refine asked.chooses ⟨rfl, rfl, rfl, rfl, rfl, rfl⟩ rfl ?_
            change VoiceSession.Equipped _ _ row.step
            exact stays ▸ trivial
          · change session.step ∈ _
            rw [here]
            decide
        · refine keeps_aside (Issues.reorderPreferredStaff noting _ _) rfl fun reordered => ?_
          refine keeps_set asked.id_eq
            (keeps_commit (asked.moves ⟨rfl, rfl, rfl, rfl, rfl, rfl⟩ ?_ ?_)
            (.ret trivial))
          · change IvrStep.staffSelection ∈ session.step.next
            rw [here]
            decide
          · exact rfl

theorem keeps_handleStaffSelection (working : Working cfg.ivrMaxSlots session stored row)
    (here : session.step = .staffSelection) (key : String) :
    KeepsTo cfg.ivrMaxSlots (inHand stored row) (handleStaffSelection cfg session key) := by
  have noting := Stmt.elsewhere_plain.toNoting
  have stays : row.step = .staffSelection := by rw [working.step, ← working.step_eq, here]
  have chosen : row.selectedServiceId.isSome := by
    have equipped := working.sound.equipped
    rw [stays] at equipped
    exact equipped
  refine keeps_aside (Issues.requireSelectedService noting _) rfl fun service => ?_
  refine keeps_aside (Issues.schedulableStaff noting _ _) rfl fun staffMembers => ?_
  refine keeps_aside (Issues.reorderPreferredStaff noting _ _) rfl fun reordered => ?_
  split
  · exact keeps_handleInvalidKey working _
  · refine keeps_set working.id_eq (keeps_proceedToSlotSearch ?_ ?_ ?_ _)
    · refine working.chooses ⟨rfl, rfl, rfl, rfl, rfl, rfl⟩ rfl ?_
      rw [stays]
      exact chosen
    · change session.step ∈ _
      rw [here]
      decide
    · exact chosen

/-- A key picks an item of the list. -/
theorem mem_of_chosen {α : Type} {key : String} {items : List α} {item : α}
    (picked : chosen key items = some item) : item ∈ items := by
  obtain ⟨index, -, found⟩ := Option.bind_eq_some_iff.mp picked
  exact List.mem_of_getElem? found

theorem keeps_selectSlot (working : Working maxSlots session stored row)
    (leads : .noSlots ∈ session.step.next) {key : String} {invalid : PromptKey}
    {book : Instant × Instant → DbM IvrResponse}
    (books : ∀ candidates slot, session.slotCandidates = some candidates → slot ∈ candidates →
      KeepsTo maxSlots (inHand stored row) (book slot)) :
    KeepsTo maxSlots (inHand stored row) (selectSlot session key invalid book) := by
  unfold selectSlot
  split
  · exact keeps_noSlots working leads
  · next candidates filed =>
      split
      · exact keeps_handleInvalidKey working _
      · next slot picked => exact books candidates slot filed (mem_of_chosen picked)

/-- The slot has been booked. -/
theorem keeps_confirmSlot (working : Working maxSlots session stored row) {booking : Booking}
    {candidates : List (Instant × Instant)} {slot : Instant × Instant} {prompt : PromptKey}
    (filed : session.slotCandidates = some candidates) (among : slot ∈ candidates)
    (leads : .bookingConfirmed ∈ session.step.next) :
    KeepsTo maxSlots (inHand stored row) (confirmSlot session booking slot prompt) := by
  have offered : row.slotCandidates = some candidates := by
    obtain ⟨count, rfl⟩ := working.seen
    exact filed
  refine keeps_set working.id_eq (keeps_commit ⟨?_, ?_⟩ (.ret trivial))
  · have sound := working.sound
    exact ⟨sound.silence, sound.mistakes, fun live =>
      absurd live (show ¬IvrStep.bookingConfirmed.Live by decide),
      ⟨rfl, candidates, offered, slot, among, rfl, rfl⟩, fun confirmed => absurd rfl confirmed⟩
  · rintro old ⟨⟩
    refine .of_live (working.sameCall.trans (VoiceSession.sameCall_apply _ row)) working.live ?_
    exact .inr (working.step_eq ▸ leads)

theorem keeps_handleSlotSelection (rests : AtRest maxSlots session stored row)
    (here : session.step = .slotSelection) (key : String) :
    KeepsTo maxSlots (inHand stored row) (handleSlotSelection cfg session key) := by
  have spares := Stmt.salon_sparesSessions
  have noting := spares.toLocking.toCharging.toEnding.toPlain.toNoting
  refine keeps_selectSlot rests.toWorking (here ▸ by decide) fun candidates slot filed among => ?_
  refine keeps_service (Issues.getOrCreateCustomer noting (fun _ _ => ⟨rfl, rfl⟩) trivial trivial
    _ _ _ _)
    rests fun customer stored row rests => ?_
  refine keeps_service (Issues.requireSelected fun _ =>
    Issues.createBooking spares.toLocking.toCharging.toEnding spares.book _ _) rests
    fun booking stored row rests => ?_
  exact keeps_confirmSlot rests.toWorking filed among (here ▸ by decide)

/-! ## The booking of a caller -/

theorem keeps_handleManageBooking (rests : AtRest cfg.ivrMaxSlots session stored row)
    (here : session.step = .manageBooking) (key : String) :
    KeepsTo cfg.ivrMaxSlots (inHand stored row) (handleManageBooking cfg session key) := by
  have noting := Stmt.elsewhere_plain.toNoting
  have spares := Stmt.salon_sparesSessions
  have managed : ∀ {stored row}, Working cfg.ivrMaxSlots session stored row →
      row.managedBookingId.isSome := by
    intro stored row working
    have equipped := working.sound.equipped
    rw [working.step, ← working.step_eq, here] at equipped
    exact equipped
  refine keeps_aside (Issues.requireManagedBooking noting _) rfl fun booking => ?_
  split
  · refine keeps_service (Issues.cancelBooking spares.toLocking spares.cancel spares.withdraw _ _)
      rests fun cancelled stored row rests => ?_
    have known := managed rests.toWorking
    refine keeps_end rests.id_eq (rests.moves ⟨rfl, rfl, rfl, rfl, rfl, rfl⟩ ?_ ?_)
    · change IvrStep.bookingCancelled ∈ _
      rw [here]
      decide
    · exact known
  · split
    · refine keeps_findSlots rfl fun slots few => ?_
      cases empty : slots.isEmpty with
      | true => exact keeps_noSlots rests.toWorking (here ▸ by decide)
      | false =>
          have leads : .rescheduleSlotSelection ∈ session.step.next := here ▸ by decide
          refine keeps_offerSlots rests.toWorking empty few leads
            fun after _ same offers => ⟨?_, offers⟩
          rw [same]
          exact managed rests.toWorking
    · split
      · exact keeps_returnToMainMenu rests.toWorking (here ▸ by decide)
      · exact keeps_aside (Issues.manageBookingResponse noting _ _) rfl fun menu =>
          keeps_handleInvalidKey rests.toWorking menu

theorem keeps_handleRescheduleSlotSelection (rests : AtRest maxSlots session stored row)
    (here : session.step = .rescheduleSlotSelection) (key : String) :
    KeepsTo maxSlots (inHand stored row) (handleRescheduleSlotSelection cfg session key) := by
  refine keeps_selectSlot rests.toWorking (here ▸ by decide) fun candidates slot filed among => ?_
  refine keeps_service (Issues.requireSelected fun _ =>
    Issues.rescheduleBooking Stmt.salon_sparesSessions _ _) rests fun booking stored row rests => ?_
  exact keeps_confirmSlot rests.toWorking filed among (here ▸ by decide)

/-! ## A key -/

theorem keeps_handleStep (rests : AtRest cfg.ivrMaxSlots session stored row) (key : String) :
    KeepsTo cfg.ivrMaxSlots (inHand stored row) (handleStep cfg session key) := by
  have working := rests.toWorking
  unfold handleStep
  split
  · next here => exact keeps_handleIncoming working here key
  · next here => exact keeps_handleServiceSelection working here key
  · next here => exact keeps_handleStaffSelection working here key
  · next here => exact keeps_handleSlotSelection rests here key
  · next here => exact keeps_handleTransferUnavailable working here key
  · next here => exact keeps_handleManageBooking rests here key
  · next here => exact keeps_handleRescheduleSlotSelection rests here key
  · exact .ret trivial

theorem keeps_pressed (rests : AtRest cfg.ivrMaxSlots session stored row) (key : String) :
    KeepsTo cfg.ivrMaxSlots (inHand stored row)
      (if key ∈ repeatKeys then do
        commit
        repromptForNoInput session
      else handleStep cfg session key) := by
  split
  · exact keeps_commit rests.fine
      (keeps_only (Issues.repromptForNoInput Stmt.elsewhere_plain.toNoting _) rfl)
  · exact keeps_handleStep rests key

/-- The count of silences begins anew. -/
theorem AtRest.heard (rests : AtRest maxSlots session session session) :
    AtRest maxSlots (SessionChange.apply { noInputCount := some 0 } session) session
      (SessionChange.apply { noInputCount := some 0 } session) where
  seen := ⟨0, rfl⟩
  sameCall := VoiceSession.sameCall_apply _ _
  step := rfl
  live := rests.live
  sound := by
    have undecided := rests.unfinished.undecided
    have unfinished : (SessionChange.apply { noInputCount := some 0 } session).Unfinished :=
      ⟨Nat.zero_le _, rests.sound.mistakes, undecided.bookingId, undecided.selectedSlotStart,
        undecided.selectedSlotEnd, undecided.transferDestination⟩
    have patience := (rests.sound.patience rests.live).2
    exact (rests.counts unfinished ⟨rfl, rfl, rfl, rfl, rfl, rfl, rfl⟩ rfl
      ⟨show 0 < noInputMax by decide, patience⟩).sound
  storedSeen := ⟨session.noInputCount, rfl⟩
  storedSound := rests.sound

theorem keeps_handleFoundKeypress (sound : session.Sound cfg.ivrMaxSlots) (key : String) :
    KeepsTo cfg.ivrMaxSlots (inHand session session) (handleFoundKeypress cfg session key) := by
  refine keeps_aside (Issues.now Stmt.elsewhere_plain.toNoting) rfl fun time => ?_
  split
  · unfold handleExpired
    split
    · exact .ret trivial
    · next live =>
        have rests := AtRest.read sound live
        exact keeps_end rfl (rests.ends (by decide) (IvrStep.expired_mem_next live))
  · split
    · exact .ret trivial
    · next live =>
        have rests := AtRest.read sound live
        unfold handleLiveKey handlePressedKey
        split
        · exact keeps_handleNoInput rests
        · split
          · exact keeps_set rfl (keeps_pressed rests.heard key)
          · exact keeps_pressed rests key

/-! ## Reading a session -/

/-- A request has nothing in hand, or the session with the key as it has read it. -/
def Holds (maxSlots id : Nat) (desk : Desk) : Prop :=
  desk = [] ∨ ∃ row : VoiceSession, desk = inHand row row ∧ row.Sound maxSlots ∧ row.id = id

/-- A session that is read is in hand, and sound. -/
theorem Holds.read {desk : Desk} {query : Query} {answer : query.Row} {db : Db}
    (truthful : Truthful maxSlots desk query answer db) (holds : Holds maxSlots row.id desk)
    (found : sessionsOf query answer = [row]) (member : row ∈ db.voiceSessions) :
    deskAfter desk ⟨.select query, answer⟩ = inHand row row ∧ row.Sound maxSlots := by
  rcases holds with rfl | ⟨other, rfl, sound, same⟩
  · refine ⟨?_, truthful.sound rfl row member⟩
    change Overlay.ofRows (sessionsOf query answer) = _
    rw [found]
    rfl
  · have held := truthful.held _ List.mem_cons_self
    obtain rfl := List.inj_on_of_nodup_map truthful.unique held member same
    exact ⟨rfl, sound⟩

theorem keeps_handleKeypress {desk : Desk} {sessionId : Nat}
    (holds : Holds cfg.ivrMaxSlots sessionId desk)
    (tenantId : Nat) (key : String) :
    KeepsTo cfg.ivrMaxSlots desk (handleKeypress cfg sessionId tenantId key) := by
  refine .issue trivial fun answer possible => ?_
  obtain ⟨db, truthful⟩ := possible
  cases found : (Query.voiceSession sessionId tenantId).eval db with
  | none =>
      rw [truthful.answers, found]
      exact .raise trivial
  | some row =>
      have member := List.mem_of_find?_eq_some found
      have matched := List.find?_some (p := fun row : VoiceSession => row.id == sessionId &&
        row.tenantId == tenantId) found
      rw [Bool.and_eq_true, beq_iff_eq, beq_iff_eq] at matched
      have listed : sessionsOf (.voiceSession sessionId tenantId) answer = [row] := by
        rw [truthful.answers, found]
        rfl
      obtain ⟨same, sound⟩ := Holds.read truthful (matched.1.symm ▸ holds) listed member
      change (lineMonitor _).Along _ _ (deskAfter desk ⟨_, answer⟩)
      rw [same, truthful.answers, found]
      exact keeps_handleFoundKeypress sound key

/-- The answer of a request is wrapped. -/
theorem keeps_map {α β : Type} {desk : Desk} {program : DbM α} (wrap : α → β)
    (keeps : KeepsTo maxSlots desk program) : KeepsTo maxSlots desk (wrap <$> program) := by
  rw [map_eq_pure_bind]
  refine .bind (Monitor.Along.mono keeps fun result later _ => ?_)
  cases result with
  | ok value => exact .ret trivial
  | error error => trivial

theorem keeps_twilioVoiceKeypress (sessionId : Nat) (digits : String) :
    KeepsTo cfg.ivrMaxSlots [] (twilioVoiceKeypress cfg sessionId digits) := by
  refine .issue trivial fun answer possible => ?_
  obtain ⟨db, truthful⟩ := possible
  cases found : (Query.voiceSessionByPrimaryKey sessionId).eval db with
  | none =>
      rw [truthful.answers, found]
      exact .ret trivial
  | some row =>
      have member := List.mem_of_find?_eq_some found
      have matched := List.find?_some (p := fun row : VoiceSession => row.id == sessionId) found
      rw [beq_iff_eq] at matched
      have listed : sessionsOf (.voiceSessionByPrimaryKey sessionId) answer = [row] := by
        rw [truthful.answers, found]
        rfl
      obtain ⟨same, sound⟩ := Holds.read truthful (.inl rfl) listed member
      change (lineMonitor _).Along _ _ (deskAfter [] ⟨_, answer⟩)
      rw [same, truthful.answers, found]
      refine .tryCatch (Monitor.Along.mono (keeps_map _ (keeps_handleKeypress
        (.inr ⟨row, rfl, sound, matched⟩) _ _)) fun result later _ => ?_)
      cases result with
      | ok value => exact trivial
      | error error =>
          cases error with
          | notFound message => exact .ret trivial
          | _ => exact .raise trivial

/-! ## Beginning a call -/

theorem keeps_startSession {α : Type} {next : VoiceSession × IvrResponse → DbM α}
    {businessId tenantId : Nat} {callerPhone : String}
    (rest : ∀ row response, AtRest cfg.ivrMaxSlots row row row →
      KeepsTo cfg.ivrMaxSlots (inHand row row) (next (row, response))) :
    KeepsTo cfg.ivrMaxSlots [] (startSession cfg businessId tenantId callerPhone >>= next) := by
  unfold startSession requireBusiness
  simp only [bind_assoc]
  refine .issue trivial fun business _ => ?_
  cases (business : Option Business) with
  | none => exact .raise trivial
  | some business =>
      refine .issue trivial fun answer _ => ?_
      obtain ⟨time, rfl⟩ : ∃ time : Instant, time = answer := ⟨answer, rfl⟩
      refine .guard trivial fun _ => ?_
      refine .call (fun id => ⟨rfl, fun row added => ?_⟩) fun answer _ => ?_
      · cases added
        rfl
      · cases (answer : Except Constraint Nat) with
        | error constraint => exact .raise trivial
        | ok sessionId =>
            let row : VoiceSession :=
              { id := sessionId, tenantId, businessId, callerPhone, step := .incoming
                locale := business.language, selectedServiceId := none, selectedStaffId := none
                selectedSlotStart := none, selectedSlotEnd := none, bookingId := none
                managedBookingId := none, slotCandidates := none, noInputCount := 0
                invalidKeyCount := 0, callSid := none, transferDestination := none
                expiresAt := time + minutes cfg.ivrSessionTtlMinutes }
            have few : 0 < noInputMax ∧ 0 < invalidKeyMax := by decide
            have sound : row.Sound cfg.ivrMaxSlots :=
              ⟨few.1.le, few.2.le, fun _ => few, trivial, fun _ _ => ⟨rfl, rfl, rfl, rfl⟩⟩
            change KeepsTo cfg.ivrMaxSlots [⟨none, row⟩] _
            refine .issue ?_ fun _ _ => ?_
            · intro copy member
              rw [List.mem_singleton.mp member]
              refine ⟨sound, fun old same => ?_⟩
              cases same
            · change KeepsTo cfg.ivrMaxSlots (inHand row row) _
              refine .issue trivial fun answer possible => ?_
              obtain ⟨db, truthful⟩ := possible
              change KeepsTo cfg.ivrMaxSlots (inHand row row) _
              cases found : (Query.voiceSessionByPrimaryKey sessionId).eval db with
              | none =>
                  rw [truthful.answers, found]
                  exact .raise trivial
              | some stored =>
                  have member := List.mem_of_find?_eq_some found
                  have matched := List.find?_some (p := fun row : VoiceSession =>
                    row.id == sessionId) found
                  rw [beq_iff_eq] at matched
                  obtain rfl : row = stored := List.inj_on_of_nodup_map truthful.unique
                    (truthful.held _ List.mem_cons_self) member matched.symm
                  rw [truthful.answers, found]
                  change KeepsTo cfg.ivrMaxSlots (inHand row row)
                    ((lookupReturningCallerName businessId tenantId callerPhone >>=
                      fun greetingName =>
                        pure (row, mainMenuResponse row.id business.bookingMode (sessionLocale row)
                        greetingName)) >>= next)
                  rw [bind_assoc]
                  refine keeps_aside
                    (Issues.lookupReturningCallerName Stmt.elsewhere_plain.toNoting _ _ _) rfl
                    fun greetingName => ?_
                  exact rest row _ (.read sound (show IvrStep.incoming.Live by decide))

theorem keeps_twilioVoiceInbound (business : Business) (callSid caller : String) :
    KeepsTo cfg.ivrMaxSlots [] (twilioVoiceInbound cfg business callSid caller) := by
  refine .issue trivial fun answer possible => ?_
  obtain ⟨db, truthful⟩ := possible
  cases found : (Query.voiceSessionByCallSid callSid).eval db with
  | none =>
      have none : sessionsOf (.voiceSessionByCallSid callSid) answer = [] := by
        rw [truthful.answers, found]
        rfl
      have same : deskAfter [] ⟨.select (.voiceSessionByCallSid callSid), answer⟩ = [] := by
        change Overlay.ofRows (sessionsOf (.voiceSessionByCallSid callSid) answer) = _
        rw [none]
        rfl
      change (lineMonitor _).Along _ _ (deskAfter [] ⟨_, answer⟩)
      rw [same, truthful.answers, found]
      refine keeps_startSession fun row response rests => ?_
      refine keeps_set rfl (keeps_commit ?_ (.ret trivial))
      exact (rests.chooses ⟨rfl, rfl, rfl, rfl, rfl, rfl⟩ rfl
        (rests.sound.equipped.apply ⟨rfl, rfl, rfl, rfl, rfl, rfl, rfl⟩)).fine
  | some row =>
      have member := List.mem_of_find?_eq_some found
      have listed : sessionsOf (.voiceSessionByCallSid callSid) answer = [row] := by
        rw [truthful.answers, found]
        rfl
      obtain ⟨same, sound⟩ := Holds.read truthful (.inl rfl) listed member
      change (lineMonitor _).Along _ _ (deskAfter [] ⟨_, answer⟩)
      rw [same, truthful.answers, found]
      refine .bind (Monitor.Along.mono (keeps_handleKeypress (.inr ⟨row, rfl, sound, rfl⟩) _ _)
        fun result later _ => ?_)
      cases result with
      | ok value => exact .ret trivial
      | error error => exact trivial

/-! ## The sweep -/

/-- A stale row, as it was read or ended. -/
def Swept (maxSlots : Nat) (copy : Copy VoiceSession) : Prop :=
  ∃ old : VoiceSession, copy.committed = some old ∧ old.Sound maxSlots ∧ old.step.Live ∧
    (copy.now = old ∨ copy.now = SessionChange.apply { step := some .expired } old)

theorem Swept.fine {copy : Copy VoiceSession} (swept : Swept maxSlots copy) :
    Committable maxSlots copy := by
  obtain ⟨old, committed, sound, live, now⟩ := swept
  refine ⟨?_, fun before same => ?_⟩
  · rcases now with same | ended
    · exact same ▸ sound
    · rw [ended]
      exact (sound.unfinished live).closed (by decide)
  · rw [committed] at same
    cases same
    rcases now with same | ended
    · rw [same]
      exact .refl old
    · rw [ended]
      exact .of_live (VoiceSession.sameCall_apply _ old) live (.inr (IvrStep.expired_mem_next live))

theorem Swept.again {desk : Desk} (swept : ∀ copy ∈ desk, Swept maxSlots copy) (id : Nat) :
    ∀ copy ∈ desk.change VoiceSession.id id (SessionChange.apply { step := some .expired }),
      Swept maxSlots copy := by
  intro copy member
  obtain ⟨before, among, committed, now⟩ := Overlay.mem_change member
  obtain ⟨old, was, sound, live, either⟩ := swept before among
  refine ⟨old, committed.trans was, sound, live, ?_⟩
  rw [now]
  split
  · right
    rcases either with same | ended
    · rw [same]
    · rw [ended]
      rfl
  · exact either

theorem keeps_expireSessions {α : Type} {desk : Desk} {rows : List VoiceSession}
    {next : Unit → DbM α}
    (held : ∀ row ∈ rows, row.id ∈ desk.keys VoiceSession.id)
    (swept : ∀ copy ∈ desk, Swept maxSlots copy)
    (rest : ∀ later : Desk, (∀ copy ∈ later, Swept maxSlots copy) →
      KeepsTo maxSlots later (next ())) :
    KeepsTo maxSlots desk (expireSessions rows >>= next) := by
  induction rows generalizing desk with
  | nil => exact rest desk swept
  | cons row rows ih =>
      rw [expireSessions, setSession]
      simp only [bind_assoc]
      refine .issue ?_ fun _ _ => ?_
      · refine ⟨rfl, fun id change changed => ?_⟩
        cases changed
        exact held row List.mem_cons_self
      · refine ih (fun other member => ?_) (Swept.again swept row.id)
        have same : (desk.change VoiceSession.id row.id
            (SessionChange.apply { step := some .expired })).keys VoiceSession.id =
              desk.keys VoiceSession.id := Overlay.keys_change fun _ => rfl
        exact same.symm ▸ held other (List.mem_cons_of_mem _ member)

theorem keeps_expireStaleSessions : KeepsTo maxSlots [] expireStaleSessions := by
  refine .issue trivial fun time _ => .issue trivial fun answer possible => ?_
  obtain ⟨time, rfl⟩ : ∃ read : Instant, read = time := ⟨time, rfl⟩
  obtain ⟨db, truthful⟩ := possible
  obtain ⟨rows, rfl⟩ : ∃ rows : List VoiceSession, rows = answer := ⟨answer, rfl⟩
  change KeepsTo maxSlots (Overlay.ofRows rows) _
  refine keeps_expireSessions (fun row member => ?_) (fun copy member => ?_) fun later swept => ?_
  · rw [Overlay.keys_ofRows]
    exact List.mem_map_of_mem member
  · obtain ⟨row, among, rfl⟩ := List.mem_map.mp member
    have answers : rows = db.voiceSessions.filter fun row =>
        row.expiresAt ≤ time && !row.step.terminal := truthful.answers
    rw [answers] at among
    obtain ⟨there, stale⟩ := List.mem_filter.mp among
    rw [Bool.and_eq_true, Bool.not_eq_true'] at stale
    exact ⟨row, rfl, truthful.sound rfl row there, (IvrStep.live_iff _).mpr stale.2, .inl rfl⟩
  · split
    · exact .ret trivial
    · exact .issue (fun copy member => (swept copy member).fine) fun _ _ => .ret trivial

/-! ## Every request -/

/-- A service that leaves the sessions alone keeps to its monitor. -/
theorem bystander_along {α : Type} {program : DbM α} (spares : program.Only Stmt.SparesSessions)
    (desk : Desk) : bystander.Along (fun _ _ => True) program desk := by
  induction spares generalizing desk with
  | ret value => exact .ret trivial
  | raise error => exact .raise trivial
  | call fits _ ih => exact .call fits fun answer _ => ih answer desk

/-- **Every request of the line keeps to its monitor.** -/
theorem performLine_along (cfg : IvrSettings) (call : LineCall) :
    ((lineWatch cfg).monitor call).Along ((lineWatch cfg).post call) (performLine cfg call)
      ((lineWatch cfg).initial call) := by
  cases call with
  | startSession businessId tenantId callerPhone =>
      have begun : KeepsTo cfg.ivrMaxSlots []
        (startSession cfg businessId tenantId callerPhone) := by
        rw [← bind_pure (startSession cfg businessId tenantId callerPhone)]
        exact keeps_startSession fun row response _ => .ret trivial
      exact keeps_map _ begun
  | handleKeypress sessionId tenantId key =>
      exact keeps_map _ (keeps_handleKeypress (.inl rfl) tenantId key)
  | twilioVoiceInbound business callSid caller =>
      exact keeps_map _ (keeps_twilioVoiceInbound business callSid caller)
  | twilioVoiceKeypress sessionId digits =>
      exact keeps_map _ (keeps_twilioVoiceKeypress sessionId digits)
  | expireStaleSessions => exact keeps_map _ keeps_expireStaleSessions
  | service call =>
      exact bystander_along (Issues.map _ (perform_sparesSessions cfg.toSettings call)) _

end Handlers

end AppointmentVoice
