import AppointmentVoice.Ivr.Keypress

/-!
# What a call's session may be

The steps that one key may lead to, what a row has to carry at each step, and what a change
of the row keeps.  `handle_keypress` relies on these in its handlers without a check: the
service of a slot search, the booking that is managed and the filed slots are there because
the step before has put them there.
-/

set_option autoImplicit false

namespace AppointmentVoice

/-! ## Steps -/

namespace IvrStep

/-- The steps that a call may go on to from a step. -/
def next : IvrStep → List IvrStep
  | .incoming =>
      [.serviceSelection, .noSlots, .externalLinkSent, .transferUnavailable, .abandoned,
        .manageBooking, .expired]
  | .serviceSelection => [.staffSelection, .slotSelection, .noSlots, .expired]
  | .staffSelection => [.slotSelection, .noSlots, .expired]
  | .slotSelection => [.bookingConfirmed, .noSlots, .expired]
  | .transferUnavailable => [.incoming, .expired]
  | .manageBooking =>
      [.incoming, .bookingCancelled, .rescheduleSlotSelection, .noSlots, .expired]
  | .rescheduleSlotSelection => [.bookingConfirmed, .noSlots, .expired]
  | _ => []

/-- The call is still going on. -/
def Live (step : IvrStep) : Prop := step ∉ terminalSteps

instance (step : IvrStep) : Decidable step.Live := inferInstanceAs (Decidable (_ ∉ _))

/-- The sweep and the handler of a key have the same list of last steps. -/
theorem live_iff (step : IvrStep) : step.Live ↔ step.terminal = false := by
  cases step <;> decide

theorem expired_mem_next {step : IvrStep} (live : step.Live) : .expired ∈ step.next := by
  revert live
  cases step <;> decide

end IvrStep

/-! ## Rows -/

namespace VoiceSession

/-- Slots have been filed, and no more than are offered. -/
def Offers (maxSlots : Nat) (row : VoiceSession) : Prop :=
  ∃ slots ∈ row.slotCandidates, slots ≠ [] ∧ slots.length ≤ maxSlots

/-- The slot that has been taken is one of those filed. -/
def Appointed (row : VoiceSession) : Prop :=
  row.bookingId.isSome ∧ ∃ slots ∈ row.slotCandidates, ∃ slot ∈ slots,
    row.selectedSlotStart = some slot.1 ∧ row.selectedSlotEnd = some slot.2

/-- What a row carries at a step. -/
def Equipped (maxSlots : Nat) (row : VoiceSession) : IvrStep → Prop
  | .staffSelection => row.selectedServiceId.isSome
  | .slotSelection => row.selectedServiceId.isSome ∧ row.Offers maxSlots
  | .manageBooking => row.managedBookingId.isSome
  | .rescheduleSlotSelection => row.managedBookingId.isSome ∧ row.Offers maxSlots
  | .bookingConfirmed => row.Appointed
  | .bookingCancelled => row.managedBookingId.isSome
  | .abandoned => row.transferDestination.isSome
  | _ => True

/-- Nothing has been booked in the call, and it has not been passed on. -/
structure Undecided (row : VoiceSession) : Prop where
  bookingId : row.bookingId = none
  selectedSlotStart : row.selectedSlotStart = none
  selectedSlotEnd : row.selectedSlotEnd = none
  transferDestination : row.transferDestination = none

/-- What a row of a call that may go on, or may be ended, has at any step. -/
structure Unfinished (row : VoiceSession) : Prop where
  silence : row.noInputCount ≤ noInputMax
  mistakes : row.invalidKeyCount ≤ invalidKeyMax
  undecided : row.Undecided

/-- A row that the handlers can go on from. -/
structure Sound (maxSlots : Nat) (row : VoiceSession) : Prop where
  silence : row.noInputCount ≤ noInputMax
  mistakes : row.invalidKeyCount ≤ invalidKeyMax
  patience : row.step.Live → row.noInputCount < noInputMax ∧ row.invalidKeyCount < invalidKeyMax
  equipped : row.Equipped maxSlots row.step
  undecided : row.step ≠ .bookingConfirmed → row.step ≠ .abandoned → row.Undecided

/-- What no request changes of a row. -/
structure SameCall (before after : VoiceSession) : Prop where
  id : after.id = before.id
  tenantId : after.tenantId = before.tenantId
  businessId : after.businessId = before.businessId
  callerPhone : after.callerPhone = before.callerPhone
  locale : after.locale = before.locale
  expiresAt : after.expiresAt = before.expiresAt

/-- What one commit makes of a row: the same call, at its step or one step on, and as it was
when the call is over. -/
structure Follows (before after : VoiceSession) : Prop where
  sameCall : before.SameCall after
  leads : after.step = before.step ∨ after.step ∈ before.step.next
  ended : ¬before.step.Live → after = before

variable {maxSlots : Nat} {before row after : VoiceSession} {change : SessionChange}

theorem SameCall.refl (row : VoiceSession) : row.SameCall row := ⟨rfl, rfl, rfl, rfl, rfl, rfl⟩

theorem SameCall.trans (first : before.SameCall row) (second : row.SameCall after) :
    before.SameCall after where
  id := second.id.trans first.id
  tenantId := second.tenantId.trans first.tenantId
  businessId := second.businessId.trans first.businessId
  callerPhone := second.callerPhone.trans first.callerPhone
  locale := second.locale.trans first.locale
  expiresAt := second.expiresAt.trans first.expiresAt

theorem sameCall_apply (change : SessionChange) (row : VoiceSession) :
    row.SameCall (change.apply row) := ⟨rfl, rfl, rfl, rfl, rfl, rfl⟩

theorem Follows.refl (row : VoiceSession) : row.Follows row :=
  ⟨SameCall.refl row, Or.inl rfl, fun _ => rfl⟩

/-- A call that is going on may change. -/
theorem Follows.of_live (same : before.SameCall after) (live : before.step.Live)
    (leads : after.step = before.step ∨ after.step ∈ before.step.next) : before.Follows after :=
  ⟨same, leads, fun ended => absurd live ended⟩

/-- A live row has not booked and has not been passed on. -/
theorem Sound.undecided_of_live (sound : row.Sound maxSlots) (live : row.step.Live) :
    row.Undecided := by
  refine sound.undecided ?_ ?_
  · intro confirmed
    rw [confirmed] at live
    exact absurd live (by decide)
  · intro abandoned
    rw [abandoned] at live
    exact absurd live (by decide)

theorem Sound.unfinished (sound : row.Sound maxSlots) (live : row.step.Live) : row.Unfinished :=
  ⟨sound.silence, sound.mistakes, sound.undecided_of_live live⟩

theorem Unfinished.sound (unfinished : row.Unfinished)
    (patience : row.step.Live → row.noInputCount < noInputMax ∧ row.invalidKeyCount < invalidKeyMax)
    (equipped : row.Equipped maxSlots row.step) : row.Sound maxSlots :=
  ⟨unfinished.silence, unfinished.mistakes, patience, equipped, fun _ _ => unfinished.undecided⟩

end VoiceSession

/-! ## Changes -/

/-- The change makes a choice or goes on a step: it does not count, book or pass on. -/
structure SessionChange.Chooses (change : SessionChange) : Prop where
  noInputCount : change.noInputCount = none
  invalidKeyCount : change.invalidKeyCount = none
  bookingId : change.bookingId = none
  selectedSlotStart : change.selectedSlotStart = none
  selectedSlotEnd : change.selectedSlotEnd = none
  transferDestination : change.transferDestination = none

/-- The change leaves what a row carries from step to step. -/
structure SessionChange.Keeps (change : SessionChange) : Prop where
  selectedServiceId : change.selectedServiceId = none
  slotCandidates : change.slotCandidates = none
  managedBookingId : change.managedBookingId = none
  bookingId : change.bookingId = none
  selectedSlotStart : change.selectedSlotStart = none
  selectedSlotEnd : change.selectedSlotEnd = none
  transferDestination : change.transferDestination = none

namespace VoiceSession

variable {maxSlots : Nat} {row : VoiceSession} {change : SessionChange}

theorem Equipped.apply {step : IvrStep} (equipped : row.Equipped maxSlots step)
    (keeps : change.Keeps) :
    (change.apply row).Equipped maxSlots step := by
  rw [SessionChange.apply, keeps.selectedServiceId, keeps.slotCandidates, keeps.managedBookingId,
    keeps.bookingId, keeps.selectedSlotStart, keeps.selectedSlotEnd, keeps.transferDestination]
  cases step <;> exact equipped

theorem Unfinished.apply (unfinished : row.Unfinished) (chooses : change.Chooses) :
    (change.apply row).Unfinished where
  silence := by
    rw [SessionChange.apply, chooses.noInputCount]
    exact unfinished.silence
  mistakes := by
    rw [SessionChange.apply, chooses.invalidKeyCount]
    exact unfinished.mistakes
  undecided := by
    rw [SessionChange.apply, chooses.bookingId, chooses.selectedSlotStart, chooses.selectedSlotEnd,
      chooses.transferDestination]
    have undecided := unfinished.undecided
    exact ⟨undecided.bookingId, undecided.selectedSlotStart, undecided.selectedSlotEnd,
      undecided.transferDestination⟩

/-- A choice, and a step for which the row carries what it has to. -/
theorem Sound.apply (sound : row.Sound maxSlots) (live : row.step.Live) (chooses : change.Chooses)
    (equipped : (change.apply row).Equipped maxSlots (change.apply row).step) :
    (change.apply row).Sound maxSlots := by
  refine ((sound.unfinished live).apply chooses).sound (fun _ => ?_) equipped
  rw [SessionChange.apply, chooses.noInputCount, chooses.invalidKeyCount]
  exact sound.patience live

/-- The end of a call in which nothing has been settled. -/
theorem Unfinished.closed (unfinished : row.Unfinished) {step : IvrStep}
    (last : step ∈ [IvrStep.noSlots, .expired, .externalLinkSent]) :
    (SessionChange.apply { step := some step } row).Sound maxSlots := by
  have ended : ¬step.Live := by
    revert last
    cases step <;> decide
  refine (unfinished.apply ⟨rfl, rfl, rfl, rfl, rfl, rfl⟩).sound (fun live => absurd live ended) ?_
  change (SessionChange.apply { step := some step } row).Equipped maxSlots step
  revert last
  cases step <;> simp [Equipped]

/-- One more silence. -/
theorem Unfinished.silent (unfinished : row.Unfinished) (patient : row.noInputCount < noInputMax) :
    (SessionChange.apply { noInputCount := some (row.noInputCount + 1) } row).Unfinished :=
  ⟨patient, unfinished.mistakes, unfinished.undecided.bookingId,
    unfinished.undecided.selectedSlotStart,
    unfinished.undecided.selectedSlotEnd, unfinished.undecided.transferDestination⟩

/-- One more wrong key. -/
theorem Unfinished.mistaken (unfinished : row.Unfinished)
    (patient : row.invalidKeyCount < invalidKeyMax) :
    (SessionChange.apply { invalidKeyCount := some (row.invalidKeyCount + 1) } row).Unfinished :=
  ⟨unfinished.silence, patient, unfinished.undecided.bookingId,
    unfinished.undecided.selectedSlotStart,
    unfinished.undecided.selectedSlotEnd, unfinished.undecided.transferDestination⟩

end VoiceSession

end AppointmentVoice
