import AppointmentVoice.Concurrency.Program
import AppointmentVoice.Concurrency.Interleaving
import AppointmentVoice.Concurrency.RelyGuarantee
import AppointmentVoice.Concurrency.Paths
import AppointmentVoice.Concurrency.ReadCommitted
import AppointmentVoice.Formats.Iso
import AppointmentVoice.Formats.Json
import AppointmentVoice.Intervals.Windows
import AppointmentVoice.Database.Tables
import AppointmentVoice.Database.Queries
import AppointmentVoice.Database.Session
import AppointmentVoice.Database.Isolation
import AppointmentVoice.Database.Rows
import AppointmentVoice.Database.Consistency
import AppointmentVoice.Database.Alone
import AppointmentVoice.Database.Effects
import AppointmentVoice.Services.Common
import AppointmentVoice.Services.Workers
import AppointmentVoice.Services.Booking
import AppointmentVoice.Services.Transactions
import AppointmentVoice.Services.Discipline
import AppointmentVoice.Services.Rules
import AppointmentVoice.Services.HelperRules
import AppointmentVoice.Services.Creating
import AppointmentVoice.Services.Settling
import AppointmentVoice.Services.Freeing
import AppointmentVoice.Services.Statements
import AppointmentVoice.Services.Clerks
import AppointmentVoice.Services.History
import AppointmentVoice.Services.Consultation
import AppointmentVoice.Services.Sequential
import AppointmentVoice.Services.SequentialBooking
import AppointmentVoice.Services.Availability
import AppointmentVoice.Services.StaffScope
import AppointmentVoice.Services.Succession
import AppointmentVoice.Services.Deliveries
import AppointmentVoice.Accounts.Tables
import AppointmentVoice.Accounts.Session
import AppointmentVoice.Accounts.Services
import AppointmentVoice.Accounts.Users
import AppointmentVoice.Accounts.DemoGuard
import AppointmentVoice.Accounts.Salons
import AppointmentVoice.Accounts.Requests
import AppointmentVoice.Accounts.History
import AppointmentVoice.Accounts.Statements
import AppointmentVoice.Properties.PaymentAgreement
import AppointmentVoice.Properties.NoDoubleBooking
import AppointmentVoice.Properties.ConfirmationEffects
import AppointmentVoice.Properties.WaitlistOffers
import AppointmentVoice.Properties.Rescheduling
import AppointmentVoice.Properties.SlotSearch
import AppointmentVoice.Properties.SpecialHours
import AppointmentVoice.Properties.SearchAndBooking
import AppointmentVoice.Properties.OfferedSlots
import AppointmentVoice.Properties.Successors
import AppointmentVoice.Properties.SentOnce
import AppointmentVoice.Properties.Privileges
import AppointmentVoice.Properties.DemoSessions
import AppointmentVoice.Properties.RefreshTokens
import AppointmentVoice.Properties.Revocation
import AppointmentVoice.Properties.PasswordResets
import AppointmentVoice.Properties.PhoneLines
import AppointmentVoice.Properties.FreedSlots
import AppointmentVoice.Services.ExternalLink
import AppointmentVoice.Services.Outbox
import AppointmentVoice.Properties.QueuedMessages
import AppointmentVoice.Concurrency.UniqueIndex
import AppointmentVoice.Files.Store
import AppointmentVoice.Files.Services
import AppointmentVoice.Properties.CalendarRows
import AppointmentVoice.Properties.ClockChanges
import AppointmentVoice.Properties.ScannedContent
import AppointmentVoice.Frontend.Refresh
import AppointmentVoice.Properties.BrowserSessions
import AppointmentVoice.Concurrency.CheckedInserts
import AppointmentVoice.Schedule.Store
import AppointmentVoice.Schedule.Services
import AppointmentVoice.Properties.ScheduleConflicts
import AppointmentVoice.Concurrency.Interruption
import AppointmentVoice.Accounts.Slugs
import AppointmentVoice.Properties.Signups
import AppointmentVoice.Paging.Keyset
import AppointmentVoice.Accounts.UserList
import AppointmentVoice.Properties.KeysetPaging
import AppointmentVoice.Accounts.ListRequests
import AppointmentVoice.Properties.CachedLists
import AppointmentVoice.Customers.Store
import AppointmentVoice.Customers.Services
import AppointmentVoice.Customers.Progress
import AppointmentVoice.Customers.Identities
import AppointmentVoice.Properties.CustomerIdentity
import AppointmentVoice.Services.SequentialWrites
import AppointmentVoice.Properties.FailedCalls
import AppointmentVoice.Webhooks.Store
import AppointmentVoice.Webhooks.Inbound
import AppointmentVoice.Ivr.Prompts
import AppointmentVoice.Ivr.Menus
import AppointmentVoice.Ivr.Keypress
import AppointmentVoice.Services.FoundSlots
import AppointmentVoice.Intervals.Walks
import AppointmentVoice.Properties.EarliestSlots
import AppointmentVoice.Services.SequentialHolds
import AppointmentVoice.Properties.SlotRemoval
import AppointmentVoice.Services.SessionLogs
import AppointmentVoice.Properties.Refunds
import AppointmentVoice.Services.SmsReplies
import AppointmentVoice.Services.ReplyPaths
import AppointmentVoice.Properties.CancelReplies
import AppointmentVoice.Formats.Digests
import AppointmentVoice.Properties.BookingLinks
import AppointmentVoice.Webhooks.Signatures
import AppointmentVoice.Properties.WebhookSignatures
import AppointmentVoice.Services.RateLimits
import AppointmentVoice.Properties.RateLimits
import AppointmentVoice.Properties.IdempotencyRecords
import AppointmentVoice.Services.SearchLoops
import AppointmentVoice.Properties.SearchTermination
import AppointmentVoice.Properties.DeadEnds
import AppointmentVoice.Formats.Xml
import AppointmentVoice.Ivr.Twiml
import AppointmentVoice.Properties.SpokenPrompts
import AppointmentVoice.Intervals.Covered
import AppointmentVoice.Properties.IntervalAlgebra
import AppointmentVoice.Catalog.Store
import AppointmentVoice.Catalog.Services
import AppointmentVoice.Catalog.References
import AppointmentVoice.Properties.ServiceDeletion
import AppointmentVoice.Properties.LineItems
import AppointmentVoice.Queue.Redis
import AppointmentVoice.Queue.Jobs
import AppointmentVoice.Queue.Operations
import AppointmentVoice.Concurrency.Custody
import AppointmentVoice.Queue.Stages
import AppointmentVoice.Queue.Places
import AppointmentVoice.Concurrency.Histories
import AppointmentVoice.Queue.Accounts
import AppointmentVoice.Properties.SingleDelivery
import AppointmentVoice.Concurrency.Overlay
import AppointmentVoice.Ivr.Sessions
import AppointmentVoice.Ivr.Lines
import AppointmentVoice.Ivr.Progress
import AppointmentVoice.Ivr.Handlers
import AppointmentVoice.Properties.CallSessions
import AppointmentVoice.Properties.LifeCycles
