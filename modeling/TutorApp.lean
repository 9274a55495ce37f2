import TutorApp.RelationalTable
import TutorApp.TenantOwnership
import TutorApp.ReadCommitted
import TutorApp.Js
import TutorApp.Schema
import TutorApp.Prisma
import TutorApp.Platform
import TutorApp.MeetingProviders
import TutorApp.UserConfig
import TutorApp.Subjects
import TutorApp.Students
import TutorApp.Groups
import TutorApp.MeetingAccounts
import TutorApp.Lessons
import TutorApp.Progress
import TutorApp.Gradebook
import TutorApp.Notes
import TutorApp.Files
import TutorApp.Addons
import TutorApp.Schools
import TutorApp.Invitations
import TutorApp.Reports
import TutorApp.System
import TutorApp.Tenancy
import TutorApp.TenantStatements
import TutorApp.TenantIsolation
import TutorApp.ReadIsolation
import TutorApp.ForeignIds
import TutorApp.Register
import TutorApp.Books
import TutorApp.Ledger
import TutorApp.JournalConcurrency
import TutorApp.MeetingExchange
import TutorApp.RotatingCredential
import TutorApp.TokenRotation
import TutorApp.Uploads
import TutorApp.UploadQuota
import TutorApp.Trimming
import TutorApp.Texts
import TutorApp.ReportFigures
import TutorApp.Bookings
import TutorApp.StoredFiles
import TutorApp.SubjectNames
import TutorApp.HiddenSubjects
import TutorApp.InvitationRedemption
import TutorApp.InvitationLinks
import TutorApp.Writes
import TutorApp.Owners
import TutorApp.Founders
import TutorApp.Capabilities
import TutorApp.SetReplacement
import TutorApp.CapabilityRaces
import TutorApp.ConfigPatches
import TutorApp.Announcements
import TutorApp.WriteUps
import TutorApp.StudentsTaught
import TutorApp.DebtorList
import TutorApp.Tally
import TutorApp.Breakdowns
import TutorApp.AdjacentWindows
import TutorApp.QueryWindows
import TutorApp.WeightedMean
import TutorApp.Averages
import TutorApp.StoredGrades
import TutorApp.JoinLinks
import TutorApp.Base64Url
import TutorApp.TokenCipher
import TutorApp.SavedSettings
import TutorApp.StoredSettings
import TutorApp.Words
import TutorApp.Slugs
import TutorApp.Rounds
import TutorApp.PushDelivery
import TutorApp.DerivedRows
import TutorApp.SubjectsMigration
import TutorApp.Provenance
import TutorApp.StoredTexts
import TutorApp.MinimumLengths
import TutorApp.Noninterference
import TutorApp.Guards
import TutorApp.LocalDisk
import TutorApp.Downloads
import TutorApp.Consent
import TutorApp.FcmCredentials
import TutorApp.ServerErrors
import TutorApp.Erasure
import TutorApp.NotificationFeed
import TutorApp.CallerAllowance
import TutorApp.Environment
import TutorApp.SupportDesk
import TutorApp.InvitePage
import TutorApp.InvitationMails
