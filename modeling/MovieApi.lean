import MovieApi.Text.Delimited
import MovieApi.Text.Lines
import MovieApi.Text.Url
import MovieApi.Text.Runs
import MovieApi.Text.IsoDate
import MovieApi.Sorting.Stable
import MovieApi.Trees.Forest
import MovieApi.Windows.Sliding
import MovieApi.Machines.Turns
import MovieApi.Machines.Links
import MovieApi.Sql.OrderBy
import MovieApi.Sql.Table
import MovieApi.Sql.Batch
import MovieApi.Sql.ParentLinks
import MovieApi.Sql.Like
import MovieApi.Sql.Pages
import MovieApi.Sql.Reorder
import MovieApi.Sql.GroupBy
import MovieApi.Sql.CheckThenAct
import MovieApi.ReadCommitted.Statement
import MovieApi.ReadCommitted.Program
import MovieApi.ReadCommitted.Pool
import MovieApi.ReadCommitted.Discipline
import MovieApi.ReadCommitted.Parts
import MovieApi.ReadCommitted.Contract
import MovieApi.ReadCommitted.UniqueIndex
import MovieApi.ReadCommitted.Carried
import MovieApi.ReadCommitted.Lasting
import MovieApi.ReadCommitted.Alone
import MovieApi.ReadCommitted.Observed
import MovieApi.ReadCommitted.Commits
import MovieApi.ReadCommitted.History
import MovieApi.ReadCommitted.Deadlock
import MovieApi.Async.Program
import MovieApi.Async.Run
import MovieApi.Catalog.ResponseCache
import MovieApi.Catalog.CacheTasks
import MovieApi.Catalog.Staleness
import MovieApi.Catalog.Invalidation
import MovieApi.Catalog.CacheCapacity
import MovieApi.Catalog.ListCacheKey
import MovieApi.Catalog.FreeToday
import MovieApi.Catalog.Pagination
import MovieApi.Catalog.Search
import MovieApi.Catalog.Listing
import MovieApi.Catalog.Tsquery
import MovieApi.Catalog.Related
import MovieApi.Publishing.State
import MovieApi.Publishing.Sweeper
import MovieApi.Publishing.Requests
import MovieApi.Publishing.Coherence
import MovieApi.Locks.DistributedLock
import MovieApi.Locks.SoleOwner
import MovieApi.Locks.SweeperLoop
import MovieApi.Locks.ReconnectProbe
import MovieApi.Database.TransientErrors
import MovieApi.HomeSections.Requests
import MovieApi.HomeSections.References
import MovieApi.HomePage.Builder
import MovieApi.HomePage.Uniqueness
import MovieApi.HomePage.PublicSections
import MovieApi.HomePage.Reorder
import MovieApi.HomePage.Limits
import MovieApi.HomePage.Links
import MovieApi.HomePage.Schedule
import MovieApi.Accounts.Schema
import MovieApi.Accounts.Sessions
import MovieApi.Accounts.Service
import MovieApi.Accounts.TokenRotation
import MovieApi.Accounts.PasswordChange
import MovieApi.Accounts.DeviceList
import MovieApi.Accounts.TvAccessCodes
import MovieApi.Accounts.TvEmails
import MovieApi.Accounts.Deletion
import MovieApi.Accounts.Concurrent.Writes
import MovieApi.Accounts.Concurrent.Programs
import MovieApi.Accounts.Concurrent.Conduct
import MovieApi.Accounts.Concurrent.DeviceLimit
import MovieApi.Accounts.Concurrent.TvLogin
import MovieApi.Accounts.Concurrent.OneTelevision
import MovieApi.Accounts.TvEntitlement
import MovieApi.Accounts.Concurrent.ResetLinks
import MovieApi.Accounts.Concurrent.NewestLink
import MovieApi.Accounts.Concurrent.PasswordReset
import MovieApi.Accounts.Concurrent.AccountDeletion
import MovieApi.Accounts.Concurrent.LockOrder
import MovieApi.Accounts.Concurrent.Deadlocks
import MovieApi.Accounts.Concurrent.Pairing
import MovieApi.Accounts.Concurrent.PairedOnce
import MovieApi.Publishing.MovieUploads
import MovieApi.Publishing.SourceVideos
import MovieApi.Publishing.UploadStart
import MovieApi.Publishing.SlugFolders
import MovieApi.Publishing.ImageProcess
import MovieApi.Playback.Access
import MovieApi.Playback.Episodes
import MovieApi.TelegramBot.Text
import MovieApi.TelegramBot.BotLogin
import MovieApi.Hls.Attributes
import MovieApi.Hls.MasterPlaylist
import MovieApi.Hls.ChannelPlaylist
import MovieApi.TelegramBot.History
import MovieApi.Comments.Replies
import MovieApi.Comments.Shallow
import MovieApi.Comments.Threads
import MovieApi.Comments.ThreadListing
import MovieApi.Comments.Votes
import MovieApi.TelegramBot.OneSignIn
import MovieApi.SignIn.Identities
import MovieApi.Accounts.Concurrent.TelegramWidget
import MovieApi.Accounts.Concurrent.WidgetReplay
import MovieApi.Billing.Schema
import MovieApi.Billing.Writes
import MovieApi.Billing.Session
import MovieApi.Billing.Fulfillment
import MovieApi.Billing.Settlement
import MovieApi.Billing.Checkout
import MovieApi.Billing.Requests
import MovieApi.Billing.Bookkeeping
import MovieApi.Billing.Conduct
import MovieApi.Billing.StatusFinality
import MovieApi.Billing.Approvals
import MovieApi.Billing.PaidTerms
import MovieApi.Billing.OrderIds
import MovieApi.Billing.GuestHistory
import MovieApi.Billing.Calls
import MovieApi.Billing.UniqueKeys
import MovieApi.Billing.LegalRuns
import MovieApi.Billing.ConvergentCheckouts
import MovieApi.Billing.Stages
import MovieApi.Billing.OwnedTitles
import MovieApi.Billing.GrantedPayments
import MovieApi.Billing.Announcements
import MovieApi.Billing.AnnouncedPayments
import MovieApi.Billing.IssuedQrs
import MovieApi.Billing.QrMemory
import MovieApi.Billing.QrSettlement
import MovieApi.Billing.PaidPeriods
import MovieApi.Billing.FulfilledOnce
import MovieApi.Billing.ClaimedPurchases
import MovieApi.Catalog.ContentDelete
import MovieApi.Catalog.Ratings
import MovieApi.Catalog.DisplayedRating
import MovieApi.Dashboard.RevenueTimeline
import MovieApi.NbcChecks.Breaker
import MovieApi.NbcChecks.Tasks
import MovieApi.NbcChecks.Suspension
import MovieApi.NbcChecks.SharedDeadline
import MovieApi.NbcChecks.IntentCap
import MovieApi.NbcChecks.PaidStatus
import MovieApi.Alerts.Relay
import MovieApi.Alerts.Admission
import MovieApi.Alerts.Accounting
import MovieApi.Alerts.Incidents
import MovieApi.Alerts.Handler
import MovieApi.Alerts.DailyClaim
import MovieApi.Playback.Playlists
import MovieApi.Playback.SegmentUrls
import MovieApi.Playback.Tokens
import MovieApi.Playback.Confinement
import MovieApi.Playback.WatchProgress
import MovieApi.Playback.SavedProgress
import MovieApi.Watchdog.Conditions
import MovieApi.Watchdog.DockerLogs
import MovieApi.Watchdog.Events
import MovieApi.Watchdog.Chat
