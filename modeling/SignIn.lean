import SignIn.Auth.Attempt
import SignIn.Auth.Causes
import SignIn.Auth.Error
import SignIn.Bytes.Base64
import SignIn.Bytes.Hex
import SignIn.Bytes.Utf8
import SignIn.Bytes.Words
import SignIn.Calendar.Date
import SignIn.Calendar.Instant
import SignIn.Calendar.InstantText
import SignIn.CommandLine
import SignIn.Decimal.Binary64
import SignIn.Digest.Argon2
import SignIn.Digest.Blake2b
import SignIn.Digest.Hmac
import SignIn.Digest.Sha256
import SignIn.Entries
import SignIn.Http.Answer
import SignIn.Http.CookiePolicy
import SignIn.Http.Cookies
import SignIn.Http.MediaType
import SignIn.Http.Request
import SignIn.Http.Routes
import SignIn.Http.Serving
import SignIn.Http.Target
import SignIn.Json.Fault
import SignIn.Json.Number
import SignIn.Json.PassOver
import SignIn.Json.Scan
import SignIn.Json.Texts
import SignIn.Json.Value
import SignIn.LogFilter
import SignIn.LoginForm
import SignIn.Main
import SignIn.Password.Hasher
import SignIn.Password.Phc
import SignIn.Proofs.Agreement
import SignIn.Proofs.CalendarDays
import SignIn.Proofs.Calls
import SignIn.Proofs.Handling
import SignIn.Proofs.History
import SignIn.Proofs.InstantRoundTrip
import SignIn.Proofs.Issuing
import SignIn.Proofs.JsonRoundTrip
import SignIn.Proofs.RegistryCalls
import SignIn.Proofs.StoredSession
import SignIn.Proofs.TwoStores
import SignIn.Proofs.UserIdRoundTrip
import SignIn.Server.Startup
import SignIn.Server.Sweeper
import SignIn.Service.Basic
import SignIn.Service.Calls
import SignIn.Service.Run
import SignIn.Service.World
import SignIn.Session.Csrf
import SignIn.Session.KeyServer
import SignIn.Session.Record
import SignIn.Session.Registry
import SignIn.Session.Store
import SignIn.Session.Token
import SignIn.Settings.Basic
import SignIn.Settings.Dsn
import SignIn.Settings.Fault
import SignIn.Settings.Field
import SignIn.Settings.File
import SignIn.Settings.KeyPath
import SignIn.Settings.Tree
import SignIn.Shorter
import SignIn.Table
import SignIn.Text.Alphanumeric
import SignIn.Text.Blank
import SignIn.Text.LowerCase
import SignIn.Text.Quoted
import SignIn.Text.Split
import SignIn.Text.Unprintable
import SignIn.Toml.Document
import SignIn.Toml.Entry
import SignIn.Toml.Scalar
import SignIn.Toml.Scan
import SignIn.Toml.Value
import SignIn.Users.Credential
import SignIn.Users.CredentialTable
import SignIn.Users.Roster
import SignIn.Users.Seed
import SignIn.Users.Store
import SignIn.Users.UserId
import SignIn.Proofs.SendableCookies
import SignIn.Proofs.Exchanges
import SignIn.Proofs.FailedCalls
import SignIn.Proofs.AnswerShape
import SignIn.Proofs.RecordedCalls
import SignIn.Proofs.BackendCalls
import SignIn.Proofs.InternalFaults
import SignIn.Proofs.CookieLine
import SignIn.Proofs.KeptSessions
import SignIn.Proofs.HandedCookies
import SignIn.Proofs.BrowserSessions
import SignIn.Proofs.ExactNames
import SignIn.Http.Visits
import SignIn.Proofs.AlikeRefusals
import SignIn.Proofs.PasswordRoundTrip
import SignIn.Proofs.SessionLengths
import SignIn.Proofs.StartedServer
import SignIn.Proofs.UnseenPurges
import SignIn.Proofs.DamagedHashes
import SignIn.Proofs.NotFound
import SignIn.Proofs.ExactAuthorization
import SignIn.Proofs.JsonSpellings
import SignIn.Proofs.FrontEnds
import SignIn.Proofs.BoundTokens
import SignIn.Proofs.SessionEnds
import SignIn.Proofs.HashCosts
import SignIn.Proofs.FormActions
import SignIn.Proofs.Seeding
import SignIn.Proofs.StartRequirements
import SignIn.Proofs.SeedSteps
import SignIn.Proofs.RedactedAddresses
import SignIn.Proofs.PrintedSettings
import SignIn.Server.Sweeping
import SignIn.Proofs.SweepSchedule
