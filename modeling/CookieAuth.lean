import CookieAuth.Account.Login
import CookieAuth.Account.PasswordReset
import CookieAuth.Account.Registration
import CookieAuth.Config.Basic
import CookieAuth.Config.Dotenv
import CookieAuth.Config.Environment
import CookieAuth.Crypto.Argon2
import CookieAuth.Crypto.Blake2b
import CookieAuth.Database.AuditEntry
import CookieAuth.Database.Basic
import CookieAuth.Database.Collation
import CookieAuth.Database.Directory
import CookieAuth.Database.Error
import CookieAuth.Database.FileUri
import CookieAuth.Database.Location
import CookieAuth.Database.Opening
import CookieAuth.Database.ResetToken
import CookieAuth.Database.User
import CookieAuth.Decimal.Shortest
import CookieAuth.Domain.Basic
import CookieAuth.Domain.Direction
import CookieAuth.Domain.Punycode
import CookieAuth.Domain.Table
import CookieAuth.Email.Address
import CookieAuth.Email.Host
import CookieAuth.Failure
import CookieAuth.Form.Errors
import CookieAuth.Form.Input
import CookieAuth.Form.Urlencoded
import CookieAuth.Http.Cookie
import CookieAuth.Http.Csrf
import CookieAuth.Http.Reply
import CookieAuth.Http.Request
import CookieAuth.Http.SetCookie
import CookieAuth.Json.Basic
import CookieAuth.Json.Parser
import CookieAuth.Json.Printer
import CookieAuth.Json.Shape
import CookieAuth.Log
import CookieAuth.Mail.Mailer
import CookieAuth.Mail.Template
import CookieAuth.Password.Basic
import CookieAuth.Password.StoredHash
import CookieAuth.Service.Basic
import CookieAuth.Service.Handle
import CookieAuth.Service.Route
import CookieAuth.Service.Router
import CookieAuth.Service.Supply
import CookieAuth.Service.Visit
import CookieAuth.Session.Basic
import CookieAuth.Session.Id
import CookieAuth.Session.Login
import CookieAuth.Session.Store
import CookieAuth.Text.Alphanumeric
import CookieAuth.Text.Base64
import CookieAuth.Text.Blank
import CookieAuth.Text.Cased
import CookieAuth.Text.CodeMap
import CookieAuth.Text.CodeSet
import CookieAuth.Text.Integer
import CookieAuth.Text.Invisible
import CookieAuth.Text.Lowercase
import CookieAuth.Text.Normal
import CookieAuth.Text.Normal.Table
import CookieAuth.Text.Percent
import CookieAuth.Text.Quoted
import CookieAuth.Text.Split
import CookieAuth.Text.Utf8
import CookieAuth.Time.Instant
import CookieAuth.Proofs.Session.Operations
import CookieAuth.Proofs.Service.Actions
import CookieAuth.Proofs.Service.Requests
import CookieAuth.Proofs.Service.Writes
import CookieAuth.Proofs.Session.Rotation
import CookieAuth.Proofs.Json.Strings
import CookieAuth.Proofs.Service.Status
import CookieAuth.Proofs.Service.Forgery
import CookieAuth.Proofs.Service.Run
import CookieAuth.Proofs.Service.AuditLog
import CookieAuth.Proofs.Session.Integrity
import CookieAuth.Proofs.Account.Addresses
import CookieAuth.Proofs.Account.Conflicts
import CookieAuth.Proofs.Database.Collation
import CookieAuth.Proofs.Mail.Rendering
import CookieAuth.Proofs.Account.Resets
import CookieAuth.Proofs.Password.Storage
import CookieAuth.Proofs.Text.Base64
import CookieAuth.Proofs.Session.Reliability
import CookieAuth.Proofs.Account.Atomicity
import CookieAuth.Proofs.Account.RoundTrip
import CookieAuth.Proofs.Service.Soundness
import CookieAuth.Proofs.Service.Robustness
import CookieAuth.Proofs.Time.Calendar
import CookieAuth.Proofs.Time.TextOrder
import CookieAuth.Proofs.Account.TokenLifetime
import CookieAuth.Proofs.Text.Lowercase
import CookieAuth.Proofs.Email.Hosts
import CookieAuth.Proofs.Account.Recovery
import CookieAuth.Proofs.Session.Draws
import CookieAuth.Proofs.Session.Isolation
import CookieAuth.Proofs.Account.Enumeration
import CookieAuth.Proofs.Database.Consistency
import CookieAuth.Proofs.Service.Redaction
import CookieAuth.Proofs.Account.Secrecy
import CookieAuth.Proofs.Session.Ending
import CookieAuth.Proofs.Text.ByteOrder
import CookieAuth.Proofs.Database.Expiry
import CookieAuth.Proofs.Form.Errors
import CookieAuth.Proofs.Account.Validation
import CookieAuth.Proofs.Account.Credentials
import CookieAuth.Proofs.Session.Separation
import CookieAuth.Proofs.Account.Dispatches
import CookieAuth.Proofs.Mail.Subjects
import CookieAuth.Proofs.Mail.Links
import CookieAuth.Proofs.Text.Utf8
import CookieAuth.Proofs.Form.Encoding
import CookieAuth.Proofs.Form.Submission
import CookieAuth.Proofs.Http.Cookies
import CookieAuth.Proofs.Text.Integers
import CookieAuth.Proofs.Config.Loading
import CookieAuth.Proofs.Config.Settings
import CookieAuth.Proofs.Config.Files
import CookieAuth.Proofs.Text.Retyping
import CookieAuth.Proofs.Text.SmallForms
import CookieAuth.Proofs.Account.NormalAddresses
import CookieAuth.Proofs.Form.Accumulation
import CookieAuth.Proofs.Account.Rejections
