import DualToken.Main
import DualToken.Service.Event
import DualToken.Proofs.Encoding.Base64
import DualToken.Proofs.Json.Text
import DualToken.Proofs.Json.Number
import DualToken.Proofs.Json.Record
import DualToken.Proofs.Token.Codec
import DualToken.Proofs.Token.Kinds
import DualToken.Proofs.Program
import DualToken.Proofs.Interleaving
import DualToken.Proofs.Revocation.Store
import DualToken.Proofs.Crypto.PasswordHash
import DualToken.Proofs.Http.Answer
import DualToken.Proofs.Http.Requests
import DualToken.Proofs.Service.Operation
import DualToken.Proofs.Service.Change
import DualToken.Proofs.Service.Performing
import DualToken.Proofs.Service.Refusal
import DualToken.Proofs.Service.Revocation
import DualToken.Proofs.Session.Cache
import DualToken.Proofs.Session.History
import DualToken.Proofs.Service.Deed
import DualToken.Proofs.Service.Reachable
import DualToken.Proofs.Service.Calm
import DualToken.Proofs.Service.Success
import DualToken.Proofs.Service.Custody
import DualToken.Proofs.Service.Minting
import DualToken.Proofs.Service.Ending
import DualToken.Proofs.Race.Calls
import DualToken.Proofs.Race.Stages
import DualToken.Proofs.Race.Standing
import DualToken.Proofs.Race.Capture
import DualToken.Proofs.Race.Outcome
import DualToken.Proofs.Http.Disclosure
import DualToken.Proofs.Http.Gate
import DualToken.Proofs.Http.Carrier
import DualToken.Proofs.Http.Cookies
import DualToken.Proofs.Http.Removal
import DualToken.Proofs.Http.Soundness
import DualToken.Proofs.Revocation.Growth
import DualToken.Proofs.Service.Apart
import DualToken.Proofs.Service.Isolation
import DualToken.Proofs.Text.Decimal
import DualToken.Proofs.Revocation.Log
import DualToken.Proofs.Service.Faults
import DualToken.Proofs.Service.Retry
import DualToken.Proofs.Service.Withdrawal
import DualToken.Proofs.Service.Interruption
import DualToken.Proofs.Redis.Agreement
import DualToken.Proofs.Redis.Disturbance
import DualToken.Proofs.Account.UserTable
import DualToken.Proofs.Account.Directory
import DualToken.Proofs.Account.Keys
import DualToken.Proofs.Account.Creation
import DualToken.Proofs.Account.Contest
import DualToken.Proofs.Service.Deletion
import DualToken.Proofs.Http.Registration
import DualToken.Proofs.Http.Passwords
import DualToken.Proofs.Token.Name
import DualToken.Proofs.Token.Spelling
import DualToken.Proofs.Service.Respelling
import DualToken.Proofs.Service.Freshness
import DualToken.Proofs.Service.Reissue
import DualToken.Proofs.Http.Handover
import DualToken.Proofs.Http.Renewal
import DualToken.Proofs.Service.Encounter
import DualToken.Proofs.Service.Decision
import DualToken.Proofs.Text.Order
import DualToken.Proofs.Service.Departure
import DualToken.Proofs.Service.Opening
import DualToken.Proofs.Service.Overtaking
import DualToken.Proofs.Http.Presence
import DualToken.Proofs.Time.HttpDate
import DualToken.Proofs.Http.Origin
import DualToken.Proofs.Http.CookieDates
import DualToken.Proofs.Http.Extension
import DualToken.Proofs.Http.Lifetimes
