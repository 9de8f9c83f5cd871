import BearerClient.Text.Base64
import BearerClient.Text.Blank
import BearerClient.Text.Quoted
import BearerClient.Text.Utf8
import BearerClient.Binary64.Shortest
import BearerClient.Json.Printer
import BearerClient.Json.Parser
import BearerClient.Json.Decode
import BearerClient.Tokens
import BearerClient.Envelope
import BearerClient.Error
import BearerClient.Url.Host
import BearerClient.Url.Parser
import BearerClient.Http.Exchange
import BearerClient.Http.Reply
import BearerClient.Session.Invalidator
import BearerClient.Session.Table
import BearerClient.Gateway
import BearerClient.Gateway.Interleaved
import BearerClient.Rehearsal.Script
import BearerClient.Rehearsal.Single
import BearerClient.Settings
import BearerClient.CommandLine.DotEnv
import BearerClient.Disk
import BearerClient.Disk.Image
import BearerClient.Session.TableFile
import BearerClient.Program
import BearerClient.Main
import BearerClient.Rehearsal.StoreScript
import BearerClient.Rehearsal.FeedScript
import BearerClient.Proofs.Callers
import BearerClient.Proofs.SingleFlight
import BearerClient.Proofs.Waiters
import BearerClient.Proofs.HeldSession
import BearerClient.Proofs.Past
import BearerClient.Proofs.ExchangeRequest
import BearerClient.Proofs.SessionVersions
import BearerClient.Proofs.Overwrites
import BearerClient.Proofs.Endings
import BearerClient.Proofs.Refusals
import BearerClient.Proofs.Logins
import BearerClient.Proofs.UnderLock
import BearerClient.Proofs.Stories
import BearerClient.Proofs.Retries
import BearerClient.Proofs.FailedRefresh
import BearerClient.Proofs.GivingUp
import BearerClient.Proofs.Scripts
import BearerClient.Proofs.FreshTokens
import BearerClient.Proofs.Credentials
import BearerClient.Proofs.SessionTable
import BearerClient.Proofs.Reopening
import BearerClient.Proofs.FailedReads
import BearerClient.Proofs.Logout
import BearerClient.Proofs.TokenReplies
import BearerClient.Proofs.JsonReading
import BearerClient.Proofs.JsonRoundTrip
import BearerClient.Proofs.Responses
import BearerClient.Proofs.Fidelity
import BearerClient.Proofs.RequestHeaders
import BearerClient.Proofs.Origins
import BearerClient.Proofs.DiskRows
import BearerClient.Proofs.CommandLineFrame
import BearerClient.Proofs.Trimming
import BearerClient.Proofs.Imports
import BearerClient.Proofs.Redaction
import BearerClient.Proofs.Rounds
import BearerClient.Proofs.Interleavings
import BearerClient.Proofs.Removals
import BearerClient.Proofs.RefusedSessions
