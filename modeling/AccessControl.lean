import AccessControl.Access.Authorizer
import AccessControl.Access.Decision
import AccessControl.Access.Wire
import AccessControl.CommandLine.Arguments
import AccessControl.CommandLine.Commands
import AccessControl.CommandLine.Folder
import AccessControl.CommandLine.Program
import AccessControl.CommandLine.Report
import AccessControl.CommandLine.Request
import AccessControl.CommandLine.Surroundings
import AccessControl.Digest.Hasher
import AccessControl.Digest.Hex
import AccessControl.Digest.Salted
import AccessControl.Digest.Sha512
import AccessControl.Digest.Signature
import AccessControl.Document.Record
import AccessControl.Duration.Parser
import AccessControl.Failure.Inspection
import AccessControl.Failure.Named
import AccessControl.Failure.View
import AccessControl.Gate.Basic
import AccessControl.Gate.Setup
import AccessControl.Identity.Drawn
import AccessControl.Identity.Wire
import AccessControl.Json.Draft
import AccessControl.Json.Parser
import AccessControl.Json.Printer
import AccessControl.Json.Value
import AccessControl.Login.Authenticator
import AccessControl.Main
import AccessControl.Party.Basic
import AccessControl.Party.View
import AccessControl.Permission.Basic
import AccessControl.Permission.Wire
import AccessControl.Proofs.Access.Consultation
import AccessControl.Proofs.Access.Turning
import AccessControl.Proofs.Access.Unreliable
import AccessControl.Proofs.Access.Verdict
import AccessControl.Proofs.CommandLine.Check
import AccessControl.Proofs.Digest.Streamed
import AccessControl.Proofs.Gate.Frame
import AccessControl.Proofs.Gate.Guard
import AccessControl.Proofs.Gate.Guesses
import AccessControl.Proofs.Gate.Login
import AccessControl.Proofs.Gate.Sessions
import AccessControl.Proofs.Json.Layout
import AccessControl.Proofs.Json.RoundTrip
import AccessControl.Proofs.Json.Scalars
import AccessControl.Proofs.Json.Spelling
import AccessControl.Proofs.Json.Steady
import AccessControl.Proofs.Login.Limiter
import AccessControl.Proofs.Login.Window
import AccessControl.Proofs.Resource.NameRules
import AccessControl.Proofs.Seed.Acceptance
import AccessControl.Proofs.Seed.Access
import AccessControl.Proofs.Seed.Accounts
import AccessControl.Proofs.Seed.Addresses
import AccessControl.Proofs.Seed.Gathered
import AccessControl.Proofs.Seed.Planted
import AccessControl.Proofs.Seed.Sown
import AccessControl.Proofs.Seed.Steps
import AccessControl.Proofs.Seed.Structure
import AccessControl.Proofs.Session.Carried
import AccessControl.Proofs.Session.Numbered
import AccessControl.Proofs.Session.Own
import AccessControl.Proofs.Session.Touches
import AccessControl.Proofs.Session.Verified
import AccessControl.Proofs.Settings.Reloaded
import AccessControl.Proofs.Settings.Wired
import AccessControl.Proofs.Shelf
import AccessControl.Proofs.Store.AccessMap
import AccessControl.Proofs.Store.Atomic
import AccessControl.Proofs.Store.Births
import AccessControl.Proofs.Store.Change
import AccessControl.Proofs.Store.Connected
import AccessControl.Proofs.Store.History
import AccessControl.Proofs.Store.Keys
import AccessControl.Proofs.Store.Lasting
import AccessControl.Proofs.Store.Linked
import AccessControl.Proofs.Store.Membership
import AccessControl.Proofs.Store.Rosters
import AccessControl.Proofs.Store.Tree
import AccessControl.Proofs.Text.Decimal
import AccessControl.Resource.Basic
import AccessControl.Resource.ImageName
import AccessControl.Resource.View
import AccessControl.Seed.Index
import AccessControl.Seed.Sowing
import AccessControl.Seed.Wire
import AccessControl.Session.Cache
import AccessControl.Session.Cookie
import AccessControl.Session.Mint
import AccessControl.Session.Nonce
import AccessControl.Session.Policy
import AccessControl.Session.Wire
import AccessControl.Settings.Check
import AccessControl.Settings.Wire
import AccessControl.Shelf
import AccessControl.Store.Access
import AccessControl.Store.Basic
import AccessControl.Store.InPlace
import AccessControl.Text.Decimal
import AccessControl.Text.Quoted
import AccessControl.Text.Shortest
import AccessControl.Text.Split
import AccessControl.Text.White
import AccessControl.Yaml.BlockText
import AccessControl.Yaml.Folding
import AccessControl.Yaml.Label
import AccessControl.Yaml.Lexer
import AccessControl.Yaml.Node
import AccessControl.Yaml.Parser
import AccessControl.Yaml.Printer
import AccessControl.Yaml.Spot
import AccessControl.Yaml.Token
import AccessControl.Yaml.Value
