import Docroot.Answer
import Docroot.Archive
import Docroot.Archive.Assets
import Docroot.Archive.Name
import Docroot.Bytes
import Docroot.Bytes.Base64
import Docroot.CachePolicy
import Docroot.Conditional
import Docroot.Config
import Docroot.Content
import Docroot.Date.Calendar
import Docroot.Date.Reader
import Docroot.Date.Stamp
import Docroot.Date.Token
import Docroot.Fault
import Docroot.FileSystem
import Docroot.FileSystem.Canonical
import Docroot.FileSystem.Disk
import Docroot.FileSystem.Time
import Docroot.FileSystem.Walk
import Docroot.Handler
import Docroot.Headers
import Docroot.Json
import Docroot.Json.Measure
import Docroot.Json.Reader
import Docroot.Json.Writer
import Docroot.Listener
import Docroot.Location
import Docroot.Log
import Docroot.MediaType
import Docroot.MediaType.Registry
import Docroot.Number.Binary64
import Docroot.Number.Decimal
import Docroot.Number.Literal
import Docroot.Number.Quantity
import Docroot.Options
import Docroot.Path
import Docroot.Path.Scan
import Docroot.Range
import Docroot.Range.Header
import Docroot.Range.Multipart
import Docroot.Request
import Docroot.Request.Host
import Docroot.Request.Path
import Docroot.Request.Target
import Docroot.Resolver
import Docroot.Resource
import Docroot.Resource.Opening
import Docroot.Response
import Docroot.Text
import Docroot.Text.CaseTable
import Docroot.Text.Lowercase
import Docroot.Text.Quoted
import Docroot.Text.Units
import Docroot.Text.Utf8
import Docroot.Proofs.Text.Splitting
import Docroot.Proofs.Path.Names
import Docroot.Proofs.Path.Scan
import Docroot.Proofs.Path.Spelling
import Docroot.Proofs.Path.Joining
import Docroot.Proofs.FileSystem.Standing
import Docroot.Proofs.FileSystem.Lookups
import Docroot.Proofs.FileSystem.Links
import Docroot.Proofs.FileSystem.Variation
import Docroot.Proofs.FileSystem.SideBySide
import Docroot.Proofs.Number.Rounding
import Docroot.Proofs.Archive.Names
import Docroot.Proofs.Archive.Packing
import Docroot.Proofs.Request.Paths
import Docroot.Proofs.Request.Leading
import Docroot.Proofs.Request.Escapes
import Docroot.Proofs.Request.Targets
import Docroot.Proofs.Request.Spelling
import Docroot.Proofs.Range.Exact
import Docroot.Proofs.Range.Grammar
import Docroot.Proofs.Resolution.Provenance
import Docroot.Proofs.Resolution.Containment
import Docroot.Proofs.Resolution.Links
import Docroot.Proofs.Resolution.TwoRuns
import Docroot.Proofs.Resolution.Noninterference
import Docroot.Proofs.Resolution.FileSets
import Docroot.Proofs.Resolution.FirstFound
import Docroot.Proofs.Resolution.Interchange
import Docroot.Proofs.Response.Headers
import Docroot.Proofs.Response.Writing
import Docroot.Proofs.Response.Answers
import Docroot.Proofs.Response.Content
import Docroot.Proofs.Response.Outcomes
import Docroot.Proofs.Response.Mounting
import Docroot.Proofs.Response.Served
import Docroot.Proofs.Response.Reachable
import Docroot.Proofs.Response.Interchange
import Docroot.Proofs.Date.Calendar
import Docroot.Proofs.Date.Reading
import Docroot.Proofs.Number.Precision
import Docroot.Proofs.Response.Exchanges
import Docroot.Proofs.Response.Revalidation
import Docroot.Proofs.Response.Mirroring
import Docroot.Proofs.Resolution.Failures
import Docroot.Proofs.Resolution.Spelling
import Docroot.Proofs.Response.Failures
import Docroot.Proofs.Response.Sources
import Docroot.Proofs.Response.Withdrawal
import Docroot.Proofs.Response.Vanishing
import Docroot.Proofs.Response.Telling
import Docroot.Proofs.Response.Truncation
import Docroot.Proofs.Number.Text
import Docroot.Proofs.Response.Parts
import Docroot.Proofs.Resolution.Configurations
import Docroot.Proofs.Resolution.Appending
import Docroot.Proofs.Resolution.Isolation
import Docroot.Proofs.Response.Isolation
import Docroot.Proofs.FileSystem.Growth
import Docroot.Proofs.Resolution.LateRoots
import Docroot.Proofs.Response.LateRoots
import Docroot.Proofs.Range.Outcomes
import Docroot.Proofs.Range.Rendering
import Docroot.Proofs.Path.Below
import Docroot.Proofs.Resolution.Inquiries
import Docroot.Proofs.Resolution.Normalizing
import Docroot.Proofs.Archive.Contents
import Docroot.Proofs.MediaType.Extensions
import Docroot.Proofs.Options.Checked
import Docroot.Proofs.MediaType.Grammar
import Docroot.Proofs.Response.Framing
import Docroot.Proofs.Date.HttpDate
import Docroot.Proofs.Response.Expiry
import Docroot.Proofs.Json.Order
import Docroot.Proofs.Bytes.Base64
import Docroot.Proofs.Archive.Assets
import Docroot.Proofs.Response.Typing
import Docroot.Proofs.Response.Merging
import Docroot.Proofs.Response.Folders
import Docroot.Proofs.MediaType.Keys
import Docroot.Proofs.Options.Schema
import Docroot.Proofs.Resolution.Settling
import Docroot.Proofs.Options.Outcome
