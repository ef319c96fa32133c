import SparkFleet.Action
import SparkFleet.ApiError
import SparkFleet.Call
import SparkFleet.Catalog
import SparkFleet.Cluster.Draft
import SparkFleet.Cluster.Handle
import SparkFleet.Cluster.Lifecycle
import SparkFleet.Cluster.Offer
import SparkFleet.Cluster.Operation
import SparkFleet.Cluster.Record
import SparkFleet.Cluster.Size
import SparkFleet.Cluster.State
import SparkFleet.Config
import SparkFleet.Credentials
import SparkFleet.Error
import SparkFleet.FileStore.Record
import SparkFleet.FileStore.Transfer
import SparkFleet.Http.Base64
import SparkFleet.Http.Client
import SparkFleet.Http.Form
import SparkFleet.Http.Host
import SparkFleet.Http.Request
import SparkFleet.Http.Response
import SparkFleet.Id
import SparkFleet.Instant
import SparkFleet.Job.Draft
import SparkFleet.Job.Handle
import SparkFleet.Job.Record
import SparkFleet.Job.Shape
import SparkFleet.Job.Task
import SparkFleet.Job.Variant
import SparkFleet.Json.Basic
import SparkFleet.Json.Double
import SparkFleet.Json.Number
import SparkFleet.Json.Scan
import SparkFleet.Json.Token
import SparkFleet.Json.Tree
import SparkFleet.Library.Basic
import SparkFleet.Library.Record
import SparkFleet.Library.Status
import SparkFleet.LocalFiles
import SparkFleet.Path
import SparkFleet.Platform.Clusters
import SparkFleet.Platform.Control
import SparkFleet.Platform.Files
import SparkFleet.Platform.Jobs
import SparkFleet.Platform.Libraries
import SparkFleet.Platform.Serve
import SparkFleet.Platform.State
import SparkFleet.Platform.Workspace
import SparkFleet.Program
import SparkFleet.Run.Handle
import SparkFleet.Run.Record
import SparkFleet.Simulation
import SparkFleet.SortedMap
import SparkFleet.Span
import SparkFleet.Text.Blank
import SparkFleet.Text.Integer
import SparkFleet.Text.Quoted
import SparkFleet.Text.Unprintable
import SparkFleet.TextMap
import SparkFleet.Wait
import SparkFleet.Wire.Codec
import SparkFleet.Workspace.Notebook
import SparkFleet.Workspace.Record
import SparkFleet.Report.Content
import SparkFleet.Report.Failure
import SparkFleet.Report.Handle
import SparkFleet.Proofs.Execution
import SparkFleet.Proofs.Agreement
import SparkFleet.Proofs.Calls
import SparkFleet.Proofs.Job.SameShape
import SparkFleet.Proofs.Platform.Event
import SparkFleet.Proofs.SortedMap
import SparkFleet.Proofs.Platform.Frame
import SparkFleet.Proofs.Platform.Consistent
import SparkFleet.Proofs.Platform.Lasting
import SparkFleet.Proofs.Platform.Reading
import SparkFleet.Proofs.Platform.InPlace
import SparkFleet.Proofs.Job.Resolution
import SparkFleet.Proofs.Run.Parameters
import SparkFleet.Proofs.Run.Started
import SparkFleet.Proofs.Run.History
import SparkFleet.Proofs.Rewrapping
import SparkFleet.Proofs.FileStore.Upload
import SparkFleet.Proofs.Job.Creation
import SparkFleet.Proofs.Job.FailedCreation
import SparkFleet.Proofs.Platform.ClusterIds
import SparkFleet.Proofs.Platform.ClusterStep
import SparkFleet.Proofs.Cluster.StateChange
import SparkFleet.Proofs.Cluster.Contention
import SparkFleet.Proofs.Cluster.Clients
import SparkFleet.Proofs.Cluster.Guard
import SparkFleet.Proofs.Cluster.GuardAgrees
import SparkFleet.Proofs.FileStore.PlainMap
import SparkFleet.Proofs.Json.Text
import SparkFleet.Proofs.Json.Render
import SparkFleet.Proofs.Wire.RoundTrip
import SparkFleet.Proofs.Wire.Records
import SparkFleet.Proofs.FileStore.Protocol
import SparkFleet.Proofs.Http.Base64
import SparkFleet.Proofs.Http.Content
import SparkFleet.Proofs.FileStore.FailedUpload
import SparkFleet.Proofs.FileStore.OpenUploads
import SparkFleet.Proofs.FileStore.Replacement
import SparkFleet.Proofs.Platform.NameSpaces
import SparkFleet.Proofs.Path
import SparkFleet.Proofs.FileStore.EmptyDirectory
import SparkFleet.Proofs.Workspace.EmptyDirectory
import SparkFleet.Proofs.Workspace.Subtree
import SparkFleet.Proofs.Workspace.Tree
import SparkFleet.Proofs.Session
import SparkFleet.Proofs.Cluster.Creation
import SparkFleet.Proofs.Cluster.FailedCreation
import SparkFleet.Proofs.Library.Log
import SparkFleet.Proofs.Library.Marks
import SparkFleet.Proofs.Library.Lookup
import SparkFleet.Proofs.Library.Step
import SparkFleet.Proofs.Cluster.Awaited
import SparkFleet.Proofs.Cluster.WellSized
import SparkFleet.Proofs.Library.Installation
import SparkFleet.Proofs.Library.Removal
import SparkFleet.Proofs.Library.SameLibrary
import SparkFleet.Proofs.Cluster.Separate
import SparkFleet.Proofs.Platform.Identifiers
import SparkFleet.Proofs.CatalogReads
import SparkFleet.Proofs.FirstFailure
import SparkFleet.Proofs.ErrorFamilies
import SparkFleet.Proofs.AfterFailure
import SparkFleet.Proofs.NoRetry
import SparkFleet.Proofs.Run.Step
import SparkFleet.Proofs.Platform.Counts
import SparkFleet.Proofs.Platform.Settling
import SparkFleet.Proofs.WaitLength
import SparkFleet.Proofs.DeadlineRace
import SparkFleet.Proofs.WaitForSettling
import SparkFleet.Proofs.Wire.Edits
import SparkFleet.Proofs.Library.WireForm
import SparkFleet.Proofs.Http.Failure
import SparkFleet.Proofs.Http.BaseUrl
import SparkFleet.Proofs.Http.Form
import SparkFleet.Proofs.Http.Target
import SparkFleet.Proofs.Run.Numbering
import SparkFleet.Proofs.Text.Trimming
import SparkFleet.Proofs.Text.Numeral
import SparkFleet.Proofs.NumericIds
