import WorkspaceWatch.Json.Shown
import WorkspaceWatch.Logging.Diagnostics
import WorkspaceWatch.Main
import WorkspaceWatch.Model.Draft
import WorkspaceWatch.Model.Reply
import WorkspaceWatch.Proofs.Resolution
import WorkspaceWatch.Session
import WorkspaceWatch.Settings.Store
import WorkspaceWatch.Proofs.Listing
import WorkspaceWatch.Proofs.Operation
import WorkspaceWatch.Proofs.Lossy
import WorkspaceWatch.Proofs.Percent
import WorkspaceWatch.Proofs.Segments
import WorkspaceWatch.Proofs.Target
import WorkspaceWatch.Proofs.TaskAddress
import WorkspaceWatch.Proofs.Written
import WorkspaceWatch.Proofs.Dump
import WorkspaceWatch.Proofs.RequestBody
import WorkspaceWatch.Proofs.Envelope
import WorkspaceWatch.Proofs.Program
import WorkspaceWatch.Proofs.TaskCommand
import WorkspaceWatch.Proofs.Registration
import WorkspaceWatch.Proofs.Independence
import WorkspaceWatch.Proofs.BackgroundCheck
import WorkspaceWatch.Proofs.Bindings
import WorkspaceWatch.Proofs.SettingsLoad
import WorkspaceWatch.Proofs.ForeignNames
import WorkspaceWatch.Proofs.Layers
import WorkspaceWatch.Proofs.Configuration
import WorkspaceWatch.Proofs.KeptSettings
import WorkspaceWatch.Proofs.Watch
import WorkspaceWatch.Proofs.Reporting
import WorkspaceWatch.Proofs.ReadBack
import WorkspaceWatch.Proofs.TwoReadings
import WorkspaceWatch.Proofs.Edits
import WorkspaceWatch.Proofs.Origin
import WorkspaceWatch.Proofs.StatusFilter
import WorkspaceWatch.Proofs.Rendering
import WorkspaceWatch.Proofs.StatusRule
import WorkspaceWatch.Proofs.RecordLines
import WorkspaceWatch.Proofs.TrailingSlash
import WorkspaceWatch.Proofs.SettingUp
import WorkspaceWatch.Proofs.LoggerTree
import WorkspaceWatch.Proofs.RecordsShown
import WorkspaceWatch.Proofs.Remarks
import WorkspaceWatch.Proofs.Verbosity
import WorkspaceWatch.Proofs.NormalPath
import WorkspaceWatch.Proofs.ProjectPath
