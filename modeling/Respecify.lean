import Respecify.Main
import Respecify.Migration.Migrator
import Respecify.Proofs.Annotation.Banner
import Respecify.Proofs.Annotation.Comment
import Respecify.Proofs.Import.Alike
import Respecify.Proofs.Import.Declaration
import Respecify.Proofs.Import.Place
import Respecify.Proofs.Import.Reading
import Respecify.Proofs.Import.Regular
import Respecify.Proofs.Import.Renaming
import Respecify.Proofs.Import.Slashes
import Respecify.Proofs.Import.Survey
import Respecify.Proofs.JavaScript.Outline
import Respecify.Proofs.JavaScript.Recovery
import Respecify.Proofs.JavaScript.Scope
import Respecify.Proofs.Migration.Annotation
import Respecify.Proofs.Migration.Calls
import Respecify.Proofs.Migration.Difference
import Respecify.Proofs.Migration.Ownership
import Respecify.Proofs.Migration.Passage
import Respecify.Proofs.Migration.Plan
import Respecify.Proofs.Migration.Validity
import Respecify.Proofs.Order
import Respecify.Proofs.Path.Canonical
import Respecify.Proofs.Path.Normal
import Respecify.Proofs.Server.Migration
import Respecify.Proofs.Server.Stability
import Respecify.Proofs.Source.Layout
import Respecify.Proofs.Text.Slice
import Respecify.Proofs.Text.Split
import Respecify.Proofs.Text.Utf8
import Respecify.Proofs.Tool.Agreement
import Respecify.Proofs.Workspace.Backups
import Respecify.Proofs.Workspace.Course
import Respecify.Proofs.Workspace.Directories
import Respecify.Proofs.Workspace.Disk
import Respecify.Proofs.Workspace.Effect
import Respecify.Proofs.Workspace.Evolution
import Respecify.Proofs.Workspace.FileTree
import Respecify.Proofs.Workspace.Loading
import Respecify.Proofs.Workspace.Proper
import Respecify.Proofs.Workspace.Recognition
import Respecify.Proofs.Workspace.Reports
import Respecify.Proofs.Workspace.RoundTrip
import Respecify.Proofs.Workspace.Run
import Respecify.Proofs.Workspace.Saving
import Respecify.Proofs.Workspace.Savings
import Respecify.Proofs.Workspace.Walk
import Respecify.Record.Server
import Respecify.Source.Substitution
import Respecify.Tool.Listing
import Respecify.Tool.Migrate
import Respecify.Tool.Revise
