import StyleImport.Main
import StyleImport.Proofs.CommandLine.Resolve
import StyleImport.Proofs.Config.Discovery
import StyleImport.Proofs.Config.Settings
import StyleImport.Proofs.Declarations.Count
import StyleImport.Proofs.Declarations.Reserved
import StyleImport.Proofs.Declarations.Tree
import StyleImport.Proofs.Declarations.Unambiguous
import StyleImport.Proofs.Disk.Change
import StyleImport.Proofs.Disk.Normal
import StyleImport.Proofs.Disk.RealPath
import StyleImport.Proofs.Engine.Containment
import StyleImport.Proofs.Engine.Failures
import StyleImport.Proofs.Engine.Frame
import StyleImport.Proofs.Engine.History
import StyleImport.Proofs.Engine.Importer
import StyleImport.Proofs.Engine.Leftover
import StyleImport.Proofs.Engine.Lookup
import StyleImport.Proofs.Engine.Persistence
import StyleImport.Proofs.Engine.RootIndex
import StyleImport.Proofs.Engine.Rooted
import StyleImport.Proofs.Engine.Scripts
import StyleImport.Proofs.Engine.Source
import StyleImport.Proofs.Engine.StaticText
import StyleImport.Proofs.Engine.Success
import StyleImport.Proofs.Engine.Targets
import StyleImport.Proofs.Log
import StyleImport.Proofs.Manifest.Missing
import StyleImport.Proofs.Manifest.Reports
import StyleImport.Proofs.Package.Walk
import StyleImport.Proofs.Reference
import StyleImport.Proofs.Report.Fields
import StyleImport.Proofs.Report.RoundTrip
import StyleImport.Proofs.Report.Verbatim
import StyleImport.Proofs.TempArea.Lifecycle
