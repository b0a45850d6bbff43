import LayeredSettings.Main
import LayeredSettings.Migration
import LayeredSettings.Proofs.Registry.History
import LayeredSettings.Proofs.Resolution.Run
import LayeredSettings.Proofs.Resolution.Failure
import LayeredSettings.Proofs.Properties.Writing
import LayeredSettings.Proofs.Properties.Acceptance
import LayeredSettings.Proofs.Properties.Joining
import LayeredSettings.Proofs.Properties.Cut
import LayeredSettings.Proofs.Properties.LineEnds
import LayeredSettings.Proofs.Properties.EmptyKey
import LayeredSettings.Proofs.Properties.Stream
import LayeredSettings.Proofs.Password.Output
import LayeredSettings.Proofs.Resolution.Reported
import LayeredSettings.Proofs.Resolution.Configuring
import LayeredSettings.Proofs.Migration
import LayeredSettings.Proofs.Json.Absorption
import LayeredSettings.Proofs.HostParameters.SingleFile
import LayeredSettings.Proofs.HostParameters.Nulls
import LayeredSettings.Proofs.Registry.Writes
import LayeredSettings.Proofs.Resolution.Repeated
import LayeredSettings.Proofs.Resolution.Successive
import LayeredSettings.Proofs.Opener.Directories
import LayeredSettings.Proofs.Resolution.OwnPolicy
import LayeredSettings.Proofs.Contexts
import LayeredSettings.Proofs.Report.Lines
import LayeredSettings.Proofs.Report.Table
