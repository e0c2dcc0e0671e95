import FilterGraph.Decimal.Reading
import FilterGraph.Proofs.EscapedRecords
import FilterGraph.Proofs.IndexRange
import FilterGraph.Proofs.Interchange
import FilterGraph.Proofs.Interleaving
import FilterGraph.Proofs.Isolation
import FilterGraph.Proofs.KeptSettings
import FilterGraph.Proofs.KeyedOptions
import FilterGraph.Proofs.LogLines
import FilterGraph.Proofs.LogSetup
import FilterGraph.Proofs.MapFlags
import FilterGraph.Proofs.OrderOfFindings
import FilterGraph.Proofs.Precedence
import FilterGraph.Proofs.ReportRuns
import FilterGraph.Proofs.SetupLines
import FilterGraph.Proofs.StandaloneSteps
import FilterGraph.Proofs.StrictOutcome
import FilterGraph.Proofs.StrictWarnings
import FilterGraph.Proofs.UniqueReading
import FilterGraph.Proofs.WiringMessages
import FilterGraph.Session
import FilterGraph.Store.Session
