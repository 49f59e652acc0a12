import DftTaxonomy.Binary64.Arith
import DftTaxonomy.Binary64.Basic
import DftTaxonomy.Binary64.Parse
import DftTaxonomy.Binary64.Round
import DftTaxonomy.CalcType
import DftTaxonomy.Parameters
import DftTaxonomy.Clean
import DftTaxonomy.Client.Check
import DftTaxonomy.Client.Classify
import DftTaxonomy.Client.Host
import DftTaxonomy.Conformance.Labels
import DftTaxonomy.Conformance.Report
import DftTaxonomy.Conformance.Rules
import DftTaxonomy.Cp2k
import DftTaxonomy.Datum.Basic
import DftTaxonomy.Datum.Sanitize
import DftTaxonomy.Datum.Text
import DftTaxonomy.Decimal.Layout
import DftTaxonomy.Decimal.Shortest
import DftTaxonomy.Files
import DftTaxonomy.Grouping
import DftTaxonomy.Instant
import DftTaxonomy.Json.Basic
import DftTaxonomy.Json.Read
import DftTaxonomy.Json.Write
import DftTaxonomy.Main
import DftTaxonomy.ObjectId
import DftTaxonomy.Proofs.FirstMatch
import DftTaxonomy.Proofs.Loading
import DftTaxonomy.Rules.Bundled
import DftTaxonomy.Rules.Load
import DftTaxonomy.Rules.Table
import DftTaxonomy.Settings
import DftTaxonomy.Tensor
import DftTaxonomy.Text.Upper
import DftTaxonomy.Text.Escaped
import DftTaxonomy.Toml.DatetimeTable
import DftTaxonomy.Toml.Document
import DftTaxonomy.Toml.Read
import DftTaxonomy.Toml.Scalar
import DftTaxonomy.Vasp
import DftTaxonomy.Proofs.CalcTypes
import DftTaxonomy.Proofs.Comparison
import DftTaxonomy.Proofs.TomlKeys
import DftTaxonomy.Proofs.Reachability
import DftTaxonomy.Proofs.RunTypes
import DftTaxonomy.Proofs.Shadowing
import DftTaxonomy.Proofs.ClassOrder
import DftTaxonomy.Proofs.TableShape
import DftTaxonomy.Proofs.Sanitizing
import DftTaxonomy.Proofs.Implication
import DftTaxonomy.Proofs.Hubbard
import DftTaxonomy.Proofs.SanitizeFailure
import DftTaxonomy.Proofs.Bucketing
import DftTaxonomy.Proofs.Overlap
import DftTaxonomy.Proofs.RunTypeSet
import DftTaxonomy.Proofs.TaskTable
import DftTaxonomy.Proofs.KeyMerging
import DftTaxonomy.Proofs.Serialization
import DftTaxonomy.Proofs.KpointLabels
import DftTaxonomy.Proofs.KeyText
import DftTaxonomy.Proofs.CaseInsensitivity
import DftTaxonomy.Proofs.TensorLists
import DftTaxonomy.Proofs.LazyMatching
import DftTaxonomy.Proofs.DoubleValue
import DftTaxonomy.Proofs.Meeting
