import ZGrid.Config.Document
import ZGrid.Config.Properties
import ZGrid.Grid.Exact
import ZGrid.GridIndex
import ZGrid.Proofs.AliasedKeys
import ZGrid.Proofs.BoxedPoints
import ZGrid.Proofs.CellByCell
import ZGrid.Proofs.CellCenter
import ZGrid.Proofs.CellCodec
import ZGrid.Proofs.ConfigDocument
import ZGrid.Proofs.DerivedGrid
import ZGrid.Proofs.ExactTree
import ZGrid.Proofs.HandlerOrigin
import ZGrid.Proofs.KeyCount
import ZGrid.Proofs.KeyOrder
import ZGrid.Proofs.QueryForms
import ZGrid.Proofs.QueryOutcome
import ZGrid.Proofs.RangeSetOrigin
import ZGrid.Proofs.RegistryRun
import ZGrid.Proofs.RespelledKeys
import ZGrid.Proofs.SharedEdges
import ZGrid.Proofs.ShortestRead
import ZGrid.Proofs.TreeReuse
import ZGrid.Proofs.VertexText
import ZGrid.RangeSet.Document
import ZGrid.Registry
import ZGrid.Version
