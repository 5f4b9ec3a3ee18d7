import Absorption.Config.Json
import Absorption.Extraction.Basic
import Absorption.Failure.Announce
import Absorption.Main
import Absorption.Profile.Report
import Absorption.Release
import Absorption.Table.Field
import Absorption.Proofs.Numbers
import Absorption.Proofs.Binary64.Margin
import Absorption.Proofs.Extraction.Adapted
import Absorption.Proofs.Extraction.Demands
import Absorption.Proofs.Extraction.Kept
import Absorption.Proofs.Extraction.Kernels
import Absorption.Proofs.Extraction.Polynomial
import Absorption.Proofs.Extraction.Ranges
import Absorption.Proofs.Extraction.Readiness
import Absorption.Proofs.Extraction.Refusals
import Absorption.Proofs.Extraction.Reordered
import Absorption.Proofs.Grid.Position
import Absorption.Proofs.Table.Acceptance
import Absorption.Proofs.Table.Adaptation
import Absorption.Proofs.Table.Composition
import Absorption.Proofs.Table.Tolerance
import Absorption.Proofs.Grid.Exhaustive
import Absorption.Proofs.Grid.Stencil
import Absorption.Proofs.Table.RoundTrip
import Absorption.Proofs.Extraction.Nodes
import Absorption.Proofs.Grid.Choice
import Absorption.Proofs.Grid.Weights
import Absorption.Proofs.Table.Demands
import Absorption.Proofs.Extraction.Mirror
import Absorption.Proofs.Extraction.Dependence
import Absorption.Proofs.Synthetic.Consistency
import Absorption.Proofs.Json.RoundTrip
import Absorption.Proofs.WeightedSum
