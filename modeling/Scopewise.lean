import Scopewise.Main
import Scopewise.Tree.Assembly
import Scopewise.Tree.Walk
import Scopewise.Proofs.Adequacy
import Scopewise.Proofs.Simulation
import Scopewise.Proofs.Typing
import Scopewise.Proofs.JsonText
import Scopewise.Proofs.Grammar
import Scopewise.Proofs.Records
import Scopewise.Proofs.Acceptance
import Scopewise.Proofs.RoundTrip
import Scopewise.Proofs.TableRuns
import Scopewise.Proofs.ScopeStack
import Scopewise.Proofs.StoredValues
import Scopewise.Proofs.Footprint
import Scopewise.Proofs.Relabelling
import Scopewise.Proofs.ValueIndependence
import Scopewise.Proofs.Commutation
import Scopewise.Proofs.Equivariance
import Scopewise.Proofs.DumpOrder
import Scopewise.Proofs.History
import Scopewise.Proofs.Brackets
import Scopewise.Proofs.ScopeNames
import Scopewise.Proofs.Legibility
import Scopewise.Proofs.Rendering
import Scopewise.Proofs.Outlines
import Scopewise.Proofs.Declarations
import Scopewise.Proofs.Flags
import Scopewise.Proofs.NameUses
import Scopewise.Proofs.TypeCascade
import Scopewise.Proofs.Folding
import Scopewise.Proofs.Recovery
import Scopewise.Proofs.Initialization
import Scopewise.Proofs.Calls
import Scopewise.Proofs.Returns
import Scopewise.Proofs.MergedSpans
import Scopewise.Proofs.Extension
import Scopewise.Proofs.Respelling
import Scopewise.Proofs.Addresses
import Scopewise.Proofs.Printing
import Scopewise.Proofs.Leaves
