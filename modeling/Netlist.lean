import Netlist.Main
import Netlist.Editor
import Netlist.Proofs.Agreement
import Netlist.Proofs.EarliestError
import Netlist.Proofs.RoundTrip
import Netlist.Proofs.Succession
import Netlist.Proofs.Survey
import Netlist.Proofs.Cascade
import Netlist.Proofs.Segmentation
import Netlist.Proofs.Translation
import Netlist.Proofs.Independence
import Netlist.Proofs.Unambiguity
import Netlist.Proofs.Fitting
import Netlist.Proofs.Layout
import Netlist.Proofs.Comments
import Netlist.Proofs.Concatenation
import Netlist.Proofs.Interning
import Netlist.Proofs.Modes
import Netlist.Proofs.Stability
import Netlist.Proofs.Complaint
import Netlist.Proofs.Causes
import Netlist.Proofs.Exactness
import Netlist.Proofs.Quotation
import Netlist.Proofs.Wording
import Netlist.Proofs.Carets
import Netlist.Proofs.SourceOrder
import Netlist.Proofs.Relocation
import Netlist.Proofs.Resumption
import Netlist.Proofs.Warnings
import Netlist.Proofs.Leaders
import Netlist.Proofs.Naming
import Netlist.Proofs.Decoding
import Netlist.Proofs.Transcript
import Netlist.Proofs.Numerals
import Netlist.Proofs.OnDemand
