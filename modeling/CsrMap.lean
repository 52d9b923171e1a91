import CsrMap.Bus.Model
import CsrMap.Files.Tree
import CsrMap.Main
import CsrMap.Program
import CsrMap.Proofs.Accessor.Accesses
import CsrMap.Proofs.Board.Acceptance
import CsrMap.Proofs.Bus.Classification
import CsrMap.Proofs.Bus.Independence
import CsrMap.Proofs.Bus.Splitting
import CsrMap.Proofs.Declaration.Blueprints
import CsrMap.Proofs.Declaration.Fields
import CsrMap.Proofs.Export.Document
import CsrMap.Proofs.Export.Rows
import CsrMap.Proofs.Header.Constants
import CsrMap.Proofs.Header.Driver
import CsrMap.Proofs.Header.Introduced
import CsrMap.Proofs.Peripheral.Events
import CsrMap.Proofs.Peripheral.Injector
import CsrMap.Proofs.Placement.Partition
import CsrMap.Proofs.Placement.Rounding
import CsrMap.Proofs.Placement.Scan
import CsrMap.Proofs.Program.Failure
import CsrMap.Proofs.Program.Override
import CsrMap.Proofs.Soc.Growth
import CsrMap.Proofs.Soc.InRange
import CsrMap.Proofs.Text.Quantities
