import SunSpec.Device.Scripted
import SunSpec.Main
import SunSpec.Proofs.RoundTrip
import SunSpec.Proofs.TableScan
import SunSpec.Proofs.WireImage
import SunSpec.Proofs.Alignment
import SunSpec.Proofs.WriteBack
import SunSpec.Proofs.ChangingDevice
import SunSpec.Proofs.StoredLengths
import SunSpec.Proofs.Overlap
import SunSpec.Proofs.ShortReads
import SunSpec.Proofs.Completeness
import SunSpec.Proofs.Requests
import SunSpec.Proofs.Turns
import SunSpec.Proofs.Representation
import SunSpec.Proofs.TableReads
import SunSpec.Proofs.Merging
import SunSpec.Proofs.Reloading
import SunSpec.Proofs.Supplied
import SunSpec.Proofs.Instances
import SunSpec.Proofs.Capacity
import SunSpec.Proofs.CheckedReading
import SunSpec.Proofs.ImpliedOffsets
import SunSpec.Proofs.Statements
import SunSpec.Proofs.BufferWrites
import SunSpec.Proofs.TextBytes
import SunSpec.Proofs.StringFields
import SunSpec.Proofs.Rewriting
import SunSpec.Proofs.IntegerLiterals
import SunSpec.Proofs.DefineLabels
import SunSpec.Proofs.ReservedIds
import SunSpec.Proofs.WholeReads
