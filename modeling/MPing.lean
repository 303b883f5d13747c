import MPing.Packet.Properties
import MPing.Spec.Packet
import MPing.Spec.Canonical
import MPing.Spec.Advertised
import MPing.Spec.Ledger
import MPing.Spec.Distinct
import MPing.Sender.Interleaving
import MPing.Sender.Main
import MPing.Dissector.Annotation
import MPing.Dissector.Agreement
import MPing.Dissector.Checks
import MPing.Dissector.Failure
import MPing.Dissector.Mirror
import MPing.Dissector.Widths
import MPing.Dissector.Tree
import MPing.Dissector.Capture
import MPing.Seccomp.Coverage
import MPing.Seccomp.Kills
import MPing.Seccomp.Lifecycle
import MPing.Startup.TtlOption
import MPing.Startup.Confinement
