import CgroupLimits.FileTree
import CgroupLimits.Main
import CgroupLimits.Proofs.Ceiling
import CgroupLimits.Proofs.Detection
import CgroupLimits.Proofs.Placement
import CgroupLimits.Proofs.Precedence
import CgroupLimits.Proofs.Provenance
import CgroupLimits.Proofs.Range
import CgroupLimits.Proofs.Refresh
import CgroupLimits.Proofs.Unlimited
import CgroupLimits.Proofs.Coverage
import CgroupLimits.Proofs.Lines
import CgroupLimits.Proofs.Lookup
import CgroupLimits.Proofs.Agreement
import CgroupLimits.Proofs.MountLines
import CgroupLimits.Proofs.Resolution
import CgroupLimits.Proofs.Inheritance
import CgroupLimits.Proofs.ProcessorCount
import CgroupLimits.Proofs.Scans
import CgroupLimits.Proofs.Confinement
import CgroupLimits.Proofs.MembershipLines
import CgroupLimits.Proofs.ControllerLines
import CgroupLimits.Proofs.SingleLines
import CgroupLimits.Proofs.SwapUsage
import CgroupLimits.Proofs.HostSources
import CgroupLimits.Proofs.Framing
