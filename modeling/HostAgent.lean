import HostAgent.Main
import HostAgent.Host.Scripted
import HostAgent.Net.Audience
import HostAgent.Proofs.Disk.Kept
import HostAgent.Proofs.Net.Order
import HostAgent.Proofs.Disk.Impossible
import HostAgent.Proofs.Errors
import HostAgent.Proofs.Net.Errors
import HostAgent.Proofs.Net.Course
import HostAgent.Proofs.Net.Phases
import HostAgent.Proofs.Net.Held
import HostAgent.Proofs.Net.Converged
import HostAgent.Proofs.Net.Again
import HostAgent.Proofs.Net.VirtualIps
import HostAgent.Proofs.Net.Announced
import HostAgent.Proofs.Net.HandMade
import HostAgent.Proofs.Blind
import HostAgent.Proofs.Reconcile
import HostAgent.Proofs.Disk.Room
import HostAgent.Proofs.Settings
import HostAgent.Proofs.Disk.Identity
import HostAgent.Proofs.Disk.Reading
import HostAgent.Proofs.Disk.Report
import HostAgent.Proofs.Net.InterfacesFile
import HostAgent.Proofs.Ip
import HostAgent.Proofs.Net.Servers
import HostAgent.Proofs.Net.Subnets
import HostAgent.Proofs.Retry
import HostAgent.Proofs.Net.Renaming
import HostAgent.Proofs.Net.Announcements
import HostAgent.Proofs.Net.Links
import HostAgent.Proofs.LetterCase
import HostAgent.Proofs.Net.LetterCase
import HostAgent.Proofs.Listing
import HostAgent.Proofs.Net.Detection
import HostAgent.Proofs.Disk.Shortage
import HostAgent.Proofs.FileSystem
import HostAgent.Proofs.Net.DryRun
import HostAgent.Proofs.Config
import HostAgent.Proofs.Net.PrimaryAddress
