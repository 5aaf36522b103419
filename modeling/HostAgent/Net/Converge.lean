import HostAgent.Agent.State
import HostAgent.Net.Mac
import HostAgent.Net.Resolver

/-!
# Convergence of the network

One pass brings the host's networking to the declared networks: records are computed and rendered,
and only if a file would change are interfaces taken down, files written and interfaces brought up
again. Then addresses and name servers are checked.

* `computeNetworkConfig` -- what is to be configured;
* `validateAddresses` -- whether the host has the addresses;
* `setupNetworking` -- the pass; it ends in the addresses that are to be announced, if any.
-/

namespace HostAgent.Net

variable {S H : Type}

/-! ## 1. What is to be configured -/

/-- The configuration of networks on interfaces that are known by their MAC addresses. -/
def configOf (networks : Networks) (interfaces : NameMap String) : Except Error NetworkConfig :=
  (recordsOf networks.nonVip interfaces).mapError (.context "Creating interface configurations")
    |>.map fun records => .ofRecords records networks.nonVip.dnsServers

/-- The configuration of networks on the interfaces of the host. -/
def computeNetworkConfig [Files S] (paths : NetPaths) (networks : Networks) :
    Pass S NetworkConfig := do
  let interfaces ← (detectMacs paths.sysClassNet).within "Getting network interfaces"
  Pass.ofResult (configOf networks interfaces)

/-! ## 2. The kernel -/

/-- The kernel's switches for IPv6. -/
def ipv6Switches : List String :=
  ["net.ipv6.conf.all.disable_ipv6=0", "net.ipv6.conf.default.disable_ipv6=0",
   "net.ipv6.conf.all.accept_ra=1", "net.ipv6.conf.default.accept_ra=1"]

/-- Set one switch. -/
def setSwitch [Commands S] (switch : String) : Pass S Unit := do
  let _ ← (runCommand "sysctl" ["-w", switch]).within ("Setting " ++ switch)
  return ()

/-- Turn IPv6 on. -/
def enableIpv6 [Commands S] : Pass S Unit := Pass.forEach ipv6Switches setSwitch

/-- Turn IPv6 on, when it is asked for. -/
def setupIpv6 [Commands S] (enable : Bool) : Pass S Unit :=
  if enable then enableIpv6.within "Enabling IPv6 in kernel" else pure ()

/-! ## 3. Files -/

/-- Make a file of the network hold a text. -/
def convergeText [Files S] (path : Path) (text : String) (dryRun : Bool) : Pass S Bool :=
  (convergeFile path (Utf8.encode text) dryRun).within ("Writing to " ++ path.text)

/-- Make the two configuration files hold their texts; the answer is whether one has changed. -/
def writeNetworkConfigs [Files S] (paths : NetPaths) (interfaces : String)
    (dhclient : Option String) (dryRun : Bool) : Pass S Bool := do
  let interfacesChanged ← convergeText paths.interfaces interfaces dryRun
  match dhclient with
  | none => return interfacesChanged
  | some text =>
    let dhclientChanged ← convergeText paths.dhclientConf text dryRun
    return interfacesChanged || dhclientChanged

/-! ## 4. Interfaces -/

/-- Drop the resolver record that a lease has left for an interface. -/
def dropLeaseRecord [Commands S] (interface : String) : Pass S Unit :=
  (runCommand "resolvconf" ["-d", interface ++ ".dhclient"]).ignored

/-- Drop what leases have left in the resolver. -/
def removeDhcpDns [Commands S] [Files S] (paths : NetPaths) : Pass S Unit := do
  (runCommand "pkill" ["dhclient"]).ignored
  let interfaces ← (detectMacs paths.sysClassNet).within "Detecting network interfaces"
  Pass.forEach interfaces.values dropLeaseRecord

/-- Take interfaces down or up, whatever becomes of it. -/
def runInterfaceCommand [Commands S] (command : String) (names : List String) : Pass S Unit :=
  if names.isEmpty then pure () else (runCommand command ("--force" :: names)).ignored

/-- Go on to a phase. -/
def advance (next : Phase) : Pass (Agent H) Unit := fun a =>
  match a.phase.advance next with
  | .ok phase => (.ok (), { a with phase })
  | .error e => (.error e, a)

/-- Take the interfaces down, write the files, and bring the interfaces up again, even if the files
    could not be written. -/
def applyNetworkConfig [Commands H] [Files H] (paths : NetPaths) (config : NetworkConfig) :
    Pass (Agent H) Unit := do
  removeDhcpDns paths
  runInterfaceCommand "ifdown" config.interfaceNames
  advance .stopped
  match ← (writeNetworkConfigs paths config.interfaces config.dhclient? false).tried with
  | .error e =>
    runInterfaceCommand "ifup" config.interfaceNames
    Pass.fail (.context "Updating network configuration" e)
  | .ok _ =>
    advance .written
    runInterfaceCommand "ifup" config.interfaceNames
    advance .started

/-! ## 5. Validation -/

/-- Check one address against those that the host reports. -/
def validateAddress [Commands S] (reported : List SystemAddress) (address : InterfaceAddress) :
    Pass S Unit := do
  let actual := reported.filter fun a => a.interface = address.interface
  if actual.isEmpty then
    Pass.fail (.unknownInterface address.interface)
  else
    let expected ← address.resolve
    if actual.any fun a => Ip.sameAddress a.ip expected then
      return ()
    Pass.fail (.addressMismatch address.interface expected
      (Text.join ", " (actual.map SystemAddress.ip)))

/-- The addresses that the host reports. -/
def getSystemAddresses [Commands S] : Pass S (List SystemAddress) := do
  let output ← (runCommand "ip" ["-j", "addr", "show"]).within "Listing interface addresses"
  Pass.ofResult (readAddresses output.stdout)

/-- Check that the host has the addresses, when there are any. -/
def validateAddresses [Commands S] (addresses : List InterfaceAddress) : Pass S Unit := do
  if addresses.isEmpty then
    return ()
  let reported ← getSystemAddresses.within "Getting network interface addresses"
  Pass.forEach addresses (validateAddress reported)

/-! ## 6. The pass -/

/-- The fixed addresses that the host must have; alias interfaces are not checked. -/
def staticAddresses (config : NetworkConfig) : List InterfaceAddress :=
  (config.statics.filter fun r => !r.isVirtual).map fun r => .immediate r.name r.address

/-- The addresses that are announced: fixed ones, then leased ones. -/
def announcedAddresses (config : NetworkConfig) : List InterfaceAddress :=
  staticAddresses config ++ config.dhcps.map fun r => .resolving r.name

/-- Bring files and interfaces to a configuration, if a file would change. -/
def convergeFiles [Commands H] [Files H] (paths : NetPaths) (config : NetworkConfig) :
    Pass (Agent H) Unit := do
  let changed ← (writeNetworkConfigs paths config.interfaces config.dhclient? true).within
    "Checking network configuration for changes"
  if changed then
    applyNetworkConfig paths config

/-- Check addresses and name servers. -/
def validateNetwork [Commands H] [Files H] (paths : NetPaths) (config : NetworkConfig) :
    Pass (Agent H) Unit := do
  (validateAddresses (staticAddresses config)).within "Validating static network configuration"
  (validateDns paths.resolvConf config.dnsServers).within "Validating DNS configuration"
  advance .validated

/-- Bring the host to networks of which some are not configured by other means; the answer is what
    is to be announced. -/
def convergeNetworks [Commands H] [Files H] (paths : NetPaths) (networks : Networks) :
    Pass (Agent H) (List InterfaceAddress) := do
  if networks.hasInterfaceAlias then
    (writeResolvConf paths networks).ignored
  let config ← computeNetworkConfig paths networks
  setupIpv6 config.hasVersion6
  convergeFiles paths config
  validateNetwork paths config
  return announcedAddresses config

/-- Bring the host to the declared networks. The answer is what is to be announced; nothing is when
    every network is configured by other means, and then only the resolver is looked after. -/
def setupNetworking [Commands H] [Files H] (paths : NetPaths) (networks : Networks) :
    Pass (Agent H) (Option (List InterfaceAddress)) := do
  Pass.change fun a => { a with phase := .idle }
  if networks.isPreconfigured then
    (writeResolvConf paths networks).within "Writing resolv.conf"
    return none
  let addresses ← convergeNetworks paths networks
  return some addresses

/-! ## 7. Configured interfaces -/

/-- What the host says about an interface that it does not know. -/
def saysUnknown (stderr : String) : Bool :=
  Text.hasPart "unknown interface" stderr || Text.hasPart "Unknown interface" stderr

/-- Whether the host knows how to configure an interface. -/
def isConfigured [Commands S] (interface : String) : Pass S Bool := do
  match ← (runCommand "ifup" ["--no-act", interface]).tried with
  | .ok output => return !saysUnknown output.stderr
  | .error e => return !saysUnknown (e.stderr.getD "")

/-- The interfaces of a list that the host knows how to configure. -/
def configuredAmong [Commands S] : List String → Pass S (List String)
  | [] => pure []
  | name :: names => do
    let known ← isConfigured name
    let others ← configuredAmong names
    return if known then name :: others else others

/-- The interfaces that the host knows how to configure, sorted. -/
def getConfiguredInterfaces [Commands S] [Files S] (paths : NetPaths) : Pass S (List String) := do
  let interfaces ← (detectMacs paths.sysClassNet).within "Getting network interfaces"
  let names ← configuredAmong interfaces.values
  return sortedBy id names

end HostAgent.Net
