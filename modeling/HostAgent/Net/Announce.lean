import HostAgent.Net.Links

/-!
# Announcing addresses

After addresses have changed, neighbours still know the old bindings. Each address is announced a few
times with `arping`, once its interface is there. One address that fails keeps no other from being
announced.

* `InterfaceAddress` -- an address that is known, or looked up when it is needed;
* `announceAll` -- the announcement of a list of addresses.
-/

namespace HostAgent.Net

variable {S : Type}

/-! ## 1. Addresses of interfaces -/

/-- An interface with its address. -/
inductive InterfaceAddress where
  /-- known beforehand -/
  | immediate (interface ip : String)
  /-- asked from the host when it is needed -/
  | resolving (interface : String)
  deriving DecidableEq, Repr

/-- The name of the interface. -/
def InterfaceAddress.interface : InterfaceAddress → String
  | .immediate interface _ => interface
  | .resolving interface => interface

/-- The address for diagnosis, with the texts quoted. -/
def InterfaceAddress.describe : InterfaceAddress → String
  | .immediate interface ip =>
    "Immediate \x7b interface: " ++ Text.quoted interface ++ ", ip: " ++ Text.quoted ip ++ " \x7d"
  | .resolving interface => "Resolving \x7b interface: " ++ Text.quoted interface ++ ", .. \x7d"

/-- The best address of an interface: the first global one of IPv4, else the first global one. -/
def primaryIp? (interface : String) (addresses : List SystemAddress) : Option String :=
  let candidates := addresses.filter fun a => a.interface = interface && a.isGlobal
  ((candidates.find? fun a => !a.isVersion6).or candidates.head?).map SystemAddress.ip

/-- Ask the host for the address of an interface. -/
def getPrimaryIp [Commands S] (interface : String) : Pass S String := do
  let output ← (runCommand "ip" ["-j", "addr", "show", "dev", interface]).within
    ("Getting addresses of interface '" ++ interface ++ "'")
  let addresses ← Pass.ofResult (readAddresses output.stdout)
  match primaryIp? interface addresses with
  | some ip => return ip
  | none => Pass.fail (.noAddress interface)

/-- The address of an interface. -/
def InterfaceAddress.resolve [Commands S] : InterfaceAddress → Pass S String
  | .immediate _ ip => pure ip
  | .resolving interface => getPrimaryIp interface

/-! ## 2. Announcements -/

/-- How often, and with what pauses, addresses are announced. -/
structure ArpingPolicy where
  /-- announcements per address -/
  iterations : UInt32 := 6
  iterationDelayMs : UInt64 := 5000
  /-- how often to look for an interface before giving up on it -/
  checkAttempts : UInt32 := 10
  checkDelayMs : UInt64 := 1000
  deriving DecidableEq, Repr, Inhabited

/-- The number of looks: at least one. -/
def ArpingPolicy.checks (p : ArpingPolicy) : Nat := max 1 p.checkAttempts.toNat

/-- Look for an interface, with `left` more looks after the first. -/
def awaitPresence [Files S] [Clock S] (delayMs : UInt64) (path : Path) : (left : Nat) → Pass S Bool
  | 0 => filePresent path
  | left + 1 => do
    if ← filePresent path then
      return true
    sleep delayMs
    awaitPresence delayMs path left

/-- Wait until an interface is there. -/
def awaitInterface [Files S] [Clock S] (policy : ArpingPolicy) (directory : Path)
    (interface : String) : Pass S Unit := do
  if ← awaitPresence policy.checkDelayMs (directory.join interface) (policy.checks - 1) then
    return ()
  Pass.fail (.broadcast ("interface '" ++ interface ++ "' did not appear"))

/-- One announcement, and its error. -/
def arping [Commands S] (interface ip : String) : Pass S (Option Error) := do
  match ← (runCommand "arping" ["-c", "1", "-U", "-I", interface, ip]).tried with
  | .ok _ => return none
  | .error e => return some e

/-- A number of announcements with pauses between them, and their first error. -/
def arpings [Commands S] [Clock S] (delayMs : UInt64) (interface ip : String) :
    (count : Nat) → Pass S (Option Error)
  | 0 => pure none
  | 1 => arping interface ip
  | count + 2 => do
    let first ← arping interface ip
    sleep delayMs
    let later ← arpings delayMs interface ip (count + 1)
    return first.or later

/-- The text is an IPv6 address; those are not announced. -/
def isVersion6Text (ip : String) : Bool :=
  match Ip.Address.parse? ip with
  | some (.v6 _) => true
  | _ => false

/-- Announce one address. -/
def announce [Commands S] [Files S] [Clock S] (policy : ArpingPolicy) (directory : Path)
    (address : InterfaceAddress) : Pass S Unit := do
  awaitInterface policy directory address.interface
  let ip ← address.resolve
  if isVersion6Text ip then
    return ()
  match ← arpings policy.iterationDelayMs address.interface ip policy.iterations.toNat with
  | none => return ()
  | some e => Pass.fail e

/-- Announce addresses one after another, whatever becomes of each; the answer is the first error. -/
def announceEach [Commands S] [Files S] [Clock S] (policy : ArpingPolicy) (directory : Path) :
    List InterfaceAddress → Pass S (Option Error)
  | [] => pure none
  | address :: more => do
    let result ← (announce policy directory address).tried
    let later ← announceEach policy directory more
    match result with
    | .ok _ => return later
    | .error e => return some e

/-- Announce addresses; the first failure in their order is the error. -/
def announceAll [Commands S] [Files S] [Clock S] (policy : ArpingPolicy) (directory : Path)
    (addresses : List InterfaceAddress) : Pass S Unit := do
  match ← announceEach policy directory addresses with
  | none => return ()
  | some e => Pass.fail e

end HostAgent.Net
