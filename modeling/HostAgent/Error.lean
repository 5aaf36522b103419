import HostAgent.Text.Quoted
import HostAgent.Text.Utf8
import HostAgent.Path

/-!
# What can go wrong

Every failure of the agent's work has one constructor here, named for its cause; the wording is in
one function. Wrappers (`context`, `retriesExhausted`) keep the failure that they describe.

* `Error.message` -- the wording, causes included;
* `Error.stderr` -- what the failed command wrote, through the wrappers;
* `Error.causes` -- the failures from the outermost to the innermost.
-/

namespace HostAgent

/-! ## 1. Faults below the agent -/

/-- Errors of the operating system, by their Linux numbers. -/
inductive Errno where
  | noEntry
  | accessDenied
  | exists
  | notDirectory
  | isDirectory
  | invalid
  | nameTooLong
  | tooManyLinks
  deriving DecidableEq, Repr

namespace Errno

/-- The number of the error. -/
def code : Errno → Nat
  | .noEntry => 2
  | .accessDenied => 13
  | .exists => 17
  | .notDirectory => 20
  | .isDirectory => 21
  | .invalid => 22
  | .nameTooLong => 36
  | .tooManyLinks => 40

/-- The error in words. -/
def words : Errno → String
  | .noEntry => "No such file or directory"
  | .accessDenied => "Permission denied"
  | .exists => "File exists"
  | .notDirectory => "Not a directory"
  | .isDirectory => "Is a directory"
  | .invalid => "Invalid argument"
  | .nameTooLong => "File name too long"
  | .tooManyLinks => "Too many levels of symbolic links"

/-- The error in words, with its number. -/
def message (e : Errno) : String := e.words ++ " (os error " ++ Decimal.text e.code ++ ")"

end Errno

/-- Why a file or a program could not be used. -/
inductive Fault where
  /-- the operating system said so -/
  | system (e : Errno)
  /-- the contents are no text -/
  | notText (fault : Utf8.Fault)
  /-- only a regular file can be copied -/
  | notRegular
  /-- a path holds a zero character -/
  | zeroInPath
  /-- a command line holds a zero character -/
  | zeroInCommand
  /-- nothing there, and nothing more known -/
  | notFound
  /-- not allowed, and nothing more known -/
  | denied
  /-- the fault in the words of whoever found it -/
  | said (words : String)
  deriving DecidableEq, Repr

/-- The fault in words. -/
def Fault.message : Fault → String
  | .system e => e.message
  | .notText fault => fault.message
  | .notRegular => "the source path is neither a regular file nor a symlink to a regular file"
  | .zeroInPath => "file name contained an unexpected NUL byte"
  | .zeroInCommand => "nul byte found in provided data"
  | .notFound => "entity not found"
  | .denied => "permission denied"
  | .said words => words

/-- The stand-in for the reason why a JSON document was refused: the reader gives none. -/
def jsonReason : String := "<json>"

/-! ## 2. Errors -/

/-- A failure of the agent's work on a host. -/
inductive Error where
  /-- the command could not be started -/
  | commandSpawn (command : String) (fault : Fault)
  /-- the command ran and failed -/
  | commandFailed (command : String) (exitCode : Int) (stdout stderr : String)
  /-- a file could not be used -/
  | io (path : String) (fault : Fault)
  /-- the persisted identity cannot be used -/
  | identity (path reason : String)
  /-- the output of a tool is not understood -/
  | parse (what : String)
  /-- a retried operation never succeeded -/
  | retriesExhausted (attempts : Nat) (source : Error)
  /-- the desired partitions do not fit on the device -/
  | insufficientSpace (device : String) (required available : Nat)
  /-- the desired layout fits on no device -/
  | invalidLayout (device reason : String)
  /-- no physical interface has the network's MAC address -/
  | interfaceNotFound (network mac : String)
  /-- the network has no interface configuration -/
  | invalidNetwork (network reason : String)
  /-- the host has no interface of that name -/
  | unknownInterface (interface : String)
  /-- the host reports other addresses than the one that was configured -/
  | addressMismatch (interface expected actual : String)
  /-- the resolver configuration has none of the servers -/
  | dnsNotConfigured (servers : List String)
  /-- the interface has no address yet -/
  | noAddress (interface : String)
  /-- the phases of a pass were entered out of order -/
  | invalidTransition (source target : String)
  /-- announcing addresses failed -/
  | broadcast (what : String)
  /-- a JSON document was refused -/
  | serialization
  /-- a failure, with the step that it made fail -/
  | context (step : String) (source : Error)
  deriving DecidableEq, Repr

namespace Error

/-- The failure in words, its causes included. -/
def message : Error → String
  | .commandSpawn command fault => "running `" ++ command ++ "`: " ++ fault.message
  | .commandFailed command exitCode _ stderr =>
    "`" ++ command ++ "` exited with status " ++ Decimal.signedText exitCode ++ ": " ++ stderr
  | .io path fault => "I/O error on " ++ path ++ ": " ++ fault.message
  | .identity path reason => "reading agent identity from " ++ path ++ ": " ++ reason
  | .parse what => "parsing output: " ++ what
  | .retriesExhausted attempts source =>
    "giving up after " ++ Decimal.text attempts ++ " attempt(s): " ++ source.message
  | .insufficientSpace device required available =>
    "partitions need " ++ Decimal.text required ++ " bytes but " ++ device ++ " has "
      ++ Decimal.text available
  | .invalidLayout device reason => "invalid partition layout for " ++ device ++ ": " ++ reason
  | .interfaceNotFound network mac =>
    "no device found for network '" ++ network ++ "' with MAC address '" ++ mac ++ "'"
  | .invalidNetwork network reason => "invalid network '" ++ network ++ "': " ++ reason
  | .unknownInterface interface =>
    "validating network interface '" ++ interface
      ++ "' IP addresses, no interface configured with that name"
  | .addressMismatch interface expected actual =>
    "validating network interface '" ++ interface ++ "' IP addresses, expected: '" ++ expected
      ++ "', actual: '" ++ actual ++ "'"
  | .dnsNotConfigured servers =>
    "DNS resolver configuration does not contain any of the desired servers: "
      ++ Text.quotedList servers
  | .noAddress interface => "no IP address found for interface '" ++ interface ++ "'"
  | .invalidTransition source target =>
    "invalid convergence transition from " ++ source ++ " to " ++ target
  | .broadcast what => "broadcasting addresses: " ++ what
  | .serialization => "serialization error: " ++ jsonReason
  | .context step source => step ++ ": " ++ source.message

/-- The failure that this one wraps. -/
def wrapped? : Error → Option Error
  | .retriesExhausted _ source => some source
  | .context _ source => some source
  | _ => none

/-- The failures from the outermost to the innermost. -/
def causes : Error → List Error
  | .retriesExhausted attempts source => .retriesExhausted attempts source :: source.causes
  | .context step source => .context step source :: source.causes
  | e => [e]

/-- What lies below an innermost failure, in words. -/
def ground : Error → List String
  | .commandSpawn _ fault => [fault.message]
  | .io _ fault => [fault.message]
  | .serialization => [jsonReason]
  | .retriesExhausted _ source => source.ground
  | .context _ source => source.ground
  | _ => []

/-- The failure and everything below it, in words, outermost first. -/
def chain (e : Error) : List String := e.causes.map message ++ e.ground

/-- What the failed command wrote to its standard error, when a command failed. -/
def stderr : Error → Option String
  | .commandFailed _ _ _ stderr => some stderr
  | .retriesExhausted _ source => source.stderr
  | .context _ source => source.stderr
  | _ => none

end Error

end HostAgent
