import HostAgent.Agent.Invocation
import HostAgent.Agent.Reconcile

/-!
# Running a command of the agent

What the agent does when it is called with a list of words, on any host: how it ends, what it prints,
and the report of a failure.

* `Command.run` -- the whole call.
-/

namespace HostAgent

variable {H : Type}

/-- How a call of the agent ends. -/
structure Ending where
  /-- the exit status: zero, one for a failure, two for words that make no sense -/
  status : Nat
  stdout : String := ""
  failure : Option Failure := none
  deriving DecidableEq, Repr

namespace Command

/-- A line for each text. -/
def printed (lines : List String) : String := String.join (lines.map (· ++ "\n"))

/-- The settings that a command acts on. -/
def loadSettings [Host H] (config : AgentConfig) (a : Agent H) : Except Failure Settings :=
  (Settings.load a.host config.settingsPath).mapError fun e =>
    .during ("Failed to load settings from " ++ config.settingsPath.text) (.settings e)

/-- A command that acts on the settings and prints nothing. -/
def onSettings [Host H] (config : AgentConfig) (work : AgentConfig → Settings → Work H Unit) :
    Work H String := fun a =>
  match loadSettings config a with
  | .error f => (.error f, a)
  | .ok settings => ((work config settings a).1.map fun _ => "", (work config settings a).2)

/-- What a command does, and what it prints. -/
def perform [Host H] (config : AgentConfig) : Verb → Work H String
  | .apply => onSettings config Reconcile.apply
  | .network => onSettings config Reconcile.network
  | .partition => onSettings config Reconcile.partition
  | .interfaces => fun a =>
    let (result, a) := Reconcile.interfaces config a
    (result.map printed, a)
  | .deviceSize device => fun a =>
    let (result, a) := Reconcile.deviceSize device a
    (result.map fun size => printed [Decimal.text size.toNat], a)

/-- The end of a command. -/
def ending : Except Failure String → Ending
  | .ok stdout => { status := 0, stdout }
  | .error f => { status := 1, failure := some f }

/-- A command with its options. -/
def invoke [Host H] (i : Invocation) (h : H) : Ending × H :=
  match AgentConfig.load h i.config with
  | .error f => (ending (.error f), h)
  | .ok config =>
    let config := { config with settingsPath := i.settings.getD config.settingsPath }
    let (result, a) := perform config i.verb { host := h }
    (ending result, a.host)

/-- A call of the agent with a list of words; the environment may name a configuration. -/
def run [Host H] (environment : Option String) (words : List String) (h : H) : Ending × H :=
  match Invocation.read environment words with
  | .help => ({ status := 0 }, h)
  | .misuse => ({ status := 2 }, h)
  | .run i => invoke i h

end Command

end HostAgent
