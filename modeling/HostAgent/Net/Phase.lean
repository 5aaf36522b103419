import HostAgent.Error

/-!
# Phases of a pass over the network

How far a pass got. A pass that changes nothing goes from idle to validated at once.

* `Phase.canBecome` -- the steps that a pass may take; `Phase.advance` -- one of them.
-/

namespace HostAgent.Net

/-- How far a pass over the network got. -/
inductive Phase where
  | idle
  /-- interfaces are down -/
  | stopped
  /-- configuration files hold the new contents -/
  | written
  /-- interfaces are up again -/
  | started
  | validated
  deriving DecidableEq, Repr, Inhabited

namespace Phase

/-- The name of the phase. -/
def name : Phase → String
  | .idle => "idle"
  | .stopped => "stopped"
  | .written => "written"
  | .started => "started"
  | .validated => "validated"

/-- All phases in order. -/
def all : List Phase := [.idle, .stopped, .written, .started, .validated]

/-- The phase may be followed by the other. -/
def canBecome : Phase → Phase → Bool
  | .idle, .stopped => true
  | .stopped, .written => true
  | .written, .started => true
  | .started, .validated => true
  | .idle, .validated => true
  | _, _ => false

/-- The next phase, or an error when it is out of order. -/
def advance (current next : Phase) : Except Error Phase :=
  if current.canBecome next then .ok next
  else .error (.invalidTransition current.name next.name)

end Phase

end HostAgent.Net
