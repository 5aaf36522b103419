import HostAgent.Settings.Document

/-!
# Failures of the agent

What the agent reports when it gives up: the failure of a pass, of the settings or of its own
configuration, and the steps that it made fail.

* `Failure.chain` -- the failure in words, from the outermost step to the innermost cause;
* `Failure.report` -- the same as it is shown.
-/

namespace HostAgent

/-- Why the agent gives up. -/
inductive Failure where
  /-- a pass failed -/
  | pass (e : Error)
  /-- the settings cannot be used -/
  | settings (e : SettingsError)
  /-- a file of the agent cannot be read -/
  | unreadable (fault : Fault)
  /-- a file of the agent is not what it should be -/
  | malformed
  /-- a step failed -/
  | during (step : String) (cause : Failure)
  deriving DecidableEq, Repr

namespace Failure

/-- The failure and what lies below it, in words, outermost first. -/
def chain : Failure → List String
  | .pass e => e.chain
  | .settings e => e.chain
  | .unreadable fault => [fault.message]
  | .malformed => [jsonReason]
  | .during step cause => step :: cause.chain

/-- A text whose lines but the first are indented. -/
def indented (indent : String) (text : String) : String :=
  Text.join ("\n" ++ indent) ((Text.splitOn '\n' text.toList).map String.ofList)

/-- A number in five columns, to the right. -/
def column (n : Nat) : String :=
  String.ofList (List.replicate (5 - (Decimal.write n).length) ' ') ++ Decimal.text n

/-- The causes; several are numbered. -/
def causeLines : List String → List String
  | [] => []
  | [cause] => ["", "Caused by:", "    " ++ indented "    " cause]
  | causes =>
    ["", "Caused by:"] ++ causes.zipIdx.map fun c =>
      column c.2 ++ ": " ++ indented "       " c.1

/-- The failure as it is shown. -/
def report (f : Failure) : String :=
  match f.chain with
  | [] => "Error: "
  | first :: causes => Text.join "\n" (("Error: " ++ first) :: causeLines causes)

end Failure

end HostAgent
