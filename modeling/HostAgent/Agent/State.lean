import HostAgent.Disk.Ephemeral
import HostAgent.Net.Phase

/-!
# A running agent

The host that the agent works on, and what it remembers from one pass to the next: how far the last
pass over the network got, and whose name new partitions bear. What the host can do, the agent can
do.

* `run_host`, `write_host`, … -- a capability touches the host and leaves the memory alone.
-/

namespace HostAgent

/-- An agent at work on a host. -/
structure Agent (H : Type) where
  host : H
  /-- how far the last pass over the network got -/
  phase : Net.Phase := .idle
  /-- the owner after whom partitions are named -/
  owner : String := ""

namespace Agent

variable {H : Type}

/-- The agent with what became of its host. -/
def after {α : Type} (a : Agent H) (r : α × H) : α × Agent H := (r.1, { a with host := r.2 })

instance [Commands H] : Commands (Agent H) where
  run c a := a.after (Commands.run c a.host)

instance [Files H] : Files (Agent H) where
  contents a := Files.contents a.host
  present a := Files.present a.host
  entries a := Files.entries a.host
  destination a := Files.destination a.host
  write path contents a := a.after (Files.write path contents a.host)
  link target path a := a.after (Files.link target path a.host)
  copy source target a := a.after (Files.copy source target a.host)

instance [Clock H] : Clock (Agent H) where
  sleep ms a := { a with host := Clock.sleep ms a.host }

instance [Host H] : Host (Agent H) where

theorem run_host [Commands H] (c : CommandLine) (a : Agent H) :
    Commands.run c a = ((Commands.run c a.host).1, { a with host := (Commands.run c a.host).2 }) :=
  rfl

theorem write_host [Files H] (path : Path) (contents : Bytes) (a : Agent H) :
    Files.write path contents a
      = ((Files.write path contents a.host).1,
        { a with host := (Files.write path contents a.host).2 }) := rfl

theorem sleep_host [Clock H] (ms : UInt64) (a : Agent H) :
    Clock.sleep ms a = { a with host := Clock.sleep ms a.host } := rfl

end Agent

/-- Remember whose name partitions bear from now on. -/
def setOwner {H : Type} (owner : String) : Pass (Agent H) Unit :=
  Pass.change fun a => { a with owner }

/-- Remember the owner that an identity file names, if it names one. -/
def rememberOwner {H : Type} [Files H] (identityPath : Path) : Pass (Agent H) Unit :=
  Pass.change fun a =>
    match Disk.agentId a.host identityPath with
    | .ok owner => { a with owner }
    | .error _ => a

end HostAgent
