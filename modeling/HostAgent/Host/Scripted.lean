import HostAgent.Assoc
import HostAgent.Host

/-!
# A host that follows a script

A host in memory: commands are recorded and answered from a script, files live in a table, and time
does not pass, though every request to wait is recorded. Whole passes run on it without touching
anything.

* `Scripted.runLine` -- a command line is answered by the next result queued for it, else by the
  standing one, else it succeeds and writes nothing;
* `Scripted.resolve` -- a path is followed through at most sixteen links, each for a whole path;
* `Scripted.present` -- what is there: files, directories, links, and whatever is above them.

Places are compared by components, so the spelling of a path that was stored never shows.
-/

namespace HostAgent

/-! ## 1. The state of the host -/

/-- A scripted outcome of a command. -/
structure Reply where
  stdout : String := ""
  stderr : String := ""
  exitCode : Int := 0
  /-- the program cannot be started at all -/
  spawnError : Bool := false
  deriving DecidableEq, Repr, Inhabited

namespace Reply

/-- A command that succeeds. -/
def success (stdout : String) : Reply := { stdout }

/-- A command that fails. -/
def failure (exitCode : Int) (stderr : String) : Reply := { exitCode, stderr }

/-- A command that cannot be started. -/
def spawnFailure : Reply := { spawnError := true, exitCode := -1 }

/-- The outcome as the result of a command line. -/
def result (r : Reply) (command : String) : Except Error Output :=
  if r.spawnError then .error (.commandSpawn command (.said "no such file or directory"))
  else if r.exitCode ≠ 0 then .error (.commandFailed command r.exitCode r.stdout r.stderr)
  else .ok ⟨r.stdout, r.stderr⟩

end Reply

/-- A host in memory. -/
structure Scripted where
  /-- the command lines that were run, in order -/
  commands : List String := []
  /-- replies that are used once each, in order -/
  queued : List (String × List Reply) := []
  /-- replies that stay -/
  standing : List (String × Reply) := []
  files : List (Place × Bytes) := []
  directories : List Place := []
  links : List (Place × Path) := []
  /-- how often each path was written -/
  writes : List (Place × Nat) := []
  /-- paths that cannot be written -/
  readOnly : List Place := []
  /-- the pauses that were asked for, in order -/
  sleeps : List UInt64 := []

namespace Scripted

/-! ## 2. Commands -/

/-- The reply to a command line, and the script without it when it was queued. -/
def answer (h : Scripted) (line : String) : Reply × Scripted :=
  match Assoc.get? line h.queued with
  | some (r :: more) => (r, { h with queued := Assoc.set line more h.queued })
  | _ => ((Assoc.get? line h.standing).getD {}, h)

/-- Record a command line and answer it. -/
def runLine (line : String) (h : Scripted) : Except Error Output × Scripted :=
  let (reply, h') := answer { h with commands := h.commands ++ [line] } line
  (reply.result line, h')

/-- Answer the next such command line with a reply. -/
def queue (line : String) (reply : Reply) (h : Scripted) : Scripted :=
  { h with queued := Assoc.set line ((Assoc.get? line h.queued).getD [] ++ [reply]) h.queued }

/-- Answer every such command line with a reply once none is queued. -/
def stand (line : String) (reply : Reply) (h : Scripted) : Scripted :=
  { h with standing := Assoc.set line reply h.standing }

/-- The recorded command lines that start with a text. -/
def commandsStartingWith (start : String) (h : Scripted) : List String :=
  h.commands.filter (Text.hasStart start)

/-! ## 3. Looking at files -/

/-- Follow at most a number of links. -/
def follow (links : List (Place × Path)) : (fuel : Nat) → Path → Path
  | 0, p => p
  | fuel + 1, p =>
    match Assoc.get? p.components links with
    | some target => follow links fuel target
    | none => p

/-- Where a path leads. -/
def resolve (h : Scripted) (p : Path) : Path := follow h.links 16 p

/-- Every place that was made. -/
def places (h : Scripted) : List Place := Assoc.keys h.files ++ h.directories ++ Assoc.keys h.links

/-- The place was made, or is above one that was. -/
def presentAt (h : Scripted) (p : Place) : Bool := h.places.any fun q => p.isPrefixOf q

/-- The contents of the file that a path leads to. -/
def fileAt? (h : Scripted) (p : Path) : Option Bytes := Assoc.get? (h.resolve p).components h.files

/-- The contents as text, with a mark for what is none. -/
def textAt? (h : Scripted) (p : Path) : Option String := (h.fileAt? p).map Utf8.lossy

/-- What the link at a path points to. -/
def linkAt? (h : Scripted) (p : Path) : Option Path := Assoc.get? p.components h.links

/-- How often a path was written. -/
def writeCount (h : Scripted) (p : Path) : Nat := (Assoc.get? p.components h.writes).getD 0

/-- A component put into an ascending list, unless it is there. -/
def insertComponent (c : Component) : List Component → List Component
  | [] => [c]
  | x :: l => if c = x then x :: l else if c.before x then c :: x :: l else x :: insertComponent c l

/-- The first components below a place, ascending. -/
def children (h : Scripted) (p : Place) : List Component :=
  (h.places.filterMap fun q => (Place.below? p q).bind List.head?).foldr insertComponent []

/-! ## 4. Making files -/

/-- Put a file there. -/
def putFile (p : Path) (contents : Bytes) (h : Scripted) : Scripted :=
  { h with files := Assoc.set p.components contents h.files }

/-- Put a directory there. -/
def putDirectory (p : Path) (h : Scripted) : Scripted :=
  if p.components ∈ h.directories then h
  else { h with directories := h.directories ++ [p.components] }

/-- Put a link there. -/
def putLink (target link : Path) (h : Scripted) : Scripted :=
  { h with links := Assoc.set link.components target h.links }

/-- Make a path fail to be written. -/
def failWrites (p : Path) (h : Scripted) : Scripted :=
  { h with readOnly := p.components :: h.readOnly }

/-- Write the file that a path leads to, unless the path is one that cannot be written. -/
def writeAt (p : Path) (contents : Bytes) (h : Scripted) : Except Error Unit × Scripted :=
  if p.components ∈ h.readOnly then (.error (.io p.text (.said "permission denied")), h)
  else
    (.ok (),
      { h with
        files := Assoc.set (h.resolve p).components contents h.files
        writes := Assoc.set p.components (h.writeCount p + 1) h.writes })

/-- Put a link in the place of a file. -/
def linkAt (target link : Path) (h : Scripted) : Except Error Unit × Scripted :=
  (.ok (),
    { h with
      files := Assoc.erase link.components h.files
      links := Assoc.set link.components target h.links })

/-! ## 5. Interfaces -/

/-- The file with the MAC address of an interface. -/
def putAddress (directory : Path) (name mac : String) (h : Scripted) : Scripted :=
  h.putFile ((directory.join name).join "address") (Utf8.encode (mac ++ "\n"))

/-- A physical interface under a directory: it has a device. -/
def addNetworkDevice (directory : Path) (name mac : String) (h : Scripted) : Scripted :=
  (h.putDirectory ((directory.join name).join "device")).putAddress directory name mac

/-- A virtual interface under a directory. -/
def addVirtualDevice (directory : Path) (name mac : String) (h : Scripted) : Scripted :=
  h.putAddress directory name mac

/-! ## 6. Capabilities -/

/-- The contents of the file that a path leads to, or that there is none. -/
def contents (h : Scripted) (p : Path) : Except Fault Bytes :=
  match h.fileAt? p with
  | some bs => .ok bs
  | none => .error (.said "file not found")

/-- The entries under a path. -/
def entries (h : Scripted) (p : Path) : Except Fault (List Path) :=
  if h.presentAt p.components then
    .ok ((h.children p.components).map fun c => p.join c.text)
  else .error (.said "directory not found")

/-- Where a path leads, if something is there. -/
def destination (h : Scripted) (p : Path) : Except Fault Path :=
  if h.presentAt (h.resolve p).components then .ok (h.resolve p) else .error (.said "file not found")

/-- Write a file with what another one holds. -/
def copyAt (source target : Path) (h : Scripted) : Except Error Unit × Scripted :=
  match h.contents source with
  | .ok bs => h.writeAt target bs
  | .error fault => (.error (.io source.text fault), h)

instance : Host Scripted where
  run c := runLine c.text
  contents := contents
  present h p := h.presentAt p.components
  entries := entries
  destination := destination
  write := writeAt
  link := linkAt
  copy := copyAt
  sleep ms h := { h with sleeps := h.sleeps ++ [ms] }

end Scripted

end HostAgent
