import HostAgent.Pass

/-!
# What a host can do

The agent touches a host through three capabilities: running commands, using files, and waiting.
Each is a class over the type of the host's state, so that a pass runs alike on every host that has
them. Looking at files does not change the host.

* `Commands`, `Files`, `Clock` -- the capabilities; `Host` -- all three;
* `runCommand`, `writeFile`, … -- the same as passes;
* `convergeFile` -- a file made to hold given contents, and whether that was a change.
-/

namespace HostAgent

/-! ## 1. Capabilities -/

/-- A program with its arguments. -/
structure CommandLine where
  name : String
  args : List String
  deriving DecidableEq, Repr

/-- The command line as it is shown. -/
def CommandLine.text (c : CommandLine) : String :=
  if c.args.isEmpty then c.name else c.name ++ " " ++ Text.join " " c.args

/-- What a successful command wrote. -/
structure Output where
  stdout : String
  stderr : String
  deriving DecidableEq, Repr, Inhabited

/-- A host that runs commands. A command that fails is an error. -/
class Commands (S : Type) where
  run : CommandLine → S → Except Error Output × S

/-- A host with files. -/
class Files (S : Type) where
  /-- the contents of a file -/
  contents : S → Path → Except Fault Bytes
  /-- something goes by that path, be it a dangling link -/
  present : S → Path → Bool
  /-- the entries of a directory, in order -/
  entries : S → Path → Except Fault (List Path)
  /-- where the links lead -/
  destination : S → Path → Except Fault Path
  /-- make the file hold the bytes -/
  write : Path → Bytes → S → Except Error Unit × S
  /-- make a link to the first path at the second one -/
  link : Path → Path → S → Except Error Unit × S
  /-- make the second file hold what the first one does -/
  copy : Path → Path → S → Except Error Unit × S

/-- A host on which time passes. -/
class Clock (S : Type) where
  sleep : (milliseconds : UInt64) → S → S

/-- A host with every capability. -/
class Host (S : Type) extends Commands S, Files S, Clock S

/-! ## 2. Capabilities as passes -/

variable {S : Type}

/-- Run a command. -/
def runCommand [Commands S] (name : String) (args : List String) : Pass S Output :=
  Commands.run ⟨name, args⟩

/-- A fault with the path that it is about. -/
def atPath {α : Type} (path : Path) (r : Except Fault α) : Except Error α :=
  r.mapError (.io path.text)

/-- Read a file. -/
def loadFile [Files S] (path : Path) : Pass S Bytes :=
  fun s => (atPath path (Files.contents s path), s)

/-- Whether something goes by a path. -/
def filePresent [Files S] (path : Path) : Pass S Bool := Pass.look fun s => Files.present s path

/-- List a directory. -/
def listDirectory [Files S] (path : Path) : Pass S (List Path) :=
  fun s => (atPath path (Files.entries s path), s)

/-- Follow links to where they lead. -/
def followLinks [Files S] (path : Path) : Pass S Path :=
  fun s => (atPath path (Files.destination s path), s)

/-- Write a file. -/
def writeFile [Files S] (path : Path) (contents : Bytes) : Pass S Unit := Files.write path contents

/-- Make a link. -/
def makeLink [Files S] (target link : Path) : Pass S Unit := Files.link target link

/-- Copy a file. -/
def copyFile [Files S] (source target : Path) : Pass S Unit := Files.copy source target

/-- Wait. -/
def sleep [Clock S] (milliseconds : UInt64) : Pass S Unit := Pass.change (Clock.sleep milliseconds)

/-- The text in some contents of a file. -/
def textOf (path : Path) (contents : Bytes) : Except Error String :=
  match Utf8.decode contents with
  | .ok s => .ok s
  | .error fault => .error (.io path.text (.notText fault))

/-- Read a file that holds text. -/
def readText [Files S] (path : Path) : Pass S String := do
  let contents ← loadFile path
  Pass.ofResult (textOf path contents)

/-! ## 3. Convergence of one file -/

/-- The file is there, can be read and holds exactly the bytes. -/
def holds [Files S] (s : S) (path : Path) (contents : Bytes) : Bool :=
  Files.present s path &&
    match Files.contents s path with
    | .ok existing => existing == contents
    | .error _ => false

/-- Make a file hold the bytes; the answer is whether that was a change. A dry run gives the answer
    and leaves the file alone. -/
def convergeFile [Files S] (path : Path) (contents : Bytes) (dryRun : Bool) : Pass S Bool := do
  if ← Pass.look fun s => holds s path contents then
    return false
  if dryRun then
    return true
  writeFile path contents
  return true

end HostAgent
