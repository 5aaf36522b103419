import HostAgent.Assoc
import HostAgent.Host.Shell

/-!
# A host with a tree of files

A host with the files of a Linux system in memory: directories, regular files, links and programs,
each known by the names that lead to it from the root. Operations fail as the kernel makes them
fail.

* `walk` -- a path is resolved name by name; links are followed on the way, forty at most;
* `makeDirectory`, `remove`, `writeAt`, `linkAt`, `copyAt` -- changes;
* `Tree.exec` -- a program is looked up by path or in the search directories.
-/

namespace HostAgent

/-- What a name leads to. -/
inductive Entry where
  | file (contents : Bytes)
  | directory
  | link (target : String)
  | program (p : Shell.Program)
  deriving DecidableEq, Repr

/-- A place in the tree: the names that lead to it from the root. -/
abbrev Spot := List String

/-- A host with a tree of files. -/
structure Tree where
  entries : List (Spot × Entry) := []
  /-- where relative paths start -/
  workingDirectory : Spot := []
  /-- where programs are looked for -/
  searchPath : List Path := []

namespace Tree

/-! ## 1. Resolving paths -/

/-- What is at a place. The root is a directory. -/
def at? (t : Tree) (s : Spot) : Option Entry :=
  if s = [] then some .directory else Assoc.get? s t.entries

/-- The longest name that the system takes, in bytes. -/
def longestName : Nat := 255

/-- The longest path that the system takes, in bytes. -/
def longestPath : Nat := 4095

/-- The names of a path; a separator at its end asks for a directory, as a dot does. -/
def namesOf (text : String) : List String :=
  let names := ((Text.splitOn '/' text.toList).filter fun n => !n.isEmpty).map String.ofList
  if text.toList.getLast? = some '/' ∧ names ≠ [] then names ++ ["."] else names

/-- Where a path starts: at the root, or at a given place. -/
def startOf (text : String) (relative : Spot) : Spot :=
  if text.toList.head? = some '/' then [] else relative

/-- The most links that are followed on the way. -/
def mostLinks : Nat := 40

/-- Follow names from a place. The answer is where they lead, be there something or not; the last
    name may be a link that is not followed. -/
def walk (t : Tree) (followLast : Bool) (links : Nat) (spot : Spot) (names : List String) :
    Except Errno Spot :=
  match names with
  | [] => .ok spot
  | name :: rest =>
    if t.at? spot ≠ some .directory then .error .notDirectory
    else if name = "." then walk t followLast links spot rest
    else if name = ".." then walk t followLast links spot.dropLast rest
    else if longestName < name.utf8ByteSize then .error .nameTooLong
    else
      match t.at? (spot ++ [name]) with
      | none => if rest = [] then .ok (spot ++ [name]) else .error .noEntry
      | some (.link target) =>
        if rest = [] ∧ !followLast then .ok (spot ++ [name])
        else
          match links with
          | 0 => .error .tooManyLinks
          | links + 1 =>
            walk t followLast links (startOf target spot) (namesOf target ++ rest)
      | some _ => walk t followLast links (spot ++ [name]) rest
  termination_by (links, names.length)

/-- The system takes no empty path and no path that is too long. -/
def accept (p : Path) : Except Errno Unit :=
  if p.text.isEmpty then .error .noEntry
  else if longestPath < p.text.utf8ByteSize then .error .nameTooLong
  else .ok ()

/-- Where a path leads. -/
def locate (t : Tree) (followLast : Bool) (p : Path) : Except Errno Spot := do
  accept p
  t.walk followLast mostLinks (startOf p.text t.workingDirectory) (namesOf p.text)

/-- The place where a path leads and what is there. -/
def find (t : Tree) (followLast : Bool) (p : Path) : Except Errno (Spot × Entry) := do
  let spot ← t.locate followLast p
  match t.at? spot with
  | some e => .ok (spot, e)
  | none => .error .noEntry

/-- The path holds a zero character, which no system call takes. -/
def hasZero (s : String) : Bool := s.toList.contains '\x00'

/-- An answer of the kernel about a path. -/
def about {α : Type} (p : Path) (r : Except Errno α) : Except Fault α :=
  if hasZero p.text then .error .zeroInPath else r.mapError .system

/-- The path of a place. -/
def pathOf (s : Spot) : Path := ⟨"/" ++ Text.join "/" s⟩

/-- The path leads to a directory. -/
def isDirectory (t : Tree) (p : Path) : Bool :=
  match t.find true p with
  | .ok (_, .directory) => true
  | _ => false

/-- Something is at the path, be it a dangling link. -/
def present (t : Tree) (p : Path) : Bool :=
  match about p (t.find false p) with
  | .ok _ => true
  | .error _ => false

/-! ## 2. Looking -/

/-- The contents of a file, as the kernel gives them. -/
def bytesAt (t : Tree) (p : Path) : Except Errno Bytes := do
  match ← t.find true p with
  | (_, .file bs) => .ok bs
  | (_, .directory) => .error .isDirectory
  | _ => .ok []

/-- The contents of a file. -/
def contents (t : Tree) (p : Path) : Except Fault Bytes := about p (t.bytesAt p)

/-- The names in a directory, ascending. -/
def namesIn (t : Tree) (s : Spot) : List String :=
  let names := t.entries.filterMap fun e =>
    if e.1.length = s.length + 1 ∧ s.isPrefixOf e.1 then e.1.getLast? else none
  names.mergeSort fun a b => decide (a ≤ b)

/-- The entries of a directory. -/
def entriesAt (t : Tree) (p : Path) : Except Fault (List Path) :=
  about p do
    match ← t.find true p with
    | (s, .directory) => .ok ((t.namesIn s).map p.join)
    | _ => .error .notDirectory

/-- The path without links that a path leads to. It is found name by name, so that the path may be as
    long as it likes. -/
def destination (t : Tree) (p : Path) : Except Fault Path :=
  about p do
    if p.text.isEmpty then .error .noEntry
    let s ← t.walk true mostLinks (startOf p.text t.workingDirectory) (namesOf p.text)
    if (t.at? s).isSome then .ok (pathOf s) else .error .noEntry

/-! ## 3. Changes -/

/-- Put something at a place. -/
def put (t : Tree) (s : Spot) (e : Entry) : Tree := { t with entries := Assoc.set s e t.entries }

/-- Split a path into the names before the last one and the last one; a separator at the end counts
    for nothing. -/
def lastName? (text : String) : Option (List String × String) :=
  let names := ((Text.splitOn '/' text.toList).filter fun n => !n.isEmpty).map String.ofList
  names.getLast?.map fun last => (names.dropLast, last)

/-- The name leads to a directory without being listed in one. -/
def isDots (name : String) : Bool := name = "." || name = ".."

/-- The directory that the last name of a path text is in, and that name; nothing for the root. -/
def splitFrom (t : Tree) (links : Nat) (relative : Spot) (text : String) :
    Except Errno (Option (Spot × String)) := do
  match lastName? text with
  | none => return none
  | some (before, last) =>
    let s ← t.walk true links (startOf text relative) (before ++ ["."])
    return some (s, last)

/-- The directory that the path's last name is in, and that name; nothing for the root. -/
def splitLast (t : Tree) (p : Path) : Except Errno (Option (Spot × String)) := do
  accept p
  t.splitFrom mostLinks t.workingDirectory p.text

/-- Where something new of the path's last name would be, in a directory that is there. -/
def newSpot (t : Tree) (p : Path) : Except Errno Spot := do
  match ← t.splitLast p with
  | none => .error .exists
  | some (s, last) =>
    if isDots last then .error .exists
    else if longestName < last.utf8ByteSize then .error .nameTooLong
    else if (t.at? (s ++ [last])).isSome then .error .exists
    else .ok (s ++ [last])

/-- Make one directory. -/
def makeDirectory (t : Tree) (p : Path) : Except Errno Tree := do
  let s ← t.newSpot p
  .ok (t.put s .directory)

/-- Make a directory and those above it, for at most `fuel` of them. -/
def makeDirectoriesUpTo : (fuel : Nat) → Path → Tree → Except Errno Unit × Tree
  | 0, _, t => (.ok (), t)
  | fuel + 1, p, t =>
    if p.text.isEmpty then (.ok (), t)
    else
      match t.makeDirectory p with
      | .ok t' => (.ok (), t')
      | .error .noEntry =>
        match p.parent? with
        | none => (.error .noEntry, t)
        | some parent =>
          match makeDirectoriesUpTo fuel parent t with
          | (.error e, t') => (.error e, t')
          | (.ok (), t') =>
            match t'.makeDirectory p with
            | .ok t'' => (.ok (), t'')
            | .error e => if t'.isDirectory p then (.ok (), t') else (.error e, t')
      | .error e => if t.isDirectory p then (.ok (), t) else (.error e, t)

/-- Make a directory and those above it. -/
def makeDirectories (p : Path) (t : Tree) : Except Fault Unit × Tree :=
  if hasZero p.text then (.error .zeroInPath, t)
  else
    let (r, t') := makeDirectoriesUpTo (p.text.length + 1) p t
    (r.mapError .system, t')

/-- Make the directories above a path, and go on if that succeeds. -/
def underParent (p : Path) (t : Tree) (next : Tree → Except Error Unit × Tree) :
    Except Error Unit × Tree :=
  match p.parent? with
  | none => next t
  | some parent =>
    match makeDirectories parent t with
    | (.error fault, t') => (.error (.io parent.text fault), t')
    | (.ok (), t') => next t'

/-- The path text asks for a directory by its last character. -/
def endsInSeparator (text : String) : Bool := text.toList.getLast? = some '/'

/-- Where a file that is opened for writing is, or would be. What asks for a directory, the path or
    a link that its last name is, is refused as one, be there something or not. -/
def openFrom (t : Tree) (links : Nat) (relative : Spot) (text : String) : Except Errno Spot := do
  match ← t.splitFrom links relative text with
  | none => .error .isDirectory
  | some (s, last) =>
    if isDots last ∨ endsInSeparator text then .error .isDirectory
    else if longestName < last.utf8ByteSize then .error .nameTooLong
    else
      match t.at? (s ++ [last]) with
      | some .directory => .error .isDirectory
      | some (.link target) =>
        match links with
        | 0 => .error .tooManyLinks
        | links + 1 => openFrom t links s target
      | _ => .ok (s ++ [last])

/-- Where a file that is opened for writing is, or would be. -/
def openSpot (t : Tree) (p : Path) : Except Errno Spot := do
  accept p
  t.openFrom mostLinks t.workingDirectory p.text

/-- Write a file, without the directories above it. -/
def writeFileAt (p : Path) (bs : Bytes) (t : Tree) : Except Errno Tree := do
  let s ← t.openSpot p
  .ok (t.put s (.file bs))

/-- Write a file, and make the directories above it. -/
def writeAt (p : Path) (bs : Bytes) (t : Tree) : Except Error Unit × Tree :=
  underParent p t fun t =>
    match about p (writeFileAt p bs t) with
    | .ok t' => (.ok (), t')
    | .error fault => (.error (.io p.text fault), t)

/-- Remove what is at a path, unless it is a directory. A link is none, even if it leads to one. -/
def remove (p : Path) (t : Tree) : Except Errno Tree := do
  match ← t.splitLast p with
  | none => .error .isDirectory
  | some (s, last) =>
    if isDots last then .error .isDirectory
    else
      match t.at? (s ++ [last]) with
      | none => .error .noEntry
      | some .directory => .error .isDirectory
      | some _ =>
        if endsInSeparator p.text then .error .notDirectory
        else .ok { t with entries := Assoc.erase (s ++ [last]) t.entries }

/-- The target of the link at a path. -/
def targetAt? (t : Tree) (p : Path) : Option Path :=
  match t.find false p with
  | .ok (_, .link target) => some ⟨target⟩
  | _ => none

/-- Make a new link. -/
def makeLink (target link : Path) (t : Tree) : Except Errno Tree := do
  accept target
  let s ← t.newSpot link
  if endsInSeparator link.text then .error .noEntry
  .ok (t.put s (.link target.text))

/-- Make a new link, and the directories above it. -/
def freshLinkAt (target link : Path) (t : Tree) : Except Error Unit × Tree :=
  underParent link t fun t =>
    match about target (.ok ()) |>.bind fun _ => about link (t.makeLink target link) with
    | .ok t' => (.ok (), t')
    | .error fault => (.error (.io link.text fault), t)

/-- Make a link in the place of whatever is there but a directory. A link that already points there
    is left alone. -/
def linkAt (target link : Path) (t : Tree) : Except Error Unit × Tree :=
  if (t.targetAt? link).any (·.same target) then (.ok (), t)
  else if t.present link then
    match about link (t.remove link) with
    | .error fault => (.error (.io link.text fault), t)
    | .ok t' => freshLinkAt target link t'
  else freshLinkAt target link t

/-- Copy a regular file. A file that is copied to itself is emptied first. -/
def copyFileAt (source target : Path) (t : Tree) : Except Fault Tree := do
  let (s, e) ← about source (t.find true source)
  match e with
  | .directory => .error .notRegular
  | e =>
    let d ← about target (t.openSpot target)
    let bs := match e with
      | .file bs => bs
      | _ => []
    .ok (t.put d (.file (if d = s then [] else bs)))

/-- Copy a file, and make the directories above the copy. -/
def copyAt (source target : Path) (t : Tree) : Except Error Unit × Tree :=
  underParent target t fun t =>
    match copyFileAt source target t with
    | .ok t' => (.ok (), t')
    | .error fault => (.error (.io source.text fault), t)

/-! ## 4. Programs -/

/-- The program at a path. -/
def programAt (t : Tree) (p : Path) : Except Errno Shell.Program := do
  match ← t.find true p with
  | (_, .program program) => .ok program
  | _ => .error .accessDenied

/-- The program of a name in the search directories; one that may not be run is remembered. -/
def searchIn (t : Tree) (name : String) (refusal : Errno) : List Path → Except Errno Shell.Program
  | [] => .error refusal
  | d :: ds =>
    match t.programAt (d.join name) with
    | .ok program => .ok program
    | .error .accessDenied => searchIn t name .accessDenied ds
    | .error _ => searchIn t name refusal ds

/-- The program that a name stands for: a path, or a name in the search directories. -/
def programOf (t : Tree) (name : String) : Except Errno Shell.Program :=
  if name.isEmpty then .error .noEntry
  else if name.toList.contains '/' then t.programAt ⟨name⟩
  else t.searchIn name .noEntry t.searchPath

/-- Run a command to its end. -/
def exec (t : Tree) (c : CommandLine) : Except Error Output :=
  if hasZero c.text then .error (.commandSpawn c.text .zeroInCommand)
  else
    match t.programOf c.name with
    | .error e => .error (.commandSpawn c.text (.system e))
    | .ok program =>
      let ended := program.run (fun text => t.bytesAt ⟨text⟩) c.name c.args
      let stdout := Utf8.lossy ended.streams.stdout
      let stderr := Utf8.lossy ended.streams.stderr
      if ended.exit = .code 0 then .ok ⟨stdout, stderr⟩
      else .error (.commandFailed c.text ended.exit.status stdout stderr)

instance : Host Tree where
  run c t := (t.exec c, t)
  contents := contents
  present := present
  entries := entriesAt
  destination := destination
  write := writeAt
  link := linkAt
  copy := copyAt
  sleep _ t := t

/-! ## 5. Making trees -/

/-- Put something at a place, and directories above it. -/
def plant (t : Tree) (s : Spot) (e : Entry) : Tree :=
  let above := (List.range s.length).map fun n => s.take n
  (above.foldl (fun t a => if (t.at? a).isSome then t else t.put a .directory) t).put s e

/-- What is below a place, by the names that lead there from it. -/
def below (t : Tree) (s : Spot) : List (Spot × Entry) :=
  t.entries.filterMap fun e =>
    if s.length < e.1.length ∧ s.isPrefixOf e.1 then some (e.1.drop s.length, e.2) else none

/-- A system with its programs in one directory, and an empty directory to work in. -/
def system (workingDirectory : Spot) : Tree :=
  let base : Tree := { workingDirectory, searchPath := [⟨"/bin"⟩] }
  let withPrograms := Shell.Program.all.foldl
    (fun t program => t.plant ["bin", program.name] (.program program)) base
  withPrograms.plant workingDirectory .directory

end Tree

end HostAgent
