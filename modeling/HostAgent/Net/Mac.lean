import HostAgent.Host
import HostAgent.NameMap
import HostAgent.Text.LetterCase

/-!
# Interfaces by MAC address

The physical interfaces of a host: the entries of a directory that have a device, each with a file
that holds its address.

* `detectMacs` -- the names of interfaces by their MAC addresses in lower case.
-/

namespace HostAgent.Net

variable {S : Type}

/-- The address of an interface, from the file under its entry. -/
def macAt [Files S] (s : S) (entry : Path) : Except Error String := do
  let path := entry.join "address"
  let contents ← atPath path (Files.contents s path)
  let text ← textOf path contents
  .ok (Text.lowercase (Text.trimmed text))

/-- A failure to read the address of an interface. -/
def addressStep (name : String) (r : Except Error String) : Except Error String :=
  r.mapError (.context ("Reading MAC address of '" ++ name ++ "'"))

/-- The interfaces found so far, with the one of another entry if it has a device. -/
def addEntry [Files S] (s : S) (found : NameMap String) (entry : Path) :
    Except Error (NameMap String) :=
  if Files.present s (entry.join "device") then
    match entry.fileName? with
    | none => .ok found
    | some name => (addressStep name (macAt s entry)).map fun mac => found.insert mac name
  else .ok found

/-- The interfaces under a directory. -/
def macsUnder [Files S] (s : S) (directory : Path) : Except Error (NameMap String) := do
  let entries ← (atPath directory (Files.entries s directory)).mapError
    (.context "Listing network interfaces")
  entries.foldlM (addEntry s) NameMap.empty

/-- The physical interfaces of the host. -/
def detectMacs [Files S] (directory : Path) : Pass S (NameMap String) :=
  fun s => (macsUnder s directory, s)

end HostAgent.Net
