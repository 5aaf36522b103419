import HostAgent.Agent.Command
import HostAgent.Host.Tree

/-!
# The command line

The agent as a program. It works on an image of the host: the files that the call and the
configuration name are read from disk, the pass runs over them, and files that it has changed are
written back. Programs are not started from here, so a step that needs one reports that it is not
there.
-/

namespace HostAgent.Main

open HostAgent

/-- An image with one more file from disk, if there is one. -/
def addFile (image : Tree) (path : Path) : IO Tree := do
  try
    let bytes ← IO.FS.readBinFile path.text
    return image.plant (Tree.namesOf path.text) (.file bytes.toList)
  catch _ =>
    return image

/-- The image of the files that a call names. -/
def imageFor (paths : List Path) : IO Tree :=
  paths.foldlM addFile { workingDirectory := [] }

/-- The files that the configuration names. -/
def namedFiles (config : AgentConfig) : List Path :=
  [config.settingsPath, config.identityPath, config.network.interfaces,
    config.network.dhclientConf, config.network.resolvConf, config.network.resolvconfBase]

/-- Write back the files of an image that differ from another one. -/
def writeBack (before after : Tree) : IO Unit := do
  for (spot, entry) in after.entries do
    match entry with
    | .file bytes =>
      if before.at? spot ≠ some entry then
        IO.FS.writeBinFile (Tree.pathOf spot).text (ByteArray.mk bytes.toArray)
    | _ => pure ()

/-- Run a command on the image of the host. -/
def invoke (i : Invocation) : IO Ending := do
  let first ← imageFor i.config.toList
  let config := match AgentConfig.load first i.config with
    | .ok config => config
    | .error _ => {}
  let image ← imageFor (i.config.toList ++ i.settings.toList ++ namedFiles config)
  let (ending, after) := Command.invoke i image
  writeBack image after
  return ending

end HostAgent.Main

/-- The agent as a program. -/
def main (words : List String) : IO UInt32 := do
  let environment ← IO.getEnv "CIRRUS_CONFIG"
  match HostAgent.Invocation.read environment words with
  | .help =>
    IO.println "usage: [-c PATH] [-s PATH] [-v] apply|network|partition|interfaces|device-size DEVICE"
    return 0
  | .misuse =>
    IO.eprintln "usage: [-c PATH] [-s PATH] [-v] apply|network|partition|interfaces|device-size DEVICE"
    return 2
  | .run i =>
    let ending ← HostAgent.Main.invoke i
    IO.print ending.stdout
    match ending.failure with
    | some f => IO.eprintln f.report
    | none => pure ()
    return UInt32.ofNat ending.status
