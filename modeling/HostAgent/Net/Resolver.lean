import HostAgent.Agent.Config
import HostAgent.Net.Render

/-!
# The resolver

Name servers go into the base file of `resolvconf`, and the resolver configuration becomes a link to
the file that it makes. Without servers, a resolver configuration that was made by hand is kept as
the base.

* `writeResolvConf` -- the resolver configuration for networks;
* `validateDns` -- whether a desired server is configured.
-/

namespace HostAgent.Net

variable {S : Type}

/-- Keep a resolver configuration that is a file of its own as the base. -/
def keepResolvConf [Files S] (paths : NetPaths) : Pass S Unit := do
  let target ← (followLinks paths.resolvConf).within ("Reading " ++ paths.resolvConf.text)
  if target.same paths.resolvConf then
    (copyFile paths.resolvConf paths.resolvconfBase).within
      ("Copying resolv.conf to " ++ paths.resolvconfBase.text)

/-- Put the servers into the base, or keep what is there when there are none. -/
def writeBase [Files S] (paths : NetPaths) (dnsServers : List String) : Pass S Unit :=
  if dnsServers.isEmpty then keepResolvConf paths
  else
    (writeFile paths.resolvconfBase (Utf8.encode (resolvFile dnsServers))).within
      ("Writing to " ++ paths.resolvconfBase.text)

/-- Write the resolver configuration for networks. -/
def writeResolvConf [Commands S] [Files S] (paths : NetPaths) (networks : Networks) :
    Pass S Unit := do
  writeBase paths networks.nonVip.dnsServers
  (makeLink paths.resolvconfRun paths.resolvConf).within ("Linking " ++ paths.resolvConf.text)
  let _ ← (runCommand "resolvconf" ["-u"]).within "Updating resolvconf"
  return ()

/-- Some desired server occurs in the resolver configuration. -/
def mentionsServer (dnsServers : List String) (contents : String) : Bool :=
  dnsServers.any fun server => Text.hasPart server contents

/-- Check that a desired server is configured, when there are any. -/
def validateDns [Files S] (resolvConf : Path) (dnsServers : List String) : Pass S Unit := do
  if dnsServers.isEmpty then
    return ()
  let contents ← (readText resolvConf).within ("Reading " ++ resolvConf.text)
  if mentionsServer dnsServers contents then
    return ()
  Pass.fail (.dnsNotConfigured dnsServers)

end HostAgent.Net
