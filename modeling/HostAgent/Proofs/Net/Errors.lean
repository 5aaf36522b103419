import HostAgent.Net.Converge
import HostAgent.Proofs.Errors

/-!
# Errors of the pass over the network

No part of the pass but the steps from phase to phase can end in an error about phases: what goes
wrong there are commands, files, declared networks, and addresses that are not as they should be.

* `computeNetworkConfig_inOrder`, `setupIpv6_inOrder`, `writeNetworkConfigs_inOrder`,
  `validateAddresses_inOrder`, `validateDns_inOrder`, `writeResolvConf_inOrder` -- part by part.
-/

namespace HostAgent.Net

/-! ## 1. What is to be configured -/

section

variable {S : Type} [Files S]

theorem macAt_inOrder (s : S) (entry : Path) : InOrder (macAt s entry) := by
  refine (atPath_inOrder _ _).bind fun contents => ?_
  exact (textOf_inOrder _ contents).bind fun text => .ok _

theorem macsUnder_inOrder (s : S) (directory : Path) : InOrder (macsUnder s directory) := by
  refine ((atPath_inOrder _ _).mapError fun _ h => h).bind fun entries => ?_
  refine Errors.foldlM (fun found entry => ?_) entries _
  unfold addEntry
  split
  · split
    · exact .ok found
    · exact ((macAt_inOrder s entry).mapError fun _ h => h).map _
  · exact .ok found

theorem interfaceOf_inOrder (inferred : Option String) (interfaces : NameMap String)
    (networkName : String) (n : Network) :
    InOrder (interfaceOf inferred interfaces networkName n) := by
  unfold interfaceOf
  split
  · exact .ok _
  · dsimp only
    split
    · exact .ok _
    · exact .error rfl

theorem staticRecord_inOrder (networkName interface mac : String) (n : Network)
    (isDefault : Bool) : InOrder (staticRecord networkName interface mac n isDefault) := by
  unfold staticRecord
  split
  · exact .error rfl
  · exact .ok _

theorem recordsOf_inOrder (networks : Networks) (interfaces : NameMap String) :
    InOrder (recordsOf networks interfaces) := by
  refine Errors.mapM (fun e => ?_) networks.entries
  refine (interfaceOf_inOrder _ _ _ _).bind fun ⟨name, mac⟩ => ?_
  dsimp only
  split
  · exact .ok _
  · exact (staticRecord_inOrder _ _ _ _ _).map _

theorem computeNetworkConfig_inOrder (paths : NetPaths) (networks : Networks) :
    (computeNetworkConfig paths networks : Pass S NetworkConfig).InOrder := by
  have hdetect : (detectMacs paths.sysClassNet : Pass S _).InOrder := fun s => macsUnder_inOrder s _
  refine (hdetect.named _).bind fun found => .ofResult ?_
  exact ((recordsOf_inOrder _ _).mapError fun _ h => h).map _

end

section

variable {H : Type} [Host H] [Orderly H]

/-! ## 2. The resolver, the kernel, files -/

theorem writeResolvConf_inOrder (paths : NetPaths) (networks : Networks) :
    (writeResolvConf paths networks : Pass H Unit).InOrder := by
  have hbase : (writeBase paths networks.nonVip.dnsServers : Pass H Unit).InOrder := by
    unfold writeBase
    split
    · have hfollow : (followLinks paths.resolvConf : Pass H Path).InOrder :=
        fun _ => atPath_inOrder _ _
      refine (hfollow.named _).bind fun target => ?_
      split
      · exact Pass.InOrder.named (copyFile_inOrder _ _) _
      · exact .done ()
    · exact Pass.InOrder.named (writeFile_inOrder _ _) _
  refine hbase.bind fun _ => ?_
  refine (Pass.InOrder.named (makeLink_inOrder _ _) _).bind fun _ => ?_
  exact (Pass.InOrder.named (runCommand_inOrder _ _) _).bind fun _ => .done ()

theorem setupIpv6_inOrder (enable : Bool) :
    (setupIpv6 enable : Pass H Unit).InOrder := by
  unfold setupIpv6
  split
  · refine Pass.InOrder.named (Pass.Errors.forEach (fun switch => ?_) ipv6Switches) _
    exact (Pass.InOrder.named (runCommand_inOrder _ _) _).bind fun _ => .done ()
  · exact .done ()

theorem writeNetworkConfigs_inOrder (paths : NetPaths) (interfaces : String)
    (dhclient : Option String) (dryRun : Bool) :
    (writeNetworkConfigs paths interfaces dhclient dryRun : Pass H Bool).InOrder := by
  refine Pass.Errors.bind (Pass.InOrder.named (convergeFile_inOrder _ _ _) _) fun changed => ?_
  split
  · exact .done _
  · exact (Pass.InOrder.named (convergeFile_inOrder _ _ _) _).bind fun _ => .done _

/-! ## 3. Checks -/

theorem readAddresses_inOrder (stdout : String) : InOrder (readAddresses stdout) := by
  unfold readAddresses
  split
  · exact .ok []
  · split
    · exact .ok _
    · exact .error rfl

theorem resolve_inOrder (address : InterfaceAddress) :
    (address.resolve : Pass H String).InOrder := by
  cases address with
  | immediate interface ip => exact .done ip
  | resolving interface =>
    refine (Pass.InOrder.named (runCommand_inOrder _ _) _).bind fun output => ?_
    refine (Pass.Errors.ofResult (readAddresses_inOrder _)).bind fun addresses => ?_
    split
    · exact .done _
    · exact .fail rfl

theorem validateAddress_inOrder (reported : List SystemAddress) (address : InterfaceAddress) :
    (validateAddress reported address : Pass H Unit).InOrder := by
  unfold validateAddress
  dsimp only
  split
  · exact .fail rfl
  · refine (resolve_inOrder address).bind fun expected => ?_
    split
    · exact .done ()
    · exact .fail rfl

theorem validateAddresses_inOrder (addresses : List InterfaceAddress) :
    (validateAddresses addresses : Pass H Unit).InOrder := by
  have hlist : (getSystemAddresses : Pass H _).InOrder :=
    (Pass.InOrder.named (runCommand_inOrder _ _) _).bind fun output =>
      .ofResult (readAddresses_inOrder _)
  unfold validateAddresses
  split
  · exact .done ()
  · exact (hlist.named _).bind fun reported => .forEach (validateAddress_inOrder reported) _

end

theorem validateDns_inOrder {S : Type} [Files S] (resolvConf : Path) (dnsServers : List String) :
    (validateDns resolvConf dnsServers : Pass S Unit).InOrder := by
  unfold validateDns
  split
  · exact .done ()
  · refine (Pass.InOrder.named (readText_inOrder _) _).bind fun contents => ?_
    split
    · exact .done ()
    · exact .fail rfl

end HostAgent.Net
