import HostAgent.Net.Record

/-!
# The configuration files

The texts that are written to disk. The same configuration always gives the same bytes, so that a
comparison with what is there decides whether interfaces have to go down.

* `interfacesFile` -- one stanza per interface, then what holds for all;
* `dhclientFile`, `resolvFile` -- name servers for leased addresses and for the resolver.
-/

namespace HostAgent.Net

/-- A text of lines, each of which ends in a line feed. -/
def ofLines (lines : List String) : String := String.join (lines.map (· ++ "\n"))

/-- The first line of every file. -/
def header : String := "# Generated by cirrus-agent"

/-! ## 1. Interfaces -/

/-- A route that is added when an interface comes up. -/
def routeLine (r : Route) : String :=
  "post-up route add -net " ++ r.destination ++ " netmask " ++ r.netmask ++ " gw " ++ r.gateway

/-- The stanza of an interface with a leased address. -/
def dhcpStanza (r : DhcpRecord) : List String :=
  ["", "auto " ++ r.name, "iface " ++ r.name ++ " inet dhcp"] ++ r.routes.map routeLine

/-- The lines about the default gateway; IPv6 has no broadcast address. -/
def gatewayLines (r : StaticRecord) : List String :=
  if r.isDefaultForGateway then
    (if r.isVersion6 then [] else ["    broadcast " ++ r.broadcast]) ++ ["    gateway " ++ r.gateway]
  else []

/-- The stanza of an interface with a fixed address. -/
def staticStanza (r : StaticRecord) : List String :=
  ["", "auto " ++ r.name,
    "iface " ++ r.name ++ (if r.isVersion6 then " inet6" else " inet") ++ " static",
    "    address " ++ r.address]
  ++ (if r.isVersion6 then [] else ["    network " ++ r.network])
  ++ ["    netmask " ++ r.netmask]
  ++ gatewayLines r
  ++ r.routes.map fun route => "    " ++ routeLine route

/-- What holds for all interfaces. -/
def footer (statics : List StaticRecord) (dnsServers : List String) : List String :=
  [""]
  ++ (if statics.any StaticRecord.isVersion6 then ["accept_ra 1"] else [])
  ++ (if dnsServers.isEmpty then [] else ["dns-nameservers " ++ Text.join " " dnsServers])

/-- The interfaces file. Both lists are sorted by interface name. -/
def interfacesFile (dhcps : List DhcpRecord) (statics : List StaticRecord)
    (dnsServers : List String) : String :=
  ofLines
    ([header, "auto lo", "iface lo inet loopback"] ++ dhcps.flatMap dhcpStanza
      ++ statics.flatMap staticStanza ++ footer statics dnsServers)

/-! ## 2. Name servers -/

/-- What every DHCP client configuration says. -/
def dhclientPreamble : List String :=
  ["option rfc3442-classless-static-routes code 121 = array of unsigned integer 8;",
   "",
   "send host-name = gethostname();",
   "",
   "request subnet-mask, broadcast-address, time-offset, routers,",
   "\tdomain-name, domain-name-servers, domain-search, host-name,",
   "\tnetbios-name-servers, netbios-scope, interface-mtu,",
   "\trfc3442-classless-static-routes, ntp-servers;"]

/-- The DHCP client configuration, which puts the given servers first. -/
def dhclientFile (dnsServers : List String) : String :=
  ofLines
    ([header, ""] ++ dhclientPreamble
      ++ if dnsServers.isEmpty then []
        else ["", "prepend domain-name-servers " ++ Text.join ", " dnsServers ++ ";"])

/-- The resolver configuration. -/
def resolvFile (dnsServers : List String) : String :=
  ofLines (header :: dnsServers.map fun server => "nameserver " ++ server)

namespace NetworkConfig

/-- The interfaces file of a configuration. -/
def interfaces (c : NetworkConfig) : String := interfacesFile c.dhcps c.statics c.dnsServers

/-- The DHCP client file of a configuration, when some address is leased. -/
def dhclient? (c : NetworkConfig) : Option String :=
  if c.dhcps.isEmpty then none else some (dhclientFile c.dnsServers)

end NetworkConfig

end HostAgent.Net
