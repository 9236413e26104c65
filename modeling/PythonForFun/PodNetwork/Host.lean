import PythonForFun.Lib.Routing
import PythonForFun.Lib.Script

set_option relaxedAutoImplicit false
set_option autoImplicit false

/-!
# The hosts of the pod network

Two virtual machines, each with a bridge `br0` and two pods. A pod is a network namespace whose
`eth0` is one end of a veth pair; the other end is a port of the bridge. The network scripts
run `/sbin/ifup-local` with the name of each interface they bring up; for `br0` it creates the
pods, makes `eth1` a port of the bridge and moves the route for the wire from `eth1` to `br0`.
It goes on after a failure, so that it may be run again.

The two hosts run the same script with different values.

## Main definitions

* `PodNetwork.Host`, `PodNetwork.Cmd`, `PodNetwork.exec` — the state of a host, the commands of
  the script, and their effect.
* `PodNetwork.host1`, `PodNetwork.host2` — the values of the two hosts.
* `PodNetwork.ifupLocal` — the script.
* `PodNetwork.booted` — a host before its first run.
-/

namespace PythonForFun.PodNetwork

/-! ## Addresses and routes -/

/-- An IPv4 address. -/
abbrev Addr := BitVec 32

instance (a : Addr) (l : List Addr) : Decidable (a ∈ l) := List.instDecidableMemOfLawfulBEq a l

/-- The address `a.b.c.d`. -/
def ip (a b c d : ℕ) : Addr := BitVec.ofNat 32 (((a * 256 + b) * 256 + c) * 256 + d)

/-- A network: an address and the length of its prefix. -/
structure Net where
  addr : Addr
  len : ℕ
  deriving DecidableEq

/-- The address begins with the prefix of the network. -/
def Net.covers (n : Net) (a : Addr) : Bool :=
  n.addr >>> (32 - n.len) == a >>> (32 - n.len)

/-- The network of an address with the given prefix length. -/
def netOf (a : Addr) (len : ℕ) : Net := ⟨(a >>> (32 - len)) <<< (32 - len), len⟩

/-- A route. -/
abbrev Route := Routing.Route Net Addr String

/-- The route of a table for an address. -/
abbrev lookup (routes : List Route) (a : Addr) : Option Route :=
  Routing.lookup Net.covers Net.len routes a

/-- `ip route add dst [via gw] [dev d]`: it fails when the table has a route for `dst`, when the
device is down, and when the gateway is not on the link of a device. -/
def addRoute (routes : List Route) (up : List String) (dst : Net) (via : Option Addr)
    (dev : Option String) : Option (List Route) :=
  if dst ∈ routes.map Routing.Route.dst then none
  else match via, dev with
    | none, none => none
    | none, some d => if d ∈ up then some (⟨dst, none, d⟩ :: routes) else none
    | some gw, dev =>
      match lookup routes gw with
      | none => none
      | some r =>
        if r.via = none ∧ (dev = none ∨ dev = some r.dev) then
          some (⟨dst, some gw, r.dev⟩ :: routes)
        else none

/-! ## The state of a host -/

/-- A network namespace: whether it has an `eth0` and that is up, the addresses of `eth0`, and
the routes. -/
structure Netns where
  name : String
  eth0 : Bool
  up : Bool
  addrs : List Addr
  routes : List Route

/-- The state of a host: its namespaces; the links of the root namespace, which of them are up,
ports of `br0`, or promiscuous; their hardware addresses; and the addresses, the routes and
`net.ipv4.ip_forward` of the root namespace. -/
structure Host where
  netns : List Netns
  links : List String
  up : List String
  ports : List String
  promisc : List String
  mac : String → String
  addrs : List Addr
  routes : List Route
  ipForward : Bool

/-- A name added to a list of names that may have it. -/
def insertName (d : String) (names : List String) : List String :=
  if d ∈ names then names else names ++ [d]

/-- The namespace with the name, changed. -/
def Host.atNetns (s : Host) (name : String) (f : Netns → Option Netns) : Option Host :=
  match s.netns.find? fun ns => ns.name == name with
  | none => none
  | some ns =>
    match f ns with
    | none => none
    | some ns' =>
      some { s with netns := s.netns.map fun x => if x.name = name then ns' else x }

/-! ## Commands -/

/-- The commands of the script. -/
inductive Cmd
  /-- `ip netns add ns` -/
  | netnsAdd (ns : String)
  /-- `ip -n ns link add eth0 type veth peer name tap netns 1` -/
  | linkAddVeth (ns tap : String)
  /-- `ip link set dev d master br0` -/
  | linkSetMaster (d : String)
  /-- `ip link set dev d up` -/
  | linkSetUp (d : String)
  /-- `ip netns exec ns ip link set dev eth0 up` -/
  | netnsLinkSetUp (ns : String)
  /-- `ip netns exec ns ip a a addr/len dev eth0` -/
  | netnsAddrAdd (ns : String) (addr : Addr) (len : ℕ)
  /-- `ip netns exec ns ip route add dst [via gw] dev eth0` -/
  | netnsRouteAdd (ns : String) (dst : Net) (via : Option Addr)
  /-- `ip link set dev d promisc on` -/
  | linkSetPromisc (d : String)
  /-- `ip link set dev d address $( cat /sys/class/net/d'/address )` -/
  | linkSetAddress (d d' : String)
  /-- `ip route del dst dev d` -/
  | routeDel (dst : Net) (d : String)
  /-- `ip route add dst [via gw] [dev d]` -/
  | routeAdd (dst : Net) (via : Option Addr) (dev : Option String)

/-- The effect of a command; `none` when it fails. -/
def exec : Cmd → Host → Option Host
  | .netnsAdd ns, s =>
    if ns ∈ s.netns.map Netns.name then none
    else some { s with netns := s.netns ++ [⟨ns, false, false, [], []⟩] }
  | .linkAddVeth ns tap, s =>
    if tap ∈ s.links then none
    else (s.atNetns ns fun x => if x.eth0 then none else some { x with eth0 := true }).map
      fun s' => { s' with links := s'.links ++ [tap] }
  | .linkSetMaster d, s =>
    if d ∈ s.links then some { s with ports := insertName d s.ports } else none
  | .linkSetUp d, s =>
    if d ∈ s.links then some { s with up := insertName d s.up } else none
  | .netnsLinkSetUp ns, s =>
    s.atNetns ns fun x => if x.eth0 then some { x with up := true } else none
  | .netnsAddrAdd ns addr len, s =>
    s.atNetns ns fun x =>
      if x.eth0 ∧ addr ∉ x.addrs then
        -- An interface that is up gets the route for the network of its address.
        some { x with
          addrs := x.addrs ++ [addr]
          routes := if x.up then ⟨netOf addr len, none, "eth0"⟩ :: x.routes else x.routes }
      else none
  | .netnsRouteAdd ns dst via, s =>
    s.atNetns ns fun x =>
      (addRoute x.routes (if x.up then ["eth0"] else []) dst via (some "eth0")).map
        fun routes => { x with routes := routes }
  | .linkSetPromisc d, s =>
    if d ∈ s.links then some { s with promisc := insertName d s.promisc } else none
  | .linkSetAddress d d', s =>
    if d ∈ s.links ∧ d' ∈ s.links then
      some { s with mac := fun x => if x = d then s.mac d' else s.mac x }
    else none
  | .routeDel dst d, s =>
    if s.routes.any fun r => r.dst == dst && r.dev == d then
      some { s with routes := s.routes.eraseP fun r => r.dst == dst && r.dev == d }
    else none
  | .routeAdd dst via dev, s =>
    (addRoute s.routes s.up dst via dev).map fun routes => { s with routes := routes }

/-! ## ifup-local -/

/-- The values of a pod. -/
structure PodConf where
  name : String
  tap : String
  addr : Addr

/-- Which of the two pods of a host. -/
inductive PodId
  | first
  | second
  deriving DecidableEq

/-- The values of a host: the address of its `eth1` and that of its bridge, its pods, and the
address and the pods' network of the other host. -/
structure Conf where
  addr : Addr
  bridge : Addr
  pod : PodId → PodConf
  peer : Addr
  peerNet : Net

/-- The network of the wire between the hosts. -/
def wireNet : Net := ⟨ip 10 10 103 0, 24⟩

/-- The commands that create a pod. -/
def podCommands (c : Conf) (p : PodConf) : List Cmd :=
  [.netnsAdd p.name,
   .linkAddVeth p.name p.tap,
   .linkSetMaster p.tap,
   .linkSetUp p.tap,
   .netnsLinkSetUp p.name,
   .netnsAddrAdd p.name p.addr 24,
   .netnsRouteAdd p.name ⟨c.addr, 32⟩ none,
   .netnsRouteAdd p.name ⟨ip 0 0 0 0, 0⟩ (some c.addr)]

/-- `if ! ip netns | grep -q name; then ... fi` -/
def createPod (c : Conf) (p : PodConf) (s : Host) : Host :=
  if s.netns.any fun ns => decide (p.name.toList <:+: ns.name.toList) then s
  else Script.runAll exec s (podCommands c p)

/-- The commands after the pods. -/
def bridgeCommands (c : Conf) : List Cmd :=
  [.linkSetPromisc "eth1",
   .linkSetMaster "eth1",
   .linkSetAddress "br0" "eth1",
   .routeDel wireNet "eth1",
   .routeAdd wireNet none (some "br0"),
   .routeAdd c.peerNet (some c.peer) none]

/-- `/sbin/ifup-local dev` -/
def ifupLocal (c : Conf) (dev : String) (s : Host) : Host :=
  if dev = "br0" then
    Script.runAll exec (createPod c (c.pod .second) (createPod c (c.pod .first) s))
      (bridgeCommands c)
  else s

/-- The values of `host1.sh`. -/
def host1 : Conf where
  addr := ip 10 10 103 91
  bridge := ip 172 17 1 254
  pod
    | .first => ⟨"pod-1", "tap-pod-1", ip 172 17 1 1⟩
    | .second => ⟨"pod-2", "tap-pod-2", ip 172 17 1 2⟩
  peer := ip 10 10 103 92
  peerNet := ⟨ip 172 17 2 0, 24⟩

/-- The values of `host2.sh`. -/
def host2 : Conf where
  addr := ip 10 10 103 92
  bridge := ip 172 17 2 254
  pod
    | .first => ⟨"pod-3", "tap-pod-3", ip 172 17 2 3⟩
    | .second => ⟨"pod-4", "tap-pod-4", ip 172 17 2 4⟩
  peer := ip 10 10 103 91
  peerNet := ⟨ip 172 17 1 0, 24⟩

/-! ## Before the first run -/

/-- The addresses of the wire and of the pods' networks. -/
def InLab (a : Addr) : Prop :=
  wireNet.covers a = true ∨ host2.peerNet.covers a = true ∨ host1.peerNet.covers a = true

/-- What the scripts take over from the virtual machine: the routes and addresses of `eth0`,
which is not part of the lab; the hardware addresses; and whether it forwards. -/
structure Vm where
  natRoutes : List Route
  natAddrs : List Addr
  mac : String → String
  ipForward : Bool
  dev_eq : ∀ r ∈ natRoutes, r.dev = "eth0"
  len_lt : ∀ r ∈ natRoutes, ∀ a, InLab a → r.dst.covers a = true → r.dst.len < 24
  outside : ∀ a ∈ natAddrs, ¬ InLab a

/-- The routes of `eth0` as the virtual machine comes up. -/
def natRoutes : List Route :=
  [⟨⟨ip 0 0 0 0, 0⟩, some (ip 10 0 2 2), "eth0"⟩, ⟨⟨ip 10 0 2 0, 24⟩, none, "eth0"⟩]

/-- A host before the first run of its script: `eth1` and `br0` are up, each with its address
and the route for its network. -/
def booted (c : Conf) (v : Vm) : Host where
  netns := []
  links := ["lo", "eth0", "eth1", "br0"]
  up := ["lo", "eth0", "eth1", "br0"]
  ports := []
  promisc := []
  mac := v.mac
  addrs := c.addr :: c.bridge :: v.natAddrs
  routes := ⟨netOf c.addr 24, none, "eth1"⟩ :: ⟨netOf c.bridge 24, none, "br0"⟩ :: v.natRoutes
  ipForward := v.ipForward

end PythonForFun.PodNetwork
