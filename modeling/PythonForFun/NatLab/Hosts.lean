import PythonForFun.Lib.Netfilter
import PythonForFun.PodNetwork.Host
import Mathlib.Logic.Function.Basic

set_option relaxedAutoImplicit false
set_option autoImplicit false

/-!
# The hosts of the iptables lab

Three hosts: `internal` and `gateway` share a network, `gateway` and `outside` another one, and
only `gateway` forwards. A packet passes the chains of every host it comes through: those of the
`nat` table rewrite the first packet of a connection, and every host undoes for the replies what
it did to the requests. `curl` succeeds when its request reaches a service and the reply comes
back to it as the reply to what it asked for.

## Main definitions

* `NatLab.HostId.links`, `NatLab.HostId.routes` — the interfaces and the routes of a host.
* `NatLab.Tables`, `NatLab.State` — the tables of a host, and of all of them.
* `NatLab.step` — what a host does with a packet.
* `NatLab.connection`, `NatLab.connects` — whether a connection comes about, and what its end
  sees of it.
-/

namespace PythonForFun.NatLab

open Netfilter
open PodNetwork (Addr ip Net Route lookup natRoutes)

/-! ## Addresses and routes -/

/-- The hosts. -/
inductive HostId
  | internal
  | gateway
  | outside
  deriving DecidableEq

/-- The two networks of the lab. -/
inductive Segment
  | inner
  | outer
  deriving DecidableEq

/-- An interface: its network and its address. -/
structure Link where
  dev : String
  segment : Segment
  addr : Addr
  deriving DecidableEq

/-- The addresses of a network. -/
def Segment.net : Segment → Net
  | .inner => ⟨ip 172 0 1 0, 24⟩
  | .outer => ⟨ip 10 0 1 0, 24⟩

/-- The interfaces of a host, `eth0` apart, which is not part of the lab. -/
def HostId.links : HostId → List Link
  | .internal => [⟨"eth1", .inner, ip 172 0 1 2⟩]
  | .gateway => [⟨"eth1", .inner, ip 172 0 1 254⟩, ⟨"eth2", .outer, ip 10 0 1 3⟩]
  | .outside => [⟨"eth1", .outer, ip 10 0 1 2⟩]

/-- The addresses of a host. -/
def HostId.addrs (h : HostId) : List Addr := h.links.map Link.addr

/-- The interface with the name. -/
def HostId.link (h : HostId) (dev : String) : Option Link := h.links.find? fun l => l.dev == dev

/-- The routes of a host: one for the network of each interface, the one that `internal.sh` adds,
and those of `eth0`. -/
def HostId.routes (h : HostId) : List Route :=
  h.links.map (fun l => ⟨l.segment.net, none, l.dev⟩) ++
    (if h = .internal then [⟨Segment.outer.net, some (ip 172 0 1 254), "eth1"⟩] else []) ++
    natRoutes

/-- `net.ipv4.ip_forward`. -/
def HostId.ipForward (h : HostId) : Bool := h == .gateway

/-- The entries of `/etc/hosts`. -/
def HostId.etcHosts : HostId → HostId → Option Addr
  | .internal, .gateway => some (ip 172 0 1 254)
  | .internal, .outside => some (ip 10 0 1 2)
  | .gateway, .internal => some (ip 172 0 1 2)
  | .gateway, .outside => some (ip 10 0 1 2)
  | .outside, .gateway => some (ip 10 0 1 3)
  | _, _ => none

/-- The interfaces of all hosts. -/
def links : List (HostId × Link) :=
  [HostId.internal, .gateway, .outside].flatMap fun h => h.links.map fun l => (h, l)

/-- Who answers on a network for an address, and through which interface. -/
def neighbour (g : Segment) (a : Addr) : Option (HostId × String) :=
  (links.find? fun e => e.2.segment == g && decide (a ∈ e.1.addrs)).map fun e => (e.1, e.2.dev)

/-- The host a packet is handed to, and through which of its interfaces. What goes out through
`eth0` does not come back. -/
def nextHop (h : HostId) (a : Addr) : Option (HostId × String) := do
  let r ← lookup h.routes a
  let l ← h.link r.dev
  neighbour l.segment (r.via.getD a)

/-! ## Packets and tables -/

/-- The protocols of the tests. -/
inductive Proto
  | tcp
  | icmp
  deriving DecidableEq

/-- A packet. The two ports of an echo request are its identifier and `0`. -/
structure Packet where
  proto : Proto
  src : Addr
  sport : ℕ
  dst : Addr
  dport : ℕ
  deriving DecidableEq

/-- The reply to a packet. -/
def Packet.reply (p : Packet) : Packet := ⟨p.proto, p.dst, p.dport, p.src, p.sport⟩

/-- The chains of the `nat` table. -/
inductive NatHook
  | prerouting
  | input
  | output
  | postrouting
  deriving DecidableEq

/-- The two tables of a host. -/
structure Tables where
  filter : FilterTable Packet
  nat : NatHook → List (NatRule Packet)

/-- The tables of the hosts. -/
abbrev State := HostId → Tables

/-- What the scripts leave open: whether a host checks the route back to the source of a packet,
the port a client takes, and which services run. The web servers of `internal.sh` and `outside.sh`
do, and nothing else listens on the ports of the tests. -/
structure Lab where
  rpFilter : HostId → Bool
  sport : HostId → Addr → ℕ → ℕ
  listens : HostId → ℕ → Bool
  web : ∀ h p, h = .internal ∨ h = .outside → p = 8080 ∨ p = 8081 → listens h p = true
  gateway_8080 : listens .gateway 8080 = false
  outside_48080 : listens .outside 48080 = false

/-- Whether what a packet asks for is served at the host. -/
def Lab.serves (lab : Lab) (h : HostId) (p : Packet) : Bool :=
  p.proto == .icmp || lab.listens h p.dport

/-! ## The way of a packet -/

/-- For each host, the packet a connection came in as and the one it went on as. -/
abbrev Tracked := HostId → Option (Packet × Packet)

/-- What the hosts do to the packets of one direction of a connection. -/
structure Hooks where
  filter : HostId → FilterTable Packet
  nat : HostId → NatHook → Packet → Packet

/-- A new connection is translated by the rules. -/
def State.request (s : State) : Hooks where
  filter h := (s h).filter
  nat h k := translate ((s h).nat k)

/-- The reply to `t`, with the destination put back that the host rewrote as a source. -/
def halfway (o t : Packet) : Packet := { t.reply with dst := o.src, dport := o.sport }

/-- What a host that turned `o` into `t` does to the reply: it puts back the destination first,
and then the source. -/
def undo (o t : Packet) : NatHook → Packet → Packet
  | .prerouting, p | .output, p => if p = t.reply then halfway o t else p
  | .postrouting, p | .input, p => if p = halfway o t then o.reply else p

/-- The replies of a connection that is tracked do not meet the rules of the `nat` table. -/
def State.answer (s : State) (tracked : Tracked) : Hooks where
  filter h := (s h).filter
  nat h k p := match tracked h with
    | none => p
    | some (o, t) => undo o t k p

/-- A packet at a host: the interface it came in through, if any, and what was tracked on its
way. -/
structure Transit where
  host : HostId
  dev : Option String
  packet : Packet
  tracked : Tracked

/-- A host remembers what became of a packet. -/
def Transit.track (x : Transit) (p : Packet) : Tracked :=
  Function.update x.tracked x.host (some (x.packet, p))

/-- How a packet ends. -/
inductive Outcome
  | delivered (h : HostId) (p : Packet) (tracked : Tracked)
  | lost

/-- Whether a chain lets a packet through. -/
def accepts (c : Chain Packet) (p : Packet) : Bool := c.verdict p == .accept

/-- A packet for the host itself. -/
def deliver (v : Hooks) (x : Transit) (p : Packet) : Routing.Step Transit Outcome :=
  if accepts (v.filter x.host).input p then
    let q := v.nat x.host .input p
    .stop (.delivered x.host q (x.track q))
  else .stop .lost

/-- A packet for another host. -/
def send (v : Hooks) (x : Transit) (p : Packet) : Routing.Step Transit Outcome :=
  match nextHop x.host p.dst with
  | none => .stop .lost
  | some (h, dev) =>
    let q := v.nat x.host .postrouting p
    .hop ⟨h, some dev, q, x.track q⟩

/-- The source of a packet is not believable: it is the host's own address, or, where that is
checked, the route back to it goes through another interface. -/
def spoofed (lab : Lab) (h : HostId) (dev : String) (a : Addr) : Bool :=
  decide (a ∈ h.addrs) ||
    (lab.rpFilter h && (lookup h.routes a).map Routing.Route.dev != some dev)

/-- What a host does with a packet. -/
def step (lab : Lab) (v : Hooks) (x : Transit) : Routing.Step Transit Outcome :=
  match x.dev with
  | none =>
    let p := v.nat x.host .output x.packet
    if accepts (v.filter x.host).output p then
      if p.dst ∈ x.host.addrs then deliver v x (v.nat x.host .postrouting p) else send v x p
    else .stop .lost
  | some dev =>
    let p := v.nat x.host .prerouting x.packet
    if spoofed lab x.host dev p.src then .stop .lost
    else if p.dst ∈ x.host.addrs then deliver v x p
    else if x.host.ipForward && accepts (v.filter x.host).forward p then send v x p
    else .stop .lost

/-- The time to live a packet is sent with. -/
def ttl : ℕ := 64

/-- How a packet ends that the host sends. -/
def outcome (lab : Lab) (v : Hooks) (h : HostId) (p : Packet) : Option Outcome :=
  Routing.forward (step lab v) ttl ⟨h, none, p, fun _ => none⟩

/-! ## Connections -/

/-- The source address for a destination. -/
def HostId.source (h : HostId) (a : Addr) : Option Addr :=
  if a ∈ h.addrs then some a
  else (lookup h.routes a).bind fun r => (h.link r.dev).map Link.addr

/-- The first packet of a connection that a host opens. -/
def request (lab : Lab) (c : HostId) (proto : Proto) (a : Addr) (port : ℕ) : Option Packet :=
  (c.source a).map fun src => ⟨proto, src, lab.sport c a port, a, port⟩

/-- Where a request of a host is delivered, and as which packet, provided that the reply to it is
delivered to the host as the reply to what it sent. -/
def roundTrip (lab : Lab) (s : State) (c : HostId) (p : Packet) : Option (HostId × Packet) :=
  match outcome lab s.request c p with
  | some (.delivered h q tracked) =>
    match outcome lab (s.answer tracked) h q.reply with
    | some (.delivered h' r _) => if h' = c ∧ r = p.reply then some (h, q) else none
    | _ => none
  | _ => none

/-- The host a connection comes about with, and the request as it gets there. -/
def connection (lab : Lab) (s : State) (c : HostId) (proto : Proto) (a : Addr) (port : ℕ) :
    Option (HostId × Packet) :=
  (request lab c proto a port).bind (roundTrip lab s c)

/-- Whether what a host asks for is answered. -/
def connects (lab : Lab) (s : State) (c : HostId) (proto : Proto) (a : Addr) (port : ℕ) : Bool :=
  (connection lab s c proto a port).any fun t => lab.serves t.1 t.2

end PythonForFun.NatLab
