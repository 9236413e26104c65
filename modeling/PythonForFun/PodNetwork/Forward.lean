import PythonForFun.PodNetwork.Ifup

set_option relaxedAutoImplicit false
set_option autoImplicit false

/-!
# Forwarding in the pod network

A packet is sent by a pod or a host along the most specific route for its destination: to the
node that answers for the next hop on the segment of the route's device, or out through `eth0`.
The bridge of a host and the wire are one segment once `eth1` is a port of the bridge. A node
that a packet arrives at may check that the route back to its source goes through the device it
came in on, keeps the packet if it is for one of its own addresses, and otherwise sends it on if
it forwards.

## Main definitions

* `PodNetwork.Node`, `PodNetwork.resolve` — the nodes, and who answers for an address.
* `PodNetwork.step`, `PodNetwork.outcome` — the way of a packet.
* `PodNetwork.netState` — the hosts, by which were brought up and which forward.

## Main results

* `PodNetwork.lookup_labRoutes`, `PodNetwork.lookup_pod` — the routes of a host that was brought
  up and of its pods.
* `PodNetwork.addrs_unique` — no address of the lab is had by two nodes.
-/

namespace PythonForFun.PodNetwork

/-! ## Nodes and segments -/

/-- The nodes of the network. -/
inductive Node
  | host (h : HostId)
  | pod (h : HostId) (i : PodId)
  deriving DecidableEq

/-- The namespace of a pod, if it was created. -/
def podNetns (σ : Hosts) (h : HostId) (i : PodId) : Option Netns :=
  (σ h).netns.find? fun ns => ns.name == (h.conf.pod i).name

/-- The addresses of a node. -/
def Node.addrs (σ : Hosts) : Node → List Addr
  | .host h => (σ h).addrs
  | .pod h i =>
    match podNetns σ h i with
    | none => []
    | some ns => ns.addrs

/-- The routes of a node. -/
def Node.routes (σ : Hosts) : Node → List Route
  | .host h => (σ h).routes
  | .pod h i =>
    match podNetns σ h i with
    | none => []
    | some ns => ns.routes

/-- The segments: the wire between the hosts, and the bridge of each host. -/
inductive Segment
  | wire
  | bridge (h : HostId)
  deriving DecidableEq

/-- What a device of a node is attached to. -/
inductive Attach
  | segment (g : Segment)
  | outside
  | detached
  deriving DecidableEq

/-- The device of a node: `eth1` is on the wire unless it is a port of the bridge, and the
`eth0` of a pod is on the bridge if its other end is a port that is up. -/
def attach (σ : Hosts) : Node → String → Attach
  | .host h, d =>
    if d = "br0" then .segment (.bridge h)
    else if d = "eth1" then if "eth1" ∈ (σ h).ports then .detached else .segment .wire
    else if d = "eth0" then .outside
    else .detached
  | .pod h i, d =>
    match podNetns σ h i with
    | none => .detached
    | some ns =>
      if d = "eth0" ∧ ns.up = true ∧ (h.conf.pod i).tap ∈ (σ h).ports ∧
          (h.conf.pod i).tap ∈ (σ h).up then
        .segment (.bridge h)
      else .detached

/-- The segment is the wire or a bridge that `eth1` is a port of. -/
def onWire (σ : Hosts) : Segment → Bool
  | .wire => true
  | .bridge h => decide ("eth1" ∈ (σ h).ports)

/-- Frames on one of the segments are seen on the other. -/
def joined (σ : Hosts) (g g' : Segment) : Bool := g == g' || (onWire σ g && onWire σ g')

/-- The devices of the nodes. -/
def devices : List (Node × String) :=
  [(.host .host1, "br0"), (.host .host1, "eth1"), (.host .host2, "br0"), (.host .host2, "eth1"),
   (.pod .host1 .first, "eth0"), (.pod .host1 .second, "eth0"), (.pod .host2 .first, "eth0"),
   (.pod .host2 .second, "eth0")]

/-- The node answers on the segment, through the device, for the address. -/
def answers (σ : Hosts) (g : Segment) (a : Addr) (e : Node × String) : Bool :=
  decide (a ∈ e.1.addrs σ) &&
    match attach σ e.1 e.2 with
    | .segment g' => joined σ g g'
    | _ => false

/-- Who answers on the segment for the address. -/
def resolve (σ : Hosts) (g : Segment) (a : Addr) : Option (Node × String) :=
  devices.find? (answers σ g a)

/-! ## Packets -/

/-- What the scripts leave to the kernel: whether a node checks the route back to the source
of a packet, and whether a pod forwards. -/
structure Kernel where
  rpFilter : Node → Bool
  podForward : HostId → PodId → Bool

/-- The source and the destination of a packet. -/
structure Packet where
  src : Addr
  dst : Addr

/-- Where a packet is: at the node that sends it, or at a node it arrived at through a
device. -/
inductive Place
  | origin (n : Node)
  | arrived (n : Node) (dev : String)

/-- How a packet ends. -/
inductive Outcome
  | delivered (n : Node)
  | unreachable (n : Node)
  | dropped (n : Node)
  | leaves (n : Node)
  deriving DecidableEq

/-- Sending a packet along the route for its destination. -/
def send (σ : Hosts) (p : Packet) (n : Node) : Routing.Step Place Outcome :=
  match lookup (n.routes σ) p.dst with
  | none => .stop (.unreachable n)
  | some r =>
    match attach σ n r.dev with
    | .outside => .stop (.leaves n)
    | .detached => .stop (.unreachable n)
    | .segment g =>
      match resolve σ g (r.via.getD p.dst) with
      | none => .stop (.unreachable n)
      | some (m, dev) => .hop (.arrived m dev)

/-- The node sends on what is not for itself. -/
def Node.forwards (σ : Hosts) (k : Kernel) : Node → Bool
  | .host h => (σ h).ipForward
  | .pod h i => k.podForward h i

/-- What happens to a packet at a place. -/
def step (σ : Hosts) (k : Kernel) (p : Packet) : Place → Routing.Step Place Outcome
  | .origin n => if p.dst ∈ n.addrs σ then .stop (.delivered n) else send σ p n
  | .arrived n dev =>
    if k.rpFilter n = true ∧ (lookup (n.routes σ) p.src).map Routing.Route.dev ≠ some dev then
      .stop (.dropped n)
    else if p.dst ∈ n.addrs σ then .stop (.delivered n)
    else if n.forwards σ k then send σ p n
    else .stop (.dropped n)

/-- How a packet with the given time to live ends that the node sends. -/
def outcome (σ : Hosts) (k : Kernel) (p : Packet) (ttl : ℕ) (n : Node) : Option Outcome :=
  Routing.forward (step σ k p) ttl (.origin n)

/-! ## The hosts by which were brought up and which forward -/

/-- The hosts after a history, by which of them were brought up and which forward. -/
def netState (vms : HostId → Vm) (up fw : HostId → Bool) : Hosts :=
  fun h => hostState h.conf (vms h) (up h) (fw h)

/-- The hosts after a history. -/
theorem netAfter_eq_netState (vms : HostId → Vm) (history : List (HostId × Act)) :
    netAfter vms history = netState vms (broughtUp history) (forwarding vms history) :=
  funext fun h => netAfter_eq vms history h

/-- The addresses of the lab that a node has. -/
def Node.labAddrs : Node → List Addr
  | .host h => [h.conf.addr, h.conf.bridge]
  | .pod h i => [(h.conf.pod i).addr]

/-- The device through which a node is on the bridge. -/
def Node.dev : Node → String
  | .host _ => "br0"
  | .pod _ _ => "eth0"

section NetState

variable (vms : HostId → Vm) (up fw : HostId → Bool) (h : HostId) (i : PodId)

/-- A pod exists iff its host was brought up. -/
theorem podNetns_netState :
    podNetns (netState vms up fw) h i =
      if up h then some (netnsOf h.conf (h.conf.pod i)) else none := by
  rw [podNetns, netState, hostState]
  cases up h with
  | false => rfl
  | true =>
    cases h <;> cases i <;> rfl

/-- The addresses of a host. -/
theorem addrs_host :
    (Node.host h).addrs (netState vms up fw) = (Node.host h).labAddrs ++ (vms h).natAddrs := by
  rw [Node.addrs, netState, hostState]
  cases up h <;> rfl

/-- The addresses of a pod. -/
theorem addrs_pod :
    (Node.pod h i).addrs (netState vms up fw) = if up h then (Node.pod h i).labAddrs else [] := by
  rw [Node.addrs, podNetns_netState]
  cases up h <;> rfl

/-- The routes of a host that was brought up. -/
theorem routes_host (hup : up h = true) :
    (Node.host h).routes (netState vms up fw) = (configured h.conf (vms h) (fw h)).routes := by
  rw [Node.routes, netState, hostState, hup]
  rfl

/-- The routes of a host that was not brought up. -/
theorem routes_host_booted (hup : up h = false) :
    (Node.host h).routes (netState vms up fw) = (booted h.conf (vms h)).routes := by
  rw [Node.routes, netState, hostState, hup]
  rfl

/-- The routes of a pod. -/
theorem routes_pod :
    (Node.pod h i).routes (netState vms up fw) =
      if up h then (netnsOf h.conf (h.conf.pod i)).routes else [] := by
  rw [Node.routes, podNetns_netState]
  cases up h <;> rfl

/-- The `eth0` of a host. -/
theorem attach_eth0 (σ : Hosts) : attach σ (.host h) "eth0" = .outside := rfl

/-- `eth1` is a port of the bridge iff the host was brought up. -/
theorem eth1_mem_ports : "eth1" ∈ (netState vms up fw h).ports ↔ up h = true := by
  rw [netState, hostState]
  cases up h with
  | false => simp [booted]
  | true => simp [configured]

/-- The `eth1` of a host. -/
theorem attach_eth1 :
    attach (netState vms up fw) (.host h) "eth1" =
      if up h then .detached else .segment .wire := by
  show (if "eth1" ∈ (netState vms up fw h).ports then Attach.detached else .segment .wire) = _
  simp only [eth1_mem_ports]

/-- The `eth0` of a pod. -/
theorem attach_pod :
    attach (netState vms up fw) (.pod h i) "eth0" =
      if up h then .segment (.bridge h) else .detached := by
  rw [attach, podNetns_netState]
  cases hup : up h with
  | false => rfl
  | true =>
    refine if_pos ⟨rfl, rfl, ?_, ?_⟩
    · rw [netState, hostState, hup]
      cases i <;> simp [configured]
    · rw [netState, hostState, hup]
      cases i <;> simp [configured]

/-- A host forwards. -/
theorem forwards_host (k : Kernel) :
    (Node.host h).forwards (netState vms up fw) k = fw h := by
  rw [Node.forwards, netState, hostState]
  cases up h <;> rfl

end NetState

/-! ## Which network an address belongs to -/

/-- The network of the pods of a host. -/
def HostId.ownNet (h : HostId) : Net := netOf h.conf.bridge 24

/-- The other host. -/
def HostId.other : HostId → HostId
  | .host1 => .host2
  | .host2 => .host1

/-- What the values of the two hosts say about each other. -/
theorem HostId.peer_eq (h : HostId) :
    h.conf.peer = h.other.conf.addr ∧ h.conf.peerNet = h.other.ownNet := by
  cases h <;> decide

/-- The first three routes of a host that was brought up. -/
def labRoutes (h : HostId) : List Route :=
  [⟨h.other.ownNet, some h.other.conf.addr, "br0"⟩, ⟨wireNet, none, "br0"⟩,
   ⟨h.ownNet, none, "br0"⟩]

/-- The routes of a host that was brought up. -/
theorem routes_configured (h : HostId) (v : Vm) (fw : Bool) :
    (configured h.conf v fw).routes = labRoutes h ++ v.natRoutes := by
  rw [configured, h.peer_eq.1, h.peer_eq.2]
  rfl

/-- An address is of the lab iff one of the three routes covers it. -/
theorem inLab_iff (h : HostId) (a : Addr) :
    InLab a ↔ ∃ r ∈ labRoutes h, r.dst.covers a = true := by
  have hnets : InLab a ↔ h.other.ownNet.covers a = true ∨ wireNet.covers a = true ∨
      h.ownNet.covers a = true := by
    have h₁ : host1.peerNet = HostId.host2.ownNet := by decide
    have h₂ : host2.peerNet = HostId.host1.ownNet := by decide
    rw [InLab, h₁, h₂]
    cases h <;> simp only [HostId.other] <;> tauto
  rw [hnets]
  simp [labRoutes]

/-- At most one network of the lab covers an address. -/
theorem labRoutes_unique {h : HostId} {q r : Route} (hq : q ∈ labRoutes h) (hr : r ∈ labRoutes h)
    {a : Addr} (hqa : q.dst.covers a = true) (hra : r.dst.covers a = true) : q = r := by
  have hlen : ∀ r ∈ labRoutes h, r.dst.len = 24 := by cases h <;> decide
  have hnet : ∀ q ∈ labRoutes h, ∀ r ∈ labRoutes h,
      q.dst.addr >>> 8 = r.dst.addr >>> 8 → q = r := by cases h <;> decide
  have h24 : ∀ n : Net, n.len = 24 → n.covers a = true → n.addr >>> 8 = a >>> 8 := by
    intro n hn hcov
    rw [Net.covers, hn] at hcov
    exact beq_iff_eq.mp hcov
  refine hnet q hq r hr ?_
  rw [h24 q.dst (hlen q hq) hqa, h24 r.dst (hlen r hr) hra]

/-! ## Routes of the nodes -/

/-- A host that was brought up has its own route for every address of the lab. -/
theorem lookup_labRoutes {h : HostId} (v : Vm) {r : Route} (hr : r ∈ labRoutes h) {a : Addr}
    (ha : r.dst.covers a = true) : lookup (labRoutes h ++ v.natRoutes) a = some r := by
  have hlen : ∀ r ∈ labRoutes h, r.dst.len = 24 := by cases h <;> decide
  refine Routing.lookup_eq_some Net.covers Net.len (List.mem_append_left _ hr) ha ?_
  intro q hq hqa
  rcases List.mem_append.mp hq with hq | hq
  · exact Or.inl (labRoutes_unique hq hr hqa ha)
  · right
    rw [hlen r hr]
    exact v.len_lt q hq a ((inLab_iff h a).mpr ⟨r, hr, ha⟩) hqa

/-- The routes of a pod. -/
def podRoutes (h : HostId) : List Route :=
  [⟨⟨ip 0 0 0 0, 0⟩, some h.conf.addr, "eth0"⟩, ⟨⟨h.conf.addr, 32⟩, none, "eth0"⟩,
   ⟨h.ownNet, none, "eth0"⟩]

/-- The routes of a created pod. -/
theorem routes_netnsOf (h : HostId) (i : PodId) :
    (netnsOf h.conf (h.conf.pod i)).routes = podRoutes h := by
  have hnet : netOf (h.conf.pod i).addr 24 = h.ownNet := by
    cases h <;> cases i <;> decide
  rw [netnsOf, hnet]
  rfl

/-- The default route is for every address. -/
theorem default_covers (a : Addr) : Net.covers ⟨ip 0 0 0 0, 0⟩ a = true := by
  have hzero : ∀ x : Addr, x >>> (32 - 0) = 0#32 := fun x => BitVec.ushiftRight_eq_zero (by omega)
  rw [Net.covers, hzero, hzero]
  rfl

/-- The route for a host is for its address only. -/
theorem host_covers_iff (h : HostId) (a : Addr) :
    Net.covers ⟨h.conf.addr, 32⟩ a = true ↔ a = h.conf.addr := by
  rw [Net.covers, Nat.sub_self, BitVec.ushiftRight_zero, BitVec.ushiftRight_zero, beq_iff_eq]
  exact eq_comm

/-- A pod has a route for every address: its network, its host, and by default its host as the
gateway. -/
theorem lookup_pod (h : HostId) (a : Addr) :
    lookup (podRoutes h) a =
      some (if h.ownNet.covers a = true then ⟨h.ownNet, none, "eth0"⟩
        else if a = h.conf.addr then ⟨⟨h.conf.addr, 32⟩, none, "eth0"⟩
        else ⟨⟨ip 0 0 0 0, 0⟩, some h.conf.addr, "eth0"⟩) := by
  have hlen : h.ownNet.len = 24 := by cases h <;> rfl
  have hown : h.ownNet.covers h.conf.addr = false := by cases h <;> decide
  split_ifs with hnet haddr
  · refine Routing.lookup_eq_some Net.covers Net.len (by simp [podRoutes]) hnet ?_
    intro q hq hcov
    simp only [podRoutes, List.mem_cons, List.not_mem_nil, or_false] at hq
    rcases hq with rfl | rfl | rfl
    · right
      rw [hlen]
      exact Nat.zero_lt_succ 23
    · rw [host_covers_iff] at hcov
      rw [hcov, hown] at hnet
      cases hnet
    · exact Or.inl rfl
  · subst haddr
    refine Routing.lookup_eq_some Net.covers Net.len (by simp [podRoutes]) ?_ ?_
    · exact (host_covers_iff h _).mpr rfl
    · intro q hq hcov
      simp only [podRoutes, List.mem_cons, List.not_mem_nil, or_false] at hq
      rcases hq with rfl | rfl | rfl
      · exact Or.inr (Nat.zero_lt_succ 31)
      · exact Or.inl rfl
      · exact absurd hcov hnet
  · refine Routing.lookup_eq_some Net.covers Net.len (by simp [podRoutes]) (default_covers a) ?_
    intro q hq hcov
    simp only [podRoutes, List.mem_cons, List.not_mem_nil, or_false] at hq
    rcases hq with rfl | rfl | rfl
    · exact Or.inl rfl
    · exact absurd ((host_covers_iff h a).mp hcov) haddr
    · exact absurd hcov hnet

/-! ## Who has an address -/

/-- The node the scripts give an address to. -/
def ownerOf (a : Addr) : Option Node :=
  [.host .host1, .host .host2, .pod .host1 .first, .pod .host1 .second, .pod .host2 .first,
   .pod .host2 .second].find? fun n : Node => decide (a ∈ n.labAddrs)

/-- The owner of an address that the scripts give to a node is that node. -/
theorem ownerOf_eq {n : Node} {a : Addr} (h : a ∈ n.labAddrs) : ownerOf a = some n := by
  cases n with
  | host h' =>
    rcases List.mem_cons.mp h with rfl | h
    · cases h' <;> decide
    · obtain rfl := List.mem_singleton.mp h
      cases h' <;> decide
  | pod h' i =>
    obtain rfl := List.mem_singleton.mp h
    cases h' <;> cases i <;> decide

/-- No address of the lab is given twice. -/
theorem labAddrs_unique {n m : Node} {a : Addr} (hn : a ∈ n.labAddrs) (hm : a ∈ m.labAddrs) :
    n = m :=
  Option.some.inj ((ownerOf_eq hn).symm.trans (ownerOf_eq hm))

/-- The addresses the scripts give are of the lab. -/
theorem inLab_of_mem_labAddrs {n : Node} {a : Addr} (h : a ∈ n.labAddrs) : InLab a := by
  cases n with
  | host h' =>
    rcases List.mem_cons.mp h with rfl | h
    · cases h' <;> decide
    · obtain rfl := List.mem_singleton.mp h
      cases h' <;> decide
  | pod h' i =>
    obtain rfl := List.mem_singleton.mp h
    cases h' <;> cases i <;> decide

/-- The host a node is or is on. -/
def Node.hostId : Node → HostId
  | .host h => h
  | .pod h _ => h

section Owners

variable {vms : HostId → Vm} {up fw : HostId → Bool} {n m : Node} {a : Addr}

/-- The addresses of the lab that a node has were given to it by the scripts, and those of a pod
only once its host was brought up. -/
theorem mem_labAddrs (h : a ∈ n.addrs (netState vms up fw)) (hlab : InLab a) :
    a ∈ n.labAddrs := by
  cases n with
  | host h' =>
    rw [addrs_host] at h
    exact (List.mem_append.mp h).resolve_right fun hnat => (vms h').outside a hnat hlab
  | pod h' i =>
    rw [addrs_pod] at h
    split_ifs at h with hup
    · exact h
    · cases h

/-- A node on a host that was brought up has the addresses the scripts give it. -/
theorem mem_addrs (hup : up n.hostId = true) (h : a ∈ n.labAddrs) :
    a ∈ n.addrs (netState vms up fw) := by
  cases n with
  | host h' =>
    rw [addrs_host]
    exact List.mem_append_left _ h
  | pod h' i =>
    rw [addrs_pod]
    exact (if_pos hup).symm ▸ h

/-- A pod with an address is on a host that was brought up. -/
theorem up_of_mem_addrs {h : HostId} {i : PodId}
    (ha : a ∈ (Node.pod h i).addrs (netState vms up fw)) : up h = true := by
  rw [addrs_pod] at ha
  split_ifs at ha with hup
  · exact hup
  · cases ha

/-- An address of the lab is had by one node at most. -/
theorem addrs_unique (hn : a ∈ n.addrs (netState vms up fw))
    (hm : a ∈ m.addrs (netState vms up fw)) (hlab : InLab a) : n = m :=
  labAddrs_unique (mem_labAddrs hn hlab) (mem_labAddrs hm hlab)

end Owners

end PythonForFun.PodNetwork
