import PythonForFun.PodNetwork.Host

set_option relaxedAutoImplicit false
set_option autoImplicit false

/-!
# Bringing up the hosts of the pod network

The first run of `ifup-local br0` on a booted host creates both pods and moves the routes to the
bridge. Every later run finds the pods by the guards of their blocks, and its deletion and
additions of routes fail; it leaves the host as it is. So the state of a host is a function of
whether `br0` was brought up and whether forwarding was switched on, however often and in
whatever order.

## Main definitions

* `PodNetwork.configured` — the state `ifup-local br0` leaves.
* `PodNetwork.Act`, `PodNetwork.netAfter` — histories on the two hosts.

## Main results

* `PodNetwork.createPod_fresh` — a block that creates its pod.
* `PodNetwork.ifupLocal_booted`, `PodNetwork.ifupLocal_configured` — the first run and the
  later ones.
* `PodNetwork.netAfter_eq` — the state after every history.
-/

namespace PythonForFun.PodNetwork

/-! ## One pod -/

/-- The namespace of a created pod. -/
def netnsOf (c : Conf) (p : PodConf) : Netns where
  name := p.name
  eth0 := true
  up := true
  addrs := [p.addr]
  routes :=
    [⟨⟨ip 0 0 0 0, 0⟩, some c.addr, "eth0"⟩, ⟨⟨c.addr, 32⟩, none, "eth0"⟩,
     ⟨netOf p.addr 24, none, "eth0"⟩]

/-- Changing the last of the namespaces. -/
theorem atNetns_append (s : Host) {l : List Netns} (ns ns' : Netns) {f : Netns → Option Netns}
    (hl : ∀ x ∈ l, x.name ≠ ns.name) (hf : f ns = some ns') :
    { s with netns := l ++ [ns] }.atNetns ns.name f = some { s with netns := l ++ [ns'] } := by
  have hnone : (l.find? fun x : Netns => x.name == ns.name) = none :=
    List.find?_eq_none.mpr fun x hx => by simpa using hl x hx
  have hfind : ((l ++ [ns]).find? fun x : Netns => x.name == ns.name) = some ns := by
    rw [List.find?_append, hnone]
    simp
  have hid : (l.map fun x : Netns => if x.name = ns.name then ns' else x) = l := by
    have hsame : ∀ x ∈ l, (if x.name = ns.name then ns' else x) = x :=
      fun x hx => if_neg (hl x hx)
    rw [List.map_congr_left hsame, List.map_id']
  simp only [Host.atNetns, hfind, hf, List.map_append, hid]
  simp

/-- Adding a name that is not there. -/
theorem insertName_of_notMem {d : String} {names : List String} (h : d ∉ names) :
    insertName d names = names ++ [d] := if_neg h

/-- Adding a name that is there. -/
theorem insertName_of_mem {d : String} {names : List String} (h : d ∈ names) :
    insertName d names = names := if_pos h

/-- A route through a device that is up. -/
theorem addRoute_dev {routes : List Route} {up : List String} {dst : Net} {d : String}
    (hnew : dst ∉ routes.map Routing.Route.dst) (hup : d ∈ up) :
    addRoute routes up dst none (some d) = some (⟨dst, none, d⟩ :: routes) := by
  rw [addRoute, if_neg hnew]
  exact if_pos hup

/-- A route through a gateway that is on the link of a device. -/
theorem addRoute_via {routes : List Route} {up : List String} {dst : Net} {gw : Addr}
    {dev : Option String} {r : Route} (hnew : dst ∉ routes.map Routing.Route.dst)
    (hgw : lookup routes gw = some r) (hvia : r.via = none) (hdev : dev = none ∨ dev = some r.dev) :
    addRoute routes up dst (some gw) dev = some (⟨dst, some gw, r.dev⟩ :: routes) := by
  rw [addRoute, if_neg hnew]
  simp only [hgw]
  exact if_pos ⟨hvia, hdev⟩

/-- A second route for a destination. -/
theorem addRoute_exists {routes : List Route} {up : List String} {dst : Net} {via : Option Addr}
    {dev : Option String} (h : dst ∈ routes.map Routing.Route.dst) :
    addRoute routes up dst via dev = none := if_pos h

/-- The gateway of a pod is found through its own route. -/
theorem lookup_gateway (c : Conf) (p : PodConf) :
    lookup [⟨⟨c.addr, 32⟩, none, "eth0"⟩, ⟨netOf p.addr 24, none, "eth0"⟩] c.addr =
      some ⟨⟨c.addr, 32⟩, none, "eth0"⟩ := by
  refine Routing.lookup_eq_some Net.covers Net.len List.mem_cons_self ?_ ?_
  · exact beq_self_eq_true _
  · intro q hq _
    rcases List.mem_cons.mp hq with rfl | hq
    · exact Or.inl rfl
    · rw [List.mem_singleton] at hq
      rw [hq]
      exact Or.inr (Nat.lt_of_sub_eq_succ rfl)

/-- **A block that creates its pod**: on a host without the pod every command of the block goes
through.

**Proof sketch.** The commands one by one; each of those inside the namespace changes the last
of the namespaces, which is the new one. -/
theorem createPod_fresh (c : Conf) {p : PodConf} {s : Host}
    (hname : ∀ ns ∈ s.netns, ¬ p.name.toList <:+: ns.name.toList) (htap : p.tap ∉ s.links)
    (hup : p.tap ∉ s.up) (hport : p.tap ∉ s.ports) :
    createPod c p s =
      { s with
        netns := s.netns ++ [netnsOf c p]
        links := s.links ++ [p.tap]
        up := s.up ++ [p.tap]
        ports := s.ports ++ [p.tap] } := by
  have hne : ∀ x ∈ s.netns, x.name ≠ p.name := by
    intro x hx heq
    exact hname x hx (heq ▸ List.infix_refl _)
  have hguard : ¬ (s.netns.any fun ns => decide (p.name.toList <:+: ns.name.toList)) = true := by
    rw [List.any_eq_true]
    rintro ⟨ns, hns, hin⟩
    exact hname ns hns (of_decide_eq_true hin)
  rw [createPod, if_neg hguard, podCommands]
  have hadd : exec (.netnsAdd p.name) s =
      some { s with netns := s.netns ++ [⟨p.name, false, false, [], []⟩] } := by
    refine if_neg fun hmem => ?_
    obtain ⟨x, hx, heq⟩ := List.mem_map.mp hmem
    exact hne x hx heq
  rw [Script.runAll_cons_of_exec exec hadd]
  -- The host with the new namespace, its links, those that are up, and the bridge's ports.
  let st (ns : Netns) (links up ports : List String) : Host :=
    { s with netns := s.netns ++ [ns], links := links, up := up, ports := ports }
  let ns₀ : Netns := ⟨p.name, false, false, [], []⟩
  let ns₁ : Netns := { ns₀ with eth0 := true }
  let ns₂ : Netns := { ns₁ with up := true }
  let ns₃ : Netns :=
    { ns₂ with addrs := [p.addr], routes := [⟨netOf p.addr 24, none, "eth0"⟩] }
  let ns₄ : Netns :=
    { ns₃ with routes := ⟨⟨c.addr, 32⟩, none, "eth0"⟩ :: ns₃.routes }
  let links := s.links ++ [p.tap]
  have htap_mem : p.tap ∈ links := List.mem_append_right _ List.mem_cons_self
  have hveth : exec (.linkAddVeth p.name p.tap) (st ns₀ s.links s.up s.ports) =
      some (st ns₁ links s.up s.ports) := by
    have hat := atNetns_append s ns₀ ns₁
      (f := fun x => if x.eth0 then none else some { x with eth0 := true }) hne rfl
    rw [exec, if_neg htap]
    exact congrArg (Option.map fun s' : Host => { s' with links := s'.links ++ [p.tap] }) hat
  have hmaster : exec (.linkSetMaster p.tap) (st ns₁ links s.up s.ports) =
      some (st ns₁ links s.up (s.ports ++ [p.tap])) := by
    rw [exec, if_pos htap_mem, insertName_of_notMem hport]
  have hsetup : exec (.linkSetUp p.tap) (st ns₁ links s.up (s.ports ++ [p.tap])) =
      some (st ns₁ links (s.up ++ [p.tap]) (s.ports ++ [p.tap])) := by
    rw [exec, if_pos htap_mem, insertName_of_notMem hup]
  have hns {ns ns' : Netns} {f : Netns → Option Netns} (hns : ns.name = p.name)
      (hf : f ns = some ns') :
      (st ns links (s.up ++ [p.tap]) (s.ports ++ [p.tap])).atNetns p.name f =
        some (st ns' links (s.up ++ [p.tap]) (s.ports ++ [p.tap])) := by
    rw [← hns] at hne ⊢
    exact atNetns_append
      { s with links := links, up := s.up ++ [p.tap], ports := s.ports ++ [p.tap] } ns ns' hne hf
  have heth : exec (.netnsLinkSetUp p.name) (st ns₁ links (s.up ++ [p.tap]) (s.ports ++ [p.tap])) =
      some (st ns₂ links (s.up ++ [p.tap]) (s.ports ++ [p.tap])) := hns rfl rfl
  have haddr : exec (.netnsAddrAdd p.name p.addr 24)
      (st ns₂ links (s.up ++ [p.tap]) (s.ports ++ [p.tap])) =
      some (st ns₃ links (s.up ++ [p.tap]) (s.ports ++ [p.tap])) := by
    refine hns rfl ?_
    exact if_pos ⟨rfl, List.not_mem_nil⟩
  have hgw : exec (.netnsRouteAdd p.name ⟨c.addr, 32⟩ none)
      (st ns₃ links (s.up ++ [p.tap]) (s.ports ++ [p.tap])) =
      some (st ns₄ links (s.up ++ [p.tap]) (s.ports ++ [p.tap])) := by
    have hnew : (⟨c.addr, 32⟩ : Net) ∉ ns₃.routes.map Routing.Route.dst := by
      simp [ns₃, netOf]
    exact hns rfl (by rw [if_pos rfl, addRoute_dev hnew List.mem_cons_self]; rfl)
  have hdefault : exec (.netnsRouteAdd p.name ⟨ip 0 0 0 0, 0⟩ (some c.addr))
      (st ns₄ links (s.up ++ [p.tap]) (s.ports ++ [p.tap])) =
      some (st (netnsOf c p) links (s.up ++ [p.tap]) (s.ports ++ [p.tap])) := by
    have hnew : (⟨ip 0 0 0 0, 0⟩ : Net) ∉ ns₄.routes.map Routing.Route.dst := by
      simp [ns₄, ns₃, netOf]
    have hroute : lookup ns₄.routes c.addr = some ⟨⟨c.addr, 32⟩, none, "eth0"⟩ :=
      lookup_gateway c p
    exact hns rfl (by rw [if_pos rfl, addRoute_via hnew hroute rfl (Or.inr rfl)]; rfl)
  rw [Script.runAll_cons_of_exec exec hveth, Script.runAll_cons_of_exec exec hmaster,
    Script.runAll_cons_of_exec exec hsetup, Script.runAll_cons_of_exec exec heth,
    Script.runAll_cons_of_exec exec haddr, Script.runAll_cons_of_exec exec hgw,
    Script.runAll_cons_of_exec exec hdefault]
  rfl

/-- **A block that finds its pod** does nothing. -/
theorem createPod_of_exists (c : Conf) {p : PodConf} {s : Host}
    (h : p.name ∈ s.netns.map Netns.name) : createPod c p s = s := by
  obtain ⟨ns, hns, hname⟩ := List.mem_map.mp h
  refine if_pos (List.any_eq_true.mpr ⟨ns, hns, ?_⟩)
  rw [hname]
  exact decide_eq_true (List.infix_refl _)

/-! ## The first run and the later ones -/

/-- What the values of the two hosts have in common. -/
structure Conf.Valid (c : Conf) : Prop where
  addr_net : netOf c.addr 24 = wireNet
  peer_covers : wireNet.covers c.peer = true
  bridge_not_covers : (netOf c.bridge 24).covers c.peer = false
  bridge_ne : netOf c.bridge 24 ≠ wireNet
  peerNet_ne : c.peerNet ≠ wireNet
  peerNet_ne_bridge : c.peerNet ≠ netOf c.bridge 24
  peerNet_len : c.peerNet.len = 24
  wire_lab : InLab wireNet.addr
  peer_lab : InLab c.peer
  peerNet_lab : InLab c.peerNet.addr
  names : ¬ (c.pod .second).name.toList <:+: (c.pod .first).name.toList
  taps : ∀ i, (c.pod i).tap ∉ ["lo", "eth0", "eth1", "br0"]
  taps_ne : (c.pod .second).tap ≠ (c.pod .first).tap

instance (a : Addr) : Decidable (InLab a) :=
  inferInstanceAs (Decidable (_ ∨ _ ∨ _))

/-- The values of `host1.sh`. -/
theorem valid_host1 : host1.Valid := by
  constructor <;> first | decide | (intro i; cases i <;> decide)

/-- The values of `host2.sh`. -/
theorem valid_host2 : host2.Valid := by
  constructor <;> first | decide | (intro i; cases i <;> decide)

/-- The state `ifup-local br0` leaves: both pods, `eth1` a promiscuous port of the bridge that
lends it its hardware address, and the routes for the wire and for the other host's pods. -/
def configured (c : Conf) (v : Vm) (fw : Bool) : Host where
  netns := [netnsOf c (c.pod .first), netnsOf c (c.pod .second)]
  links := ["lo", "eth0", "eth1", "br0", (c.pod .first).tap, (c.pod .second).tap]
  up := ["lo", "eth0", "eth1", "br0", (c.pod .first).tap, (c.pod .second).tap]
  ports := [(c.pod .first).tap, (c.pod .second).tap, "eth1"]
  promisc := ["eth1"]
  mac := fun d => if d = "br0" then v.mac "eth1" else v.mac d
  addrs := c.addr :: c.bridge :: v.natAddrs
  routes := ⟨c.peerNet, some c.peer, "br0"⟩ :: ⟨wireNet, none, "br0"⟩ ::
    ⟨netOf c.bridge 24, none, "br0"⟩ :: v.natRoutes
  ipForward := fw

section Runs

variable {c : Conf} (v : Vm) (fw : Bool)

/-- The virtual machine has no route for a network of the lab. -/
theorem Vm.dst_notMem {n : Net} (hlab : InLab n.addr) (hlen : n.len = 24) :
    n ∉ v.natRoutes.map Routing.Route.dst := by
  intro h
  obtain ⟨r, hr, rfl⟩ := List.mem_map.mp h
  have hlt := v.len_lt r hr r.dst.addr hlab (beq_self_eq_true _)
  omega

/-- The other host is found on the bridge. -/
theorem lookup_peer (hc : c.Valid) :
    lookup (⟨wireNet, none, "br0"⟩ :: ⟨netOf c.bridge 24, none, "br0"⟩ :: v.natRoutes) c.peer =
      some ⟨wireNet, none, "br0"⟩ := by
  refine Routing.lookup_eq_some Net.covers Net.len List.mem_cons_self hc.peer_covers ?_
  intro q hq hcov
  rcases List.mem_cons.mp hq with rfl | hq
  · exact Or.inl rfl
  · rcases List.mem_cons.mp hq with rfl | hq
    · rw [hc.bridge_not_covers] at hcov
      cases hcov
    · exact Or.inr (v.len_lt q hq c.peer hc.peer_lab hcov)

/-- **The commands after the pods**, on a host with ports that do not have `eth1` yet.

**Proof sketch.** The commands one by one. The route for the wire moves from `eth1` to the
bridge, where the last command finds its gateway. -/
theorem runAll_bridgeCommands_fresh (hc : c.Valid) {s : Host} (heth1 : "eth1" ∈ s.links)
    (hbr0 : "br0" ∈ s.links) (hup : "br0" ∈ s.up) (hport : "eth1" ∉ s.ports)
    (hpromisc : s.promisc = []) (hroutes : s.routes = (booted c v).routes) :
    Script.runAll exec s (bridgeCommands c) =
      { s with
        promisc := ["eth1"]
        ports := s.ports ++ ["eth1"]
        mac := fun d => if d = "br0" then s.mac "eth1" else s.mac d
        routes := (configured c v fw).routes } := by
  have hpro : exec (.linkSetPromisc "eth1") s = some { s with promisc := ["eth1"] } := by
    rw [exec, if_pos heth1, hpromisc]
    rfl
  have hmaster : exec (.linkSetMaster "eth1") { s with promisc := ["eth1"] } =
      some { s with promisc := ["eth1"], ports := s.ports ++ ["eth1"] } := by
    rw [exec, if_pos heth1, insertName_of_notMem hport]
  let s₂ : Host :=
    { s with
      promisc := ["eth1"]
      ports := s.ports ++ ["eth1"]
      mac := fun d => if d = "br0" then s.mac "eth1" else s.mac d }
  have hmac : exec (.linkSetAddress "br0" "eth1")
      { s with promisc := ["eth1"], ports := s.ports ++ ["eth1"] } = some s₂ :=
    if_pos ⟨hbr0, heth1⟩
  let own : List Route := ⟨netOf c.bridge 24, none, "br0"⟩ :: v.natRoutes
  have hdel : exec (.routeDel wireNet "eth1") s₂ = some { s₂ with routes := own } := by
    have hfirst : s₂.routes = ⟨wireNet, none, "eth1"⟩ :: own := by
      rw [← hc.addr_net]
      exact hroutes
    rw [exec, hfirst]
    simp
  have hwire : exec (.routeAdd wireNet none (some "br0")) { s₂ with routes := own } =
      some { s₂ with routes := ⟨wireNet, none, "br0"⟩ :: own } := by
    have hnew : wireNet ∉ own.map Routing.Route.dst := by
      rw [List.map_cons, List.mem_cons, not_or]
      exact ⟨hc.bridge_ne.symm, v.dst_notMem hc.wire_lab rfl⟩
    rw [exec, addRoute_dev hnew hup]
    rfl
  have hpeer : exec (.routeAdd c.peerNet (some c.peer) none)
      { s₂ with routes := ⟨wireNet, none, "br0"⟩ :: own } =
      some { s₂ with routes := (configured c v fw).routes } := by
    have hnew : c.peerNet ∉
        (⟨wireNet, none, "br0"⟩ :: own : List Route).map Routing.Route.dst := by
      rw [List.map_cons, List.map_cons, List.mem_cons, List.mem_cons, not_or, not_or]
      exact ⟨hc.peerNet_ne, hc.peerNet_ne_bridge, v.dst_notMem hc.peerNet_lab hc.peerNet_len⟩
    rw [exec, addRoute_via hnew (lookup_peer v hc) rfl (Or.inl rfl)]
    rfl
  rw [bridgeCommands, Script.runAll_cons_of_exec exec hpro,
    Script.runAll_cons_of_exec exec hmaster, Script.runAll_cons_of_exec exec hmac,
    Script.runAll_cons_of_exec exec hdel, Script.runAll_cons_of_exec exec hwire,
    Script.runAll_cons_of_exec exec hpeer]
  rfl

/-- A booted host with its first pods, and forwarding as given. -/
def withPods (c : Conf) (v : Vm) (fw : Bool) (pods : List PodConf) : Host :=
  { booted c v with
    netns := pods.map (netnsOf c)
    links := ["lo", "eth0", "eth1", "br0"] ++ pods.map PodConf.tap
    up := ["lo", "eth0", "eth1", "br0"] ++ pods.map PodConf.tap
    ports := pods.map PodConf.tap
    ipForward := fw }

/-- Creating one more pod. -/
theorem createPod_withPods {pods : List PodConf} {p : PodConf}
    (hname : ∀ q ∈ pods, ¬ p.name.toList <:+: q.name.toList)
    (htap : p.tap ∉ ["lo", "eth0", "eth1", "br0"]) (hpods : p.tap ∉ pods.map PodConf.tap) :
    createPod c p (withPods c v fw pods) = withPods c v fw (pods ++ [p]) := by
  have hnew : p.tap ∉ ["lo", "eth0", "eth1", "br0"] ++ pods.map PodConf.tap := by
    rw [List.mem_append, not_or]
    exact ⟨htap, hpods⟩
  have hns : ∀ ns ∈ pods.map (netnsOf c), ¬ p.name.toList <:+: ns.name.toList := by
    intro ns hns
    obtain ⟨q, hq, rfl⟩ := List.mem_map.mp hns
    exact hname q hq
  rw [createPod_fresh c (s := withPods c v fw pods) hns hnew hnew hpods]
  simp only [withPods, List.map_append, List.map_cons, List.map_nil, List.append_assoc]

/-- **The first run** of `ifup-local br0`. -/
theorem ifupLocal_booted (hc : c.Valid) :
    ifupLocal c "br0" { booted c v with ipForward := fw } = configured c v fw := by
  have hfirst : createPod c (c.pod .first) (withPods c v fw []) =
      withPods c v fw [c.pod .first] :=
    createPod_withPods v fw (fun _ hq => absurd hq List.not_mem_nil) (hc.taps .first)
      List.not_mem_nil
  have hsecond : createPod c (c.pod .second) (withPods c v fw [c.pod .first]) =
      withPods c v fw [c.pod .first, c.pod .second] := by
    refine createPod_withPods v fw ?_ (hc.taps .second) ?_
    · intro q hq
      rw [List.mem_singleton] at hq
      rw [hq]
      exact hc.names
    · rw [List.map_cons, List.map_nil, List.mem_singleton]
      exact hc.taps_ne
  have hport : "eth1" ∉ [(c.pod .first).tap, (c.pod .second).tap] := by
    intro h
    rcases List.mem_cons.mp h with h | h
    · exact hc.taps .first (h ▸ by decide)
    · rw [List.mem_singleton] at h
      exact hc.taps .second (h ▸ by decide)
  have hboot : ({ booted c v with ipForward := fw } : Host) = withPods c v fw [] := rfl
  have hbridge := runAll_bridgeCommands_fresh v fw hc
    (s := withPods c v fw [c.pod .first, c.pod .second]) (List.mem_append_left _ (by decide))
    (List.mem_append_left _ (by decide)) (List.mem_append_left _ (by decide)) hport rfl rfl
  rw [ifupLocal, if_pos rfl, hboot, hfirst, hsecond, hbridge]
  rfl

/-- **A later run** of `ifup-local br0`: the guards find the pods, and the route for the wire is
neither deleted nor added again.

**Proof sketch.** No route for the wire goes through `eth1` any more, and both destinations
have a route, so that the last three commands fail; the others set what is set. -/
theorem ifupLocal_configured : ifupLocal c "br0" (configured c v fw) = configured c v fw := by
  have hfirst : createPod c (c.pod .first) (configured c v fw) = configured c v fw :=
    createPod_of_exists c List.mem_cons_self
  have hsecond : createPod c (c.pod .second) (configured c v fw) = configured c v fw :=
    createPod_of_exists c (List.mem_cons_of_mem _ List.mem_cons_self)
  have heth1 : "eth1" ∈ (configured c v fw).links := by simp [configured]
  have hbr0 : "br0" ∈ (configured c v fw).links := by simp [configured]
  have hpro : exec (.linkSetPromisc "eth1") (configured c v fw) = some (configured c v fw) := by
    rw [exec, if_pos heth1]
    rfl
  have hmaster : exec (.linkSetMaster "eth1") (configured c v fw) = some (configured c v fw) := by
    rw [exec, if_pos heth1, insertName_of_mem (by simp [configured])]
  have hmac : exec (.linkSetAddress "br0" "eth1") (configured c v fw) =
      some (configured c v fw) := by
    rw [exec, if_pos ⟨hbr0, heth1⟩]
    simp only [configured, Option.some.injEq, Host.mk.injEq, true_and, and_true]
    funext d
    by_cases hd : d = "br0" <;> simp [hd]
  have hdel : exec (.routeDel wireNet "eth1") (configured c v fw) = none := by
    refine if_neg fun hany => ?_
    obtain ⟨r, hr, hmatch⟩ := List.any_eq_true.mp hany
    have hdev : r.dev = "eth1" := beq_iff_eq.mp ((Bool.and_eq_true _ _).mp hmatch).2
    have hbr0 : ¬ "br0" = "eth1" := by decide
    simp only [configured, List.mem_cons] at hr
    rcases hr with rfl | rfl | rfl | hr
    · exact hbr0 hdev
    · exact hbr0 hdev
    · exact hbr0 hdev
    · rw [v.dev_eq r hr] at hdev
      exact absurd hdev (by decide)
  have hwire : exec (.routeAdd wireNet none (some "br0")) (configured c v fw) = none := by
    rw [exec, addRoute_exists (List.mem_cons_of_mem _ List.mem_cons_self)]
    rfl
  have hpeer : exec (.routeAdd c.peerNet (some c.peer) none) (configured c v fw) = none := by
    rw [exec, addRoute_exists List.mem_cons_self]
    rfl
  rw [ifupLocal, if_pos rfl, hfirst, hsecond, bridgeCommands,
    Script.runAll_cons_of_exec exec hpro, Script.runAll_cons_of_exec exec hmaster,
    Script.runAll_cons_of_exec exec hmac, Script.runAll_cons_of_fails exec hdel,
    Script.runAll_cons_of_fails exec hwire, Script.runAll_cons_of_fails exec hpeer]
  rfl

end Runs

/-! ## Histories -/

/-- The two hosts. -/
inductive HostId
  | host1
  | host2
  deriving DecidableEq

/-- The values of a host. -/
def HostId.conf : HostId → Conf
  | .host1 => PodNetwork.host1
  | .host2 => PodNetwork.host2

/-- The values of both hosts are valid. -/
theorem HostId.valid (h : HostId) : h.conf.Valid := by
  cases h
  · exact valid_host1
  · exact valid_host2

/-- What is run on a host: the script, for some interface, or the last lines of `host1.sh` and
`host2.sh`. -/
inductive Act
  /-- `/sbin/ifup-local dev` -/
  | ifupLocal (dev : String)
  /-- `sysctl -w net.ipv4.ip_forward=1` -/
  | sysctlIpForward
  deriving DecidableEq

/-- The effect of an action. -/
def Act.run (c : Conf) : Act → Host → Host
  | .ifupLocal dev, s => PodNetwork.ifupLocal c dev s
  | .sysctlIpForward, s => { s with ipForward := true }

/-- The two hosts together. -/
abbrev Hosts := HostId → Host

/-- The hosts after a history of actions, each on one of them. -/
def netAfter (vms : HostId → Vm) (history : List (HostId × Act)) : Hosts :=
  history.foldl (fun σ e => Function.update σ e.1 (e.2.run e.1.conf (σ e.1)))
    fun h => booted h.conf (vms h)

/-- A host by whether `br0` was brought up and whether it forwards. -/
def hostState (c : Conf) (v : Vm) (up fw : Bool) : Host :=
  if up then configured c v fw else { booted c v with ipForward := fw }

/-- The action brings up the bridge. -/
def Act.bringsUp (a : Act) : Bool := a == .ifupLocal "br0"

/-- The action switches forwarding on. -/
def Act.forwards (a : Act) : Bool := a == .sysctlIpForward

/-- **The step lemma** of the histories. -/
theorem run_hostState {c : Conf} (hc : c.Valid) (v : Vm) (up fw : Bool) (a : Act) :
    a.run c (hostState c v up fw) = hostState c v (up || a.bringsUp) (fw || a.forwards) := by
  cases a with
  | sysctlIpForward =>
    have hup : Act.bringsUp .sysctlIpForward = false := by decide
    have hfw : Act.forwards .sysctlIpForward = true := by decide
    rw [hup, hfw, Bool.or_false, Bool.or_true]
    cases up <;> rfl
  | ifupLocal dev =>
    have hfw : Act.forwards (.ifupLocal dev) = false := by
      rw [Act.forwards, beq_eq_false_iff_ne]
      exact Act.noConfusion
    rw [hfw, Bool.or_false]
    by_cases hdev : dev = "br0"
    · have hup : Act.bringsUp (.ifupLocal dev) = true := by rw [hdev]; rfl
      rw [hup, Bool.or_true, hdev]
      cases up
      · exact ifupLocal_booted v fw hc
      · exact ifupLocal_configured v fw
    · have hup : Act.bringsUp (.ifupLocal dev) = false := by
        rw [Act.bringsUp, beq_eq_false_iff_ne]
        exact fun h => hdev (Act.ifupLocal.inj h)
      rw [hup, Bool.or_false]
      exact if_neg hdev

/-- Whether the bridge of a host was brought up. -/
def broughtUp (history : List (HostId × Act)) (h : HostId) : Bool :=
  history.any fun e => e.1 == h && e.2.bringsUp

/-- Whether a host forwards. -/
def forwarding (vms : HostId → Vm) (history : List (HostId × Act)) (h : HostId) : Bool :=
  (vms h).ipForward || history.any fun e => e.1 == h && e.2.forwards

/-- **Bringing up the hosts is repeatable, in any order**: after any history of runs of
`ifup-local`, for any interfaces, and of switching on forwarding, on the two hosts, each host is
as one run for its bridge leaves it, or as it was booted where there was none.

**Proof sketch.** Induction on the history from its end; the action at the end changes its own
host only, by the step lemma. -/
theorem netAfter_eq (vms : HostId → Vm) (history : List (HostId × Act)) (h : HostId) :
    netAfter vms history h =
      hostState h.conf (vms h) (broughtUp history h) (forwarding vms history h) := by
  induction history using List.reverseRecOn with
  | nil =>
    rw [forwarding, List.any_nil, Bool.or_false]
    rfl
  | append_singleton history e ih =>
    have hlast : netAfter vms (history ++ [e]) = Function.update (netAfter vms history) e.1
        (e.2.run e.1.conf (netAfter vms history e.1)) := by
      rw [netAfter, List.foldl_append]
      rfl
    have hup : broughtUp (history ++ [e]) h =
        (broughtUp history h || (e.1 == h && e.2.bringsUp)) := by
      rw [broughtUp, List.any_append, List.any_cons, List.any_nil, Bool.or_false]
      rfl
    have hfw : forwarding vms (history ++ [e]) h =
        (forwarding vms history h || (e.1 == h && e.2.forwards)) := by
      rw [forwarding, List.any_append, List.any_cons, List.any_nil, Bool.or_false,
        ← Bool.or_assoc]
      rfl
    rw [hlast, hup, hfw]
    by_cases he : e.1 = h
    · subst he
      rw [Function.update_self, ih, run_hostState e.1.valid, beq_self_eq_true, Bool.true_and,
        Bool.true_and]
    · have hne : (e.1 == h) = false := beq_eq_false_iff_ne.mpr he
      rw [Function.update_of_ne (Ne.symm he), ih, hne, Bool.false_and, Bool.false_and,
        Bool.or_false, Bool.or_false]

end PythonForFun.PodNetwork
