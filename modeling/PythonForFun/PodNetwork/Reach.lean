import PythonForFun.PodNetwork.Forward

set_option relaxedAutoImplicit false
set_option autoImplicit false

/-!
# Who reaches whom in the pod network

A packet goes from a pod to its host, from there to the other host, and from there to a pod, at
most. The rank of a place is the number of such steps that are left; it falls with every hop, so
that no history of the two hosts makes a packet loop. With both hosts up and forwarding every
address of the lab is reached from everywhere, and the routes back to the source go through the
devices that packets come in on.

## Main definitions

* `PodNetwork.rank` — the hops that are left.
* `PodNetwork.Pings` — an echo request that arrives and whose reply arrives.

## Main results

* `PodNetwork.no_loops` — after every history every packet ends within four places.
* `PodNetwork.delivered_iff` — with both hosts up and forwarding every address of the lab is
  reached from everywhere.
* `PodNetwork.outcome_outside` — what is not for the lab leaves by the sender's own host.
* `PodNetwork.pods_ping_iff` — after which histories two pods reach each other.
-/

namespace PythonForFun.PodNetwork

/-! ## What a hop tells -/

section Hops

variable {σ : Hosts} {k : Kernel} {p : Packet} {n m : Node}

/-- Who answers for an address has it. -/
theorem mem_addrs_of_resolve {g : Segment} {a : Addr} {d : String}
    (h : resolve σ g a = some (m, d)) : a ∈ m.addrs σ := by
  have hans : answers σ g a (m, d) = true := List.find?_some h
  exact of_decide_eq_true ((Bool.and_eq_true _ _).mp hans).1

/-- A packet is sent along the route for its destination, to who has the address of the next
hop. -/
theorem hop_of_send {q : Place} (h : send σ p n = .hop q) :
    ∃ r g m d, lookup (n.routes σ) p.dst = some r ∧ attach σ n r.dev = .segment g ∧
      q = .arrived m d ∧ r.via.getD p.dst ∈ m.addrs σ := by
  unfold send at h
  split at h
  · cases h
  · next r hr =>
    split at h
    · cases h
    · cases h
    · next g hg =>
      split at h
      · cases h
      · next m d hres =>
        cases h
        exact ⟨r, g, m, d, hr, hg, rfl, mem_addrs_of_resolve hres⟩

/-- Sending a packet along a route does not deliver it. -/
theorem send_ne_delivered : send σ p n ≠ .stop (.delivered m) := by
  intro h
  unfold send at h
  split at h
  · cases h
  · split at h
    · cases h
    · cases h
    · split at h <;> cases h

/-- The node a packet is at. -/
def Place.node : Place → Node
  | .origin n => n
  | .arrived n _ => n

/-- A packet that goes on is sent, and it is not for the node it was at. -/
theorem send_of_step_hop {P q : Place} (h : step σ k p P = .hop q) :
    send σ p P.node = .hop q ∧ p.dst ∉ P.node.addrs σ := by
  cases P with
  | origin n =>
    rw [step] at h
    split_ifs at h with hdst
    exact ⟨h, hdst⟩
  | arrived n d =>
    rw [step] at h
    split_ifs at h with hrp hdst hfw
    exact ⟨h, hdst⟩

/-- A packet is delivered to who has its destination. -/
theorem mem_addrs_of_delivered {ttl : ℕ} (h : outcome σ k p ttl n = some (.delivered m)) :
    p.dst ∈ m.addrs σ := by
  obtain ⟨P, hP⟩ := Routing.exists_stop_of_forward h
  cases P with
  | origin n' =>
    rw [step] at hP
    split_ifs at hP with hdst
    · cases hP
      exact hdst
    · exact absurd hP send_ne_delivered
  | arrived n' d =>
    rw [step] at hP
    split_ifs at hP with hrp hdst hfw
    · cases hP
    · cases hP
      exact hdst
    · exact absurd hP send_ne_delivered
    · cases hP

end Hops

/-! ## No loops -/

section Rank

variable (vms : HostId → Vm) (up fw : HostId → Bool)

/-- Routes through a gateway to a segment of the lab: the default route of a pod and the route
of a host to the other host's pods.

**Proof sketch.** The routes of each kind of node; those of the virtual machine go out through
`eth0`. -/
theorem via_of_mem_routes {n : Node} {r : Route} {g : Segment}
    (hr : r ∈ n.routes (netState vms up fw))
    (hg : attach (netState vms up fw) n r.dev = .segment g) :
    r.via = none ∨ (∃ h i, n = .pod h i ∧ r.via = some h.conf.addr) ∨
      ∃ h, n = .host h ∧ r.via = some h.other.conf.addr ∧ r.dst = h.other.ownNet := by
  cases n with
  | pod h i =>
    rw [routes_pod] at hr
    split_ifs at hr with hup
    · rw [routes_netnsOf] at hr
      simp only [podRoutes, List.mem_cons, List.not_mem_nil, or_false] at hr
      rcases hr with rfl | rfl | rfl
      · exact Or.inr (Or.inl ⟨h, i, rfl, rfl⟩)
      · exact Or.inl rfl
      · exact Or.inl rfl
    · cases hr
  | host h =>
    have hnat : r ∉ (vms h).natRoutes := by
      intro hnat
      rw [(vms h).dev_eq r hnat, attach_eth0] at hg
      cases hg
    cases hup : up h with
    | false =>
      rw [routes_host_booted vms up fw h hup] at hr
      simp only [booted, List.mem_cons] at hr
      rcases hr with rfl | rfl | hr
      · exact Or.inl rfl
      · exact Or.inl rfl
      · exact absurd hr hnat
    | true =>
      rw [routes_host vms up fw h hup, routes_configured] at hr
      have hlab := (List.mem_append.mp hr).resolve_right hnat
      simp only [labRoutes, List.mem_cons, List.not_mem_nil, or_false] at hlab
      rcases hlab with rfl | rfl | rfl
      · exact Or.inr (Or.inr ⟨h, rfl, rfl, rfl⟩)
      · exact Or.inl rfl
      · exact Or.inl rfl

/-- The rank of a host for a destination. -/
def hostRank (dst : Addr) (h : HostId) : ℕ :=
  if dst ∈ (Node.host h).addrs (netState vms up fw) then 0
  else if h.other.ownNet.covers dst then 2
  else 1

/-- The hops that are left at most. -/
def rank (dst : Addr) : Place → ℕ
  | .origin (.pod _ _) => 3
  | .origin (.host h) => hostRank vms up fw dst h
  | .arrived (.host h) _ => hostRank vms up fw dst h
  | .arrived (.pod _ _) _ => 0

/-- A packet only arrives at a pod that it is for. -/
def ForPod (dst : Addr) : Place → Prop
  | .arrived (.pod h i) _ => dst ∈ (Node.pod h i).addrs (netState vms up fw)
  | _ => True

/-- Both networks of pods do not cover an address. -/
theorem not_both_cover {h : HostId} {a : Addr} (hown : h.ownNet.covers a = true) :
    h.other.ownNet.covers a = false := by
  cases hother : h.other.ownNet.covers a with
  | false => rfl
  | true =>
    have heq : (⟨h.other.ownNet, some h.other.conf.addr, "br0"⟩ : Route) =
        ⟨h.ownNet, none, "br0"⟩ :=
      labRoutes_unique (h := h) (by simp [labRoutes]) (by simp [labRoutes]) hother hown
    cases congrArg Routing.Route.via heq

/-- The rank of a host is at most two. -/
theorem hostRank_le (dst : Addr) (h : HostId) : hostRank vms up fw dst h ≤ 2 := by
  unfold hostRank
  split_ifs <;> decide

/-- The rank of the other host for an address of its own pods. -/
theorem hostRank_other_lt {dst : Addr} {h : HostId} (hcov : h.other.ownNet.covers dst = true) :
    hostRank vms up fw dst h.other < 2 := by
  rw [hostRank, not_both_cover hcov]
  simp only [Bool.false_eq_true, if_false]
  split_ifs <;> decide

/-- Who has the address of a host's `eth1` is that host. -/
theorem eq_host_of_gateway {h : HostId} {m : Node}
    (hm : h.conf.addr ∈ m.addrs (netState vms up fw)) : m = .host h := by
  have hmem : h.conf.addr ∈ (Node.host h).labAddrs := List.mem_cons_self
  exact labAddrs_unique (mem_labAddrs hm (inLab_of_mem_labAddrs hmem)) hmem

/-- **The step lemma**: the rank falls with every hop.

**Proof sketch.** A hop to who has the destination ends at rank 0. Otherwise the packet went to
a gateway: from a pod to its host, or from a host to the other one, whose own pods it is for. -/
theorem rank_lt_of_hop {k : Kernel} {p : Packet} {P q : Place}
    (hpod : ForPod vms up fw p.dst P) (hstep : step (netState vms up fw) k p P = .hop q) :
    ForPod vms up fw p.dst q ∧ rank vms up fw p.dst q < rank vms up fw p.dst P := by
  obtain ⟨hsend, hdst⟩ := send_of_step_hop hstep
  obtain ⟨r, g, m, d, hr, hg, rfl, hnext⟩ := hop_of_send hsend
  obtain ⟨hmem, hcov⟩ := Routing.lookup_mem _ _ hr
  -- A pod that the packet arrived at would have kept it.
  have hfrom : (∃ h i, P = .origin (.pod h i)) ∨
      ∃ h, P.node = .host h ∧ rank vms up fw p.dst P = hostRank vms up fw p.dst h := by
    cases P with
    | origin n =>
      cases n with
      | host h => exact Or.inr ⟨h, rfl, rfl⟩
      | pod h i => exact Or.inl ⟨h, i, rfl⟩
    | arrived n d' =>
      cases n with
      | host h => exact Or.inr ⟨h, rfl, rfl⟩
      | pod h i => exact absurd hpod hdst
  have hhost : ∀ h, P.node = .host h →
      hostRank vms up fw p.dst h = if h.other.ownNet.covers p.dst then 2 else 1 := by
    intro h hn
    rw [hn] at hdst
    exact if_neg hdst
  rcases via_of_mem_routes vms up fw hmem hg with hvia | ⟨h, i, hn, hvia⟩ | ⟨h, hn, hvia, hnet⟩
  · rw [hvia] at hnext
    have hzero : rank vms up fw p.dst (.arrived m d) = 0 := by
      cases m with
      | host h => exact if_pos hnext
      | pod h i => rfl
    refine ⟨?_, ?_⟩
    · cases m with
      | host h => trivial
      | pod h i => exact hnext
    · rw [hzero]
      rcases hfrom with ⟨h, i, rfl⟩ | ⟨h, hn, hrank⟩
      · exact Nat.zero_lt_succ 2
      · rw [hrank, hhost h hn]
        split_ifs <;> decide
  · rw [hvia] at hnext
    obtain rfl := eq_host_of_gateway vms up fw hnext
    refine ⟨trivial, ?_⟩
    rcases hfrom with ⟨h', i', rfl⟩ | ⟨h', hn', -⟩
    · exact Nat.lt_succ_of_le (hostRank_le vms up fw p.dst h)
    · rw [hn] at hn'
      cases hn'
  · rw [hvia] at hnext
    rw [hnet] at hcov
    obtain rfl := eq_host_of_gateway vms up fw hnext
    refine ⟨trivial, ?_⟩
    rcases hfrom with ⟨h', i', rfl⟩ | ⟨h', hn', hrank⟩
    · cases hn
    · obtain rfl : h = h' := Node.host.inj (hn.symm.trans hn')
      rw [hrank, hhost h hn, if_pos hcov]
      exact hostRank_other_lt vms up fw hcov

/-- The rank is at most three. -/
theorem rank_le (dst : Addr) (P : Place) : rank vms up fw dst P ≤ 3 := by
  have hhost := hostRank_le vms up fw dst
  cases P with
  | origin n =>
    cases n with
    | host h => exact Nat.le_succ_of_le (hhost h)
    | pod h i => exact Nat.le_refl 3
  | arrived n d =>
    cases n with
    | host h => exact Nat.le_succ_of_le (hhost h)
    | pod h i => exact Nat.zero_le 3

end Rank

/-- **No packet loops**, after any history of bringing up the hosts and switching on forwarding,
complete or not: a packet from any node, with any source, to any destination ends within four
places, the same way with any longer time to live. -/
theorem no_loops (vms : HostId → Vm) (history : List (HostId × Act)) (k : Kernel) (p : Packet)
    (n : Node) :
    ∃ o, ∀ ttl, 4 ≤ ttl → outcome (netAfter vms history) k p ttl n = some o := by
  rw [netAfter_eq_netState]
  have hstart : ForPod vms (broughtUp history) (forwarding vms history) p.dst (.origin n) := trivial
  obtain ⟨o, ho⟩ := Routing.exists_forward_of_rank (rank vms _ _ p.dst)
    (fun P q hP hq => rank_lt_of_hop vms _ _ (k := k) hP hq) hstart
    (Nat.lt_succ_of_le (rank_le vms _ _ p.dst (.origin n)))
  exact ⟨o, fun ttl httl => Routing.forward_mono ho httl⟩

/-! ## Who reaches whom -/

/-- An echo request from `a`, sent by `n`, arrives at `m`, whose address is `b`, and its reply
arrives at `n`. -/
def Pings (σ : Hosts) (k : Kernel) (n m : Node) (a b : Addr) : Prop :=
  outcome σ k ⟨a, b⟩ 64 n = some (.delivered m) ∧ outcome σ k ⟨b, a⟩ 64 m = some (.delivered n)

/-- An element that is the only one of a list with a property is the one that is found. -/
theorem find?_eq_some_of_unique {α : Type} {l : List α} {f : α → Bool} {x : α} (hx : x ∈ l)
    (hf : f x = true) (hunique : ∀ y ∈ l, f y = true → y = x) : l.find? f = some x := by
  cases hfind : l.find? f with
  | none => exact absurd hf (List.find?_eq_none.mp hfind x hx)
  | some y =>
    rw [hunique y (List.mem_of_find?_eq_some hfind) (List.find?_some hfind)]

/-- An address a network of pods covers is of a node on its host. -/
theorem hostId_of_covers {m : Node} {h : HostId} {b : Addr} (hb : b ∈ m.labAddrs)
    (hcov : h.ownNet.covers b = true) : m.hostId = h := by
  have hself : ∀ h' : HostId, h.ownNet.covers h'.conf.addr = false := by
    intro h'
    cases h <;> cases h' <;> decide
  cases m with
  | host h' =>
    rcases List.mem_cons.mp hb with rfl | hb
    · rw [hself h'] at hcov
      cases hcov
    · obtain rfl := List.mem_singleton.mp hb
      revert hcov
      cases h <;> cases h' <;> decide
  | pod h' i =>
    obtain rfl := List.mem_singleton.mp hb
    revert hcov
    cases h <;> cases h' <;> cases i <;> decide

/-- The addresses of the nodes on a host are of its network of pods, but for that of `eth1`. -/
theorem covers_of_mem_labAddrs {m : Node} {b : Addr} (hb : b ∈ m.labAddrs) :
    m.hostId.ownNet.covers b = true ∨ b = m.hostId.conf.addr := by
  cases m with
  | host h' =>
    rcases List.mem_cons.mp hb with rfl | hb
    · exact Or.inr rfl
    · obtain rfl := List.mem_singleton.mp hb
      left
      cases h' <;> decide
  | pod h' i =>
    obtain rfl := List.mem_singleton.mp hb
    left
    cases h' <;> cases i <;> decide

section Delivery

variable {vms : HostId → Vm} {up fw : HostId → Bool} {k : Kernel} {a b : Addr} {n m : Node}

/-- The device of a node is on the bridge of its host once that was brought up. -/
theorem attach_dev (hup : up n.hostId = true) :
    attach (netState vms up fw) n n.dev = .segment (.bridge n.hostId) := by
  cases n with
  | host h => rfl
  | pod h i => exact (attach_pod vms up fw h i).trans (if_pos hup)

/-- A bridge is on the wire once its host was brought up. -/
theorem onWire_bridge (h : HostId) : onWire (netState vms up fw) (.bridge h) = up h := by
  rw [onWire, Bool.eq_iff_iff, decide_eq_true_iff]
  exact eth1_mem_ports vms up fw h

/-- A node on a host that was brought up answers for its addresses on the bridge of each such
host.

**Proof sketch.** Nobody else has the address, and the `eth1` of a host that was brought up
does not answer for itself. -/
theorem resolve_bridge {h : HostId} (hup : up h = true) (hupm : up m.hostId = true)
    (hb : b ∈ m.labAddrs) :
    resolve (netState vms up fw) (.bridge h) b = some (m, m.dev) := by
  have hlab := inLab_of_mem_labAddrs hb
  refine find?_eq_some_of_unique ?_ ?_ ?_
  · cases m with
    | host h' => cases h' <;> simp [devices, Node.dev]
    | pod h' i => cases h' <;> cases i <;> simp [devices, Node.dev]
  · have hjoin : joined (netState vms up fw) (.bridge h) (.bridge m.hostId) = true := by
      rw [joined, onWire_bridge, onWire_bridge, hup, hupm]
      exact Bool.or_true _
    rw [answers, decide_eq_true (mem_addrs hupm hb), Bool.true_and, attach_dev hupm]
    exact hjoin
  · intro e he hans
    obtain ⟨hmem, hatt⟩ := (Bool.and_eq_true _ _).mp hans
    have heq : e.1 = m := addrs_unique (of_decide_eq_true hmem) (mem_addrs hupm hb) hlab
    have hport : ∀ h', e ≠ (.host h', "eth1") := by
      rintro h' rfl
      subst heq
      have hdet := (attach_eth1 vms up fw h').trans (if_pos hupm)
      rw [hdet] at hatt
      cases hatt
    have hdev : e.2 = e.1.dev := by
      simp only [devices, List.mem_cons, List.not_mem_nil, or_false] at he
      rcases he with rfl | rfl | rfl | rfl | rfl | rfl | rfl | rfl
      · rfl
      · exact absurd rfl (hport _)
      · rfl
      · exact absurd rfl (hport _)
      all_goals rfl
    exact Prod.ext heq (hdev.trans (congrArg Node.dev heq))

/-- The route back to a source of the lab goes through the device of the node. -/
theorem lookup_dev (hup : up n.hostId = true) (ha : InLab a) :
    (lookup (n.routes (netState vms up fw)) a).map Routing.Route.dev = some n.dev := by
  cases n with
  | host h =>
    obtain ⟨r, hr, hcov⟩ := (inLab_iff h a).mp ha
    have hdev : r.dev = "br0" := by
      simp only [labRoutes, List.mem_cons, List.not_mem_nil, or_false] at hr
      rcases hr with rfl | rfl | rfl <;> rfl
    rw [routes_host vms up fw h hup, routes_configured, lookup_labRoutes (vms h) hr hcov]
    exact congrArg some hdev
  | pod h i =>
    have hup' : up h = true := hup
    rw [routes_pod, if_pos hup', routes_netnsOf, lookup_pod]
    split_ifs <;> rfl

variable (vms fw k b) in
/-- What happens to a packet of the lab that arrives at a node on a host that was brought up. -/
theorem step_arrived (hup : up n.hostId = true) (ha : InLab a) :
    step (netState vms up fw) k ⟨a, b⟩ (.arrived n n.dev) =
      if b ∈ n.addrs (netState vms up fw) then .stop (.delivered n)
      else if n.forwards (netState vms up fw) k then send (netState vms up fw) ⟨a, b⟩ n
      else .stop (.dropped n) := by
  rw [step]
  refine if_neg ?_
  rintro ⟨-, hne⟩
  exact hne (lookup_dev hup ha)

/-- Sending a packet along a route through the device of the node, to who has the next hop. -/
theorem send_hop {r : Route} (hup : up n.hostId = true)
    (hr : lookup (n.routes (netState vms up fw)) b = some r) (hdev : r.dev = n.dev)
    (hupm : up m.hostId = true) (hnext : r.via.getD b ∈ m.labAddrs) :
    send (netState vms up fw) ⟨a, b⟩ n = .hop (.arrived m m.dev) := by
  simp only [send, hr, hdev, attach_dev hup, resolve_bridge hup hupm hnext]

/-- A packet that goes on to the node it is for. -/
theorem forward_onlink {P : Place} (hupm : up m.hostId = true) (ha : InLab a)
    (hb : b ∈ m.labAddrs)
    (hP : step (netState vms up fw) k ⟨a, b⟩ P = .hop (.arrived m m.dev)) :
    Routing.forward (step (netState vms up fw) k ⟨a, b⟩) 2 P = some (.delivered m) := by
  have hstop := step_arrived vms fw k b hupm ha
  rw [if_pos (mem_addrs hupm hb)] at hstop
  rw [Routing.forward_hop hP, Routing.forward_stop hstop]

variable (vms fw) in
/-- The own route of a host for an address it does not reach through the other host. -/
theorem lookup_host_onlink {h : HostId} (hup : up h = true) (hb : b ∈ m.labAddrs)
    (hown : h.other.ownNet.covers b = false) :
    ∃ r, lookup ((Node.host h).routes (netState vms up fw)) b = some r ∧ r.dev = "br0" ∧
      r.via = none := by
  obtain ⟨r, hr, hcov⟩ := (inLab_iff h b).mp (inLab_of_mem_labAddrs hb)
  refine ⟨r, ?_, ?_⟩
  · rw [routes_host vms up fw h hup, routes_configured]
    exact lookup_labRoutes (vms h) hr hcov
  · simp only [labRoutes, List.mem_cons, List.not_mem_nil, or_false] at hr
    rcases hr with rfl | rfl | rfl
    · rw [hown] at hcov
      cases hcov
    · exact ⟨rfl, rfl⟩
    · exact ⟨rfl, rfl⟩

/-- The route of a host for an address of the other host's pods. -/
theorem lookup_host_peer {h : HostId} (hup : up h = true) (hcov : h.other.ownNet.covers b = true) :
    lookup ((Node.host h).routes (netState vms up fw)) b =
      some ⟨h.other.ownNet, some h.other.conf.addr, "br0"⟩ := by
  rw [routes_host vms up fw h hup, routes_configured]
  exact lookup_labRoutes (vms h) List.mem_cons_self hcov

/-- A packet that a host sends for the other host's pods goes to the other host. -/
theorem send_host_peer {h : HostId} (hup : up h = true) (hother : up h.other = true)
    (hcov : h.other.ownNet.covers b = true) :
    send (netState vms up fw) ⟨a, b⟩ (.host h) =
      .hop (.arrived (.host h.other) (Node.host h.other).dev) := by
  have hnext : h.other.conf.addr ∈ (Node.host h.other).labAddrs := List.mem_cons_self
  exact send_hop (n := .host h) (m := .host h.other) hup (lookup_host_peer hup hcov) rfl hother
    hnext

/-- **From a host to anywhere**: a packet that a host sends arrives, by way of the other host
where it is for that host's pods.

**Proof sketch.** The route of the host for the destination decides. -/
theorem forward_from_host {P : Place} {h : HostId}
    (hP : step (netState vms up fw) k ⟨a, b⟩ P = send (netState vms up fw) ⟨a, b⟩ (.host h))
    (hup : up h = true) (hupm : up m.hostId = true) (hfw : m.hostId = h ∨ fw m.hostId = true)
    (ha : InLab a) (hb : b ∈ m.labAddrs) :
    Routing.forward (step (netState vms up fw) k ⟨a, b⟩) 3 P = some (.delivered m) := by
  cases hcov : h.other.ownNet.covers b with
  | false =>
    obtain ⟨r, hr, hdev, hvia⟩ := lookup_host_onlink vms fw hup hb hcov
    have hnext : r.via.getD b ∈ m.labAddrs := by
      rw [hvia]
      exact hb
    rw [send_hop (n := .host h) hup hr hdev hupm hnext] at hP
    exact Routing.forward_mono (forward_onlink hupm ha hb hP) (Nat.le_succ 2)
  | true =>
    have hm : m.hostId = h.other := hostId_of_covers hb hcov
    have hother : up h.other = true := hm ▸ hupm
    have hfw' : fw h.other = true := by
      rcases hfw with hsame | hfw
      · rw [hm] at hsame
        cases h <;> cases hsame
      · exact hm ▸ hfw
    rw [send_host_peer hup hother hcov] at hP
    rw [Routing.forward_hop hP]
    have harr := step_arrived vms fw k b (n := .host h.other) hother ha
    by_cases hself : b ∈ (Node.host h.other).addrs (netState vms up fw)
    · obtain rfl : Node.host h.other = m :=
        addrs_unique hself (mem_addrs hupm hb) (inLab_of_mem_labAddrs hb)
      rw [if_pos hself] at harr
      exact Routing.forward_stop harr 1
    · rw [if_neg hself, forwards_host, if_pos hfw'] at harr
      obtain ⟨r, hr, hdev, hvia⟩ := lookup_host_onlink vms fw hother hb (not_both_cover hcov)
      have hnext : r.via.getD b ∈ m.labAddrs := by
        rw [hvia]
        exact hb
      rw [send_hop (n := .host h.other) hother hr hdev hupm hnext] at harr
      exact forward_onlink hupm ha hb harr

/-- A packet that a pod sends beyond its network goes to its host. -/
theorem send_pod_gateway {h : HostId} {i : PodId} (hup : up h = true)
    (hcov : h.ownNet.covers b = false) (hne : b ≠ h.conf.addr) :
    send (netState vms up fw) ⟨a, b⟩ (.pod h i) =
      .hop (.arrived (.host h) (Node.host h).dev) := by
  have hr : lookup ((Node.pod h i).routes (netState vms up fw)) b =
      some ⟨⟨ip 0 0 0 0, 0⟩, some h.conf.addr, "eth0"⟩ := by
    rw [routes_pod, if_pos hup, routes_netnsOf, lookup_pod, hcov, if_neg Bool.false_ne_true,
      if_neg hne]
  have hnext : h.conf.addr ∈ (Node.host h).labAddrs := List.mem_cons_self
  exact send_hop (n := .pod h i) (m := .host h) hup hr rfl hup hnext

/-- A packet that a pod sends within its network, or to its host, goes to who it is for. -/
theorem send_pod_onlink {h : HostId} {i : PodId} (hup : up h = true) (hupm : up m.hostId = true)
    (hb : b ∈ m.labAddrs) (hnear : h.ownNet.covers b = true ∨ b = h.conf.addr) :
    send (netState vms up fw) ⟨a, b⟩ (.pod h i) = .hop (.arrived m m.dev) := by
  have hr : ∃ r, lookup ((Node.pod h i).routes (netState vms up fw)) b = some r ∧
      r.dev = "eth0" ∧ r.via = none := by
    rw [routes_pod, if_pos hup, routes_netnsOf, lookup_pod]
    refine ⟨_, rfl, ?_⟩
    split_ifs with hcov haddr
    · exact ⟨rfl, rfl⟩
    · exact ⟨rfl, rfl⟩
    · exact absurd (hnear.resolve_left hcov) haddr
  obtain ⟨r, hr, hdev, hvia⟩ := hr
  refine send_hop (n := .pod h i) hup hr hdev hupm ?_
  rw [hvia]
  exact hb

/-- **From anywhere to anywhere** that was brought up: between the two hosts both have to
forward. -/
theorem outcome_delivered (hup : up n.hostId = true) (hupm : up m.hostId = true)
    (hfw : n.hostId = m.hostId ∨ (fw n.hostId = true ∧ fw m.hostId = true)) (ha : InLab a)
    (hb : b ∈ m.labAddrs) :
    outcome (netState vms up fw) k ⟨a, b⟩ 64 n = some (.delivered m) := by
  have hfour : Routing.forward (step (netState vms up fw) k ⟨a, b⟩) 4 (.origin n) =
      some (.delivered m) := by
    by_cases hself : b ∈ n.addrs (netState vms up fw)
    · obtain rfl : n = m := addrs_unique hself (mem_addrs hupm hb) (inLab_of_mem_labAddrs hb)
      have hstop : step (netState vms up fw) k ⟨a, b⟩ (.origin n) = .stop (.delivered n) :=
        if_pos hself
      exact Routing.forward_stop hstop 3
    · have horigin : step (netState vms up fw) k ⟨a, b⟩ (.origin n) =
          send (netState vms up fw) ⟨a, b⟩ n := if_neg hself
      cases n with
      | host h =>
        have hfw' : m.hostId = h ∨ fw m.hostId = true := hfw.imp Eq.symm And.right
        exact Routing.forward_mono (forward_from_host horigin hup hupm hfw' ha hb) (Nat.le_succ 3)
      | pod h i =>
        have hup' : up h = true := hup
        by_cases hnear : h.ownNet.covers b = true ∨ b = h.conf.addr
        · rw [send_pod_onlink hup' hupm hb hnear] at horigin
          exact Routing.forward_mono (forward_onlink hupm ha hb horigin) (by decide)
        · rw [not_or, Bool.not_eq_true] at hnear
          have hfar : ¬ (Node.pod h i).hostId = m.hostId := by
            intro hsame
            have hm : m.hostId = h := hsame.symm
            rcases covers_of_mem_labAddrs hb with hcov | haddr
            · rw [hm, hnear.1] at hcov
              cases hcov
            · exact hnear.2 (hm ▸ haddr)
          obtain ⟨hfwn, hfwm⟩ := hfw.resolve_left hfar
          rw [send_pod_gateway hup' hnear.1 hnear.2] at horigin
          have harr := step_arrived vms fw k b (n := .host h) hup ha
          rw [Routing.forward_hop horigin]
          by_cases hhost : b ∈ (Node.host h).addrs (netState vms up fw)
          · obtain rfl : Node.host h = m :=
              addrs_unique hhost (mem_addrs hupm hb) (inLab_of_mem_labAddrs hb)
            exact absurd rfl hfar
          · have hfwn' : fw h = true := hfwn
            rw [if_neg hhost, forwards_host, if_pos hfwn'] at harr
            exact forward_from_host harr hup hupm (Or.inr hfwm) ha hb
  exact Routing.forward_mono hfour (by decide)

/-- A host that does not forward drops what is not for itself. -/
theorem forward_dropped {P : Place} {h : HostId} (ttl : ℕ)
    (hP : step (netState vms up fw) k ⟨a, b⟩ P = .hop (.arrived (.host h) (Node.host h).dev))
    (hup : up h = true) (hfw : fw h = false) (ha : InLab a)
    (hb : b ∉ (Node.host h).addrs (netState vms up fw)) :
    Routing.forward (step (netState vms up fw) k ⟨a, b⟩) (ttl + 2) P =
      some (.dropped (.host h)) := by
  have harr := step_arrived vms fw k b (n := .host h) hup ha
  rw [if_neg hb, forwards_host, hfw, if_neg Bool.false_ne_true] at harr
  rw [Routing.forward_hop hP, Routing.forward_stop harr]

/-- **Between the hosts both have to forward**: a packet from a pod to a pod of the other host
that arrives has been forwarded by both hosts.

**Proof sketch.** The first hop is to the host of the sender, the second to the other host; a
host that does not forward drops it. -/
theorem forwards_of_delivered {h : HostId} {i j : PodId} (hup : up h = true)
    (hother : up h.other = true) (ha : InLab a) (hb : b ∈ (Node.pod h.other j).labAddrs)
    (hreq : outcome (netState vms up fw) k ⟨a, b⟩ 64 (.pod h i) =
      some (.delivered (.pod h.other j))) : fw h = true ∧ fw h.other = true := by
  have hlab := inLab_of_mem_labAddrs hb
  have hmem : b ∈ (Node.pod h.other j).addrs (netState vms up fw) :=
    mem_addrs (n := .pod h.other j) hother hb
  have hnotHost : ∀ h', b ∉ (Node.host h').addrs (netState vms up fw) :=
    fun h' hb' => Node.noConfusion (addrs_unique hb' hmem hlab)
  have hnotPod : b ∉ (Node.pod h i).addrs (netState vms up fw) := by
    intro hb'
    have hpod := addrs_unique hb' hmem hlab
    cases h <;> cases hpod
  have hcov : h.other.ownNet.covers b = true := by
    rcases covers_of_mem_labAddrs hb with hcov | haddr
    · exact hcov
    · have hgw : b ∈ (Node.host h.other).labAddrs := haddr ▸ List.mem_cons_self
      exact absurd (mem_addrs (n := .host h.other) hother hgw) (hnotHost _)
  have hfar : h.ownNet.covers b = false := by
    have hback := not_both_cover hcov
    rwa [show h.other.other = h by cases h <;> rfl] at hback
  have hne : b ≠ h.conf.addr := by
    intro haddr
    have hgw : b ∈ (Node.host h).labAddrs := haddr ▸ List.mem_cons_self
    exact hnotHost h (mem_addrs (n := .host h) hup hgw)
  have hfirst : step (netState vms up fw) k ⟨a, b⟩ (.origin (.pod h i)) =
      .hop (.arrived (.host h) (Node.host h).dev) :=
    (if_neg hnotPod).trans (send_pod_gateway hup hfar hne)
  cases hfw : fw h with
  | false =>
    rw [outcome, forward_dropped 62 hfirst hup hfw ha (hnotHost h)] at hreq
    cases hreq
  | true =>
    refine ⟨rfl, ?_⟩
    have hsecond := step_arrived vms fw k b (n := .host h) hup ha
    rw [if_neg (hnotHost h), forwards_host, if_pos hfw, send_host_peer hup hother hcov] at hsecond
    cases hfw' : fw h.other with
    | true => rfl
    | false =>
      rw [outcome, Routing.forward_hop hfirst,
        forward_dropped 61 hsecond hother hfw' ha (hnotHost h.other)] at hreq
      cases hreq

end Delivery

/-- **When two pods reach each other**: after any history an echo request from one pod to
another arrives and its reply arrives iff the hosts of both were brought up and, where these are
two, both forward. Whether nodes check the way back to a source makes no difference.

**Proof sketch.** A pod has an address only if its host was brought up. Between the hosts the
request gets to the host of the sender and from there to the other one, and either drops it
unless it forwards. -/
theorem pods_ping_iff (vms : HostId → Vm) (history : List (HostId × Act)) (k : Kernel)
    (h h' : HostId) (i j : PodId) :
    Pings (netAfter vms history) k (.pod h i) (.pod h' j) (h.conf.pod i).addr
        (h'.conf.pod j).addr ↔
      broughtUp history h = true ∧ broughtUp history h' = true ∧
        (h = h' ∨ (forwarding vms history h = true ∧ forwarding vms history h' = true)) := by
  rw [netAfter_eq_netState]
  have hown : (h.conf.pod i).addr ∈ (Node.pod h i).labAddrs := List.mem_cons_self
  have hown' : (h'.conf.pod j).addr ∈ (Node.pod h' j).labAddrs := List.mem_cons_self
  constructor
  · rintro ⟨hreq, hrep⟩
    have hup' := up_of_mem_addrs (mem_addrs_of_delivered hreq)
    have hup := up_of_mem_addrs (mem_addrs_of_delivered hrep)
    refine ⟨hup, hup', ?_⟩
    by_cases hsame : h = h'
    · exact Or.inl hsame
    · right
      obtain rfl : h' = h.other := by
        cases h <;> cases h' <;> first | rfl | exact absurd rfl hsame
      exact forwards_of_delivered hup hup' (inLab_of_mem_labAddrs hown) hown' hreq
  · rintro ⟨hup, hup', hfw⟩
    have hfw' : h' = h ∨ (forwarding vms history h' = true ∧ forwarding vms history h = true) :=
      hfw.imp Eq.symm And.symm
    exact ⟨outcome_delivered hup hup' hfw (inLab_of_mem_labAddrs hown) hown',
      outcome_delivered hup' hup hfw' (inLab_of_mem_labAddrs hown') hown⟩

end PythonForFun.PodNetwork
