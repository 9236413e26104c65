import PythonForFun.NatLab.Tests
import PythonForFun.NatLab.Way

set_option relaxedAutoImplicit false
set_option autoImplicit false

/-!
# Who can reach whom in the iptables lab

Without rules the gateway and its two neighbours reach each other. `internal` and `outside` do
not: a request of `internal` may get through, but `outside` has no route for the reply, and for
a request of its own it has none either. The rule of `test_snat` opens the way from `internal`,
since the reply then goes to the gateway, and the one of `test_dnat` a single port of `internal`
for `outside`. The rule of `test_protocol` closes TCP between the gateway and `outside`, in both
directions.

## Main definitions

* `NatLab.arrives` — where a request comes to, and as which packet, with the rule of a test.

## Main results

* `NatLab.quiet_installed` — what the rules of the tests have in common.
* `NatLab.connection_installed` — every connection, with one rule or without any.
-/

namespace PythonForFun.NatLab

open Netfilter
open PodNetwork (Addr ip Net lookup)

/-! ## The tables with one rule -/

variable (i : Option LabTest)

/-- What comes in to `internal` is not rewritten. -/
theorem dnat_internal (p : Packet) : (installed i).dnat .internal p = p := by
  rcases i with _ | t
  · rfl
  · cases t <;> rfl

/-- What comes in to the gateway. -/
theorem dnat_gateway (p : Packet) : (installed i).dnat .gateway p =
    if i = some .dnat ∧ p.dst = ip 10 0 1 3 ∧ p.proto = .tcp ∧ p.dport = 8080 then
      { p with dst := ip 172 0 1 2, dport := 8080 }
    else p := by
  rcases i with _ | t
  · rfl
  · cases t with
    | dnat => simp [State.dnat, installed, LabTest.rule, Cmd.edit, State.editNat, blank, and_assoc]
    | _ => rfl

/-- What comes in to `outside`. -/
theorem dnat_outside (p : Packet) : (installed i).dnat .outside p =
    if i = some .redirect ∧ p.dst = ip 10 0 1 2 ∧ p.proto = .tcp ∧ p.dport = 48080 then
      { p with dport := 8080 }
    else p := by
  rcases i with _ | t
  · rfl
  · cases t with
    | redirect =>
      simp [State.dnat, installed, LabTest.rule, Cmd.edit, State.editNat, blank, and_assoc]
    | _ => rfl

/-- What goes out of `internal` or `outside` is not rewritten. -/
theorem snat_of_ne {h : HostId} (hne : h ≠ .gateway) (p : Packet) : (installed i).snat h p = p := by
  rcases i with _ | t
  · rfl
  · cases h with
    | gateway => exact absurd rfl hne
    | _ => cases t <;> rfl

/-- What goes out of the gateway. -/
theorem snat_gateway (p : Packet) : (installed i).snat .gateway p =
    if i = some .snat ∧ (⟨ip 172 0 1 0, 24⟩ : Net).covers p.src = true then
      { p with src := ip 10 0 1 3 }
    else p := by
  rcases i with _ | t
  · rfl
  · cases t with
    | snat => simp [State.snat, installed, LabTest.rule, Cmd.edit, State.editNat, blank]
    | _ => rfl

/-- `internal` and the gateway take in everything. -/
theorem accepts_of_ne {h : HostId} (hne : h ≠ .outside) (p : Packet) :
    accepts (installed i h).filter.input p = true := by
  rcases i with _ | t
  · rfl
  · cases h with
    | outside => exact absurd rfl hne
    | _ => cases t <;> rfl

/-- What `outside` takes in. -/
theorem accepts_outside (p : Packet) : accepts (installed i .outside).filter.input p =
    !decide (i = some .protocol ∧ p.src = ip 10 0 1 3 ∧ p.proto = .tcp) := by
  rcases i with _ | t
  · rfl
  · cases t with
    | protocol =>
      by_cases h : p.src = ip 10 0 1 3 ∧ p.proto = .tcp <;>
        simp [installed, LabTest.rule, Cmd.edit, State.editInput, blank, accepts, Chain.verdict,
          Chain.insert, Netfilter.traverse, h]
    | log =>
      simp [installed, LabTest.rule, Cmd.edit, State.editInput, blank, accepts, Chain.verdict,
        Chain.insert, Netfilter.traverse]
    | _ => rfl

/-- Every test keeps to destinations of what comes in, to sources of what goes out, and to what a
host takes in. -/
theorem quiet_installed : Quiet (installed i) where
  dnat_src h p := by
    cases h with
    | internal => rw [dnat_internal]
    | gateway => rw [dnat_gateway]; split_ifs <;> rfl
    | outside => rw [dnat_outside]; split_ifs <;> rfl
  snat_dst h p := by
    by_cases hg : h = .gateway
    · subst hg
      rw [snat_gateway]
      split_ifs <;> rfl
    · rw [snat_of_ne i hg]
  nat_output h := by
    rcases i with _ | t
    · rfl
    · cases t <;> cases h <;> rfl
  nat_input h := by
    rcases i with _ | t
    · rfl
    · cases t <;> cases h <;> rfl
  accepts_output h p := by
    rcases i with _ | t
    · rfl
    · cases t <;> cases h <;> rfl
  accepts_forward h p := by
    rcases i with _ | t
    · rfl
    · cases t <;> cases h <;> rfl

/-! ## Who sees whom -/

theorem internal_ne_gateway : ip 172 0 1 2 ≠ ip 10 0 1 3 := by decide

theorem outside_ne_gateway : ip 10 0 1 2 ≠ ip 10 0 1 3 := by decide

theorem gateway_mem_addrs : ip 10 0 1 3 ∈ HostId.gateway.addrs := by decide

theorem internal_sees_gateway {a : Addr} (ha : a ∈ HostId.gateway.addrs) :
    Sees .internal a .gateway "eth1" "eth1" := by
  simp only [HostId.addrs, HostId.links, List.map_cons, List.map_nil, List.mem_cons,
    List.not_mem_nil, or_false] at ha
  rcases ha with rfl | rfl
  · exact ⟨by decide, by decide, by decide⟩
  · exact ⟨by decide, by decide, by decide⟩

theorem internal_sees_outside : Sees .internal (ip 10 0 1 2) .gateway "eth1" "eth1" :=
  ⟨by decide, by decide, by decide⟩

theorem gateway_sees_internal : Sees .gateway (ip 172 0 1 2) .internal "eth1" "eth1" :=
  ⟨by decide, by decide, by decide⟩

theorem gateway_sees_outside : Sees .gateway (ip 10 0 1 2) .outside "eth2" "eth1" :=
  ⟨by decide, by decide, by decide⟩

theorem outside_sees_gateway : Sees .outside (ip 10 0 1 3) .gateway "eth1" "eth2" :=
  ⟨by decide, by decide, by decide⟩

/-! ## Connections -/

section Connections

variable (lab : Lab) (proto : Proto) (sport port : ℕ)

/-- A host reaches itself. -/
theorem roundTrip_own {c : HostId} {a : Addr} (ha : a ∈ c.addrs) :
    roundTrip lab (installed i) c ⟨proto, a, sport, a, port⟩ =
      some (c, (installed i).snat c ⟨proto, a, sport, a, port⟩) := by
  have hin : ∀ p : Packet, (c = .outside → p.src = a) →
      accepts (installed i c).filter.input p = true := by
    intro p hp
    by_cases hc : c = .outside
    · subst hc
      obtain rfl := List.mem_singleton.mp ha
      have hne : p.src ≠ ip 10 0 1 3 := by
        rw [hp rfl]
        decide
      simp [accepts_outside, hne]
    · exact accepts_of_ne i hc p
  refine roundTrip_self (quiet_installed i) ha ha (hin _ fun hc => ?_) (hin _ fun _ => rfl)
  subst hc
  rw [snat_of_ne i (by decide)]

/-- `internal` reaches the gateway, unless the gateway sends the request back. -/
theorem roundTrip_internal_gateway {a : Addr} (ha : a ∈ HostId.gateway.addrs)
    (hi : ¬ (i = some .dnat ∧ a = ip 10 0 1 3 ∧ proto = .tcp ∧ port = 8080)) :
    roundTrip lab (installed i) .internal ⟨proto, ip 172 0 1 2, sport, a, port⟩ =
      some (.gateway, ⟨proto, ip 172 0 1 2, sport, a, port⟩) :=
  roundTrip_neighbour (quiet_installed i) (by decide) (snat_of_ne i (by decide) _)
    ((dnat_gateway i _).trans (if_neg hi)) (internal_sees_gateway ha) gateway_sees_internal ha
    (accepts_of_ne i (by decide) _) (List.mem_singleton_self _) (accepts_of_ne i (by decide) _)

/-- What the gateway sends back to `internal` has the source of `internal`. -/
theorem roundTrip_hairpin (sport : ℕ) :
    roundTrip lab (installed (some .dnat)) .internal
      ⟨.tcp, ip 172 0 1 2, sport, ip 10 0 1 3, 8080⟩ = none := by
  refine roundTrip_of_spoofed (quiet_installed _) (snat_of_ne _ (by decide) _)
    ((dnat_gateway _ _).trans (if_pos ⟨rfl, rfl, rfl, rfl⟩)) ((snat_gateway _ _).trans (if_neg ?_))
    (dnat_internal _ _) (internal_sees_gateway gateway_mem_addrs)
    (gateway_sees_internal.spoofed_eq lab) gateway_sees_internal ?_
  · simp
  · simp [spoofed, HostId.addrs, HostId.links]

/-- With the rule of `test_snat` `internal` reaches `outside`, and is taken for the gateway. -/
theorem roundTrip_internal_outside :
    roundTrip lab (installed (some .snat)) .internal
      ⟨proto, ip 172 0 1 2, sport, ip 10 0 1 2, port⟩ =
      some (.outside, ⟨proto, ip 10 0 1 3, sport, ip 10 0 1 2, port⟩) := by
  have hcovers : (⟨ip 172 0 1 0, 24⟩ : Net).covers (ip 172 0 1 2) = true := by decide
  refine roundTrip_through (quiet_installed _) (by decide) (by decide) (by decide)
    (snat_of_ne _ (by decide) _) ((dnat_gateway _ _).trans (if_neg (by simp)))
    ((snat_gateway _ _).trans (if_pos ⟨rfl, hcovers⟩))
    ((dnat_outside _ _).trans (if_neg (by simp))) internal_sees_outside gateway_sees_internal
    gateway_sees_outside outside_sees_gateway (List.mem_singleton_self _) ?_
    (List.mem_singleton_self _) (accepts_of_ne _ (by decide) _)
  simp [accepts_outside]

/-- Without it `outside` has no way back, if the request comes to it at all. -/
theorem roundTrip_internal_outside_eq_none (hi : i ≠ some .snat) :
    roundTrip lab (installed i) .internal ⟨proto, ip 172 0 1 2, sport, ip 10 0 1 2, port⟩ =
      none := by
  have hquiet := quiet_installed i
  have hq := snat_of_ne i (h := .internal) (by decide)
    ⟨proto, ip 172 0 1 2, sport, ip 10 0 1 2, port⟩
  have hr := (dnat_gateway i ⟨proto, ip 172 0 1 2, sport, ip 10 0 1 2, port⟩).trans
    (if_neg fun h => outside_ne_gateway h.2.1)
  have ht := (snat_gateway i ⟨proto, ip 172 0 1 2, sport, ip 10 0 1 2, port⟩).trans
    (if_neg fun h => hi h.1)
  obtain ⟨u, hu⟩ : ∃ u, (installed i).dnat .outside
    ⟨proto, ip 172 0 1 2, sport, ip 10 0 1 2, port⟩ = u := ⟨_, rfl⟩
  have husrc : u.src = ip 172 0 1 2 := hu ▸ hquiet.dnat_src .outside _
  have hudst : u.dst = ip 10 0 1 2 := by
    rw [← hu, dnat_outside]
    split_ifs <;> rfl
  have hspoofed := gateway_sees_internal.spoofed_eq lab
  by_cases hrp : lab.rpFilter .outside = true
  · refine roundTrip_of_spoofed hquiet hq hr ht hu internal_sees_outside hspoofed
      gateway_sees_outside ?_
    have hroute : (lookup HostId.outside.routes (ip 172 0 1 2)).map Routing.Route.dev =
        some "eth0" := by decide
    rw [husrc, spoofed, hrp, hroute]
    rfl
  · have hin : accepts (installed i .outside).filter.input u = true := by
      simp [accepts_outside, husrc, internal_ne_gateway]
    have hunknown : ip 172 0 1 2 ∉ HostId.outside.addrs := by decide
    have hnoway : nextHop .outside (ip 172 0 1 2) = none := by decide
    have hbelieved : spoofed lab .outside "eth1" u.src = false := by
      simp [spoofed, husrc, hrp, hunknown]
    refine roundTrip_of_answer_lost (outcome_through hquiet hq hr ht hu internal_sees_outside
      hspoofed gateway_sees_outside hbelieved (hudst ▸ List.mem_singleton_self _) hin)
      (Routing.forward_stop (step_sent_unreachable
        ((answer_nat (Function.update_self ..) _ _).trans (undo_dst _ u).2) hunknown hnoway) 63)

/-- The gateway reaches `internal`. -/
theorem roundTrip_gateway_internal :
    roundTrip lab (installed i) .gateway ⟨proto, ip 172 0 1 254, sport, ip 172 0 1 2, port⟩ =
      some (.internal, ⟨proto, if i = some .snat then ip 10 0 1 3 else ip 172 0 1 254, sport,
        ip 172 0 1 2, port⟩) := by
  have hcovers : (⟨ip 172 0 1 0, 24⟩ : Net).covers (ip 172 0 1 254) = true := by decide
  have hq : (installed i).snat .gateway ⟨proto, ip 172 0 1 254, sport, ip 172 0 1 2, port⟩ =
      ⟨proto, if i = some .snat then ip 10 0 1 3 else ip 172 0 1 254, sport, ip 172 0 1 2,
        port⟩ := by
    rw [snat_gateway]
    by_cases hi : i = some .snat
    · rw [if_pos ⟨hi, hcovers⟩, if_pos hi]
    · rw [if_neg fun h => hi h.1, if_neg hi]
  refine roundTrip_neighbour (quiet_installed i) (by decide) hq (dnat_internal i _)
    gateway_sees_internal (internal_sees_gateway ?_) (List.mem_singleton_self _)
    (accepts_of_ne i (by decide) _) (List.mem_cons_self ..) (accepts_of_ne i (by decide) _)
  show (if i = some .snat then ip 10 0 1 3 else ip 172 0 1 254) ∈ HostId.gateway.addrs
  split_ifs
  · exact gateway_mem_addrs
  · exact List.mem_cons_self ..

/-- The gateway reaches `outside`, which may redirect it to another port. -/
theorem roundTrip_gateway_outside (hi : ¬ (i = some .protocol ∧ proto = .tcp)) :
    roundTrip lab (installed i) .gateway ⟨proto, ip 10 0 1 3, sport, ip 10 0 1 2, port⟩ =
      some (.outside, ⟨proto, ip 10 0 1 3, sport, ip 10 0 1 2,
        if i = some .redirect ∧ proto = .tcp ∧ port = 48080 then 8080 else port⟩) := by
  have hcovers : (⟨ip 172 0 1 0, 24⟩ : Net).covers (ip 10 0 1 3) = false := by decide
  have hr : (installed i).dnat .outside ⟨proto, ip 10 0 1 3, sport, ip 10 0 1 2, port⟩ =
      ⟨proto, ip 10 0 1 3, sport, ip 10 0 1 2,
        if i = some .redirect ∧ proto = .tcp ∧ port = 48080 then 8080 else port⟩ := by
    rw [dnat_outside]
    by_cases hredirect : i = some .redirect ∧ proto = .tcp ∧ port = 48080
    · rw [if_pos hredirect, if_pos ⟨hredirect.1, rfl, hredirect.2⟩]
    · rw [if_neg hredirect, if_neg fun h => hredirect ⟨h.1, h.2.2⟩]
  refine roundTrip_neighbour (quiet_installed i) (by decide)
    ((snat_gateway i _).trans (if_neg fun h => ?_)) hr gateway_sees_outside outside_sees_gateway
    (List.mem_singleton_self _) ?_ gateway_mem_addrs (accepts_of_ne i (by decide) _)
  · exact Bool.false_ne_true (hcovers.symm.trans h.2)
  · rw [accepts_outside, Bool.not_eq_true']
    exact decide_eq_false fun h => hi ⟨h.1, h.2.2⟩

/-- The rule of `test_protocol` keeps it out. -/
theorem roundTrip_gateway_outside_rejected :
    roundTrip lab (installed (some .protocol)) .gateway
      ⟨.tcp, ip 10 0 1 3, sport, ip 10 0 1 2, port⟩ = none :=
  roundTrip_of_refused (quiet_installed _) ((snat_gateway _ _).trans (if_neg (by simp)))
    ((dnat_outside _ _).trans (if_neg (by simp))) gateway_sees_outside
    (List.mem_singleton_self _) (by simp [accepts_outside])

/-- `outside` reaches the gateway. -/
theorem roundTrip_outside_gateway (hi : ¬ (i = some .protocol ∧ proto = .tcp))
    (hi' : ¬ (i = some .dnat ∧ proto = .tcp ∧ port = 8080)) :
    roundTrip lab (installed i) .outside ⟨proto, ip 10 0 1 2, sport, ip 10 0 1 3, port⟩ =
      some (.gateway, ⟨proto, ip 10 0 1 2, sport, ip 10 0 1 3, port⟩) := by
  refine roundTrip_neighbour (quiet_installed i) (by decide) (snat_of_ne i (by decide) _)
    ((dnat_gateway i _).trans (if_neg fun h => hi' ⟨h.1, h.2.2⟩)) outside_sees_gateway
    gateway_sees_outside gateway_mem_addrs (accepts_of_ne i (by decide) _)
    (List.mem_singleton_self _) ?_
  rw [accepts_outside, Bool.not_eq_true']
  exact decide_eq_false fun h => hi ⟨h.1, h.2.2⟩

/-- The rule of `test_protocol` keeps the reply out. -/
theorem roundTrip_outside_gateway_rejected :
    roundTrip lab (installed (some .protocol)) .outside
      ⟨.tcp, ip 10 0 1 2, sport, ip 10 0 1 3, port⟩ = none :=
  roundTrip_of_answer_refused (quiet_installed _) (by decide) (snat_of_ne _ (by decide) _)
    ((dnat_gateway _ _).trans (if_neg (by simp))) outside_sees_gateway gateway_sees_outside
    gateway_mem_addrs (accepts_of_ne _ (by decide) _) (List.mem_singleton_self _)
    (by simp [accepts_outside, halfway, Packet.reply])

/-- The rule of `test_dnat` takes `outside` to `internal`. -/
theorem roundTrip_outside_internal :
    roundTrip lab (installed (some .dnat)) .outside
      ⟨.tcp, ip 10 0 1 2, sport, ip 10 0 1 3, 8080⟩ =
      some (.internal, ⟨.tcp, ip 10 0 1 2, sport, ip 172 0 1 2, 8080⟩) := by
  have hr := (dnat_gateway (some .dnat) ⟨.tcp, ip 10 0 1 2, sport, ip 10 0 1 3, 8080⟩).trans
    (if_pos ⟨rfl, rfl, rfl, rfl⟩)
  refine roundTrip_through (quiet_installed _) (by decide) (by decide) (by decide)
    (snat_of_ne _ (by decide) _) hr ((snat_gateway _ _).trans (if_neg (by simp)))
    (dnat_internal _ _) outside_sees_gateway gateway_sees_outside gateway_sees_internal
    internal_sees_outside (List.mem_singleton_self _) (accepts_of_ne _ (by decide) _)
    (List.mem_singleton_self _) ?_
  simp [accepts_outside]

end Connections

/-! ## Every connection -/

/-- Where a packet of the host `c` for an address of the host `h` on the network comes to, and as
which packet, when the tables hold the rule of a test and no other, or none. -/
def arrives (i : Option LabTest) (c h : HostId) (g : Segment) (p : Packet) :
    Option (HostId × Packet) :=
  match c, h, g with
  | .internal, .gateway, .outer =>
    if i = some .dnat ∧ p.proto = .tcp ∧ p.dport = 8080 then none else some (.gateway, p)
  | .internal, .outside, _ =>
    if i = some .snat then some (.outside, { p with src := ip 10 0 1 3 }) else none
  | .gateway, .internal, _ | .gateway, .gateway, .inner =>
    some (h, if i = some .snat then { p with src := ip 10 0 1 3 } else p)
  | .gateway, .outside, _ =>
    if i = some .protocol ∧ p.proto = .tcp then none
    else if i = some .redirect ∧ p.proto = .tcp ∧ p.dport = 48080 then
      some (.outside, { p with dport := 8080 })
    else some (.outside, p)
  | .outside, .internal, _ | .outside, .gateway, .inner => none
  | .outside, .gateway, .outer =>
    if i = some .protocol ∧ p.proto = .tcp then none
    else if i = some .dnat ∧ p.proto = .tcp ∧ p.dport = 8080 then
      some (.internal, { p with dst := ip 172 0 1 2 })
    else some (.gateway, p)
  | _, _, _ => some (h, p)

section EveryConnection

variable (lab : Lab) (proto : Proto) (port : ℕ)

/-- A connection to an address that the host has a source address for. -/
theorem connection_of_source {s : State} {c : HostId} {a : Addr} (src : Addr)
    (h : c.source a = some src) {f : Packet → Option (HostId × Packet)}
    (hf : roundTrip lab s c ⟨proto, src, lab.sport c a port, a, port⟩ =
      f ⟨proto, src, lab.sport c a port, a, port⟩) :
    connection lab s c proto a port = (request lab c proto a port).bind f := by
  rw [connection, request, h]
  exact hf

/-- A connection to an address out of reach. -/
theorem connection_of_source_eq_none {s : State} {c : HostId} {a : Addr} (h : c.source a = none)
    (f : Packet → Option (HostId × Packet)) :
    connection lab s c proto a port = (request lab c proto a port).bind f := by
  rw [connection, request, h]
  rfl

/-- The connections of `internal`. -/
theorem connection_internal (h : HostId) {l : Link} (hl : l ∈ h.links) :
    connection lab (installed i) .internal proto l.addr port =
      (request lab .internal proto l.addr port).bind (arrives i .internal h l.segment) := by
  cases h with
  | internal =>
    obtain rfl := List.mem_singleton.mp hl
    refine connection_of_source lab proto port (ip 172 0 1 2) (by decide) ?_
    rw [roundTrip_own i lab proto _ port (List.mem_singleton_self _), snat_of_ne i (by decide)]
    rfl
  | gateway =>
    rcases List.mem_pair.mp hl with rfl | rfl
    · refine connection_of_source lab proto port (ip 172 0 1 2) (by decide) ?_
      exact roundTrip_internal_gateway i lab proto _ port (by decide) fun h =>
        absurd h.2.1 (by decide)
    · refine connection_of_source lab proto port (ip 172 0 1 2) (by decide) ?_
      show _ = if i = some .dnat ∧ proto = .tcp ∧ port = 8080 then _ else _
      split_ifs with hi
      · obtain ⟨rfl, rfl, rfl⟩ := hi
        exact roundTrip_hairpin lab _
      · exact roundTrip_internal_gateway i lab proto _ port gateway_mem_addrs fun h =>
          hi ⟨h.1, h.2.2⟩
  | outside =>
    obtain rfl := List.mem_singleton.mp hl
    refine connection_of_source lab proto port (ip 172 0 1 2) (by decide) ?_
    show _ = if i = some .snat then _ else _
    split_ifs with hi
    · subst hi
      exact roundTrip_internal_outside lab proto _ port
    · exact roundTrip_internal_outside_eq_none i lab proto _ port hi

/-- The connections of the gateway. -/
theorem connection_gateway (h : HostId) {l : Link} (hl : l ∈ h.links) :
    connection lab (installed i) .gateway proto l.addr port =
      (request lab .gateway proto l.addr port).bind (arrives i .gateway h l.segment) := by
  cases h with
  | internal =>
    obtain rfl := List.mem_singleton.mp hl
    refine connection_of_source lab proto port (ip 172 0 1 254) (by decide) ?_
    rw [roundTrip_gateway_internal]
    show _ = some (HostId.internal, if i = some .snat then _ else _)
    split_ifs <;> rfl
  | gateway =>
    rcases List.mem_pair.mp hl with rfl | rfl
    · refine connection_of_source lab proto port (ip 172 0 1 254) (by decide) ?_
      rw [roundTrip_own i lab proto _ port (by decide), snat_gateway]
      have hcovers : (⟨ip 172 0 1 0, 24⟩ : Net).covers (ip 172 0 1 254) = true := by decide
      show _ = some (HostId.gateway, if i = some .snat then _ else _)
      simp only [hcovers, and_true]
    · refine connection_of_source lab proto port (ip 10 0 1 3) (by decide) ?_
      have hcovers : (⟨ip 172 0 1 0, 24⟩ : Net).covers (ip 10 0 1 3) ≠ true := by decide
      rw [roundTrip_own i lab proto _ port gateway_mem_addrs, snat_gateway,
        if_neg fun h => hcovers h.2]
      rfl
  | outside =>
    obtain rfl := List.mem_singleton.mp hl
    refine connection_of_source lab proto port (ip 10 0 1 3) (by decide) ?_
    show _ = if i = some .protocol ∧ proto = .tcp then _ else _
    split_ifs with hi hredirect
    · obtain ⟨rfl, rfl⟩ := hi
      exact roundTrip_gateway_outside_rejected lab _ port
    · rw [roundTrip_gateway_outside i lab proto _ port hi, if_pos hredirect]
    · rw [roundTrip_gateway_outside i lab proto _ port hi, if_neg hredirect]

/-- The connections of `outside`. -/
theorem connection_outside (h : HostId) {l : Link} (hl : l ∈ h.links) :
    connection lab (installed i) .outside proto l.addr port =
      (request lab .outside proto l.addr port).bind (arrives i .outside h l.segment) := by
  cases h with
  | internal =>
    obtain rfl := List.mem_singleton.mp hl
    exact connection_of_source_eq_none lab proto port (by decide) _
  | gateway =>
    rcases List.mem_pair.mp hl with rfl | rfl
    · exact connection_of_source_eq_none lab proto port (by decide) _
    · refine connection_of_source lab proto port (ip 10 0 1 2) (by decide) ?_
      show _ = if i = some .protocol ∧ proto = .tcp then _ else _
      split_ifs with hi hdnat
      · obtain ⟨rfl, rfl⟩ := hi
        exact roundTrip_outside_gateway_rejected lab _ port
      · obtain ⟨rfl, rfl, rfl⟩ := hdnat
        exact roundTrip_outside_internal lab _
      · exact roundTrip_outside_gateway i lab proto _ port hi hdnat
  | outside =>
    obtain rfl := List.mem_singleton.mp hl
    refine connection_of_source lab proto port (ip 10 0 1 2) (by decide) ?_
    rw [roundTrip_own i lab proto _ port (List.mem_singleton_self _), snat_of_ne i (by decide)]
    rfl

/-- **Every connection**, with the rule of a test or without any. -/
theorem connection_installed (c h : HostId) {l : Link} (hl : l ∈ h.links) :
    connection lab (installed i) c proto l.addr port =
      (request lab c proto l.addr port).bind (arrives i c h l.segment) := by
  cases c with
  | internal => exact connection_internal i lab proto port h hl
  | gateway => exact connection_gateway i lab proto port h hl
  | outside => exact connection_outside i lab proto port h hl

end EveryConnection

end PythonForFun.NatLab
