import PythonForFun.NatLab.Hosts

set_option relaxedAutoImplicit false
set_option autoImplicit false

/-!
# The way of a request and of its reply

The hosts of the lab that a request comes through rewrite it, each for itself. On the way back the
reply meets them in the opposite order, and each puts back what it had changed: on the network
between two hosts the reply is the reply to what was there before, and the client gets the reply
to what it sent. What may keep the reply away are the routes and the filters.

## Main definitions

* `NatLab.Quiet` — tables that rewrite packets only as they come in or go out, and that filter
  only what a host takes in.

## Main results

* `NatLab.roundTrip_self`, `NatLab.roundTrip_neighbour`, `NatLab.roundTrip_through` — connections
  within a host, between neighbours, and through the gateway.
-/

namespace PythonForFun.NatLab

open Netfilter
open PodNetwork (Addr lookup)

/-! ## Undoing -/

/-- The reply gets back its destination. -/
theorem undo_dst (o t : Packet) :
    undo o t .prerouting t.reply = halfway o t ∧ undo o t .output t.reply = halfway o t :=
  ⟨if_pos rfl, if_pos rfl⟩

/-- **Both steps together** make the reply to `t` the reply to `o`. -/
theorem undo_src (o t : Packet) :
    undo o t .postrouting (halfway o t) = o.reply ∧ undo o t .input (halfway o t) = o.reply :=
  ⟨if_pos rfl, if_pos rfl⟩

/-- What is undone stays so. -/
theorem undo_input_reply (o t : Packet) : undo o t .input o.reply = o.reply :=
  ite_self o.reply

/-! ## Addresses as a host sees them -/

/-- Packets for the address leave the host through `dev` and come to the host `h` through
`dev'`. -/
structure Sees (c : HostId) (a : Addr) (h : HostId) (dev dev' : String) : Prop where
  notMem : a ∉ c.addrs
  route_dev : (lookup c.routes a).map Routing.Route.dev = some dev
  nextHop_eq : nextHop c a = some (h, dev')

/-- What comes from such an address is believed, whether the route back is checked or not. -/
theorem Sees.spoofed_eq {c h : HostId} {a : Addr} {dev dev' : String}
    (hsees : Sees c a h dev dev') (lab : Lab) : spoofed lab c dev a = false := by
  rw [spoofed, hsees.route_dev, bne_self_eq_false, Bool.and_false, Bool.or_false]
  exact decide_eq_false hsees.notMem

/-! ## Steps -/

section Steps

variable {lab : Lab} {v : Hooks} {h h' : HostId} {dev dev' : String} {p q : Packet}
  {tracked : Tracked}

/-- What a host sends to another one. -/
theorem step_sent (hq : v.nat h .output p = q) (hout : accepts (v.filter h).output q = true)
    (hdst : q.dst ∉ h.addrs) (hhop : nextHop h q.dst = some (h', dev)) :
    step lab v ⟨h, none, p, tracked⟩ =
      .hop ⟨h', some dev, v.nat h .postrouting q,
        Function.update tracked h (some (p, v.nat h .postrouting q))⟩ := by
  show (if accepts (v.filter h).output (v.nat h .output p) = true then _ else _) = _
  rw [hq, if_pos hout, if_neg hdst, send, hhop]
  rfl

/-- What a host sends along no route. -/
theorem step_sent_unreachable (hq : v.nat h .output p = q) (hdst : q.dst ∉ h.addrs)
    (hhop : nextHop h q.dst = none) : step lab v ⟨h, none, p, tracked⟩ = .stop .lost := by
  show (if accepts (v.filter h).output (v.nat h .output p) = true then _ else _) = _
  rw [hq, if_neg hdst, send, hhop]
  exact ite_self _

/-- What a host sends to itself. -/
theorem step_sent_self (hq : v.nat h .output p = q) (hout : accepts (v.filter h).output q = true)
    (hdst : q.dst ∈ h.addrs)
    (hin : accepts (v.filter h).input (v.nat h .postrouting q) = true) :
    step lab v ⟨h, none, p, tracked⟩ =
      .stop (.delivered h (v.nat h .input (v.nat h .postrouting q))
        (Function.update tracked h (some (p, v.nat h .input (v.nat h .postrouting q))))) := by
  show (if accepts (v.filter h).output (v.nat h .output p) = true then _ else _) = _
  rw [hq, if_pos hout, if_pos hdst, deliver, if_pos hin]
  rfl

/-- What comes in with a source that is not believed. -/
theorem step_spoofed (hq : v.nat h .prerouting p = q)
    (hspoofed : spoofed lab h dev q.src = true) :
    step lab v ⟨h, some dev, p, tracked⟩ = .stop .lost := by
  show (if spoofed lab h dev (v.nat h .prerouting p).src = true then _ else _) = _
  rw [hq, if_pos hspoofed]

/-- What comes in for the host. -/
theorem step_arrived (hq : v.nat h .prerouting p = q)
    (hspoofed : spoofed lab h dev q.src = false) (hdst : q.dst ∈ h.addrs)
    (hin : accepts (v.filter h).input q = true) :
    step lab v ⟨h, some dev, p, tracked⟩ =
      .stop (.delivered h (v.nat h .input q)
        (Function.update tracked h (some (p, v.nat h .input q)))) := by
  show (if spoofed lab h dev (v.nat h .prerouting p).src = true then _ else _) = _
  rw [hq, hspoofed, if_neg Bool.false_ne_true, if_pos hdst, deliver, if_pos hin]
  rfl

/-- What comes in for the host, and is filtered. -/
theorem step_refused (hq : v.nat h .prerouting p = q) (hdst : q.dst ∈ h.addrs)
    (hin : accepts (v.filter h).input q = false) :
    step lab v ⟨h, some dev, p, tracked⟩ = .stop .lost := by
  show (if spoofed lab h dev (v.nat h .prerouting p).src = true then _ else _) = _
  rw [hq, if_pos hdst, deliver, hin, if_neg Bool.false_ne_true]
  exact ite_self _

/-- What comes in for another host. -/
theorem step_forwarded (hq : v.nat .gateway .prerouting p = q)
    (hspoofed : spoofed lab .gateway dev q.src = false) (hdst : q.dst ∉ HostId.gateway.addrs)
    (hforward : accepts (v.filter .gateway).forward q = true)
    (hhop : nextHop .gateway q.dst = some (h', dev')) :
    step lab v ⟨.gateway, some dev, p, tracked⟩ =
      .hop ⟨h', some dev', v.nat .gateway .postrouting q,
        Function.update tracked .gateway (some (p, v.nat .gateway .postrouting q))⟩ := by
  show (if spoofed lab .gateway dev (v.nat .gateway .prerouting p).src = true then _ else _) = _
  have hpass : (HostId.gateway.ipForward && accepts (v.filter .gateway).forward q) = true :=
    hforward
  rw [hq, hspoofed, if_neg Bool.false_ne_true, if_neg hdst, if_pos hpass, send, hhop]
  rfl

end Steps

/-! ## Round trips -/

/-- What a host makes of a packet that comes in. -/
def State.dnat (s : State) (h : HostId) (p : Packet) : Packet :=
  translate ((s h).nat .prerouting) p

/-- What a host makes of a packet that goes out. -/
def State.snat (s : State) (h : HostId) (p : Packet) : Packet :=
  translate ((s h).nat .postrouting) p

/-- The tables rewrite the destination of a packet that comes in and the source of one that goes
out, and nothing else; and they filter only what a host takes in. -/
structure Quiet (s : State) : Prop where
  dnat_src : ∀ h p, (s.dnat h p).src = p.src
  snat_dst : ∀ h p, (s.snat h p).dst = p.dst
  nat_output : ∀ h, (s h).nat .output = []
  nat_input : ∀ h, (s h).nat .input = []
  accepts_output : ∀ h p, accepts (s h).filter.output p = true
  accepts_forward : ∀ h p, accepts (s h).filter.forward p = true

section RoundTrip

variable {lab : Lab} {s : State} {c h : HostId} {dev dev' : String} {p q r : Packet}
  {tracked tracked' : Tracked}

/-- What a host sends or takes in is not rewritten. -/
theorem Quiet.request_nat (hs : Quiet s) (h : HostId) (p : Packet) :
    s.request.nat h .output p = p ∧ s.request.nat h .input p = p := by
  constructor
  · show translate ((s h).nat .output) p = p
    rw [hs.nat_output, translate_nil]
  · show translate ((s h).nat .input) p = p
    rw [hs.nat_input, translate_nil]

/-- What a host that took part does to the reply. -/
theorem answer_nat {o t : Packet} (htracked : tracked h = some (o, t)) (k : NatHook) (p : Packet) :
    (s.answer tracked).nat h k p = undo o t k p := by
  simp only [State.answer, htracked]

/-- A request that is delivered, and its reply too. -/
theorem roundTrip_eq_some (hreq : outcome lab s.request c p = some (.delivered h q tracked))
    (hans : outcome lab (s.answer tracked) h q.reply = some (.delivered c p.reply tracked')) :
    roundTrip lab s c p = some (h, q) := by
  simp only [roundTrip, hreq, hans, and_self, if_true]

/-- A request that is lost. -/
theorem roundTrip_of_request_lost (hreq : outcome lab s.request c p = some .lost) :
    roundTrip lab s c p = none := by
  simp only [roundTrip, hreq]

/-- A request whose reply is lost. -/
theorem roundTrip_of_answer_lost (hreq : outcome lab s.request c p = some (.delivered h q tracked))
    (hans : outcome lab (s.answer tracked) h q.reply = some .lost) :
    roundTrip lab s c p = none := by
  simp only [roundTrip, hreq, hans]

/-! ### Requests -/

/-- A request leaves its host. -/
theorem request_sent (hs : Quiet s) (hdst : p.dst ∉ c.addrs)
    (hhop : nextHop c p.dst = some (h, dev)) :
    step lab s.request ⟨c, none, p, tracked⟩ =
      .hop ⟨h, some dev, s.snat c p, Function.update tracked c (some (p, s.snat c p))⟩ :=
  step_sent (hs.request_nat c p).1 (hs.accepts_output c p) hdst hhop

/-- A request comes to the gateway, and is for another host. -/
theorem request_forwarded (hs : Quiet s) (hq : s.dnat .gateway p = q)
    (hspoofed : spoofed lab .gateway dev q.src = false) (hdst : q.dst ∉ HostId.gateway.addrs)
    (hhop : nextHop .gateway q.dst = some (h, dev')) :
    step lab s.request ⟨.gateway, some dev, p, tracked⟩ =
      .hop ⟨h, some dev', s.snat .gateway q,
        Function.update tracked .gateway (some (p, s.snat .gateway q))⟩ :=
  step_forwarded hq hspoofed hdst (hs.accepts_forward .gateway q) hhop

/-- A request comes to where it is for. -/
theorem request_arrived (hs : Quiet s) (hq : s.dnat h p = q)
    (hspoofed : spoofed lab h dev q.src = false) (hdst : q.dst ∈ h.addrs)
    (hin : accepts (s h).filter.input q = true) :
    step lab s.request ⟨h, some dev, p, tracked⟩ =
      .stop (.delivered h q (Function.update tracked h (some (p, q)))) := by
  have hstep : step lab s.request ⟨h, some dev, p, tracked⟩ = _ :=
    step_arrived hq hspoofed hdst hin
  rwa [(hs.request_nat h q).2] at hstep

/-! ### Replies -/

/-- The reply leaves its host. -/
theorem answer_sent (hs : Quiet s) (htracked : tracked h = some (p, q)) (hdst : p.src ∉ h.addrs)
    (hhop : nextHop h p.src = some (c, dev)) :
    step lab (s.answer tracked) ⟨h, none, q.reply, tracked'⟩ =
      .hop ⟨c, some dev, p.reply, Function.update tracked' h (some (q.reply, p.reply))⟩ := by
  have hstep : step lab (s.answer tracked) ⟨h, none, q.reply, tracked'⟩ = _ :=
    step_sent ((answer_nat htracked _ _).trans (undo_dst p q).2) (hs.accepts_output h _) hdst hhop
  rwa [answer_nat htracked, (undo_src p q).1] at hstep

/-- The reply comes to the gateway, and is for another host. -/
theorem answer_forwarded (hs : Quiet s) (htracked : tracked .gateway = some (p, q))
    (hspoofed : spoofed lab .gateway dev q.dst = false) (hdst : p.src ∉ HostId.gateway.addrs)
    (hhop : nextHop .gateway p.src = some (c, dev')) :
    step lab (s.answer tracked) ⟨.gateway, some dev, q.reply, tracked'⟩ =
      .hop ⟨c, some dev', p.reply,
        Function.update tracked' .gateway (some (q.reply, p.reply))⟩ := by
  have hstep : step lab (s.answer tracked) ⟨.gateway, some dev, q.reply, tracked'⟩ = _ :=
    step_forwarded ((answer_nat htracked _ _).trans (undo_dst p q).1) hspoofed hdst
    (hs.accepts_forward .gateway _) hhop
  rwa [answer_nat htracked, (undo_src p q).1] at hstep

/-- The reply comes to the client. -/
theorem answer_arrived (htracked : tracked c = some (p, q))
    (hspoofed : spoofed lab c dev q.dst = false) (hdst : p.src ∈ c.addrs)
    (hin : accepts (s c).filter.input (halfway p q) = true) :
    step lab (s.answer tracked) ⟨c, some dev, q.reply, tracked'⟩ =
      .stop (.delivered c p.reply (Function.update tracked' c (some (q.reply, p.reply)))) := by
  have hstep : step lab (s.answer tracked) ⟨c, some dev, q.reply, tracked'⟩ = _ :=
    step_arrived ((answer_nat htracked _ _).trans (undo_dst p q).1) hspoofed hdst hin
  rwa [answer_nat htracked, (undo_src p q).2] at hstep

/-! ### Connections -/

/-- **A connection within a host.** -/
theorem roundTrip_self (hs : Quiet s) (hdst : p.dst ∈ c.addrs) (hsrc : p.src ∈ c.addrs)
    (hin : accepts (s c).filter.input (s.snat c p) = true)
    (hin' : accepts (s c).filter.input p.reply = true) :
    roundTrip lab s c p = some (c, s.snat c p) := by
  have hreq : step lab s.request ⟨c, none, p, fun _ => none⟩ = _ :=
    step_sent_self (hs.request_nat c p).1 (hs.accepts_output c p) hdst hin
  rw [(hs.request_nat c _).2] at hreq
  have htracked : Function.update (fun _ => none) c (some (p, s.snat c p)) c =
      some (p, s.snat c p) := Function.update_self ..
  have hans : step lab (s.answer _) ⟨c, none, (s.snat c p).reply, fun _ => none⟩ = _ :=
    step_sent_self ((answer_nat htracked _ _).trans (undo_dst p _).2) (hs.accepts_output c _) hsrc
      (by rw [answer_nat htracked, (undo_src p _).1]; exact hin')
  rw [answer_nat htracked .postrouting, (undo_src p _).1, answer_nat htracked,
    undo_input_reply] at hans
  exact roundTrip_eq_some (Routing.forward_stop hreq 63) (Routing.forward_stop hans 63)

/-- A request on its way to a neighbour. -/
theorem outcome_sent (hs : Quiet s) (hq : s.snat c p = q) (hdst : Sees c p.dst h dev dev') :
    outcome lab s.request c p = Routing.forward (step lab s.request) 63
      ⟨h, some dev', q, Function.update (fun _ => none) c (some (p, q))⟩ := by
  subst hq
  exact Routing.forward_hop (request_sent hs hdst.notMem hdst.nextHop_eq) 63

/-- A request to a neighbour. -/
theorem outcome_neighbour (hs : Quiet s) (hq : s.snat c p = q) (hr : s.dnat h q = r)
    (hdst : Sees c p.dst h dev dev') (hspoofed : spoofed lab h dev' r.src = false)
    (harrived : r.dst ∈ h.addrs) (hin : accepts (s h).filter.input r = true) :
    outcome lab s.request c p = some (.delivered h r
      (Function.update (Function.update (fun _ => none) c (some (p, q))) h (some (q, r)))) :=
  (outcome_sent hs hq hdst).trans
    (Routing.forward_stop (request_arrived hs hr hspoofed harrived hin) 62)

/-- **A connection between neighbours.**

**Proof sketch.** The client and the host remember what they did to the request, so the reply to
what was delivered is on the network the reply to what was there, and at the client the reply to
the request. -/
theorem roundTrip_neighbour (hs : Quiet s) (hne : c ≠ h) (hq : s.snat c p = q)
    (hr : s.dnat h q = r) (hdst : Sees c p.dst h dev dev') (hback : Sees h q.src c dev' dev)
    (harrived : r.dst ∈ h.addrs) (hin : accepts (s h).filter.input r = true)
    (hsrc : p.src ∈ c.addrs) (hin' : accepts (s c).filter.input (halfway p q) = true) :
    roundTrip lab s c p = some (h, r) := by
  have hrsrc : r.src = q.src := hr ▸ hs.dnat_src h q
  have hqdst : q.dst = p.dst := hq ▸ hs.snat_dst c p
  refine roundTrip_eq_some
    (outcome_neighbour hs hq hr hdst (hrsrc ▸ hback.spoofed_eq lab) harrived hin)
    ((Routing.forward_hop
      (answer_sent hs (Function.update_self ..) hback.notMem hback.nextHop_eq) 63).trans
      (Routing.forward_stop (answer_arrived ?_ (hqdst ▸ hdst.spoofed_eq lab) hsrc hin') 62))
  rw [Function.update_of_ne hne, Function.update_self]

/-- A connection to a neighbour whose reply is refused. -/
theorem roundTrip_of_answer_refused (hs : Quiet s) (hne : c ≠ h) (hq : s.snat c p = q)
    (hr : s.dnat h q = r) (hdst : Sees c p.dst h dev dev') (hback : Sees h q.src c dev' dev)
    (harrived : r.dst ∈ h.addrs) (hin : accepts (s h).filter.input r = true)
    (hsrc : p.src ∈ c.addrs) (hin' : accepts (s c).filter.input (halfway p q) = false) :
    roundTrip lab s c p = none := by
  have hrsrc : r.src = q.src := hr ▸ hs.dnat_src h q
  refine roundTrip_of_answer_lost
    (outcome_neighbour hs hq hr hdst (hrsrc ▸ hback.spoofed_eq lab) harrived hin)
    ((Routing.forward_hop
      (answer_sent hs (Function.update_self ..) hback.notMem hback.nextHop_eq) 63).trans
      (Routing.forward_stop
        (step_refused ((answer_nat ?_ _ _).trans (undo_dst p q).1) hsrc hin') 62))
  rw [Function.update_of_ne hne, Function.update_self]

/-- A request on its way from the gateway to another host. -/
theorem outcome_forwarded {t : Packet} {dev₁ dev₁' : String} (hs : Quiet s) (hq : s.snat c p = q)
    (hr : s.dnat .gateway q = r) (ht : s.snat .gateway r = t)
    (hdst : Sees c p.dst .gateway dev dev') (hspoofed : spoofed lab .gateway dev' r.src = false)
    (hdst₁ : Sees .gateway r.dst h dev₁ dev₁') :
    outcome lab s.request c p = Routing.forward (step lab s.request) 62
      ⟨h, some dev₁', t, Function.update (Function.update (fun _ => none) c (some (p, q)))
        .gateway (some (q, t))⟩ := by
  subst ht
  exact (outcome_sent hs hq hdst).trans (Routing.forward_hop
    (request_forwarded hs hr hspoofed hdst₁.notMem hdst₁.nextHop_eq) 62)

/-- A request through the gateway. -/
theorem outcome_through {t u : Packet} {dev₁ dev₁' : String} (hs : Quiet s) (hq : s.snat c p = q)
    (hr : s.dnat .gateway q = r) (ht : s.snat .gateway r = t) (hu : s.dnat h t = u)
    (hdst : Sees c p.dst .gateway dev dev') (hspoofed : spoofed lab .gateway dev' r.src = false)
    (hdst₁ : Sees .gateway r.dst h dev₁ dev₁') (hspoofed₁ : spoofed lab h dev₁' u.src = false)
    (harrived : u.dst ∈ h.addrs) (hin : accepts (s h).filter.input u = true) :
    outcome lab s.request c p = some (.delivered h u (Function.update (Function.update
      (Function.update (fun _ => none) c (some (p, q))) .gateway (some (q, t)))
      h (some (t, u)))) :=
  (outcome_forwarded hs hq hr ht hdst hspoofed hdst₁).trans
    (Routing.forward_stop (request_arrived hs hu hspoofed₁ harrived hin) 61)

/-- A request through the gateway whose source is not believed where it comes to. -/
theorem roundTrip_of_spoofed {t u : Packet} {dev₁ dev₁' : String} (hs : Quiet s)
    (hq : s.snat c p = q) (hr : s.dnat .gateway q = r) (ht : s.snat .gateway r = t)
    (hu : s.dnat h t = u) (hdst : Sees c p.dst .gateway dev dev')
    (hspoofed : spoofed lab .gateway dev' r.src = false)
    (hdst₁ : Sees .gateway r.dst h dev₁ dev₁') (hspoofed₁ : spoofed lab h dev₁' u.src = true) :
    roundTrip lab s c p = none :=
  roundTrip_of_request_lost ((outcome_forwarded hs hq hr ht hdst hspoofed hdst₁).trans
    (Routing.forward_stop (step_spoofed hu hspoofed₁) 61))

/-- **A connection through the gateway.** The request comes to the gateway as `q`, is for another
host when it is taken in as `r`, goes on as `t` and is delivered as `u`. -/
theorem roundTrip_through {t u : Packet} {dev₁ dev₁' : String} (hs : Quiet s) (hne : c ≠ h)
    (hc : c ≠ .gateway) (hh : h ≠ .gateway) (hq : s.snat c p = q) (hr : s.dnat .gateway q = r)
    (ht : s.snat .gateway r = t) (hu : s.dnat h t = u) (hdst : Sees c p.dst .gateway dev dev')
    (hback : Sees .gateway q.src c dev' dev) (hdst₁ : Sees .gateway r.dst h dev₁ dev₁')
    (hback₁ : Sees h t.src .gateway dev₁' dev₁) (harrived : u.dst ∈ h.addrs)
    (hin : accepts (s h).filter.input u = true) (hsrc : p.src ∈ c.addrs)
    (hin' : accepts (s c).filter.input (halfway p q) = true) :
    roundTrip lab s c p = some (h, u) := by
  have hqdst : q.dst = p.dst := hq ▸ hs.snat_dst c p
  have hrsrc : r.src = q.src := hr ▸ hs.dnat_src .gateway q
  have htdst : t.dst = r.dst := ht ▸ hs.snat_dst .gateway r
  have husrc : u.src = t.src := hu ▸ hs.dnat_src h t
  have hreq : outcome lab s.request c p = _ :=
    outcome_through hs hq hr ht hu hdst (hrsrc ▸ hback.spoofed_eq lab) hdst₁
      (husrc ▸ hback₁.spoofed_eq lab) harrived hin
  refine roundTrip_eq_some hreq ((Routing.forward_hop
    (answer_sent hs (Function.update_self ..) hback₁.notMem hback₁.nextHop_eq) 63).trans
      ((Routing.forward_hop (answer_forwarded hs ?_ (htdst ▸ hdst₁.spoofed_eq lab) hback.notMem
        hback.nextHop_eq) 62).trans
      (Routing.forward_stop (answer_arrived ?_ (hqdst ▸ hdst.spoofed_eq lab) hsrc hin') 61)))
  · rw [Function.update_of_ne hh.symm, Function.update_self]
  · rw [Function.update_of_ne hne, Function.update_of_ne hc, Function.update_self]

/-- A request that is refused by the neighbour it is for. -/
theorem roundTrip_of_refused (hs : Quiet s) (hq : s.snat c p = q) (hr : s.dnat h q = r)
    (hdst : Sees c p.dst h dev dev') (harrived : r.dst ∈ h.addrs)
    (hin : accepts (s h).filter.input r = false) : roundTrip lab s c p = none :=
  roundTrip_of_request_lost ((outcome_sent hs hq hdst).trans
    (Routing.forward_stop (step_refused hr harrived hin) 62))

end RoundTrip

end PythonForFun.NatLab
