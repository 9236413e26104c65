import Mathlib.Logic.Function.Basic
import Mathlib.Data.Nat.Notation

set_option relaxedAutoImplicit false
set_option autoImplicit false

/-!
# Clusters of RabbitMQ nodes

What `rabbitmqctl` does to the nodes, as far as clustering goes. A node belongs to one cluster,
as a disc or as a ram node, and its application runs or is stopped. A node is known by its
short host name `h`; its Erlang name is `rabbit@h`.

## Main definitions

* `RabbitMQ.Brokers` — the nodes of some hosts.
* `RabbitMQ.Ctl`, `RabbitMQ.Ctl.exec` — the commands, with their preconditions.
* `RabbitMQ.Brokers.apiNodes` — what the management API of a node lists.

## Main results

* `RabbitMQ.exec_join` — stopping, resetting, joining and starting a node.
-/

namespace PythonForFun.RabbitMQ

/-- The two types of cluster members. -/
inductive NodeType
  | disc
  | ram
  deriving DecidableEq

/-- A node: whether its application runs, its type, and the cluster it belongs to. -/
structure Node where
  running : Bool
  type : NodeType
  cluster : ℕ
  deriving DecidableEq

/-- The nodes of some hosts, and the first number no cluster has had yet. -/
structure Brokers where
  hosts : List String
  node : String → Node
  nextCluster : ℕ

/-- One node replaced. -/
def Brokers.setNode (b : Brokers) (h : String) (v : Node) : Brokers :=
  { b with node := Function.update b.node h v }

/-- The cluster has a running disc member. -/
def Brokers.HasRunningDisc (b : Brokers) (cluster : ℕ) : Prop :=
  ∃ h ∈ b.hosts, (b.node h).cluster = cluster ∧ (b.node h).running = true ∧
    (b.node h).type = .disc

instance (b : Brokers) (cluster : ℕ) : Decidable (b.HasRunningDisc cluster) :=
  inferInstanceAs (Decidable (∃ h ∈ b.hosts, (b.node h).cluster = cluster ∧
    (b.node h).running = true ∧ (b.node h).type = .disc))

/-- The nodes that the management API of the node `h` lists: the members of its cluster. -/
def Brokers.apiNodes (b : Brokers) (h : String) : List Node :=
  (b.hosts.map b.node).filter fun v => v.cluster = (b.node h).cluster

/-- The commands of `rabbitmqctl`. -/
inductive Ctl
  /-- `rabbitmqctl stop_app` -/
  | stopApp
  /-- `rabbitmqctl reset` -/
  | reset
  /-- `rabbitmqctl join_cluster --{type} rabbit@{target}` -/
  | joinCluster (type : NodeType) (target : String)
  /-- `rabbitmqctl start_app` -/
  | startApp
  /-- `rabbitmqctl await_online_nodes {count}` -/
  | awaitOnlineNodes (count : ℕ)
  deriving DecidableEq

/-- The effect of a command on the node `h`; `none` when its precondition does not hold. A
reset node is the disc node of a cluster of its own. -/
def Ctl.exec : Ctl → String → Brokers → Option Brokers
  | .stopApp, h, b => some (b.setNode h { b.node h with running := false })
  | .reset, h, b =>
    if (b.node h).running then none
    else some { b.setNode h ⟨false, .disc, b.nextCluster⟩ with nextCluster := b.nextCluster + 1 }
  | .joinCluster type target, h, b =>
    if (b.node h).running = false ∧ target ∈ b.hosts ∧ (b.node target).running = true ∧
        b.HasRunningDisc (b.node target).cluster then
      some (b.setNode h ⟨false, type, (b.node target).cluster⟩)
    else none
  | .startApp, h, b =>
    if (b.node h).type = .disc ∨ b.HasRunningDisc (b.node h).cluster then
      some (b.setNode h { b.node h with running := true })
    else none
  | .awaitOnlineNodes count, h, b =>
    if count ≤ (b.apiNodes h).countP Node.running then some b else none

/-- A running disc node of the cluster. -/
theorem hasRunningDisc_of_node {b : Brokers} {t : String} {cluster : ℕ} (ht : t ∈ b.hosts)
    (hnode : b.node t = ⟨true, .disc, cluster⟩) : b.HasRunningDisc cluster := by
  refine ⟨t, ht, ?_, ?_, ?_⟩
  · rw [hnode]
  · rw [hnode]
  · rw [hnode]

/-- **Joining a cluster**: with a running disc node `t` of the cluster on another host, the
node `h` can be stopped, reset, joined to `t` and started, and is then a running member of the
given type. Every other node is as it was.

**Proof sketch.** The node `t` is not touched, so it is the running target and the running disc
member that the third and the fourth command ask for. -/
theorem exec_join {b : Brokers} {h t : String} {cluster : ℕ} (hne : t ≠ h) (ht : t ∈ b.hosts)
    (hnode : b.node t = ⟨true, .disc, cluster⟩) (type : NodeType) :
    ∃ b₁ b₂ b₃ b₄, Ctl.stopApp.exec h b = some b₁ ∧ Ctl.reset.exec h b₁ = some b₂ ∧
      (Ctl.joinCluster type t).exec h b₂ = some b₃ ∧ Ctl.startApp.exec h b₃ = some b₄ ∧
      b₄.hosts = b.hosts ∧ b₄.node = Function.update b.node h ⟨true, type, cluster⟩ := by
  let b₁ := b.setNode h { b.node h with running := false }
  let b₂ : Brokers :=
    { b₁.setNode h ⟨false, .disc, b₁.nextCluster⟩ with nextCluster := b₁.nextCluster + 1 }
  let b₃ := b₂.setNode h ⟨false, type, cluster⟩
  let b₄ := b₃.setNode h ⟨true, type, cluster⟩
  have hnode₁ : b₁.node t = ⟨true, .disc, cluster⟩ := by
    rw [show b₁.node t = b.node t from Function.update_of_ne hne _ _, hnode]
  have hnode₂ : b₂.node t = ⟨true, .disc, cluster⟩ := by
    rw [show b₂.node t = b₁.node t from Function.update_of_ne hne _ _, hnode₁]
  have hnode₃ : b₃.node t = ⟨true, .disc, cluster⟩ := by
    rw [show b₃.node t = b₂.node t from Function.update_of_ne hne _ _, hnode₂]
  have hself₁ : b₁.node h = { b.node h with running := false } := Function.update_self _ _ _
  have hself₂ : b₂.node h = ⟨false, .disc, b₁.nextCluster⟩ := Function.update_self _ _ _
  have hself₃ : b₃.node h = ⟨false, type, cluster⟩ := Function.update_self _ _ _
  refine ⟨b₁, b₂, b₃, b₄, rfl, ?_, ?_, ?_, rfl, ?_⟩
  · rw [Ctl.exec, hself₁]
    rfl
  · have hdisc : b₂.HasRunningDisc cluster := hasRunningDisc_of_node ht hnode₂
    rw [Ctl.exec, hself₂, hnode₂]
    exact if_pos ⟨rfl, ht, rfl, hdisc⟩
  · have hdisc : b₃.HasRunningDisc cluster := hasRunningDisc_of_node ht hnode₃
    rw [Ctl.exec, hself₃]
    exact if_pos (Or.inr hdisc)
  · show Function.update (Function.update (Function.update (Function.update b.node h _) h _) h _)
      h _ = _
    rw [Function.update_idem, Function.update_idem, Function.update_idem]

end PythonForFun.RabbitMQ
