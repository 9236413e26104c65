import PythonForFun.Lib.Prog
import PythonForFun.Python
import PythonForFun.RabbitMQ.Cluster

set_option relaxedAutoImplicit false
set_option autoImplicit false

/-!
# Building a RabbitMQ cluster on AWS

`test_creating_cluster_on_aws` of `rabbitmq/cluster/ut.py`: after the stack is up it looks the
addresses of the instances up in the stack's outputs, asks each instance for its short host
name, and joins the instances from the second on to the first.

## Main definitions

* `RabbitMQ.Stack` — the instances of the stack, with their addresses and host names.
* `RabbitMQ.creatingClusterOnAws` — the test from the stack's outputs on.
* `RabbitMQ.getRunningNodesTypes` — `get_running_nodes_types`.
* `RabbitMQ.Joined` — the invariant of the join loop.

## Main results

* `RabbitMQ.lookUpInstances_returns` — the lookup loop, for every order of the outputs.
* `RabbitMQ.joinInstance_returns` — the step lemma of the join loop.
* `RabbitMQ.creatingClusterOnAws_builds` — every command succeeds, and the cluster is the
  intended one.
-/

namespace PythonForFun.RabbitMQ

/-! ## The stack -/

/-- The instances `1, …, n` of the stack. An address belongs to one instance, and the short
host names are pairwise distinct. -/
structure Stack where
  n : ℕ
  publicIp : ℕ → String
  hostname : ℕ → String
  publicIp_inj : ∀ i ∈ List.range' 1 n, ∀ j ∈ List.range' 1 n, publicIp i = publicIp j → i = j
  hostname_inj : ∀ i ∈ List.range' 1 n, ∀ j ∈ List.range' 1 n, hostname i = hostname j → i = j

/-- An output of the stack. -/
structure Output where
  outputKey : String
  outputValue : String
  deriving DecidableEq

namespace Stack

variable (stack : Stack)

/-- The outputs of the template. -/
def outputs : List Output :=
  (List.range' 1 stack.n).map fun i => ⟨"PublicIP" ++ toString i, stack.publicIp i⟩

/-- The short host names of the instances. -/
def hosts : List String := (List.range' 1 stack.n).map stack.hostname

/-- The host an ssh connection to the address reaches. -/
def hostAt (ip : String) : Option String :=
  ((List.range' 1 stack.n).find? fun i => stack.publicIp i == ip).map stack.hostname

/-- The nodes of a new stack: each runs as the disc node of a cluster of its own. -/
def fresh : Brokers where
  hosts := stack.hosts
  node := fun h => ⟨true, .disc, stack.hosts.idxOf h⟩
  nextCluster := stack.n

end Stack

/-! ## The test -/

/-- The key of instance `i` in the two dictionaries. -/
def rabbit (i : ℕ) : String := "rabbit" ++ toString i

/-- `item['OutputValue']` on what `key_find` returned. -/
def outputValue : Option Output → Except PyErr String
  | none => .error .typeError
  | some item => .ok item.outputValue

section Builder

variable (stack : Stack) (failure : PyErr)

/-- `run(f'ssh ... ec2-user@{ip} hostname -s', True)[0]`: a quiet `run` does not raise, and
returns an empty string when nothing is reached. -/
def hostnameOf (ip : String) : String := (stack.hostAt ip).getD ""

/-- `run(f'ssh ... ec2-user@{ip} sudo rabbitmqctl ...')`: it raises `failure` when nothing is
reached or the command's precondition does not hold. -/
def rabbitmqctl (ip : String) (cmd : Ctl) : Prog PyErr Brokers Unit := fun b =>
  match stack.hostAt ip with
  | none => (.error failure, b)
  | some h =>
    match cmd.exec h b with
    | none => (.error failure, b)
    | some b' => (.ok (), b')

/-- One pass of the loop that fills `ips` and `snames`. -/
def lookUpInstance (outputs : List Output) (acc : Dict String String × Dict String String)
    (i : ℕ) : Prog PyErr Brokers (Dict String String × Dict String String) := do
  let (ips, snames) := acc
  let publicIp ← Prog.ofExcept
    (outputValue (keyFind outputs Output.outputKey ("PublicIP" ++ toString i)))
  pure (ips.set (rabbit i) publicIp, snames.set (rabbit i) (hostnameOf stack publicIp))

/-- The type instance `i` joins as. -/
def discType (additionalDiscIndexList : List ℤ) (i : ℕ) : NodeType :=
  if (i : ℤ) ∈ additionalDiscIndexList then .disc else .ram

/-- One pass of the loop that joins the instances to the first one. -/
def joinInstance (additionalDiscIndexList : List ℤ) (ips snames : Dict String String) (i : ℕ) :
    Prog PyErr Brokers Unit := do
  let ip ← Prog.ofExcept (getItem ips (rabbit i))
  rabbitmqctl stack failure ip .stopApp
  rabbitmqctl stack failure ip .reset
  let target ← Prog.ofExcept (getItem snames "rabbit1")
  rabbitmqctl stack failure ip (.joinCluster (discType additionalDiscIndexList i) target)
  rabbitmqctl stack failure ip .startApp

/-- `test_creating_cluster_on_aws(instance_num, additional_disc_index_list)` from the outputs
of the stack on. -/
def creatingClusterOnAws (outputs : List Output) (instanceNum : ℕ)
    (additionalDiscIndexList : Option (List ℤ)) :
    Prog PyErr Brokers (Dict String String × Dict String String) := do
  let discs := additionalDiscIndexList.getD []
  let (ips, snames) ← (List.range' 1 instanceNum).foldlM (lookUpInstance stack outputs)
    (Dict.empty, Dict.empty)
  forM (List.range' 2 (instanceNum - 1)) (joinInstance stack failure discs ips snames)
  let ip ← Prog.ofExcept (getItem ips "rabbit1")
  rabbitmqctl stack failure ip (.awaitOnlineNodes instanceNum)
  pure (ips, snames)

end Builder

/-- One pass of the loop of `get_running_nodes_types`. -/
def countNode (count : ℕ × ℕ) (node : Node) : ℕ × ℕ :=
  if node.running then
    (if node.type = .disc then count.1 + 1 else count.1,
      if node.type = .ram then count.2 + 1 else count.2)
  else count

/-- `get_running_nodes_types`, on the nodes the management API lists. -/
def getRunningNodesTypes (nodes : List Node) : ℕ × ℕ := nodes.foldl countNode (0, 0)

/-! ## Addresses -/

section Lookup

variable {stack : Stack}

/-- The address of an instance reaches its host. -/
theorem hostAt_publicIp {i : ℕ} (hi : i ∈ List.range' 1 stack.n) :
    stack.hostAt (stack.publicIp i) = some (stack.hostname i) := by
  have hfind : keyFind (List.range' 1 stack.n) stack.publicIp (stack.publicIp i) = some i :=
    keyFind_eq_some hi rfl fun j hj h => stack.publicIp_inj j hj i hi h
  rw [keyFind] at hfind
  rw [Stack.hostAt, hfind]
  rfl

/-- In whatever order the outputs come, the address of an instance is found by its key. -/
theorem keyFind_outputs {outputs : List Output} (hout : outputs.Perm stack.outputs) {i : ℕ}
    (hi : i ∈ List.range' 1 stack.n) :
    keyFind outputs Output.outputKey ("PublicIP" ++ toString i) =
      some ⟨"PublicIP" ++ toString i, stack.publicIp i⟩ := by
  have hmem : ∀ o, o ∈ outputs ↔ o ∈ stack.outputs := fun o => hout.mem_iff
  refine keyFind_eq_some ((hmem _).mpr (List.mem_map_of_mem hi)) rfl ?_
  intro o ho hkey
  obtain ⟨j, -, rfl⟩ := List.mem_map.mp ((hmem o).mp ho)
  have hij : j = i := append_toString_inj hkey
  rw [hij]

/-- The dictionaries hold the addresses and the names of the first `k` instances. -/
def Filled (stack : Stack) (k : ℕ) (acc : Dict String String × Dict String String) : Prop :=
  ∀ i, 1 ≤ i → i ≤ k → acc.1.get? (rabbit i) = some (stack.publicIp i) ∧
    acc.2.get? (rabbit i) = some (stack.hostname i)

/-- One pass fills in the next instance and leaves the nodes as they are. -/
theorem lookUpInstance_returns {outputs : List Output} (hout : outputs.Perm stack.outputs)
    (b : Brokers) {acc : Dict String String × Dict String String} {i : ℕ}
    (hi : i ∈ List.range' 1 stack.n) (hacc : Filled stack (i - 1) acc) :
    ∃ acc', lookUpInstance stack outputs acc i b = (.ok acc', b) ∧ Filled stack i acc' := by
  obtain ⟨ips, snames⟩ := acc
  refine ⟨(ips.set (rabbit i) (stack.publicIp i), snames.set (rabbit i) (stack.hostname i)),
    ?_, ?_⟩
  · simp only [lookUpInstance, keyFind_outputs hout hi, outputValue, Prog.ofExcept_ok, pure_bind,
      hostnameOf, hostAt_publicIp hi, Option.getD_some]
    rfl
  · intro j hj hji
    by_cases hne : j = i
    · rw [hne]
      exact ⟨Dict.get?_set_self ips _ _, Dict.get?_set_self snames _ _⟩
    · have hkey : rabbit j ≠ rabbit i := fun h => hne (append_toString_inj h)
      have hold := hacc j hj (by omega)
      rw [Dict.get?_set_of_ne ips _ hkey, Dict.get?_set_of_ne snames _ hkey]
      exact hold

/-- **The lookup loop** returns, for every order of the outputs, with all addresses and names,
and leaves the nodes as they are. -/
theorem lookUpInstances_returns {outputs : List Output} (hout : outputs.Perm stack.outputs)
    (b₀ : Brokers) :
    Prog.Returns (· = b₀)
      ((List.range' 1 stack.n).foldlM (lookUpInstance stack outputs) (Dict.empty, Dict.empty))
      (fun acc b => b = b₀ ∧ Filled stack stack.n acc) := by
  refine (Prog.Returns.foldlM_range' (I := fun k acc b => b = b₀ ∧ Filled stack k acc) ?_
    (Dict.empty, Dict.empty)).conseq ?_ fun _ _ h => h
  · rintro k hk acc b ⟨rfl, hacc⟩
    have hmem : 1 + k ∈ List.range' 1 stack.n := by
      rw [List.mem_range'_1]
      omega
    have hprev : Filled stack (1 + k - 1) acc := by
      rwa [Nat.add_sub_cancel_left]
    obtain ⟨acc', hrun, hacc'⟩ := lookUpInstance_returns hout b hmem hprev
    rw [Nat.add_comm 1 k] at hacc'
    exact ⟨acc', b, hrun, rfl, hacc'⟩
  · rintro b rfl
    exact ⟨rfl, fun i hi hle => absurd hle (Nat.not_le.mpr hi)⟩

end Lookup

/-! ## The join loop -/

section Join

variable {stack : Stack} {failure : PyErr} {discs : List ℤ}

/-- The cluster of the first instance. -/
def Stack.firstCluster (stack : Stack) : ℕ := stack.hosts.idxOf (stack.hostname 1)

/-- The type instance `i` is meant to have. -/
def memberType (discs : List ℤ) (i : ℕ) : NodeType := if i = 1 then .disc else discType discs i

/-- **The invariant of the join loop**: the first `k` instances run in the cluster of the first
one, each with the type it is meant to have. -/
structure Joined (stack : Stack) (discs : List ℤ) (k : ℕ) (b : Brokers) : Prop where
  hosts_eq : b.hosts = stack.hosts
  node_eq : ∀ i, 1 ≤ i → i ≤ k →
    b.node (stack.hostname i) = ⟨true, memberType discs i, stack.firstCluster⟩

/-- Before the loop the first instance is the one member. -/
theorem joined_fresh (stack : Stack) (discs : List ℤ) : Joined stack discs 1 stack.fresh where
  hosts_eq := rfl
  node_eq := by
    intro i hi hle
    obtain rfl : i = 1 := Nat.le_antisymm hle hi
    rfl

/-- A command whose precondition holds on the host the address reaches succeeds. -/
theorem rabbitmqctl_of_exec {ip h : String} {cmd : Ctl} {b b' : Brokers}
    (hhost : stack.hostAt ip = some h) (hexec : cmd.exec h b = some b') :
    rabbitmqctl stack failure ip cmd b = (.ok (), b') := by
  simp only [rabbitmqctl, hhost, hexec]

/-- **The step lemma of the join loop**: all commands of one pass succeed, and the next
instance is a member afterwards.

**Proof sketch.** The first instance is a running disc member of the cluster and another host
than the next one, so the next one can join it; the hosts of the other members are not
touched. -/
theorem joinInstance_returns {ips snames : Dict String String}
    (hacc : Filled stack stack.n (ips, snames)) {k : ℕ} (hk : 1 ≤ k) (hkn : k + 1 ≤ stack.n) :
    Prog.Returns (Joined stack discs k) (joinInstance stack failure discs ips snames (k + 1))
      (fun _ => Joined stack discs (k + 1)) := by
  intro b hb
  have hmem : ∀ i, 1 ≤ i → i ≤ stack.n → i ∈ List.range' 1 stack.n := by
    intro i hi hin
    rw [List.mem_range'_1]
    omega
  have hself := hmem (k + 1) (by omega) hkn
  have hne : ∀ i, 1 ≤ i → i ≤ k → stack.hostname i ≠ stack.hostname (k + 1) := by
    intro i hi hik h
    have hij := stack.hostname_inj i (hmem i hi (by omega)) (k + 1) hself h
    omega
  have hfirst : stack.hostname 1 ∈ b.hosts := by
    rw [hb.hosts_eq]
    exact List.mem_map_of_mem (hmem 1 (Nat.le_refl 1) (by omega))
  have hnode : b.node (stack.hostname 1) = ⟨true, .disc, stack.firstCluster⟩ :=
    hb.node_eq 1 (Nat.le_refl 1) hk
  obtain ⟨b₁, b₂, b₃, b₄, h₁, h₂, h₃, h₄, hhosts, hupdate⟩ :=
    exec_join (hne 1 (Nat.le_refl 1) hk) hfirst hnode (discType discs (k + 1))
  have hip : getItem ips (rabbit (k + 1)) = .ok (stack.publicIp (k + 1)) :=
    getItem_of_get? (hacc (k + 1) (by omega) hkn).1
  have hsname : getItem snames "rabbit1" = .ok (stack.hostname 1) :=
    getItem_of_get? (hacc 1 (Nat.le_refl 1) (by omega)).2
  have hat := hostAt_publicIp hself
  refine ⟨(), b₄, ?_, ?_, ?_⟩
  · simp only [joinInstance, hip, hsname, Prog.ofExcept_ok, pure_bind]
    rw [Prog.bind_of_ok (rabbitmqctl_of_exec hat h₁), Prog.bind_of_ok (rabbitmqctl_of_exec hat h₂),
      Prog.bind_of_ok (rabbitmqctl_of_exec hat h₃), rabbitmqctl_of_exec hat h₄]
  · rw [hhosts, hb.hosts_eq]
  · intro i hi hik
    rw [hupdate]
    rcases Nat.eq_or_lt_of_le hik with rfl | hlt
    · have htype : memberType discs (k + 1) = discType discs (k + 1) := if_neg (by omega)
      rw [Function.update_self, htype]
    · rw [Function.update_of_ne (hne i hi (by omega))]
      exact hb.node_eq i hi (by omega)

/-- **The join loop**: it returns, and all instances are members. -/
theorem joinInstances_returns {ips snames : Dict String String}
    (hacc : Filled stack stack.n (ips, snames)) (hn : 1 ≤ stack.n) :
    Prog.Returns (Joined stack discs 1)
      (forM (List.range' 2 (stack.n - 1)) (joinInstance stack failure discs ips snames))
      (fun _ => Joined stack discs stack.n) := by
  have hloop : Prog.Returns (Joined stack discs 1)
      (forM (List.range' 2 (stack.n - 1)) (joinInstance stack failure discs ips snames))
      (fun _ => Joined stack discs (stack.n - 1 + 1)) := by
    refine Prog.Returns.forM_range' (I := fun k => Joined stack discs (k + 1)) fun k hk => ?_
    have hindex : 2 + k = k + 1 + 1 := by omega
    rw [hindex]
    exact joinInstance_returns hacc (by omega) (by omega)
  rwa [Nat.sub_add_cancel hn] at hloop

end Join

/-! ## The cluster at the end -/

section Result

variable {stack : Stack} {failure : PyErr} {discs : List ℤ} {b : Brokers}

/-- The API of every member lists all instances. -/
theorem apiNodes_of_joined (h : Joined stack discs stack.n b) {i : ℕ} (hi : 1 ≤ i)
    (hin : i ≤ stack.n) :
    b.apiNodes (stack.hostname i) =
      (List.range' 1 stack.n).map fun j => ⟨true, memberType discs j, stack.firstCluster⟩ := by
  have hnodes : b.hosts.map b.node =
      (List.range' 1 stack.n).map fun j => ⟨true, memberType discs j, stack.firstCluster⟩ := by
    rw [h.hosts_eq, Stack.hosts, List.map_map]
    refine List.map_congr_left fun j hj => ?_
    rw [List.mem_range'_1] at hj
    exact h.node_eq j hj.1 (by omega)
  rw [Brokers.apiNodes, hnodes, List.filter_eq_self]
  intro v hv
  obtain ⟨j, -, rfl⟩ := List.mem_map.mp hv
  rw [h.node_eq i hi hin]
  exact decide_eq_true rfl

/-- `get_running_nodes_types` counts the running nodes of each type. -/
theorem getRunningNodesTypes_eq (nodes : List Node) :
    getRunningNodesTypes nodes =
      (nodes.countP fun v => v.running && v.type == .disc,
        nodes.countP fun v => v.running && v.type == .ram) := by
  have hcount : ∀ count : ℕ × ℕ, nodes.foldl countNode count =
      (count.1 + nodes.countP fun v => v.running && v.type == .disc,
        count.2 + nodes.countP fun v => v.running && v.type == .ram) := by
    induction nodes with
    | nil => exact fun _ => rfl
    | cons v nodes ih =>
      intro count
      obtain ⟨running, type, cluster⟩ := v
      rw [List.foldl_cons, ih, List.countP_cons, List.countP_cons]
      cases running with
      | false => simp [countNode]
      | true =>
        cases type with
        | disc =>
          simp [countNode]
          omega
        | ram =>
          simp [countNode]
          omega
  rw [getRunningNodesTypes, hcount]
  simp only [Nat.zero_add]

/-- The types the API of a member counts.

**Proof sketch.** All listed nodes run. The first one is a disc node, and among the others the
disc nodes are those in the list; the ram nodes are the rest. -/
theorem getRunningNodesTypes_of_joined (h : Joined stack discs stack.n b) {i : ℕ} (hi : 1 ≤ i)
    (hin : i ≤ stack.n) :
    let more := (List.range' 2 (stack.n - 1)).countP fun (j : ℕ) => (j : ℤ) ∈ discs
    getRunningNodesTypes (b.apiNodes (stack.hostname i)) = (1 + more, stack.n - (1 + more)) := by
  intro more
  obtain ⟨m, hm⟩ : ∃ m, stack.n = m + 1 := ⟨stack.n - 1, by omega⟩
  have hrange : List.range' 1 stack.n = 1 :: List.range' 2 (stack.n - 1) := by
    rw [hm]
    rfl
  have hfirst : memberType discs 1 = .disc := if_pos rfl
  have hdisc : (List.range' 2 (stack.n - 1)).countP (fun j => memberType discs j == .disc) =
      more := by
    refine List.countP_congr fun j hj => ?_
    have hne : j ≠ 1 := by
      rw [List.mem_range'_1] at hj
      omega
    rw [memberType, if_neg hne, discType]
    split_ifs with hmem <;> simp [hmem]
  have hram : (List.range' 2 (stack.n - 1)).countP (fun j => memberType discs j == .ram) =
      stack.n - 1 - more := by
    have hlen := List.length_eq_countP_add_countP (fun j => memberType discs j == .disc)
      (l := List.range' 2 (stack.n - 1))
    have hother : (List.range' 2 (stack.n - 1)).countP
        (fun j => ¬ (memberType discs j == .disc) = true) =
        (List.range' 2 (stack.n - 1)).countP fun j => memberType discs j == .ram := by
      refine List.countP_congr fun j _ => ?_
      cases memberType discs j <;> simp
    rw [hother, hdisc, List.length_range'] at hlen
    omega
  rw [apiNodes_of_joined h hi hin, getRunningNodesTypes_eq, List.countP_map, List.countP_map,
    hrange]
  simp only [Function.comp_def, Bool.true_and, List.countP_cons, hfirst, hdisc, hram]
  simp only [Prod.mk.injEq]
  refine ⟨?_, ?_⟩
  · exact Nat.add_comm more 1
  · show stack.n - 1 - more + 0 = stack.n - (1 + more)
    omega

/-- **The builder always ends with the intended cluster**: for every list of additional disc
nodes and every order of the outputs, every command succeeds, and at the end all instances run
in one cluster, instance `i` as a disc node iff `i = 1` or `i` is in the list. So the API of
every instance counts the first one and the listed ones among the others as disc nodes, and
the rest as ram nodes.

**Proof sketch.** The lookup loop finds every address and name; the join loop keeps the
invariant `Joined`, which gives the final cluster and with it the last precondition, that
all instances are online. -/
theorem creatingClusterOnAws_builds (stack : Stack) (hn : 1 ≤ stack.n) (failure : PyErr)
    {outputs : List Output} (hout : outputs.Perm stack.outputs)
    (additionalDiscIndexList : Option (List ℤ)) :
    let discs := additionalDiscIndexList.getD []
    let more := (List.range' 2 (stack.n - 1)).countP fun (i : ℕ) => (i : ℤ) ∈ discs
    ∃ ips snames b,
      creatingClusterOnAws stack failure outputs stack.n additionalDiscIndexList stack.fresh =
        (.ok (ips, snames), b) ∧
      (∀ i, 1 ≤ i → i ≤ stack.n →
        ips.get? (rabbit i) = some (stack.publicIp i) ∧
        snames.get? (rabbit i) = some (stack.hostname i) ∧
        (b.node (stack.hostname i)).running = true ∧
        (b.node (stack.hostname i)).cluster = (b.node (stack.hostname 1)).cluster ∧
        ((b.node (stack.hostname i)).type = .disc ↔ i = 1 ∨ (i : ℤ) ∈ discs) ∧
        getRunningNodesTypes (b.apiNodes (stack.hostname i)) =
          (1 + more, stack.n - (1 + more))) := by
  intro discs more
  obtain ⟨⟨ips, snames⟩, b₀, hlookup, hb₀, hacc⟩ :=
    lookUpInstances_returns hout stack.fresh stack.fresh rfl
  rw [hb₀] at hlookup
  obtain ⟨⟨⟩, b, hjoin, hjoined⟩ :=
    @joinInstances_returns stack failure discs ips snames hacc hn stack.fresh
      (joined_fresh stack discs)
  have hip : getItem ips "rabbit1" = .ok (stack.publicIp 1) :=
    getItem_of_get? (hacc 1 (Nat.le_refl 1) hn).1
  have hone : 1 ∈ List.range' 1 stack.n := by
    rw [List.mem_range'_1]
    omega
  have hawait : (Ctl.awaitOnlineNodes stack.n).exec (stack.hostname 1) b = some b := by
    have hall : (b.apiNodes (stack.hostname 1)).countP Node.running = stack.n := by
      rw [apiNodes_of_joined hjoined (Nat.le_refl 1) hn, List.countP_map]
      have hrun : (List.range' 1 stack.n).countP (Node.running ∘ fun j =>
          (⟨true, memberType discs j, stack.firstCluster⟩ : Node)) =
          (List.range' 1 stack.n).length := List.countP_eq_length.mpr fun _ _ => rfl
      rw [hrun, List.length_range']
    exact if_pos (Nat.le_of_eq hall.symm)
  refine ⟨ips, snames, b, ?_, ?_⟩
  · rw [creatingClusterOnAws, Prog.bind_of_ok hlookup]
    dsimp only
    rw [Prog.bind_of_ok hjoin, hip, Prog.ofExcept_ok, pure_bind,
      Prog.bind_of_ok (rabbitmqctl_of_exec (hostAt_publicIp hone) hawait)]
    rfl
  · intro i hi hin
    have hnode := hjoined.node_eq i hi hin
    have hnode₁ := hjoined.node_eq 1 (Nat.le_refl 1) hn
    obtain ⟨hget, hsname⟩ := hacc i hi hin
    have htype : memberType discs i = .disc ↔ i = 1 ∨ (i : ℤ) ∈ discs := by
      unfold memberType discType
      split_ifs with h1 hmem
      · exact iff_of_true rfl (Or.inl h1)
      · exact iff_of_true rfl (Or.inr hmem)
      · exact iff_of_false (by simp) fun h => h.elim h1 hmem
    rw [hnode, hnode₁]
    exact ⟨hget, hsname, rfl, rfl, htype, getRunningNodesTypes_of_joined hjoined hi hin⟩

end Result

/-- Three instances. -/
def threeInstances : Stack where
  n := 3
  publicIp := fun i => "18.191.0." ++ toString i
  hostname := fun i => "ip-172-31-0-" ++ toString i
  publicIp_inj := by decide
  hostname_inj := by decide

/-- Three instances, the third one listed, the outputs in reverse order: two disc nodes and a
ram node. -/
theorem creatingClusterOnAws_builds_threeInstances :
    ∃ ips snames b,
      creatingClusterOnAws threeInstances (.commandFailed 1 "") threeInstances.outputs.reverse 3
        (some [3]) threeInstances.fresh = (.ok (ips, snames), b) ∧
      getRunningNodesTypes (b.apiNodes "ip-172-31-0-1") = (2, 1) := by
  obtain ⟨ips, snames, b, hrun, hall⟩ :=
    creatingClusterOnAws_builds threeInstances (by decide) (.commandFailed 1 "")
      (List.reverse_perm threeInstances.outputs) (some [3])
  obtain ⟨-, -, -, -, -, htypes⟩ := hall 1 (Nat.le_refl 1) (by decide)
  exact ⟨ips, snames, b, hrun, htypes⟩

end PythonForFun.RabbitMQ
