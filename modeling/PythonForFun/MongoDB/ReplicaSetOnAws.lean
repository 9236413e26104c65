import PythonForFun.MongoDB.ReplicaSet
import PythonForFun.RabbitMQ.Builder

set_option relaxedAutoImplicit false
set_option autoImplicit false

/-!
# Creating a replica set on AWS

`create_replica_set_on_aws` of `mongodb/mongodb_utils.py` describes `n` instances and three
families of outputs in a template, and looks the outputs up by their keys when the stack is up,
in whatever order the stack lists them.

## Main definitions

* `MongoDB.Template`, `MongoDB.template` — the resources and the outputs of the template.
* `MongoDB.stackOutputs` — the outputs as the stack resolves them.
* `MongoDB.readNode` — one pass of the loop that fills `rs_info`.
* `MongoDB.createReplicaSetOnAws` — the function, from the outputs of the stack on.

## Main results

* `MongoDB.keyFind_stackOutputs` — a lookup finds the output meant, in every order.
* `MongoDB.readNodes_eq_ok` — the loop that fills `rs_info`.
* `MongoDB.createReplicaSetOnAws_reads_back` — every address belongs to the right node.
-/

namespace PythonForFun.MongoDB

open RabbitMQ (Output outputValue)

/-! ## The template -/

/-- `GetAtt(logicalName, attrName)`. -/
structure GetAtt where
  logicalName : String
  attrName : String
  deriving DecidableEq

/-- The names of the resources of a template, and its outputs by key. -/
structure Template where
  resources : List String
  outputs : List (String × GetAtt)

/-- The name of the instance `i`. -/
def resourceName (i : ℕ) : String := "Mongo" ++ toString i

/-- A family of outputs: `[Output(f'{key}{i}', Value=GetAtt(f"Mongo{i}", attrName)) for i in
range(0, replicas)]`. -/
def outputFamily (key attrName : String) (replicas : ℕ) : List (String × GetAtt) :=
  (List.range replicas).map fun i => (key ++ toString i, ⟨resourceName i, attrName⟩)

/-- The template that is built for the stack. -/
def template (replicas : ℕ) : Template where
  resources := "MySecurityGroup" :: (List.range replicas).map resourceName
  outputs := outputFamily "PublicIp" "PublicIp" replicas ++
    outputFamily "PublicDnsName" "PublicDnsName" replicas ++
    outputFamily "PrivateIp" "PrivateIp" replicas

/-- The outputs of the stack, where `attr` gives the attributes of the resources created. -/
def stackOutputs (attr : GetAtt → String) (t : Template) : List Output :=
  t.outputs.map fun o => ⟨o.1, attr o.2⟩

/-! ## Reading the outputs back -/

/-- One pass of the loop, over `rs_info` so far and the last `public_ip`. -/
def readNode (outputs : List Output) (acc : RsInfo × Option String) (i : ℕ) :
    Except PyErr (RsInfo × Option String) := do
  let node := "mongo" ++ toString i
  let publicIp ← outputValue (keyFind outputs Output.outputKey ("PublicIp" ++ toString i))
  let publicDns ← outputValue (keyFind outputs Output.outputKey ("PublicDnsName" ++ toString i))
  let privateIp ← outputValue (keyFind outputs Output.outputKey ("PrivateIp" ++ toString i))
  pure (acc.1.set node ⟨publicIp, publicDns, privateIp⟩, some publicIp)

/-- The configuration: the members in the order of `rs_info`, numbered. -/
def awsConfig (rsInfo : RsInfo) : Config where
  id := "rs0"
  members := rsInfo.items.zipIdx.map fun e => ⟨e.2, e.1.2.dns, none⟩

/-- `get_rs_client(*hosts)`: the address of the set. -/
def getRsClient (hosts : List String) : String :=
  "mongodb://" ++ ",".intercalate hosts ++ "/?replicaSet=" ++ "rs0"

/-- `create_replica_set_on_aws(replicas)` from the outputs of the stack on. The state is the list
of initiations sent; `accepted` is the answer to it, and `c` what the client of the set answers
when it is asked for the primary. -/
def createReplicaSetOnAws (accepted : Except PyErr Unit) (c : Client) (outputs : List Output)
    (replicas : ℕ) : Prog PyErr (List Initiation) (String × RsInfo) := do
  let (rsInfo, publicIp) ← Prog.ofExcept
    ((List.range replicas).foldlM (readNode outputs) (Dict.empty, none))
  match publicIp with
  | none => Prog.raise (.nameError "public_ip")
  | some publicIp =>
    (fun sent => (accepted, sent ++ [⟨⟨publicIp, 27017⟩, awsConfig rsInfo⟩]) :
      Prog PyErr (List Initiation) Unit)
    let client := getRsClient (rsInfo.items.map fun e => e.2.dns)
    Prog.ofExcept (waitUntil strBool (fun k => (c k).isSome) true "None" 10 0).1
    pure (client, rsInfo)

/-! ## The keys of the template -/

/-- The names of the families, which are also the attributes they read. -/
def families : List String := ["PublicIp", "PublicDnsName", "PrivateIp"]

/-- The outputs of the template, family by family. -/
theorem outputs_template (n : ℕ) :
    (template n).outputs = families.flatMap fun key => outputFamily key key n := by
  simp [template, families]

/-- The names of the families have no digits. -/
theorem letters_of_mem_families {key : String} (hkey : key ∈ families) :
    (key.toList.all fun c => !c.isDigit) = true := by
  have hall : ∀ key ∈ families, (key.toList.all fun c => !c.isDigit) = true := by decide
  exact hall key hkey

/-- **No generated key equals another**, within a family or across two.

**Proof sketch.** The names of the families have no digits, so key and number can be told apart in
each generated name. -/
theorem nodup_outputKeys (n : ℕ) : ((template n).outputs.map Prod.fst).Nodup := by
  rw [outputs_template, List.map_flatMap, List.nodup_flatMap]
  constructor
  · intro key _
    rw [outputFamily, List.map_map]
    exact List.nodup_range.map fun i j h => append_toString_inj h
  · have hdistinct : families.Nodup := by decide
    refine hdistinct.imp_of_mem fun {key key'} hkey hkey' hne => ?_
    intro name hname hname'
    simp only [outputFamily, List.map_map] at hname hname'
    obtain ⟨i, -, rfl⟩ := List.mem_map.mp hname
    obtain ⟨j, -, hj⟩ := List.mem_map.mp hname'
    exact hne (append_toString_inj_of_letters (letters_of_mem_families hkey')
      (letters_of_mem_families hkey) hj).1.symm

/-- The template is accepted: names are not used twice, and every output refers to an instance of
the template. -/
structure Template.Valid (t : Template) : Prop where
  resources : t.resources.Nodup
  outputs : (t.outputs.map Prod.fst).Nodup
  refers : ∀ o ∈ t.outputs, o.2.logicalName ∈ t.resources

/-- The template that is built is accepted. -/
theorem valid_template (n : ℕ) : (template n).Valid where
  resources := by
    refine List.nodup_cons.mpr ⟨fun h => ?_, List.nodup_range.map fun i j h => ?_⟩
    · obtain ⟨i, -, hi⟩ := List.mem_map.mp h
      have hlist := congrArg String.toList hi
      rw [resourceName, String.toList_append] at hlist
      exact absurd (congrArg List.head? (congrArg (List.drop 1) hlist)) (by simp)
    · exact append_toString_inj h
  outputs := nodup_outputKeys n
  refers := by
    intro o ho
    rw [outputs_template] at ho
    obtain ⟨key, -, ho⟩ := List.mem_flatMap.mp ho
    obtain ⟨i, hi, rfl⟩ := List.mem_map.mp ho
    exact List.mem_cons_of_mem _ (List.mem_map_of_mem hi)

/-! ## The lookups -/

section Lookup

variable {attr : GetAtt → String} {n : ℕ} {outputs : List Output}

/-- **A lookup finds the output meant**, in whatever order the stack lists them. -/
theorem keyFind_stackOutputs (hout : outputs.Perm (stackOutputs attr (template n)))
    {key : String} (hkey : key ∈ families) {i : ℕ} (hi : i < n) :
    outputValue (keyFind outputs Output.outputKey (key ++ toString i)) =
      .ok (attr ⟨resourceName i, key⟩) := by
  have hmem : (key ++ toString i, (⟨resourceName i, key⟩ : GetAtt)) ∈ (template n).outputs := by
    rw [outputs_template]
    exact List.mem_flatMap.mpr ⟨key, hkey, List.mem_map_of_mem (List.mem_range.mpr hi)⟩
  have hfind : keyFind outputs Output.outputKey (key ++ toString i) =
      some ⟨key ++ toString i, attr ⟨resourceName i, key⟩⟩ := by
    refine keyFind_eq_some (hout.mem_iff.mpr (List.mem_map_of_mem hmem)) rfl ?_
    intro o ho hokey
    obtain ⟨e, he, rfl⟩ := List.mem_map.mp (hout.mem_iff.mp ho)
    rw [List.inj_on_of_nodup_map (nodup_outputKeys n) he hmem hokey]
  rw [hfind]
  rfl

/-- The addresses of the `i`-th instance. -/
def nodeInfo (attr : GetAtt → String) (i : ℕ) : NodeInfo where
  ip := attr ⟨resourceName i, "PublicIp"⟩
  dns := attr ⟨resourceName i, "PublicDnsName"⟩
  privateIp := attr ⟨resourceName i, "PrivateIp"⟩

/-- `rs_info` with the first `k` instances. -/
def rsInfoOf (attr : GetAtt → String) (k : ℕ) : RsInfo :=
  Dict.ofItems ((List.range k).map fun i => ("mongo" ++ toString i, nodeInfo attr i))

/-- The nodes stand in `rs_info` in the order of their numbers. -/
theorem items_rsInfoOf (attr : GetAtt → String) (k : ℕ) :
    (rsInfoOf attr k).items =
      (List.range k).map fun i => ("mongo" ++ toString i, nodeInfo attr i) := by
  refine Dict.items_ofItems ?_
  rw [List.map_map]
  exact List.nodup_range.map fun i j h => append_toString_inj h

/-- One pass reads the next instance. -/
theorem readNode_eq_ok (hout : outputs.Perm (stackOutputs attr (template n))) {i : ℕ}
    (hi : i < n) (acc : RsInfo × Option String) :
    readNode outputs acc i = .ok (acc.1.set ("mongo" ++ toString i) (nodeInfo attr i),
      some (nodeInfo attr i).ip) := by
  rw [readNode, keyFind_stackOutputs hout (by decide) hi, keyFind_stackOutputs hout (by decide) hi,
    keyFind_stackOutputs hout (by decide) hi]
  rfl

/-- **The loop** reads the instances one after the other.

**Proof sketch.** Induction on the number of passes; the last one adds its node to the dictionary
of the passes before. -/
theorem readNodes_eq_ok (hout : outputs.Perm (stackOutputs attr (template n))) {k : ℕ}
    (hk : k ≤ n) :
    (List.range k).foldlM (readNode outputs) (Dict.empty, none) =
      .ok (rsInfoOf attr k, if k = 0 then none else some (nodeInfo attr (k - 1)).ip) := by
  induction k with
  | zero => rfl
  | succ k ih =>
    have hset : (rsInfoOf attr k).set ("mongo" ++ toString k) (nodeInfo attr k) =
        rsInfoOf attr (k + 1) := by
      simp only [rsInfoOf, Dict.ofItems, List.range_succ, List.map_append, List.map_singleton,
        List.foldl_append, List.foldl_cons, List.foldl_nil]
    rw [List.range_succ, List.foldlM_append, ih (by omega)]
    show (List.foldlM (readNode outputs) _ [k]) = _
    rw [List.foldlM_cons, readNode_eq_ok hout (by omega)]
    simp only [hset]
    rfl

end Lookup

/-! ## Every address belongs to the right node -/

/-- `rs_info` has the nodes `mongo0`, …, in this order, each with the addresses of its instance,
and the configuration made of it numbers their names from `0` on. -/
structure ReadsBack (attr : GetAtt → String) (n : ℕ) (rsInfo : RsInfo) : Prop where
  keys : rsInfo.keys = (List.range n).map fun i => "mongo" ++ toString i
  info : ∀ i < n, rsInfo.get? ("mongo" ++ toString i) = some (nodeInfo attr i)
  id : (awsConfig rsInfo).id = "rs0"
  members : (awsConfig rsInfo).members =
    (List.range n).map fun i => ⟨i, (nodeInfo attr i).dns, none⟩

/-- The dictionary the loop ends with. -/
theorem readsBack_rsInfoOf (attr : GetAtt → String) (n : ℕ) :
    ReadsBack attr n (rsInfoOf attr n) where
  keys := by
    rw [Dict.keys, items_rsInfoOf, List.map_map]
    rfl
  info := by
    intro i hi
    rw [Dict.get?_eq_some_iff, items_rsInfoOf]
    exact List.mem_map.mpr ⟨i, List.mem_range.mpr hi, rfl⟩
  id := rfl
  members := by
    refine List.ext_getElem? fun i => ?_
    by_cases hi : i < n
    · simp [awsConfig, items_rsInfoOf, hi]
    · simp [awsConfig, items_rsInfoOf, hi]

/-- **Every address belongs to the right node**: there is one `rs_info`, which has the addresses
of the instances under their nodes, such that for every order of the outputs the call sends the
configuration made of it to the last instance and, if the answers allow, returns it.

**Proof sketch.** The keys of the template are pairwise distinct, so each lookup finds the output
meant; the loop therefore ends with the same dictionary for every order. -/
theorem createReplicaSetOnAws_reads_back (attr : GetAtt → String) {n : ℕ} (hn : 1 ≤ n) :
    (template n).Valid ∧ ∃ rsInfo, ReadsBack attr n rsInfo ∧
      ∀ outputs, outputs.Perm (stackOutputs attr (template n)) → ∀ accepted c sent,
        createReplicaSetOnAws accepted c outputs n sent =
          (do
            accepted
            (waitUntil strBool (fun k => (c k).isSome) true "None" 10 0).1
            pure (getRsClient ((List.range n).map fun i => (nodeInfo attr i).dns), rsInfo),
          sent ++ [⟨⟨(nodeInfo attr (n - 1)).ip, 27017⟩, awsConfig rsInfo⟩]) := by
  refine ⟨valid_template n, rsInfoOf attr n, readsBack_rsInfoOf attr n, ?_⟩
  intro outputs hout accepted c sent
  have hloop := readNodes_eq_ok hout (Nat.le_refl n)
  rw [if_neg (by omega)] at hloop
  have hhosts : ((rsInfoOf attr n).items.map fun e => e.2.dns) =
      (List.range n).map fun i => (nodeInfo attr i).dns := by
    rw [items_rsInfoOf, List.map_map]
    rfl
  rw [createReplicaSetOnAws, hloop, Prog.ofExcept_ok, pure_bind]
  simp only [hhosts]
  cases accepted with
  | error e => rfl
  | ok _ =>
    cases hwait : (waitUntil strBool (fun k => (c k).isSome) true "None" 10 0).1 with
    | error e => rfl
    | ok _ => rfl

/-- Two instances, with the outputs in the reverse order. -/
theorem createReplicaSetOnAws_reads_back_twoInstances :
    let attr : GetAtt → String := fun g => g.logicalName ++ "." ++ g.attrName
    let outputs := (stackOutputs attr (template 2)).reverse
    ∃ rsInfo, ReadsBack attr 2 rsInfo ∧
      (createReplicaSetOnAws (.ok ()) (fun _ => some ("Mongo0.PublicDnsName", 27017)) outputs 2
        []).1 = .ok ("mongodb://Mongo0.PublicDnsName,Mongo1.PublicDnsName/?replicaSet=rs0",
          rsInfo) := by
  intro attr outputs
  obtain ⟨-, rsInfo, hrsInfo, hrun⟩ := createReplicaSetOnAws_reads_back attr (n := 2) (by decide)
  refine ⟨rsInfo, hrsInfo, ?_⟩
  rw [hrun outputs (List.reverse_perm _)]
  rfl

end PythonForFun.MongoDB
