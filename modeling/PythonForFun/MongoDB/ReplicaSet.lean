import PythonForFun.MongoDB.Utils

set_option relaxedAutoImplicit false
set_option autoImplicit false

/-!
# Creating a replica set in containers

`create_replica_set` of `mongodb/mongodb_utils.py` starts one container for each member, collects
the members' entries of the configuration and remembers a client of the first one; this client
gets the command that initiates the replica set.

## Main definitions

* `MongoDB.Config`, `MongoDB.Initiation` — the configuration, and the command sent with it.
* `MongoDB.DockerEnv`, `MongoDB.Docker` — what docker and the servers answer, and what has been
  started and sent.
* `MongoDB.createReplicaSet` — `create_replica_set`.
* `MongoDB.Consistent` — what the configuration has to do with the containers.

## Main results

* `MongoDB.startMember_ends` — the step lemma of the loop.
* `MongoDB.createReplicaSet_consistent` — what is sent is consistent, and it is sent when all
  calls succeed.
-/

namespace PythonForFun.MongoDB

/-! ## The configuration -/

/-- A member of a replica set: `{'_id': …, 'host': …}`, with a `priority` or without. -/
structure Member where
  id : ℕ
  host : String
  priority : Option ℕ
  deriving DecidableEq

/-- The configuration `{'_id': …, 'members': […]}`. -/
structure Config where
  id : String
  members : List Member
  deriving DecidableEq

/-- `MongoClient(host, port)`. -/
structure MongoClient where
  host : String
  port : ℕ
  deriving DecidableEq

/-- `client.admin.command("replSetInitiate", config)`. -/
structure Initiation where
  client : MongoClient
  config : Config
  deriving DecidableEq

/-- `config['members'].append(member)`. -/
def Config.append (config : Config) (member : Member) : Config :=
  { config with members := config.members ++ [member] }

/-! ## Docker -/

/-- `DOCKER_NETWORK`. -/
def dockerNetwork : String := "mongo-replica-set"

/-- `MONGO_VERSION`. -/
def mongoVersion : String := "4.1.11"

/-- `docker run --rm -d --network … --hostname … --name … -p hostPort:containerPort image
--replSet … --bind_ip …`. -/
structure Container where
  network : String
  hostname : String
  name : String
  hostPort : ℕ
  containerPort : ℕ
  image : String
  replSet : String
  bindIp : String
  deriving DecidableEq

/-- What the outside answers: the `n`-th docker command, the `n`-th `server_info()`, the command
that initiates the replica set, and the `n`-th read of `master.is_primary`. -/
structure DockerEnv where
  docker : ℕ → ProcResult
  serverInfo : ℕ → Bool
  initiate : Except PyErr Unit
  isPrimary : ℕ → Bool

/-- The containers started since the call began, how many docker commands and `server_info()`
were issued, and the initiations sent. -/
structure Docker where
  started : List Container
  issued : ℕ
  asked : ℕ
  sent : List Initiation
  deriving DecidableEq

/-- Nothing done yet. -/
def Docker.start : Docker := ⟨[], 0, 0, []⟩

/-- Every docker command exits with `0`, and every server answers. -/
structure DockerEnv.Succeeds (env : DockerEnv) : Prop where
  docker : ∀ k, (env.docker k).returncode = 0
  serverInfo : ∀ k, env.serverInfo k = true

section Program

variable (env : DockerEnv)

/-- `run('docker …', quiet)`, for a command that starts `containers` when it succeeds. -/
def docker (containers : List Container) (quiet : Value) :
    Prog PyErr Docker (String × String) := fun w =>
  let proc := env.docker w.issued
  let started := if proc.returncode = 0 then w.started ++ containers else w.started
  (run proc quiet, { w with started := started, issued := w.issued + 1 })

/-- `client.server_info()`. -/
def serverInfo : Prog PyErr Docker Unit := fun w =>
  (if env.serverInfo w.asked then .ok () else .error .connectionError,
    { w with asked := w.asked + 1 })

/-- `client.admin.command("replSetInitiate", config)`. -/
def replSetInitiate (client : MongoClient) (config : Config) : Prog PyErr Docker Unit := fun w =>
  (env.initiate, { w with sent := w.sent ++ [⟨client, config⟩] })

/-- The container of a member. -/
def memberContainer (replicaSetName hostname : String) (mappingPort : ℕ) : Container where
  network := dockerNetwork
  hostname := hostname
  name := hostname
  hostPort := mappingPort
  containerPort := 27017
  image := "mongo:" ++ mongoVersion
  replSet := replicaSetName
  bindIp := "localhost," ++ hostname

/-- One pass of the loop, over the configuration so far and the remembered client. -/
def startMember (replicaSetName : String) (acc : Config × Option MongoClient) (i : ℕ) :
    Prog PyErr Docker (Config × Option MongoClient) := do
  let (config, master) := acc
  let hostname := "mongo" ++ toString i
  let mappingPort := 27017 + i
  let _ ← docker env [memberContainer replicaSetName hostname mappingPort] (.bool false)
  if i = 0 then
    let master : MongoClient := ⟨"localhost", mappingPort⟩
    serverInfo env
    pure (config.append ⟨i, hostname ++ ":27017", some 99⟩, some master)
  else
    serverInfo env
    pure (config.append ⟨i, hostname ++ ":27017", none⟩, master)

/-- `create_replica_set(replicas)`. Without replicas `master` is not bound. -/
def createReplicaSet (replicas : ℕ) : Prog PyErr Docker String := do
  let _ ← docker env [] (.bool true)
  let _ ← docker env [] (.bool true)
  let _ ← docker env [] (.bool false)
  let replicaSetName := "rs" ++ toString replicas
  let (config, master) ← (List.range replicas).foldlM (startMember env replicaSetName)
    (⟨replicaSetName, []⟩, none)
  match master with
  | none => Prog.raise (.nameError "master")
  | some master =>
    replSetInitiate env master config
    Prog.ofExcept (waitUntil strBool env.isPrimary true "None" 10 0).1
    pure replicaSetName

end Program

/-! ## The loop -/

/-- The container of the `i`-th member. -/
def containerAt (replicaSetName : String) (i : ℕ) : Container :=
  memberContainer replicaSetName ("mongo" ++ toString i) (27017 + i)

/-- The entry of the `i`-th member: the first one has a priority. -/
def memberAt (i : ℕ) : Member :=
  ⟨i, "mongo" ++ toString i ++ ":27017", if i = 0 then some 99 else none⟩

/-- **The invariant of the loop** after `i` passes: the containers and the entries of the first
`i` members are there, and a client of the first one is remembered. -/
structure Underway (replicaSetName : String) (i : ℕ) (acc : Config × Option MongoClient)
    (w : Docker) : Prop where
  started : w.started = (List.range i).map (containerAt replicaSetName)
  sent : w.sent = []
  config : acc.1 = ⟨replicaSetName, (List.range i).map memberAt⟩
  master : acc.2 = if i = 0 then none else some ⟨"localhost", 27017⟩

section Loop

variable (env : DockerEnv)

/-- The state an exception leaves before the initiation: nothing is sent, and some call has not
succeeded. -/
def NotSent (env : DockerEnv) (w : Docker) : Prop := w.sent = [] ∧ ¬ env.Succeeds

/-- A docker command that is not quiet starts its containers or raises. -/
theorem docker_ends (l containers : List Container) :
    Prog.Ends (fun w => w.started = l ∧ w.sent = []) (docker env containers (.bool false))
      (fun _ w => w.started = l ++ containers ∧ w.sent = []) (NotSent env) := by
  rintro w ⟨hstarted, hsent⟩
  by_cases hcode : (env.docker w.issued).returncode = 0
  · obtain ⟨r, hr⟩ := (run_eq_ok_iff _).mpr hcode
    refine Or.inl ⟨r, { w with started := w.started ++ containers, issued := w.issued + 1 }, ?_,
      by rw [hstarted], hsent⟩
    simp only [docker, hr, hcode, if_true]
  · cases hr : run (env.docker w.issued) (.bool false) with
    | ok r => exact absurd ((run_eq_ok_iff _).mp ⟨r, hr⟩) hcode
    | error e =>
      refine Or.inr ⟨e, { w with issued := w.issued + 1 }, ?_, hsent, fun h => ?_⟩
      · simp only [docker, hr, hcode, if_false]
      · exact hcode (h.docker w.issued)

/-- A quiet docker command returns. -/
theorem docker_quiet_ends (l : List Container) :
    Prog.Ends (fun w => w.started = l ∧ w.sent = []) (docker env [] (.bool true))
      (fun _ w => w.started = l ∧ w.sent = []) (NotSent env) := by
  rintro w ⟨hstarted, hsent⟩
  obtain ⟨r, hr⟩ : ∃ r, run (env.docker w.issued) (.bool true) = .ok r := by
    simp [run, Value.isFalse]
  refine Or.inl ⟨r, { w with issued := w.issued + 1 }, ?_, hstarted, hsent⟩
  simp only [docker, hr, List.append_nil, ite_self]

/-- Asking a server changes nothing. -/
theorem serverInfo_ends {P : Docker → Prop} (hP : ∀ w, P w → w.sent = [])
    (hasked : ∀ w, P w → P { w with asked := w.asked + 1 }) :
    Prog.Ends P (serverInfo env) (fun _ => P) (NotSent env) := by
  intro w hw
  cases hanswer : env.serverInfo w.asked with
  | true => exact Or.inl ⟨(), { w with asked := w.asked + 1 }, by simp [serverInfo, hanswer],
      hasked w hw⟩
  | false =>
    refine Or.inr ⟨.connectionError, { w with asked := w.asked + 1 }, by simp [serverInfo, hanswer],
      hP _ (hasked w hw), fun h => ?_⟩
    rw [h.serverInfo] at hanswer
    cases hanswer

/-- **The step lemma of the loop**: one pass adds the next member, unless a call fails. -/
theorem startMember_ends (replicaSetName : String) (acc : Config × Option MongoClient) (i : ℕ) :
    Prog.Ends (Underway replicaSetName i acc) (startMember env replicaSetName acc i)
      (Underway replicaSetName (i + 1)) (NotSent env) := by
  intro w hw
  obtain ⟨config, master⟩ := acc
  obtain ⟨hstarted, hsent, hconfig, hmaster⟩ := hw
  have hrange : (List.range i).map (containerAt replicaSetName) ++ [containerAt replicaSetName i] =
      (List.range (i + 1)).map (containerAt replicaSetName) := by
    rw [List.range_succ, List.map_append, List.map_singleton]
  have hmembers : (⟨replicaSetName, (List.range i).map memberAt⟩ : Config).append (memberAt i) =
      ⟨replicaSetName, (List.range (i + 1)).map memberAt⟩ := by
    rw [Config.append, List.range_succ, List.map_append, List.map_singleton]
  suffices h : Prog.Ends
      (fun w => w.started = (List.range i).map (containerAt replicaSetName) ∧ w.sent = [])
      (startMember env replicaSetName (config, master) i)
      (Underway replicaSetName (i + 1)) (NotSent env) from h w ⟨hstarted, hsent⟩
  refine (docker_ends env _ [containerAt replicaSetName i]).bind fun _ => ?_
  rw [hrange]
  have hasked := serverInfo_ends env
    (P := fun w => w.started = (List.range (i + 1)).map (containerAt replicaSetName) ∧ w.sent = [])
    (fun w hw => hw.2) (fun w hw => hw)
  -- both branches ask the server and append; only the first one remembers the client
  by_cases hi : i = 0
  · rw [if_pos hi]
    refine hasked.bind fun _ w' hw' => Or.inl ⟨_, w', rfl, hw'.1, hw'.2, ?_, ?_⟩
    · rw [← hmembers, ← hconfig, memberAt, if_pos hi]
    · simp [hi]
  · rw [if_neg hi]
    refine hasked.bind fun _ w' hw' => Or.inl ⟨_, w', rfl, hw'.1, hw'.2, ?_, ?_⟩
    · rw [← hmembers, ← hconfig, memberAt, if_neg hi]
    · rw [if_neg hi] at hmaster
      exact hmaster

/-- **The loop** ends with all members, unless a call fails. -/
theorem startMembers_ends (replicaSetName : String) (n : ℕ) :
    Prog.Ends (fun w => w.started = [] ∧ w.sent = [])
      ((List.range n).foldlM (startMember env replicaSetName) (⟨replicaSetName, []⟩, none))
      (Underway replicaSetName n) (NotSent env) := by
  have hloop := Prog.Ends.foldlM_range (n := n) (E := NotSent env)
    (fun i _ acc => startMember_ends env replicaSetName acc i)
    (⟨replicaSetName, []⟩, none)
  exact hloop.conseq (fun w hw => ⟨hw.1, hw.2, rfl, rfl⟩) (fun _ _ h => h) fun _ h => h

end Loop

/-! ## What is sent -/

/-- What the initiation sent has to do with the containers that have been started for `n`
replicas. -/
structure Consistent (n : ℕ) (w : Docker) (s : Initiation) : Prop where
  started : w.started.length = n
  names : (w.started.map Container.name).Nodup
  ports : w.started.map Container.hostPort = (List.range n).map (27017 + ·)
  portsDistinct : (w.started.map Container.hostPort).Nodup
  replSet : ∀ c ∈ w.started, c.replSet = s.config.id
  members : s.config.members.length = n
  ids : s.config.members.map Member.id = List.range n
  hosts : (s.config.members.map Member.host).Nodup
  named : ∀ m ∈ s.config.members, ∃ c ∈ w.started, m.host = c.name ++ ":27017"
  oneMaster : s.config.members.countP (fun m => m.priority = some 99) = 1
  master : ∃ m ∈ s.config.members, m.priority = some 99 ∧
    ∃ c ∈ w.started, m.host = c.name ++ ":27017" ∧ s.client = ⟨"localhost", c.hostPort⟩

/-- The containers and the entries of `n` members belong together. -/
theorem consistent_members (replicaSetName : String) {n : ℕ} (hn : 1 ≤ n) {w : Docker}
    (hw : w.started = (List.range n).map (containerAt replicaSetName)) :
    Consistent n w ⟨⟨"localhost", 27017⟩, ⟨replicaSetName, (List.range n).map memberAt⟩⟩ := by
  have hmem : ∀ i < n, containerAt replicaSetName i ∈ w.started := by
    intro i hi
    rw [hw]
    exact List.mem_map_of_mem (List.mem_range.mpr hi)
  have hhost : ∀ i, (memberAt i).host = (containerAt replicaSetName i).name ++ ":27017" :=
    fun i => rfl
  refine ⟨?_, ?_, ?_, ?_, ?_, ?_, ?_, ?_, ?_, ?_, ?_⟩
  · simp [hw]
  · rw [hw, List.map_map]
    exact List.nodup_range.map fun i j h => append_toString_inj h
  · rw [hw, List.map_map]
    rfl
  · rw [hw, List.map_map]
    refine List.nodup_range.map fun i j h => ?_
    have hports : 27017 + i = 27017 + j := h
    omega
  · intro c hc
    rw [hw] at hc
    obtain ⟨i, -, rfl⟩ := List.mem_map.mp hc
    rfl
  · simp
  · rw [List.map_map]
    exact List.map_id' _
  · rw [List.map_map]
    refine List.nodup_range.map fun i j h => ?_
    exact append_toString_inj ((String.append_left_inj ":27017").mp h)
  · intro m hm
    obtain ⟨i, hi, rfl⟩ := List.mem_map.mp hm
    exact ⟨_, hmem i (List.mem_range.mp hi), hhost i⟩
  · have hcount : ((List.range n).map memberAt).countP (fun m => m.priority = some 99) =
        (List.range n).count 0 := by
      rw [List.countP_map]
      refine List.countP_congr fun i _ => ?_
      by_cases hi : i = 0
      · simp [memberAt, hi]
      · simp [memberAt, hi]
    rw [hcount]
    exact List.count_eq_one_of_mem List.nodup_range (List.mem_range.mpr hn)
  · exact ⟨memberAt 0, List.mem_map_of_mem (List.mem_range.mpr hn), rfl, _, hmem 0 hn, hhost 0, rfl⟩

/-- One initiation is sent, and it is consistent. -/
def SentConsistent (n : ℕ) (w : Docker) : Prop := ∃ s, w.sent = [s] ∧ Consistent n w s

/-- The command is sent whatever the server answers, and nothing is sent after it. -/
theorem initiate_ends (env : DockerEnv) (n : ℕ) (client : MongoClient) (config : Config)
    (replicaSetName : String) :
    Prog.Ends (fun w => w.sent = [] ∧ Consistent n w ⟨client, config⟩)
      (do
        replSetInitiate env client config
        Prog.ofExcept (waitUntil strBool env.isPrimary true "None" 10 0).1
        pure replicaSetName)
      (fun _ => SentConsistent n) (SentConsistent n) := by
  rintro w ⟨hsent, hconsistent⟩
  have hafter : SentConsistent n { w with sent := w.sent ++ [⟨client, config⟩] } := by
    exact ⟨⟨client, config⟩, by rw [hsent, List.nil_append], { hconsistent with }⟩
  have hcommand : replSetInitiate env client config w =
      (env.initiate, { w with sent := w.sent ++ [⟨client, config⟩] }) := rfl
  cases hinitiate : env.initiate with
  | error e =>
    rw [hinitiate] at hcommand
    exact Or.inr ⟨e, _, Prog.bind_of_error hcommand, hafter⟩
  | ok _ =>
    rw [hinitiate] at hcommand
    rw [Prog.bind_of_ok hcommand]
    cases hwait : (waitUntil strBool env.isPrimary true "None" 10 0).1 with
    | error e => exact Or.inr ⟨e, _, rfl, hafter⟩
    | ok _ => exact Or.inl ⟨replicaSetName, _, rfl, hafter⟩

/-- The whole call, from a state in which nothing has been started.

**Proof sketch.** The docker commands before the loop start nothing; the loop ends with all
members, and the initiation goes to the remembered client with the collected configuration. -/
theorem createReplicaSet_ends (env : DockerEnv) {n : ℕ} (hn : 1 ≤ n) :
    Prog.Ends (fun w => w.started = [] ∧ w.sent = []) (createReplicaSet env n)
      (fun _ => SentConsistent n) (fun w => NotSent env w ∨ SentConsistent n w) := by
  have hearly : ∀ w, NotSent env w → NotSent env w ∨ SentConsistent n w := fun w h => Or.inl h
  have hquiet := (docker_quiet_ends env []).weaken hearly
  have hcreate := (docker_ends env [] []).weaken hearly
  have hloop := (startMembers_ends env ("rs" ++ toString n) n).weaken hearly
  refine hquiet.bind fun _ => hquiet.bind fun _ => hcreate.bind fun _ => hloop.bind ?_
  rintro ⟨config, master⟩ w ⟨hstarted, hsent, hconfig, hmaster⟩
  obtain rfl : config = _ := hconfig
  rw [if_neg (by omega)] at hmaster
  obtain rfl : master = _ := hmaster
  have hconsistent := consistent_members ("rs" ++ toString n) hn hstarted
  rcases initiate_ends env n _ _ ("rs" ++ toString n) w ⟨hsent, hconsistent⟩ with
    hreturned | ⟨e, w', hrun, hw'⟩
  · exact Or.inl hreturned
  · exact Or.inr ⟨e, w', hrun, Or.inr hw'⟩

/-- **What is sent is consistent**: whatever docker and the servers answer, an initiation that is
sent goes to the member with priority and names the containers started; and when they all
succeed, one is sent. -/
theorem createReplicaSet_consistent (env : DockerEnv) {n : ℕ} (hn : 1 ≤ n) :
    (∀ s ∈ (createReplicaSet env n Docker.start).2.sent,
        Consistent n (createReplicaSet env n Docker.start).2 s) ∧
      (env.Succeeds → ∃ s, (createReplicaSet env n Docker.start).2.sent = [s]) := by
  have hone : ∀ w, SentConsistent n w →
      (∀ s ∈ w.sent, Consistent n w s) ∧ (env.Succeeds → ∃ s, w.sent = [s]) := by
    rintro w ⟨s, hsent, hs⟩
    refine ⟨fun s' hs' => ?_, fun _ => ⟨s, hsent⟩⟩
    rw [hsent, List.mem_singleton] at hs'
    rwa [hs']
  rcases createReplicaSet_ends env hn Docker.start ⟨rfl, rfl⟩ with
    ⟨a, w, hrun, hw⟩ | ⟨e, w, hrun, ⟨hsent, hfailed⟩ | hw⟩
  · rw [hrun]
    exact hone w hw
  · rw [hrun]
    refine ⟨fun s hs => ?_, fun h => absurd h hfailed⟩
    rw [show w.sent = [] from hsent] at hs
    exact absurd hs List.not_mem_nil
  · rw [hrun]
    exact hone w hw

/-- Three replicas, with everything succeeding. -/
theorem createReplicaSet_consistent_threeReplicas :
    let env : DockerEnv := ⟨fun _ => ⟨"", "", 0⟩, fun _ => true, .ok (), fun _ => true⟩
    let w := (createReplicaSet env 3 Docker.start).2
    (∀ s ∈ w.sent, Consistent 3 w s) ∧ ∃ s, w.sent = [s] := by
  intro env w
  have h := createReplicaSet_consistent env (n := 3) (by decide)
  exact ⟨h.1, h.2 ⟨fun _ => rfl, fun _ => rfl⟩⟩

end PythonForFun.MongoDB
