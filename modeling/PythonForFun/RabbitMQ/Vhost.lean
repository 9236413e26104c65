import Mathlib.Data.List.TakeWhile
import Mathlib.Logic.Function.Basic
import PythonForFun.Lib.Prog
import PythonForFun.Python

set_option relaxedAutoImplicit false
set_option autoImplicit false

/-!
# Creating virtual hosts

`create_vhost` and `pika_connection` of `rabbitmq/rabbitmq_utils.py`. `create_vhost` asks the
broker at `host:port` for its vhosts and, if the one it is asked for is missing, creates it by a
second request, which always goes to `localhost:15672`. The name stands in the URL of that request
as it is, so that a name with a `?` or a `%` in it is read as another one there.

## Main definitions

* `RabbitMQ.Network` — the brokers, their management addresses, and how they read a URL.
* `RabbitMQ.createVhost`, `RabbitMQ.pikaConnection`.
* `RabbitMQ.Misdirected` — the second request goes to another broker than the first, or creates
  a vhost of another name.

## Main results

* `RabbitMQ.createVhost_apply` — what a call does.
* `RabbitMQ.createVhost_there_iff` — the vhost is created where it was asked for, and the
  connection goes to a broker that has it, iff the call is not misdirected.
* `RabbitMQ.createVhost_elsewhere` — a vhost asked for on another host is created locally.
-/

namespace PythonForFun.RabbitMQ

/-- A character that means itself in a URL. -/
def isUnreserved (c : Char) : Bool := c.isAlphanum || c == '-' || c == '.' || c == '_' || c == '~'

/-- A name that needs no escaping in the path of a URL. -/
structure IsPlain (name : String) : Prop where
  unreserved : ∀ c ∈ name.toList, isUnreserved c = true
  ne_empty : name ≠ ""
  ne_dot : name ≠ "."
  ne_dots : name ≠ ".."

/-- Brokers `ι`: which one listens at a host and management port, whether it accepts a `PUT` to
the URL that ends with `/api/vhosts/` and a text, and the vhost it creates then, if that is the URL
of one. A name that needs no escaping is read as it is. -/
structure Network (ι : Type) where
  brokerAt : String → ℕ → Option ι
  accepts : ι → String → Bool
  creates : ι → String → Option String
  creates_plain : ∀ i name, IsPlain name → creates i name = some name

/-- `pika.ConnectionParameters`. -/
structure ConnectionParameters where
  heartbeat : ℕ
  host : String
  port : ℕ
  virtualHost : String
  deriving DecidableEq

/-- The vhosts of each broker, in the order it lists them, and the connections opened so far. -/
structure VhostWorld (ι : Type) where
  vhosts : ι → List String
  opened : List ConnectionParameters

variable {ι : Type} [DecidableEq ι]

/-- A broker's vhosts with one more, unless it is there. -/
def addVhost (vhosts : List String) (vhost : String) : List String :=
  if vhost ∈ vhosts then vhosts else vhosts ++ [vhost]

/-- The names in the reply to `requests.get(f'http://{host}:{port}/api/vhosts')`. -/
def getVhosts (net : Network ι) (host : String) (port : ℕ) :
    Prog PyErr (VhostWorld ι) (List String) := fun w =>
  match net.brokerAt host port with
  | none => (.error .connectionError, w)
  | some i => (.ok (w.vhosts i), w)

/-- The vhosts after a broker has accepted a `PUT` with the text at the end of its URL. -/
def VhostWorld.put (w : VhostWorld ι) (net : Network ι) (i : ι) (text : String) : VhostWorld ι :=
  match net.creates i text with
  | none => w
  | some name => { w with vhosts := Function.update w.vhosts i (addVhost (w.vhosts i) name) }

/-- `requests.put(f'http://{host}:{port}/api/vhosts/{vhost}').ok`: the name is not escaped, so
the broker creates the vhost it reads there. -/
def putVhost (net : Network ι) (host : String) (port : ℕ) (vhost : String) :
    Prog PyErr (VhostWorld ι) Bool := fun w =>
  match net.brokerAt host port with
  | none => (.error .connectionError, w)
  | some i =>
    if net.accepts i vhost then (.ok true, w.put net i vhost) else (.ok false, w)

/-- `create_vhost(host, vhost, port)`. -/
def createVhost (net : Network ι) (host : String := "localhost") (vhost : String := "/")
    (port : ℕ := 15672) : Prog PyErr (VhostWorld ι) Unit := do
  let vhosts ← getVhosts net host port
  if vhost ∈ vhosts then pure ()
  else
    let ok ← putVhost net "localhost" 15672 vhost
    if ok then pure () else Prog.raise .assertionError

/-- `pika.BlockingConnection(params)`: the connection is opened, and the client library may
still raise. -/
def blockingConnection (pika : ConnectionParameters → Except PyErr Unit)
    (params : ConnectionParameters) : Prog PyErr (VhostWorld ι) Unit := fun w =>
  (pika params, { w with opened := w.opened ++ [params] })

/-- `pika_connection(host, port, vhost)`. -/
def pikaConnection (net : Network ι) (pika : ConnectionParameters → Except PyErr Unit)
    (host : String := "localhost") (port : ℕ := 5672) (vhost : String := "/") :
    Prog PyErr (VhostWorld ι) Unit := do
  createVhost net host vhost (10000 + port)
  blockingConnection pika ⟨600, host, port, vhost⟩

/-! ## What a call does -/

/-- A vhost is there after it was added. -/
theorem mem_addVhost_iff (vhosts : List String) (name vhost : String) :
    vhost ∈ addVhost vhosts name ↔ vhost ∈ vhosts ∨ vhost = name := by
  rw [addVhost]
  split_ifs with hmem
  · exact ⟨Or.inl, fun h => h.elim id fun heq => heq ▸ hmem⟩
  · rw [List.mem_append, List.mem_singleton]

/-- **A `PUT` that is accepted** adds a vhost to its broker, if it is the name of that vhost that
the broker reads. -/
theorem mem_put_iff (w : VhostWorld ι) (net : Network ι) (i₀ i : ι) (vhost : String) :
    vhost ∈ (w.put net i₀ vhost).vhosts i ↔
      vhost ∈ w.vhosts i ∨ (i₀ = i ∧ net.creates i₀ vhost = some vhost) := by
  rw [VhostWorld.put]
  cases hname : net.creates i₀ vhost with
  | none => simp
  | some name =>
    dsimp only
    by_cases hi : i₀ = i
    · subst hi
      rw [Function.update_self, mem_addVhost_iff, Option.some_inj, eq_comm (a := name)]
      simp
    · rw [Function.update_of_ne (Ne.symm hi)]
      simp [hi]

/-- It changes no other broker. -/
theorem vhosts_put_of_ne (w : VhostWorld ι) (net : Network ι) {i₀ j : ι} (hne : j ≠ i₀)
    (text : String) : (w.put net i₀ text).vhosts j = w.vhosts j := by
  rw [VhostWorld.put]
  split
  · rfl
  · exact Function.update_of_ne hne _ _

/-- It opens no connection. -/
@[simp] theorem opened_put (w : VhostWorld ι) (net : Network ι) (i : ι) (text : String) :
    (w.put net i text).opened = w.opened := by
  rw [VhostWorld.put]
  split <;> rfl

/-- A call looks at the broker it was asked for, and then at the local one. -/
theorem createVhost_apply (net : Network ι) (host vhost : String) (port : ℕ)
    (w : VhostWorld ι) :
    createVhost net host vhost port w =
      match net.brokerAt host port with
      | none => (.error .connectionError, w)
      | some i =>
        if vhost ∈ w.vhosts i then (.ok (), w)
        else match net.brokerAt "localhost" 15672 with
          | none => (.error .connectionError, w)
          | some i₀ =>
            if net.accepts i₀ vhost then (.ok (), w.put net i₀ vhost)
            else (.error .assertionError, w) := by
  rw [createVhost, Prog.bind_apply, getVhosts]
  cases net.brokerAt host port with
  | none => rfl
  | some i =>
    dsimp only
    by_cases hmem : vhost ∈ w.vhosts i
    · rw [if_pos hmem, if_pos hmem]
      rfl
    · rw [if_neg hmem, if_neg hmem, Prog.bind_apply, putVhost]
      cases net.brokerAt "localhost" 15672 with
      | none => rfl
      | some i₀ =>
        dsimp only
        cases net.accepts i₀ vhost <;> rfl

/-- A call for a vhost that is there returns, and changes nothing. -/
theorem createVhost_of_mem {net : Network ι} {host vhost : String} {port : ℕ} {i : ι}
    {w : VhostWorld ι} (hi : net.brokerAt host port = some i) (hmem : vhost ∈ w.vhosts i) :
    createVhost net host vhost port w = (.ok (), w) := by
  rw [createVhost_apply, hi]
  exact if_pos hmem

/-- A call that returns found the vhost, or had the local broker accept a `PUT` for it. -/
theorem createVhost_eq_ok {net : Network ι} {host vhost : String} {port : ℕ}
    {w w' : VhostWorld ι} (h : createVhost net host vhost port w = (.ok (), w')) :
    ∃ i, net.brokerAt host port = some i ∧
      ((vhost ∈ w.vhosts i ∧ w' = w) ∨
        (vhost ∉ w.vhosts i ∧ ∃ i₀, net.brokerAt "localhost" 15672 = some i₀ ∧
          net.accepts i₀ vhost = true ∧ w' = w.put net i₀ vhost)) := by
  rw [createVhost_apply] at h
  cases hi : net.brokerAt host port with
  | none => simp [hi] at h
  | some i =>
    simp only [hi] at h
    refine ⟨i, rfl, ?_⟩
    by_cases hmem : vhost ∈ w.vhosts i
    · rw [if_pos hmem] at h
      exact Or.inl ⟨hmem, (Prod.mk.inj h).2.symm⟩
    · rw [if_neg hmem] at h
      cases hi₀ : net.brokerAt "localhost" 15672 with
      | none => simp [hi₀] at h
      | some i₀ =>
        simp only [hi₀] at h
        cases hacc : net.accepts i₀ vhost with
        | false => simp [hacc] at h
        | true =>
          simp only [hacc, if_true] at h
          exact Or.inr ⟨hmem, i₀, rfl, hacc, (Prod.mk.inj h).2.symm⟩

/-- A call opens no connection. -/
theorem opened_createVhost (net : Network ι) (host vhost : String) (port : ℕ)
    (w : VhostWorld ι) : (createVhost net host vhost port w).2.opened = w.opened := by
  rw [createVhost_apply]
  cases net.brokerAt host port with
  | none => rfl
  | some i =>
    dsimp only
    split
    · rfl
    · cases net.brokerAt "localhost" 15672 with
      | none => rfl
      | some i₀ =>
        dsimp only
        split
        · exact opened_put w net i₀ vhost
        · rfl

/-- A call of `pika_connection` ends with the exception of its `create_vhost` and opens nothing, or
it opens one connection after a `create_vhost` that returned. -/
theorem pikaConnection_cases {net : Network ι} {pika : ConnectionParameters → Except PyErr Unit}
    {host vhost : String} {port : ℕ} {w w' : VhostWorld ι} {r : Except PyErr Unit}
    (h : pikaConnection net pika host port vhost w = (r, w')) :
    w'.opened = w.opened ∨
      ∃ w₁, createVhost net host vhost (10000 + port) w = (.ok (), w₁) ∧
        w'.vhosts = w₁.vhosts ∧ w'.opened = w.opened ++ [⟨600, host, port, vhost⟩] := by
  have hopened := opened_createVhost net host vhost (10000 + port) w
  rcases hcreate : createVhost net host vhost (10000 + port) w with ⟨r₁, w₁⟩
  rw [hcreate] at hopened
  rw [pikaConnection, Prog.bind_apply, hcreate] at h
  cases r₁ with
  | error e =>
    obtain rfl : w₁ = w' := (Prod.mk.inj h).2
    exact Or.inl hopened
  | ok u =>
    obtain rfl := (Prod.mk.inj h).2
    exact Or.inr ⟨w₁, rfl, rfl, by rw [← hopened]⟩

/-! ## Where the vhost is created -/

/-- The vhost exists on the broker it was asked for, every other broker's vhosts are as before,
and a second call changes nothing. -/
def CreatesThere (net : Network ι) (host vhost : String) (port : ℕ) (w : VhostWorld ι) : Prop :=
  ∀ w', createVhost net host vhost port w = (.ok (), w') →
    (∃ i, net.brokerAt host port = some i ∧ vhost ∈ w'.vhosts i ∧
      ∀ j, j ≠ i → w'.vhosts j = w.vhosts j) ∧
    ∀ r w'', createVhost net host vhost port w' = (r, w'') → w'' = w'

/-- Every connection the call opens goes to a broker that has the vhost. A broker listens at
port `p` and has its management at port `10000 + p`. -/
def ConnectsToVhost (net : Network ι) (pika : ConnectionParameters → Except PyErr Unit)
    (host vhost : String) (port : ℕ) (w : VhostWorld ι) : Prop :=
  ∀ r w', pikaConnection net pika host port vhost w = (r, w') →
    ∀ params ∈ w'.opened.drop w.opened.length,
      ∃ i, net.brokerAt params.host (10000 + params.port) = some i ∧
        params.virtualHost ∈ w'.vhosts i

/-- The vhost is missing on the broker at `host:port`, and the broker at `localhost:15672` accepts
the `PUT`, but is another one or reads another name in the URL. -/
def Misdirected (net : Network ι) (host vhost : String) (port : ℕ) (w : VhostWorld ι) : Prop :=
  ∃ i i₀, net.brokerAt host port = some i ∧ net.brokerAt "localhost" 15672 = some i₀ ∧
    vhost ∉ w.vhosts i ∧ net.accepts i₀ vhost = true ∧
    ¬ (i₀ = i ∧ net.creates i₀ vhost = some vhost)

omit [DecidableEq ι] in
/-- For a name that needs no escaping only the broker matters. -/
theorem misdirected_iff_of_plain {net : Network ι} {host vhost : String} {port : ℕ}
    {w : VhostWorld ι} (hplain : IsPlain vhost) :
    Misdirected net host vhost port w ↔
      ∃ i i₀, net.brokerAt host port = some i ∧ net.brokerAt "localhost" 15672 = some i₀ ∧
        vhost ∉ w.vhosts i ∧ net.accepts i₀ vhost = true ∧ i₀ ≠ i := by
  have hcreates : ∀ i₀ i : ι, ¬ (i₀ = i ∧ net.creates i₀ vhost = some vhost) ↔ i₀ ≠ i := by
    intro i₀ i
    rw [net.creates_plain i₀ vhost hplain]
    simp
  simp only [Misdirected, hcreates]

/-- A misdirected call returns, and the vhost is still missing where it was asked for. -/
theorem createVhost_of_misdirected {net : Network ι} {host vhost : String} {port : ℕ}
    {w : VhostWorld ι} (h : Misdirected net host vhost port w) :
    ∃ w' i, createVhost net host vhost port w = (.ok (), w') ∧
      net.brokerAt host port = some i ∧ vhost ∉ w'.vhosts i := by
  obtain ⟨i, i₀, hi, hi₀, hmissing, haccepts, hother⟩ := h
  refine ⟨w.put net i₀ vhost, i, ?_, hi, ?_⟩
  · simp only [createVhost_apply, hi, hi₀, if_neg hmissing, haccepts, if_true]
  · rw [mem_put_iff]
    exact fun hmem => hmem.elim hmissing hother

/-- A call that returns without being misdirected left the vhost where it was asked for, and
nothing else anywhere. -/
theorem createVhost_there {net : Network ι} {host vhost : String} {port : ℕ}
    {w w' : VhostWorld ι} (hdirect : ¬ Misdirected net host vhost port w)
    (h : createVhost net host vhost port w = (.ok (), w')) :
    ∃ i, net.brokerAt host port = some i ∧ vhost ∈ w'.vhosts i ∧
      ∀ j, j ≠ i → w'.vhosts j = w.vhosts j := by
  obtain ⟨i, hi, ⟨hmem, rfl⟩ | ⟨hmissing, i₀, hi₀, haccepts, rfl⟩⟩ := createVhost_eq_ok h
  · exact ⟨i, hi, hmem, fun _ _ => rfl⟩
  · obtain ⟨rfl, hname⟩ : i₀ = i ∧ net.creates i₀ vhost = some vhost := by
      by_contra hother
      exact hdirect ⟨i, i₀, hi, hi₀, hmissing, haccepts, hother⟩
    refine ⟨i₀, hi, ?_, fun j hne => vhosts_put_of_ne w net hne vhost⟩
    exact (mem_put_iff w net i₀ i₀ vhost).mpr (Or.inr ⟨rfl, hname⟩)

/-- The vhost is created where it was asked for iff the call is not misdirected. -/
theorem createsThere_iff (net : Network ι) (host vhost : String) (port : ℕ)
    (w : VhostWorld ι) :
    CreatesThere net host vhost port w ↔ ¬ Misdirected net host vhost port w := by
  constructor
  · intro h hmis
    obtain ⟨w', i, hreturn, hi, hmissing⟩ := createVhost_of_misdirected hmis
    obtain ⟨⟨i', hi', hmem, -⟩, -⟩ := h w' hreturn
    obtain rfl : i = i' := Option.some.inj (hi.symm.trans hi')
    exact hmissing hmem
  · intro hdirect w' hreturn
    obtain ⟨i, hi, hmem, hother⟩ := createVhost_there hdirect hreturn
    refine ⟨⟨i, hi, hmem, hother⟩, fun r w'' hagain => ?_⟩
    rw [createVhost_of_mem hi hmem] at hagain
    exact (Prod.mk.inj hagain).2.symm

/-- Every connection goes to a broker that has the vhost iff the creation of the vhost is not
misdirected. -/
theorem connectsToVhost_iff (net : Network ι) (pika : ConnectionParameters → Except PyErr Unit)
    (host vhost : String) (port : ℕ) (w : VhostWorld ι) :
    ConnectsToVhost net pika host vhost port w ↔
      ¬ Misdirected net host vhost (10000 + port) w := by
  constructor
  · intro h hmis
    obtain ⟨w₁, i, hreturn, hi, hmissing⟩ := createVhost_of_misdirected hmis
    have hconnect : pikaConnection net pika host port vhost w = (pika ⟨600, host, port, vhost⟩,
        { w₁ with opened := w₁.opened ++ [⟨600, host, port, vhost⟩] }) :=
      Prog.bind_of_ok hreturn
    have hopened : w₁.opened = w.opened := by
      rw [← opened_createVhost net host vhost (10000 + port) w, hreturn]
    obtain ⟨i', hi', hmem⟩ := h _ _ hconnect ⟨600, host, port, vhost⟩ (by
      rw [hopened, List.drop_left]
      exact List.mem_cons_self)
    obtain rfl : i = i' := Option.some.inj (hi.symm.trans hi')
    exact hmissing hmem
  · intro hdirect r w' hconnect params hparams
    rcases pikaConnection_cases hconnect with hnone | ⟨w₁, hreturn, hvhosts, hone⟩
    · rw [hnone, List.drop_length] at hparams
      cases hparams
    · obtain ⟨i, hi, hmem, -⟩ := createVhost_there hdirect hreturn
      rw [hone, List.drop_left] at hparams
      rw [List.mem_singleton.mp hparams, hvhosts]
      exact ⟨i, hi, hmem⟩

/-- **A vhost is created where it was asked for exactly when the call is not misdirected**: unless
the vhost is missing at `host:port` and the broker at `localhost:15672` accepts the `PUT`, but is
another one or reads another name in the URL, a returning `create_vhost` leaves the vhost on the
broker at `host:port` and changes no other one, a second call changes nothing, and
`pika_connection` opens its connection only to a broker that has the vhost. For a name that needs
no escaping the call is misdirected iff the broker is another one. -/
theorem createVhost_there_iff (net : Network ι)
    (pika : ConnectionParameters → Except PyErr Unit) (host vhost : String) (port : ℕ)
    (w : VhostWorld ι) :
    (CreatesThere net host vhost port w ↔ ¬ Misdirected net host vhost port w) ∧
      (ConnectsToVhost net pika host vhost port w ↔
        ¬ Misdirected net host vhost (10000 + port) w) ∧
      ∀ port', IsPlain vhost → (Misdirected net host vhost port' w ↔
        ∃ i i₀, net.brokerAt host port' = some i ∧ net.brokerAt "localhost" 15672 = some i₀ ∧
          vhost ∉ w.vhosts i ∧ net.accepts i₀ vhost = true ∧ i₀ ≠ i) :=
  ⟨createsThere_iff net host vhost port w, connectsToVhost_iff net pika host vhost port w,
    fun _ => misdirected_iff_of_plain⟩

/-- The name in a URL that ends with the text: what comes before a query or a fragment. -/
def beforeQuery (text : String) : String :=
  String.ofList (text.toList.takeWhile fun c => c != '?' && c != '#')

/-- A name that needs no escaping has no query and no fragment. -/
theorem beforeQuery_of_plain {name : String} (h : IsPlain name) : beforeQuery name = name := by
  have hall : ∀ c ∈ name.toList, (c != '?' && c != '#') = true := by
    intro c hc
    have hunreserved := h.unreserved c hc
    by_contra hspecial
    rw [Bool.and_eq_true, bne_iff_ne, bne_iff_ne, not_and_or, not_not, not_not] at hspecial
    rcases hspecial with rfl | rfl <;> exact absurd hunreserved (by decide)
  rw [beforeQuery, List.takeWhile_eq_self_iff.mpr hall, String.ofList_toList]

/-- A local broker `false`, and a broker `true` on another host, whose one vhost is `/`. -/
def twoBrokers : Network Bool where
  brokerAt := fun host port =>
    if host = "localhost" ∧ port = 15672 then some false
    else if host = "18.0.0.1" ∧ port = 15672 then some true
    else none
  accepts := fun _ _ => true
  creates := fun _ text => some (beforeQuery text)
  creates_plain := fun _ _ h => congrArg some (beforeQuery_of_plain h)

/-- **A vhost created elsewhere**: the vhost asked for on the other host is created on the local
broker, and the connection is then opened to a broker without it. -/
theorem createVhost_elsewhere :
    let w : VhostWorld Bool := ⟨fun _ => ["/"], []⟩
    ∃ w', createVhost twoBrokers "18.0.0.1" "orders" 15672 w = (.ok (), w') ∧
      w'.vhosts true = ["/"] ∧ w'.vhosts false = ["/", "orders"] ∧
      ¬ CreatesThere twoBrokers "18.0.0.1" "orders" 15672 w ∧
      ∃ w'', pikaConnection twoBrokers (fun _ => .ok ()) "18.0.0.1" 5672 "orders" w =
          (.ok (), w'') ∧
        w''.opened = [⟨600, "18.0.0.1", 5672, "orders"⟩] ∧ w''.vhosts true = ["/"] := by
  refine ⟨_, rfl, rfl, rfl, fun h => ?_, _, rfl, rfl, rfl⟩
  obtain ⟨⟨i, hi, hmem, -⟩, -⟩ := h _ rfl
  obtain rfl : true = i := Option.some.inj hi
  revert hmem
  decide

/-- A name with a `?` in it is created up to there, also by the local broker itself. -/
example :
    let w : VhostWorld Bool := ⟨fun _ => ["/"], []⟩
    (createVhost twoBrokers "localhost" "a?b" 15672 w).2.vhosts false = ["/", "a"] := by
  decide

end PythonForFun.RabbitMQ
