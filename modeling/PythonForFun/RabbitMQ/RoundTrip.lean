import PythonForFun.RabbitMQ.Builder
import PythonForFun.RabbitMQ.Translate

set_option relaxedAutoImplicit false
set_option autoImplicit false

/-!
# Translating back

The tests read the output of `rabbitmqctl` through `translate` with the reversed dictionary of
the host names, and compare what they read. A translation that loses something would make two
different outputs read the same. This one loses nothing: translating with the dictionary itself
gives the output back, as long as no alias occurs in it and no alias is a part of another one.
The aliases of the builder, `rabbit1`, `rabbit2`, …, are such for up to nine instances; from ten
on `rabbit1` is a part of `rabbit10`.

## Main definitions

* `RabbitMQ.TokenAliases` — aliases that can be told from each other and from host names.
* `RabbitMQ.NoAlias` — the texts in which no alias occurs.

## Main results

* `RabbitMQ.TokenAliases.translate_translate` — translating there and back.
* `RabbitMQ.creatingClusterOnAws_snames` — the dictionary the builder returns.
* `RabbitMQ.creatingClusterOnAws_translation_reversible` — for the builder's dictionary.
-/

namespace PythonForFun.RabbitMQ

/-! ## Aliases that are tokens -/

/-- Aliases that are tokens, none of them a part of another one or of a host name. -/
structure TokenAliases (hosts : HostNames) (snames : Dict String String) : Prop
    extends AliasesOf hosts snames where
  nonempty : ∀ a ∈ snames.keys, a.toList ≠ []
  letters : ∀ a ∈ snames.keys, ∀ c ∈ a.toList, isTokenChar c = true
  notInHost : ∀ a ∈ snames.keys, ∀ h ∈ hosts.names, ¬ a.toList <:+: h.toList
  apart : ∀ a ∈ snames.keys, ∀ a' ∈ snames.keys, a.toList <:+: a'.toList → a = a'

/-- No alias occurs in the text. -/
def NoAlias (snames : Dict String String) (text : String) : Prop :=
  ∀ a ∈ snames.keys, ¬ a.toList <:+: text.toList

section RoundTrip

variable {hosts : HostNames} {snames : Dict String String} {text : String}

/-- The aliases as the names that a translation back replaces. -/
def TokenAliases.names (h : TokenAliases hosts snames) : HostNames where
  names := snames.keys
  nodup := snames.nodup
  nonempty := h.nonempty
  letters := h.letters

/-- For a translation back the host names are the aliases of the aliases. -/
theorem TokenAliases.aliasesOf_reverseDict (h : TokenAliases hosts snames) :
    AliasesOf h.names (reverseDict snames) := by
  have hitems := h.items_reverseDict
  have hvalues : (reverseDict snames).values = snames.keys := by
    rw [Dict.values, hitems, List.map_map]
    rfl
  have hkeys : (reverseDict snames).keys = snames.values := by
    rw [Dict.keys, hitems, List.map_map]
    rfl
  refine ⟨?_, ?_⟩
  · rw [hvalues]
    exact List.Perm.refl _
  · intro name hname a ha
    rw [hkeys] at hname
    exact h.notInHost a ha name (h.values_perm.mem_iff.mp hname)

/-- Reversing the dictionary twice gives it back. -/
theorem AliasesOf.reverseDict_reverseDict (h : AliasesOf hosts snames) :
    reverseDict (reverseDict snames) = snames := by
  have hnodup : ((snames.items.map fun e => ((e.2, e.1) : String × String)).map fun e =>
      ((e.2, e.1) : String × String)) = snames.items := by
    rw [List.map_map]
    exact List.map_id _
  refine Dict.ext ?_
  rw [reverseDict, h.items_reverseDict, hnodup]
  exact Dict.items_ofItems snames.nodup

/-- A host name is a token. -/
theorem AliasesOf.substSegment_of_notTok (h : AliasesOf hosts snames) {seg : List Char} {c : Char}
    (hc : c ∈ seg) (htok : isTokenChar c = false) : substSegment snames seg = seg := by
  refine h.substSegment_of_ne fun name hname heq => ?_
  rw [heq] at hc
  rw [hosts.letters name hname c hc] at htok
  cases htok

/-- Tokens are substituted by tokens. -/
theorem TokenAliases.substSegment_letters (h : TokenAliases hosts snames) {seg : List Char}
    (hne : seg ≠ []) (hseg : ∀ c ∈ seg, isTokenChar c = true) :
    substSegment snames seg ≠ [] ∧ ∀ c ∈ substSegment snames seg, isTokenChar c = true := by
  by_cases hhost : ∃ name ∈ hosts.names, seg = name.toList
  · obtain ⟨name, hname, rfl⟩ := hhost
    obtain ⟨e, he, rfl⟩ := h.exists_alias hname
    have hkey : e.1 ∈ snames.keys := List.mem_map_of_mem he
    rw [h.substSegment_of_mem he]
    exact ⟨h.nonempty e.1 hkey, h.letters e.1 hkey⟩
  · have hnot : ∀ name ∈ hosts.names, seg ≠ name.toList :=
      fun name hname heq => hhost ⟨name, hname, heq⟩
    rw [h.substSegment_of_ne hnot]
    exact ⟨hne, hseg⟩

/-- The tokens of the translated text are the translated tokens. -/
theorem TokenAliases.segments_substTokens (h : TokenAliases hosts snames) (text : String) :
    Replace.segments isTokenChar (substTokens snames text).toList =
      (Replace.segments isTokenChar text.toList).map (substSegment snames) := by
  rw [substTokens, String.toList_ofList]
  exact Replace.segments_flatMap (fun seg hne hseg => h.substSegment_letters hne hseg)
    (fun seg c hc htok => h.substSegment_of_notTok hc htok) text.toList

/-- The translated text consists of whole tokens for the translation back.

**Proof sketch.** An alias that occurs in a token of the translated text occurs in an alias,
and is that alias, or in a token of the text itself, where none does. -/
theorem TokenAliases.wholeTokens_substTokens (h : TokenAliases hosts snames)
    (hnew : NoAlias snames text) : WholeTokens h.names (substTokens snames text) := by
  intro seg' hseg' a ha hocc
  rw [h.segments_substTokens] at hseg'
  obtain ⟨seg, hseg, rfl⟩ := List.mem_map.mp hseg'
  by_cases hhost : ∃ name ∈ hosts.names, seg = name.toList
  · obtain ⟨name, hname, rfl⟩ := hhost
    obtain ⟨e, he, rfl⟩ := h.exists_alias hname
    rw [h.substSegment_of_mem he] at hocc ⊢
    rw [h.apart a ha e.1 (List.mem_map_of_mem he) hocc]
  · have hnot : ∀ name ∈ hosts.names, seg ≠ name.toList :=
      fun name hname heq => hhost ⟨name, hname, heq⟩
    rw [h.substSegment_of_ne hnot] at hocc
    have hinfix : seg <:+: text.toList := by
      have hflat := List.infix_of_mem_flatten hseg
      rwa [Replace.flatten_segments] at hflat
    exact absurd (hocc.trans hinfix) (hnew a ha)

/-- A token is substituted there and back. -/
theorem TokenAliases.substSegment_substSegment (h : TokenAliases hosts snames)
    (hnew : NoAlias snames text) {seg : List Char}
    (hseg : seg ∈ Replace.segments isTokenChar text.toList) :
    substSegment (reverseDict snames) (substSegment snames seg) = seg := by
  have hback := h.aliasesOf_reverseDict
  by_cases hhost : ∃ name ∈ hosts.names, seg = name.toList
  · obtain ⟨name, hname, rfl⟩ := hhost
    obtain ⟨e, he, rfl⟩ := h.exists_alias hname
    have hitem : (e.2, e.1) ∈ (reverseDict snames).items := by
      rw [h.items_reverseDict]
      exact List.mem_map_of_mem he
    rw [h.substSegment_of_mem he]
    exact hback.substSegment_of_mem hitem
  · have hnot : ∀ name ∈ hosts.names, seg ≠ name.toList :=
      fun name hname heq => hhost ⟨name, hname, heq⟩
    rw [h.substSegment_of_ne hnot]
    refine hback.substSegment_of_ne fun a ha heq => hnew a ha ?_
    have hflat := List.infix_of_mem_flatten hseg
    rwa [Replace.flatten_segments, heq] at hflat

/-- **Translating there and back**: a text of whole tokens in which no alias occurs is given
back by translating with the reversed dictionary and then with the dictionary itself.

**Proof sketch.** Both translations substitute tokens, the second one because what the first one
has left are whole tokens again; token by token the second one undoes the first. -/
theorem TokenAliases.translate_translate (h : TokenAliases hosts snames)
    (htext : WholeTokens hosts text) (hnew : NoAlias snames text) :
    translate (translate text (reverseDict snames)) snames = text := by
  have hthere : translate text (reverseDict snames) = substTokens snames text :=
    h.translate_eq_substTokens htext
  have hback : translate (substTokens snames text) (reverseDict (reverseDict snames)) =
      substTokens (reverseDict snames) (substTokens snames text) :=
    h.aliasesOf_reverseDict.translate_eq_substTokens (h.wholeTokens_substTokens hnew)
  rw [h.reverseDict_reverseDict] at hback
  rw [hthere, hback, ← String.toList_inj]
  conv_lhs => rw [substTokens, String.toList_ofList, h.segments_substTokens, List.flatMap_map]
  calc (Replace.segments isTokenChar text.toList).flatMap
        (fun seg => substSegment (reverseDict snames) (substSegment snames seg))
      = (Replace.segments isTokenChar text.toList).flatMap id :=
        List.flatMap_congr fun seg hseg => h.substSegment_substSegment hnew hseg
    _ = text.toList := by rw [List.flatMap_id, Replace.flatten_segments]

end RoundTrip

/-! ## The dictionary of the builder -/

section Builder

variable {stack : Stack} {failure : PyErr} {outputs : List Output}

/-- The host names of the instances under their aliases. -/
def Stack.aliases (stack : Stack) : Dict String String :=
  Dict.ofItems ((List.range' 1 stack.n).map fun i => (rabbit i, stack.hostname i))

/-- The aliases in the order of the instances. -/
theorem Stack.items_aliases (stack : Stack) :
    stack.aliases.items = (List.range' 1 stack.n).map fun i => (rabbit i, stack.hostname i) := by
  refine Dict.items_ofItems ?_
  rw [List.map_map]
  exact List.Nodup.map (fun _ _ h => append_toString_inj h) List.nodup_range'

/-- One pass of the lookup loop looks up one instance. -/
theorem lookUpInstance_eq (hout : outputs.Perm stack.outputs) {i : ℕ}
    (hi : i ∈ List.range' 1 stack.n) (ips snames : Dict String String) (b : Brokers) :
    lookUpInstance stack outputs (ips, snames) i b =
      (.ok (ips.set (rabbit i) (stack.publicIp i), snames.set (rabbit i) (stack.hostname i)),
        b) := by
  simp only [lookUpInstance, keyFind_outputs hout hi, outputValue, Prog.ofExcept_ok, pure_bind,
    hostnameOf, hostAt_publicIp hi, Option.getD_some]
  rfl

/-- The lookup loop fills the dictionary of the host names in the order of the instances. -/
theorem foldlM_lookUpInstance (hout : outputs.Perm stack.outputs) {is : List ℕ}
    (his : ∀ i ∈ is, i ∈ List.range' 1 stack.n) (ips snames : Dict String String) (b : Brokers) :
    ∃ ips', is.foldlM (lookUpInstance stack outputs) (ips, snames) b =
      (.ok (ips', is.foldl (fun d i => d.set (rabbit i) (stack.hostname i)) snames), b) := by
  induction is generalizing ips snames with
  | nil => exact ⟨ips, rfl⟩
  | cons i is ih =>
    obtain ⟨hi, hrest⟩ := List.forall_mem_cons.mp his
    obtain ⟨ips', hips'⟩ := ih hrest (ips.set (rabbit i) (stack.publicIp i))
      (snames.set (rabbit i) (stack.hostname i))
    refine ⟨ips', ?_⟩
    rw [List.foldlM_cons, Prog.bind_of_ok (lookUpInstance_eq hout hi ips snames b)]
    exact hips'

/-- **The dictionary the builder returns**: however the run goes, if it returns, then with the
host names under their aliases. -/
theorem creatingClusterOnAws_snames (hout : outputs.Perm stack.outputs)
    {additionalDiscIndexList : Option (List ℤ)} {ips snames : Dict String String} {b b' : Brokers}
    (hrun : creatingClusterOnAws stack failure outputs stack.n additionalDiscIndexList b =
      (.ok (ips, snames), b')) : snames = stack.aliases := by
  obtain ⟨⟨ips', snames'⟩, b₁, hlookup, hjoin⟩ := Prog.bind_eq_ok_iff.mp hrun
  obtain ⟨_, b₂, -, hawait⟩ := Prog.bind_eq_ok_iff.mp hjoin
  obtain ⟨ip, b₃, -, hlast⟩ := Prog.bind_eq_ok_iff.mp hawait
  obtain ⟨_, b₄, -, hpure⟩ := Prog.bind_eq_ok_iff.mp hlast
  obtain ⟨ips'', hfill⟩ := foldlM_lookUpInstance hout (fun i hi => hi) Dict.empty Dict.empty b
  have hsnames : snames' = snames := by
    have hpair := congrArg Prod.fst hpure
    simp only [Prog.pure_apply, Except.ok.injEq, Prod.mk.injEq] at hpair
    exact hpair.2
  have hfilled := congrArg Prod.fst (hlookup.symm.trans hfill)
  simp only [Except.ok.injEq, Prod.mk.injEq] at hfilled
  rw [← hsnames, hfilled.2, Stack.aliases, Dict.ofItems, List.foldl_map]

/-- The aliases of up to nine instances are equally long. -/
theorem length_rabbit : ∀ i < 10, (rabbit i).toList.length = 7 := by decide

/-- An alias consists of letters of tokens. -/
theorem isTokenChar_rabbit : ∀ i < 10, (rabbit i).toList.all isTokenChar = true := by decide

/-- **The aliases of up to nine instances are tokens that can be told from each other.** -/
theorem tokenAliases_aliases (hn : stack.n ≤ 9) {hosts : HostNames}
    (hhosts : hosts.names = stack.hosts)
    (hclear : ∀ i ∈ List.range' 1 stack.n, ∀ name ∈ hosts.names,
      ¬ (rabbit i).toList <:+: name.toList ∧ ¬ name.toList <:+: (rabbit i).toList) :
    TokenAliases hosts stack.aliases := by
  have hkeys : ∀ a ∈ stack.aliases.keys, ∃ i ∈ List.range' 1 stack.n, i < 10 ∧ rabbit i = a := by
    intro a ha
    rw [Dict.keys, stack.items_aliases, List.map_map] at ha
    obtain ⟨i, hi, rfl⟩ := List.mem_map.mp ha
    have hbound := List.mem_range'_1.mp hi
    exact ⟨i, hi, by omega, rfl⟩
  refine ⟨⟨?_, ?_⟩, ?_, ?_, ?_, ?_⟩
  · rw [Dict.values, stack.items_aliases, List.map_map, hhosts]
    exact List.Perm.refl _
  · intro a ha name hname
    obtain ⟨i, hi, -, rfl⟩ := hkeys a ha
    exact (hclear i hi name hname).2
  · intro a ha hnil
    obtain ⟨i, -, hlt, rfl⟩ := hkeys a ha
    have hlength := length_rabbit i hlt
    rw [hnil] at hlength
    cases hlength
  · intro a ha c hc
    obtain ⟨i, -, hlt, rfl⟩ := hkeys a ha
    exact List.all_eq_true.mp (isTokenChar_rabbit i hlt) c hc
  · intro a ha name hname
    obtain ⟨i, hi, -, rfl⟩ := hkeys a ha
    exact (hclear i hi name hname).1
  · intro a ha a' ha' hocc
    obtain ⟨i, -, hlt, rfl⟩ := hkeys a ha
    obtain ⟨j, -, hlt', rfl⟩ := hkeys a' ha'
    have hlength : (rabbit i).toList.length = (rabbit j).toList.length := by
      rw [length_rabbit i hlt, length_rabbit j hlt']
    exact String.toList_inj.mp (hocc.eq_of_length hlength)

/-- **What is read through the builder's dictionary can be read back**: for up to nine
instances, if the builder returns, translating an output with the reversed dictionary of the
host names and then with the dictionary itself gives the output back, and so no two outputs read
the same. The outputs are those whose tokens contain no host name as a proper part and in which
no alias occurs; no host name contains an alias or is a part of one. -/
theorem creatingClusterOnAws_translation_reversible (hn : stack.n ≤ 9)
    (hout : outputs.Perm stack.outputs) {additionalDiscIndexList : Option (List ℤ)}
    {ips snames : Dict String String} {b b' : Brokers}
    (hrun : creatingClusterOnAws stack failure outputs stack.n additionalDiscIndexList b =
      (.ok (ips, snames), b'))
    {hosts : HostNames} (hhosts : hosts.names = stack.hosts)
    (hclear : ∀ i ∈ List.range' 1 stack.n, ∀ name ∈ hosts.names,
      ¬ (rabbit i).toList <:+: name.toList ∧ ¬ name.toList <:+: (rabbit i).toList) :
    (∀ text, WholeTokens hosts text → NoAlias snames text →
        translate (translate text (reverseDict snames)) snames = text) ∧
      ∀ text text', WholeTokens hosts text → NoAlias snames text → WholeTokens hosts text' →
        NoAlias snames text' →
        translate text (reverseDict snames) = translate text' (reverseDict snames) →
          text = text' := by
  obtain rfl := creatingClusterOnAws_snames hout hrun
  have haliases := tokenAliases_aliases hn hhosts hclear
  refine ⟨fun text htext hnew => haliases.translate_translate htext hnew, ?_⟩
  intro text text' htext hnew htext' hnew' hsame
  rw [← haliases.translate_translate htext hnew, hsame, haliases.translate_translate htext' hnew']

end Builder

/-- The host names of three instances. -/
def threeHosts : HostNames where
  names := ["ip-172-31-0-1", "ip-172-31-0-2", "ip-172-31-0-3"]
  nodup := by decide
  nonempty := by decide
  letters := by
    have hall : ["ip-172-31-0-1", "ip-172-31-0-2", "ip-172-31-0-3"].all
        (fun h => h.toList.all isTokenChar) = true := by decide
    intro h hh c hc
    exact List.all_eq_true.mp (List.all_eq_true.mp hall h hh) c hc

/-- The second of three instances is read as `rabbit2`, and is read back. -/
theorem creatingClusterOnAws_translation_reversible_threeInstances :
    ∃ ips snames b,
      creatingClusterOnAws threeInstances (.commandFailed 1 "") threeInstances.outputs.reverse 3
        none threeInstances.fresh = (.ok (ips, snames), b) ∧
      translate "rabbit@ip-172-31-0-2" (reverseDict snames) = "rabbit@rabbit2" ∧
      translate (translate "rabbit@ip-172-31-0-2" (reverseDict snames)) snames =
        "rabbit@ip-172-31-0-2" := by
  obtain ⟨ips, snames, b, hrun, hread⟩ : ∃ ips snames b,
      creatingClusterOnAws threeInstances (.commandFailed 1 "") threeInstances.outputs.reverse 3
        none threeInstances.fresh = (.ok (ips, snames), b) ∧
      translate "rabbit@ip-172-31-0-2" (reverseDict snames) = "rabbit@rabbit2" :=
    ⟨_, _, _, rfl, by decide⟩
  have hsnames : snames = threeInstances.aliases :=
    creatingClusterOnAws_snames (List.reverse_perm threeInstances.outputs) hrun
  refine ⟨ips, snames, b, hrun, hread, ?_⟩
  refine (creatingClusterOnAws_translation_reversible (by decide)
    (List.reverse_perm threeInstances.outputs) hrun
    (show threeHosts.names = threeInstances.hosts by decide) (by decide)).1 _ ?_ ?_
  · unfold WholeTokens
    decide
  · rw [hsnames]
    unfold NoAlias
    decide

/-- Two of ten instances, with an alias that is a part of the other one. -/
def ofTenInstances : Dict String String where
  items := [("rabbit1", "ip-172-31-0-1"), ("rabbit10", "ip-172-31-0-7")]
  nodup := by decide

example : translate (translate "ip-172-31-0-7" (reverseDict ofTenInstances)) ofTenInstances =
    "ip-172-31-0-10" := by decide

end PythonForFun.RabbitMQ
