import PythonForFun.Lib.Replace
import PythonForFun.Python

set_option relaxedAutoImplicit false
set_option autoImplicit false

/-!
# Translating command output

`translate` and `reverse_dict` of `rabbitmq/rabbitmq_utils.py`. The tests translate the output
of `rabbitmqctl` with a reversed dictionary, to read host names as the aliases `rabbit1`,
`rabbit2`, … A translation replaces one host name after the other, wherever it occurs in the
text, so a host name inside a longer token is replaced as well.

## Main definitions

* `RabbitMQ.translate`, `RabbitMQ.reverseDict` — as in the source.
* `RabbitMQ.HostNames`, `RabbitMQ.AliasesOf` — the host names and the dictionaries of aliases.
* `RabbitMQ.substTokens` — the simultaneous substitution of the tokens that are host names.

## Main results

* `RabbitMQ.translate_eq_substTokens_iff` — the texts on which translating is this
  substitution, for every dictionary of aliases and every order of its items.
* `RabbitMQ.translate_corrupts_longer_name` — a host name that starts like another one.
-/

namespace PythonForFun.RabbitMQ

/-! ## The functions of the source -/

/-- `text.replace(old, new)`. -/
def strReplace (text old new : String) : String :=
  String.ofList (Replace.replace old.toList new.toList text.toList)

/-- `translate(text, translation)`. -/
def translate (text : String) (translation : Dict String String) : String :=
  translation.items.foldl (fun text e => strReplace text e.1 e.2) text

/-- `reverse_dict(d)`. -/
def reverseDict (d : Dict String String) : Dict String String :=
  Dict.ofItems (d.items.map fun e => (e.2, e.1))

/-! ## Host names, aliases and tokens -/

/-- The letters of tokens: letters, digits and `-`. -/
def isTokenChar (c : Char) : Bool := c.isAlphanum || c == '-'

/-- Pairwise distinct non-empty host names made of letters, digits and `-`. -/
structure HostNames where
  names : List String
  nodup : names.Nodup
  nonempty : ∀ h ∈ names, h.toList ≠ []
  letters : ∀ h ∈ names, ∀ c ∈ h.toList, isTokenChar c = true

/-- A dictionary from aliases to the host names; no alias contains a host name. -/
structure AliasesOf (hosts : HostNames) (snames : Dict String String) : Prop where
  values_perm : snames.values.Perm hosts.names
  noHost : ∀ a ∈ snames.keys, ∀ h ∈ hosts.names, ¬ h.toList <:+: a.toList

/-- A token that is a host name becomes its alias; any other segment stays as it is. -/
def substSegment (snames : Dict String String) (seg : List Char) : List Char :=
  match snames.items.find? fun e => e.2.toList == seg with
  | some e => e.1.toList
  | none => seg

/-- The simultaneous substitution of the tokens that are host names by their aliases. -/
def substTokens (snames : Dict String String) (text : String) : String :=
  String.ofList ((Replace.segments isTokenChar text.toList).flatMap (substSegment snames))

/-- No token of the text contains a host name as a proper part. -/
def WholeTokens (hosts : HostNames) (text : String) : Prop :=
  ∀ seg ∈ Replace.segments isTokenChar text.toList, ∀ h ∈ hosts.names,
    h.toList <:+: seg → seg = h.toList

/-! ## Translating as replacing in a list of letters -/

/-- The replacements of a translation. -/
def replacements (translation : Dict String String) : List (List Char × List Char) :=
  translation.items.map fun e => (e.1.toList, e.2.toList)

/-- A translation makes its replacements one after another. -/
theorem toList_translate (text : String) (translation : Dict String String) :
    (translate text translation).toList =
      Replace.replaceAll (replacements translation) text.toList := by
  unfold translate replacements
  induction translation.items generalizing text with
  | nil => rfl
  | cons e items ih =>
    rw [List.foldl_cons, ih, strReplace, String.toList_ofList]
    rfl

section Aliases

variable {hosts : HostNames} {snames snames' : Dict String String}

/-- The host names are the values of the dictionary. -/
theorem AliasesOf.mem_names (h : AliasesOf hosts snames) {e : String × String}
    (he : e ∈ snames.items) : e.2 ∈ hosts.names :=
  h.values_perm.mem_iff.mp (List.mem_map_of_mem he)

/-- Every host name has an alias. -/
theorem AliasesOf.exists_alias (h : AliasesOf hosts snames) {name : String}
    (hname : name ∈ hosts.names) : ∃ e ∈ snames.items, e.2 = name :=
  List.mem_map.mp (h.values_perm.mem_iff.mpr hname)

/-- The host names in the dictionary are pairwise distinct. -/
theorem AliasesOf.nodup_values (h : AliasesOf hosts snames) : snames.values.Nodup :=
  h.values_perm.nodup_iff.mpr hosts.nodup

/-- Another order of the items. -/
theorem AliasesOf.of_perm (h : AliasesOf hosts snames) (hperm : snames'.items.Perm snames.items) :
    AliasesOf hosts snames' where
  values_perm := (hperm.map Prod.snd).trans h.values_perm
  noHost := by
    intro a ha
    exact h.noHost a ((hperm.map Prod.fst).mem_iff.mp ha)

/-- The items of the reversed dictionary. -/
theorem AliasesOf.items_reverseDict (h : AliasesOf hosts snames) :
    (reverseDict snames).items = snames.items.map fun e => (e.2, e.1) := by
  refine Dict.items_ofItems ?_
  rw [List.map_map]
  exact h.nodup_values

/-- The replacements of the reversed dictionary. -/
theorem AliasesOf.replacements_reverseDict (h : AliasesOf hosts snames) :
    replacements (reverseDict snames) = snames.items.map fun e => (e.2.toList, e.1.toList) := by
  rw [replacements, h.items_reverseDict, List.map_map]
  rfl

/-- What is replaced are host names. -/
theorem AliasesOf.word_of_mem_replacements (h : AliasesOf hosts snames)
    {e : List Char × List Char} (he : e ∈ replacements (reverseDict snames)) :
    ∃ name ∈ hosts.names, e.1 = name.toList := by
  rw [h.replacements_reverseDict] at he
  obtain ⟨e', he', rfl⟩ := List.mem_map.mp he
  exact ⟨e'.2, h.mem_names he', rfl⟩

/-- The alias of the host name a segment is. -/
theorem AliasesOf.substSegment_of_mem (h : AliasesOf hosts snames) {e : String × String}
    (he : e ∈ snames.items) : substSegment snames e.2.toList = e.1.toList := by
  unfold substSegment
  cases hfind : snames.items.find? fun e' => e'.2.toList == e.2.toList with
  | none =>
    have hnone := List.find?_eq_none.mp hfind e he
    rw [beq_self_eq_true] at hnone
    exact absurd rfl hnone
  | some e' =>
    have hbeq : (e'.2.toList == e.2.toList) = true :=
      @List.find?_some _ (fun (e' : String × String) => e'.2.toList == e.2.toList) _ _ hfind
    have hvalue : e'.2 = e.2 := String.toList_inj.mp (beq_iff_eq.mp hbeq)
    have hsame : e' = e :=
      List.inj_on_of_nodup_map h.nodup_values (List.mem_of_find?_eq_some hfind) he hvalue
    rw [hsame]

/-- A segment that is no host name stays as it is. -/
theorem AliasesOf.substSegment_of_ne (h : AliasesOf hosts snames) {seg : List Char}
    (hseg : ∀ name ∈ hosts.names, seg ≠ name.toList) : substSegment snames seg = seg := by
  have hnone : (snames.items.find? fun e => e.2.toList == seg) = none := by
    refine List.find?_eq_none.mpr fun e he => ?_
    rw [beq_iff_eq]
    exact fun heq => hseg e.2 (h.mem_names he) heq.symm
  rw [substSegment, hnone]

/-- The substitution does not depend on the order of the items. -/
theorem AliasesOf.substTokens_of_perm (h : AliasesOf hosts snames)
    (hperm : snames'.items.Perm snames.items) (text : String) :
    substTokens snames' text = substTokens snames text := by
  have hsame : substSegment snames' = substSegment snames := by
    funext seg
    by_cases hseg : ∃ name ∈ hosts.names, seg = name.toList
    · obtain ⟨name, hname, rfl⟩ := hseg
      obtain ⟨e, he, rfl⟩ := h.exists_alias hname
      rw [h.substSegment_of_mem he,
        (h.of_perm hperm).substSegment_of_mem (hperm.mem_iff.mpr he)]
    · have hne : ∀ name ∈ hosts.names, seg ≠ name.toList :=
        fun name hname heq => hseg ⟨name, hname, heq⟩
      rw [h.substSegment_of_ne hne, (h.of_perm hperm).substSegment_of_ne hne]
  rw [substTokens, substTokens, hsame]

/-- **A translation acts on each segment by itself.** -/
theorem AliasesOf.toList_translate (h : AliasesOf hosts snames) (text : String) :
    (translate text (reverseDict snames)).toList =
      (Replace.segments isTokenChar text.toList).flatMap
        (Replace.replaceAll (replacements (reverseDict snames))) := by
  rw [RabbitMQ.toList_translate]
  refine Replace.replaceAll_eq_flatMap_segments (fun e he => ?_) text.toList
  obtain ⟨name, hname, hword⟩ := h.word_of_mem_replacements he
  rw [hword]
  exact ⟨hosts.nonempty name hname, hosts.letters name hname⟩

/-! ## Texts of whole tokens -/

/-- Translating a segment that contains no host name as a proper part substitutes it.

**Proof sketch.** In a segment that is a host name only that name occurs, and no name occurs
in its alias. In any other segment no host name occurs. -/
theorem AliasesOf.replaceAll_segment (h : AliasesOf hosts snames) {seg : List Char}
    (hseg : ∀ name ∈ hosts.names, name.toList <:+: seg → seg = name.toList) :
    Replace.replaceAll (replacements (reverseDict snames)) seg = substSegment snames seg := by
  have hwords := fun e he => @AliasesOf.word_of_mem_replacements hosts snames h e he
  by_cases hhost : ∃ name ∈ hosts.names, seg = name.toList
  · obtain ⟨name, hname, rfl⟩ := hhost
    obtain ⟨e, he, rfl⟩ := h.exists_alias hname
    rw [h.substSegment_of_mem he]
    refine Replace.replaceAll_word ?_ ?_ ?_ ?_ ?_
    · rw [h.replacements_reverseDict, List.map_map]
      have hnodup : (snames.values.map String.toList).Nodup :=
        h.nodup_values.map fun _ _ heq => String.toList_inj.mp heq
      rwa [Dict.values, List.map_map] at hnodup
    · intro e' he'
      obtain ⟨name, hname', hword⟩ := hwords e' he'
      rw [hword]
      exact hosts.nonempty name hname'
    · rw [h.replacements_reverseDict]
      exact List.mem_map_of_mem he
    · intro e' he' hocc
      obtain ⟨name, hname', hword⟩ := hwords e' he'
      rw [hword] at hocc ⊢
      exact (hseg name hname' hocc).symm
    · intro e' he'
      obtain ⟨name, hname', hword⟩ := hwords e' he'
      rw [hword]
      exact h.noHost e.1 (List.mem_map_of_mem he) name hname'
  · have hne : ∀ name ∈ hosts.names, seg ≠ name.toList :=
      fun name hname heq => hhost ⟨name, hname, heq⟩
    rw [h.substSegment_of_ne hne]
    refine Replace.replaceAll_of_notOccurs fun e' he' => ?_
    obtain ⟨name, hname', hword⟩ := hwords e' he'
    rw [hword]
    exact ⟨hosts.nonempty name hname', fun hocc => hne name hname' (hseg name hname' hocc)⟩

/-- Translating a text of whole tokens substitutes its tokens. -/
theorem AliasesOf.translate_eq_substTokens (h : AliasesOf hosts snames) {text : String}
    (htext : WholeTokens hosts text) :
    translate text (reverseDict snames) = substTokens snames text := by
  rw [← String.toList_inj, h.toList_translate, substTokens, String.toList_ofList]
  refine List.flatMap_congr fun seg hseg => ?_
  exact h.replaceAll_segment (htext seg hseg)

end Aliases

/-! ## Texts with a host name inside a longer token -/

section Corrupted

/-- The text of `n` line breaks. -/
def newlines (n : ℕ) : String := String.ofList (List.replicate n '\n')

/-- Aliases that leave marks: a blank for the host name `name`, and line breaks for the
others. -/
def markingItems (name : String) (others : List String) : List (String × String) :=
  (" " :: (List.range others.length).map fun j => newlines (j + 1)).zip (name :: others)

variable {name : String} {others : List String}

/-- The aliases of the marking dictionary. -/
theorem map_fst_markingItems :
    (markingItems name others).map Prod.fst =
      " " :: (List.range others.length).map fun j => newlines (j + 1) := by
  refine List.map_fst_zip ?_
  simp

/-- The host names of the marking dictionary. -/
theorem map_snd_markingItems : (markingItems name others).map Prod.snd = name :: others := by
  refine List.map_snd_zip ?_
  simp

/-- The marking dictionary. -/
def markingDict (name : String) (others : List String) : Dict String String where
  items := markingItems name others
  nodup := by
    have hinj : Function.Injective fun j => newlines (j + 1) := by
      intro i j hij
      have hlen := congrArg (fun s => s.toList.length) hij
      simpa [newlines] using hlen
    rw [map_fst_markingItems, List.nodup_cons]
    refine ⟨?_, List.nodup_range.map hinj⟩
    intro hmem
    obtain ⟨j, -, hj⟩ := List.mem_map.mp hmem
    have hlist := congrArg String.toList hj
    simp [newlines, List.replicate_succ] at hlist

/-- The aliases of the marking dictionary consist of letters that belong to no token. -/
theorem isTokenChar_of_mem_markingDict {a : String} (ha : a ∈ (markingDict name others).keys)
    {c : Char} (hc : c ∈ a.toList) : isTokenChar c = false := by
  have hkeys : a ∈ " " :: (List.range others.length).map fun j => newlines (j + 1) := by
    rw [← @map_fst_markingItems name others]
    exact ha
  rcases List.mem_cons.mp hkeys with rfl | hmem
  · obtain rfl : c = ' ' := List.mem_singleton.mp hc
    decide
  · obtain ⟨j, -, rfl⟩ := List.mem_map.mp hmem
    rw [newlines, String.toList_ofList] at hc
    rw [List.eq_of_mem_replicate hc]
    decide

/-- The marking dictionary is one of aliases of the host names. -/
theorem aliasesOf_markingDict {hosts : HostNames} (hperm : (name :: others).Perm hosts.names) :
    AliasesOf hosts (markingDict name others) where
  values_perm := by
    show ((markingItems name others).map Prod.snd).Perm hosts.names
    rw [map_snd_markingItems]
    exact hperm
  noHost := by
    intro a ha h hh hocc
    obtain ⟨c, rest, hlist⟩ := List.exists_cons_of_ne_nil (hosts.nonempty h hh)
    have hmem : c ∈ h.toList := by
      rw [hlist]
      exact List.mem_cons_self
    have hno := isTokenChar_of_mem_markingDict ha (hocc.subset hmem)
    rw [hosts.letters h hh c hmem] at hno
    cases hno

/-- The letters of a blank. -/
theorem toList_blank : " ".toList = [' '] := by decide

/-- A host name has no blank. -/
theorem blank_notMem {hosts : HostNames} {h : String} (hh : h ∈ hosts.names) :
    ' ' ∉ h.toList := by
  intro hmem
  have htok := hosts.letters h hh ' ' hmem
  cases htok

/-- Under the marking dictionary only the name itself becomes a blank. -/
theorem count_substSegment_markingDict {hosts : HostNames}
    (hperm : (name :: others).Perm hosts.names) {seg : List Char} (hne : seg ≠ name.toList) :
    (substSegment (markingDict name others) seg).count ' ' ≤ seg.count ' ' := by
  have haliases := aliasesOf_markingDict hperm
  by_cases hhost : ∃ h ∈ hosts.names, seg = h.toList
  · obtain ⟨h, hh, rfl⟩ := hhost
    obtain ⟨e, he, rfl⟩ := haliases.exists_alias hh
    rw [haliases.substSegment_of_mem he]
    have hkeys : e.1 ∈ " " :: (List.range others.length).map fun j => newlines (j + 1) := by
      rw [← @map_fst_markingItems name others]
      exact List.mem_map_of_mem he
    rcases List.mem_cons.mp hkeys with hblank | hmem
    · have hfirst : (" ", name) ∈ (markingDict name others).items := List.mem_cons_self
      have hsame := Dict.eq_of_key_eq (markingDict name others) he hfirst hblank
      rw [hsame] at hne
      exact absurd rfl hne
    · obtain ⟨j, -, hj⟩ := List.mem_map.mp hmem
      have hzero : e.1.toList.count ' ' = 0 := by
        rw [← hj, newlines, String.toList_ofList, List.count_replicate]
        rfl
      rw [hzero]
      exact Nat.zero_le _
  · have hnot : ∀ h ∈ hosts.names, seg ≠ h.toList := fun h hh heq => hhost ⟨h, hh, heq⟩
    rw [haliases.substSegment_of_ne hnot]

/-- **A host name inside a longer token**: with the marking dictionary, translating leaves more
blanks in the text than the substitution does.

**Proof sketch.** The host name is replaced first, by a blank, and no later replacement takes a
blank away. So a segment in which the name occurs has more blanks than before. The substitution
makes a blank only of the segments that are the name, and the given segment is not. -/
theorem translate_markingDict_ne {hosts : HostNames} (hperm : (name :: others).Perm hosts.names)
    {text : String} {seg : List Char}
    (hseg : seg ∈ Replace.segments isTokenChar text.toList) (hocc : name.toList <:+: seg)
    (hne : seg ≠ name.toList) :
    translate text (reverseDict (markingDict name others)) ≠
      substTokens (markingDict name others) text := by
  have haliases := aliasesOf_markingDict hperm
  have hname : name ∈ hosts.names := hperm.mem_iff.mp List.mem_cons_self
  obtain ⟨rest, hrest⟩ : ∃ rest, replacements (reverseDict (markingDict name others)) =
      (name.toList, [' ']) :: rest := by
    have hitems : (markingDict name others).items = (" ", name) ::
        ((List.range others.length).map fun j => newlines (j + 1)).zip others := rfl
    rw [haliases.replacements_reverseDict, hitems, List.map_cons, toList_blank]
    exact ⟨_, rfl⟩
  have hwords : ∀ e ∈ replacements (reverseDict (markingDict name others)),
      e.1 ≠ [] ∧ ' ' ∉ e.1 := by
    intro e he
    obtain ⟨h, hh, hword⟩ := haliases.word_of_mem_replacements he
    rw [hword]
    exact ⟨hosts.nonempty h hh, blank_notMem hh⟩
  have hkeep : ∀ s : List Char, s.count ' ' ≤
      (Replace.replaceAll (replacements (reverseDict (markingDict name others))) s).count ' ' :=
    Replace.count_le_count_replaceAll hwords
  have hmark : ∀ s : List Char, name.toList <:+: s → s.count ' ' <
      (Replace.replaceAll (replacements (reverseDict (markingDict name others))) s).count ' ' := by
    intro s hs
    have hfirst : s.count ' ' < (Replace.replace name.toList [' '] s).count ' ' :=
      Replace.lt_count_replace (hosts.nonempty name hname) (blank_notMem hname)
        List.mem_cons_self hs
    rw [hrest] at hwords ⊢
    have hlater := Replace.count_le_count_replaceAll
      (fun e he => hwords e (List.mem_cons_of_mem _ he)) (Replace.replace name.toList [' '] s)
    exact Nat.lt_of_lt_of_le hfirst hlater
  have hcount : ((Replace.segments isTokenChar text.toList).flatMap
        (substSegment (markingDict name others))).count ' ' <
      ((Replace.segments isTokenChar text.toList).flatMap
        (Replace.replaceAll (replacements (reverseDict (markingDict name others))))).count ' ' := by
    refine Replace.count_flatMap_lt (fun s _ => ?_) ⟨seg, hseg, ?_⟩
    · by_cases hs : s = name.toList
      · have hfirst : (" ", name) ∈ (markingDict name others).items := List.mem_cons_self
        have hblank : (substSegment (markingDict name others) name.toList).count ' ' = 1 := by
          rw [haliases.substSegment_of_mem hfirst, toList_blank]
          rfl
        rw [hs, hblank]
        exact Nat.lt_of_le_of_lt (Nat.zero_le _) (hmark name.toList (List.infix_refl _))
      · exact Nat.le_trans (count_substSegment_markingDict hperm hs) (hkeep s)
    · exact Nat.lt_of_le_of_lt (count_substSegment_markingDict hperm hne) (hmark seg hocc)
  intro heq
  have hlist := congrArg String.toList heq
  rw [haliases.toList_translate, substTokens, String.toList_ofList] at hlist
  rw [hlist] at hcount
  exact Nat.lt_irrefl _ hcount

end Corrupted

/-! ## The exact condition -/

/-- **When translating is simultaneous substitution**: for every dictionary of aliases of the
host names, filled in any order, translating the text replaces exactly the tokens that are host
names, iff no token of the text contains a host name as a proper part. -/
theorem translate_eq_substTokens_iff (hosts : HostNames) (text : String) :
    (∀ snames, AliasesOf hosts snames → ∀ snames', snames'.items.Perm snames.items →
        translate text (reverseDict snames') = substTokens snames text) ↔
      WholeTokens hosts text := by
  constructor
  · intro h seg hseg name hname hocc
    by_contra hne
    obtain ⟨before, after, hsplit⟩ := List.append_of_mem hname
    have hperm : (name :: (before ++ after)).Perm hosts.names := by
      rw [hsplit]
      exact List.perm_middle.symm
    have heq := h _ (aliasesOf_markingDict hperm) _ (List.Perm.refl _)
    exact translate_markingDict_ne hperm hseg hocc hne heq
  · intro htext snames haliases snames' hperm
    rw [(haliases.of_perm hperm).translate_eq_substTokens htext,
      haliases.substTokens_of_perm hperm]

/-- Two instances of one subnet, the name of one of which starts like the name of the other. -/
def twoInstances : HostNames where
  names := ["ip-172-31-1-1", "ip-172-31-1-10"]
  nodup := by decide
  nonempty := by decide
  letters := by
    have hall : ["ip-172-31-1-1", "ip-172-31-1-10"].all (fun h => h.toList.all isTokenChar) =
        true := by decide
    intro h hh c hc
    exact List.all_eq_true.mp (List.all_eq_true.mp hall h hh) c hc

/-- The aliases of the two instances. -/
def twoAliases : Dict String String where
  items := [("rabbit1", "ip-172-31-1-1"), ("rabbit2", "ip-172-31-1-10")]
  nodup := by decide

/-- **Translating corrupts the longer name**: the text names the second instance, and reads
`rabbit10` instead of `rabbit2` afterwards. -/
theorem translate_corrupts_longer_name :
    AliasesOf twoInstances twoAliases ∧
      translate "rabbit@ip-172-31-1-10" (reverseDict twoAliases) = "rabbit@rabbit10" ∧
      substTokens twoAliases "rabbit@ip-172-31-1-10" = "rabbit@rabbit2" := by
  refine ⟨⟨List.Perm.refl _, by decide⟩, by decide, by decide⟩

end PythonForFun.RabbitMQ
