import Mathlib.Data.List.Basic
import Mathlib.Data.List.Infix
import Mathlib.Data.List.SplitBy
import Mathlib.Tactic.Common

set_option relaxedAutoImplicit false
set_option autoImplicit false

/-!
# Substring replacement and tokens

Replacing every occurrence of a word in a text, from the left and without overlaps, as the
string libraries of scripting languages do, and what it does to the tokens of the text: the
maximal runs of letters of some kind. A word that consists of such letters never reaches over
the border of a token, so replacements act on each token by itself, even if they put letters
of any kind in its place.

## Main definitions

* `Replace.replace` — the replacement of one word.
* `Replace.replaceAll` — several replacements one after another.
* `Replace.segments` — the tokens of a text, and each other letter by itself.

## Main results

* `Replace.replace_append` — a replacement on two parts of a text with a border between them.
* `Replace.replaceAll_eq_flatMap_segments` — replacements act on each segment by itself.
* `Replace.lt_count_replace` — a replacement that takes place leaves its mark.
-/

namespace Replace

variable {α : Type} [DecidableEq α]

/-! ## One replacement -/

/-- Replace `old` by `new` in the text, its first `skip` letters left out. -/
def replaceFrom (old new : List α) : (skip : ℕ) → List α → List α
  | _, [] => []
  | 0, c :: text =>
    if old.isPrefixOf (c :: text) then new ++ replaceFrom old new (old.length - 1) text
    else c :: replaceFrom old new 0 text
  | skip + 1, _ :: text => replaceFrom old new skip text

/-- Replace every occurrence of `old` by `new`, from the left and without overlaps. The empty
word occurs before every letter and at the end. -/
def replace (old new text : List α) : List α :=
  if old = [] then new ++ text.flatMap (fun c => c :: new) else replaceFrom old new 0 text

/-- Several replacements, one after another. -/
def replaceAll (items : List (List α × List α)) (text : List α) : List α :=
  items.foldl (fun text e => replace e.1 e.2 text) text

section OneWord

variable {old new : List α}

/-- Leaving out the whole text. -/
theorem replaceFrom_of_length_le {skip : ℕ} {text : List α} (h : text.length ≤ skip) :
    replaceFrom old new skip text = [] := by
  induction text generalizing skip with
  | nil => cases skip <;> rfl
  | cons c text ih =>
    cases skip with
    | zero => exact absurd h (Nat.not_succ_le_zero _)
    | succ skip => exact ih (Nat.le_of_succ_le_succ h)

/-- A text in which the word does not occur stays as it is. -/
theorem replace_of_notOccurs {text : List α} (hold : old ≠ []) (h : ¬ old <:+: text) :
    replace old new text = text := by
  rw [replace, if_neg hold]
  induction text with
  | nil => rfl
  | cons c text ih =>
    rw [List.infix_cons_iff, not_or] at h
    have hpre : ¬ old.isPrefixOf (c :: text) = true := by
      rw [List.isPrefixOf_iff_prefix]
      exact h.1
    rw [replaceFrom, if_neg hpre, ih h.2]

/-- The word itself is replaced as a whole. -/
theorem replace_self (hold : old ≠ []) : replace old new old = new := by
  cases old with
  | nil => exact absurd rfl hold
  | cons c old =>
    have hpre : (c :: old).isPrefixOf (c :: old) = true :=
      List.isPrefixOf_iff_prefix.mpr (List.prefix_refl _)
    have hskip : replaceFrom (c :: old) new ((c :: old).length - 1) old = [] :=
      replaceFrom_of_length_le (Nat.le_refl _)
    rw [replace, if_neg hold, replaceFrom, if_pos hpre, hskip, List.append_nil]

omit [DecidableEq α] in
/-- Where the word occurs, the letters it covers are letters of the word. -/
theorem notMem_of_prefix {x c : α} {text : List α} (hold : old ≠ []) (hx : x ∉ old)
    (hpre : old <+: c :: text) : c ≠ x ∧ x ∉ text.take (old.length - 1) := by
  obtain ⟨rest, hrest⟩ := hpre
  cases old with
  | nil => exact absurd rfl hold
  | cons o old =>
    obtain ⟨rfl, rfl⟩ := List.cons.inj hrest
    rw [List.mem_cons, not_or] at hx
    refine ⟨Ne.symm hx.1, ?_⟩
    show x ∉ (old ++ rest).take old.length
    rw [List.take_left' rfl]
    exact hx.2

/-- A letter that is not in the word is not lost. -/
theorem count_le_count_replaceFrom {x : α} (hold : old ≠ []) (hx : x ∉ old) {skip : ℕ}
    {text : List α} (hskip : x ∉ text.take skip) :
    text.count x ≤ (replaceFrom old new skip text).count x := by
  induction text generalizing skip with
  | nil => exact Nat.zero_le _
  | cons c text ih =>
    cases skip with
    | zero =>
      unfold replaceFrom
      split_ifs with hpre
      · obtain ⟨hc, hcovered⟩ :=
          notMem_of_prefix hold hx (List.isPrefixOf_iff_prefix.mp hpre)
        have hrest := ih hcovered
        rw [List.count_cons_of_ne hc, List.count_append]
        omega
      · have hrest := @ih 0 List.not_mem_nil
        rw [List.count_cons, List.count_cons]
        omega
    | succ skip =>
      rw [List.take_succ_cons, List.mem_cons, not_or] at hskip
      rw [List.count_cons_of_ne (Ne.symm hskip.1)]
      exact ih hskip.2

/-- A replacement loses no letter that is not in the word. -/
theorem count_le_count_replace {x : α} (hold : old ≠ []) (hx : x ∉ old) (text : List α) :
    text.count x ≤ (replace old new text).count x := by
  rw [replace, if_neg hold]
  exact count_le_count_replaceFrom hold hx List.not_mem_nil

/-- **A replacement that takes place leaves its mark**: a letter of `new` that is not in the
word occurs once more.

**Proof sketch.** Induction on the text up to the first occurrence. There `new` adds the
letter, and the rest of the text loses none. -/
theorem lt_count_replace {x : α} (hold : old ≠ []) (hx : x ∉ old) (hnew : x ∈ new)
    {text : List α} (h : old <:+: text) : text.count x < (replace old new text).count x := by
  rw [replace, if_neg hold]
  induction text with
  | nil => exact absurd (List.infix_nil.mp h) hold
  | cons c text ih =>
    unfold replaceFrom
    split_ifs with hpre
    · obtain ⟨hc, hcovered⟩ := notMem_of_prefix hold hx (List.isPrefixOf_iff_prefix.mp hpre)
      have hrest := @count_le_count_replaceFrom α _ old new x hold hx _ _ hcovered
      have hone : 0 < new.count x := List.count_pos_iff.mpr hnew
      rw [List.count_cons_of_ne hc, List.count_append]
      omega
    · rw [List.isPrefixOf_iff_prefix] at hpre
      have hlater : old <:+: text := (List.infix_cons_iff.mp h).resolve_left hpre
      have hrest := ih hlater
      rw [List.count_cons, List.count_cons]
      omega

end OneWord

/-! ## Borders -/

section Border

variable (tok : α → Bool) {old new : List α}

/-- There is a border between two parts of a text: the first part does not end with a letter
of a token, or the second part does not start with one. -/
def Border (as bs : List α) : Prop :=
  (∀ c, as.getLast? = some c → tok c = false) ∨ (∀ c, bs.head? = some c → tok c = false)

variable {tok}

omit [DecidableEq α] in
/-- A border stays one when letters are left out before it. -/
theorem Border.of_cons {c : α} {as bs : List α} (h : Border tok (c :: as) bs) :
    Border tok as bs := by
  refine h.imp (fun hlast x hx => hlast x ?_) id
  cases as with
  | nil => cases hx
  | cons d as => rwa [List.getLast?_cons_cons]

omit [DecidableEq α] in
/-- A word of token letters that starts before a border ends before it.

**Proof sketch.** A word that reaches over the border covers the last letter before it and the
first letter after it, and one of the two is no token letter. -/
theorem prefix_append_iff_of_border {as bs : List α} (hborder : Border tok as bs)
    (hword : ∀ c ∈ old, tok c = true) (has : as ≠ []) : old <+: as ++ bs ↔ old <+: as := by
  constructor
  · intro h
    rcases List.prefix_or_prefix_of_prefix h (List.prefix_append as bs) with hpre | ⟨rest, hrest⟩
    · exact hpre
    · cases rest with
      | nil =>
        rw [List.append_nil] at hrest
        rw [hrest]
      | cons r rest =>
        exfalso
        rcases hborder with hlast | hhead
        · have hmem : as.getLast has ∈ old := by
            rw [← hrest]
            exact List.mem_append_left _ (List.getLast_mem has)
          have hno := hlast _ (List.getLast?_eq_getLast_of_ne_nil has)
          rw [hword _ hmem] at hno
          cases hno
        · have hmem : r ∈ old := by
            rw [← hrest]
            exact List.mem_append_right _ List.mem_cons_self
          rw [← hrest, List.prefix_append_right_inj] at h
          obtain ⟨more, hmore⟩ := h
          have hno := hhead r (by rw [← hmore]; rfl)
          rw [hword r hmem] at hno
          cases hno
  · intro h
    exact List.prefix_append_of_prefix h

/-- Replacing on two parts of a text with a border between them, the first letters left out. -/
theorem replaceFrom_append {as bs : List α} (hborder : Border tok as bs)
    (hword : ∀ c ∈ old, tok c = true) {skip : ℕ} (hskip : skip ≤ as.length) :
    replaceFrom old new skip (as ++ bs) =
      replaceFrom old new skip as ++ replaceFrom old new 0 bs := by
  induction as generalizing skip with
  | nil =>
    rw [Nat.le_zero.mp hskip]
    rfl
  | cons c as ih =>
    cases skip with
    | zero =>
      have hiff := prefix_append_iff_of_border hborder hword (List.cons_ne_nil c as)
      rw [List.cons_append] at hiff ⊢
      by_cases hpre : old <+: c :: as
      · have hlen : old.length - 1 ≤ as.length := by
          have hle := hpre.length_le
          rw [List.length_cons] at hle
          omega
        rw [replaceFrom, if_pos (List.isPrefixOf_iff_prefix.mpr (hiff.mpr hpre)), replaceFrom,
          if_pos (List.isPrefixOf_iff_prefix.mpr hpre), ih hborder.of_cons hlen,
          List.append_assoc]
      · have hpre' : ¬ old <+: c :: (as ++ bs) := fun h => hpre (hiff.mp h)
        rw [replaceFrom, if_neg (mt List.isPrefixOf_iff_prefix.mp hpre'), replaceFrom,
          if_neg (mt List.isPrefixOf_iff_prefix.mp hpre),
          ih hborder.of_cons (Nat.zero_le _), List.cons_append]
    | succ skip =>
      rw [List.cons_append, replaceFrom, replaceFrom]
      exact ih hborder.of_cons (Nat.le_of_succ_le_succ hskip)

/-- **A replacement acts on the two sides of a border separately.** -/
theorem replace_append {as bs : List α} (hborder : Border tok as bs) (hold : old ≠ [])
    (hword : ∀ c ∈ old, tok c = true) :
    replace old new (as ++ bs) = replace old new as ++ replace old new bs := by
  rw [replace, if_neg hold, replace, if_neg hold, replace, if_neg hold]
  exact replaceFrom_append hborder hword (Nat.zero_le _)

end Border

/-! ## Segments -/

section Segments

variable (tok : α → Bool)

/-- The tokens of a text, each other letter by itself, in order. -/
def segments (text : List α) : List (List α) := text.splitBy fun a b => tok a && tok b

variable {tok}

omit [DecidableEq α] in
/-- The segments make up the text. -/
theorem flatten_segments (text : List α) : (segments tok text).flatten = text :=
  List.flatten_splitBy _ text

omit [DecidableEq α] in
/-- A run of at least two letters has token letters only. -/
theorem tok_of_isChain {a b : α} {rest : List α}
    (h : (a :: b :: rest).IsChain fun x y => (tok x && tok y) = true) :
    ∀ c ∈ a :: b :: rest, tok c = true := by
  induction rest generalizing a b with
  | nil =>
    have hab := List.isChain_pair.mp h
    rw [Bool.and_eq_true] at hab
    intro c hc
    rcases List.mem_pair.mp hc with rfl | rfl
    · exact hab.1
    · exact hab.2
  | cons d rest ih =>
    obtain ⟨hab, hrest⟩ := List.isChain_cons_cons.mp h
    rw [Bool.and_eq_true] at hab
    intro c hc
    rcases List.mem_cons.mp hc with rfl | hc
    · exact hab.1
    · exact ih hrest c hc

omit [DecidableEq α] in
/-- A segment with a letter that belongs to no token is that letter by itself. -/
theorem eq_singleton_of_mem_segments {text seg : List α} (hseg : seg ∈ segments tok text)
    {c : α} (hc : c ∈ seg) (htok : tok c = false) : seg = [c] := by
  have hchain := List.isChain_of_mem_splitBy hseg
  cases seg with
  | nil => cases hc
  | cons a seg =>
    cases seg with
    | nil => rw [List.mem_singleton.mp hc]
    | cons b rest =>
      rw [tok_of_isChain hchain c hc] at htok
      cases htok

/-- A word of token letters does not occur in a letter that belongs to no token. -/
theorem replace_singleton {old new : List α} (hold : old ≠ []) (hword : ∀ c ∈ old, tok c = true)
    {c : α} (hc : tok c = false) : replace old new [c] = [c] := by
  refine replace_of_notOccurs hold fun hocc => ?_
  obtain ⟨o, rest, rfl⟩ := List.exists_cons_of_ne_nil hold
  have hmem : o ∈ [c] := hocc.subset List.mem_cons_self
  have ho := hword o List.mem_cons_self
  rw [List.mem_singleton.mp hmem, hc] at ho
  cases ho

/-- **A replacement acts on each segment by itself**, also after the tokens among the segments
have been changed by `f`.

**Proof sketch.** Induction on the segments. Of two segments in a row one is a letter that
belongs to no token. It is still there after `f`, so the border between the two is. -/
theorem replace_flatMap {old new : List α} (hold : old ≠ []) (hword : ∀ c ∈ old, tok c = true)
    {f : List α → List α} (hf : ∀ c, tok c = false → f [c] = [c]) {segs : List (List α)}
    (hsingle : ∀ seg ∈ segs, ∀ c ∈ seg, tok c = false → seg = [c])
    (hchain : segs.IsChain fun as bs =>
      ∃ ha hb, (tok (as.getLast ha) && tok (bs.head hb)) = false) :
    replace old new (segs.flatMap f) = segs.flatMap fun seg => replace old new (f seg) := by
  induction segs with
  | nil => rw [List.flatMap_nil, List.flatMap_nil, replace, if_neg hold, replaceFrom]
  | cons as segs ih =>
    have hborder : Border tok (f as) (segs.flatMap f) := by
      cases segs with
      | nil => exact Or.inr fun c hc => by cases hc
      | cons bs segs =>
        obtain ⟨⟨ha, hb, hno⟩, -⟩ := List.isChain_cons_cons.mp hchain
        rcases Bool.and_eq_false_iff.mp hno with hlast | hhead
        · left
          have has := hsingle as List.mem_cons_self _ (List.getLast_mem ha) hlast
          intro c hc
          rw [has, hf _ hlast] at hc
          rw [← Option.some.inj hc]
          exact hlast
        · right
          have hbs := hsingle bs (List.mem_cons_of_mem as List.mem_cons_self) _
            (List.head_mem hb) hhead
          intro c hc
          rw [List.flatMap_cons, hbs, hf _ hhead] at hc
          rw [← Option.some.inj hc]
          exact hhead
    have hrest := ih (fun seg hseg => hsingle seg (List.mem_cons_of_mem as hseg)) hchain.tail
    rw [List.flatMap_cons, replace_append hborder hold hword, hrest, List.flatMap_cons]

/-- **Replacements of words of token letters act on each segment by itself.**

**Proof sketch.** Induction on the replacements, for arbitrary changes `f` of the tokens made
by the earlier ones. -/
theorem replaceAll_eq_flatMap_segments {items : List (List α × List α)}
    (hitems : ∀ e ∈ items, e.1 ≠ [] ∧ ∀ c ∈ e.1, tok c = true) (text : List α) :
    replaceAll items text = (segments tok text).flatMap (replaceAll items) := by
  suffices h : ∀ f : List α → List α, (∀ c, tok c = false → f [c] = [c]) →
      replaceAll items ((segments tok text).flatMap f) =
        (segments tok text).flatMap fun seg => replaceAll items (f seg) by
    have hid := h id fun _ _ => rfl
    rwa [List.flatMap_id, flatten_segments] at hid
  induction items with
  | nil => exact fun _ _ => rfl
  | cons e items ih =>
    intro f hf
    obtain ⟨hne, hword⟩ := hitems e List.mem_cons_self
    have hchain : (segments tok text).IsChain fun as bs =>
        ∃ ha hb, (tok (as.getLast ha) && tok (bs.head hb)) = false :=
      List.isChain_getLast_head_splitBy (fun a b => tok a && tok b) text
    have hstep := @replace_flatMap α _ tok e.1 e.2 hne hword f hf (segments tok text)
      (fun seg hseg c hc htok => eq_singleton_of_mem_segments hseg hc htok) hchain
    have hrest := ih (fun e' he' => hitems e' (List.mem_cons_of_mem e he'))
      (fun seg => replace e.1 e.2 (f seg)) (fun c hc => by
        rw [hf c hc]
        exact replace_singleton hne hword hc)
    show replaceAll items (replace e.1 e.2 _) = _
    rw [hstep, hrest]
    rfl

omit [DecidableEq α] in
/-- **Tokens put for tokens leave the borders where they are**: the segments of the new text are
the new segments.

**Proof sketch.** Of two segments in a row one is a letter that belongs to no token. That one
stays, so the two are still apart. -/
theorem segments_flatMap {f : List α → List α}
    (hword : ∀ seg, seg ≠ [] → (∀ c ∈ seg, tok c = true) → f seg ≠ [] ∧ ∀ c ∈ f seg, tok c = true)
    (hother : ∀ seg c, c ∈ seg → tok c = false → f seg = seg) (text : List α) :
    segments tok ((segments tok text).flatMap f) = (segments tok text).map f := by
  have hsegs : ∀ seg ∈ segments tok text, f seg ≠ [] ∧
      (f seg).IsChain fun a b => (tok a && tok b) = true := by
    intro seg hseg
    have hne := List.ne_nil_of_mem_splitBy hseg
    by_cases hall : ∀ c ∈ seg, tok c = true
    · obtain ⟨hf, hletters⟩ := hword seg hne hall
      refine ⟨hf, List.Pairwise.isChain (List.pairwise_iff_forall_sublist.mpr ?_)⟩
      intro a b hab
      rw [hletters a (hab.subset List.mem_cons_self), hletters b (hab.subset (by simp))]
      rfl
    · obtain ⟨c, hc, htok⟩ : ∃ c ∈ seg, tok c = false := by simpa using hall
      rw [hother seg c hc htok]
      exact ⟨hne, List.isChain_of_mem_splitBy hseg⟩
  have hborder : ((segments tok text).map f).IsChain fun as bs =>
      ∃ ha hb, (tok (as.getLast ha) && tok (bs.head hb)) = false := by
    rw [List.isChain_map]
    refine (List.isChain_getLast_head_splitBy (fun a b => tok a && tok b) text).imp_of_mem_imp ?_
    intro as bs has hbs hapart
    obtain ⟨ha, hb, hno⟩ := hapart
    refine ⟨(hsegs as has).1, (hsegs bs hbs).1, ?_⟩
    rcases Bool.and_eq_false_iff.mp hno with hlast | hhead
    · simp only [hother as _ (List.getLast_mem ha) hlast, hlast, Bool.false_and]
    · simp only [hother bs _ (List.head_mem hb) hhead, hhead, Bool.and_false]
  rw [segments, List.flatMap_def]
  refine List.splitBy_flatten ?_ ?_ hborder
  · intro hnil
    obtain ⟨seg, hseg, heq⟩ := List.mem_map.mp hnil
    exact (hsegs seg hseg).1 heq
  · intro m hm
    obtain ⟨seg, hseg, rfl⟩ := List.mem_map.mp hm
    exact (hsegs seg hseg).2

end Segments

/-! ## Several replacements on one text -/

section Several

variable {items : List (List α × List α)}

/-- Words that do not occur in the text leave it as it is. -/
theorem replaceAll_of_notOccurs {text : List α}
    (h : ∀ e ∈ items, e.1 ≠ [] ∧ ¬ e.1 <:+: text) : replaceAll items text = text := by
  induction items with
  | nil => rfl
  | cons e items ih =>
    obtain ⟨hne, hnot⟩ := h e List.mem_cons_self
    show replaceAll items (replace e.1 e.2 text) = text
    rw [replace_of_notOccurs hne hnot]
    exact ih fun e' he' => h e' (List.mem_cons_of_mem e he')

/-- One of the words is replaced as a whole, if no other word occurs in it and no word occurs
in what it is replaced by. -/
theorem replaceAll_word (hnodup : (items.map Prod.fst).Nodup) (hne : ∀ e ∈ items, e.1 ≠ [])
    {word new : List α} (hmem : (word, new) ∈ items)
    (hword : ∀ e ∈ items, e.1 <:+: word → e.1 = word) (hnew : ∀ e ∈ items, ¬ e.1 <:+: new) :
    replaceAll items word = new := by
  obtain ⟨before, after, rfl⟩ := List.append_of_mem hmem
  have hbefore : ∀ e ∈ before, e.1 ≠ [] ∧ ¬ e.1 <:+: word := by
    intro e he
    have heitems : e ∈ before ++ (word, new) :: after := List.mem_append_left _ he
    refine ⟨hne e heitems, fun hocc => ?_⟩
    rw [List.map_append, List.map_cons, List.nodup_append] at hnodup
    exact hnodup.2.2 e.1 (List.mem_map_of_mem he) word List.mem_cons_self
      (hword e heitems hocc)
  have hafter : ∀ e ∈ after, e.1 ≠ [] ∧ ¬ e.1 <:+: new := by
    intro e he
    have heitems : e ∈ before ++ (word, new) :: after :=
      List.mem_append_right _ (List.mem_cons_of_mem _ he)
    exact ⟨hne e heitems, hnew e heitems⟩
  have hsplit : replaceAll (before ++ (word, new) :: after) word =
      replaceAll after (replace word new (replaceAll before word)) := by
    rw [replaceAll, List.foldl_append]
    rfl
  rw [hsplit, replaceAll_of_notOccurs hbefore, replace_self (hne (word, new) hmem),
    replaceAll_of_notOccurs hafter]

/-- Replacements lose no letter that is in none of the words. -/
theorem count_le_count_replaceAll {x : α} (h : ∀ e ∈ items, e.1 ≠ [] ∧ x ∉ e.1)
    (text : List α) : text.count x ≤ (replaceAll items text).count x := by
  induction items generalizing text with
  | nil => exact Nat.le_refl _
  | cons e items ih =>
    obtain ⟨hne, hx⟩ := h e List.mem_cons_self
    have hstep := @count_le_count_replace α _ e.1 e.2 x hne hx text
    have hrest := ih (fun e' he' => h e' (List.mem_cons_of_mem e he')) (replace e.1 e.2 text)
    exact Nat.le_trans hstep hrest

/-- Changing the segments of a text in two ways, one of which has at least as many of some
letter in each segment and more of it in one. -/
theorem count_flatMap_lt {x : α} {f g : List α → List α} {segs : List (List α)}
    (hle : ∀ seg ∈ segs, (f seg).count x ≤ (g seg).count x)
    (hlt : ∃ seg ∈ segs, (f seg).count x < (g seg).count x) :
    (segs.flatMap f).count x < (segs.flatMap g).count x := by
  have hrest : ∀ segs' : List (List α), (∀ seg ∈ segs', (f seg).count x ≤ (g seg).count x) →
      (segs'.flatMap f).count x ≤ (segs'.flatMap g).count x := by
    intro segs' hle'
    induction segs' with
    | nil => exact Nat.le_refl _
    | cons seg segs' ih =>
      have hseg := hle' seg List.mem_cons_self
      have hlater := ih fun seg' h => hle' seg' (List.mem_cons_of_mem seg h)
      rw [List.flatMap_cons, List.flatMap_cons, List.count_append, List.count_append]
      omega
  obtain ⟨seg, hseg, hlt⟩ := hlt
  obtain ⟨before, after, rfl⟩ := List.append_of_mem hseg
  have hbefore := hrest before fun s h => hle s (List.mem_append_left _ h)
  have hafter := hrest after fun s h => hle s (List.mem_append_right _ (List.mem_cons_of_mem _ h))
  simp only [List.flatMap_append, List.flatMap_cons, List.count_append]
  omega

end Several

end Replace
