import Mathlib.Computability.Language

set_option relaxedAutoImplicit false
set_option autoImplicit false

/-!
# Searching for a regular expression

Regular expressions whose atoms are classes of letters, so that `.` is one of them, with the
search of `grep`: an expression is found in a line when some part of the line matches it. The
search is computed by derivatives and characterised by the languages of Mathlib.

## Main definitions

* `Regex`, `Regex.language` — expressions and the words they match.
* `Regex.rmatch`, `Regex.search` — deciding a match of a whole word and of a part of it.
* `Regex.literal`, `Regex.spaced` — a fixed word, and letters with anything between them.

## Main results

* `Regex.search_iff` — the search finds an expression iff some infix matches it.
* `Regex.search_spaced_iff` — letters with `.*` between them are found iff they form a
  subsequence of the line.
* `Regex.search_spaced_replicate_iff` — one letter `k` times is found iff it occurs `k` times.
-/

/-- Regular expressions over classes of letters. -/
inductive Regex (α : Type) where
  | empty
  | eps
  | sat (p : α → Bool)
  | alt (r s : Regex α)
  | seq (r s : Regex α)
  | star (r : Regex α)

namespace Regex

open Computability

variable {α : Type}

/-- The words an expression matches. -/
def language : Regex α → Language α
  | empty => 0
  | eps => 1
  | sat p => {w | ∃ a, p a = true ∧ w = [a]}
  | alt r s => r.language + s.language
  | seq r s => r.language * s.language
  | star r => r.language∗

/-! ## Matching by derivatives -/

/-- Whether an expression matches the empty word. -/
def nullable : Regex α → Bool
  | empty => false
  | eps => true
  | sat _ => false
  | alt r s => r.nullable || s.nullable
  | seq r s => r.nullable && s.nullable
  | star _ => true

/-- What is left to match after the letter `a`. -/
def deriv (a : α) : Regex α → Regex α
  | empty => empty
  | eps => empty
  | sat p => if p a then eps else empty
  | alt r s => alt (r.deriv a) (s.deriv a)
  | seq r s =>
    if r.nullable then alt (seq (r.deriv a) s) (s.deriv a) else seq (r.deriv a) s
  | star r => seq (r.deriv a) (star r)

/-- Whether an expression matches a whole word. -/
def rmatch (r : Regex α) : List α → Bool
  | [] => r.nullable
  | a :: w => (r.deriv a).rmatch w

/-- The empty word is matched exactly by the nullable expressions. -/
theorem nullable_iff (r : Regex α) : r.nullable = true ↔ [] ∈ r.language := by
  induction r with
  | empty => simp [nullable, language, Language.notMem_zero]
  | eps => simp [nullable, language]
  | sat p =>
    have hnil : [] ∉ (sat p).language := by rintro ⟨a, -, h⟩; cases h
    simp [nullable, hnil]
  | alt r s ihr ihs =>
    simp only [nullable, language, Bool.or_eq_true, ihr, ihs, Language.mem_add]
  | seq r s ihr ihs =>
    simp only [nullable, language, Bool.and_eq_true, ihr, ihs, Language.mem_mul,
      List.append_eq_nil_iff]
    exact ⟨fun ⟨hr, hs⟩ => ⟨[], hr, [], hs, rfl, rfl⟩,
      fun ⟨_, hr, _, hs, hu, hv⟩ => ⟨hu ▸ hr, hv ▸ hs⟩⟩
  | star r => simp [nullable, language, Language.nil_mem_kstar]

/-- A product is matched from a letter on by its first factor, or by its second one when the
first matches the empty word. -/
theorem cons_mem_mul {l m : Language α} {a : α} {w : List α} :
    a :: w ∈ l * m ↔
      (∃ u v, a :: u ∈ l ∧ v ∈ m ∧ u ++ v = w) ∨ ([] ∈ l ∧ a :: w ∈ m) := by
  rw [Language.mem_mul]
  constructor
  · rintro ⟨u, hu, v, hv, huv⟩
    cases u with
    | nil => exact .inr ⟨hu, by simpa using huv ▸ hv⟩
    | cons b u =>
      obtain ⟨rfl, rfl⟩ := List.cons_eq_cons.mp huv
      exact .inl ⟨u, v, hu, hv, rfl⟩
  · rintro (⟨u, v, hu, hv, rfl⟩ | ⟨hnil, hw⟩)
    · exact ⟨a :: u, hu, v, hv, rfl⟩
    · exact ⟨[], hnil, a :: w, hw, rfl⟩

/-- An iteration is matched from a letter on by one non-empty round, then by iteration. -/
theorem cons_mem_kstar {l : Language α} {a : α} {w : List α} :
    a :: w ∈ l∗ ↔ ∃ u v, a :: u ∈ l ∧ v ∈ l∗ ∧ u ++ v = w := by
  constructor
  · intro h
    obtain ⟨rounds, hflat, hrounds⟩ := Language.mem_kstar_iff_exists_nonempty.mp h
    cases rounds with
    | nil => simp at hflat
    | cons round rounds =>
      obtain ⟨hround, hne⟩ := hrounds round List.mem_cons_self
      cases round with
      | nil => exact absurd rfl hne
      | cons b u =>
        obtain ⟨rfl, rfl⟩ := List.cons_eq_cons.mp hflat
        exact ⟨u, rounds.flatten, hround,
          Language.join_mem_kstar fun y hy => (hrounds y (List.mem_cons_of_mem _ hy)).1, rfl⟩
  · rintro ⟨u, v, hu, hv, rfl⟩
    obtain ⟨rounds, rfl, hrounds⟩ := Language.mem_kstar.mp hv
    refine Language.mem_kstar.mpr ⟨(a :: u) :: rounds, rfl, fun y hy => ?_⟩
    rcases List.mem_cons.mp hy with rfl | hy
    · exact hu
    · exact hrounds y hy

/-- The derivative matches what may follow the letter. -/
theorem mem_language_deriv (a : α) (r : Regex α) (w : List α) :
    w ∈ (r.deriv a).language ↔ a :: w ∈ r.language := by
  induction r generalizing w with
  | empty => simp [deriv, language, Language.notMem_zero]
  | eps => simp [deriv, language, Language.notMem_zero, Language.mem_one]
  | sat p =>
    by_cases hp : p a = true
    · simp only [deriv, if_pos hp, language, Language.mem_one]
      exact ⟨fun h => ⟨a, hp, by rw [h]⟩, fun ⟨_, _, h⟩ => (List.cons_eq_cons.mp h).2⟩
    · simp only [deriv, if_neg hp, language]
      refine ⟨fun h => absurd h (Language.notMem_zero _), fun ⟨b, hb, h⟩ => ?_⟩
      exact absurd ((List.cons_eq_cons.mp h).1 ▸ hb) hp
  | alt r s ihr ihs => simp only [deriv, language, Language.mem_add, ihr, ihs]
  | seq r s ihr ihs =>
    have hseq : w ∈ (seq (r.deriv a) s).language ↔
        ∃ u v, a :: u ∈ r.language ∧ v ∈ s.language ∧ u ++ v = w := by
      simp only [language, Language.mem_mul, ihr]
      exact ⟨fun ⟨u, hu, v, hv, h⟩ => ⟨u, v, hu, hv, h⟩,
        fun ⟨u, v, hu, hv, h⟩ => ⟨u, hu, v, hv, h⟩⟩
    show w ∈ (deriv a (seq r s)).language ↔ a :: w ∈ r.language * s.language
    rw [cons_mem_mul, ← nullable_iff]
    by_cases hr : r.nullable = true
    · simp only [deriv, hr, if_true, true_and]
      rw [← hseq, ← ihs]
      rfl
    · simp only [deriv, hr, Bool.false_eq_true, if_false, false_and, or_false]
      exact hseq
  | star r ih =>
    show w ∈ (r.deriv a).language * r.language∗ ↔ a :: w ∈ r.language∗
    rw [cons_mem_kstar, Language.mem_mul]
    simp only [ih]
    exact ⟨fun ⟨u, hu, v, hv, h⟩ => ⟨u, v, hu, hv, h⟩,
      fun ⟨u, v, hu, hv, h⟩ => ⟨u, hu, v, hv, h⟩⟩

/-- Matching a whole word is membership in the language. -/
theorem rmatch_iff (r : Regex α) (w : List α) :
    r.rmatch w = true ↔ w ∈ r.language := by
  induction w generalizing r with
  | nil => exact nullable_iff r
  | cons a w ih =>
    rw [← mem_language_deriv]
    exact ih (r.deriv a)

/-! ## Searching a line -/

/-- `.*`. -/
def anything : Regex α := star (sat fun _ => true)

/-- Whether some part of the line matches, as `grep` looks for it. -/
def search (r : Regex α) (line : List α) : Bool :=
  (seq anything (seq r anything)).rmatch line

/-- `.*` matches every word. -/
theorem mem_language_anything (w : List α) : w ∈ (anything : Regex α).language := by
  refine Language.mem_kstar.mpr ⟨w.map fun a => [a], ?_, fun y hy => ?_⟩
  · induction w with
    | nil => rfl
    | cons a w ih => simpa using congrArg (a :: ·) ih
  · obtain ⟨a, _, rfl⟩ := List.mem_map.mp hy
    exact ⟨a, rfl, rfl⟩

/-- An expression is found in a line iff an infix of the line matches it. -/
theorem search_iff (r : Regex α) (line : List α) :
    r.search line = true ↔ ∃ u ∈ r.language, u <:+: line := by
  unfold search
  rw [rmatch_iff]
  simp only [language, Language.mem_mul]
  constructor
  · rintro ⟨before, -, _, ⟨u, hu, after, -, rfl⟩, rfl⟩
    exact ⟨u, hu, before, after, by simp⟩
  · rintro ⟨u, hu, before, after, rfl⟩
    exact ⟨before, mem_language_anything _, u ++ after,
      ⟨u, hu, after, mem_language_anything _, rfl⟩, by simp⟩

variable [DecidableEq α]

/-- The letter `c` itself. -/
def letter (c : α) : Regex α := sat (· == c)

/-- A fixed word. -/
def literal (word : List α) : Regex α := word.foldr (fun c r => seq (letter c) r) eps

/-- The letters `cs` in order, with `.*` between neighbours. -/
def spaced : List α → Regex α
  | [] => eps
  | [c] => letter c
  | c :: cs => seq (letter c) (seq anything (spaced cs))

/-- A letter matches the word of that letter. -/
theorem mem_language_letter {c : α} {w : List α} : w ∈ (letter c).language ↔ w = [c] :=
  ⟨fun ⟨_, hb, hw⟩ => hw.trans (by rw [eq_of_beq hb]), fun h => ⟨c, beq_self_eq_true c, h⟩⟩

/-- A fixed word matches itself only. -/
theorem mem_language_literal {word w : List α} : w ∈ (literal word).language ↔ w = word := by
  induction word generalizing w with
  | nil => exact Language.mem_one w
  | cons c word ih =>
    show w ∈ (letter c).language * (literal word).language ↔ w = c :: word
    rw [Language.mem_mul]
    constructor
    · rintro ⟨u, hu, v, hv, rfl⟩
      rw [mem_language_letter.mp hu, ih.mp hv]
      rfl
    · rintro rfl
      exact ⟨[c], mem_language_letter.mpr rfl, word, ih.mpr rfl, rfl⟩

/-- A fixed word is found in the lines it is an infix of. -/
theorem search_literal_iff (word line : List α) :
    (literal word).search line = true ↔ word <:+: line := by
  rw [search_iff]
  constructor
  · rintro ⟨u, hu, h⟩
    exact mem_language_literal.mp hu ▸ h
  · exact fun h => ⟨word, mem_language_literal.mpr rfl, h⟩

/-- What letters with gaps match contains the letters in order. -/
theorem sublist_of_mem_language_spaced {cs w : List α} (h : w ∈ (spaced cs).language) :
    cs.Sublist w := by
  induction cs generalizing w with
  | nil => exact List.nil_sublist w
  | cons c cs ih =>
    cases cs with
    | nil => rw [mem_language_letter.mp h]
    | cons c' cs =>
      obtain ⟨u, hu, _, ⟨gap, -, v, hv, rfl⟩, rfl⟩ := h
      rw [mem_language_letter.mp hu]
      exact ((ih hv).trans (List.sublist_append_right gap v)).cons_cons c

/-- A line with the letters in order has an infix letters with gaps match. -/
theorem exists_infix_of_sublist {cs line : List α} (h : cs.Sublist line) :
    ∃ u ∈ (spaced cs).language, u <:+: line := by
  induction cs generalizing line with
  | nil => exact ⟨[], Language.nil_mem_one, List.nil_infix⟩
  | cons c cs ih =>
    obtain ⟨before, after, rfl, hc, hcs⟩ := List.cons_sublist_iff.mp h
    obtain ⟨x, y, rfl⟩ := List.append_of_mem hc
    cases cs with
    | nil => exact ⟨[c], mem_language_letter.mpr rfl, x, y ++ after, by simp⟩
    | cons c' cs =>
      -- the gap reaches from the first letter to the infix found for the others
      obtain ⟨u, hu, p, q, rfl⟩ := ih hcs
      exact ⟨[c] ++ ((y ++ p) ++ u),
        ⟨[c], mem_language_letter.mpr rfl, _,
          ⟨y ++ p, mem_language_anything _, u, hu, rfl⟩, rfl⟩, x, q, by simp⟩

/-- Letters with gaps are found in a line iff they are a subsequence of it. -/
theorem search_spaced_iff (cs line : List α) :
    (spaced cs).search line = true ↔ cs.Sublist line := by
  rw [search_iff]
  exact ⟨fun ⟨_, hu, h⟩ => (sublist_of_mem_language_spaced hu).trans h.sublist,
    exists_infix_of_sublist⟩

/-- One letter `k` times with gaps is found in the lines that have it at least `k` times. -/
theorem search_spaced_replicate_iff (k : ℕ) (c : α) (line : List α) :
    (spaced (List.replicate k c)).search line = true ↔ k ≤ line.count c := by
  rw [search_spaced_iff, List.replicate_sublist_iff]

end Regex
