import Mathlib.Data.List.Basic
import Mathlib.Data.List.DropRight
import Mathlib.Data.List.Infix

set_option relaxedAutoImplicit false
set_option autoImplicit false

/-!
# Words in a shell

What an unquoted expansion makes of a text, what `echo` makes of words, and what a command
substitution makes of an output, over any alphabet with a class of blanks.

## Main definitions

* `Shell.words` — the fields of a text between blanks.
* `Shell.unwords` — texts in a row with one separator between neighbours, as `echo` prints its
  arguments.
* `Shell.substitute` — an output without the newlines at its end.

## Main results

* `Shell.words_unwords` — the fields of texts in a row are the fields of each of them.
* `Shell.words_substitute` — the newlines at the end do not matter for the fields.
* `Shell.mem_of_infix_unwords` — a word between blanks that is found in words put in a row is one
  of these words.
-/

namespace Shell

variable {α : Type} (blank : α → Bool)

/-- The fields of a text: its longest parts without a blank. -/
def words (text : List α) : List (List α) :=
  (text.splitOnP blank).filter fun w => !w.isEmpty

/-- A text that is one field: not empty and without a blank. -/
def IsWord (w : List α) : Prop := w ≠ [] ∧ ∀ c ∈ w, blank c = false

instance [DecidableEq α] (w : List α) : Decidable (IsWord blank w) :=
  inferInstanceAs (Decidable (_ ∧ _))

/-- Texts in a row, with one separator between neighbours. -/
def unwords (sep : α) (texts : List (List α)) : List α := [sep].intercalate texts

/-- What a command substitution leaves of an output. -/
def substitute [DecidableEq α] (newline : α) (output : List α) : List α :=
  output.rdropWhile fun c => c == newline

variable {blank}

/-! ## The fields of a text -/

@[simp] theorem words_nil : words blank [] = [] := rfl

/-- At a blank the fields before and behind it are put together. -/
theorem words_append_cons {c : α} (hc : blank c = true) (as bs : List α) :
    words blank (as ++ c :: bs) = words blank as ++ words blank bs := by
  rw [words, List.splitOnP_append_cons as bs hc, List.filter_append]
  rfl

/-- A blank at the end does not matter. -/
theorem words_concat {c : α} (hc : blank c = true) (text : List α) :
    words blank (text ++ [c]) = words blank text := by
  rw [words_append_cons hc, words_nil, List.append_nil]

/-- A word is its only field. -/
theorem IsWord.words_eq {w : List α} (hw : IsWord blank w) : words blank w = [w] := by
  have hne : w.isEmpty = false := List.isEmpty_eq_false_iff.mpr hw.1
  rw [words, List.splitOnP_eq_singleton hw.2, List.filter_singleton, hne]
  rfl

/-- The fields of words are the words. -/
theorem flatMap_words {ws : List (List α)} (hws : ∀ w ∈ ws, IsWord blank w) :
    ws.flatMap (words blank) = ws := by
  induction ws with
  | nil => rfl
  | cons w ws ih =>
    rw [List.flatMap_cons, (hws w List.mem_cons_self).words_eq,
      ih fun w' hw' => hws w' (List.mem_cons_of_mem w hw')]
    rfl

/-- Texts put behind one another, each with a blank in front, have the fields of each of them.

**Proof sketch.** Induction from the end, where the last blank separates the last text. -/
theorem words_flatMap_cons {sep : α} (hsep : blank sep = true) (texts : List (List α)) :
    words blank (texts.flatMap (sep :: ·)) = texts.flatMap (words blank) := by
  induction texts using List.reverseRecOn with
  | nil => rfl
  | append_singleton texts text ih =>
    rw [List.flatMap_append, List.flatMap_singleton, words_append_cons hsep, ih,
      List.flatMap_append, List.flatMap_singleton]

/-! ## Texts in a row -/

/-- A text in front of others. -/
theorem unwords_cons_cons (sep : α) (text text' : List α) (texts : List (List α)) :
    unwords sep (text :: text' :: texts) = text ++ sep :: unwords sep (text' :: texts) := by
  simp [unwords]

/-- **The fields of texts in a row** are the fields of each of them. -/
theorem words_unwords {sep : α} (hsep : blank sep = true) (texts : List (List α)) :
    words blank (unwords sep texts) = texts.flatMap (words blank) := by
  induction texts with
  | nil => rfl
  | cons text texts ih =>
    cases texts with
    | nil => simp [unwords]
    | cons text' texts =>
      rw [unwords_cons_cons, words_append_cons hsep, ih]
      rfl

/-- The row of the first texts starts the row of all. -/
theorem unwords_prefix_append (sep : α) (texts texts' : List (List α)) :
    unwords sep texts <+: unwords sep (texts ++ texts') := by
  induction texts with
  | nil => exact List.nil_prefix
  | cons text texts ih =>
    cases texts with
    | nil =>
      cases texts' with
      | nil => exact List.prefix_refl _
      | cons text' texts' =>
        rw [List.singleton_append, unwords_cons_cons]
        simp [unwords]
    | cons text' texts =>
      rw [List.cons_append, List.cons_append, unwords_cons_cons, unwords_cons_cons]
      exact (List.prefix_append_right_inj text).mpr ((List.prefix_cons_inj sep).mpr ih)

/-- The row of the last texts ends the row of all. -/
theorem unwords_suffix_append (sep : α) (texts texts' : List (List α)) :
    unwords sep texts' <:+ unwords sep (texts ++ texts') := by
  induction texts with
  | nil => exact List.suffix_refl _
  | cons text texts ih =>
    rw [List.cons_append]
    cases htexts : texts ++ texts' with
    | nil =>
      rw [List.append_eq_nil_iff] at htexts
      rw [htexts.2]
      exact List.nil_suffix
    | cons text' texts'' =>
      rw [htexts] at ih
      rw [unwords_cons_cons]
      exact (ih.trans (List.suffix_cons sep _)).trans (List.suffix_append text _)

/-- The row of neighbours is found in the row of all. -/
theorem unwords_infix_of_infix (sep : α) {texts texts' : List (List α)} (h : texts <:+: texts') :
    unwords sep texts <:+: unwords sep texts' := by
  obtain ⟨front, back, rfl⟩ := h
  have hsuffix := unwords_suffix_append sep front texts
  exact hsuffix.isInfix.trans (unwords_prefix_append sep (front ++ texts) back).isInfix

/-- Words in a row are told apart. -/
theorem words_unwords_of_isWord {sep : α} (hsep : blank sep = true) {ws : List (List α)}
    (hws : ∀ w ∈ ws, IsWord blank w) : words blank (unwords sep ws) = ws := by
  rw [words_unwords hsep, flatMap_words hws]

/-- **A word between blanks** that is found in words put in a row is one of these words.

**Proof sketch.** The fields of the row are the words. By the two blanks around it the word found
is a field of the row as well. -/
theorem mem_of_infix_unwords {sep : α} (hsep : blank sep = true) {ws : List (List α)}
    (hws : ∀ w ∈ ws, IsWord blank w) {before w after : List α} (hw : IsWord blank w)
    (h : before ++ sep :: (w ++ sep :: after) <:+: unwords sep ws) : w ∈ ws := by
  obtain ⟨front, back, heq⟩ := h
  have hfields : ws = words blank (front ++ before) ++ ([w] ++ words blank (after ++ back)) := by
    calc ws = words blank (unwords sep ws) := (words_unwords_of_isWord hsep hws).symm
      _ = words blank (front ++ before ++ sep :: (w ++ sep :: (after ++ back))) := by
        rw [← heq]
        simp only [List.append_assoc, List.cons_append]
      _ = words blank (front ++ before) ++ ([w] ++ words blank (after ++ back)) := by
        rw [words_append_cons hsep, words_append_cons hsep, hw.words_eq]
  rw [hfields]
  simp

/-! ## Outputs -/

/-- The newlines at the end of an output do not matter for its fields. -/
theorem words_substitute [DecidableEq α] {newline : α} (hnewline : blank newline = true)
    (output : List α) : words blank (substitute newline output) = words blank output := by
  induction output using List.reverseRecOn with
  | nil => rfl
  | append_singleton output c ih =>
    unfold substitute at ih ⊢
    rw [List.rdropWhile_concat]
    split_ifs with hc
    · rw [ih, eq_of_beq hc, words_concat hnewline]
    · rfl

end Shell
