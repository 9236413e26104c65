import Mathlib.Data.List.Basic
import Mathlib.Data.List.Infix

set_option relaxedAutoImplicit false
set_option autoImplicit false

/-!
# Shell scripts that may be cut short

A script is a list of lines; each line is a command with a flag telling whether its failure
ends the script (`set -e`). A command is a partial function on states: where it is undefined
it fails and leaves the state as it is. A run of a script may be cut short after any number
of commands, and a history is a sequence of such runs. What is run next may depend on the
state at the start of the run (a glob is expanded there).

## Main definitions

* `Script.Line` — a command and whether its failure aborts.
* `Script.apply`, `Script.runAll` — the effect of one command and of a list of commands.
* `Script.executed` — the commands a run gets through, within a budget.
* `Script.runStrict` — the state after a list of commands none of which may fail.
* `Script.trace` — the commands a history gets through.
* `Script.Preceded` — a command that only comes right after certain others.

## Main results

* `Script.runAll_invariant` — the invariant rule.
* `Script.runAll_simulates` — the simulation rule between two levels of states.
* `Script.runStrict_simulates` — an abstract run that does not fail carries over.
* `Script.executed_lenient`, `Script.executed_of_runStrict` — runs that nothing but the budget ends.
* `Script.exists_runs_of_trace` — a trace is a concatenation of prefixes of scripts.
-/

namespace Script

variable {σ γ ι α : Type}

/-- A line of a script: a command, and whether its failure ends the script. -/
structure Line (γ : Type) where
  cmd : γ
  strict : Bool

/-- The commands of a script. -/
def commands (ls : List (Line γ)) : List γ := ls.map Line.cmd

/-- Commands with a flag. -/
@[simp] theorem commands_map (cmds : List γ) (strict : Bool) :
    commands (cmds.map (⟨·, strict⟩)) = cmds := by
  rw [commands, List.map_map]
  exact List.map_id' cmds

section Semantics

variable (exec : γ → σ → Option σ)

/-- The state after a command; a command that fails leaves the state as it is. -/
def apply (s : σ) (c : γ) : σ := (exec c s).getD s

/-- The state after a list of commands. -/
def runAll (s : σ) (cmds : List γ) : σ := cmds.foldl (apply exec) s

/-- The commands a run of the script gets through when it is cut short after `budget`
commands; the failure of a strict line ends the run as well. -/
def executed : (budget : ℕ) → List (Line γ) → σ → List γ
  | 0, _, _ => []
  | _ + 1, [], _ => []
  | budget + 1, l :: ls, s =>
    if l.strict ∧ exec l.cmd s = none then [l.cmd]
    else l.cmd :: executed budget ls (apply exec s l.cmd)

/-- The state after a list of commands, provided none of them fails. -/
def runStrict (s : σ) (cmds : List γ) : Option σ := cmds.foldlM (fun s c => exec c s) s

/-- The commands a history gets through: each entry names a script and where its run is cut
short. -/
def trace (script : ι → σ → List (Line γ)) : List (ι × ℕ) → σ → List γ
  | [], _ => []
  | (i, budget) :: history, s =>
    let t := executed exec budget (script i s) s
    t ++ trace script history (runAll exec s t)

/-- Running two lists one after the other. -/
theorem runAll_append (s : σ) (as bs : List γ) :
    runAll exec s (as ++ bs) = runAll exec (runAll exec s as) bs :=
  List.foldl_append

/-- A command that does not fail, and the commands after it. -/
theorem runAll_cons_of_exec {s s' : σ} {c : γ} (h : exec c s = some s') (cmds : List γ) :
    runAll exec s (c :: cmds) = runAll exec s' cmds := by
  rw [runAll, List.foldl_cons, apply, h]
  rfl

/-- A command that fails, and the commands after it. -/
theorem runAll_cons_of_fails {s : σ} {c : γ} (h : exec c s = none) (cmds : List γ) :
    runAll exec s (c :: cmds) = runAll exec s cmds := by
  rw [runAll, List.foldl_cons, apply, h]
  rfl

/-- Running as far as `j`, and then `n` commands further. -/
theorem runAll_take_add (s : σ) (cmds : List γ) (j n : ℕ) :
    runAll exec s (cmds.take (j + n)) =
      runAll exec (runAll exec s (cmds.take j)) ((cmds.drop j).take n) := by
  rw [List.take_add, runAll_append]

/-- A run gets through a prefix of its script.

**Proof sketch.** Induction on the budget; each step adds the head of the remaining lines. -/
theorem executed_prefix (budget : ℕ) (ls : List (Line γ)) (s : σ) :
    executed exec budget ls s <+: commands ls := by
  induction budget generalizing ls s with
  | zero => exact List.nil_prefix
  | succ budget ih =>
    cases ls with
    | nil => exact List.nil_prefix
    | cons l ls =>
      unfold executed
      split_ifs with h
      · exact List.prefix_append [l.cmd] (commands ls)
      · exact List.prefix_cons_inj l.cmd |>.mpr (ih ls (apply exec s l.cmd))

/-- **The invariant rule**: what every command of the list preserves holds at its end. -/
theorem runAll_invariant {I : σ → Prop} {cmds : List γ}
    (hstep : ∀ c ∈ cmds, ∀ s, I s → I (apply exec s c)) {s : σ} (h : I s) :
    I (runAll exec s cmds) :=
  List.foldlRecOn cmds (apply exec) h fun s hs c hc => hstep c hc s hs

/-- **The simulation rule**: if each command of the list takes related states to related
states, so does the whole list. -/
theorem runAll_simulates {R : α → σ → Prop} {absApply : α → γ → α} {cmds : List γ}
    (hstep : ∀ c ∈ cmds, ∀ a s, R a s → R (absApply a c) (apply exec s c)) {a : α} {s : σ}
    (h : R a s) : R (cmds.foldl absApply a) (runAll exec s cmds) := by
  induction cmds generalizing a s with
  | nil => exact h
  | cons c cmds ih =>
    have hc := hstep c List.mem_cons_self a s h
    exact ih (fun c' hc' => hstep c' (List.mem_cons_of_mem c hc')) hc

/-- The first command of a list that does not fail. -/
theorem runStrict_cons_eq_some {s s' : σ} {c : γ} {cmds : List γ}
    (h : runStrict exec s (c :: cmds) = some s') :
    ∃ s₁, exec c s = some s₁ ∧ runStrict exec s₁ cmds = some s' := by
  rw [runStrict, List.foldlM_cons] at h
  exact Option.bind_eq_some_iff.mp h

/-- A command that does not fail, and the commands after it. -/
theorem runStrict_cons {s s₁ : σ} {c : γ} (h : exec c s = some s₁) (cmds : List γ) :
    runStrict exec s (c :: cmds) = runStrict exec s₁ cmds := by
  rw [runStrict, List.foldlM_cons, h]
  rfl

/-- One list after another. -/
theorem runStrict_append {s s₁ : σ} {as : List γ} (h : runStrict exec s as = some s₁)
    (bs : List γ) : runStrict exec s (as ++ bs) = runStrict exec s₁ bs := by
  rw [runStrict, List.foldlM_append, ← runStrict, h]
  rfl

/-- **The simulation rule for runs that do not fail**: if each command the abstract level gets
through is got through below it, related states staying related, so is a whole list.

**Proof sketch.** Induction on the list; the first command takes the related states to related
ones, and the rest of the list starts there. -/
theorem runStrict_simulates {R : α → σ → Prop} {absExec : γ → α → Option α}
    (hstep : ∀ c a a' s, R a s → absExec c a = some a' → ∃ s', exec c s = some s' ∧ R a' s')
    {cmds : List γ} {a a' : α} {s : σ} (h : R a s) (hrun : runStrict absExec a cmds = some a') :
    ∃ s', runStrict exec s cmds = some s' ∧ R a' s' := by
  induction cmds generalizing a s with
  | nil =>
    cases hrun
    exact ⟨s, rfl, h⟩
  | cons c cmds ih =>
    obtain ⟨a₁, ha₁, hrest⟩ := runStrict_cons_eq_some absExec hrun
    obtain ⟨s₁, hs₁, hR₁⟩ := hstep c a a₁ s h ha₁
    obtain ⟨s', hs', hR'⟩ := ih hR₁ hrest
    exact ⟨s', (runStrict_cons exec hs₁ cmds).trans hs', hR'⟩

/-- Lines none of which fails are got through as far as the budget goes. -/
theorem executed_of_runStrict {s s' : σ} {ls : List (Line γ)}
    (h : runStrict exec s (commands ls) = some s') (budget : ℕ) :
    executed exec budget ls s = (commands ls).take budget := by
  induction budget generalizing s ls with
  | zero => rfl
  | succ budget ih =>
    cases ls with
    | nil => rfl
    | cons l ls =>
      obtain ⟨s₁, hs₁, hrest⟩ := runStrict_cons_eq_some exec h
      have happly : apply exec s l.cmd = s₁ := by rw [apply, hs₁, Option.getD_some]
      rw [executed, if_neg (by simp [hs₁]), happly, ih hrest]
      rfl

/-- **A trace is a concatenation of prefixes of scripts.**

**Proof sketch.** Induction on the history; each entry contributes the prefix its run got
through. -/
theorem exists_runs_of_trace (script : ι → σ → List (Line γ)) (history : List (ι × ℕ)) (s : σ) :
    ∃ ts : List (List γ), trace exec script history s = ts.flatten ∧
      ∀ t ∈ ts, ∃ i s', t <+: commands (script i s') := by
  induction history generalizing s with
  | nil => exact ⟨[], rfl, fun t ht => absurd ht List.not_mem_nil⟩
  | cons e history ih =>
    obtain ⟨i, budget⟩ := e
    obtain ⟨ts, hts, hpre⟩ := ih (runAll exec s (executed exec budget (script i s) s))
    refine ⟨executed exec budget (script i s) s :: ts, ?_, ?_⟩
    · rw [List.flatten_cons, ← hts]
      rfl
    · intro t ht
      rcases List.mem_cons.mp ht with rfl | ht
      · exact ⟨i, s, executed_prefix exec budget (script i s) s⟩
      · exact hpre t ht

end Semantics

/-- A prefix of two lists put together lies within the first, or is the first with a prefix
of the second. -/
theorem prefix_append_cases {t as bs : List γ} (h : t <+: as ++ bs) :
    t <+: as ∨ ∃ u, u <+: bs ∧ t = as ++ u := by
  rw [List.prefix_iff_eq_take, List.take_append] at h
  rcases Nat.le_total t.length as.length with hle | hle
  · left
    rw [Nat.sub_eq_zero_of_le hle, List.take_zero, List.append_nil] at h
    rw [h]
    exact List.take_prefix _ _
  · right
    rw [List.take_of_length_le hle] at h
    exact ⟨bs.take (t.length - as.length), List.take_prefix _ _, h⟩

/-! ## Commands that come right after others -/

/-- Every occurrence of `c` in the list comes right after the commands `pre`. -/
def Preceded (pre : List γ) (c : γ) (l : List γ) : Prop :=
  ∀ i < l.length, l[i]? = some c → pre <:+ l.take i

instance [DecidableEq γ] (pre : List γ) (c : γ) (l : List γ) : Decidable (Preceded pre c l) :=
  inferInstanceAs (Decidable (∀ i < l.length, l[i]? = some c → pre <:+ l.take i))

section Preceded

variable {pre : List γ} {c : γ}

/-- The commands before an occurrence end with `pre`. -/
theorem Preceded.suffix {as bs : List γ} (h : Preceded pre c (as ++ c :: bs)) : pre <:+ as := by
  have hlt : as.length < (as ++ c :: bs).length := by
    rw [List.length_append, List.length_cons]
    omega
  have hget : (as ++ c :: bs)[as.length]? = some c := by
    rw [List.getElem?_append_right (Nat.le_refl _), Nat.sub_self]
    rfl
  have hsuf := h as.length hlt hget
  rwa [List.take_left' rfl] at hsuf

/-- A list without the command. -/
theorem preceded_of_notMem {l : List γ} (h : c ∉ l) : Preceded pre c l :=
  fun _ _ hget => absurd (List.mem_of_getElem? hget) h

/-- One list after another. -/
theorem Preceded.append {as bs : List γ} (has : Preceded pre c as) (hbs : Preceded pre c bs) :
    Preceded pre c (as ++ bs) := by
  intro i hi hget
  rcases Nat.lt_or_ge i as.length with hlt | hge
  · rw [List.getElem?_append_left hlt] at hget
    rw [List.take_append_of_le_length (Nat.le_of_lt hlt)]
    exact has i hlt hget
  · rw [List.getElem?_append_right hge] at hget
    rw [List.length_append] at hi
    have hsuf := hbs (i - as.length) (by omega) hget
    rw [List.take_append, List.take_of_length_le hge]
    exact hsuf.trans (List.suffix_append _ _)

/-- A prefix. -/
theorem Preceded.of_isPrefix {as bs : List γ} (h : Preceded pre c bs) (hpre : as <+: bs) :
    Preceded pre c as := by
  obtain ⟨rest, rfl⟩ := hpre
  intro i hi hget
  have hsuf := h i (by rw [List.length_append]; omega) (by
    rw [List.getElem?_append_left hi]
    exact hget)
  rwa [List.take_append_of_le_length (Nat.le_of_lt hi)] at hsuf

/-- Many lists one after another. -/
theorem Preceded.flatten {ls : List (List γ)} (h : ∀ l ∈ ls, Preceded pre c l) :
    Preceded pre c ls.flatten := by
  induction ls with
  | nil => exact preceded_of_notMem List.not_mem_nil
  | cons l ls ih =>
    rw [List.flatten_cons]
    have hrest := ih fun l' hl' => h l' (List.mem_cons_of_mem l hl')
    exact (h l List.mem_cons_self).append hrest

/-- A list that ends after `x` with commands other than `x` ends with them before `x`. -/
theorem suffix_of_suffix_append_cons {as bs : List γ} {x : γ} (h : pre <:+ as ++ x :: bs)
    (hx : x ∉ pre) : pre <:+ bs := by
  have hself : x :: bs <:+ as ++ x :: bs := List.suffix_append as (x :: bs)
  rcases List.suffix_or_suffix_of_suffix h hself with hsuf | hsuf
  · rcases List.suffix_cons_iff.mp hsuf with heq | hsuf
    · exact absurd (heq ▸ List.mem_cons_self) hx
    · exact hsuf
  · exact absurd (hsuf.subset List.mem_cons_self) hx

end Preceded

end Script
