import Mathlib.Data.Int.Notation
import PythonForFun.Lib.Dict

set_option relaxedAutoImplicit false
set_option autoImplicit false

/-!
# The parts of Python the scripts rely on

Exceptions, the values that are compared with `is`, and the outcome of a child process. The
helpers of every directory share one idiom: `subprocess.Popen(['bash', '-c', script])`,
`communicate()`, decode both streams and strip their trailing newlines.

## Main definitions

* `PyErr` — the exceptions the modelled functions raise.
* `Value` — the values a flag argument can take, with the test `is False`.
* `ProcResult` — exit status and decoded streams of a finished child process.
* `pyInt` — `int(text)`.
-/

namespace PythonForFun

/-- The exceptions the modelled functions raise. -/
inductive PyErr
  /-- `Exception(msg)`. -/
  | exception (msg : String)
  /-- `Exception(err_msg)` carrying the attributes `err_code` and `err_msg`. -/
  | commandFailed (errCode : ℤ) (errMsg : String)
  /-- A failed `assert`. -/
  | assertionError
  /-- A test failed by `self.fail(msg)`. -/
  | testFailure (msg : String)
  /-- An operation on a value of the wrong type, such as unpacking or indexing `None`. -/
  | typeError
  /-- A missing dictionary key. -/
  | keyError (key : String)
  /-- A name that is not defined where it is used. -/
  | nameError (name : String)
  /-- A missing attribute, such as a method of `None`. -/
  | attributeError
  /-- A text that is not a number where one is read. -/
  | valueError
  /-- A server that cannot be reached. -/
  | connectionError
  deriving DecidableEq

/-- The values a flag argument can take. -/
inductive Value
  | none
  | bool (b : Bool)
  | int (i : ℤ)
  | str (s : String)
  deriving DecidableEq

/-- The test `v is False`: only the object `False` itself passes. -/
def Value.isFalse : Value → Bool
  | .bool false => true
  | _ => false

/-- `f'{v}'`. -/
def Value.format : Value → String
  | .none => "None"
  | .bool true => "True"
  | .bool false => "False"
  | .int i => toString i
  | .str s => s

/-- The outcome of a child process: the decoded streams and the exit status. -/
structure ProcResult where
  stdout : String
  stderr : String
  returncode : ℤ
  deriving DecidableEq

/-- `s.rstrip('\n')`. -/
def rstripNewlines (s : String) : String :=
  String.ofList (s.toList.reverse.dropWhile (· = '\n')).reverse

/-- `d[k]`. -/
def getItem {α : Type} (d : Dict String α) (k : String) : Except PyErr α :=
  match d.get? k with
  | none => .error (.keyError k)
  | some v => .ok v

/-- `next((item for item in lst if item[key] == value), None)`. -/
def keyFind {α : Type} (lst : List α) (key : α → String) (value : String) : Option α :=
  lst.find? fun item => key item == value

/-! ## Reading a number -/

/-- The white space `int` ignores around a number, among the ASCII characters. -/
def isSpace (c : Char) : Bool := c == ' ' || (9 ≤ c.toNat && c.toNat ≤ 13)

/-- `text.strip()`. -/
def stripSpaces (text : List Char) : List Char :=
  ((text.dropWhile isSpace).reverse.dropWhile isSpace).reverse

/-- The value of decimal digits read after the number `acc`. A single `_` may stand between two
digits. -/
def readDigits (acc : ℕ) (afterDigit : Bool) : List Char → Except PyErr ℕ
  | [] => if afterDigit then .ok acc else .error .valueError
  | c :: cs =>
    if c.isDigit then readDigits (10 * acc + (c.toNat - '0'.toNat)) true cs
    else if c == '_' && afterDigit then readDigits acc false cs
    else .error .valueError

/-- `int(text)`, of an ASCII text. -/
def pyInt (text : String) : Except PyErr ℤ :=
  match stripSpaces text.toList with
  | '-' :: digits => (readDigits 0 false digits).map fun n => -(n : ℤ)
  | '+' :: digits => (readDigits 0 false digits).map fun n => (n : ℤ)
  | digits => (readDigits 0 false digits).map fun n => (n : ℤ)

/-- Digits alone are read as the number they write. -/
theorem readDigits_of_isDigit {cs : List Char} (hcs : ∀ c ∈ cs, c.isDigit = true) (acc : ℕ)
    {afterDigit : Bool} (hne : cs ≠ [] ∨ afterDigit = true) :
    readDigits acc afterDigit cs = .ok (Nat.ofDigitChars 10 cs acc) := by
  induction cs generalizing acc afterDigit with
  | nil => simp_all [readDigits]
  | cons c cs ih =>
    have hc := hcs c List.mem_cons_self
    rw [readDigits, if_pos hc, Nat.ofDigitChars_cons]
    exact ih (fun c' hc' => hcs c' (List.mem_cons_of_mem c hc')) _ (Or.inr rfl)

/-- A digit is neither white space nor a sign. -/
theorem isSpace_of_isDigit {c : Char} (hc : c.isDigit = true) :
    isSpace c = false ∧ c ≠ '-' ∧ c ≠ '+' := by
  have hrange := Char.isDigit_iff_toNat.mp hc
  refine ⟨?_, ?_, ?_⟩
  · simp only [isSpace, Bool.or_eq_false_iff, beq_eq_false_iff_ne, ne_eq]
    constructor
    · rintro rfl
      simp at hc
    · simp at hrange ⊢
      omega
  · rintro rfl
    simp at hc
  · rintro rfl
    simp at hc

/-- Nothing is stripped off digits. -/
theorem stripSpaces_of_isDigit {cs : List Char} (hcs : ∀ c ∈ cs, c.isDigit = true) :
    stripSpaces cs = cs := by
  have hdrop : ∀ ds : List Char, (∀ c ∈ ds, c.isDigit = true) → ds.dropWhile isSpace = ds := by
    intro ds hds
    cases ds with
    | nil => rfl
    | cons d ds =>
      have hd := (isSpace_of_isDigit (hds d List.mem_cons_self)).1
      rw [List.dropWhile_cons, hd]
      rfl
  rw [stripSpaces, hdrop cs hcs, hdrop cs.reverse fun c hc => hcs c (List.mem_reverse.mp hc),
    List.reverse_reverse]

/-- **`int` reads back what a natural number is written as.** -/
theorem pyInt_toString (n : ℕ) : pyInt (toString n) = .ok (n : ℤ) := by
  have hdigits : ∀ c ∈ Nat.toDigits 10 n, c.isDigit = true :=
    fun c hc => Nat.isDigit_of_mem_toDigits (by decide) (by decide) hc
  have hread : readDigits 0 false (Nat.toDigits 10 n) =
      .ok (Nat.ofDigitChars 10 (Nat.toDigits 10 n) 0) :=
    readDigits_of_isDigit hdigits 0 (Or.inl Nat.toDigits_ne_nil)
  rw [Nat.ofDigitChars_ten_toDigits] at hread
  rw [pyInt, Nat.toString_eq_ofList_toDigits, String.toList_ofList,
    stripSpaces_of_isDigit hdigits]
  cases hcs : Nat.toDigits 10 n with
  | nil => exact absurd hcs Nat.toDigits_ne_nil
  | cons c cs =>
    rw [hcs] at hread hdigits
    obtain ⟨-, hminus, hplus⟩ := isSpace_of_isDigit (hdigits c List.mem_cons_self)
    split
    · next heq => exact absurd (List.cons.inj heq).1 hminus
    · next heq => exact absurd (List.cons.inj heq).1 hplus
    · rw [hread]
      rfl

/-! ## Lookups and texts -/

/-- Subscripting a key that is there. -/
theorem getItem_of_get? {α : Type} {d : Dict String α} {k : String} {v : α}
    (h : d.get? k = some v) : getItem d k = .ok v := by
  rw [getItem, h]

/-- `key_find` finds the only item with the value, in whatever order the list comes. -/
theorem keyFind_eq_some {α : Type} {lst : List α} {key : α → String} {value : String} {a : α}
    (ha : a ∈ lst) (hkey : key a = value) (honly : ∀ b ∈ lst, key b = value → b = a) :
    keyFind lst key value = some a := by
  unfold keyFind
  cases hfind : lst.find? fun item => key item == value with
  | none =>
    have hnone := List.find?_eq_none.mp hfind a ha
    rw [hkey, beq_self_eq_true] at hnone
    exact absurd rfl hnone
  | some b =>
    have hbeq : (key b == value) = true :=
      List.find?_some (p := fun item => key item == value) hfind
    have hb : key b = value := beq_iff_eq.mp hbeq
    rw [honly b (List.mem_of_find?_eq_some hfind) hb]

/-- `f'{s}{i}'` and `f'{s}{j}'` are the same text only for the same number. -/
theorem append_toString_inj {s : String} {i j : ℕ} (h : s ++ toString i = s ++ toString j) :
    i = j := by
  have hlist : s.toList ++ Nat.toDigits 10 i = s.toList ++ Nat.toDigits 10 j := by
    have hcongr := congrArg String.toList h
    simpa only [String.toList_append, Nat.toString_eq_ofList_toDigits, String.toList_ofList]
      using hcongr
  have hdigits := List.append_cancel_left hlist
  rw [← Nat.ofDigitChars_ten_toDigits (n := i), hdigits, Nat.ofDigitChars_ten_toDigits]

/-- A number written behind letters can be told from them: two such texts are the same only for
the same letters and the same number. -/
theorem append_toString_inj_of_letters {s t : String} (hs : s.toList.all fun c => !c.isDigit)
    (ht : t.toList.all fun c => !c.isDigit) {i j : ℕ} (h : s ++ toString i = t ++ toString j) :
    s = t ∧ i = j := by
  have hletters : ∀ (u : String) (k : ℕ), (u.toList.all fun c => !c.isDigit) = true →
      (u ++ toString k).toList.takeWhile (fun c => !c.isDigit) = u.toList := by
    intro u k hu
    have hdigits : (Nat.toDigits 10 k).takeWhile (fun c => !c.isDigit) = [] := by
      cases hk : Nat.toDigits 10 k with
      | nil => rfl
      | cons d ds =>
        have hd : d.isDigit = true :=
          Nat.isDigit_of_mem_toDigits (by decide) (by decide) (hk ▸ List.mem_cons_self)
        simp [hd]
    rw [String.toList_append, Nat.toString_eq_ofList_toDigits, String.toList_ofList,
      List.takeWhile_append_of_pos fun c hc => List.all_eq_true.mp hu c hc, hdigits,
      List.append_nil]
  have heq : s = t := by
    rw [← String.toList_inj, ← hletters s i hs, h, hletters t j ht]
  subst heq
  exact ⟨rfl, append_toString_inj h⟩

@[simp] theorem Value.isFalse_eq_true_iff (v : Value) : v.isFalse = true ↔ v = .bool false := by
  cases v with
  | bool b => cases b <;> simp [isFalse]
  | none => simp [isFalse]
  | int i => simp [isFalse]
  | str s => simp [isFalse]

end PythonForFun
