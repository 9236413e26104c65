import Mathlib.Data.Nat.Notation
import Mathlib.Tactic.SplitIfs

set_option relaxedAutoImplicit false
set_option autoImplicit false

/-!
# Strings of C in arrays of bytes

An array of `char` has a fixed number of bytes, and a byte has no value until it is written. A
string in it ends with the first zero byte. The functions of `<string.h>` are undefined where
they would read or write outside of an array, or read a byte without a value; here they return
`none` then.

## Main definitions

* `CString.Bytes`, `CString.Buffer` — bytes without a zero, and an array.
* `CString.str` — the string at the start of an array.
* `CString.write`, `CString.strcpy`, `CString.strncpy`, `CString.memset`.
* `CString.padded` — a string that is filled up with zeros.

## Main results

* `CString.strcpy_eq_some_iff` — when `strcpy` is defined.
* `CString.str_strcpy` — what it copies.
* `CString.strncpy_of_lt` — `strncpy` of a string that is shorter than the bound.
-/

namespace CString

/-- The bytes of a string: none of them is zero. -/
structure Bytes where
  bytes : List UInt8
  ne_zero : ∀ b ∈ bytes, b ≠ 0
  deriving DecidableEq

/-- The number of bytes before the zero byte, as `strlen` counts them. -/
def Bytes.strlen (s : Bytes) : ℕ := s.bytes.length

/-- An array of bytes; `none` is a byte that has not been written yet. -/
abbrev Buffer := List (Option UInt8)

/-- An array of `n` bytes, none of them written. -/
def uninitialized (n : ℕ) : Buffer := List.replicate n none

/-- The array that holds a string and nothing else. -/
def literal (s : Bytes) : Buffer := s.bytes.map some ++ [some 0]

/-! ## The functions -/

/-- The string at the start of an array. -/
def str : Buffer → Option (List UInt8)
  | [] => none
  | none :: _ => none
  | some b :: rest => if b = 0 then some [] else (str rest).map (b :: ·)

/-- The string at the start of an array, cut off after `n` bytes. -/
def strn : ℕ → Buffer → Option (List UInt8)
  | 0, _ => some []
  | _ + 1, [] => none
  | _ + 1, none :: _ => none
  | n + 1, some b :: rest => if b = 0 then some [] else (strn n rest).map (b :: ·)

/-- Write some bytes to the start of an array. -/
def write (dst : Buffer) (bytes : List UInt8) : Option Buffer :=
  if bytes.length ≤ dst.length then some (bytes.map some ++ dst.drop bytes.length) else none

/-- `strcpy(dst, src)`. -/
def strcpy (dst src : Buffer) : Option Buffer := (str src).bind fun s => write dst (s ++ [0])

/-- `strncpy(dst, src, n)`: what is left of the `n` bytes is filled with zeros. -/
def strncpy (dst src : Buffer) (n : ℕ) : Option Buffer :=
  (strn n src).bind fun s => write dst (s ++ List.replicate (n - s.length) 0)

/-- `*src`. -/
def deref : Buffer → Option UInt8
  | some b :: _ => some b
  | _ => none

/-- `memset(dst, b, sizeof(dst))`. -/
def memset (dst : Buffer) (b : UInt8) : Buffer := List.replicate dst.length (some b)

/-! ## Reading -/

/-- The string before a zero byte. -/
theorem str_append_zero {s : List UInt8} (hs : ∀ b ∈ s, b ≠ 0) (rest : Buffer) :
    str (s.map some ++ some 0 :: rest) = some s := by
  induction s with
  | nil => rfl
  | cons b s ih =>
    obtain ⟨hb, hrest⟩ := List.forall_mem_cons.mp hs
    rw [List.map_cons, List.cons_append, str, if_neg hb, ih hrest, Option.map_some]

/-- The string of an array that holds a string and nothing else. -/
theorem str_literal (s : Bytes) : str (literal s) = some s.bytes :=
  str_append_zero s.ne_zero []

/-- A string that fits in less than `n` bytes is not cut off. -/
theorem strn_of_str {src : Buffer} {s : List UInt8} (h : str src = some s) {n : ℕ}
    (hn : s.length < n) : strn n src = some s := by
  induction src generalizing s n with
  | nil => cases h
  | cons x src ih =>
    cases x with
    | none => cases h
    | some b =>
      obtain ⟨n, rfl⟩ : ∃ m, n = m + 1 := ⟨n - 1, by omega⟩
      rw [str] at h
      rw [strn]
      by_cases hb : b = 0
      · rw [if_pos hb] at h ⊢
        exact h
      · rw [if_neg hb] at h ⊢
        obtain ⟨s, hs, rfl⟩ := Option.map_eq_some_iff.mp h
        rw [List.length_cons] at hn
        rw [ih hs (by omega), Option.map_some]

/-- A string is shorter than its array. -/
theorem length_lt_of_str {src : Buffer} {s : List UInt8} (h : str src = some s) :
    s.length < src.length := by
  induction src generalizing s with
  | nil => cases h
  | cons x src ih =>
    cases x with
    | none => cases h
    | some b =>
      rw [str] at h
      rw [List.length_cons]
      by_cases hb : b = 0
      · rw [if_pos hb] at h
        cases h
        exact Nat.succ_pos _
      · rw [if_neg hb] at h
        obtain ⟨s, hs, rfl⟩ := Option.map_eq_some_iff.mp h
        exact Nat.succ_lt_succ (ih hs)

/-- A string has no zero byte. -/
theorem ne_zero_of_str {src : Buffer} {s : List UInt8} (h : str src = some s) :
    ∀ b ∈ s, b ≠ 0 := by
  induction src generalizing s with
  | nil => cases h
  | cons x src ih =>
    cases x with
    | none => cases h
    | some b =>
      rw [str] at h
      by_cases hb : b = 0
      · rw [if_pos hb] at h
        cases h
        exact List.forall_mem_nil _
      · rw [if_neg hb] at h
        obtain ⟨s, hs, rfl⟩ := Option.map_eq_some_iff.mp h
        exact List.forall_mem_cons.mpr ⟨hb, ih hs⟩

/-- The first byte of an array with a string is zero iff the string is empty. -/
theorem deref_of_str {src : Buffer} {s : List UInt8} (h : str src = some s) :
    ∃ b, deref src = some b ∧ (b = 0 ↔ s = []) := by
  cases src with
  | nil => cases h
  | cons x src =>
    cases x with
    | none => cases h
    | some b =>
      refine ⟨b, rfl, ?_⟩
      rw [str] at h
      by_cases hb : b = 0
      · rw [if_pos hb] at h
        cases h
        exact iff_of_true hb rfl
      · rw [if_neg hb] at h
        obtain ⟨s, -, rfl⟩ := Option.map_eq_some_iff.mp h
        exact iff_of_false hb (List.cons_ne_nil b s)

/-! ## Writing -/

/-- Writing keeps the size of the array. -/
theorem length_write {dst dst' : Buffer} {bytes : List UInt8} (h : write dst bytes = some dst') :
    dst'.length = dst.length := by
  rw [write] at h
  split_ifs at h with hle
  cases h
  rw [List.length_append, List.length_map, List.length_drop]
  omega

/-- A string that is written with its zero byte can be read. -/
theorem str_write {dst dst' : Buffer} {s rest : List UInt8} (hs : ∀ b ∈ s, b ≠ 0)
    (h : write dst (s ++ 0 :: rest) = some dst') : str dst' = some s := by
  rw [write] at h
  split_ifs at h with hle
  cases h
  rw [List.map_append, List.map_cons, List.append_assoc, List.cons_append]
  exact str_append_zero hs _

/-- **When `strcpy` is defined**: the source holds a string, which is shorter than the target. -/
theorem strcpy_eq_some_iff (dst src : Buffer) :
    (∃ dst', strcpy dst src = some dst') ↔ ∃ s, str src = some s ∧ s.length < dst.length := by
  have hbound : ∀ s : List UInt8, (s ++ [0]).length ≤ dst.length ↔ s.length < dst.length := by
    intro s
    rw [List.length_append, List.length_singleton]
    omega
  constructor
  · rintro ⟨dst', h⟩
    obtain ⟨s, hs, hwrite⟩ := Option.bind_eq_some_iff.mp h
    rw [write] at hwrite
    split_ifs at hwrite with hle
    exact ⟨s, hs, (hbound s).mp hle⟩
  · rintro ⟨s, hs, hlt⟩
    rw [strcpy, hs, Option.bind_some, write, if_pos ((hbound s).mpr hlt)]
    exact ⟨_, rfl⟩

/-- **What `strcpy` copies** is the string, and the array keeps its size. -/
theorem str_strcpy {dst src dst' : Buffer} (h : strcpy dst src = some dst') :
    str dst' = str src ∧ dst'.length = dst.length := by
  obtain ⟨s, hs, hwrite⟩ := Option.bind_eq_some_iff.mp h
  rw [hs]
  exact ⟨str_write (ne_zero_of_str hs) hwrite, length_write hwrite⟩

/-- The array of `n` bytes that holds a string, filled up with zeros. -/
def padded (s : List UInt8) (n : ℕ) : Buffer := (s ++ List.replicate (n - s.length) 0).map some

/-- **`strncpy` of a string that is shorter than the bound** fills an array of that size. -/
theorem strncpy_of_lt {dst src : Buffer} {s : List UInt8} (h : str src = some s)
    (hs : s.length < dst.length) : strncpy dst src dst.length = some (padded s dst.length) := by
  have hlength : (s ++ List.replicate (dst.length - s.length) (0 : UInt8)).length =
      dst.length := by
    rw [List.length_append, List.length_replicate]
    omega
  rw [strncpy, strn_of_str h hs, Option.bind_some, write, if_pos (Nat.le_of_eq hlength), hlength,
    List.drop_length, List.append_nil, padded]

/-- The size of an array that is filled up with zeros. -/
theorem length_padded {s : List UInt8} {n : ℕ} (hn : s.length ≤ n) : (padded s n).length = n := by
  rw [padded, List.length_map, List.length_append, List.length_replicate]
  omega

/-- `memset` with zero fills the array with zeros. -/
theorem memset_zero (dst : Buffer) : memset dst 0 = padded [] dst.length := by
  rw [memset, padded, List.nil_append, List.map_replicate]
  rfl

end CString
