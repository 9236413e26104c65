import Mathlib.Data.Nat.Notation
import PythonForFun.Lib.Netfilter

set_option relaxedAutoImplicit false
set_option autoImplicit false

/-!
# The `iptables` command lines of the tests

The partition tests change the filter table of a host by `iptables` command lines sent over
ssh. A comma list of addresses stands for one rule per address, inserted one after another at
the head; a command line whose address list is empty (`-s  -j DROP`) is a usage error, and so
is deleting a rule by a number the chain does not have.

## Main definitions

* `Packet` — the header fields the rules of the repository match on.
* `Iptables` — the command lines, and `Iptables.apply`, their effect on a filter table.
-/

namespace PythonForFun

open Netfilter

/-- The header fields of a packet the rules of the repository match on. -/
structure Packet where
  src : String
  dst : String
  proto : String
  dport : ℕ
  deriving DecidableEq

/-- The rule `-s addr -j DROP`. -/
def dropSource (addr : String) : Rule Packet := ⟨fun p => p.src == addr, .verdict .drop⟩

/-- The rule `-d addr -j DROP`. -/
def dropDestination (addr : String) : Rule Packet := ⟨fun p => p.dst == addr, .verdict .drop⟩

/-- The rule `-p tcp --dport port -j DROP`. -/
def dropDport (port : ℕ) : Rule Packet :=
  ⟨fun p => p.proto == "tcp" && p.dport == port, .verdict .drop⟩

/-- The `iptables` command lines on the filter table. -/
inductive Iptables
  /-- `iptables -I INPUT -s {','.join(addrs)} -j DROP` -/
  | insertInputSource (addrs : List String)
  /-- `iptables -I OUTPUT -d {','.join(addrs)} -j DROP` -/
  | insertOutputDestination (addrs : List String)
  /-- `iptables -A INPUT -p tcp --dport {port} -j DROP` -/
  | appendInputDport (port : ℕ)
  /-- `iptables -A OUTPUT -p tcp --dport {port} -j DROP` -/
  | appendOutputDport (port : ℕ)
  /-- `iptables -D INPUT {n}` -/
  | deleteInput (n : ℕ)
  /-- `iptables -D OUTPUT {n}` -/
  | deleteOutput (n : ℕ)
  /-- `iptables -F` -/
  | flush
  deriving DecidableEq

/-- The effect of a command line on the filter table, or `none` when `iptables` refuses it. -/
def Iptables.apply : Iptables → FilterTable Packet → Option (FilterTable Packet)
  | .insertInputSource addrs, f =>
    if addrs = [] then none else some { f with input := f.input.insertAll (addrs.map dropSource) }
  | .insertOutputDestination addrs, f =>
    if addrs = [] then none
    else some { f with output := f.output.insertAll (addrs.map dropDestination) }
  | .appendInputDport port, f => some { f with input := f.input.append (dropDport port) }
  | .appendOutputDport port, f => some { f with output := f.output.append (dropDport port) }
  | .deleteInput n, f => (f.input.delete n).map fun c => { f with input := c }
  | .deleteOutput n, f => (f.output.delete n).map fun c => { f with output := c }
  | .flush, f => some f.flush

/-- Some inserted source rule hits a packet iff its source is one of the addresses. -/
theorem any_hits_dropSource (addrs : List String) (p : Packet) :
    (addrs.map dropSource).any (·.hits p) = decide (p.src ∈ addrs) := by
  rw [Bool.eq_iff_iff]
  simp [dropSource]

/-- Some inserted destination rule hits a packet iff its destination is one of the
addresses. -/
theorem any_hits_dropDestination (addrs : List String) (p : Packet) :
    (addrs.map dropDestination).any (·.hits p) = decide (p.dst ∈ addrs) := by
  rw [Bool.eq_iff_iff]
  simp [dropDestination]

/-- The verdict of a chain with source rules for `addrs` inserted. -/
theorem verdict_insertAll_dropSource (addrs : List String) (c : Chain Packet) (p : Packet) :
    (c.insertAll (addrs.map dropSource)).verdict p =
      if p.src ∈ addrs then .drop else c.verdict p := by
  rw [Chain.verdict_insertAll_drop _ (by simp [dropSource]), any_hits_dropSource]
  simp

/-- The verdict of a chain with destination rules for `addrs` inserted. -/
theorem verdict_insertAll_dropDestination (addrs : List String) (c : Chain Packet) (p : Packet) :
    (c.insertAll (addrs.map dropDestination)).verdict p =
      if p.dst ∈ addrs then .drop else c.verdict p := by
  rw [Chain.verdict_insertAll_drop _ (by simp [dropDestination]), any_hits_dropDestination]
  simp

end PythonForFun
