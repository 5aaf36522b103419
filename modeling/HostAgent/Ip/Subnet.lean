import HostAgent.Ip.Address

/-!
# Subnets

A mask is ones followed by zeros; it is named by the number of its ones. The network of an address
keeps the bits under the mask, the broadcast address sets all others.

* `prefixMask` -- the mask of a length; `maskLength?` -- the length of a mask;
* `maskLength?_eq_some` -- a length that is found gives the mask back.
-/

namespace HostAgent.Ip

/-- The mask of `width` bits that starts with `length` ones. -/
def prefixMask (width length : Nat) : BitVec width := ~~~(BitVec.allOnes width >>> length)

/-- The number of ones of a mask, when nothing but zeros follows them. -/
def maskLength? {width : Nat} (mask : BitVec width) : Option Nat :=
  (List.range (width + 1)).find? fun length => mask == prefixMask width length

theorem maskLength?_eq_some {width length : Nat} {mask : BitVec width}
    (h : maskLength? mask = some length) : length ≤ width ∧ mask = prefixMask width length := by
  have hm := List.mem_of_find?_eq_some h
  have hp := List.find?_some h
  exact ⟨Nat.lt_succ_iff.1 (List.mem_range.1 hm), by simpa using hp⟩

/-- The network of an address. -/
def V4.network (a : V4) (mask : BitVec 32) : V4 := ⟨a.bits &&& mask⟩

/-- The broadcast address of the network of an address. -/
def V4.broadcast (a : V4) (mask : BitVec 32) : V4 := ⟨a.bits ||| ~~~mask⟩

/-- The network of an address. -/
def V6.network (a : V6) (length : Nat) : V6 := ⟨a.bits &&& prefixMask 128 length⟩

/-- A mask length of IPv6, given as a number of eight bits or as a mask. A number may be too large to
    be the length of a mask; nothing is read from a text that is neither. -/
def prefixLength? (s : String) : Option Nat :=
  match Decimal.read? Decimal.max8 s.toList with
  | some n => some n
  | none => (V6.parse? s).bind fun mask => maskLength? mask.bits

end HostAgent.Ip
