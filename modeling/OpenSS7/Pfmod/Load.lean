import Mathlib.Algebra.Ring.Nat
import Mathlib.Data.List.Basic

/-!
How a packet filter loads a word from a message that may be cut into blocks
anywhere.
-/

namespace OpenSS7.Pfmod

/-- The octets of a message block from `b_rptr` up to `b_wptr`, none where
`b_wptr <= b_rptr`. -/
abbrev Block := List UInt8

variable {w : Nat}

/-- `result <<= 8; result |= *p;` -/
def shiftIn (result : BitVec w) (octet : UInt8) : BitVec w :=
  (result <<< 8) ||| BitVec.ofNat w octet.toNat

/-- The inner loop, for the `need` octets still wanted; `p` is taken from
`b_rptr` and never wraps. -/
def loadFrom (b : Block) : Nat → Nat → Nat → BitVec w → Nat × BitVec w
  | 0, _, i, result => (i, result)
  | need + 1, p, i, result =>
      match b[p]? with
      | none => (i, result)
      | some octet => loadFrom b need (p + 1) (i + 1) (shiftIn result octet)

/-- The loop over the blocks of `pf_pack` and of `bpf_x`: the octets found and
the result, from a block on. -/
def load (size : Nat) :
    List Block → BitVec 32 → Nat → BitVec w → Nat × BitVec w
  | [], _, i, result => (i, result)
  | b :: rest, olen, i, result =>
      if b = [] then load size rest olen i result
      else
        let (i, result) := loadFrom b (size - i) (olen.toNat + i) i result
        if i = size then (i, result)
        else load size rest (olen - BitVec.ofNat 32 b.length) i result

def pfPack (mp : List Block) (offs : BitVec 16) : Option (BitVec 16) :=
  let (i, result) := load 2 mp (offs.setWidth 32 <<< 1) 0 0
  if i = 2 then some result
  else if i ≠ 0 then some (result <<< 8)
  else none

def bpfX (mp : List Block) (offs : BitVec 32) (size : Nat) :
    Option (BitVec 32) :=
  let (i, result) := load size mp offs 0 0
  if i = size then some result else none

def bigEndian (octets : List UInt8) : Nat :=
  octets.foldl (fun value octet => 256 * value + octet.toNat) 0

/-- What `pf_pack` is to return for the octets of a message. -/
def packSpec (data : List UInt8) (offs : BitVec 16) : Option Nat :=
  match data.drop (2 * offs.toNat) with
  | [] => none
  | [last] => some (last.toNat <<< 8)
  | high :: low :: _ => some (bigEndian [high, low])

/-- What `bpf_x` is to return for the octets of a message. -/
def xSpec (data : List UInt8) (offs : BitVec 32) (size : Nat) : Option Nat :=
  if offs.toNat + size ≤ data.length then
    some (bigEndian ((data.drop offs.toNat).take size))
  else none

end OpenSS7.Pfmod
