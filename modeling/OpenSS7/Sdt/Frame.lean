import Mathlib.Data.List.Basic

/-!
The length checks that `sdt_rx_block` makes on a frame.
-/

namespace OpenSS7.Sdt

def headerLength (xsn : Bool) : Nat := if xsn then 6 else 3

/-- `rx->bytes > config.m + 1 + 3`, tested after each octet. -/
def frameTooLong (xsn : Bool) (m bytes : Nat) : Bool :=
  decide (m + 1 + headerLength xsn < bytes)

def frameTooShort (xsn : Bool) (bytes : Nat) : Bool :=
  decide (bytes < headerLength xsn)

/-- `li` as read from the header of a complete frame. -/
def lengthIndicator (xsn : Bool) (octets : List UInt8) : Nat :=
  if xsn then
    ((((octets.getD 5 0).toNat <<< 8) ||| (octets.getD 4 0).toNat) &&& 0x1ff)
      + 6
  else
    ((octets.getD 2 0).toNat &&& 0x3f) + 3

def lengthError (xsn : Bool) (octets : List UInt8) : Bool :=
  let li := lengthIndicator xsn octets
  let longest := if xsn then 0x1ff + 6 else 0x3f + 3
  decide (octets.length ≠ li ∧ (li ≠ longest ∨ octets.length < li))

def lengthOk (xsn : Bool) (m : Nat) (octets : List UInt8) : Bool :=
  !frameTooLong xsn m octets.length && !frameTooShort xsn octets.length &&
    !lengthError xsn octets

end OpenSS7.Sdt
