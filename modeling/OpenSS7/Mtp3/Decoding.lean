import OpenSS7.Lib.Cursor
import OpenSS7.Mtp3.Codec

/-!
The decoders as they read a message through its block's pointers: which octets
they look at, what they make of them, and where they leave the pointers.
-/

namespace OpenSS7.Mtp3

open Cursor

inductive DecodeError where
  | emsgsize
  | eproto
deriving DecidableEq

/-- `struct mtp_msg` with the address and the length of the data. -/
structure Decoded where
  msg : MtpMsg
  data : Int
  dlen : Nat

/-- The message with the octets that `data` points to. -/
def Decoded.view (memory : Int → UInt8) (m : Decoded) : MtpMsg :=
  { m.msg with data := octets memory m.data (m.data + m.dlen) }

namespace Pointers

open Reader

abbrev Decoder := Reader DecodeError

variable (p : Protocol)

def mtpDecCom (m : MtpMsg) : Decoder MtpMsg :=
  if p.variant = .ansi then do
    need 2 .eproto
    let b0 ← peek 0
    let b1 ← peek 1
    skip 2
    return { m with
      slc := b0.toNat &&& 0x0f
      arg := b0.toNat >>> 4 ||| (b1.toNat &&& 0x7) <<< 4 }
  else do
    need 1 .eproto
    let b0 ← peek 0
    skip 1
    return { m with slc := m.sls, arg := b0.toNat &&& 0x7f }

def mtpDecCbm (m : MtpMsg) : Decoder MtpMsg :=
  if p.variant = .ansi then do
    need 2 .eproto
    let b0 ← peek 0
    let b1 ← peek 1
    skip 2
    return { m with
      slc := b0.toNat &&& 0x0f
      arg := b0.toNat >>> 4 ||| (b1.toNat &&& 0xf) <<< 4 }
  else do
    need 1 .eproto
    let b0 ← peek 0
    skip 1
    return { m with slc := m.sls, arg := b0.toNat }

def mtpDecSlm (m : MtpMsg) : Decoder MtpMsg :=
  if p.variant = .ansi then do
    need 1 .eproto
    let b0 ← peek 0
    skip 1
    return { m with slc := b0.toNat &&& 0x0f }
  else return { m with slc := m.sls }

/-- For point codes of 24 bits it moves `b_wptr`. -/
def mtpDecTfc (m : MtpMsg) : Decoder MtpMsg :=
  if p.variant.wide then do
    need 4 .eproto
    let b0 ← peek 0
    let b1 ← peek 1
    let b2 ← peek 2
    let b3 ← peek 3
    extend 4
    return { m with
      dest := b0.toNat ||| b1.toNat <<< 8 ||| b2.toNat <<< 16
      arg := b3.toNat &&& 0x3 }
  else do
    need 2 .eproto
    let b0 ← peek 0
    let b1 ← peek 1
    skip 2
    return { m with
      dest := b0.toNat ||| (b1.toNat &&& 0x3f) <<< 8
      arg := b1.toNat >>> 6 }

def mtpDecTfm (m : MtpMsg) : Decoder MtpMsg :=
  if p.variant.wide then do
    need 3 .eproto
    let b0 ← peek 0
    let b1 ← peek 1
    let b2 ← peek 2
    skip 3
    return { m with dest := b0.toNat ||| b1.toNat <<< 8 ||| b2.toNat <<< 16 }
  else do
    need 2 .eproto
    let b0 ← peek 0
    let b1 ← peek 1
    skip 2
    return { m with dest := b0.toNat ||| (b1.toNat &&& 0x3f) <<< 8 }

def mtpDecDlc (m : MtpMsg) : Decoder MtpMsg :=
  if p.variant = .ansi then do
    need 3 .eproto
    let b0 ← peek 0
    let b1 ← peek 1
    let b2 ← peek 2
    skip 3
    return { m with
      slc := b0.toNat &&& 0x0f
      arg := b0.toNat >>> 4 ||| b1.toNat <<< 4 ||| (b2.toNat &&& 0x03) <<< 12 }
  else do
    need 2 .eproto
    let b0 ← peek 0
    let b1 ← peek 1
    skip 2
    return { m with
      slc := m.sls
      arg := b0.toNat ||| (b1.toNat &&& 0x0f) <<< 8 }

def mtpDecUpm (m : MtpMsg) : Decoder MtpMsg :=
  if p.variant = .ansi then do
    need 4 .eproto
    let b0 ← peek 0
    let b1 ← peek 1
    let b2 ← peek 2
    let b3 ← peek 3
    skip 4
    return { m with
      dest := b0.toNat ||| b1.toNat <<< 8 ||| b2.toNat <<< 16
      arg := b3.toNat &&& 0x0f }
  else do
    need 3 .eproto
    let b0 ← peek 0
    let b1 ← peek 1
    let b2 ← peek 2
    skip 3
    return { m with
      dest := b0.toNat ||| b1.toNat &&& 0x3f <<< 8
      arg := b2.toNat &&& 0x0f }

/-- The address in `b_rptr`. -/
def here : Decoder Int := do
  let c ← get
  return c.rptr

def mtpDecSltm (m : MtpMsg) : Decoder Decoded :=
  if p.variant = .ansi then do
    need 1 .eproto
    let b0 ← peek 0
    skip 1
    let dlen := b0.toNat >>> 4
    let data ← here
    need dlen .eproto
    return ⟨{ m with slc := b0.toNat &&& 0x0f }, data, dlen⟩
  else if m.si = 2 then throw .eproto
  else do
    need 1 .eproto
    let b0 ← peek 0
    skip 1
    let dlen := b0.toNat >>> 4
    let data ← here
    need dlen .eproto
    return ⟨{ m with slc := m.sls }, data, dlen⟩

def mtpDecUser (m : MtpMsg) : Decoder Decoded := do
  need 0 .eproto
  let c ← get
  return ⟨m, c.rptr, (c.wptr - c.rptr).toNat⟩

def mtpDecSio (m : MtpMsg) : Decoder MtpMsg := do
  need 1 .eproto
  let b0 ← peek 0
  let mp ←
    match p.variant with
    | .jttc => do
        let before ← peek (-1)
        pure (before.toNat >>> 6)
    | .ansi => pure (b0.toNat >>> 4 &&& 0x3)
    | _ => pure (if p.mplev = true then b0.toNat >>> 4 &&& 0x3 else 0)
  skip 1
  return { m with
    si := b0.toNat &&& 0x0f
    mp := mp
    ni := b0.toNat >>> 6 &&& 0x3 }

def mtpDecRl (m : MtpMsg) : Decoder MtpMsg :=
  if p.variant.wide then do
    need 7 .eproto
    let b0 ← peek 0
    let b1 ← peek 1
    let b2 ← peek 2
    let b3 ← peek 3
    let b4 ← peek 4
    let b5 ← peek 5
    let b6 ← peek 6
    skip 7
    return { m with
      dpc := b0.toNat ||| b1.toNat <<< 8 ||| b2.toNat <<< 16
      opc := b3.toNat ||| b4.toNat <<< 8 ||| b5.toNat <<< 16
      sls := if p.year = .y00 then b6.toNat &&& 0xff else b6.toNat &&& 0x1f }
  else do
    need 4 .eproto
    let b0 ← peek 0
    let b1 ← peek 1
    let b2 ← peek 2
    let b3 ← peek 3
    skip 4
    return { m with
      dpc := b0.toNat ||| (b1.toNat &&& 0x3f) <<< 8
      opc := b1.toNat >>> 6 ||| b2.toNat <<< 2 |||
        (b2.toNat &&& 0x0f) <<< 10
      sls := b3.toNat >>> 4 &&& 0x0f }

def bare (decoder : Decoder MtpMsg) : Decoder Decoded := do
  let m ← decoder
  return ⟨m, 0, 0⟩

def mtpDecSif (m : MtpMsg) : Decoder Decoded :=
  match m.si with
  | 0 => do
      need 1 .eproto
      let b0 ← peek 0
      skip 1
      let m := { m with h0 := b0.toNat &&& 0x0f, h1 := b0.toNat >>> 4 }
      match (b0 <<< 4 ||| b0 >>> 4).toNat with
      | 0x11 | 0x12 => bare (mtpDecCom p m)
      | 0x15 | 0x16 => bare (mtpDecCbm p m)
      | 0x71 | 0x72 | 0x31 => return ⟨m, 0, 0⟩
      | 0x32 => bare (mtpDecTfc p m)
      | 0x41 | 0x42 | 0x43 | 0x44 | 0x45 | 0x46
      | 0x51 | 0x52 | 0x53 | 0x54 => bare (mtpDecTfm p m)
      | 0x81 => bare (mtpDecDlc p m)
      | 0x82 | 0x83 | 0x84 | 0x21 | 0x22
      | 0x61 | 0x62 | 0x63 | 0x64 | 0x65 | 0x66 | 0x67 | 0x68 =>
          bare (mtpDecSlm p m)
      | 0xa1 | 0xa2 | 0xa3 => bare (mtpDecUpm p m)
      | _ => throw .eproto
  | 1 | 2 => do
      need 1 .eproto
      let b0 ← peek 0
      skip 1
      let m := { m with h0 := b0.toNat &&& 0x0f, h1 := b0.toNat >>> 4 }
      match (b0 <<< 4 ||| b0 >>> 4).toNat with
      | 0x11 | 0x12 => mtpDecSltm p m
      | _ => throw .eproto
  | _ => mtpDecUser m

def mtpDecMsg : Decoder Decoded :=
  restoring do
    need 1 .emsgsize
    let m ← mtpDecSio p .zero
    let m ← mtpDecRl p m
    mtpDecSif p m

end Pointers

end OpenSS7.Mtp3
