import Mathlib.Data.Nat.Bitwise

/-!
The messages of the network level as octets: the service information octet, the
routing label, the heading code and the parameters, as they are encoded and
decoded, and which messages come back as they were sent.
-/

namespace OpenSS7.Mtp3

/-- `SS7_PVAR_MASK`: the protocol variants; the others take the default
branches. -/
inductive Variant where
  | itut
  | etsi
  | ansi
  | jttc
  | chin
  | sing
  | span
deriving DecidableEq

/-- `SS7_PVAR_YR` -/
inductive Year where
  | y88
  | y92
  | y96
  | y00
  | y04
deriving DecidableEq

/-- `option.pvar` and what is read of `option.popt`: `mplev` is
`SS7_POPT_MPLEV`. -/
structure Protocol where
  variant : Variant
  year : Year
  mplev : Bool
deriving DecidableEq

def Variant.wide : Variant → Bool
  | .ansi | .jttc | .chin => true
  | _ => false

abbrev Octets := List UInt8

/-- A message block: the octets from `b_rptr` to `b_wptr`, and `before` is
`b_rptr[-1]`. -/
structure Block where
  before : UInt8
  octets : Octets
deriving DecidableEq

/-- `struct mtp_msg`: `arg` is a union, `data` are the `dlen` octets that `data`
points to, and `moved` is what decoding adds to `bp->b_wptr`. -/
structure MtpMsg where
  mp : Nat
  ni : Nat
  si : Nat
  opc : Nat
  dpc : Nat
  sls : Nat
  h0 : Nat
  h1 : Nat
  slc : Nat
  dest : Nat
  arg : Nat
  data : Octets
  moved : Nat
deriving DecidableEq

def MtpMsg.zero : MtpMsg := ⟨0, 0, 0, 0, 0, 0, 0, 0, 0, 0, 0, [], 0⟩

section Encoding

variable (p : Protocol)

def mtpEncCom (slc fsnl : Nat) : Octets :=
  match p.variant with
  | .ansi =>
      [(slc &&& 0x0f ||| fsnl <<< 4).toUInt8, (fsnl >>> 4 &&& 0x7).toUInt8]
  | _ => [(fsnl &&& 0x7f).toUInt8]

def mtpEncCbm (slc cbc : Nat) : Octets :=
  match p.variant with
  | .ansi =>
      [(slc &&& 0x0f ||| cbc <<< 4).toUInt8, (cbc >>> 4 &&& 0x0f).toUInt8]
  | _ => [cbc.toUInt8]

def mtpEncSlm (slc : Nat) : Octets :=
  match p.variant with
  | .ansi => [(slc &&& 0x0f).toUInt8]
  | _ => []

def mtpEncTfc (dest stat : Nat) : Octets :=
  match p.variant with
  | .ansi | .jttc | .chin =>
      [dest.toUInt8, (dest >>> 8).toUInt8, (dest >>> 16).toUInt8,
        (stat &&& 0x3).toUInt8]
  | _ => [dest.toUInt8, (dest >>> 8 &&& 0x3f ||| stat <<< 6).toUInt8]

def mtpEncTfm (dest : Nat) : Octets :=
  match p.variant with
  | .ansi | .jttc | .chin =>
      [dest.toUInt8, (dest >>> 8).toUInt8, (dest >>> 16).toUInt8]
  | _ => [dest.toUInt8, (dest >>> 8 &&& 0x3f).toUInt8]

def mtpEncDlc (slc sdli : Nat) : Octets :=
  match p.variant with
  | .ansi =>
      [(slc &&& 0x0f ||| sdli <<< 4).toUInt8, (sdli >>> 4).toUInt8,
        (sdli >>> 12 &&& 0x03).toUInt8]
  | _ => [sdli.toUInt8, (sdli >>> 8 &&& 0x0f).toUInt8]

def mtpEncUpm (dest upi : Nat) : Octets :=
  match p.variant with
  | .ansi =>
      [dest.toUInt8, (dest >>> 8).toUInt8, (dest >>> 16).toUInt8,
        (upi &&& 0x0f).toUInt8]
  | _ =>
      [dest.toUInt8, (dest >>> 8 &&& 0x3f).toUInt8, (upi &&& 0x0f).toUInt8]

def mtpEncSltm (slc : Nat) (data : Octets) : Octets :=
  match p.variant with
  | .ansi => (slc &&& 0x0f ||| data.length <<< 4).toUInt8 :: data
  | _ => (data.length <<< 4).toUInt8 :: data

/-- `mtp_enc_user`: the data follow in blocks of their own. -/
def mtpEncUser (data : Octets) : Octets := data

/-- `mtp_enc_sio`: the octet before the message and the message. -/
def mtpEncSio (mp ni si : Nat) : Block :=
  match p.variant with
  | .jttc =>
      ⟨(mp <<< 6).toUInt8, [(si &&& 0x0f ||| (ni &&& 0x3) <<< 6).toUInt8]⟩
  | .ansi =>
      ⟨0, [(si &&& 0x0f ||| (mp &&& 0x3) <<< 4 ||| (ni &&& 0x3) <<< 6).toUInt8]⟩
  | _ =>
      if p.mplev = true then
        ⟨0, [(si &&& 0x0f ||| (mp &&& 0x3) <<< 4 |||
          (ni &&& 0x3) <<< 6).toUInt8]⟩
      else ⟨0, [(si &&& 0x0f ||| (ni &&& 0x3) <<< 6).toUInt8]⟩

def mtpEncRl (dpc opc sls : Nat) : Octets :=
  match p.variant with
  | .ansi | .jttc | .chin =>
      [dpc.toUInt8, (dpc >>> 8).toUInt8, (dpc >>> 16).toUInt8, opc.toUInt8,
        (opc >>> 8).toUInt8, (opc >>> 16).toUInt8, sls.toUInt8]
  | _ =>
      [dpc.toUInt8, (dpc >>> 8 &&& 0x3f ||| opc <<< 6).toUInt8,
        (opc >>> 2).toUInt8, (opc >>> 10 &&& 0x0f ||| sls <<< 4).toUInt8]

def mtpEncSif (h0 h1 : Nat) : Octets :=
  [(h0 &&& 0x0f ||| (h1 &&& 0x0f) <<< 4).toUInt8]

def mtpEncMsg (ni mp si dpc opc sls : Nat) : Block :=
  let bp := mtpEncSio p mp ni si
  { bp with octets := bp.octets ++ mtpEncRl p dpc opc sls }

end Encoding

section Decoding

variable (p : Protocol)

def mtpDecCom (m : MtpMsg) (octets : Octets) : Option MtpMsg :=
  match p.variant, octets with
  | .ansi, b0 :: b1 :: _ =>
      some { m with
        slc := b0.toNat &&& 0x0f
        arg := b0.toNat >>> 4 ||| (b1.toNat &&& 0x7) <<< 4 }
  | .ansi, _ => none
  | _, b0 :: _ => some { m with slc := m.sls, arg := b0.toNat &&& 0x7f }
  | _, [] => none

def mtpDecCbm (m : MtpMsg) (octets : Octets) : Option MtpMsg :=
  match p.variant, octets with
  | .ansi, b0 :: b1 :: _ =>
      some { m with
        slc := b0.toNat &&& 0x0f
        arg := b0.toNat >>> 4 ||| (b1.toNat &&& 0xf) <<< 4 }
  | .ansi, _ => none
  | _, b0 :: _ => some { m with slc := m.sls, arg := b0.toNat }
  | _, [] => none

def mtpDecSlm (m : MtpMsg) (octets : Octets) : Option MtpMsg :=
  match p.variant, octets with
  | .ansi, b0 :: _ => some { m with slc := b0.toNat &&& 0x0f }
  | .ansi, [] => none
  | _, _ => some { m with slc := m.sls }

/-- `mtp_dec_tfc`: for point codes of 24 bits it moves the wrong pointer. -/
def mtpDecTfc (m : MtpMsg) (octets : Octets) : Option MtpMsg :=
  match p.variant.wide, octets with
  | true, b0 :: b1 :: b2 :: b3 :: _ =>
      some { m with
        dest := b0.toNat ||| b1.toNat <<< 8 ||| b2.toNat <<< 16
        arg := b3.toNat &&& 0x3
        moved := 4 }
  | true, _ => none
  | false, b0 :: b1 :: _ =>
      some { m with
        dest := b0.toNat ||| (b1.toNat &&& 0x3f) <<< 8
        arg := b1.toNat >>> 6 }
  | false, _ => none

def mtpDecTfm (m : MtpMsg) (octets : Octets) : Option MtpMsg :=
  match p.variant.wide, octets with
  | true, b0 :: b1 :: b2 :: _ =>
      some { m with dest := b0.toNat ||| b1.toNat <<< 8 ||| b2.toNat <<< 16 }
  | true, _ => none
  | false, b0 :: b1 :: _ =>
      some { m with dest := b0.toNat ||| (b1.toNat &&& 0x3f) <<< 8 }
  | false, _ => none

def mtpDecDlc (m : MtpMsg) (octets : Octets) : Option MtpMsg :=
  match p.variant, octets with
  | .ansi, b0 :: b1 :: b2 :: _ =>
      some { m with
        slc := b0.toNat &&& 0x0f
        arg := b0.toNat >>> 4 ||| b1.toNat <<< 4 |||
          (b2.toNat &&& 0x03) <<< 12 }
  | .ansi, _ => none
  | _, b0 :: b1 :: _ =>
      some { m with
        slc := m.sls
        arg := b0.toNat ||| (b1.toNat &&& 0x0f) <<< 8 }
  | _, _ => none

/-- `mtp_dec_upm`: in the default branch the shift binds closer than the
mask. -/
def mtpDecUpm (m : MtpMsg) (octets : Octets) : Option MtpMsg :=
  match p.variant, octets with
  | .ansi, b0 :: b1 :: b2 :: b3 :: _ =>
      some { m with
        dest := b0.toNat ||| b1.toNat <<< 8 ||| b2.toNat <<< 16
        arg := b3.toNat &&& 0x0f }
  | .ansi, _ => none
  | _, b0 :: b1 :: b2 :: _ =>
      some { m with
        dest := b0.toNat ||| b1.toNat &&& 0x3f <<< 8
        arg := b2.toNat &&& 0x0f }
  | _, _ => none

def mtpDecSltm (m : MtpMsg) (octets : Octets) : Option MtpMsg :=
  match octets with
  | [] => none
  | b0 :: rest =>
      let dlen := b0.toNat >>> 4
      if p.variant = .ansi then
        if rest.length < dlen then none
        else some { m with slc := b0.toNat &&& 0x0f, data := rest.take dlen }
      else if m.si = 2 ∨ rest.length < dlen then none
      else some { m with slc := m.sls, data := rest.take dlen }

def mtpDecUser (m : MtpMsg) (octets : Octets) : Option MtpMsg :=
  some { m with data := octets }

def mtpDecSio (bp : Block) (m : MtpMsg) : Option (MtpMsg × Octets) :=
  match bp.octets with
  | [] => none
  | b0 :: rest =>
      let mp := match p.variant with
        | .jttc => bp.before.toNat >>> 6
        | .ansi => b0.toNat >>> 4 &&& 0x3
        | _ => if p.mplev = true then b0.toNat >>> 4 &&& 0x3 else 0
      some ({ m with
        si := b0.toNat &&& 0x0f
        mp := mp
        ni := b0.toNat >>> 6 &&& 0x3 }, rest)

/-- `mtp_dec_rl`: for point codes of 14 bits it reads `b_rptr[2]` twice and
takes nothing of the originating point code from `b_rptr[3]`. -/
def mtpDecRl (m : MtpMsg) (octets : Octets) : Option (MtpMsg × Octets) :=
  match p.variant.wide, octets with
  | true, b0 :: b1 :: b2 :: b3 :: b4 :: b5 :: b6 :: rest =>
      some ({ m with
        dpc := b0.toNat ||| b1.toNat <<< 8 ||| b2.toNat <<< 16
        opc := b3.toNat ||| b4.toNat <<< 8 ||| b5.toNat <<< 16
        sls := if p.year = .y00 then b6.toNat &&& 0xff
          else b6.toNat &&& 0x1f }, rest)
  | true, _ => none
  | false, b0 :: b1 :: b2 :: b3 :: rest =>
      some ({ m with
        dpc := b0.toNat ||| (b1.toNat &&& 0x3f) <<< 8
        opc := b1.toNat >>> 6 ||| b2.toNat <<< 2 |||
          (b2.toNat &&& 0x0f) <<< 10
        sls := b3.toNat >>> 4 &&& 0x0f }, rest)
  | false, _ => none

def mtpDecSif (m : MtpMsg) (octets : Octets) : Option MtpMsg :=
  match m.si with
  | 0 =>
      match octets with
      | [] => none
      | b0 :: rest =>
          let m := { m with h0 := b0.toNat &&& 0x0f, h1 := b0.toNat >>> 4 }
          match (b0 <<< 4 ||| b0 >>> 4).toNat with
          | 0x11 | 0x12 => mtpDecCom p m rest
          | 0x15 | 0x16 => mtpDecCbm p m rest
          | 0x71 | 0x72 | 0x31 => some m
          | 0x32 => mtpDecTfc p m rest
          | 0x41 | 0x42 | 0x43 | 0x44 | 0x45 | 0x46
          | 0x51 | 0x52 | 0x53 | 0x54 => mtpDecTfm p m rest
          | 0x81 => mtpDecDlc p m rest
          | 0x82 | 0x83 | 0x84 | 0x21 | 0x22
          | 0x61 | 0x62 | 0x63 | 0x64 | 0x65 | 0x66 | 0x67 | 0x68 =>
              mtpDecSlm p m rest
          | 0xa1 | 0xa2 | 0xa3 => mtpDecUpm p m rest
          | _ => none
  | 1 | 2 =>
      match octets with
      | [] => none
      | b0 :: rest =>
          let m := { m with h0 := b0.toNat &&& 0x0f, h1 := b0.toNat >>> 4 }
          match (b0 <<< 4 ||| b0 >>> 4).toNat with
          | 0x11 | 0x12 => mtpDecSltm p m rest
          | _ => none
  | _ => mtpDecUser m octets

def mtpDecMsg (bp : Block) : Option MtpMsg := do
  let (m, octets) ← mtpDecSio p bp .zero
  let (m, octets) ← mtpDecRl p m octets
  mtpDecSif p m octets

end Decoding

end OpenSS7.Mtp3
