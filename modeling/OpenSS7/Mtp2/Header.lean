import OpenSS7.Mtp2.State
import OpenSS7.Sdt.Frame

/-!
Signal-unit headers: the octets written by the DAEDT functions and read by
`sl_rc_signal_unit`, in the basic and in the extended format.
-/

namespace OpenSS7.Mtp2

/-- `*(sl_ushort *) p = htons(v)` -/
def htons (v : Nat) : List UInt8 := [(v / 256).toUInt8, v.toUInt8]

def ntohs (octets : List UInt8) (i : Nat) : Nat :=
  (octets.getD i 0).toNat * 256 + (octets.getD (i + 1) 0).toNat

namespace Lssu

/-- `LSSU_SIO` to `LSSU_SIB`. -/
def code : Lssu → Nat
  | .sio => 0
  | .sin => 1
  | .sie => 2
  | .sios => 3
  | .sipo => 4
  | .sib => 5
  | .unassigned => 6

def ofCode : Nat → Lssu
  | 0 => .sio
  | 1 => .sin
  | 2 => .sie
  | 3 => .sios
  | 4 => .sipo
  | 5 => .sib
  | _ => .unassigned

theorem ofCode_code {status : Lssu} (assigned : status ≠ .unassigned) :
    ofCode (status.code.toUInt8.toNat &&& 0x07) = status := by
  cases status with
  | unassigned => exact absurd rfl assigned
  | _ => decide

end Lssu

structure Header where
  bsn : Nat
  bib : Nat
  fsn : Nat
  fib : Nat
deriving DecidableEq

def headerOctets (xsn : Bool) (h : Header) (li : Nat) : List UInt8 :=
  if xsn then
    htons (h.bsn ||| h.bib) ++ htons (h.fsn ||| h.fib) ++ htons li
  else
    [(h.bsn ||| h.bib).toUInt8, (h.fsn ||| h.fib).toUInt8, li.toUInt8]

/-- The octets of `sl_daedt_fisu`. -/
def slDaedtFisuOctets (xsn : Bool) (h : Header) : List UInt8 :=
  headerOctets xsn h 0

/-- The octets of `sl_daedt_lssu`. -/
def slDaedtLssuOctets (xsn : Bool) (h : Header) (status : Lssu) : List UInt8 :=
  headerOctets xsn h 1 ++ [status.code.toUInt8]

/-- The header octets that `sl_daedt_msu` writes over a message of `len`
octets in all. -/
def slDaedtMsuHeader (xsn : Bool) (h : Header) (len : Nat) : List UInt8 :=
  headerOctets xsn h
    (if xsn then (if len - 6 < 512 then len - 6 else 511)
      else (if len - 3 < 64 then len - 3 else 63))

/-- What `sl_rc_signal_unit` reads from the front of a signal unit, and how
far the read pointer has moved past the header. -/
structure Decoded where
  header : Header
  len : Nat
  rptr : Nat
deriving DecidableEq

def slRcDecode (xsn : Bool) (octets : List UInt8) : Decoded :=
  if xsn then
    -- each `++` steps over one octet of a two-octet field
    { header :=
        { bsn := ntohs octets 0 &&& 0x0fff
          bib := ntohs octets 0 &&& 0x8000
          fsn := ntohs octets 1 &&& 0x0fff
          fib := ntohs octets 1 &&& 0x8000 }
      len := ntohs octets 2 &&& 0x01ff
      rptr := 3 }
  else
    { header :=
        { bsn := (octets.getD 0 0).toNat &&& 0x7f
          bib := (octets.getD 0 0).toNat &&& 0x80
          fsn := (octets.getD 1 0).toNat &&& 0x7f
          fib := (octets.getD 1 0).toNat &&& 0x80 }
      len := (octets.getD 2 0).toNat &&& 0x3f
      rptr := 3 }

def slRcStatus (octets : List UInt8) (d : Decoded) : Lssu :=
  if d.len = 2 then
    Lssu.ofCode ((octets.getD (d.rptr + 1) 0).toNat &&& 0x07)
  else
    Lssu.ofCode ((octets.getD d.rptr 0).toNat &&& 0x07)

inductive SignalUnit where
  | fisu
  | lssu (status : Lssu)
  | msu (sdu : List UInt8)
deriving DecidableEq

namespace SignalUnit

def octets (xsn : Bool) (h : Header) : SignalUnit → List UInt8
  | .fisu => slDaedtFisuOctets xsn h
  | .lssu status => slDaedtLssuOctets xsn h status
  | .msu sdu =>
      slDaedtMsuHeader xsn h (Sdt.headerLength xsn + sdu.length) ++ sdu

def Legal (m : Nat) : SignalUnit → Prop
  | .fisu => True
  | .lssu status => status ≠ .unassigned
  | .msu sdu => 3 ≤ sdu.length ∧ sdu.length ≤ m + 1

def Classified (u : SignalUnit) (octets : List UInt8) (d : Decoded) : Prop :=
  match u with
  | .fisu => d.len = 0
  | .lssu status => (d.len = 1 ∨ d.len = 2) ∧ slRcStatus octets d = status
  | .msu _ => 2 < d.len

end SignalUnit

def Header.InRange (xsn : Bool) (h : Header) : Prop :=
  let snMask := if xsn then 0x7fff else 0x7f
  let ibMask := if xsn then 0x8000 else 0x80
  h.bsn ≤ snMask ∧ h.fsn ≤ snMask ∧ (h.bib = 0 ∨ h.bib = ibMask) ∧
    (h.fib = 0 ∨ h.fib = ibMask)

def HeaderAgrees (xsn : Bool) (m : Nat) (h : Header) (u : SignalUnit) :
    Prop :=
  let octets := u.octets xsn h
  let d := slRcDecode xsn octets
  Sdt.lengthOk xsn m octets = true ∧ d.header = h ∧ u.Classified octets d ∧
    d.rptr = Sdt.headerLength xsn

theorem field_roundTrip {sn ib : Nat} (hsn : sn ≤ 0x7f)
    (hib : ib = 0 ∨ ib = 0x80) :
    ((sn ||| ib).toUInt8).toNat &&& 0x7f = sn ∧
      ((sn ||| ib).toUInt8).toNat &&& 0x80 = ib := by
  have every : ∀ sn < 128, ∀ ib ∈ [0, 0x80],
      ((sn ||| ib).toUInt8).toNat &&& 0x7f = sn ∧
        ((sn ||| ib).toUInt8).toNat &&& 0x80 = ib := by
    decide +kernel
  exact every sn (by omega) ib (by simpa using hib)

theorem length_roundTrip {li : Nat} (short : li ≤ 0x3f) :
    li.toUInt8.toNat &&& 0x3f = li := by
  have every : ∀ li < 64, li.toUInt8.toNat &&& 0x3f = li := by
    decide +kernel
  exact every li (by omega)

theorem headerOctets_basic (h : Header) (li : Nat) :
    headerOctets false h li =
      [(h.bsn ||| h.bib).toUInt8, (h.fsn ||| h.fib).toUInt8, li.toUInt8] :=
  rfl

theorem slRcDecode_basic {h : Header} (range : h.InRange false) {li : Nat}
    (short : li ≤ 0x3f) (rest : List UInt8) :
    slRcDecode false (headerOctets false h li ++ rest) =
      { header := h, len := li, rptr := 3 } := by
  obtain ⟨hbsn, hfsn, hbib, hfib⟩ := range
  have back := field_roundTrip hbsn hbib
  have forw := field_roundTrip hfsn hfib
  simp only [slRcDecode, headerOctets_basic, List.cons_append,
    List.nil_append, List.getD_cons_zero, List.getD_cons_succ, back.1, back.2,
    forw.1, forw.2, length_roundTrip short, Bool.false_eq_true, if_false]

theorem lengthOk_basic {h : Header} {m li : Nat} (rest : List UInt8)
    (short : li ≤ 0x3f) (fits : rest.length ≤ m + 1)
    (counts : li = rest.length ∨ li = 0x3f ∧ 0x3f ≤ rest.length) :
    Sdt.lengthOk false m (headerOctets false h li ++ rest) = true := by
  have indicator : Sdt.lengthIndicator false
      (headerOctets false h li ++ rest) = li + 3 := by
    simp only [Sdt.lengthIndicator, headerOctets_basic, List.cons_append,
      List.nil_append, List.getD_cons_zero, List.getD_cons_succ,
      length_roundTrip short, Bool.false_eq_true, if_false]
  have total : (headerOctets false h li ++ rest).length = rest.length + 3 := by
    simp [headerOctets_basic]
  simp only [Sdt.lengthOk, Sdt.lengthError, indicator, total,
    Sdt.frameTooLong, Sdt.frameTooShort, Sdt.headerLength,
    Bool.false_eq_true, if_false, Bool.and_eq_true, Bool.not_eq_true',
    decide_eq_false_iff_not]
  omega

theorem headerAgrees_basic {m : Nat} {h : Header} (range : h.InRange false)
    {u : SignalUnit} (legal : u.Legal m) : HeaderAgrees false m h u := by
  cases u with
  | fisu =>
      have decoded := slRcDecode_basic range (Nat.zero_le _) []
      have checked := lengthOk_basic (h := h) (m := m) [] (Nat.zero_le _)
        (by simp) (Or.inl rfl)
      rw [List.append_nil] at decoded checked
      refine ⟨checked, ?_, ?_, ?_⟩
      · exact congrArg Decoded.header decoded
      · exact congrArg Decoded.len decoded
      · exact congrArg Decoded.rptr decoded
  | lssu status =>
      have decoded := slRcDecode_basic range (by decide : 1 ≤ 0x3f)
        [status.code.toUInt8]
      refine ⟨?_, ?_, ⟨Or.inl ?_, ?_⟩, ?_⟩
      · exact lengthOk_basic _ (by omega) (by simp) (Or.inl rfl)
      · exact congrArg Decoded.header decoded
      · exact congrArg Decoded.len decoded
      · show slRcStatus (headerOctets false h 1 ++ [status.code.toUInt8])
            (slRcDecode false (headerOctets false h 1 ++ _)) = status
        rw [decoded, headerOctets_basic]
        exact Lssu.ofCode_code legal
      · exact congrArg Decoded.rptr decoded
  | msu sdu =>
      obtain ⟨long, fits⟩ := legal
      set li := if sdu.length < 64 then sdu.length else 63 with hli
      have header : slDaedtMsuHeader false h
          (Sdt.headerLength false + sdu.length) = headerOctets false h li := by
        simp [slDaedtMsuHeader, Sdt.headerLength, hli]
      have short : li ≤ 0x3f := by
        rw [hli]
        split <;> omega
      have counts : li = sdu.length ∨ li = 0x3f ∧ 0x3f ≤ sdu.length := by
        rw [hli]
        split <;> omega
      have decoded := slRcDecode_basic range short sdu
      simp only [HeaderAgrees, SignalUnit.octets, header]
      refine ⟨lengthOk_basic sdu short fits counts, ?_, ?_, ?_⟩
      · rw [decoded]
      · simp only [SignalUnit.Classified, decoded]
        omega
      · rw [decoded]
        rfl

/-- The header agreement holds in the basic format, and there always. -/
theorem header_agreement (xsn : Bool) (m : Nat) (h : Header)
    (range : h.InRange xsn) (u : SignalUnit) (legal : u.Legal m) :
    HeaderAgrees xsn m h u ↔ xsn = false := by
  constructor
  · intro agrees
    cases xsn with
    | false => rfl
    | true =>
        -- the three one-octet steps leave the pointer inside the header
        have rptr := agrees.2.2.2
        simp [slRcDecode, Sdt.headerLength] at rptr
  · rintro rfl
    exact headerAgrees_basic range legal

theorem header_agreement_basic :
    HeaderAgrees false 272 ⟨5, 0x80, 9, 0⟩ (.msu [1, 2, 3, 4]) ↔
      false = false :=
  header_agreement false 272 ⟨5, 0x80, 9, 0⟩ (by simp [Header.InRange])
    (.msu [1, 2, 3, 4]) (by simp [SignalUnit.Legal])

theorem header_agreement_extended_fails :
    Header.InRange true ⟨0x7fff, 0x8000, 0x7fff, 0x8000⟩ ∧
      SignalUnit.Legal 272 (.lssu .sio) ∧
      ¬ HeaderAgrees true 272 ⟨0x7fff, 0x8000, 0x7fff, 0x8000⟩ (.lssu .sio) ∧
      Sdt.lengthOk true 272
        (SignalUnit.octets true ⟨0x7fff, 0x8000, 0x7fff, 0x8000⟩ (.lssu .sio)) =
          false ∧
      (slRcDecode true
        (SignalUnit.octets true ⟨0x7fff, 0x8000, 0x7fff, 0x8000⟩ (.lssu .sio))).len =
          0x1ff := by
  refine ⟨by simp [Header.InRange], by simp [SignalUnit.Legal], ?_, by decide,
    by decide⟩
  intro agrees
  have rptr := agrees.2.2.2
  simp [slRcDecode, Sdt.headerLength] at rptr

end OpenSS7.Mtp2
