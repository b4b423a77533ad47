import OpenSS7.Mtp3.Decoding

/-!
The decoders that read a message where it is do what its octets decode to, and
read no octet outside of it.
-/

namespace OpenSS7.Mtp3

open Cursor
structure MtpMsg.Fresh (m : MtpMsg) : Prop where
  data : m.data = []
  moved : m.moved = 0

namespace Pointers
open Reader

def Open (p : Protocol) (start w : Int) (a : Int) : Prop :=
  start ≤ a ∧ a < w ∨ p.variant = .jttc ∧ a = start - 1

/-- The octets decode to `d`, whose data are in the message, and the write
pointer has moved as the decoded message says. -/
def Returns (p : Protocol) (memory : Int → UInt8) (start w : Int)
    (value : Option MtpMsg) (d : Decoded) (c : Cursor) : Prop :=
  ∃ (r' : Int) (moved : Nat), value = some { d.view memory with moved } ∧
    (0 < d.dlen → start ≤ d.data ∧ d.data + d.dlen ≤ w) ∧
    At memory (Open p start w) (w + moved) r' c

def Fails (p : Protocol) (memory : Int → UInt8) (start w : Int)
    (value : Option MtpMsg) (c : Cursor) : Prop :=
  value = none ∧ ∃ r', At memory (Open p start w) w r' c

/-- From `r` the decoder does what the octets decode to. -/
def Agrees {α : Type} (p : Protocol) (memory : Int → UInt8) (start w r : Int)
    (decoder : Decoder α) (decoded : α → Decoded) (value : Option MtpMsg) :
    Prop :=
  Program.Triple (At memory (Open p start w) w r) decoder
    (fun a c => Returns p memory start w value (decoded a) c)
    (fun c => Fails p memory start w value c)

def plain (m : MtpMsg) : Decoded := ⟨m, 0, 0⟩

section Parameters

variable {p : Protocol} {memory : Int → UInt8} {start w r : Int}
  {m : MtpMsg}

theorem Open.here {i : Int} (begun : start ≤ r) (after : 0 ≤ i)
    (before : r + i < w) : Open p start w (r + i) :=
  .inl ⟨by omega, before⟩

theorem view_plain : (plain m).view memory = { m with data := [] } := by
  have empty : octets memory 0 (0 + ((0 : Nat) : Int)) = [] :=
    octets_nil (by omega)
  rw [Decoded.view, plain, empty]

theorem returned {value : Option MtpMsg} {moved : Nat}
    (decoded : value = some { m with data := [], moved }) :
    Program.Triple (At memory (Open p start w) (w + moved) r)
      (pure m : Decoder MtpMsg)
      (fun a c => Returns p memory start w value (plain a) c)
      (fun c => Fails p memory start w value c) := by
  refine Program.triple_pure fun c held => ⟨r, moved, ?_, ?_, held⟩
  · rw [view_plain]
    exact decoded
  · exact fun some => absurd some (lt_irrefl 0)

theorem returned_still {value : Option MtpMsg}
    (decoded : value = some { m with data := [], moved := 0 }) :
    Program.Triple (At memory (Open p start w) w r)
      (pure m : Decoder MtpMsg)
      (fun a c => Returns p memory start w value (plain a) c)
      (fun c => Fails p memory start w value c) := by
  have still := @returned p memory start w r m value 0 decoded
  simpa using still

theorem one_agrees {decode : Octets → Option MtpMsg}
    {f : UInt8 → MtpMsg} (begun : start ≤ r)
    (short : ∀ octets, octets.length < 1 → decode octets = none)
    (long : ∀ b0 rest, decode (b0 :: rest) =
      some { f b0 with data := [], moved := 0 }) :
    Agrees p memory start w r (do
      need 1 .eproto
      let b0 ← peek 0
      skip 1
      return f b0) plain (decode (octets memory r w)) := by
  refine need_bind (fun lacks c held => ⟨short _ ?_, r, held⟩) fun room => ?_
  · rw [length_octets]
    omega
  · refine peek_bind (.here begun (by omega) (by omega)) ?_
    refine skip_bind (returned_still ?_)
    rw [octets_cons (by omega), long]
    simp only [add_zero]

theorem two_agrees {decode : Octets → Option MtpMsg}
    {f : UInt8 → UInt8 → MtpMsg} (begun : start ≤ r)
    (short : ∀ octets, octets.length < 2 → decode octets = none)
    (long : ∀ b0 b1 rest, decode (b0 :: b1 :: rest) =
      some { f b0 b1 with data := [], moved := 0 }) :
    Agrees p memory start w r (do
      need 2 .eproto
      let b0 ← peek 0
      let b1 ← peek 1
      skip 2
      return f b0 b1) plain (decode (octets memory r w)) := by
  refine need_bind (fun lacks c held => ⟨short _ ?_, r, held⟩) fun room => ?_
  · rw [length_octets]
    omega
  · refine peek_bind (.here begun (by omega) (by omega)) ?_
    refine peek_bind (.here begun (by omega) (by omega)) ?_
    refine skip_bind (returned_still ?_)
    rw [octets_two room, long]
    simp only [add_zero]

theorem three_agrees {decode : Octets → Option MtpMsg}
    {f : UInt8 → UInt8 → UInt8 → MtpMsg} (begun : start ≤ r)
    (short : ∀ octets, octets.length < 3 → decode octets = none)
    (long : ∀ b0 b1 b2 rest, decode (b0 :: b1 :: b2 :: rest) =
      some { f b0 b1 b2 with data := [], moved := 0 }) :
    Agrees p memory start w r (do
      need 3 .eproto
      let b0 ← peek 0
      let b1 ← peek 1
      let b2 ← peek 2
      skip 3
      return f b0 b1 b2) plain (decode (octets memory r w)) := by
  refine need_bind (fun lacks c held => ⟨short _ ?_, r, held⟩) fun room => ?_
  · rw [length_octets]
    omega
  · refine peek_bind (.here begun (by omega) (by omega)) ?_
    refine peek_bind (.here begun (by omega) (by omega)) ?_
    refine peek_bind (.here begun (by omega) (by omega)) ?_
    refine skip_bind (returned_still ?_)
    rw [octets_three room, long]
    simp only [add_zero]

theorem four_agrees {decode : Octets → Option MtpMsg}
    {f : UInt8 → UInt8 → UInt8 → UInt8 → MtpMsg} (begun : start ≤ r)
    (short : ∀ octets, octets.length < 4 → decode octets = none)
    (long : ∀ b0 b1 b2 b3 rest, decode (b0 :: b1 :: b2 :: b3 :: rest) =
      some { f b0 b1 b2 b3 with data := [], moved := 0 }) :
    Agrees p memory start w r (do
      need 4 .eproto
      let b0 ← peek 0
      let b1 ← peek 1
      let b2 ← peek 2
      let b3 ← peek 3
      skip 4
      return f b0 b1 b2 b3) plain (decode (octets memory r w)) := by
  refine need_bind (fun lacks c held => ⟨short _ ?_, r, held⟩) fun room => ?_
  · rw [length_octets]
    omega
  · refine peek_bind (.here begun (by omega) (by omega)) ?_
    refine peek_bind (.here begun (by omega) (by omega)) ?_
    refine peek_bind (.here begun (by omega) (by omega)) ?_
    refine peek_bind (.here begun (by omega) (by omega)) ?_
    refine skip_bind (returned_still ?_)
    rw [octets_four room, long]
    simp only [add_zero]

theorem com_agrees (begun : start ≤ r) (fresh : m.Fresh) :
    Agrees p memory start w r (mtpDecCom p m) plain
      (OpenSS7.Mtp3.mtpDecCom p m (octets memory r w)) := by
  obtain ⟨empty, still⟩ := fresh
  unfold mtpDecCom
  refine Program.triple_ite
    (fun ansi => two_agrees begun (fun octets short => ?_) fun b0 b1 rest => ?_)
    fun other => one_agrees begun (fun octets short => ?_) fun b0 rest => ?_
  · unfold OpenSS7.Mtp3.mtpDecCom
    split <;> simp_all <;> omega
  · simp [OpenSS7.Mtp3.mtpDecCom, ansi, empty, still]
  · unfold OpenSS7.Mtp3.mtpDecCom
    split <;> simp_all
  · unfold OpenSS7.Mtp3.mtpDecCom
    split <;> simp_all

theorem cbm_agrees (begun : start ≤ r) (fresh : m.Fresh) :
    Agrees p memory start w r (mtpDecCbm p m) plain
      (OpenSS7.Mtp3.mtpDecCbm p m (octets memory r w)) := by
  obtain ⟨empty, still⟩ := fresh
  unfold mtpDecCbm
  refine Program.triple_ite
    (fun ansi => two_agrees begun (fun octets short => ?_) fun b0 b1 rest => ?_)
    fun other => one_agrees begun (fun octets short => ?_) fun b0 rest => ?_
  · unfold OpenSS7.Mtp3.mtpDecCbm
    split <;> simp_all <;> omega
  · simp [OpenSS7.Mtp3.mtpDecCbm, ansi, empty, still]
  · unfold OpenSS7.Mtp3.mtpDecCbm
    split <;> simp_all
  · unfold OpenSS7.Mtp3.mtpDecCbm
    split <;> simp_all

theorem tfm_agrees (begun : start ≤ r) (fresh : m.Fresh) :
    Agrees p memory start w r (mtpDecTfm p m) plain
      (OpenSS7.Mtp3.mtpDecTfm p m (octets memory r w)) := by
  obtain ⟨empty, still⟩ := fresh
  unfold mtpDecTfm
  refine Program.triple_ite
    (fun wide => three_agrees begun (fun octets short => ?_)
      fun b0 b1 b2 rest => ?_)
    fun other => two_agrees begun (fun octets short => ?_) fun b0 b1 rest => ?_
  · unfold OpenSS7.Mtp3.mtpDecTfm
    split <;> simp_all <;> omega
  · simp [OpenSS7.Mtp3.mtpDecTfm, wide, empty, still]
  · unfold OpenSS7.Mtp3.mtpDecTfm
    split <;> simp_all <;> omega
  · unfold OpenSS7.Mtp3.mtpDecTfm
    split <;> simp_all

theorem dlc_agrees (begun : start ≤ r) (fresh : m.Fresh) :
    Agrees p memory start w r (mtpDecDlc p m) plain
      (OpenSS7.Mtp3.mtpDecDlc p m (octets memory r w)) := by
  obtain ⟨empty, still⟩ := fresh
  unfold mtpDecDlc
  refine Program.triple_ite
    (fun ansi => three_agrees begun (fun octets short => ?_)
      fun b0 b1 b2 rest => ?_)
    fun other => two_agrees begun (fun octets short => ?_) fun b0 b1 rest => ?_
  · unfold OpenSS7.Mtp3.mtpDecDlc
    split <;> simp_all <;> omega
  · simp [OpenSS7.Mtp3.mtpDecDlc, ansi, empty, still]
  · unfold OpenSS7.Mtp3.mtpDecDlc
    split <;> simp_all <;> omega
  · unfold OpenSS7.Mtp3.mtpDecDlc
    split <;> simp_all

theorem upm_agrees (begun : start ≤ r) (fresh : m.Fresh) :
    Agrees p memory start w r (mtpDecUpm p m) plain
      (OpenSS7.Mtp3.mtpDecUpm p m (octets memory r w)) := by
  obtain ⟨empty, still⟩ := fresh
  unfold mtpDecUpm
  refine Program.triple_ite
    (fun ansi => four_agrees begun (fun octets short => ?_)
      fun b0 b1 b2 b3 rest => ?_)
    fun other => three_agrees begun (fun octets short => ?_)
      fun b0 b1 b2 rest => ?_
  · unfold OpenSS7.Mtp3.mtpDecUpm
    split <;> simp_all <;> omega
  · simp [OpenSS7.Mtp3.mtpDecUpm, ansi, empty, still]
  · unfold OpenSS7.Mtp3.mtpDecUpm
    split <;> simp_all <;> omega
  · cases variant : p.variant <;>
      simp_all [OpenSS7.Mtp3.mtpDecUpm]

theorem slm_agrees (begun : start ≤ r) (fresh : m.Fresh) :
    Agrees p memory start w r (mtpDecSlm p m) plain
      (OpenSS7.Mtp3.mtpDecSlm p m (octets memory r w)) := by
  obtain ⟨empty, still⟩ := fresh
  unfold mtpDecSlm
  refine Program.triple_ite
    (fun ansi => one_agrees begun (fun octets short => ?_) fun b0 rest => ?_)
    fun other => returned_still ?_
  · unfold OpenSS7.Mtp3.mtpDecSlm
    split <;> simp_all
  · simp [OpenSS7.Mtp3.mtpDecSlm, ansi, empty, still]
  · unfold OpenSS7.Mtp3.mtpDecSlm
    split <;> simp_all

theorem tfc_agrees (begun : start ≤ r) (fresh : m.Fresh) :
    Agrees p memory start w r (mtpDecTfc p m) plain
      (OpenSS7.Mtp3.mtpDecTfc p m (octets memory r w)) := by
  have length := @length_octets memory r w
  obtain ⟨empty, still⟩ := fresh
  unfold mtpDecTfc
  refine Program.triple_ite (fun wide => ?_) fun other =>
    two_agrees begun (fun octets short => ?_) fun b0 b1 rest => ?_
  · refine need_bind (fun short c held => ⟨?_, r, held⟩) fun room => ?_
    · unfold OpenSS7.Mtp3.mtpDecTfc
      split <;> simp_all <;> omega
    · refine peek_bind (.here begun (by omega) (by omega)) ?_
      refine peek_bind (.here begun (by omega) (by omega)) ?_
      refine peek_bind (.here begun (by omega) (by omega)) ?_
      refine peek_bind (.here begun (by omega) (by omega)) ?_
      refine extend_bind (@returned _ _ _ _ _ _ _ 4 ?_)
      rw [octets_four room]
      simp [OpenSS7.Mtp3.mtpDecTfc, wide, empty]
  · unfold OpenSS7.Mtp3.mtpDecTfc
    split <;> simp_all <;> omega
  · unfold OpenSS7.Mtp3.mtpDecTfc
    split <;> simp_all

theorem data_agrees (value : Octets → Option MtpMsg) {dlen : Nat}
    {m' : MtpMsg} (begun : start ≤ r) (left : r ≤ w)
    (short : ∀ octets, octets.length < dlen → value octets = none)
    (long : ∀ octets, dlen ≤ octets.length →
      value octets = some { m' with data := octets.take dlen, moved := 0 }) :
    Agrees p memory start w r (do
      let data ← here
      need dlen .eproto
      return ⟨m', data, dlen⟩) id (value (octets memory r w)) := by
  refine Program.triple_bind (R := fun a c => a = r ∧
    At memory (Open p start w) w r c) ?_ fun data => ?_
  · intro c held
    exact ⟨held.rptr, held⟩
  · intro c holds
    obtain ⟨rfl, held⟩ := holds
    revert c
    refine need_bind (fun lacks c held => ⟨short _ ?_, data, held⟩)
      fun room => ?_
    · rw [length_octets]
      omega
    · refine Program.triple_pure fun c held =>
        ⟨data, 0, ?_, ?_, by simpa using held⟩
      · rw [long _ (by rw [length_octets]; omega), octets_take room]
        rfl
      · intro some
        exact ⟨begun, room⟩

theorem sltm_agrees (begun : start ≤ r) (fresh : m.Fresh) :
    Agrees p memory start w r (mtpDecSltm p m) id
      (OpenSS7.Mtp3.mtpDecSltm p m (octets memory r w)) := by
  obtain ⟨empty, still⟩ := fresh
  have nothing : w < r + 1 → octets memory r w = [] :=
    fun lacks => octets_nil (by omega)
  unfold mtpDecSltm
  refine Program.triple_ite (fun ansi => ?_) fun other => ?_
  · refine need_bind (fun lacks c held => ⟨?_, r, held⟩) fun room => ?_
    · rw [nothing lacks]
      rfl
    · refine peek_bind (.here begun (by omega) (by omega)) (skip_bind ?_)
      rw [octets_cons (by omega), add_zero]
      refine data_agrees (fun rest => OpenSS7.Mtp3.mtpDecSltm p m
        (memory r :: rest)) (by omega) room (fun rest short => ?_)
        fun rest long => ?_
      · simp [OpenSS7.Mtp3.mtpDecSltm, ansi, short]
      · simp [OpenSS7.Mtp3.mtpDecSltm, ansi, not_lt.2 long, still]
  · refine Program.triple_ite (fun special => ?_) fun regular => ?_
    · refine Program.triple_throw fun c held => ⟨?_, r, held⟩
      unfold OpenSS7.Mtp3.mtpDecSltm
      split <;> simp [other, special]
    · refine need_bind (fun lacks c held => ⟨?_, r, held⟩) fun room => ?_
      · rw [nothing lacks]
        rfl
      · refine peek_bind (.here begun (by omega) (by omega)) (skip_bind ?_)
        rw [octets_cons (by omega), add_zero]
        refine data_agrees (fun rest => OpenSS7.Mtp3.mtpDecSltm p m
          (memory r :: rest)) (by omega) room (fun rest short => ?_)
          fun rest long => ?_
        · simp [OpenSS7.Mtp3.mtpDecSltm, other, short]
        · simp [OpenSS7.Mtp3.mtpDecSltm, other, regular, not_lt.2 long, still]

theorem user_agrees (begun : start ≤ r) (left : r ≤ w) (fresh : m.Fresh) :
    Agrees p memory start w r (mtpDecUser m) id
      (OpenSS7.Mtp3.mtpDecUser m (octets memory r w)) := by
  unfold mtpDecUser
  refine need_bind (fun lacks c held => absurd left (by omega)) fun room => ?_
  refine Program.triple_get_bind fun c held =>
    Program.triple_pure fun c' same => ?_
  subst same
  have whole : r + ((w - r).toNat : Int) = w := by omega
  refine ⟨r, 0, ?_, fun some => ?_, by simpa using held⟩
  · simp only [OpenSS7.Mtp3.mtpDecUser, Decoded.view, id, held.rptr,
      held.wptr, whole, fresh.moved]
  · simp only [id, held.rptr, held.wptr]
    omega

theorem bare_agrees {decoder : Decoder MtpMsg} {value : Option MtpMsg}
    (agrees : Agrees p memory start w r decoder plain value) :
    Agrees p memory start w r (bare decoder) id value :=
  Program.triple_bind agrees fun _ => Program.triple_pure fun _ returns =>
    returns

theorem heading_bind {f : UInt8 → Decoder Decoded} {value : Option MtpMsg}
    (begun : start ≤ r) (short : octets memory r w = [] → value = none)
    (rest : r + 1 ≤ w →
      octets memory r w = memory r :: octets memory (r + 1) w →
      Agrees p memory start w (r + 1) (f (memory r)) id value) :
    Agrees p memory start w r (do
      need 1 .eproto
      let b0 ← peek 0
      skip 1
      f b0) id value := by
  refine need_bind (fun lacks c held => ⟨short ?_, r, held⟩) fun room => ?_
  · exact octets_nil (by omega)
  · refine peek_bind (.here begun (by omega) (by omega)) (skip_bind ?_)
    rw [add_zero]
    exact rest room (octets_cons (by omega))

theorem sif_agrees (begun : start ≤ r) (left : r ≤ w) (fresh : m.Fresh) :
    Agrees p memory start w r (mtpDecSif p m) id
      (OpenSS7.Mtp3.mtpDecSif p m (octets memory r w)) := by
  have begun' : start ≤ r + 1 := by omega
  obtain ⟨mp, ni, si, opc, dpc, sls, h0, h1, slc, dest, arg, data, moved⟩ := m
  obtain ⟨rfl, rfl⟩ : data = [] ∧ moved = 0 := ⟨fresh.data, fresh.moved⟩
  unfold mtpDecSif OpenSS7.Mtp3.mtpDecSif
  dsimp only
  split
  · refine heading_bind begun (fun empty => ?_) fun room cons => ?_
    · rw [empty] <;> rfl
    · rw [cons]
      dsimp only
      generalize (memory r <<< 4 ||| memory r >>> 4).toNat = tag
      generalize (memory r).toNat &&& 0x0f = h0'
      generalize (memory r).toNat >>> 4 = h1'
      have fresh' : (MtpMsg.mk mp ni 0 opc dpc sls h0' h1' slc dest arg
        [] 0).Fresh := ⟨rfl, rfl⟩
      have com : Agrees p memory start w (r + 1) (bare (mtpDecCom p _)) id _ :=
        bare_agrees (com_agrees begun' fresh')
      have cbm : Agrees p memory start w (r + 1) (bare (mtpDecCbm p _)) id _ :=
        bare_agrees (cbm_agrees begun' fresh')
      have tfc : Agrees p memory start w (r + 1) (bare (mtpDecTfc p _)) id _ :=
        bare_agrees (tfc_agrees begun' fresh')
      have tfm : Agrees p memory start w (r + 1) (bare (mtpDecTfm p _)) id _ :=
        bare_agrees (tfm_agrees begun' fresh')
      have dlc : Agrees p memory start w (r + 1) (bare (mtpDecDlc p _)) id _ :=
        bare_agrees (dlc_agrees begun' fresh')
      have slm : Agrees p memory start w (r + 1) (bare (mtpDecSlm p _)) id _ :=
        bare_agrees (slm_agrees begun' fresh')
      have upm : Agrees p memory start w (r + 1) (bare (mtpDecUpm p _)) id _ :=
        bare_agrees (upm_agrees begun' fresh')
      split
      iterate 2 next => exact com
      iterate 2 next => exact cbm
      iterate 3 next => exact returned_still rfl
      next => exact tfc
      iterate 10 next => exact tfm
      next => exact dlc
      iterate 13 next => exact slm
      iterate 3 next => exact upm
      exact Program.triple_throw fun c held => ⟨by simp_all, r + 1, held⟩
  iterate 2
    next =>
      refine heading_bind begun (fun empty => ?_) fun room cons => ?_
      · rw [empty] <;> rfl
      · rw [cons]
        dsimp only
        generalize (memory r <<< 4 ||| memory r >>> 4).toNat = tag
        split
        · exact sltm_agrees begun' ⟨rfl, rfl⟩
        · exact sltm_agrees begun' ⟨rfl, rfl⟩
        · exact Program.triple_throw fun c held => ⟨by simp_all, r + 1, held⟩
  · have agrees := @user_agrees p memory start w r _ begun left fresh
    simp_all

/-- The message has been decoded up to `c`'s read pointer. -/
def Proceeds (p : Protocol) (memory : Int → UInt8) (start w : Int)
    (value : Option (MtpMsg × Octets)) (m : MtpMsg) (c : Cursor) : Prop :=
  m.Fresh ∧ ∃ r', value = some (m, octets memory r' w) ∧ start ≤ r' ∧
    r' ≤ w ∧ At memory (Open p start w) w r' c

theorem sio_proceeds (fresh : m.Fresh) :
    Program.Triple (At memory (Open p start w) w start) (mtpDecSio p m)
      (fun a c => Proceeds p memory start w (OpenSS7.Mtp3.mtpDecSio p
        ⟨memory (start - 1), octets memory start w⟩ m) a c)
      (fun c => OpenSS7.Mtp3.mtpDecSio p
        ⟨memory (start - 1), octets memory start w⟩ m = none ∧
        At memory (Open p start w) w start c) := by
  unfold mtpDecSio
  refine need_bind (fun lacks c held => ⟨?_, held⟩) fun room => ?_
  · rw [octets_nil (by omega)]
    rfl
  · refine peek_bind (.here le_rfl (by omega) (by omega)) ?_
    rw [octets_cons (by omega)]
    have rest (mp : Nat) (read : OpenSS7.Mtp3.mtpDecSio p
        ⟨memory (start - 1), memory start :: octets memory (start + 1) w⟩ m =
        some ({ m with
          si := (memory start).toNat &&& 0x0f
          mp := mp
          ni := (memory start).toNat >>> 6 &&& 0x3 },
          octets memory (start + 1) w)) :
        Program.Triple (At memory (Open p start w) w start)
          (do
            skip 1
            return { m with
              si := (memory (start + 0)).toNat &&& 0x0f
              mp := mp
              ni := (memory (start + 0)).toNat >>> 6 &&& 0x3 } :
            Decoder MtpMsg)
          (fun a c => Proceeds p memory start w (OpenSS7.Mtp3.mtpDecSio p
            ⟨memory (start - 1), memory start :: octets memory (start + 1) w⟩
            m) a c)
          (fun c => OpenSS7.Mtp3.mtpDecSio p
            ⟨memory (start - 1), memory start :: octets memory (start + 1) w⟩
            m = none ∧ At memory (Open p start w) w start c) := by
      refine skip_bind (Program.triple_pure fun c held => ⟨?_, start + 1,
        ?_, by omega, room, held⟩)
      · exact ⟨fresh.data, fresh.moved⟩
      · rw [add_zero, read]
    cases variant : p.variant with
    | jttc =>
        refine peek_bind (.inr ⟨variant, by omega⟩) ?_
        exact rest _ (by rw [OpenSS7.Mtp3.mtpDecSio, variant]; rfl)
    | ansi =>
        exact rest _ (by rw [OpenSS7.Mtp3.mtpDecSio, variant, add_zero])
    | _ => exact rest _ (by rw [OpenSS7.Mtp3.mtpDecSio, variant, add_zero])

theorem rl_proceeds {value : Option MtpMsg}
    (begun : start ≤ r) (left : r ≤ w) (fresh : m.Fresh)
    (short : OpenSS7.Mtp3.mtpDecRl p m (octets memory r w) = none →
      value = none) :
    Program.Triple (At memory (Open p start w) w r) (mtpDecRl p m)
      (fun a c => Proceeds p memory start w
        (OpenSS7.Mtp3.mtpDecRl p m (octets memory r w)) a c)
      (fun c => Fails p memory start w value c) := by
  have length := @length_octets memory r w
  unfold mtpDecRl
  refine Program.triple_ite (fun wide => ?_) fun narrow => ?_
  · refine need_bind (fun lacks c held => ⟨short ?_, r, held⟩) fun room => ?_
    · unfold OpenSS7.Mtp3.mtpDecRl
      split <;> simp_all <;> omega
    · refine peek_bind (.here begun (by omega) (by omega)) ?_
      refine peek_bind (.here begun (by omega) (by omega)) ?_
      refine peek_bind (.here begun (by omega) (by omega)) ?_
      refine peek_bind (.here begun (by omega) (by omega)) ?_
      refine peek_bind (.here begun (by omega) (by omega)) ?_
      refine peek_bind (.here begun (by omega) (by omega)) ?_
      refine peek_bind (.here begun (by omega) (by omega)) ?_
      refine skip_bind (Program.triple_pure fun c held => ⟨?_, r + 7, ?_,
        by omega, room, held⟩)
      · exact ⟨fresh.data, fresh.moved⟩
      · rw [octets_four (by omega), octets_three (by omega)]
        simp only [OpenSS7.Mtp3.mtpDecRl, wide, add_zero, add_assoc]
        rfl
  · refine need_bind (fun lacks c held => ⟨short ?_, r, held⟩) fun room => ?_
    · unfold OpenSS7.Mtp3.mtpDecRl
      split <;> simp_all <;> omega
    · refine peek_bind (.here begun (by omega) (by omega)) ?_
      refine peek_bind (.here begun (by omega) (by omega)) ?_
      refine peek_bind (.here begun (by omega) (by omega)) ?_
      refine peek_bind (.here begun (by omega) (by omega)) ?_
      refine skip_bind (Program.triple_pure fun c held => ⟨?_, r + 4, ?_,
        by omega, room, held⟩)
      · exact ⟨fresh.data, fresh.moved⟩
      · rw [octets_four (by omega)]
        simp only [OpenSS7.Mtp3.mtpDecRl, narrow, add_zero]

theorem msg_agrees (p : Protocol) (memory : Int → UInt8) (start w : Int) :
    Agrees p memory start w start (do
      need 1 .emsgsize
      let m ← mtpDecSio p .zero
      let m ← mtpDecRl p m
      mtpDecSif p m) id
      (OpenSS7.Mtp3.mtpDecMsg p
        ⟨memory (start - 1), octets memory start w⟩) := by
  refine need_bind (fun lacks c held => ⟨?_, start, held⟩) fun room => ?_
  · rw [octets_nil (by omega)]
    rfl
  · refine Program.triple_bind (Program.triple_conseq
      (sio_proceeds ⟨rfl, rfl⟩) (fun _ held => held) (fun _ _ done => done) ?_)
      fun m c found => ?_
    · rintro c ⟨undecoded, held⟩
      refine ⟨?_, start, held⟩
      rw [OpenSS7.Mtp3.mtpDecMsg, undecoded]
      rfl
    · obtain ⟨fresh, r, decoded, begun, left, held⟩ := found
      have value : OpenSS7.Mtp3.mtpDecMsg p
          ⟨memory (start - 1), octets memory start w⟩ =
          (do
            let read ← OpenSS7.Mtp3.mtpDecRl p m (octets memory r w)
            OpenSS7.Mtp3.mtpDecSif p read.1 read.2) := by
        rw [OpenSS7.Mtp3.mtpDecMsg, decoded]
        rfl
      revert c
      rw [value]
      refine Program.triple_bind (rl_proceeds begun left fresh ?_)
        fun m' c found => ?_
      · intro undecoded
        rw [undecoded]
        rfl
      · obtain ⟨fresh', r', decoded', begun', left', held'⟩ := found
        rw [decoded']
        exact sif_agrees begun' left' fresh' c held'

end Parameters

end Pointers

end OpenSS7.Mtp3
