import OpenSS7.Mtp3.Agreement

/-!
What decoding a message does to the message: it looks at no octet outside of it
and reports no data outside of it, and the one message with which it leaves the
block's pointers elsewhere.
-/

namespace OpenSS7.Mtp3

section Moved

variable {p : Protocol} {m m' : MtpMsg} {octets : Octets}

theorem tag_iff (b : UInt8) :
    (b <<< 4 ||| b >>> 4).toNat = 0x32 ↔ b = 0x23 := by
  have every : ∀ n < 256,
      ((UInt8.ofNat n <<< 4 ||| UInt8.ofNat n >>> 4).toNat = 0x32 ↔
        UInt8.ofNat n = 0x23) := by decide +kernel
  have this := every b.toNat b.toNat_lt
  rwa [UInt8.ofNat_toNat] at this

theorem com_still (decoded : mtpDecCom p m octets = some m') :
    m'.moved = m.moved := by
  unfold mtpDecCom at decoded
  split at decoded <;> grind
theorem cbm_still (decoded : mtpDecCbm p m octets = some m') :
    m'.moved = m.moved := by
  unfold mtpDecCbm at decoded
  split at decoded <;> grind
theorem slm_still (decoded : mtpDecSlm p m octets = some m') :
    m'.moved = m.moved := by
  unfold mtpDecSlm at decoded
  split at decoded <;> grind
theorem tfm_still (decoded : mtpDecTfm p m octets = some m') :
    m'.moved = m.moved := by
  unfold mtpDecTfm at decoded
  split at decoded <;> grind
theorem dlc_still (decoded : mtpDecDlc p m octets = some m') :
    m'.moved = m.moved := by
  unfold mtpDecDlc at decoded
  split at decoded <;> grind
theorem upm_still (decoded : mtpDecUpm p m octets = some m') :
    m'.moved = m.moved := by
  unfold mtpDecUpm at decoded
  split at decoded <;> grind
theorem sltm_still (decoded : mtpDecSltm p m octets = some m') :
    m'.moved = m.moved := by
  unfold mtpDecSltm at decoded
  split at decoded <;> grind
theorem user_still (decoded : mtpDecUser m octets = some m') :
    m'.moved = m.moved := by
  unfold mtpDecUser at decoded
  grind

theorem tfc_moved (fresh : m.moved = 0) :
    (∃ m', mtpDecTfc p m octets = some m' ∧ m'.moved ≠ 0) ↔
      p.variant.wide = true ∧ 4 ≤ octets.length := by
  cases wide : p.variant.wide with
  | true =>
      rcases octets with _ | ⟨b0, _ | ⟨b1, _ | ⟨b2, _ | ⟨b3, rest⟩⟩⟩⟩ <;>
        simp [mtpDecTfc, wide]
  | false =>
      rcases octets with _ | ⟨b0, _ | ⟨b1, rest⟩⟩ <;>
        simp [mtpDecTfc, wide, fresh]

theorem network_still {h0 : UInt8} (other : h0 ≠ 0x23) (si : m.si = 0)
    (decoded : mtpDecSif p m (h0 :: octets) = some m') :
    m'.moved = m.moved := by
  have tag := (tag_iff h0).not.2 other
  revert decoded
  unfold mtpDecSif
  split
  · dsimp only
    generalize (h0 <<< 4 ||| h0 >>> 4).toNat = t at tag
    split
    iterate 2 next => exact com_still
    iterate 2 next => exact cbm_still
    iterate 3 next => exact fun decoded => by rw [← Option.some.inj decoded]
    next => exact absurd rfl tag
    iterate 10 next => exact tfm_still
    next => exact dlc_still
    iterate 13 next => exact slm_still
    iterate 3 next => exact upm_still
    next => exact fun decoded => by cases decoded
  · simp_all
  · simp_all
  · contradiction

theorem service_still (other : m.si ≠ 0)
    (decoded : mtpDecSif p m octets = some m') : m'.moved = m.moved := by
  revert decoded
  unfold mtpDecSif
  split
  · contradiction
  iterate 2
    next =>
      split
      · exact fun decoded => by cases decoded
      · dsimp only
        split
        · exact sltm_still
        · exact sltm_still
        · exact fun decoded => by cases decoded
  · exact user_still

def Controlled (p : Protocol) (si : Nat) (octets : Octets) : Prop :=
  p.variant.wide = true ∧ si = 0 ∧ octets.head? = some 0x23 ∧
    5 ≤ octets.length

theorem sif_moved (fresh : m.moved = 0) :
    (∃ m', mtpDecSif p m octets = some m' ∧ m'.moved ≠ 0) ↔
      Controlled p m.si octets := by
  by_cases network : m.si = 0
  · rcases octets with _ | ⟨h0, rest⟩
    · simp [mtpDecSif, network, Controlled]
    by_cases tfc : h0 = 0x23
    · subst tfc
      have value : mtpDecSif p m (0x23 :: rest) = mtpDecTfc p
          { m with h0 := (0x23 : UInt8).toNat &&& 0x0f
                   h1 := (0x23 : UInt8).toNat >>> 4 } rest := by
        rw [mtpDecSif, network]
        rfl
      rw [value]
      refine Iff.trans (tfc_moved fresh) ?_
      simp [Controlled, network]
    · constructor
      · rintro ⟨m', decoded, moves⟩
        exact absurd ((network_still tfc network decoded).trans fresh) moves
      · rintro ⟨-, -, head, -⟩
        exact absurd (Option.some.inj head) tfc
  · constructor
    · rintro ⟨m', decoded, moves⟩
      exact absurd ((service_still network decoded).trans fresh) moves
    · rintro ⟨-, si, -⟩
      exact absurd si network

def MovesWptr (p : Protocol) (octets : Octets) : Prop :=
  p.variant.wide = true ∧ 13 ≤ octets.length ∧
    (octets.getD 0 0).toNat &&& 0x0f = 0 ∧ octets.getD 8 0 = 0x23

theorem msg_moved {bp : Block} :
    (∃ m, mtpDecMsg p bp = some m ∧ m.moved ≠ 0) ↔ MovesWptr p bp.octets := by
  obtain ⟨before, octets⟩ := bp
  by_cases wide : p.variant.wide = true
  · rcases octets with _ | ⟨b0, octets⟩
    · simp [mtpDecMsg, mtpDecSio, MovesWptr]
    rcases octets with _ | ⟨b1, _ | ⟨b2, _ | ⟨b3, _ | ⟨b4, _ | ⟨b5, _ | ⟨b6,
      _ | ⟨b7, rest⟩⟩⟩⟩⟩⟩⟩
    iterate 7 next => simp [mtpDecMsg, mtpDecSio, mtpDecRl, wide, MovesWptr]
    have value : ∃ m : MtpMsg, mtpDecMsg p
        ⟨before, b0 :: b1 :: b2 :: b3 :: b4 :: b5 :: b6 :: b7 :: rest⟩ =
        mtpDecSif p m rest ∧ m.si = b0.toNat &&& 0x0f ∧ m.moved = 0 := by
      simp only [mtpDecMsg, mtpDecSio, mtpDecRl, wide, Option.bind_eq_bind,
        Option.bind_some]
      exact ⟨_, rfl, rfl, rfl⟩
    obtain ⟨m, decodes, si, fresh⟩ := value
    rw [decodes, sif_moved fresh, Controlled, MovesWptr, si]
    rcases rest with _ | ⟨h0, rest⟩ <;> simp [wide]
    tauto
  · constructor
    · rintro ⟨m', decoded, moves⟩
      rw [mtpDecMsg] at decoded
      rcases octets with _ | ⟨b0, _ | ⟨b1, _ | ⟨b2, _ | ⟨b3, _ | ⟨b4, rest⟩⟩⟩⟩⟩
      iterate 5 next => simp [mtpDecSio, mtpDecRl, wide] at decoded
      simp only [mtpDecSio, mtpDecRl, wide, Option.bind_eq_bind,
        Option.bind_some] at decoded
      exact absurd ((sif_moved rfl).1 ⟨m', decoded, moves⟩).1 wide
    · exact fun controlled => absurd controlled.1 wide

end Moved

namespace Pointers

open Cursor Reader

/-- The message `n` octets long at `r`, as it is given to `mtp_dec_msg`. -/
def received (memory : Int → UInt8) (r : Int) (n : Nat) : Cursor :=
  ⟨memory, r, r + n, []⟩

structure Contained (p : Protocol) (memory : Int → UInt8) (r : Int) (n : Nat) :
    Prop where
  reads : ∀ a ∈ ((mtpDecMsg p).after (received memory r n)).touched,
    r ≤ a ∧ a < r + n ∨ p.variant = .jttc ∧ a = r - 1
  data : ∀ d, ((mtpDecMsg p).exec (received memory r n)).1 = .ok d →
    0 < d.dlen → r ≤ d.data ∧ d.data + d.dlen ≤ r + n
  rptr : ((mtpDecMsg p).after (received memory r n)).rptr = r
  wptr : ((mtpDecMsg p).after (received memory r n)).wptr = r + n

theorem contained_iff (p : Protocol) (memory : Int → UInt8) (r : Int)
    (n : Nat) :
    Contained p memory r n ↔ ¬ MovesWptr p (octets memory r (r + n)) := by
  have agrees := msg_agrees p memory r (r + n) (received memory r n)
    ⟨rfl, rfl, rfl, fun a member => absurd member List.not_mem_nil⟩
  have moves := @msg_moved p ⟨memory (r - 1), octets memory r (r + n)⟩
  rw [← moves]
  have restored : (mtpDecMsg p).exec (received memory r n) = _ :=
    exec_restoring _ _
  rcases ran : Program.exec _ (received memory r n) with ⟨result, c⟩
  rw [ran] at agrees restored
  have left : (mtpDecMsg p).after (received memory r n) =
      { c with rptr := r } := by
    rw [Program.after, restored]
    rfl
  cases result with
  | error e =>
      obtain ⟨none, r', held⟩ := agrees
      rw [none]
      refine ⟨fun _ found => ?_, fun _ => ⟨?_, ?_, ?_, ?_⟩⟩
      · obtain ⟨m, decoded, -⟩ := found
        cases decoded
      · rw [left]
        exact held.touched
      · rw [restored]
        exact fun d decoded => by cases decoded
      · rw [left]
      · rw [left]
        exact held.wptr
  | ok d =>
      obtain ⟨r', moved, value, data, held⟩ := agrees
      have wptr : ((mtpDecMsg p).after (received memory r n)).wptr =
          r + n + moved := by
        rw [left]
        exact held.wptr
      rw [value]
      constructor
      · rintro contained ⟨m, decoded, moves⟩
        rw [contained.wptr] at wptr
        obtain rfl := Option.some.inj decoded
        exact moves (by simp only; omega)
      · intro still
        have zero : moved = 0 :=
          Decidable.byContradiction fun moves => still ⟨_, rfl, moves⟩
        subst zero
        refine ⟨?_, ?_, ?_, ?_⟩
        · rw [left]
          exact held.touched
        · rw [restored]
          intro d' decoded
          rw [← Except.ok.inj decoded]
          exact data
        · rw [left]
        · rw [wptr]
          omega

def transferControlled : Int → UInt8 := fun a =>
  [0x80, 1, 0, 0, 2, 0, 0, 0, 0x23, 5, 0, 0, 1].getD a.toNat 0

theorem transferControlled_extended :
    ¬ Contained ⟨.ansi, .y96, false⟩ transferControlled 0 13 := by
  intro contained
  have wptr := contained.wptr
  revert wptr
  decide +kernel

end Pointers

end OpenSS7.Mtp3
