import OpenSS7.Mtp3.Messages

/-!
The room that is allocated for a message and what the encoders write into it,
with the test patterns that a signalling link makes and those it echoes.
-/

namespace OpenSS7.Mtp3

def maxMsgSize : Nat := 6 + 1 + 7 + 1 + 3 + 1

def Body.written (p : Protocol) : Body → Nat
  | user _ => 0
  | body => (body.octets p).length

def Protocol.written (p : Protocol) (label : Label) (s : Signal) : Nat :=
  6 + (mtpEncMsg p label.ni s.mp s.si label.dpc label.opc
    (p.rlSls label.sls s.body)).octets.length +
    s.headingOctets.length + s.body.written p

def Protocol.Fits (p : Protocol) (label : Label) (s : Signal) : Prop :=
  p.written label s ≤ maxMsgSize

instance (p : Protocol) (label : Label) (s : Signal) :
    Decidable (p.Fits label s) := Nat.decLe _ _

def Protocol.room (p : Protocol) : Nat := if p.variant.wide = true then 3 else 6

def Protocol.Short (p : Protocol) (s : Signal) : Prop :=
  ∀ slc data, s.body = .sltm slc data → data.length ≤ p.room

section Tests

/-- `tdata` and `tlen` of `struct sl` -/
structure TestData where
  tdata : Octets
  tlen : Nat
  size : tdata.length = 16

/-- What is passed to `mtp_send_sltm`. -/
def TestData.pattern (t : TestData) : Octets := t.tdata.take t.tlen

def TestData.generate (t : TestData) (jiffies : Nat) : TestData where
  tdata := t.tdata.mapIdx fun i octet =>
    if i < jiffies &&& 0x0f then octet ^^^ (jiffies >>> 8 &&& 0xff).toUInt8
    else octet
  tlen := jiffies &&& 0x0f
  size := by rw [List.length_mapIdx, t.size]

/-- What `mtp_recv_sltm` reads of a signalling link. -/
structure TestedLink where
  slc : Nat
  adj : Nat
  loc : Nat

def mtpRecvSltm (sl : TestedLink) (m : MtpMsg) : Option Signal :=
  if m.slc ≠ sl.slc ∨ m.opc ≠ sl.adj ∨ m.dpc ≠ sl.loc then none
  else some (mtpSendSlta sl.slc m.data)

end Tests

section Sizes

variable {p : Protocol} {label : Label} {s : Signal}

theorem length_encSio (mp ni si : Nat) :
    (mtpEncSio p mp ni si).octets.length = 1 := by
  unfold mtpEncSio
  split
  · rfl
  · rfl
  · split <;> rfl

theorem length_encRl (dpc opc sls : Nat) :
    (mtpEncRl p dpc opc sls).length =
      if p.variant.wide = true then 7 else 4 := by
  unfold mtpEncRl Variant.wide
  cases p.variant <;> rfl

theorem length_encMsg (ni mp si dpc opc sls : Nat) :
    (mtpEncMsg p ni mp si dpc opc sls).octets.length =
      1 + if p.variant.wide = true then 7 else 4 := by
  simp only [mtpEncMsg, List.length_append, length_encSio, length_encRl]

theorem length_encSltm (slc : Nat) (data : Octets) :
    (mtpEncSltm p slc data).length = data.length + 1 := by
  unfold mtpEncSltm
  split <;> rfl

theorem parameters_fit (none : ∀ slc data, s.body ≠ .sltm slc data) :
    s.body.written p ≤ if p.variant.wide = true then 4 else 7 := by
  cases body : s.body with
  | sltm slc data => exact absurd body (none slc data)
  | user data => exact Nat.zero_le _
  | none => exact Nat.zero_le _
  | com slc fsnl =>
      simp only [Body.written, Body.octets, mtpEncCom, Variant.wide]
      cases p.variant <;> simp
  | cbm slc cbc =>
      simp only [Body.written, Body.octets, mtpEncCbm, Variant.wide]
      cases p.variant <;> simp
  | slm slc =>
      simp only [Body.written, Body.octets, mtpEncSlm, Variant.wide]
      cases p.variant <;> simp
  | tfc dest stat =>
      simp only [Body.written, Body.octets, mtpEncTfc, Variant.wide]
      cases p.variant <;> simp
  | tfm dest =>
      simp only [Body.written, Body.octets, mtpEncTfm, Variant.wide]
      cases p.variant <;> simp
  | dlc slc sdli =>
      simp only [Body.written, Body.octets, mtpEncDlc, Variant.wide]
      cases p.variant <;> simp
  | upm dest upi =>
      simp only [Body.written, Body.octets, mtpEncUpm, Variant.wide]
      cases p.variant <;> simp

theorem length_heading : s.headingOctets.length ≤ 1 := by
  unfold Signal.headingOctets
  split
  · exact le_rfl
  · exact Nat.zero_le _

theorem Protocol.Sends.heading {slc : Nat} {data : Octets} (sends : p.Sends s)
    (body : s.body = .sltm slc data) : s.headingOctets.length = 1 := by
  cases sends <;> first | rfl | cases body

theorem test_fits_iff (label : Label) {slc : Nat} {data : Octets}
    (heading : s.headingOctets.length = 1) (body : s.body = .sltm slc data) :
    p.Fits label s ↔ data.length ≤ p.room := by
  have written : s.body.written p = data.length + 1 := by
    rw [body]
    exact length_encSltm slc data
  unfold Protocol.Fits Protocol.written maxMsgSize Protocol.room
  rw [length_encMsg, heading, written]
  split <;> omega

theorem other_fits (label : Label)
    (other : ∀ slc data, s.body ≠ .sltm slc data) : p.Fits label s := by
  have small := @parameters_fit p s other
  have heading := @length_heading s
  unfold Protocol.Fits Protocol.written maxMsgSize
  rw [length_encMsg]
  by_cases wide : p.variant.wide = true
  · rw [if_pos wide] at small ⊢
    omega
  · rw [if_neg wide] at small ⊢
    omega

theorem fits_iff (label : Label) (sends : p.Sends s) :
    p.Fits label s ↔ p.Short s := by
  by_cases test : ∃ slc data, s.body = .sltm slc data
  · obtain ⟨slc, data, body⟩ := test
    rw [test_fits_iff label (sends.heading body) body]
    refine ⟨fun short slc' data' body' => ?_, fun short => short slc data body⟩
    rw [body] at body'
    obtain ⟨-, rfl⟩ := Body.sltm.inj body'
    exact short
  · have other : ∀ slc data, s.body ≠ .sltm slc data :=
      fun slc data body => test ⟨slc, data, body⟩
    exact ⟨fun _ slc data body => absurd body (other slc data),
      fun _ => other_fits label other⟩

theorem fits_iff_tfc : (⟨.ansi, .y96, false⟩ : Protocol).Fits ⟨2, 1, 2, 3⟩
      (mtpSendTfc 5 1) ↔
    (⟨.ansi, .y96, false⟩ : Protocol).Short (mtpSendTfc 5 1) :=
  fits_iff ⟨2, 1, 2, 3⟩ (.tfc 5 1)

theorem pattern_overruns :
    ¬ (⟨.ansi, .y96, false⟩ : Protocol).Fits ⟨2, 1, 2, 3⟩ (mtpSendSltm 3
      (TestData.generate ⟨List.replicate 16 0, 0, rfl⟩ 15).pattern) ∧
    ∃ m s, mtpDecMsg ⟨.ansi, .y96, false⟩
        ⟨0, [0xb1, 1, 0, 0, 2, 0, 0, 3, 0x11, 0xf3] ++
          List.replicate 15 0⟩ = some m ∧
      mtpRecvSltm ⟨3, 2, 1⟩ m = some s ∧
      ¬ (⟨.ansi, .y96, false⟩ : Protocol).Fits ⟨2, 2, 1, 3⟩ s := by
  refine ⟨by decide +kernel, ?_⟩
  refine ⟨_, _, rfl, rfl, ?_⟩
  decide +kernel

end Sizes

end OpenSS7.Mtp3
