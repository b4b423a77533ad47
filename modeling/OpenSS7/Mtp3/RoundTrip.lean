import OpenSS7.Mtp3.Messages

/-!
Decoding undoes encoding: for each kind of parameters, for the label, and for a
whole message.
-/

namespace OpenSS7.Mtp3

section Octets

theorem toNat_toUInt8 (n : Nat) : n.toUInt8.toNat = n % 256 := rfl

theorem or_shiftLeft {k x : Nat} (y : Nat) (low : x < 2 ^ k) :
    x ||| y <<< k = x + y * 2 ^ k := by
  rw [Nat.or_comm, ← Nat.shiftLeft_add_eq_or_of_lt low, Nat.shiftLeft_eq]
  omega

theorem and_0x3 (n : Nat) : n &&& 0x3 = n % 4 :=
  Nat.and_two_pow_sub_one_eq_mod n 2

theorem and_0x7 (n : Nat) : n &&& 0x7 = n % 8 :=
  Nat.and_two_pow_sub_one_eq_mod n 3

theorem and_0xf (n : Nat) : n &&& 0xf = n % 16 :=
  Nat.and_two_pow_sub_one_eq_mod n 4

theorem and_0x1f (n : Nat) : n &&& 0x1f = n % 32 :=
  Nat.and_two_pow_sub_one_eq_mod n 5

theorem and_0x3f (n : Nat) : n &&& 0x3f = n % 64 :=
  Nat.and_two_pow_sub_one_eq_mod n 6

theorem and_0x7f (n : Nat) : n &&& 0x7f = n % 128 :=
  Nat.and_two_pow_sub_one_eq_mod n 7

theorem and_0xff (n : Nat) : n &&& 0xff = n % 256 :=
  Nat.and_two_pow_sub_one_eq_mod n 8

theorem and_0x3f_shiftLeft (b : UInt8) : b.toNat &&& 0x3f <<< 8 = 0 := by
  apply Nat.eq_of_testBit_eq
  intro i
  rw [Nat.testBit_and, Nat.testBit_shiftLeft, Nat.zero_testBit]
  by_cases low : i < 8
  · simp [show ¬ 8 ≤ i by omega]
  · have bound : b.toNat < 2 ^ i :=
      Nat.lt_of_lt_of_le b.toNat_lt (Nat.pow_le_pow_right (by decide)
        (Nat.not_lt.mp low))
    rw [Nat.testBit_lt_two_pow bound, Bool.false_and]

end Octets

section Parameters

variable (p : Protocol) (m : MtpMsg)

theorem mtpDecCom_mtpEncCom {slc fsnl : Nat} (slcRange : slc < 16)
    (fsnlRange : fsnl < 128) (label : p.variant = .ansi ∨ m.sls = slc) :
    mtpDecCom p m (mtpEncCom p slc fsnl) =
      some { m with slc := slc, arg := fsnl } := by
  unfold mtpDecCom mtpEncCom
  cases variant : p.variant
  case ansi =>
      simp (disch := omega) only [toNat_toUInt8, and_0xf, and_0x7,
        or_shiftLeft, Nat.shiftRight_eq_div_pow]
      congr
      · omega
      · omega
  all_goals
    obtain rfl : m.sls = slc := by simpa [variant] using label
    simp only [toNat_toUInt8, and_0x7f]
    congr
    omega

theorem mtpDecCbm_mtpEncCbm {slc cbc : Nat} (slcRange : slc < 16)
    (cbcRange : cbc < 256) (label : p.variant = .ansi ∨ m.sls = slc) :
    mtpDecCbm p m (mtpEncCbm p slc cbc) =
      some { m with slc := slc, arg := cbc } := by
  unfold mtpDecCbm mtpEncCbm
  cases variant : p.variant
  case ansi =>
      simp (disch := omega) only [toNat_toUInt8, and_0xf, or_shiftLeft,
        Nat.shiftRight_eq_div_pow]
      congr
      · omega
      · omega
  all_goals
    obtain rfl : m.sls = slc := by simpa [variant] using label
    simp only [toNat_toUInt8]
    congr
    omega

theorem mtpDecSlm_mtpEncSlm {slc : Nat} (slcRange : slc < 16)
    (label : p.variant = .ansi ∨ m.sls = slc) :
    mtpDecSlm p m (mtpEncSlm p slc) = some { m with slc := slc } := by
  unfold mtpDecSlm mtpEncSlm
  cases variant : p.variant
  case ansi =>
      simp only [toNat_toUInt8, and_0xf]
      congr
      omega
  all_goals
    obtain rfl : m.sls = slc := by simpa [variant] using label
    rfl

theorem mtpDecTfc_mtpEncTfc {dest stat : Nat} (destRange : dest < 2 ^ p.pcBits)
    (statRange : stat < 4) :
    mtpDecTfc p m (mtpEncTfc p dest stat) =
      some { m with
        dest := dest
        arg := stat
        moved := if p.variant.wide = true then 4 else m.moved } := by
  unfold mtpDecTfc mtpEncTfc
  unfold Protocol.pcBits at destRange
  cases variant : p.variant
  all_goals
    simp only [variant, Variant.wide, if_true, Bool.false_eq_true, if_false]
      at destRange ⊢
    simp (disch := omega) only [toNat_toUInt8, and_0x3, and_0x3f, or_shiftLeft,
      Nat.shiftRight_eq_div_pow]
    congr
    · omega
    · omega

theorem mtpDecTfm_mtpEncTfm {dest : Nat} (destRange : dest < 2 ^ p.pcBits) :
    mtpDecTfm p m (mtpEncTfm p dest) = some { m with dest := dest } := by
  unfold mtpDecTfm mtpEncTfm
  unfold Protocol.pcBits at destRange
  cases variant : p.variant
  all_goals
    simp only [variant, Variant.wide, if_true, Bool.false_eq_true, if_false]
      at destRange ⊢
    simp (disch := omega) only [toNat_toUInt8, and_0x3f, or_shiftLeft,
      Nat.shiftRight_eq_div_pow]
    congr
    omega

theorem mtpDecDlc_mtpEncDlc {slc sdli : Nat} (slcRange : slc < 16)
    (sdliRange : sdli < 2 ^ p.sdliBits)
    (label : p.variant = .ansi ∨ m.sls = slc) :
    mtpDecDlc p m (mtpEncDlc p slc sdli) =
      some { m with slc := slc, arg := sdli } := by
  unfold mtpDecDlc mtpEncDlc
  unfold Protocol.sdliBits at sdliRange
  cases variant : p.variant
  case ansi =>
      simp only [variant, if_true] at sdliRange
      simp (disch := omega) only [toNat_toUInt8, and_0x3, and_0xf,
        or_shiftLeft, Nat.shiftRight_eq_div_pow]
      congr
      · omega
      · omega
  all_goals
    obtain rfl : m.sls = slc := by simpa [variant] using label
    simp only [variant, reduceCtorEq, if_false] at sdliRange
    simp (disch := omega) only [toNat_toUInt8, and_0xf, or_shiftLeft,
      Nat.shiftRight_eq_div_pow]
    congr
    omega

theorem mtpDecUpm_mtpEncUpm {dest upi : Nat} (destRange : dest < 2 ^ p.pcBits)
    (upiRange : upi < 16) :
    mtpDecUpm p m (mtpEncUpm p dest upi) =
      some { m with
        dest := if p.variant = .ansi then dest else dest % 256
        arg := upi } := by
  unfold mtpDecUpm mtpEncUpm
  unfold Protocol.pcBits at destRange
  cases variant : p.variant
  case ansi =>
      simp only [variant, Variant.wide, if_true] at destRange ⊢
      simp (disch := omega) only [toNat_toUInt8, and_0xf, or_shiftLeft,
        Nat.shiftRight_eq_div_pow]
      congr
      · omega
      · omega
  all_goals
    simp only [reduceCtorEq, if_false, and_0x3f_shiftLeft]
    simp only [toNat_toUInt8, and_0xf, Nat.or_zero]
    congr
    omega

theorem mtpDecSltm_mtpEncSltm {slc : Nat} {data : Octets} (slcRange : slc < 16)
    (dataRange : data.length < 16) (label : p.variant = .ansi ∨ m.sls = slc)
    (national : m.si = 2 → p.variant = .ansi) :
    mtpDecSltm p m (mtpEncSltm p slc data) =
      some { m with slc := slc, data := data } := by
  unfold mtpDecSltm mtpEncSltm
  cases variant : p.variant
  case ansi =>
      simp (disch := omega) only [toNat_toUInt8, and_0xf, or_shiftLeft,
        Nat.shiftRight_eq_div_pow, if_true]
      have length : (slc % 16 + data.length * 2 ^ 4) % 256 / 2 ^ 4 =
          data.length := by omega
      rw [length, if_neg (Nat.lt_irrefl _), List.take_length]
      congr
      omega
  all_goals
    obtain rfl : m.sls = slc := by simpa [variant] using label
    have si : m.si ≠ 2 := fun si => by simp [variant] at national; contradiction
    have length : (data.length <<< 4).toUInt8.toNat >>> 4 = data.length := by
      rw [toNat_toUInt8, Nat.shiftLeft_eq, Nat.shiftRight_eq_div_pow]
      omega
    simp only [reduceCtorEq, if_false, length, si, Nat.lt_irrefl, or_self,
      List.take_length]

end Parameters

section Heading

variable (p : Protocol)

def Body.Fits : Body → Prop
  | upm dest _ => p.variant = .ansi ∨ dest < 256
  | _ => True

def MtpMsg.head (m : MtpMsg) : Label × Nat × Nat × Nat × Nat :=
  (⟨m.ni, m.dpc, m.opc, m.sls⟩, m.mp, m.si, m.h0, m.h1)

theorem Body.decode_octets (m : MtpMsg) (body : Body)
    (inRange : body.InRange p)
    (label : ∀ slc ∈ body.slc?, p.variant = .ansi ∨ m.sls = slc)
    (national : m.si = 2 → p.variant = .ansi) :
    ∃ m', body.decode p m (body.octets p) = some m' ∧ m'.head = m.head ∧
      (body.Conveyed m' ↔ body.Fits p) := by
  cases body with
  | none => exact ⟨m, rfl, rfl, Iff.rfl⟩
  | com slc fsnl =>
      have decoded := mtpDecCom_mtpEncCom p m inRange.1 inRange.2
        (label slc rfl)
      exact ⟨_, decoded, rfl, iff_true_intro ⟨rfl, rfl⟩⟩
  | cbm slc cbc =>
      have decoded := mtpDecCbm_mtpEncCbm p m inRange.1 inRange.2
        (label slc rfl)
      exact ⟨_, decoded, rfl, iff_true_intro ⟨rfl, rfl⟩⟩
  | slm slc =>
      have decoded := mtpDecSlm_mtpEncSlm p m inRange (label slc rfl)
      exact ⟨_, decoded, rfl, iff_true_intro rfl⟩
  | tfc dest stat =>
      have decoded := mtpDecTfc_mtpEncTfc p m inRange.1 inRange.2
      exact ⟨_, decoded, rfl, iff_true_intro ⟨rfl, rfl⟩⟩
  | tfm dest =>
      have decoded := mtpDecTfm_mtpEncTfm p m inRange
      exact ⟨_, decoded, rfl, iff_true_intro rfl⟩
  | dlc slc sdli =>
      have decoded := mtpDecDlc_mtpEncDlc p m inRange.1 inRange.2
        (label slc rfl)
      exact ⟨_, decoded, rfl, iff_true_intro ⟨rfl, rfl⟩⟩
  | upm dest upi =>
      have decoded := mtpDecUpm_mtpEncUpm p m inRange.1 inRange.2
      refine ⟨_, decoded, rfl, ?_⟩
      unfold Conveyed Fits
      by_cases ansi : p.variant = .ansi
      · simp [ansi]
      · simp only [ansi, if_false, false_or, and_true]
        omega
  | sltm slc data =>
      have decoded := mtpDecSltm_mtpEncSltm p m inRange.1 inRange.2
        (label slc rfl) national
      exact ⟨_, decoded, rfl, iff_true_intro ⟨rfl, rfl⟩⟩
  | user data => exact ⟨_, rfl, rfl, iff_true_intro rfl⟩

def Signal.headed (s : Signal) (m : MtpMsg) : MtpMsg :=
  match s.heading with
  | some (h0, h1) => { m with h0 := h0, h1 := h1 }
  | none => m

theorem mtpDecSif_heading {s : Signal} (sent : p.Sends s) (m : MtpMsg)
    (same : m.si = s.si) (octets : Octets) :
    mtpDecSif p m (s.headingOctets ++ octets) =
      s.body.decode p (s.headed m) octets := by
  unfold mtpDecSif Signal.headed
  rw [same]
  clear same
  cases sent
  case user mp si data user =>
      obtain ⟨rest, rfl⟩ := Nat.exists_eq_add_of_le user
      rw [Nat.add_comm]
      rfl
  all_goals rfl

end Heading

section RoundTrip

variable (p : Protocol)

theorem mtpDecSio_mtpEncSio (m : MtpMsg) {mp ni si : Nat} (rest : Octets)
    (mpRange : mp < 4) (niRange : ni < 4) (siRange : si < 16) :
    mtpDecSio p
        { mtpEncSio p mp ni si with
          octets := (mtpEncSio p mp ni si).octets ++ rest } m =
      some ({ m with si := si, mp := p.priority mp, ni := ni }, rest) := by
  unfold mtpDecSio mtpEncSio Protocol.priority
  cases variant : p.variant
  case ansi =>
      simp (disch := omega) only [List.cons_append, List.nil_append,
        toNat_toUInt8, and_0x3, and_0xf, or_shiftLeft,
        Nat.shiftRight_eq_div_pow]
      congr
      · omega
      · omega
      · omega
  case jttc =>
      simp (disch := omega) only [List.cons_append, List.nil_append,
        toNat_toUInt8, and_0x3, and_0xf, or_shiftLeft,
        Nat.shiftRight_eq_div_pow]
      rw [Nat.shiftLeft_eq]
      congr
      · omega
      · omega
      · omega
  all_goals
    by_cases levels : p.mplev = true
    · simp (disch := omega) only [levels, if_true, List.cons_append,
        List.nil_append, toNat_toUInt8, and_0x3, and_0xf, or_shiftLeft,
        Nat.shiftRight_eq_div_pow]
      congr
      · omega
      · omega
      · omega
    · simp (disch := omega) only [levels, if_false, List.cons_append,
        List.nil_append, toNat_toUInt8, and_0x3, and_0xf, or_shiftLeft,
        Nat.shiftRight_eq_div_pow, Bool.false_eq_true]
      congr
      · omega
      · omega

def Protocol.opcRead (opc : Nat) : Nat :=
  if p.variant.wide = true then opc else opc % 1024 + opc / 4 % 16 * 1024

theorem mtpDecRl_mtpEncRl (m : MtpMsg) {dpc opc sls : Nat} (rest : Octets)
    (dpcRange : dpc < 2 ^ p.pcBits) (opcRange : opc < 2 ^ p.pcBits)
    (slsRange : sls < 2 ^ p.slsBits) :
    mtpDecRl p m (mtpEncRl p dpc opc sls ++ rest) =
      some ({ m with dpc := dpc, opc := p.opcRead opc, sls := sls }, rest) := by
  unfold mtpDecRl mtpEncRl Protocol.opcRead
  unfold Protocol.pcBits at dpcRange opcRange
  unfold Protocol.slsBits at slsRange
  cases variant : p.variant
  case ansi | jttc | chin =>
      simp only [variant, Variant.wide, if_true] at dpcRange opcRange slsRange ⊢
      simp (disch := omega) only [List.cons_append, List.nil_append,
        toNat_toUInt8, and_0x1f, and_0xff, or_shiftLeft,
        Nat.shiftRight_eq_div_pow]
      congr 3
      · omega
      · omega
      · split
        all_goals
          simp only [*, if_true, if_false, Bool.false_eq_true] at slsRange
          omega
  all_goals
    simp only [variant, Variant.wide, if_false, Bool.false_eq_true]
      at dpcRange opcRange slsRange ⊢
    simp (disch := omega) only [List.cons_append, List.nil_append,
      toNat_toUInt8, and_0x3f, and_0xf, or_shiftLeft,
      Nat.shiftRight_eq_div_pow]
    congr 3
    · omega
    · omega
    · omega

def Label.Fits (label : Label) : Prop :=
  p.variant.wide = true ∨ label.opc / 1024 = label.opc / 4 % 16

theorem opcRead_eq_iff {label : Label} (inRange : label.InRange p) :
    p.opcRead label.opc = label.opc ↔ label.Fits p := by
  have opcRange := inRange.opc
  unfold Protocol.pcBits at opcRange
  unfold Protocol.opcRead Label.Fits
  by_cases wide : p.variant.wide = true
  · simp [wide]
  · simp only [wide, if_false, false_or, Bool.false_eq_true] at opcRange ⊢
    omega

theorem Body.slc_lt {body : Body} (inRange : body.InRange p) {slc : Nat}
    (same : slc ∈ body.slc?) : slc < 16 := by
  cases body
  case com | cbm | dlc | sltm =>
      cases same
      exact inRange.1
  case slm =>
      cases same
      exact inRange
  all_goals cases same

theorem rlSls_lt {label : Label} {s : Signal} (inRange : label.InRange p)
    (body : s.body.InRange p) :
    p.rlSls label.sls s.body < 2 ^ p.slsBits := by
  have bits : 16 ≤ 2 ^ p.slsBits := by
    unfold Protocol.slsBits
    split
    · split <;> decide
    · decide
  unfold Protocol.rlSls
  split
  · exact inRange.sls
  next same _ => exact Nat.lt_of_lt_of_le (Body.slc_lt p body same) bits
  · exact inRange.sls

theorem Signal.sends_national {s : Signal} (sent : p.Sends s) (si : s.si = 2) :
    p.variant = .ansi := by
  cases sent
  case ssltm ansi => exact ansi
  case sslta ansi => exact ansi
  case user atLeast =>
      obtain rfl : _ = 2 := si
      exact absurd atLeast (by decide)
  all_goals cases si

theorem rlSls_slc (sls : Nat) {body : Body} {slc : Nat}
    (same : slc ∈ body.slc?) : p.variant = .ansi ∨ p.rlSls sls body = slc := by
  unfold Protocol.rlSls
  rw [Option.mem_def.mp same]
  split
  · exact .inl ‹_›
  · cases ‹some slc = _›
    exact .inr rfl
  · cases ‹some slc = _›

def Signal.labelled (label : Label) (s : Signal) : MtpMsg :=
  { MtpMsg.zero with
    ni := label.ni
    mp := p.priority s.mp
    si := s.si
    dpc := label.dpc
    opc := p.opcRead label.opc
    sls := p.rlSls label.sls s.body }

theorem mtpDecMsg_encode {label : Label} {s : Signal} (sent : p.Sends s)
    (labelRange : label.InRange p) (range : s.InRange p) :
    mtpDecMsg p (p.encode label s) =
      s.body.decode p (s.headed (s.labelled p label)) (s.body.octets p) := by
  unfold mtpDecMsg Protocol.encode mtpEncMsg
  simp only [List.append_assoc]
  rw [mtpDecSio_mtpEncSio p _ _ range.mp labelRange.ni range.si]
  simp only [Option.bind_eq_bind, Option.bind_some]
  rw [mtpDecRl_mtpEncRl p _ _ labelRange.dpc labelRange.opc
    (rlSls_lt p labelRange range.body)]
  simp only [Option.bind_some]
  rw [mtpDecSif_heading p sent _ rfl]
  rfl

theorem Signal.headed_head (s : Signal) (m : MtpMsg) :
    (s.headed m).head.1 = m.head.1 ∧ (s.headed m).mp = m.mp ∧
      (s.headed m).si = m.si ∧
      ∀ h ∈ s.heading, ((s.headed m).h0, (s.headed m).h1) = h := by
  unfold headed
  cases s.heading with
  | none => exact ⟨rfl, rfl, rfl, fun _ same => nomatch same⟩
  | some h =>
      refine ⟨rfl, rfl, rfl, fun _ same => ?_⟩
      exact Option.mem_some_iff.mp same

/-- What is sent is decoded as it was sent if and only if the originating point
code fits into what is read of it, and so do the parameters. -/
theorem decodes_iff (label : Label) (s : Signal) (sent : p.Sends s)
    (labelRange : label.InRange p) (range : s.InRange p) :
    p.Decodes label s ↔ label.Fits p ∧ s.body.Fits p := by
  obtain ⟨labels, mp, si, heading⟩ := s.headed_head (s.labelled p label)
  have sls : (s.headed (s.labelled p label)).sls =
      p.rlSls label.sls s.body := congrArg Label.sls labels
  obtain ⟨m, parameters, head, conveyed⟩ := Body.decode_octets p
    (s.headed (s.labelled p label)) s.body range.body
    (fun slc same => sls ▸ rlSls_slc p label.sls same)
    (fun two => Signal.sends_national p sent (si.symm.trans two))
  have decoded : mtpDecMsg p (p.encode label s) = some m :=
    (mtpDecMsg_encode p sent labelRange range).trans parameters
  have labels : m.head.1 = (s.labelled p label).head.1 :=
    (congrArg Prod.fst head).trans labels
  have opc : m.opc = p.opcRead label.opc := congrArg Label.opc labels
  constructor
  · rintro ⟨m', decoded', same⟩
    obtain rfl : m = m' := Option.some.inj (decoded.symm.trans decoded')
    exact ⟨(opcRead_eq_iff p labelRange).mp (opc.symm.trans same.opc),
      conveyed.mp same.body⟩
  · rintro ⟨fits, body⟩
    refine ⟨m, decoded, congrArg Label.ni labels, ?_, ?_,
      congrArg Label.dpc labels,
      opc.trans ((opcRead_eq_iff p labelRange).mpr fits),
      congrArg Label.sls labels, fun h same => ?_, conveyed.mpr body⟩
    · exact (congrArg (fun m => m.2.1) head).trans mp
    · exact (congrArg (fun m => m.2.2.1) head).trans si
    · exact (congrArg (fun m => m.2.2.2) head).trans (heading h same)

theorem decodes_iff_coo :
    let p : Protocol := ⟨.itut, .y00, false⟩
    let label : Label := ⟨2, 2, 1, 0⟩
    label.InRange p ∧ (p.Decodes label (mtpSendCoo 3 77) ↔
      label.Fits p ∧ (mtpSendCoo 3 77).body.Fits p) :=
  have range : Label.InRange ⟨.itut, .y00, false⟩ ⟨2, 2, 1, 0⟩ :=
    ⟨by decide, by decide, by decide, by decide⟩
  ⟨range, decodes_iff _ _ _ (.coo 3 77) range
    ⟨by decide, by decide, by decide, by decide⟩⟩

theorem decodes_fails :
    let p : Protocol := ⟨.itut, .y00, false⟩
    (∃ m, mtpDecMsg p (p.encode ⟨2, 2, 1024, 0⟩ (mtpSendCoo 3 77)) = some m ∧
      m.opc = 0) ∧
    ¬ p.Decodes ⟨2, 2, 1024, 0⟩ (mtpSendCoo 3 77) ∧
    (∃ m, mtpDecMsg p (p.encode ⟨2, 2, 1, 0⟩ (mtpSendUpu 256 5)) = some m ∧
      m.dest = 0) ∧
    ¬ p.Decodes ⟨2, 2, 1, 0⟩ (mtpSendUpu 256 5) := by
  refine ⟨⟨_, rfl, rfl⟩, ?_, ⟨_, rfl, rfl⟩, ?_⟩
  · rintro ⟨m, decoded, same⟩
    obtain rfl := Option.some.inj decoded
    exact absurd same.opc (by decide)
  · rintro ⟨m, decoded, same⟩
    obtain rfl := Option.some.inj decoded
    exact absurd same.body.1 (by decide)

end RoundTrip

end OpenSS7.Mtp3
