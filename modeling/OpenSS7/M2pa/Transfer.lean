import OpenSS7.M2pa.Sequence

/-!
A message of data from `sl_send_data` to the receive buffer of the peer.
-/

namespace OpenSS7.M2pa

open Program

section Encoding

theorem gather_eq (queue : List Msg) (dlen : Nat) :
    gather queue dlen = (queue.map (List.headD · [])).flatten.take dlen := by
  induction queue generalizing dlen with
  | nil => simp [gather]
  | cons m rest ih =>
      simp only [gather, List.map_cons, List.flatten_cons, List.take_append,
        ih, List.length_take]
      congr 2
      omega

theorem gather_eq_flatten (m : Msg) (behind : List Msg) :
    gather (m :: behind) m.size = m.flatten ↔
      m.flatten <+: ((m :: behind).map (List.headD · [])).flatten := by
  rw [gather_eq, List.prefix_iff_eq_take]
  exact eq_comm

theorem Sl.dataNumbers_length (s : Sl) :
    s.dataNumbers.octets.length = s.version.hlen := by
  unfold Sl.dataNumbers Version.hlen
  split
  · rfl
  · split <;> rfl

theorem Numbers.fsn_short (bsn fsn : Nat) (body : List UInt8) :
    ntohs (((Numbers.short bsn fsn).octets ++ body).drop 2) =
      fsn % 2 ^ 16 := by
  rw [Numbers.octets, List.append_assoc,
    show (be16 bsn ++ (be16 fsn ++ body)).drop 2 = be16 fsn ++ body from rfl]
  exact ntohs_be16 fsn body

theorem Numbers.fsn_long (bsn fsn : Nat) (body : List UInt8) :
    ntohl (((Numbers.long bsn fsn).octets ++ body).drop 4) =
      fsn % 2 ^ 32 := by
  rw [Numbers.octets, List.append_assoc,
    show (be32 bsn ++ (be32 fsn ++ body)).drop 4 = be32 fsn ++ body from rfl]
  exact ntohl_be32 fsn body

theorem Sl.fsnOf_dataNumbers (s : Sl) (numbered : s.version.bare = false)
    (body : List UInt8) :
    s.version.fsnOf (s.dataNumbers.octets ++ body) =
      (s.fsnt + 1) % s.version.space := by
  unfold Version.fsnOf Sl.dataNumbers Version.space
  cases short : s.version.short with
  | true =>
      simp only [numbered, Bool.false_eq_true, if_true, if_false]
      exact Numbers.fsn_short _ _ body
  | false =>
      simp only [numbered, Bool.false_eq_true, if_false, Numbers.fsn_long]
      omega

theorem Sl.bsnOf_dataNumbers (s : Sl) (numbered : s.version.bare = false)
    (body : List UInt8) :
    s.version.bsnOf (s.dataNumbers.octets ++ body) =
      s.fsnr % s.version.space := by
  unfold Version.bsnOf Sl.dataNumbers Version.space
  cases short : s.version.short with
  | true =>
      simp only [numbered, Bool.false_eq_true, if_true, if_false,
        Numbers.octets, List.append_assoc]
      exact ntohs_be16 _ _
  | false =>
      simp only [numbered, Bool.false_eq_true, if_false, Numbers.octets,
        List.append_assoc, ntohl_be32]
      omega

variable (s : Sl) (m : Msg) (behind : List Msg)

theorem Sl.dataPdu_octets :
    (s.dataPdu m behind).octets =
      be32 MsgType.data.code ++ (be32 (m.size + 8 + s.version.hlen) ++
        (s.dataNumbers.octets ++ gather (m :: behind) m.size)) := by
  simp only [Pdu.octets, Sl.dataPdu, s.dataNumbers_length, List.append_assoc]

theorem Sl.dataPdu_length :
    (s.dataPdu m behind).octets.length =
      8 + s.version.hlen + (gather (m :: behind) m.size).length := by
  rw [s.dataPdu_octets, List.length_append, List.length_append,
    List.length_append, s.dataNumbers_length]
  show 4 + (4 + _) = _
  omega

theorem Sl.dataPdu_drop :
    (s.dataPdu m behind).octets.drop 8 =
      s.dataNumbers.octets ++ gather (m :: behind) m.size := by
  rw [s.dataPdu_octets]
  rfl

theorem Sl.dataPdu_body :
    ((s.dataPdu m behind).octets.drop 8).drop s.version.hlen =
      gather (m :: behind) m.size := by
  rw [s.dataPdu_drop, ← s.dataNumbers_length, List.drop_left]

end Encoding

section Acceptance

/-- A link that takes messages on to `rb` as it is. -/
def View.Takes (rb : List (List UInt8)) (v : View) : Prop :=
  v.recvMsu = true ∧ v.congDiscard = false ∧ v.rb = rb

theorem takes_steady (rb : List (List UInt8)) :
    Steady (View.Takes rb) where
  send _ _ _ takes := takes
  extend _ _ takes := takes

variable {p : Sl}

theorem slFsnCheck_passes {fsn : Nat} (expected : fsn = p.fsnx % p.version.space) :
    Triple (fun t => p = t) (slFsnCheck fsn true) (fun _ t => p.view = t.view)
      (fun _ => False) := by
  refine triple_get_bind fun t eq => ?_
  subst eq
  refine triple_ite (fun _ => triple_ite (fun _ => triple_pure fun _ eq => ?_)
    fun _ => triple_modify fun _ eq => ?_) fun other => absurd expected other
  · rw [eq]
  · rw [← eq]
    rfl

theorem slBsnCheck_passes {bsn : Nat} (takes : p.view.Takes p.rb)
    (inside : p.version.between bsn p.bsnr p.fsnt = true)
    (held : p.version.diff p.bsnr bsn ≤ p.rtb.length) :
    Triple (fun t => p.view = t.view) (slBsnCheck bsn)
      (fun _ t => t.view.Takes p.rb) (fun _ => False) := by
  refine triple_get_bind fun t same => ?_
  have version : p.version = t.version := congrArg View.version same
  have bsnr : p.bsnr = t.bsnr := congrArg View.bsnr same
  have fsnt : p.fsnt = t.fsnt := congrArg View.fsnt same
  have rtb : p.rtb = t.rtb := congrArg View.rtb same
  rw [version, bsnr, fsnt] at inside
  rw [version, bsnr, rtb] at held
  rw [same] at takes
  rw [if_pos inside]
  refine triple_bind (R := fun _ (t : Sl) => t.view.Takes p.rb)
    (triple_when (fun _ => ?_) fun _ _ eq => eq ▸ takes) fun _ =>
    triple_modify fun _ h => h
  refine triple_bind (triple_modify (Q := fun _ (t' : Sl) =>
    t'.view.Takes p.rb ∧ t'.rtb = t.rtb) fun _ eq => eq ▸ ⟨takes, rfl⟩)
    fun _ => triple_bind (R := fun _ (t : Sl) => t.view.Takes p.rb)
    (fun t' ⟨takes', rtb'⟩ => ?_) fun _ => triple_modify fun _ h => h
  refine slTxcDatack_leads (E := fun _ => False) (takes_steady p.rb)
    (fun _ => takes') (fun _ => takes') (fun missing => ?_) t' rfl
  rw [rtb'] at missing
  omega

theorem slReceive_absorbs {rb : List (List UInt8)} {octets : List UInt8}
    (long : 4 < octets.length) (fsn : Nat) :
    Triple (fun t => t.view.Takes rb) (slReceive fsn octets)
      (fun q t => q = .absorbed ∧ t.rb = rb ++ [octets])
      (fun _ => False) := by
  refine triple_get_bind fun t ⟨recv, clear, held⟩ => ?_
  have recv' : t.flags.recvMsu = true := recv
  have clear' : t.flags.congDiscard = false := clear
  rw [if_pos recv', if_neg (by simp [clear']), if_pos long]
  have busying : Busying fun v => v.rb = rb ++ [octets] :=
    ⟨⟨⟨fun _ _ _ h => h⟩, fun _ _ h => h⟩, fun _ _ h => h⟩
  refine triple_bind (R := fun _ (t : Sl) => t.view.rb = rb ++ [octets])
    (triple_modify fun _ eq => ?_) fun _ => triple_bind
    (ignoring_total (slRbCongestionFunction_keeps busying)) fun _ =>
    triple_bind (R := fun _ (t : Sl) => t.view.rb = rb ++ [octets])
    (triple_modify fun _ h => h) fun _ => triple_pure fun _ h => ⟨rfl, h⟩
  subst eq
  show t.rb ++ [octets] = rb ++ [octets]
  rw [show t.rb = rb from held]

end Acceptance

structure Matches (s p : Sl) : Prop where
  version : p.version = s.version
  pvar : p.pvar = s.pvar
  serves : p.state = .inService
  receives : p.flags.recvMsu = true
  uncongested : p.flags.congDiscard = false
  expected : s.version.bare = false →
    p.fsnx % s.version.space = (s.fsnt + 1) % s.version.space
  acknowledged : s.version.bare = false →
    s.version.between (s.fsnr % s.version.space) p.bsnr p.fsnt = true
  held : s.version.bare = false →
    s.version.diff p.bsnr (s.fsnr % s.version.space) ≤ p.rtb.length

section Transfer

variable {s p : Sl} {m : Msg} {behind : List Msg}

theorem slRcSnCheck_passes (matched : Matches s p) {body : List UInt8}
    (long : 4 < body.length) :
    Triple (fun t => p = t) (slRcSnCheck (s.dataNumbers.octets ++ body))
      (fun left t => left = body ∧ t.view.Takes p.rb) (fun _ => False) := by
  have takes : p.view.Takes p.rb :=
    ⟨matched.receives, matched.uncongested, rfl⟩
  have drop : (s.dataNumbers.octets ++ body).drop s.version.hlen = body := by
    rw [← s.dataNumbers_length, List.drop_left]
  refine triple_get_bind fun t eq => ?_
  subst eq
  simp only [matched.version]
  cases bare : s.version.bare with
  | true =>
      have none : s.dataNumbers.octets = [] := by
        simp [Sl.dataNumbers, bare, Numbers.octets]
      refine triple_pure fun _ eq => ⟨?_, eq ▸ takes⟩
      rw [none, List.nil_append]
  | false =>
      have fits : s.version.hlen ≤
          (s.dataNumbers.octets ++ body).length := by
        rw [List.length_append, s.dataNumbers_length]
        omega
      rw [if_neg (by decide), if_pos fits, drop, decide_eq_true long,
        s.fsnOf_dataNumbers bare, s.bsnOf_dataNumbers bare]
      refine triple_bind (slFsnCheck_passes ?_) fun _ =>
        triple_bind (slBsnCheck_passes takes ?_ ?_) fun _ =>
        triple_pure fun _ h => ⟨rfl, h⟩
      · rw [matched.version]
        exact (matched.expected bare).symm
      · rw [matched.version]
        exact matched.acknowledged bare
      · rw [matched.version]
        exact matched.held bare

theorem slRcSignalUnit_absorbs (matched : Matches s p) {body : List UInt8}
    (long : 4 < body.length) :
    Triple (fun t => p = t) (slRcSignalUnit (s.dataNumbers.octets ++ body))
      (fun q t => q = .absorbed ∧ t.rb = p.rb ++ [body])
      (fun _ => False) := by
  let p' : Sl := { p with flags.remAln := false }
  have matched' : Matches s p' := { matched with }
  refine triple_bind (R := fun _ t => p' = t)
    (triple_modify fun _ eq => eq ▸ rfl) fun _ =>
    triple_get_bind fun t eq => ?_
  subst eq
  have state : p'.state = .inService := matched.serves
  simp only [state]
  refine triple_bind (slRcSnCheck_passes matched' long) fun left => ?_
  rintro t ⟨rfl, takes⟩
  exact slReceive_absorbs long _ t takes

theorem slRecvData_absorbs (matched : Matches s p) (body : List UInt8)
    (long : s.rlen < body.length) :
    Triple (fun t => p = t) (slRecvData (s.dataNumbers.octets ++ body))
      (fun q t => q = .absorbed ∧ t.rb = p.rb ++ [body])
      (fun _ => False) := by
  have label : 5 ≤ s.rlen := by
    unfold Sl.rlen
    split <;> omega
  have same : p.rlen = s.rlen := by
    unfold Sl.rlen
    rw [matched.pvar]
  refine triple_get_bind fun t eq => ?_
  subst eq
  have fits : p.version.hlen + p.rlen <
      (s.dataNumbers.octets ++ body).length := by
    rw [List.length_append, s.dataNumbers_length, matched.version, same]
    omega
  rw [if_pos (Or.inl fits)]
  exact slRcSignalUnit_absorbs matched (by omega)

theorem slRecvMsg_dataPdu (s : Sl) (m : Msg) (behind : List Msg) :
    slRecvMsg (s.dataPdu m behind).octets =
      if 8 + s.version.hlen + (gather (m :: behind) m.size).length =
          PAD4 ((m.size + 8 + s.version.hlen) % 2 ^ 32) % 2 ^ 32 then
        slRecvData (s.dataNumbers.octets ++ gather (m :: behind) m.size)
      else throw .EMSGSIZE := by
  have length := s.dataPdu_length m behind
  have kind : MsgType.ofCode (ntohl (s.dataPdu m behind).octets) =
      some .data := by
    rw [s.dataPdu_octets, ntohl_be32]
    rfl
  have size : ntohl ((s.dataPdu m behind).octets.drop 4) =
      (m.size + 8 + s.version.hlen) % 2 ^ 32 := by
    rw [s.dataPdu_octets]
    exact ntohl_be32 _ _
  unfold slRecvMsg
  rw [if_pos (by omega), kind, size, length, s.dataPdu_drop]

theorem slRecvMsg_queues (p : Sl) (octets : List UInt8) :
    Triple (fun t => p = t) (slRecvMsg octets)
      (fun q t => q = .absorbed →
        t.rb = p.rb ++ [(octets.drop 8).drop p.version.hlen])
      (fun _ => True) := by
  have lasting := View.intake_lasting fun version _ rb =>
    version = p.version ∧ rb = p.rb
  refine triple_conseq (slRecvMsg_leads lasting (slRcSignalUnit_leads lasting
    (fun s fsn same => ?_) (fun _ _ => nofun) fun _ _ => trivial)
    (fun _ _ => nofun) fun _ _ => trivial) (fun _ eq => eq ▸ ⟨rfl, rfl⟩)
    (fun _ _ h => h) fun _ h => h
  have version : s.version = p.version := same.1
  rw [version]
  have busying (rb : List (List UInt8)) : Busying fun v => v.rb = rb :=
    ⟨⟨⟨fun _ _ _ h => h⟩, fun _ _ h => h⟩, fun _ _ h => h⟩
  refine triple_get_bind fun t ⟨⟨_, held⟩, _⟩ => triple_ite (fun _ =>
    triple_ite (fun _ => triple_throw fun _ _ => trivial) fun _ =>
    triple_ite (fun _ => ?_) fun _ => triple_pure fun _ _ => nofun)
    fun _ => triple_throw fun _ _ => trivial
  refine triple_bind (R := fun _ (t : Sl) => t.view.rb = p.rb ++
    [(octets.drop 8).drop p.version.hlen]) (triple_modify fun _ eq => ?_)
    fun _ => triple_bind (ignoring_total
      (slRbCongestionFunction_keeps (busying _))) fun _ =>
    triple_bind (R := fun _ (t : Sl) => t.view.rb = p.rb ++
      [(octets.drop 8).drop p.version.hlen]) (triple_modify fun _ h => h)
    fun _ => triple_pure fun _ h _ => h
  subst eq
  show t.rb ++ _ = _
  rw [show t.rb = p.rb from held]

theorem padded_iff {n : Nat} (large : 8 ≤ n) :
    n = PAD4 (n % 2 ^ 32) % 2 ^ 32 ↔ n % 4 = 0 ∧ n < 2 ^ 32 := by
  unfold PAD4
  omega

/-- The peer queues the message of data exactly when its length is a multiple
of four, fits the length field, and the first blocks in the queue begin with
its octets. -/
theorem data_accepted_iff (s p : Sl) (m : Msg) (behind : List Msg) (env : Env)
    (matched : Matches s p) (long : s.rlen < m.size) :
    (∃ t, (slRecvMsg (s.dataPdu m behind).octets).exec (p.enter env) =
        (.ok .absorbed, t) ∧ t.rb = p.rb ++ [m.flatten]) ↔
      m.size % 4 = 0 ∧ m.size + 8 + s.version.hlen < 2 ^ 32 ∧
        m.flatten <+: ((m :: behind).map (List.headD · [])).flatten := by
  have matched' : Matches s (p.enter env) := { matched with }
  have header : s.version.hlen % 4 = 0 := by
    unfold Version.hlen
    split
    · rfl
    · split <;> rfl
  rw [← gather_eq_flatten]
  constructor
  · rintro ⟨t, ended, queued⟩
    have body := slRecvMsg_queues (p.enter env) (s.dataPdu m behind).octets
      (p.enter env) rfl
    rw [ended] at body
    have octets : m.flatten = gather (m :: behind) m.size := by
      have both := (queued.symm.trans (body rfl))
      rw [show (p.enter env).version = s.version from matched.version,
        s.dataPdu_body] at both
      simpa using List.append_cancel_left both
    rw [slRecvMsg_dataPdu, ← octets] at ended
    split at ended
    case isTrue fits =>
      have size : m.flatten.length = m.size := rfl
      rw [size, show 8 + s.version.hlen + m.size =
        m.size + 8 + s.version.hlen by omega, padded_iff (by omega)] at fits
      exact ⟨by omega, fits.2, octets.symm⟩
    case isFalse =>
      have failed : (Except.error SlError.EMSGSIZE : Except SlError Qr) =
        .ok .absorbed := congrArg Prod.fst ended
      cases failed
  · rintro ⟨four, fits, octets⟩
    have size : m.flatten.length = m.size := rfl
    have absorbs := slRecvData_absorbs matched' m.flatten
      (by rw [size]; exact long) (p.enter env) rfl
    rw [slRecvMsg_dataPdu, octets, size, if_pos]
    · cases ended : (slRecvData (s.dataNumbers.octets ++ m.flatten)).exec
        (p.enter env) with
      | mk result t =>
          rw [ended] at absorbs
          cases result with
          | error _ => exact absorbs.elim
          | ok q => exact ⟨t, by rw [absorbs.1], absorbs.2⟩
    · rw [show 8 + s.version.hlen + m.size = m.size + 8 + s.version.hlen by
        omega, padded_iff (by omega)]
      omega

end Transfer

def servingLink : Sl :=
  (Sl.allocated .rfc4165 0 true false slDefault fun _ => false).run intoService

theorem servingLink_matches : Matches servingLink servingLink where
  version := rfl
  pvar := rfl
  serves := by decide
  receives := by decide
  uncongested := by decide
  expected := by decide
  acknowledged := by decide
  held := by decide

theorem data_accepted_iff_eight :
    (∃ t, (slRecvMsg (servingLink.dataPdu [[1, 2, 3, 4, 5, 6, 7, 8]]
      []).octets).exec (servingLink.enter .calm) = (.ok .absorbed, t) ∧
      t.rb = servingLink.rb ++ [[1, 2, 3, 4, 5, 6, 7, 8]]) ↔
    8 % 4 = 0 ∧ 8 + 8 + 8 < 2 ^ 32 ∧
      ([1, 2, 3, 4, 5, 6, 7, 8] : List UInt8) <+: [1, 2, 3, 4, 5, 6, 7, 8] :=
  data_accepted_iff servingLink servingLink [[1, 2, 3, 4, 5, 6, 7, 8]] [] .calm
    servingLink_matches (by decide)

theorem unpadded_data_refused :
    ¬ ∀ (s p : Sl) (m : Msg) (behind : List Msg) (env : Env), Matches s p →
      s.rlen < m.size →
      ∃ t, (slRecvMsg (s.dataPdu m behind).octets).exec (p.enter env) =
        (.ok .absorbed, t) ∧ t.rb = p.rb ++ [m.flatten] := by
  intro claim
  obtain ⟨t, ended, _⟩ := claim servingLink servingLink [[1, 2, 3, 4, 5, 6]]
    [] .calm servingLink_matches (by decide)
  have refused : ((slRecvMsg (servingLink.dataPdu [[1, 2, 3, 4, 5, 6]]
    []).octets).exec (servingLink.enter .calm)).1 = .error .EMSGSIZE := rfl
  rw [ended] at refused
  cases refused

end OpenSS7.M2pa
