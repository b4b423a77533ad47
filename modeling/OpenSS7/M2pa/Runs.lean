import OpenSS7.M2pa.Handling

/-!
What a received message can do to the view. A property that follows the rules
lasts over whole runs.
-/

namespace OpenSS7.M2pa

open Program

section Reception

variable {J : View → Prop}

theorem Sl.release_view (bsn count : Nat) (s : Sl) :
    (s.release bsn count).2.view = s.view.release bsn count ∧
      (s.release bsn count).1 = count - s.rtb.length := by
  induction count generalizing s with
  | zero => simp [Sl.release, View.release, Sl.view]
  | succ count ih =>
      unfold Sl.release
      cases held : s.rtb with
      | nil => simp [View.release, Sl.view, held]
      | cons m rest =>
          obtain ⟨view, left⟩ := ih { s with
            rtb := rest
            tack := decrement s.tack
            freed := s.freed ++ [⟨m.fsn, bsn, s.bsnr⟩] }
          have tack : decrement^[min (count + 1) (m :: rest).length] s.tack =
              decrement^[min count rest.length] (decrement s.tack) := by
            rw [List.length_cons, Nat.succ_min_succ]
            exact Function.iterate_succ_apply decrement _ _
          refine ⟨view.trans ?_, left.trans ?_⟩
          · simp only [View.release, Sl.view, held, tack, List.drop_succ_cons,
              List.take_succ_cons, List.map_cons, List.append_assoc,
              List.cons_append, List.nil_append]
          · simp

theorem ignoring_total {I E : Sl → Prop} {m : SlM Unit} (keeps : Keeps I m) :
    Triple I (ignoring m) (fun _ => I) E :=
  triple_tryCatch keeps fun _ => triple_pure fun _ h => h

theorem slTxWakeup_total (steady : Steady J) {E : Sl → Prop} :
    Triple (fun s => J s.view) slTxWakeup (fun _ s => J s.view) E := by
  refine ignoring_total (keeps_bind keeps_get fun s =>
    keeps_ite ?_ (keeps_pure _))
  exact keeps_bind (keeps_when (slSendAck_keeps steady.toTelling)) fun _ =>
    keeps_bind keeps_get fun _ => keeps_when (slTxLoop_keeps steady _)

theorem slTxcDatack_leads {E : View → Prop} (steady : Steady J) {s : Sl}
    {bsn count : Nat}
    (released : s.state.releases = true → J (s.view.release bsn count))
    (kept : s.state.releases = false → J s.view)
    (missing : s.rtb.length < count → Closed J ∧ ∀ v, J v → E v) :
    Triple (fun s' => s = s') (slTxcDatack bsn count) (fun _ s => J s.view)
      (fun s => E s.view) := by
  refine triple_get_bind fun s' eq => ?_
  subst eq
  refine triple_ite (fun releases => ?_) fun holds => triple_pure fun _ eq =>
    eq ▸ kept (by simpa using holds)
  have after := Sl.release_view bsn count s
  refine triple_bind (R := fun _ (s : Sl) => J s.view)
    (triple_modify fun s' eq => ?_) fun _ => triple_ite (fun _ => ?_)
    fun left => ?_
  · subst eq
    rw [after.1]
    exact released releases
  · exact triple_bind (R := fun _ (s : Sl) => J s.view)
      (triple_modify fun s h => h) fun _ =>
      triple_bind (ignoring_total slCheckCongestion_keeps) fun _ =>
        slTxWakeup_total steady
  · rw [after.2] at left
    obtain ⟨closed, weaken⟩ := missing (by omega)
    have fails (m : SlM Unit) (keeps : Keeps (fun s => J s.view) m) :
        Triple (fun s => J s.view) m (fun _ s => J s.view)
          (fun s => E s.view) :=
      triple_conseq keeps (fun _ h => h) (fun _ _ h => h)
        fun s h => weaken s.view h
    exact triple_ite (fun _ => fails _ (fail_keeps closed _ _)) fun _ =>
      fails _ (keeps_quiet fun _ => rfl)

theorem Closed.acknowledged (closed : Closed J) (bsn : Nat) :
    Closed (fun v => J { v with bsnr := bsn }) where
  send v := closed.send { v with bsnr := bsn }
  extend v := closed.extend { v with bsnr := bsn }
  congest v := closed.congest { v with bsnr := bsn }
  turn v state sendMsu recvMsu fits :=
    closed.turn { v with bsnr := bsn } state sendMsu recvMsu fun ok =>
      ⟨(fits ⟨ok.sends, ok.receives⟩).sends,
        (fits ⟨ok.sends, ok.receives⟩).receives⟩
  slip v := closed.slip { v with bsnr := bsn }

theorem Closed.and {K : View → Prop} (closed : Closed J) (other : Closed K) :
    Closed (fun v => J v ∧ K v) where
  send v pdu told h := ⟨closed.send v pdu told h.1, other.send v pdu told h.2⟩
  extend v m h := ⟨closed.extend v m h.1, other.extend v m h.2⟩
  congest v discard h :=
    ⟨closed.congest v discard h.1, other.congest v discard h.2⟩
  turn v state sendMsu recvMsu fits h :=
    ⟨closed.turn v state sendMsu recvMsu fits h.1,
      other.turn v state sendMsu recvMsu fits h.2⟩
  slip v state sendMsu recvMsu x h :=
    ⟨closed.slip v state sendMsu recvMsu x h.1,
      other.slip v state sendMsu recvMsu x h.2⟩

section

variable (lasting : Lasting J)

include lasting

theorem slBadBsn_keeps : Keeps (fun s => J s.view) slBadBsn :=
  keeps_bind keeps_get fun _ => keeps_ite
    (keeps_bind (fail_keeps lasting.toClosed _ _) fun _ => keeps_throw _)
    (keeps_quiet fun _ => rfl)

theorem slTxcDatack_acknowledges {s : Sl} {bsn count : Nat}
    (holds : J s.view)
    (right : s.missteps ≠ [] ∨ s.view.Counts bsn count ∧
      (s.state.releases = true ∨ count = 0)) :
    Triple (fun s' => s = s') (slTxcDatack bsn count)
      (fun _ s => J { s.view with bsnr := bsn }) (fun s => J s.view) := by
  have closed := lasting.toClosed
  have both := closed.and (closed.acknowledged bsn)
  have weaken {m : SlM Unit} {P : Sl → Prop} (triple : Triple P m
      (fun _ s => J s.view ∧ J { s.view with bsnr := bsn })
      (fun s => J s.view)) :
      Triple P m (fun _ s => J { s.view with bsnr := bsn })
        (fun s => J s.view) :=
    triple_conseq triple (fun _ h => h) (fun _ _ h => h.2) fun _ h => h
  rcases right with noted | ⟨counts, releases⟩
  · refine weaken (slTxcDatack_leads (E := J) both.toSteady
      (fun _ => ⟨?_, ?_⟩) (fun _ => ⟨holds, ?_⟩) fun _ => ⟨both, fun _ h => h.1⟩)
    · exact lasting.loose s.view s.fsnt s.bsnr _ _ _ noted holds
    · exact lasting.loose s.view s.fsnt bsn _ _ _ noted holds
    · exact lasting.loose s.view s.fsnt bsn s.tack s.rtb s.freed noted holds
  · obtain ⟨acknowledged, short⟩ := lasting.acknowledge s.view bsn count
      counts holds
    by_cases missing : s.rtb.length < count
    · refine weaken (slTxcDatack_leads (E := J) both.toSteady
        (fun _ => ⟨short missing, acknowledged⟩) (fun idle => ?_)
        fun _ => ⟨both, fun _ h => h.1⟩)
      rw [idle] at releases
      have zero : count = 0 := by simpa using releases
      omega
    · refine slTxcDatack_leads (E := J) (closed.acknowledged bsn).toSteady
        (fun _ => acknowledged) (fun idle => ?_)
        fun present => absurd present missing
      rw [idle] at releases
      have zero : count = 0 := by simpa using releases
      subst zero
      simpa [View.release] using acknowledged

theorem slBsnCheck_keeps (bsn : Nat) :
    Keeps (fun s => J s.view) (slBsnCheck bsn) := by
  refine triple_get_bind fun s holds => triple_ite (fun _ => ?_) fun _ =>
    triple_conseq (slBadBsn_keeps lasting) (fun _ eq => eq ▸ holds)
      (fun _ _ h => h) fun _ h => h
  refine triple_bind (R := fun _ (s : Sl) => J s.view)
    (triple_when (fun _ => ?_) fun _ _ eq => eq ▸ holds) fun _ =>
    keeps_quiet fun _ => rfl
  let count := s.version.diff s.bsnr bsn
  let noted : Sl := { s with
    missteps := s.missteps ++
      if count = s.version.forward s.bsnr bsn ∧
          count ≤ s.version.forward s.bsnr s.fsnt ∧
          (s.state.releases ∨ count = 0) then []
      else [.miscounted] }
  refine triple_bind (R := fun _ (s' : Sl) => noted = s')
    (triple_modify fun _ eq => eq ▸ rfl) fun _ =>
    triple_bind (slTxcDatack_acknowledges lasting ?_ ?_) fun _ =>
      triple_modify fun _ h => h
  · unfold noted
    split
    · rw [List.append_nil]
      exact holds
    · exact lasting.misstep s.view .miscounted holds
  · unfold noted
    split
    case isTrue right =>
      exact Or.inr ⟨⟨right.1, right.2.1⟩, right.2.2⟩
    case isFalse =>
      left
      simp

theorem slFsnCheck_keeps (fsn : Nat) (msu : Bool) :
    Keeps (fun s => J s.view) (slFsnCheck fsn msu) := by
  refine keeps_bind keeps_get fun s => keeps_ite
    (keeps_ite (keeps_pure _) (keeps_quiet fun _ => rfl))
    (keeps_ite (keeps_throw _) (keeps_ite ?_ ?_))
  · exact keeps_bind (fail_keeps lasting.toClosed _ _) fun _ => keeps_throw _
  · exact keeps_bind (keeps_quiet fun _ => rfl) fun _ => keeps_throw _

end

def View.Expects (v : View) (length fsn : Nat) : Prop :=
  4 < length → v.version.bare = false → fsn = v.fsnx % v.version.space

theorem Lasting.expects (lasting : Lasting J) (length fsn : Nat) :
    Lasting (fun v => J v ∧ v.Expects length fsn) where
  send v pdu told h := ⟨lasting.send v pdu told h.1, h.2⟩
  extend v m h := ⟨lasting.extend v m h.1, h.2⟩
  congest v discard h := ⟨lasting.congest v discard h.1, h.2⟩
  turn v state sendMsu recvMsu fits h :=
    ⟨lasting.turn v state sendMsu recvMsu fits h.1, h.2⟩
  slip v state sendMsu recvMsu x h :=
    ⟨lasting.slip v state sendMsu recvMsu x h.1, h.2⟩
  misstep v x h := ⟨lasting.misstep v x h.1, h.2⟩
  loose v fsnt bsnr tack rtb freed noted h :=
    ⟨lasting.loose v fsnt bsnr tack rtb freed noted h.1, h.2⟩
  empty v none h := ⟨lasting.empty v none h.1, h.2⟩
  recover v h := ⟨lasting.recover v h.1, h.2⟩
  renumber v fsnt same h := ⟨lasting.renumber v fsnt same h.1, h.2⟩
  acknowledge v bsn count counts h :=
    have after := lasting.acknowledge v bsn count counts h.1
    ⟨⟨after.1, h.2⟩, fun missing => ⟨after.2 missing, h.2⟩⟩

section

variable (lasting : Lasting J)

include lasting

theorem slFsnCheck_expects {s : Sl} (holds : J s.view) (fsn length : Nat) :
    Triple (fun s' => s = s') (slFsnCheck fsn (decide (4 < length)))
      (fun _ s => J s.view ∧ s.view.Expects length fsn)
      (fun s => J s.view) := by
  have kept := triple_conseq (slFsnCheck_keeps lasting fsn
    (decide (4 < length))) (fun s' (eq : s = s') => eq ▸ holds)
    (fun _ _ h => h) fun _ h => h
  refine triple_get_bind fun s' eq => ?_
  subst eq
  refine triple_ite (fun same => ?_) fun other => ?_
  · have expects : s.view.Expects length fsn := fun long _ => by
      rw [if_pos (decide_eq_true long)] at same
      exact same
    exact triple_ite (fun _ => triple_pure fun _ eq => eq ▸ ⟨holds, expects⟩)
      fun _ => triple_modify fun _ eq => eq ▸ ⟨holds, expects⟩
  · have refuse {m : SlM Unit} (keeps : Keeps (fun s => J s.view) m) :
        Triple (fun s' => s = s') (do m; throw .EPROTO : SlM Unit)
          (fun _ s => J s.view ∧ s.view.Expects length fsn)
          (fun s => J s.view) :=
      triple_bind (triple_conseq keeps (fun _ eq => eq ▸ holds)
        (fun _ _ h => h) fun _ h => h) fun _ => triple_throw fun _ h => h
    exact triple_ite (fun _ => triple_throw fun _ eq => eq ▸ holds) fun _ =>
      triple_ite (fun _ => refuse (fail_keeps lasting.toClosed _ _)) fun _ =>
        refuse (keeps_quiet fun _ => rfl)

theorem slRcSnCheck_expects {s : Sl} (holds : J s.view)
    (octets : List UInt8) :
    Triple (fun s' => s = s') (slRcSnCheck octets)
      (fun left s' => left = octets.drop s.version.hlen ∧ J s'.view ∧
        s'.view.Expects left.length (s.version.fsnOf octets))
      (fun s => J s.view) := by
  refine triple_get_bind fun s' eq => ?_
  subst eq
  refine triple_ite (fun bare => triple_pure fun _ eq => ?_) fun _ =>
    triple_ite (fun _ => ?_) fun _ => triple_throw fun _ eq => eq ▸ holds
  · subst eq
    refine ⟨by simp [Version.hlen, bare], holds, fun _ numbered => ?_⟩
    exact absurd (bare.symm.trans numbered) nofun
  · refine triple_bind (slFsnCheck_expects lasting holds _ _) fun _ =>
      triple_bind (triple_conseq (slBsnCheck_keeps (lasting.expects _ _) _)
        (fun _ h => h) (fun _ _ h => h) fun _ h => h.1) fun _ =>
      triple_pure fun _ h => ⟨rfl, h⟩

theorem slRcSignalUnit_leads {K : Qr → Sl → Prop} {E : Sl → Prop}
    {octets : List UInt8}
    (receive : ∀ (s : Sl) fsn, J s.view → Triple (fun s' => J s'.view ∧
      s'.view.Expects (octets.drop s.version.hlen).length fsn)
      (slReceive fsn (octets.drop s.version.hlen)) K E)
    (done : ∀ s : Sl, J s.view → K .done s)
    (stop : ∀ s : Sl, J s.view → E s) :
    Triple (fun s => J s.view) (slRcSignalUnit octets) K E := by
  refine triple_bind (R := fun _ (s : Sl) => J s.view)
    (triple_modify fun _ h => h) fun _ => triple_get_bind fun s holds => ?_
  let fsn := s.version.fsnOf octets
  let rest := octets.drop s.version.hlen
  let R (left : List UInt8) (s' : Sl) : Prop :=
    left = rest ∧ J s'.view ∧ s'.view.Expects left.length fsn
  have checked : Triple (fun s' => s = s') (slRcSnCheck octets) R E :=
    triple_conseq (slRcSnCheck_expects lasting holds octets) (fun _ h => h)
      (fun _ _ h => h) stop
  have told (left : List UInt8) :
      Triple (R left) (ind .inService) (fun _ => R left) E :=
    triple_conseq (ind_keeps (J := fun v => left = rest ∧ J v ∧
      v.Expects left.length fsn) _) (fun _ h => h) (fun _ _ h => h)
      fun s' h => stop s' h.2.1
  have turns (left : List UInt8) := (lasting.expects left.length fsn).turn
  have ends (left : List UInt8) :
      Triple (R left) (slReceive fsn left) K E := by
    rintro s' ⟨rfl, h⟩
    exact receive s fsn holds s' h
  split
  case h_1 => exact triple_pure fun _ eq => eq ▸ done s holds
  case h_2 => exact triple_pure fun _ eq => eq ▸ done s holds
  case h_3 =>
    refine triple_bind checked fun left => triple_bind (told left) fun _ =>
      triple_bind (triple_modify fun s' h => ⟨h.1, ?_⟩) fun _ => ends left
    exact turns left s'.view .processorOutage false false
      (fun _ => .clear rfl rfl) h.2
  case h_4 =>
    refine triple_bind checked fun left => triple_bind (told left) fun _ =>
      triple_bind (triple_modify fun s' h => ⟨h.1, ?_⟩) fun _ => ends left
    exact turns left s'.view .inService true true (fun _ => .inService rfl)
      h.2
  case h_5 => exact triple_bind checked ends

end

section

variable (lasting : Lasting J)

include lasting

theorem slRecvDatack_keeps (octets : List UInt8) :
    Triple (fun s => J s.view) (slRecvDatack octets)
      (fun q s => q = .done ∧ J s.view) (fun s => J s.view) := by
  refine triple_bind (R := fun _ (s : Sl) => J s.view)
    (triple_modify fun _ h => h) fun _ => triple_get_bind fun s holds => ?_
  have refuse (e : SlError) : Triple (fun s' => s = s') (throw e : SlM Qr)
      (fun q s => q = .done ∧ J s.view) (fun s => J s.view) :=
    triple_throw fun _ eq => eq ▸ holds
  refine triple_ite (fun _ => triple_ite (fun _ => triple_ite (fun _ => ?_)
    fun _ => refuse _) fun _ => refuse _) fun _ => refuse _
  let noted : Sl := { s with missteps := s.missteps ++ [.uncounted] }
  have missed : noted.missteps ≠ [] := by simp [noted]
  have kept : J noted.view := lasting.misstep s.view .uncounted holds
  refine triple_bind (R := fun _ (s' : Sl) => noted = s')
    (triple_modify fun _ eq => eq ▸ rfl) fun _ =>
    triple_bind (slTxcDatack_leads (E := J) lasting.toSteady
      (fun _ => ?_) (fun _ => kept) fun _ => ⟨lasting.toClosed,
        fun _ h => h⟩) fun _ =>
    triple_pure fun _ h => ⟨rfl, h⟩
  exact lasting.loose noted.view noted.fsnt noted.bsnr _ _ _ missed kept

theorem slRecvMsg_leads {K : Qr → Sl → Prop} {E : Sl → Prop}
    {octets : List UInt8}
    (unit : Triple (fun s => J s.view) (slRcSignalUnit (octets.drop 8)) K E)
    (done : ∀ s : Sl, J s.view → K .done s)
    (stop : ∀ s : Sl, J s.view → E s) :
    Triple (fun s => J s.view) (slRecvMsg octets) K E := by
  have closed := lasting.toClosed
  have refuse (e : SlError) :
      Triple (fun s => J s.view) (throw e : SlM Qr) K E :=
    triple_throw stop
  have answer {m : SlM Unit} (keeps : Keeps (fun s => J s.view) m) :
      Triple (fun s => J s.view) (do m; pure .done : SlM Qr) K E :=
    triple_bind (triple_conseq keeps (fun _ h => h) (fun _ _ h => h) stop)
      fun _ => triple_pure done
  have read {m : Sl → SlM Qr}
      (each : ∀ s, Triple (fun s => J s.view) (m s) K E) :
      Triple (fun s => J s.view) (get >>= m) K E :=
    triple_bind (R := fun _ (s : Sl) => J s.view) (triple_get fun _ h => h)
      each
  refine triple_ite (fun _ => ?_) fun _ => refuse _
  split
  case h_2 => exact refuse _
  case h_1 type _ =>
    refine triple_ite (fun _ => ?_) fun _ => refuse _
    cases type with
    | data => exact read fun _ => triple_ite (fun _ => unit) fun _ => refuse _
    | proving =>
        exact triple_bind (R := fun _ (s : Sl) => J s.view)
          (triple_modify fun _ h => h) fun _ => read fun _ =>
          triple_ite (fun _ => triple_pure done) fun _ => refuse _
    | ack =>
        exact triple_conseq (slRecvDatack_keeps lasting _) (fun _ h => h)
          (fun q s h => h.1 ▸ done s h.2) stop
    | status =>
        refine read fun s => triple_ite (fun _ => ?_) fun _ => refuse _
        split
        case h_1 => exact answer slLscStatusBusyEnded_keeps
        case h_2 => exact answer (slLscStatusInService_keeps lasting _)
        case h_3 =>
          exact answer (slLscStatusProcessorOutageEnded_keeps lasting _)
        case h_4 => exact answer (slLscStatusOutOfService_keeps closed)
        case h_5 => exact answer (slLscStatusProcessorOutage_keeps closed)
        case h_6 => exact answer slLscStatusBusy_keeps
        case h_7 => exact answer (slLscStatusAlignment_keeps closed)
        case h_8 => exact answer (slLscStatusProvingNormal_keeps closed)
        case h_9 => exact answer (slLscStatusProvingEmergency_keeps closed)
        case h_10 => exact unit
        case h_11 => exact refuse _

end

section

variable (receiving : Receiving J)

include receiving

theorem slReceive_leads (fsn : Nat) (octets : List UInt8) :
    Triple (fun s => J s.view ∧ s.view.Expects octets.length fsn)
      (slReceive fsn octets) (fun _ s => J s.view) (fun s => J s.view) := by
  have busying : Busying fun v => J { v with fsnx := (v.fsnx + 1) % 2 ^ 24 } :=
    { send := fun v => receiving.send
        { v with fsnx := (v.fsnx + 1) % 2 ^ 24 }
      extend := fun v => receiving.extend
        { v with fsnx := (v.fsnx + 1) % 2 ^ 24 }
      congest := fun v => receiving.congest
        { v with fsnx := (v.fsnx + 1) % 2 ^ 24 } }
  refine triple_bind (R := fun _ (s : Sl) => J s.view ∧
    s.view.Expects octets.length fsn) (triple_get fun _ h => h) fun _ =>
    triple_ite (fun _ => triple_ite (fun _ => triple_throw fun _ h => h.1)
      fun _ => triple_ite (fun long => ?_) fun _ => triple_pure fun _ h => h.1)
      fun _ => triple_throw fun _ h => h.1
  refine triple_bind (R := fun _ (s : Sl) =>
    J { s.view with fsnx := (s.fsnx + 1) % 2 ^ 24 })
    (triple_modify fun s h => ?_) fun _ =>
    triple_bind (ignoring_total (slRbCongestionFunction_keeps busying))
      fun _ => triple_bind (R := fun _ (s : Sl) => J s.view)
        (triple_modify fun _ h => h) fun _ => triple_pure fun _ h => h
  exact receiving.accept s.view fsn octets (h.2 long) h.1

theorem slRcSignalUnit_keeps (octets : List UInt8) :
    Keeps (fun s => J s.view) (slRcSignalUnit octets) :=
  slRcSignalUnit_leads receiving.toLasting
    (fun _ fsn _ => slReceive_leads receiving fsn _) (fun _ h => h)
    fun _ h => h

theorem slRxDeliver_keeps (fuel : Nat) :
    Keeps (fun s => J s.view) (slRxDeliver fuel) := by
  induction fuel with
  | zero => exact keeps_pure _
  | succ fuel ih =>
      refine triple_get_bind fun s holds => ?_
      split
      case h_1 => exact triple_pure fun _ eq => eq ▸ holds
      case h_2 octets rest held =>
        refine triple_bind (R := fun _ (s : Sl) => J s.view ∧
          s.view.rb = octets :: rest) (triple_conseq
          (ind_keeps (J := fun v => J v ∧ v.rb = octets :: rest) _)
          (fun _ eq => eq ▸ ⟨holds, held⟩) (fun _ _ h => h)
          fun _ h => h.1) fun _ =>
          triple_bind (R := fun _ (s : Sl) => J s.view)
            (triple_modify fun s h =>
              receiving.deliver s.view octets rest h.2 h.1) fun _ =>
          keeps_bind (ignoring_keeps
            (slRbCongestionFunction_keeps receiving.toBusying)) fun _ =>
          keeps_bind (keeps_quiet fun s => ?_) fun _ => ih
        split <;> rfl

theorem slRxWakeup_keeps : Keeps (fun s => J s.view) slRxWakeup :=
  ignoring_keeps (keeps_bind keeps_get fun _ => keeps_when
    (keeps_bind (slRxDeliver_keeps receiving _) fun _ => keeps_bind keeps_get
      fun _ => keeps_when (slSendAck_keeps receiving.toTelling)))

theorem slRecvMsg_keeps (octets : List UInt8) :
    Keeps (fun s => J s.view) (slRecvMsg octets) :=
  slRecvMsg_leads receiving.toLasting (slRcSignalUnit_keeps receiving _)
    (fun _ h => h) fun _ h => h

end

end Reception

section Runs

variable {J : View → Prop}

def Event.receives : Event → Bool
  | .recv _ | .rxWakeup | .congestionDiscard | .congestionAccept
  | .noCongestion => true
  | _ => false

theorem Event.receives_keeps (receiving : Receiving J) (event : Event)
    (receives : event.receives = true) :
    Keeps (fun s => J s.view) event.program := by
  have busying := receiving.toBusying
  cases event with
  | recv octets =>
      exact keeps_bind (slRecvMsg_keeps receiving octets) fun _ =>
        keeps_pure _
  | rxWakeup => exact slRxWakeup_keeps receiving
  | congestionDiscard => exact slLscCongestionDiscard_keeps busying
  | congestionAccept => exact slLscCongestionAccept_keeps busying
  | noCongestion => exact slLscNoCongestion_keeps busying
  | _ => cases receives

theorem Event.program_keeps (throughout : Throughout J) (event : Event) :
    Keeps (fun s => J s.view) event.program := by
  have closed := throughout.toClosed
  have steady := throughout.toSteady
  have receives := Event.receives_keeps throughout.toReceiving event
  cases event with
  | txWakeup => exact slTxWakeup_keeps steady
  | pdu m => exact slLscPdu_keeps steady m
  | powerOn => exact slLscPowerOn_keeps throughout
  | start => exact slLscStart_keeps throughout
  | stop => exact slLscStop_keeps closed
  | emergency => exact slLscEmergency_keeps steady
  | emergencyCeases => exact slLscEmergencyCeases_keeps
  | localProcessorOutage => exact slLscLocalProcessorOutage_keeps closed
  | resume => exact slLscResume_keeps closed
  | clearRtb => exact slLscClearRtb_keeps throughout.toLasting
  | clearBuffers => exact slLscClearBuffers_keeps throughout
  | retrieveBsnt => exact slLscRetrieveBsnt_keeps
  | retrieval fsnc =>
      exact slLscRetrievalRequestAndFsnc_keeps throughout.toLasting fsnc
  | t1Timeout => exact fail_keeps closed _ _
  | t2Timeout => exact alignmentTimeout_keeps closed _
  | t3Timeout => exact alignmentTimeout_keeps closed _
  | t4Timeout => exact slT4Timeout_keeps closed
  | t6Timeout => exact fail_keeps closed _ _
  | t7Timeout => exact fail_keeps closed _ _
  | _ => exact receives rfl

theorem Sl.handle_keeps (throughout : Throughout J) {s : Sl}
    (holds : J s.view) (env : Env) (event : Event) :
    J (s.handle env event).view :=
  triple_after (event.program_keeps throughout)
    (throughout.enter s.view holds)

theorem Sl.run_keeps (throughout : Throughout J) {s : Sl}
    (holds : J s.view) (events : List (Env × Event)) :
    J (s.run events).view := by
  induction events generalizing s with
  | nil => exact holds
  | cons event rest ih =>
      exact ih (s.handle_keeps throughout holds event.1 event.2)

theorem Sl.run_receives (receiving : Receiving J) {s : Sl}
    (holds : J s.view) {events : List (Env × Event)}
    (receives : ∀ e ∈ events, e.2.receives = true) :
    J (s.run events).view := by
  induction events generalizing s with
  | nil => exact holds
  | cons event rest ih =>
      refine ih (s := s.handle event.1 event.2) (triple_after
        (Event.receives_keeps receiving event.2 (receives event (by simp)))
        (receiving.enter s.view holds)) fun e inside => receives e ?_
      exact List.mem_cons_of_mem _ inside

end Runs

end OpenSS7.M2pa
