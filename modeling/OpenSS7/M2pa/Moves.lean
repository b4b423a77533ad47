import OpenSS7.M2pa.Reception

/-!
What the state machines of the module can do to the part of the state that
its properties speak of, the `View`: messages are sent, waiting messages are
transmitted, and the link turns from one state to another.
-/

namespace OpenSS7.M2pa

open Program

structure View where
  version : Version
  state : LinkState
  sendMsu : Bool
  recvMsu : Bool
  congDiscard : Bool
  fsnr : Nat
  bsnr : Nat
  fsnx : Nat
  fsnt : Nat
  tack : Nat
  rb : List (List UInt8)
  rtb : List Sent
  sent : List (Pdu × Nat)
  accepted : List (Nat × List UInt8)
  delivered : List (List UInt8)
  freed : List Release
  slips : List Slip
  missteps : List Misstep

def Sl.view (s : Sl) : View where
  version := s.version
  state := s.state
  sendMsu := s.flags.sendMsu
  recvMsu := s.flags.recvMsu
  congDiscard := s.flags.congDiscard
  fsnr := s.fsnr
  bsnr := s.bsnr
  fsnx := s.fsnx
  fsnt := s.fsnt
  tack := s.tack
  rb := s.rb
  rtb := s.rtb
  sent := s.sent
  accepted := s.accepted
  delivered := s.delivered
  freed := s.freed
  slips := s.slips
  missteps := s.missteps

namespace View

structure FlagsOk (v : View) : Prop where
  sends : v.sendMsu = true → v.state = .inService
  receives : v.recvMsu = true →
    v.state = .inService ∨ v.state = .processorOutage

def send (v : View) (pdu : Pdu) : View :=
  { v with sent := v.sent ++ [(pdu, v.delivered.length)] }

def Told (v : View) (pdu : Pdu) : Prop :=
  ∀ bsn, pdu.numbers.bsn = some bsn → bsn = v.fsnr % v.version.space

/-- The message `m` joins `rtb`. -/
def extend (v : View) (m : Msg) : View :=
  { v with
    fsnt := (v.fsnt + 1) % 2 ^ 24
    rtb := v.rtb ++ [⟨(v.fsnt + 1) % 2 ^ 24, m⟩]
    tack := (v.tack + 1) % 2 ^ 32
    missteps := v.missteps ++
      if v.rtb.length + 1 < v.version.space then [] else [.overrun] }

def turn (v : View) (state : LinkState) (sendMsu recvMsu : Bool) : View :=
  { v with state := state, sendMsu := sendMsu, recvMsu := recvMsu }

def slip (v : View) (x : Slip) : View := { v with slips := v.slips ++ [x] }

end View

structure Telling (J : View → Prop) : Prop where
  send : ∀ v pdu, v.Told pdu → J v → J (v.send pdu)

structure Steady (J : View → Prop) : Prop extends Telling J where
  extend : ∀ v m, J v → J (v.extend m)

structure Busying (J : View → Prop) : Prop extends Steady J where
  congest : ∀ v discard, J v → J { v with congDiscard := discard }

structure Closed (J : View → Prop) : Prop extends Busying J where
  turn : ∀ v state sendMsu recvMsu,
    (v.FlagsOk → (v.turn state sendMsu recvMsu).FlagsOk) →
    J v → J (v.turn state sendMsu recvMsu)
  slip : ∀ v state sendMsu recvMsu x,
    J v → J ((v.turn state sendMsu recvMsu).slip x)

/-- The property with the link as it is in `w`. -/
structure At (J : View → Prop) (w v : View) : Prop where
  holds : J v
  state : v.state = w.state
  sendMsu : v.sendMsu = w.sendMsu
  recvMsu : v.recvMsu = w.recvMsu

theorem At.here {J : View → Prop} {v : View} (holds : J v) : At J v v :=
  ⟨holds, rfl, rfl, rfl⟩

theorem Steady.at {J : View → Prop} (steady : Steady J) (w : View) :
    Steady (At J w) where
  send := fun v pdu told h => { h with holds := steady.send v pdu told h.holds }
  extend := fun v m h => { h with holds := steady.extend v m h.holds }

section Quiet

variable {J : View → Prop}

theorem keeps_quiet {f : Sl → Sl} (quiet : ∀ s, (f s).view = s.view) :
    Keeps (fun s => J s.view) (modify f : SlM PUnit) :=
  keeps_modify fun s holds => by
    rw [quiet]
    exact holds

theorem ind_keeps (i : Ind) : Keeps (fun s => J s.view) (ind i) :=
  keeps_bind keeps_get fun _ => keeps_bind (keeps_quiet fun _ => rfl)
    fun _ => keeps_ite (keeps_quiet fun _ => rfl) (keeps_throw _)

theorem notice_keeps (n : Notice) : Keeps (fun s => J s.view) (notice n) :=
  keeps_bind keeps_get fun _ => keeps_ite (ind_keeps _) (keeps_pure _)

theorem canputnextOq_keeps : Keeps (fun s => J s.view) canputnextOq :=
  fun _ holds => holds

theorem canputOq_keeps : Keeps (fun s => J s.view) canputOq :=
  fun _ holds => holds

theorem ignoring_keeps {I : Sl → Prop} {m : SlM Unit} (keeps : Keeps I m) :
    Keeps I (ignoring m) :=
  keeps_tryCatch keeps fun _ => keeps_pure _

theorem slCongestionNotice_keeps (onset : Bool) (cong disc : Nat) :
    Keeps (fun s => J s.view) (slCongestionNotice onset cong disc) := by
  refine keeps_bind keeps_get fun s => keeps_ite ?_ ?_
  · exact keeps_when (keeps_bind (keeps_quiet fun _ => rfl) fun _ =>
      keeps_when (ind_keeps _))
  · exact keeps_when (keeps_bind (keeps_quiet fun _ => rfl) fun _ =>
      keeps_when (ind_keeps _))

theorem slCheckCongestion_keeps :
    Keeps (fun s => J s.view) slCheckCongestion := by
  refine keeps_bind keeps_get fun s => keeps_bind (keeps_quiet fun _ => rfl)
    fun _ => keeps_when (keeps_ite (ignoring_keeps (ind_keeps _)) ?_)
  exact keeps_bind (slCongestionNotice_keeps _ _ _) fun _ =>
    ignoring_keeps (ind_keeps _)

theorem slRpoBegins_keeps (told : Bool) :
    Keeps (fun s => J s.view) (slRpoBegins told) :=
  keeps_bind keeps_get fun _ => keeps_ite (keeps_pure _)
    (keeps_bind (notice_keeps _) fun _ =>
      keeps_bind (keeps_when (ind_keeps _)) fun _ =>
        keeps_quiet fun _ => rfl)

theorem reaches_keeps {I : Sl → Prop} (level : Nat) {room : SlM Bool}
    (keeps : Keeps I room) : Keeps I (reaches level room) :=
  keeps_bind keeps_get fun _ => keeps_ite (keeps_pure _) (keeps_map keeps)

end Quiet

section Numbers

theorem Sl.numbers_told (s : Sl) (type : MsgType) (length : Nat)
    (body : List UInt8) : s.view.Told ⟨type, length, s.numbers, body⟩ := by
  intro bsn found
  simp only [Sl.numbers] at found
  simp only [Sl.view, Version.space]
  split at found
  · cases found
  · split at found
    · cases found
      simp_all
    · cases found
      simp_all

theorem Sl.statusNumbers_told (s : Sl) (type : MsgType) (length : Nat)
    (body : List UInt8) :
    s.view.Told ⟨type, length, s.statusNumbers, body⟩ := by
  unfold Sl.statusNumbers
  split
  · intro bsn found
    cases found
  · exact s.numbers_told type length body

theorem Sl.dataPdu_told (s : Sl) (dp : Msg) (behind : List Msg) :
    s.view.Told (s.dataPdu dp behind) := by
  intro bsn found
  simp only [Sl.dataPdu, Sl.dataNumbers] at found
  simp only [Sl.view, Version.space]
  split at found
  · cases found
  · split at found
    · cases found
      simp_all
    · cases found
      simp_all

theorem Sl.ackPdu_told {s : Sl} {pdu : Pdu} (acks : s.ackPdu = some pdu) :
    s.view.Told pdu := by
  intro bsn found
  obtain ⟨version, eq⟩ : ∃ v, s.version = v := ⟨_, rfl⟩
  show bsn = s.fsnr % s.version.space
  rw [eq]
  simp only [Sl.ackPdu, eq] at acks
  cases version <;> simp only [] at acks <;> (try split at acks) <;>
    cases acks <;> cases found <;> simp [Version.space, Version.short]

end Numbers

section Sending

variable {J : View → Prop}

section

variable (telling : Telling J)

include telling

theorem nDataReq_sends {s : Sl} {pdu : Pdu} (holds : J s.view)
    (told : s.view.Told pdu) :
    Triple (fun s' => s = s') (nDataReq pdu) (fun _ s => J s.view)
      (fun s => J s.view) := by
  refine triple_get_bind fun s' eq => ?_
  subst eq
  refine triple_bind (R := fun _ s' => J s'.view ∧ s'.view.Told pdu)
    (triple_modify fun _ eq => ?_) fun _ => ?_
  · subst eq
    exact ⟨holds, told⟩
  · split
    · exact triple_modify fun s' h => telling.send s'.view pdu h.2 h.1
    · exact triple_throw fun _ h => h.1

theorem slSendStatus_keeps (status : Status) :
    Keeps (fun s => J s.view) (slSendStatus status) :=
  triple_get_bind fun s holds =>
    nDataReq_sends telling holds (s.statusNumbers_told _ _ _)

theorem slSendProving_keeps (status : Status) :
    Keeps (fun s => J s.view) (slSendProving status) := by
  refine triple_get_bind fun s holds => triple_ite (fun _ => ?_) fun _ => ?_
  · refine nDataReq_sends telling holds fun bsn found => ?_
    cases found
  · exact nDataReq_sends telling holds (s.statusNumbers_told _ _ _)

theorem slSendAck_keeps : Keeps (fun s => J s.view) slSendAck := by
  refine triple_get_bind fun s holds => triple_ite
    (fun _ => triple_pure fun _ eq => eq ▸ holds) fun _ => ?_
  split
  case h_1 => exact triple_pure fun _ eq => eq ▸ holds
  case h_2 pdu acks =>
    exact triple_bind (nDataReq_sends telling holds (Sl.ackPdu_told acks))
      fun _ => keeps_quiet fun _ => rfl

end

section

variable (steady : Steady J)

include steady

theorem slTransmit_keeps (m : Msg) (rest : List Msg) :
    Keeps (fun s => J s.view) (slTransmit m rest) := by
  refine keeps_bind (triple_get_bind fun s holds =>
    nDataReq_sends steady.toTelling holds (s.dataPdu_told _ _)) fun _ => ?_
  exact keeps_bind (keeps_modify fun s holds => steady.extend s.view m holds)
    fun _ => keeps_quiet fun _ => rfl

theorem slTxLoop_keeps (fuel : Nat) :
    Keeps (fun s => J s.view) (slTxLoop fuel) := by
  induction fuel with
  | zero => exact keeps_pure _
  | succ fuel ih =>
      refine keeps_bind keeps_get fun s => ?_
      split
      · exact keeps_pure _
      · exact keeps_bind (slTransmit_keeps steady _ _) fun _ =>
          keeps_bind keeps_get fun _ => keeps_ite (keeps_pure _) ih

theorem slTxWakeup_keeps : Keeps (fun s => J s.view) slTxWakeup := by
  refine ignoring_keeps (keeps_bind keeps_get fun s =>
    keeps_ite ?_ (keeps_pure _))
  exact keeps_bind (keeps_when (slSendAck_keeps steady.toTelling)) fun _ =>
    keeps_bind keeps_get fun _ => keeps_when (slTxLoop_keeps steady _)

theorem slLscPdu_keeps (m : Msg) : Keeps (fun s => J s.view) (slLscPdu m) :=
  keeps_bind (keeps_quiet fun _ => rfl) fun _ =>
    keeps_bind (ignoring_keeps slCheckCongestion_keeps) fun _ =>
      slTxWakeup_keeps steady

theorem slSendReady_keeps : Keeps (fun s => J s.view) slSendReady := by
  refine keeps_bind keeps_get fun s => ?_
  split
  · exact slTransmit_keeps steady _ _
  · exact slSendStatus_keeps steady.toTelling _

theorem slProve_keeps : Keeps (fun s => J s.view) slProve :=
  keeps_bind keeps_get fun _ => slSendProving_keeps steady.toTelling _

theorem slOutageBegins_keeps : Keeps (fun s => J s.view) slOutageBegins := by
  refine keeps_bind keeps_get fun _ => keeps_ite ?_ (keeps_quiet fun _ => rfl)
  exact keeps_bind (keeps_quiet fun _ => rfl) fun _ =>
    keeps_bind (keeps_when (slSendStatus_keeps steady.toTelling _)) fun _ =>
      keeps_quiet fun _ => rfl

theorem slOutageEnded_keeps : Keeps (fun s => J s.view) slOutageEnded :=
  keeps_bind keeps_get fun _ =>
    keeps_when (keeps_bind (slSendStatus_keeps steady.toTelling _) fun _ =>
      keeps_quiet fun _ => rfl)

theorem slBusy_keeps : Keeps (fun s => J s.view) slBusy :=
  keeps_bind keeps_get fun _ =>
    keeps_when (keeps_bind (slSendStatus_keeps steady.toTelling _) fun _ =>
      keeps_quiet fun _ => rfl)

end

section

variable (busying : Busying J)

include busying

theorem slNotBusy_keeps : Keeps (fun s => J s.view) slNotBusy :=
  keeps_bind keeps_get fun _ =>
    keeps_bind (keeps_when (slSendStatus_keeps busying.toTelling _)) fun _ =>
      keeps_modify fun s holds => busying.congest s.view false holds

theorem slRbOnset_keeps : Keeps (fun s => J s.view) slRbOnset := by
  have busy := slBusy_keeps busying.toSteady
  refine keeps_bind keeps_get fun s =>
    keeps_bind (reaches_keeps _ canputOq_keeps) fun _ => keeps_ite ?_ ?_
  · exact keeps_bind (keeps_modify fun s holds =>
      busying.congest s.view true holds) fun _ =>
      keeps_bind busy fun _ => keeps_quiet fun _ => rfl
  · exact keeps_bind (reaches_keeps _ canputnextOq_keeps) fun _ => keeps_ite
      (keeps_bind (keeps_quiet fun _ => rfl) fun _ =>
        keeps_bind busy fun _ => keeps_quiet fun _ => rfl) (keeps_pure _)

theorem slRbAbate_keeps : Keeps (fun s => J s.view) slRbAbate := by
  refine keeps_bind keeps_get fun s => keeps_ite ?_ (keeps_pure _)
  refine keeps_bind canputnextOq_keeps fun _ => keeps_ite ?_ (keeps_pure _)
  exact keeps_bind (slNotBusy_keeps busying) fun _ => keeps_quiet fun _ => rfl

theorem slRbCongestionFunction_keeps :
    Keeps (fun s => J s.view) slRbCongestionFunction :=
  keeps_bind keeps_get fun _ => keeps_ite (keeps_pure _)
    (keeps_ite (slRbAbate_keeps busying) (slRbOnset_keeps busying))

end

end Sending

def Ends (J : View → Prop) (w : View) {α : Type} (m : SlM α) : Prop :=
  Triple (fun s => At J w s.view) m (fun _ s => J s.view) (fun s => J s.view)

section Turning

variable {J : View → Prop} {w : View} {α β : Type}

theorem keeps_of_ends {m : Sl → SlM α}
    (ends : ∀ s : Sl, J s.view → Ends J s.view (m s)) :
    Keeps (fun s => J s.view) (get >>= m) :=
  triple_get_bind fun s holds => triple_conseq (ends s holds)
    (fun _ eq => eq ▸ At.here holds) (fun _ _ h => h) fun _ h => h

theorem Ends.of_keeps {m : SlM α} (keeps : Keeps (fun s => J s.view) m) :
    Ends J w m :=
  triple_conseq keeps (fun _ h => h.holds) (fun _ _ h => h) fun _ h => h

theorem Ends.bind {m : SlM α} {f : α → SlM β}
    (first : Keeps (fun s => At J w s.view) m)
    (second : ∀ a, Ends J w (f a)) : Ends J w (m >>= f) :=
  triple_bind (triple_conseq first (fun _ h => h) (fun _ _ h => h)
    fun _ h => h.holds) second

theorem Ends.bind_turn {m : SlM α} {f : α → SlM β} (w' : View)
    (first : Triple (fun s => At J w s.view) m (fun _ s => At J w' s.view)
      (fun s => J s.view))
    (second : ∀ a, Ends J w' (f a)) : Ends J w (m >>= f) :=
  triple_bind first second

theorem Ends.pure (a : α) : Ends J w (pure a : SlM α) :=
  triple_pure fun _ h => h.holds

theorem Ends.throw (e : SlError) : Ends J w (throw e : SlM α) :=
  triple_throw fun _ h => h.holds

theorem Ends.ite {c : Prop} [Decidable c] {m n : SlM α}
    (yes : c → Ends J w m) (no : ¬ c → Ends J w n) :
    Ends J w (if c then m else n) :=
  triple_ite yes no

variable (closed : Closed J)

include closed

theorem Ends.turn {f : Sl → Sl} (state : LinkState) (send recv : Sl → Bool)
    (turns : ∀ s, (f s).view = s.view.turn state (send s) (recv s))
    (fits : ∀ s : Sl, At J w s.view → s.view.FlagsOk →
      (s.view.turn state (send s) (recv s)).FlagsOk) :
    Ends J w (modify f : SlM PUnit) :=
  triple_modify fun s h => by
    rw [turns]
    exact closed.turn _ _ _ _ (fits s h) h.holds

end Turning

end OpenSS7.M2pa
