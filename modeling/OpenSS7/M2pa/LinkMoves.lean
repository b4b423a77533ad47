import OpenSS7.M2pa.Moves

/-!
The status messages of the peer turn the link with flags that fit, or record
a slip.
-/

namespace OpenSS7.M2pa

open Program

def LinkState.idle : LinkState → Bool
  | .inService | .processorOutage => false
  | _ => true

theorem View.FlagsOk.idle {v : View} (ok : v.FlagsOk)
    (idle : v.state.idle = true) : v.sendMsu = false ∧ v.recvMsu = false := by
  constructor
  · by_contra set
    rw [ok.sends (by simpa using set)] at idle
    cases idle
  · by_contra set
    rcases ok.receives (by simpa using set) with eq | eq <;>
      rw [eq] at idle <;> cases idle

theorem View.FlagsOk.clear {v : View} (send : v.sendMsu = false)
    (recv : v.recvMsu = false) : v.FlagsOk :=
  ⟨by simp [send], by simp [recv]⟩

theorem View.FlagsOk.inService {v : View} (eq : v.state = .inService) :
    v.FlagsOk :=
  ⟨fun _ => eq, fun _ => Or.inl eq⟩

theorem Closed.shift {J : View → Prop} (closed : Closed J) {v : View}
    (state : LinkState) (send recv : Bool) {c : Prop} [Decidable c] (x : Slip)
    (fits : c → v.FlagsOk → (v.turn state send recv).FlagsOk) (holds : J v) :
    J { v.turn state send recv with
      slips := v.slips ++ if c then [] else [x] } := by
  by_cases ok : c
  · rw [if_pos ok, List.append_nil]
    exact closed.turn v state send recv (fits ok) holds
  · rw [if_neg ok]
    exact closed.slip v state send recv x holds

section Status

variable {J : View → Prop} {w : View}

theorem slLscStatusBusy_keeps :
    Keeps (fun s => J s.view) slLscStatusBusy := by
  refine keeps_bind (keeps_quiet fun _ => rfl) fun _ =>
    keeps_bind keeps_get fun s => ?_
  split
  case h_1 => exact keeps_quiet fun _ => rfl
  case h_2 => exact keeps_quiet fun _ => rfl
  case h_3 => exact keeps_pure _
  case h_4 => exact keeps_pure _
  case h_5 => exact keeps_throw _

theorem slLscStatusBusyEnded_keeps :
    Keeps (fun s => J s.view) slLscStatusBusyEnded :=
  keeps_bind (keeps_quiet fun _ => rfl) fun _ => keeps_bind keeps_get
    fun _ => keeps_ite (keeps_quiet fun _ => rfl) (keeps_pure _)

theorem slLscNoProcessorOutage_at (other : w.state ≠ .processorOutage) :
    Keeps (fun s => At J w s.view) slLscNoProcessorOutage := by
  refine triple_get_bind fun s here => triple_when (fun outage => ?_)
    fun _ _ eq => eq ▸ here
  exact absurd (here.state.symm.trans outage) other

variable (closed : Closed J)

include closed

theorem slLscStop_keeps : Keeps (fun s => J s.view) slLscStop := by
  refine keeps_bind keeps_get fun _ => keeps_ite ?_ (keeps_pure _)
  refine keeps_bind (slSendStatus_keeps closed.toTelling _) fun _ =>
    keeps_bind (keeps_quiet fun _ => rfl) fun _ =>
    keeps_bind (keeps_when (keeps_bind (notice_keeps _) fun _ =>
      keeps_quiet fun _ => rfl)) fun _ => keeps_modify fun s holds => ?_
  refine closed.shift .outOfService s.flags.sendMsu s.flags.recvMsu .stopped
    (fun clear _ => ?_) holds
  simp only [Bool.and_eq_true, Bool.not_eq_true'] at clear
  exact .clear clear.1 clear.2

theorem slLscOutOfService_keeps (reason : Nat) :
    Keeps (fun s => J s.view) (slLscOutOfService reason) :=
  keeps_bind keeps_get fun _ => keeps_ite
    (keeps_bind (ind_keeps _) fun _ => slLscStop_keeps closed) (keeps_pure _)

theorem fail_keeps (n : Notice) (reason : Nat) :
    Keeps (fun s => J s.view) (fail n reason) :=
  keeps_bind (notice_keeps _) fun _ => slLscOutOfService_keeps closed _

theorem Ends.rest {f : Sl → Sl} (idle : w.state.idle = true)
    (state : LinkState)
    (turns : ∀ s, (f s).view =
      s.view.turn state s.view.sendMsu s.view.recvMsu) :
    Ends J w (modify f : SlM PUnit) := by
  refine Ends.turn closed state _ _ turns fun s here ok => ?_
  have clear := ok.idle (here.state ▸ idle)
  exact .clear clear.1 clear.2

theorem Ends.serve {f : Sl → Sl} (send recv : Sl → Bool)
    (turns : ∀ s, (f s).view = s.view.turn .inService (send s) (recv s)) :
    Ends J w (modify f : SlM PUnit) :=
  Ends.turn closed .inService send recv turns fun _ _ _ => .inService rfl

theorem Ends.hold {f : Sl → Sl} (state : LinkState)
    (turns : ∀ s, (f s).view = s.view.turn state false false) :
    Ends J w (modify f : SlM PUnit) :=
  Ends.turn closed state (fun _ => false) (fun _ => false) turns
    fun _ _ _ => .clear rfl rfl

theorem slReady_ends (idle : w.state.idle = true) : Ends J w slReady := by
  have steady := closed.at w
  refine .bind (keeps_quiet fun _ => rfl) fun _ => .bind keeps_get fun s =>
    .ite (fun _ => ?_) fun _ => ?_
  · refine .bind (slSendStatus_keeps steady.toTelling _) fun _ => .ite (fun _ => ?_)
      fun _ => .rest closed idle .alignedNotReady fun _ => rfl
    exact .bind (ind_keeps _) fun _ =>
      .hold closed .processorOutage fun _ => rfl
  · refine .bind (slSendReady_keeps steady) fun _ => .ite (fun _ => ?_)
      fun _ => .ite (fun _ => ?_) fun _ =>
        .rest closed idle .alignedReady fun _ => rfl
    · exact .bind (ind_keeps _) fun _ =>
        .serve closed (fun _ => true) (fun _ => true) fun _ => rfl
    · exact .bind (ind_keeps _) fun _ =>
        .hold closed .processorOutage fun _ => rfl

theorem slLscStatusAlignment_keeps :
    Keeps (fun s => J s.view) slLscStatusAlignment := by
  refine keeps_bind (keeps_quiet fun _ => rfl) fun _ =>
    keeps_of_ends fun s holds => ?_
  split
  case h_1 => exact .pure _
  case h_2 => exact .pure _
  case h_3 state =>
    have idle : s.view.state.idle = true := by rw [Sl.view, state]; rfl
    refine .ite (fun _ => ?_) fun _ => slReady_ends closed idle
    exact .bind (slProve_keeps (closed.at _)) fun _ =>
      .rest closed idle .aligned fun _ => rfl
  case h_4 state =>
    have idle : s.view.state.idle = true := by rw [Sl.view, state]; rfl
    exact .ite (fun _ => .pure _) fun _ => slReady_ends closed idle
  case h_5 state =>
    have idle : s.view.state.idle = true := by rw [Sl.view, state]; rfl
    exact .rest closed idle .aligned fun _ => rfl
  case h_6 =>
    exact .ite (fun _ => .of_keeps (fail_keeps closed _ _)) fun _ => .pure _
  case h_7 => exact .of_keeps (fail_keeps closed _ _)

theorem slAlign_keeps (idle : w.state.idle = true) :
    Triple (fun s => At J w s.view) slAlign
      (fun _ s => ∃ w', w'.state.idle = true ∧ At J w' s.view)
      (fun s => J s.view) := by
  have steady := closed.at w
  refine triple_bind (triple_get fun _ h => h) fun s =>
    triple_when (fun _ => ?_) fun _ s h => ⟨w, idle, h⟩
  refine triple_bind (R := fun _ s => At J w s.view) (triple_conseq
    (slProve_keeps steady) (fun _ h => h) (fun _ _ h => h)
    fun _ h => h.holds) fun _ => triple_modify fun s h => ?_
  refine ⟨{ s.view with state := .aligned }, rfl, ?_⟩
  have clear := fun ok : s.view.FlagsOk => ok.idle (h.state ▸ idle)
  exact At.here (closed.turn s.view .aligned _ _ (fun ok =>
    .clear (clear ok).1 (clear ok).2) h.holds)

theorem Ends.align {m : SlM Unit} (idle : w.state.idle = true)
    (ends : ∀ w' : View, w'.state.idle = true → Ends J w' m) :
    Ends J w (do slAlign; m) :=
  triple_bind (slAlign_keeps closed idle) fun _ s ⟨w', idle', h⟩ =>
    ends w' idle' s h

theorem slLscStatusProvingNormal_keeps :
    Keeps (fun s => J s.view) slLscStatusProvingNormal := by
  refine keeps_bind (keeps_quiet fun _ => rfl) fun _ =>
    keeps_of_ends fun s holds => ?_
  have proves (w : View) (idle : w.state.idle = true) :
      Ends J w slProvingNormal :=
    .bind (keeps_quiet fun _ => rfl) fun _ => .bind keeps_get fun _ => .ite
      (fun _ => .rest closed idle .proving fun _ => rfl)
      fun _ => slReady_ends closed idle
  split
  case h_1 state =>
    exact .align closed (by rw [Sl.view, state]; rfl) proves
  case h_2 state => exact proves _ (by rw [Sl.view, state]; rfl)
  case h_3 => exact .of_keeps (fail_keeps closed _ _)
  case h_4 => exact .of_keeps (fail_keeps closed _ _)
  case h_5 => exact .throw _

theorem slLscStatusProvingEmergency_keeps :
    Keeps (fun s => J s.view) slLscStatusProvingEmergency := by
  refine keeps_bind (keeps_quiet fun _ => rfl) fun _ =>
    keeps_of_ends fun s holds => ?_
  have proves (w : View) (idle : w.state.idle = true) :
      Ends J w slProvingEmergency :=
    .bind keeps_get fun _ => .ite
      (fun _ => .rest closed idle .proving fun _ => rfl)
      fun _ => slReady_ends closed idle
  split
  case h_1 state =>
    exact .align closed (by rw [Sl.view, state]; rfl) proves
  case h_2 state => exact proves _ (by rw [Sl.view, state]; rfl)
  case h_3 => exact .of_keeps (keeps_quiet fun _ => rfl)
  case h_4 => exact .of_keeps (fail_keeps closed _ _)
  case h_5 => exact .of_keeps (fail_keeps closed _ _)
  case h_6 => exact .throw _

theorem slLscStatusProcessorOutage_keeps :
    Keeps (fun s => J s.view) slLscStatusProcessorOutage := by
  refine keeps_bind (keeps_quiet fun _ => rfl) fun _ =>
    keeps_of_ends fun s holds => ?_
  have outage (idle : s.view.state.idle = true) : Ends J s.view (do
      slRpoBegins true
      modify fun s => { s with state := .processorOutage }) :=
    .bind (slRpoBegins_keeps _) fun _ =>
      .rest closed idle .processorOutage fun _ => rfl
  split
  case h_1 => exact .pure _
  case h_2 => exact .pure _
  case h_3 state =>
    exact .ite (fun _ => .pure _) fun _ => .bind (slRpoBegins_keeps _)
      fun _ => slReady_ends closed (by rw [Sl.view, state]; rfl)
  case h_4 => exact .of_keeps (slRpoBegins_keeps _)
  case h_5 => exact .of_keeps (slRpoBegins_keeps _)
  case h_6 state => exact outage (by rw [Sl.view, state]; rfl)
  case h_7 state => exact outage (by rw [Sl.view, state]; rfl)
  case h_8 state =>
    refine .bind (notice_keeps _) fun _ => .bind (keeps_when
      (keeps_bind (ind_keeps _) fun _ => keeps_quiet fun _ => rfl)) fun _ => ?_
    refine .bind_turn { s.view with sendMsu := false }
      (triple_modify fun s' here => ?_) fun _ =>
      .bind (slOutageBegins_keeps (closed.at _)) fun _ => ?_
    · exact ⟨closed.turn s'.view _ false _
          (fun ok => ⟨(absurd · Bool.false_ne_true), ok.receives⟩) here.holds,
        here.state, rfl, here.recvMsu⟩
    · refine .turn closed .processorOutage (fun s => s.view.sendMsu)
        (fun s => s.view.recvMsu) (fun _ => rfl) fun s' here ok => ?_
      exact ⟨fun set => by simp [View.turn, here.sendMsu] at set,
        fun _ => Or.inr rfl⟩
  case h_9 => exact .of_keeps (slRpoBegins_keeps _)

theorem slLscNoProcessorOutage_keeps :
    Keeps (fun s => J s.view) slLscNoProcessorOutage := by
  refine keeps_bind keeps_get fun s => keeps_when
    (keeps_bind (keeps_quiet fun _ => rfl) fun _ => keeps_when ?_)
  refine keeps_bind (keeps_modify fun s holds => ?_) fun _ =>
    slTxWakeup_keeps closed.toSteady
  exact closed.turn s.view .inService _ true (fun _ => .inService rfl) holds

theorem slLscStatusOutOfService_keeps :
    Keeps (fun s => J s.view) slLscStatusOutOfService := by
  refine keeps_bind (keeps_quiet fun _ => rfl) fun _ =>
    keeps_bind keeps_get fun s => ?_
  have fails (n : Notice) (reason : Nat) : Keeps (fun s => J s.view) (do
      modify fun s => { s with flags.remIns := false }
      fail n reason) :=
    keeps_bind (keeps_quiet fun _ => rfl) fun _ => fail_keeps closed _ _
  split <;> first | exact fails _ _ | exact keeps_pure _

end Status

section Congestion

variable {J : View → Prop} (busying : Busying J)

include busying

theorem slLscCongestionDiscard_keeps :
    Keeps (fun s => J s.view) slLscCongestionDiscard :=
  keeps_bind (slBusy_keeps busying.toSteady) fun _ =>
    keeps_modify fun s holds => busying.congest s.view true holds

theorem slLscCongestionAccept_keeps :
    Keeps (fun s => J s.view) slLscCongestionAccept :=
  keeps_bind (slBusy_keeps busying.toSteady) fun _ => keeps_quiet fun _ => rfl

theorem slLscNoCongestion_keeps :
    Keeps (fun s => J s.view) slLscNoCongestion :=
  keeps_bind (slNotBusy_keeps busying) fun _ => keeps_quiet fun _ => rfl

end Congestion

end OpenSS7.M2pa
