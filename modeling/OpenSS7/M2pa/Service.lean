import OpenSS7.M2pa.Runs

/-!
The flags that the data paths test fit the state of the link, as long as no
step leaves them behind it.
-/

namespace OpenSS7.M2pa

open Program

namespace View

def Serves (v : View) : Prop := v.slips = [] → v.FlagsOk

theorem Serves.quiet {v w : View} (serves : v.Serves)
    (same : (w.state, w.sendMsu, w.recvMsu, w.slips) =
      (v.state, v.sendMsu, v.recvMsu, v.slips)) : w.Serves := by
  obtain ⟨state, send, recv, slips⟩ : w.state = v.state ∧
      w.sendMsu = v.sendMsu ∧ w.recvMsu = v.recvMsu ∧ w.slips = v.slips := by
    simpa using same
  intro none
  have ok := serves (slips ▸ none)
  exact ⟨by rw [state, send]; exact ok.sends,
    by rw [state, recv]; exact ok.receives⟩

theorem serves_throughout : Throughout Serves where
  send _ _ _ serves := serves.quiet rfl
  extend _ _ serves := serves.quiet rfl
  congest _ _ serves := serves.quiet rfl
  turn _ _ _ _ fits serves none := fits (serves none)
  slip _ _ _ _ _ _ none := absurd none (by simp [slip, turn])
  misstep _ _ serves := serves.quiet rfl
  loose _ _ _ _ _ _ _ serves := serves.quiet rfl
  empty _ _ serves := serves.quiet rfl
  recover _ serves := serves.quiet rfl
  renumber _ _ _ serves := serves.quiet rfl
  acknowledge _ _ _ _ serves := ⟨serves.quiet rfl, fun _ => serves.quiet rfl⟩
  accept _ _ _ _ serves := serves.quiet rfl
  deliver _ _ _ _ serves := serves.quiet rfl
  enter _ serves := serves.quiet rfl
  clearRb _ serves := serves.quiet rfl
  reset _ serves := serves.quiet rfl

theorem rb_lasting (rb : List (List UInt8)) :
    Lasting (fun v => v.rb = rb ∧ v.Serves) where
  send _ _ _ h := ⟨h.1, h.2.quiet rfl⟩
  extend _ _ h := ⟨h.1, h.2.quiet rfl⟩
  congest _ _ h := ⟨h.1, h.2.quiet rfl⟩
  turn v state sendMsu recvMsu fits h :=
    ⟨h.1, serves_throughout.turn v state sendMsu recvMsu fits h.2⟩
  slip v state sendMsu recvMsu x h :=
    ⟨h.1, serves_throughout.slip v state sendMsu recvMsu x h.2⟩
  misstep _ _ h := ⟨h.1, h.2.quiet rfl⟩
  loose _ _ _ _ _ _ _ h := ⟨h.1, h.2.quiet rfl⟩
  empty _ _ h := ⟨h.1, h.2.quiet rfl⟩
  recover _ h := ⟨h.1, h.2.quiet rfl⟩
  renumber _ _ _ h := ⟨h.1, h.2.quiet rfl⟩
  acknowledge _ _ _ _ h :=
    ⟨⟨h.1, h.2.quiet rfl⟩, fun _ => ⟨h.1, h.2.quiet rfl⟩⟩

end View

section DataPaths

theorem slTxWakeup_idle {s : Sl} (idle : s.flags.sendMsu = false) :
    (slTxWakeup.after s).rtb = s.rtb ∧ (slTxWakeup.after s).fsnt = s.fsnt := by
  have telling : Telling fun v => (v.rtb = s.rtb ∧ v.fsnt = s.fsnt) ∧
      v.sendMsu = false := ⟨fun _ _ _ h => h⟩
  have keeps : Keeps (fun t => (t.view.rtb = s.rtb ∧ t.view.fsnt = s.fsnt) ∧
      t.view.sendMsu = false) slTxWakeup := by
    refine ignoring_keeps (keeps_bind keeps_get fun _ => keeps_ite
      (keeps_bind (keeps_when (slSendAck_keeps telling)) fun _ => ?_)
      (keeps_pure _))
    refine triple_get_bind fun t h => triple_when (fun busy => ?_)
      fun _ _ eq => eq ▸ h
    have clear : t.flags.sendMsu = false := h.2
    simp [clear] at busy
  exact (triple_after keeps (s := s) ⟨⟨rfl, rfl⟩, idle⟩).1

theorem slRcSignalUnit_idle {s : Sl} (serves : s.view.Serves)
    (octets : List UInt8) :
    ((slRcSignalUnit octets).after s).slips = [] →
      ((slRcSignalUnit octets).after s).rb = s.rb ∨
        ((slRcSignalUnit octets).after s).state = .inService ∨
        ((slRcSignalUnit octets).after s).state = .processorOutage := by
  refine triple_after (R := fun t => t.slips = [] → t.rb = s.rb ∨
    t.state = .inService ∨ t.state = .processorOutage)
    (slRcSignalUnit_leads (View.rb_lasting s.rb) (fun _ fsn _ => ?_)
      (fun t h _ => Or.inl h.1) fun t h _ => Or.inl h.1) ⟨rfl, serves⟩
  have busying : Busying fun v => v.recvMsu = true ∧ v.Serves :=
    { send := fun _ _ _ h => ⟨h.1, h.2.quiet rfl⟩
      extend := fun _ _ h => ⟨h.1, h.2.quiet rfl⟩
      congest := fun _ _ h => ⟨h.1, h.2.quiet rfl⟩ }
  refine triple_get_bind fun t ⟨⟨rb, serves⟩, _⟩ => triple_ite (fun recv =>
    triple_ite (fun _ => triple_throw fun _ eq => eq ▸ fun _ => Or.inl rb)
    fun _ => triple_ite (fun _ => ?_)
    fun _ => triple_pure fun _ eq => eq ▸ fun _ => Or.inl rb)
    fun _ => triple_throw fun _ eq => eq ▸ fun _ => Or.inl rb
  refine triple_bind (R := fun _ (t : Sl) => t.view.recvMsu = true ∧
    t.view.Serves) (triple_modify fun _ eq => eq ▸ ⟨recv, serves.quiet rfl⟩)
    fun _ => triple_bind (ignoring_total (slRbCongestionFunction_keeps busying))
    fun _ => triple_bind (R := fun _ (t : Sl) => t.view.recvMsu = true ∧
      t.view.Serves) (triple_modify fun _ h => ⟨h.1, h.2.quiet rfl⟩) fun _ =>
    triple_pure fun t h none => Or.inr ((h.2 none).receives h.1)

end DataPaths

/-- Messages of data are exchanged in service only: as long as no step has
left the flags behind the state, each flag is set only in the states that it
belongs to, `sl_tx_wakeup` moves no message to `rtb` elsewhere, and
`sl_rc_signal_unit` queues none on `rb`. -/
theorem data_in_service (version : Version) (pvar : Nat) (nopr mplev : Bool)
    (config : Config) (notify : Notice → Bool)
    (events : List (Env × Event)) (s : Sl)
    (run : (Sl.allocated version pvar nopr mplev config notify).run events = s)
    (none : s.slips = []) :
    (s.flags.sendMsu = true → s.state = .inService) ∧
    (s.flags.recvMsu = true →
      s.state = .inService ∨ s.state = .processorOutage) ∧
    (∀ env, s.state ≠ .inService →
      (slTxWakeup.after (s.enter env)).rtb = s.rtb ∧
        (slTxWakeup.after (s.enter env)).fsnt = s.fsnt) ∧
    ∀ env octets t, (slRcSignalUnit octets).after (s.enter env) = t →
      t.slips = [] → t.rb ≠ s.rb →
        t.state = .inService ∨ t.state = .processorOutage := by
  have initial : (Sl.allocated version pvar nopr mplev config
      notify).view.Serves := fun _ => ⟨nofun, nofun⟩
  have serves := Sl.run_keeps View.serves_throughout initial events
  rw [run] at serves
  have ok := serves none
  refine ⟨ok.sends, ok.receives, fun env idle => ?_, ?_⟩
  · exact slTxWakeup_idle (s := s.enter env)
      (eq_false_of_ne_true fun set => idle (ok.sends set))
  · rintro env octets t rfl clean queued
    exact (slRcSignalUnit_idle (s := s.enter env) (serves.quiet rfl) octets
      clean).resolve_left queued

def statusOctets (status : Status) : List UInt8 :=
  Pdu.octets ⟨.status, 20, .long 0xffffff 0xffffff, be32 status.code⟩

def intoService : List (Env × Event) :=
  [(.calm, .powerOn), (.calm, .start),
    (.calm, .recv (statusOctets .inService))]

theorem data_in_service_running :
    ((Sl.allocated .rfc4165 0 true false slDefault fun _ => false).run
      intoService).slips = [] ∧
    (((Sl.allocated .rfc4165 0 true false slDefault fun _ => false).run
      intoService).flags.sendMsu = true →
    ((Sl.allocated .rfc4165 0 true false slDefault fun _ => false).run
      intoService).state = .inService) :=
  ⟨by decide, (data_in_service .rfc4165 0 true false slDefault (fun _ => false)
    intoService _ rfl (by decide)).1⟩

theorem stop_leaves_flags :
    ¬ ∀ (version : Version) (pvar : Nat) (nopr mplev : Bool)
      (config : Config) (notify : Notice → Bool)
      (events : List (Env × Event)) (s : Sl),
      (Sl.allocated version pvar nopr mplev config notify).run events = s →
        s.flags.sendMsu = true → s.state = .inService := by
  intro claim
  have stopped := claim .rfc4165 0 true false slDefault (fun _ => false)
    (intoService ++ [(.calm, .stop)]) _ rfl (by decide)
  exact absurd stopped (by decide)

end OpenSS7.M2pa
