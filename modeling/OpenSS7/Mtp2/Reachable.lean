import OpenSS7.Mtp2.Window

/-!
The transmit window in every state that a started module reaches.
-/

namespace OpenSS7.Mtp2

open Program SlidingWindow

/-- The numbers from `first` on, as many as given. -/
def numbersFrom (M first count : Nat) : List Nat :=
  (List.range count).map fun i => (first + i) % M

namespace View

def Synced (v : View) : Prop := v.Window ∧ v.rxFFsn = v.txFFsn

theorem synced_closed : Closed Synced := by
  intro v v' move ⟨window, agree⟩
  refine ⟨Window.closed v v' move window, ?_⟩
  cases move <;> exact agree

theorem Window.numbers {v : View} (window : v.Window) {k : Nat}
    (held : k ≤ v.rtb.length) :
    (v.rtb.take k).map Msu.fsn = numbersFrom v.modulus v.txFFsn k := by
  have length : (v.rtb.take k).length = k := List.length_take_of_le held
  apply List.ext_getElem
  · rw [List.length_map, length]
    simp [numbersFrom]
  · intro i inside _
    rw [List.length_map, length] at inside
    simp only [numbersFrom, List.getElem_map, List.getElem_take,
      List.getElem_range]
    exact window.numbered i _ (List.getElem?_eq_getElem (by omega))

/-- What has left `rtb` since it began with the number `first` and
`released` had been freed: nothing, or all up to the number `bsn`. -/
def Frees (first : Nat) (released : List Msu) (bsn : Nat) (v : View) : Prop :=
  ∃ freed, v.released = released ++ freed ∧
    (freed = [] ∧ v.txFFsn = first ∨
      freed.map Msu.fsn = numbersFrom v.modulus first freed.length ∧
        v.txFFsn = v.succ bsn)

def Before (first : Nat) (released : List Msu) (bsn : Nat) (v : View) : Prop :=
  v.Synced ∧ v.rxRBsn = bsn ∧ bsn ≤ v.snMask ∧ v.released = released ∧
    v.txFFsn = first

def After (first : Nat) (released : List Msu) (bsn : Nat) (v : View) : Prop :=
  v.Synced ∧ v.Frees first released bsn

theorem after_closed (first : Nat) (released : List Msu) (bsn : Nat) :
    Closed (After first released bsn) := by
  intro v v' move ⟨synced, freed⟩
  refine ⟨synced_closed v v' move synced, ?_⟩
  cases move <;> exact freed

theorem receives (first : Nat) (released : List Msu) (bsn : Nat)
    (sdu : List UInt8) :
    Receives (Before first released bsn) (After first released bsn)
      (After first released bsn) sdu where
  closed₀ := by
    intro v v' move ⟨synced, received, small, freed, start⟩
    refine ⟨synced_closed v v' move synced, ?_⟩
    cases move <;> exact ⟨received, small, freed, start⟩
  closed₁ := after_closed first released bsn
  closed₂ := after_closed first released bsn
  weaken₀ := by
    intro v ⟨synced, _, _, freed, start⟩
    exact ⟨synced, [], by simp [freed], Or.inl ⟨rfl, start⟩⟩
  weaken₁ := fun _ after => after
  memory := fun v after => after.1.1.memory
  kept := fun v before => ⟨before.1.1.kept, before.1.1.first⟩
  inside := by
    rintro v ⟨synced, rfl, small, _⟩ inside
    exact synced.1.acceptable synced.2 small inside
  frees := by
    rintro v k ⟨synced, rfl, _, rfl, rfl⟩ held wide target
    refine ⟨⟨{ synced.1.free held with }, target.symm⟩, v.rtb.take k, rfl,
      Or.inr ⟨?_, target⟩⟩
    rw [synced.1.numbers held, List.length_take_of_le held]
    rfl
  accepts := by
    intro v ⟨synced, freed⟩ _ _
    exact ⟨⟨{ synced.1 with }, synced.2⟩, freed⟩

end View

theorem slRcDecode_bsn_le (xsn : Bool) (octets : List UInt8) :
    (slRcDecode xsn octets).header.bsn ≤ if xsn then 0x7fff else 0x7f := by
  cases xsn with
  | true => exact Nat.le_trans Nat.and_le_right (by decide)
  | false => exact Nat.and_le_right

theorem slRcSignalUnit_frees {s : Sl} (synced : s.view.Synced)
    (octets : List UInt8) :
    Triple (fun s' => s = s') (slRcSignalUnit octets)
      (fun _ s' => s'.view.After s.txFFsn s.released
        (slRcDecode s.option.xsn octets).header.bsn)
      (fun s' => s'.view.After s.txFFsn s.released
        (slRcDecode s.option.xsn octets).header.bsn) := by
  have small : (slRcDecode s.option.xsn octets).header.bsn ≤ s.snMask := by
    rw [show s.snMask = _ from synced.1.mask]
    exact slRcDecode_bsn_le _ _
  refine slRcSignalUnit_leads (View.receives s.txFFsn s.released _ _) ?_ ?_
  · exact ⟨synced, [], by simp [Sl.view], Or.inl ⟨rfl, rfl⟩⟩
  · exact ⟨⟨{ synced.1 with }, synced.2⟩, rfl, small, rfl, rfl⟩

section Submission

/-- A message joins `tb`. -/
def View.submit (v : View) (m : Msu) : View :=
  { v with
    tb := v.tb ++ [m]
    Cm := v.Cm + 1
    submitted := v.submitted ++ [m.sdu] }

theorem View.Window.submit {v : View} (window : v.Window) (m : Msu) :
    (v.submit m).Window :=
  { window with
    waiting := by
      simp only [View.submit, window.waiting, List.length_append,
        List.length_singleton]
      push_cast
      rfl
    history := by
      have history := window.history
      simp only [View.submit, ← history]
      simp }

/-- A message as `sl_lsc_pdu` makes it. -/
structure View.Submits (v : View) (sdu : List UInt8) (m : Msu) : Prop where
  sdu : m.sdu = sdu
  idx : m.idx = v.submitted.length
  hdr : m.hdr.length = v.option.hlen

theorem Options.blankHeader_length (option : Options) (priority : Nat) :
    (option.blankHeader priority).length = option.hlen := by
  unfold Options.blankHeader Options.hlen
  cases option.xsn <;> simp

section

variable {J : View → Prop} (closed : Closed J)
  (memory : ∀ v, J v → v.indMem = [])

include closed memory

theorem slTxcMessageForTransmission_leads {P : View → Prop} {m : Msu}
    (submit : ∀ v, P v → J (v.submit m)) :
    Triple (fun s => P s.view) (slTxcMessageForTransmission m)
      (fun _ s => J s.view) (fun s => J s.view) := by
  refine triple_bind (R := fun _ s => J s.view)
    (triple_modify fun s holds => submit s.view holds) fun _ =>
    triple_bind (R := fun _ s => J s.view) ?_ fun _ =>
      slDaedtTransmitterWakeup_total closed
  -- the handler is not reached where indications do not fail
  exact triple_tryCatch (R := fun _ => False)
    (slCheckCongestion_total closed memory) fun _ _ stopped => stopped.elim

theorem slLscPdu_keeps {sdu : List UInt8}
    (submit : ∀ v m, v.Submits sdu m → J v → J (v.submit m))
    (id priority : Nat) (headroom : Bool) :
    Keeps (fun s => J s.view) (slLscPdu id sdu priority headroom) := by
  refine triple_get_bind fun s holds => ?_
  set m : Msu :=
    { id := id
      hdr := s.option.blankHeader priority
      sdu := sdu
      idx := s.submitted.length
      fsn := 0 } with hm
  have made : s.view.Submits sdu m :=
    ⟨rfl, rfl, Options.blankHeader_length _ _⟩
  have queued := slTxcMessageForTransmission_leads closed memory
    (P := fun v => v.Submits sdu m ∧ J v) fun v h => submit v m h.1 h.2
  refine triple_ite (fun _ => ?_) fun _ => ?_
  · exact triple_conseq queued (fun _ eq => eq ▸ ⟨made, holds⟩)
      (fun _ _ h => h) fun _ h => h
  · have alloc := suAlloc_total (E := fun s => J s.view)
      (J := fun v => v.Submits sdu m ∧ J v)
    exact triple_bind (triple_conseq alloc (fun _ eq => eq ▸ ⟨made, holds⟩)
      (fun _ _ h => h) fun _ h => h) fun _ => triple_ite (fun _ => queued)
      fun _ => triple_throw fun _ h => h.2

end

end Submission

section Start

theorem slIacEmergency_keeps {J : View → Prop} (closed : Closed J) :
    Keeps (fun s => J s.view) slIacEmergency := by
  refine keeps_bind keeps_get fun s => ?_
  split
  · exact keeps_bind (slTxcSendLssu_keeps closed _) fun _ =>
      keeps_bind (keeps_quiet fun _ => rfl) fun _ =>
      keeps_bind (sdtReq_keeps _) fun _ =>
      keeps_bind (sdtReq_keeps _) fun _ =>
      keeps_bind (sdtReq_keeps _) fun _ => keeps_quiet fun _ => rfl
  · exact keeps_bind (slTxcSendLssu_keeps closed _) fun _ =>
      keeps_quiet fun _ => rfl
  · exact keeps_quiet fun _ => rfl

theorem slIacStart_keeps {J : View → Prop} (closed : Closed J) :
    Keeps (fun s => J s.view) slIacStart :=
  keeps_bind keeps_get fun _ => keeps_ite
    (keeps_bind (slTxcSendLssu_keeps closed _) fun _ =>
      keeps_quiet fun _ => rfl)
    (keeps_pure _)

structure Sl.Startable (s : Sl) : Prop where
  outOfService : s.lscState = .outOfService
  idle : s.rcState = .idle
  snMask : s.snMask = if s.option.xsn then 0x7fff else 0x7f
  ibMask : s.ibMask = if s.option.xsn then 0x8000 else 0x80
  tb : s.tb = []
  rtb : s.rtb = []
  memory : s.env.indMem = []

structure View.Initial (v : View) : Prop where
  snMask : v.snMask = if v.option.xsn then 0x7fff else 0x7f
  ibMask : v.ibMask = if v.option.xsn then 0x8000 else 0x80
  memory : v.indMem = []
  tb : v.tb = []
  rtb : v.rtb = []
  rtbFull : v.rtbFull = false
  clearRtb : v.clearRtb = false
  txFFsn : v.txFFsn = 0
  txLFsn : v.txLFsn = v.snMask
  txXFsn : v.txXFsn = 0
  txNBib : v.txNBib = v.ibMask
  txNFib : v.txNFib = v.ibMask
  Cm : v.Cm = 0
  Ct : v.Ct = 0
  rxXFsn : v.rxXFsn = 0
  rxFFsn : v.rxFFsn = 0
  rxTFsn : v.rxTFsn = v.snMask
  submitted : v.submitted = []
  accepted : v.accepted = []
  released : v.released = []
  acked : v.acked = 0
  underrun : v.underrun = false
  crossed : v.crossed = false
  reopened : v.reopened = false

theorem View.Initial.synced {v : View} (initial : v.Initial) : v.Synced where
  left :=
    { mask := initial.snMask
      first := by rw [initial.txFFsn]; exact Nat.zero_le _
      last := Nat.le_of_eq initial.txLFsn
      numbered := by simp [initial.rtb]
      next := by
        rw [View.succ, initial.txLFsn, initial.txFFsn, initial.rtb]
        simp
      copied := by rw [initial.rxTFsn, initial.txLFsn]
      counted := by simp [initial.Ct, initial.rtb]
      waiting := by simp [initial.Cm, initial.tb]
      kept := initial.clearRtb
      memory := initial.memory
      whole := initial.underrun
      history := by
        simp [initial.released, initial.rtb, initial.tb, initial.submitted]
      bound := by
        intro _ _
        rw [initial.rtb, initial.snMask]
        cases v.option.xsn <;> simp }
  right := by rw [initial.rxFFsn, initial.txFFsn]

structure View.HalfStarted (v : View) : Prop where
  snMask : v.snMask = if v.option.xsn then 0x7fff else 0x7f
  tb : v.tb = []
  rtb : v.rtb = []
  memory : v.indMem = []
  rxXFsn : v.rxXFsn = 0
  rxFFsn : v.rxFFsn = 0
  rxTFsn : v.rxTFsn = v.snMask
  accepted : v.accepted = []

theorem slRcStart_starts :
    Triple Sl.Startable slRcStart (fun _ s => s.view.HalfStarted)
      (fun _ => True) := by
  refine triple_get_bind fun s ready => triple_ite (fun _ => ?_)
    fun busy => absurd ready.idle busy
  refine triple_bind (R := fun _ s => s.view.HalfStarted) ?_ fun _ =>
    triple_bind (R := fun _ s => s.view.HalfStarted) ?_ fun _ =>
      triple_modify fun _ half => half
  · refine triple_modify ?_
    rintro _ rfl
    exact
      { snMask := ready.snMask
        tb := ready.tb
        rtb := ready.rtb
        memory := ready.memory
        rxXFsn := rfl
        rxFFsn := rfl
        rxTFsn := rfl
        accepted := rfl }
  · exact triple_conseq (sdtReq_keeps (J := View.HalfStarted) _) (fun _ h => h)
      (fun _ _ h => h) fun _ _ => trivial

theorem View.HalfStarted.initial {s : Sl} (half : s.view.HalfStarted) :
    s.txcReset.view.Initial where
  snMask := rfl
  ibMask := rfl
  memory := half.memory
  tb := half.tb
  rtb := half.rtb
  rtbFull := rfl
  clearRtb := rfl
  txFFsn := rfl
  txLFsn := rfl
  txXFsn := rfl
  txNBib := rfl
  txNFib := rfl
  Cm := rfl
  Ct := rfl
  rxXFsn := half.rxXFsn
  rxFFsn := half.rxFFsn
  rxTFsn := half.rxTFsn.trans half.snMask
  submitted := rfl
  accepted := half.accepted
  released := rfl
  acked := rfl
  underrun := rfl
  crossed := rfl
  reopened := rfl

theorem slTxcStart_starts :
    Triple (fun s => s.view.HalfStarted) slTxcStart (fun _ s => s.view.Initial)
      (fun _ => True) := by
  have stop : ∀ s : Sl, s.view.Initial → True := fun _ _ => trivial
  refine triple_bind (R := fun _ s => s.view.Initial)
    (triple_modify fun s half => half.initial) fun _ =>
    triple_bind (R := fun _ s => s.view.Initial)
      (triple_get fun _ h => h) fun s => triple_ite (fun _ => ?_) fun _ =>
        triple_modify fun _ h => h
  refine triple_bind (R := fun _ s => s.view.Initial)
    (triple_modify fun _ h => h) fun _ =>
    triple_bind (R := fun _ s => s.view.Initial) ?_ fun _ =>
      triple_modify fun _ h => h
  exact triple_conseq (sdtReq_keeps (J := View.Initial) _) (fun _ h => h)
    (fun _ _ h => h) stop

theorem slLscStart_synced :
    Triple Sl.Startable slLscStart (fun _ s => s.view.Synced)
      (fun _ => True) := by
  have closed := View.synced_closed
  have stop : ∀ s : Sl, s.view.Synced → True := fun _ _ => trivial
  refine triple_get_bind fun s ready => triple_ite (fun _ => ?_)
    fun busy => absurd ready.outOfService busy
  have rest : Keeps (fun s => s.view.Synced) (do
      slIacStart
      modify fun s => { s with lscState := .initialAlignment } : SlM PUnit) :=
    keeps_bind (slIacStart_keeps closed) fun _ => keeps_quiet fun _ => rfl
  refine triple_bind (triple_conseq slRcStart_starts
    (fun _ eq => eq ▸ ready) (fun _ _ h => h) fun _ h => h) fun _ =>
    triple_bind slTxcStart_starts fun _ =>
    triple_conseq (P := fun s => s.view.Synced) (Q := fun _ s => s.view.Synced)
      ?_ (fun _ initial => initial.synced) (fun _ _ h => h) stop
  refine keeps_bind keeps_get fun s => keeps_ite ?_ rest
  exact keeps_bind (slIacEmergency_keeps closed) fun _ => rest

end Start

section Runs

def Event.Own (legal : List UInt8 → Prop) : Event → Prop
  | .pdu _ sdu _ _ => legal sdu
  | .signalUnit _ => False
  | _ => True

theorem Event.program_keeps {J : View → Prop} (closed : Closed J)
    (memory : ∀ v, J v → v.indMem = []) {legal : List UInt8 → Prop}
    (submit : ∀ v sdu m, legal sdu → v.Submits sdu m → J v → J (v.submit m))
    {event : Event} (own : event.Own legal) :
    Keeps (fun s => J s.view) event.program := by
  cases event with
  | pdu id sdu priority headroom =>
      exact slLscPdu_keeps closed memory (fun v m => submit v sdu m own) _ _ _
  | transmissionRequest =>
      exact keeps_bind (transmit_total closed) fun _ => keeps_pure _
  | txWakeup => exact slTxWakeup_total closed
  | signalUnit octets => exact own.elim
  | rxWakeup => exact slRxWakeup_keeps
  | congestionDiscard => exact slLscCongestionDiscard_keeps closed
  | congestionAccept => exact slLscCongestionAccept_keeps closed
  | noCongestion => exact slLscNoCongestion_keeps closed
  | t1Timeout => exact slT1Timeout_keeps closed
  | t2Timeout => exact alignmentTimeout_keeps closed _
  | t3Timeout => exact alignmentTimeout_keeps closed _
  | t4Timeout => exact slT4Timeout_keeps closed
  | t5Timeout => exact slT5Timeout_keeps closed
  | t6Timeout => exact slT6Timeout_keeps closed
  | t7Timeout => exact slT7Timeout_keeps closed
  | errorRate => exact slLscLinkFailure_keeps closed _

theorem Event.program_synced (event : Event) :
    Keeps (fun s => s.view.Synced) event.program := by
  have own (others : event.Own fun _ => True) :=
    Event.program_keeps View.synced_closed (fun _ synced => synced.1.memory)
      (fun _ _ m _ _ synced => ⟨synced.1.submit m, synced.2⟩) others
  cases event with
  | signalUnit octets =>
      intro s synced
      exact triple_conseq (slRcSignalUnit_frees synced octets) (fun _ h => h)
        (fun _ _ after => after.1) (fun _ after => after.1) s rfl
  | _ => exact own trivial

theorem Sl.handle_synced {s : Sl} (synced : s.view.Synced) {env : Env}
    (memory : env.indMem = []) (event : Event) :
    (s.handle env event).view.Synced := by
  have entered : (s.enter env).view.Synced :=
    ⟨{ synced.1 with memory := memory }, synced.2⟩
  exact triple_after event.program_synced entered

theorem Sl.run_synced {s : Sl} (synced : s.view.Synced)
    {events : List (Env × Event)} (memory : ∀ e ∈ events, e.1.indMem = []) :
    (s.run events).view.Synced := by
  induction events generalizing s with
  | nil => exact synced
  | cons e events ih =>
      exact ih (Sl.handle_synced synced (memory e List.mem_cons_self) e.2)
        fun e' mem => memory e' (List.mem_cons_of_mem e mem)

theorem Sl.start_synced {s : Sl} {env : Env} (ready : (s.enter env).Startable)
    (started : (slLscStart.exec (s.enter env)).1 = .ok ()) :
    (s.start env).view.Synced := by
  have result := slLscStart_synced (s.enter env) ready
  unfold Sl.start Program.after
  cases run : slLscStart.exec (s.enter env) with
  | mk outcome s' =>
      rw [run] at result started
      cases outcome with
      | error e => cases started
      | ok a => exact result

structure Sl.WindowExact (s : Sl) : Prop where
  numbers : s.rtb.map Msu.fsn =
    numbersFrom (s.snMask + 1) s.txFFsn s.rtb.length
  last : s.succ s.txLFsn = (s.txFFsn + s.rtb.length) % (s.snMask + 1)
  messages : (s.released ++ s.rtb ++ s.tb).map Msu.sdu = s.submitted
  Ct : s.Ct = s.rtb.length
  Cm : s.Cm = s.tb.length
  first : s.rxFFsn = s.txFFsn
  copied : s.rxTFsn = s.txLFsn
  whole : s.underrun = false

def Sl.LoopExact (s : Sl) : Prop :=
  ∀ bsn ≤ s.snMask, SN_OUTSIDE (s.pred s.rxFFsn) bsn s.rxTFsn = false →
    s.txFFsn ≠ s.succ bsn → ∃ k s', 0 < k ∧ k ≤ s.rtb.length ∧
      Sl.freeAcknowledged (s.snMask + 1) { s with txRBsn := bsn } = some s' ∧
      (s.rtb.take k).map Msu.fsn =
        numbersFrom (s.snMask + 1) s.txFFsn k ∧
      (s.txFFsn + k) % (s.snMask + 1) = s.succ bsn ∧
      s'.rtb = s.rtb.drop k ∧ s'.underrun = false

def Sl.FreesExactly (s : Sl) (octets : List UInt8) (s' : Sl) : Prop :=
  let bsn := (slRcDecode s.option.xsn octets).header.bsn
  ∃ freed, s'.released = s.released ++ freed ∧
    (freed = [] ∧ s'.txFFsn = s.txFFsn ∨
      freed.map Msu.fsn = numbersFrom (s'.snMask + 1) s.txFFsn freed.length ∧
        s'.txFFsn = s'.succ bsn)

theorem View.Synced.windowExact {s : Sl} (synced : s.view.Synced) :
    s.WindowExact where
  numbers := by
    have all := synced.1.numbers (Nat.le_refl _)
    rw [List.take_length] at all
    exact all
  last := synced.1.next
  messages := synced.1.history
  Ct := synced.1.counted
  Cm := synced.1.waiting
  first := synced.2
  copied := synced.1.copied
  whole := synced.1.whole

theorem View.Synced.loopExact {s : Sl} (synced : s.view.Synced) :
    s.LoopExact := by
  intro bsn small inside behind
  set s₁ : Sl := { s with txRBsn := bsn, rxRBsn := bsn }
  have synced₁ : s₁.view.Synced := ⟨{ synced.1 with }, synced.2⟩
  obtain ⟨k, held, wide, target⟩ :=
    synced₁.1.acceptable synced₁.2 small inside
  have some_ : 0 < k := by
    rcases Nat.eq_zero_or_pos k with rfl | pos
    · refine absurd ?_ behind
      have first : s.txFFsn ≤ s.snMask := synced.1.first
      have target : (s.txFFsn + 0) % (s.snMask + 1) = s.succ bsn := target
      rw [← target, Nat.add_zero, Nat.mod_eq_of_lt (by omega)]
    · exact pos
  refine ⟨k, Sl.free { s with txRBsn := bsn } k, some_, held, ?_,
    synced.1.numbers held, target, rfl, synced.1.whole⟩
  exact Sl.freeAcknowledged_eq some_ held wide
    (Nat.le_succ_of_le wide) target

/-- In every state that a module reaches from a start with empty buffers,
the transmit window is exact, a received backward sequence number frees
exactly what it acknowledges, and, unless `rtb_full` has been cleared with
the whole window outstanding, the basic method has at most `sn_mask`
messages outstanding. -/
theorem transmit_window_exact {s : Sl} {env : Env}
    (ready : (s.enter env).Startable)
    (started : (slLscStart.exec (s.enter env)).1 = .ok ())
    (events : List (Env × Event))
    (memory : ∀ e ∈ events, e.1.indMem = []) :
    let reached := (s.start env).run events
    reached.WindowExact ∧ reached.LoopExact ∧
      (∀ env' octets, env'.indMem = [] → reached.FreesExactly octets
        (reached.handle env' (.signalUnit octets))) ∧
      (reached.reopened = false → reached.option.pcr = false →
        reached.rtb.length ≤ reached.snMask) := by
  intro reached
  have synced : reached.view.Synced :=
    Sl.run_synced (Sl.start_synced ready started) memory
  refine ⟨synced.windowExact, synced.loopExact, ?_, ?_⟩
  · intro env' octets memory'
    have entered : (reached.enter env').view.Synced :=
      ⟨{ synced.1 with memory := memory' }, synced.2⟩
    exact (triple_after (slRcSignalUnit_frees entered octets) rfl).2
  · exact fun intact basic => (synced.1.bound basic intact).1

def basicDefault : Sl :=
  .poweredOn ⟨SS7_PVAR_ITUT_96, false, false, false⟩ slDefault

theorem basicDefault_startable (n : Nat) :
    (basicDefault.enter (.taking n)).Startable :=
  ⟨rfl, rfl, rfl, rfl, rfl, rfl, rfl⟩

theorem transmit_window_exact_aligned :
    let reached := (basicDefault.start (.taking 2)).run
      (alignment ++ [(.taking 1, .pdu 0 [1, 2, 3] 0 true)])
    reached.lscState = .inService ∧ reached.rtb.length = 1 ∧
      reached.WindowExact ∧ reached.LoopExact := by
  have exact_ := transmit_window_exact (basicDefault_startable 2) (by rfl)
    (alignment ++ [(.taking 1, .pdu 0 [1, 2, 3] 0 true)])
    (by simp [alignment, Env.taking])
  exact ⟨by decide +kernel, by decide +kernel, exact_.1, exact_.2.1⟩

/-- Messages to be submitted, the terminal taking `n` units for each. -/
def submissions (first count n : Nat) : List (Env × Event) :=
  (List.range count).map fun i =>
    (.taking n, .pdu (first + i) [1, 2, 3] 0 true)

def refill : List (Env × Event) :=
  alignment ++ submissions 0 126 1 ++ submissions 126 3 0 ++
    [(.taking 5, .signalUnit [0x80, 0xff, 0])] ++ submissions 129 1 5

theorem transmit_window_overruns :
    (basicDefault.enter (.taking 2)).Startable ∧
      (slLscStart.exec (basicDefault.enter (.taking 2))).1 = .ok () ∧
      (∀ e ∈ refill, e.1.indMem = []) ∧
      ¬ ((basicDefault.start (.taking 2)).run refill).rtb.length ≤
        ((basicDefault.start (.taking 2)).run refill).snMask := by
  exact ⟨basicDefault_startable 2, rfl, by decide +kernel, by decide +kernel⟩

end Runs

end OpenSS7.Mtp2
