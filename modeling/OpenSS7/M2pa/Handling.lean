import Mathlib.Logic.Function.Iterate
import OpenSS7.M2pa.LinkMoves

/-!
What the requests of level three and the recovery of the peer can do to the
view. The rules below cover every change that the module makes to it.
-/

namespace OpenSS7.M2pa

open Program

namespace View

def misstep (v : View) (x : Misstep) : View :=
  { v with missteps := v.missteps ++ [x] }

/-- The first `count` messages leave `rtb`, as many as there are. -/
def release (v : View) (bsn count : Nat) : View :=
  { v with
    rtb := v.rtb.drop count
    tack := decrement^[min count v.rtb.length] v.tack
    freed := v.freed ++
      (v.rtb.take count).map fun m => ⟨m.fsn, bsn, v.bsnr⟩ }

structure Counts (v : View) (bsn count : Nat) : Prop where
  forward : count = v.version.forward v.bsnr bsn
  sent : count ≤ v.version.forward v.bsnr v.fsnt

/-- A message joins `rb`. -/
def accept (v : View) (fsn : Nat) (octets : List UInt8) : View :=
  { v with
    rb := v.rb ++ [octets]
    accepted := v.accepted ++ [(fsn, octets)]
    fsnx := (v.fsnx + 1) % 2 ^ 24 }

/-- The head of `rb` is passed upstream. -/
def deliver (v : View) (octets : List UInt8) (rest : List (List UInt8)) :
    View :=
  { v with
    rb := rest
    delivered := v.delivered ++ [octets]
    fsnr := (v.fsnr + 1) % 2 ^ 24 }

def reset (v : View) : View :=
  { v with
    fsnr := 0xffffff
    bsnr := 0xffffff
    fsnx := 0
    fsnt := 0xffffff
    tack := 0
    accepted := []
    delivered := []
    freed := []
    missteps := if v.rtb = [] then [] else [.restarted] }

end View

structure Lasting (J : View → Prop) : Prop extends Closed J where
  misstep : ∀ v x, J v → J (v.misstep x)
  loose : ∀ v fsnt bsnr tack rtb freed, v.missteps ≠ [] → J v →
    J { v with
      fsnt := fsnt
      bsnr := bsnr
      tack := tack
      rtb := rtb
      freed := freed }
  empty : ∀ v, v.rtb = [] → J v → J { v with rtb := [], tack := 0 }
  recover : ∀ v, J v → J { v with rtb := [], tack := 0, fsnt := v.bsnr }
  renumber : ∀ v fsnt, fsnt = (if v.rtb = [] then v.bsnr else v.fsnt) →
    J v → J { v with fsnt := fsnt }
  acknowledge : ∀ v bsn count, v.Counts bsn count → J v →
    J { v.release bsn count with bsnr := bsn } ∧
      (v.rtb.length < count → J (v.release bsn count))

structure Receiving (J : View → Prop) : Prop extends Lasting J where
  accept : ∀ v fsn octets,
    (v.version.bare = false → fsn = v.fsnx % v.version.space) →
    J v → J (v.accept fsn octets)
  deliver : ∀ v octets rest, v.rb = octets :: rest → J v →
    J (v.deliver octets rest)
  enter : ∀ v, J v → J { v with sent := [] }

structure Throughout (J : View → Prop) : Prop extends Receiving J where
  clearRb : ∀ v, J v → J { v with rb := [] }
  reset : ∀ v, J v → J v.reset

section Synchronisation

variable {J : View → Prop} (lasting : Lasting J)

def Spared (beyond : List UInt8) (s : Sl) : Prop :=
  s.env.indMem.all id = true ∧ s.env.beyond = beyond

theorem ind_spared (i : Ind) (beyond : List UInt8) :
    Triple (fun s => J s.view ∧ Spared beyond s) (ind i)
      (fun _ s => J s.view ∧ Spared beyond s) (fun _ => False) := by
  refine triple_get_bind fun s ⟨holds, spared, eq⟩ => ?_
  have head : s.env.indMem.headD true = true := by
    cases memory : s.env.indMem with
    | nil => rfl
    | cons ok rest =>
        rw [memory, List.all_cons, Bool.and_eq_true] at spared
        exact spared.1
  have tail : s.env.indMem.tail.all id = true := by
    cases memory : s.env.indMem with
    | nil => rfl
    | cons ok rest =>
        rw [memory, List.all_cons, Bool.and_eq_true] at spared
        exact spared.2
  refine triple_bind (R := fun _ s => J s.view ∧ Spared beyond s)
    (triple_modify fun _ eq' => ?_) fun _ => ?_
  · subst eq'
    exact ⟨holds, tail, eq⟩
  · rw [if_pos head]
    exact triple_modify fun _ h => h

theorem ind_succeeds (i : Ind) :
    Triple (fun s => s.env.indMem.headD true = true ∧ J s.view) (ind i)
      (fun _ s => J s.view) (fun _ => False) := by
  refine triple_get_bind fun s ⟨head, holds⟩ => triple_bind
    (R := fun _ (s : Sl) => J s.view) (triple_modify fun _ eq => ?_)
    fun _ => ?_
  · subst eq
    exact holds
  · rw [if_pos head]
    exact triple_modify fun _ h => h

theorem ignoring_spared {P : Sl → Prop} {m : SlM Unit}
    (triple : Triple P m (fun _ => P) (fun _ => False)) :
    Triple P (ignoring m) (fun _ => P) (fun _ => False) :=
  triple_tryCatch triple fun _ _ stopped => stopped.elim

theorem slCongestionNotice_spared (onset : Bool) (cong disc : Nat)
    (beyond : List UInt8) :
    Triple (fun s => J s.view ∧ Spared beyond s)
      (slCongestionNotice onset cong disc)
      (fun _ s => J s.view ∧ Spared beyond s) (fun _ => False) := by
  refine triple_bind (R := fun _ s => J s.view ∧ Spared beyond s)
    (triple_get fun _ h => h) fun s => triple_ite (fun _ => ?_) fun _ => ?_
  · exact triple_when (fun _ => triple_bind (triple_modify fun _ h => h)
      fun _ => triple_when (fun _ => ind_spared _ _) fun _ _ h => h)
      fun _ _ h => h
  · exact triple_when (fun _ => triple_bind (triple_modify fun _ h => h)
      fun _ => triple_when (fun _ => ind_spared _ _) fun _ _ h => h)
      fun _ _ h => h

theorem slCheckCongestion_spared (beyond : List UInt8) :
    Triple (fun s => J s.view ∧ Spared beyond s) slCheckCongestion
      (fun _ s => J s.view ∧ Spared beyond s) (fun _ => False) := by
  refine triple_bind (R := fun _ s => J s.view ∧ Spared beyond s)
    (triple_get fun _ h => h) fun s =>
    triple_bind (R := fun _ s => J s.view ∧ Spared beyond s)
      (triple_modify fun _ h => h) fun _ =>
    triple_when (fun _ => triple_ite (fun _ => ?_) fun _ => ?_) fun _ _ h => h
  · exact ignoring_spared (ind_spared _ _)
  · exact triple_bind (slCongestionNotice_spared _ _ _ _) fun _ =>
      ignoring_spared (ind_spared _ _)

include lasting

theorem Lasting.resync {s : Sl} (octets : List UInt8) (holds : J s.view) :
    J (s.resync octets).view := by
  unfold Sl.resync
  by_cases same : s.syncNumber octets = if s.rtb = [] then s.bsnr else s.fsnt
  · rw [if_pos same, List.append_nil]
    exact lasting.renumber s.view _ same holds
  · rw [if_neg same]
    exact lasting.loose (s.view.misstep .renumbered) (s.syncNumber octets)
      s.bsnr s.tack s.rtb s.freed (by simp [View.misstep])
      (lasting.misstep _ _ holds)

theorem Lasting.purge {s : Sl} (holds : J s.view) :
    J (s.purgeRtb false).view := by
  unfold Sl.purgeRtb
  by_cases empty : s.rtb = [] ∨ false = true
  · rw [if_pos empty, List.append_nil]
    exact lasting.empty s.view (by simpa [Sl.view] using empty) holds
  · rw [if_neg empty]
    exact lasting.loose (s.view.misstep .purged) s.fsnt s.bsnr 0 [] s.freed
      (by simp [View.misstep]) (lasting.misstep _ _ holds)

theorem slSynchronised_keeps : Keeps (fun s => J s.view) slSynchronised :=
  keeps_bind (slSendStatus_keeps lasting.toTelling _) fun _ =>
    keeps_quiet fun _ => rfl

theorem slSynchronise_follows {s : Sl} (octets : List UInt8)
    (holds : J s.view) (number : s.syncNumber octets = s.bsnr)
    (spared : s.env.indMem.all id = true) :
    Triple (fun s' => s = s') (slSynchronise octets) (fun _ s => J s.view)
      (fun s => J s.view) := by
  have middle : Triple (fun s' => (J { s'.view with fsnt := s'.bsnr } ∧
      s'.rtb = [] ∧ s'.bsnr = s.bsnr) ∧ Spared s.env.beyond s')
      slCheckCongestion
      (fun _ s' => (J { s'.view with fsnt := s'.bsnr } ∧
        s'.rtb = [] ∧ s'.bsnr = s.bsnr) ∧ Spared s.env.beyond s')
      (fun _ => False) :=
    slCheckCongestion_spared (J := fun v => J { v with fsnt := v.bsnr } ∧
      v.rtb = [] ∧ v.bsnr = s.bsnr) s.env.beyond
  refine triple_bind (triple_modify fun s' eq => ?_) fun _ => triple_bind
    (triple_conseq middle (fun _ h => h) (fun _ _ h => h)
      fun _ stopped => stopped.elim) fun _ =>
    triple_bind (R := fun _ (s : Sl) => J s.view) (triple_modify fun s' h => ?_)
      fun _ => slSynchronised_keeps lasting
  · subst eq
    have follows : (decide (s.syncNumber octets = s.bsnr) &&
        s.env.indMem.all id) = true := by simp [number, spared]
    have purged : (s.purgeRtb true).view =
        { s.view with rtb := [], tack := 0 } := by
      simp [Sl.purgeRtb, Sl.view]
    rw [follows, purged]
    exact ⟨⟨lasting.recover s.view holds, rfl, rfl⟩, spared, rfl⟩
  · obtain ⟨⟨kept, empty, bsnr⟩, _, beyond⟩ := h
    have number' : s'.syncNumber octets = s'.bsnr := by
      unfold Sl.syncNumber at number ⊢
      rw [beyond, bsnr]
      exact number
    have same : s'.syncNumber octets =
        if s'.rtb = [] then s'.bsnr else s'.fsnt := by
      rw [if_pos empty, number']
    unfold Sl.resync
    rw [if_pos same, List.append_nil, number']
    exact kept

theorem slSynchronise_keeps (octets : List UInt8) :
    Keeps (fun s => J s.view) (slSynchronise octets) := by
  refine keeps_of_each fun s holds => ?_
  cases follows : (decide (s.syncNumber octets = s.bsnr) &&
      s.env.indMem.all id) with
  | true =>
      rw [Bool.and_eq_true, decide_eq_true_eq] at follows
      exact slSynchronise_follows lasting octets holds follows.1 follows.2
  | false =>
      refine triple_bind (R := fun _ (s : Sl) => J s.view)
        (triple_modify fun s' eq => ?_) fun _ =>
        triple_bind (R := fun _ (s : Sl) => J s.view) slCheckCongestion_keeps fun _ =>
        keeps_bind (keeps_modify fun s h => lasting.resync octets h) fun _ =>
        slSynchronised_keeps lasting
      subst eq
      rw [follows]
      exact lasting.purge holds

theorem slLscStatusInService_keeps (octets : List UInt8) :
    Keeps (fun s => J s.view) (slLscStatusInService octets) := by
  have closed := lasting.toClosed
  refine keeps_bind (keeps_quiet fun _ => rfl) fun _ =>
    keeps_of_ends fun s holds => ?_
  have synchronise : Keeps (fun s => J s.view) (do
      if s.version.late && s.flags.waitSync then
        modify fun s => s.resync octets
        modify fun s =>
          { s with
            flags := { s.flags with waitSync := false, sendMsu := true }
            slips := s.slips ++
              if s.state = .inService then [] else [.resynchronised] }
        slTxWakeup
      else
        pure ()) := by
    refine keeps_ite ?_ (keeps_pure _)
    refine keeps_bind (keeps_modify fun s h => lasting.resync octets h)
      fun _ => keeps_bind (keeps_modify fun s h => ?_) fun _ =>
        slTxWakeup_keeps lasting.toSteady
    exact closed.shift s.state true s.flags.recvMsu .resynchronised
      (fun serves _ => .inService serves) h
  split
  case h_1 state =>
    refine .ite (fun _ => .throw _) fun _ => ?_
    exact .bind (keeps_quiet fun _ => rfl) fun _ =>
      slReady_ends closed (by rw [Sl.view, state]; rfl)
  case h_2 => exact .of_keeps (keeps_quiet fun _ => rfl)
  case h_3 => exact .of_keeps (keeps_quiet fun _ => rfl)
  case h_4 =>
    exact .bind (ind_keeps _) fun _ =>
      .hold closed .processorOutage fun _ => rfl
  case h_5 =>
    exact .bind (ind_keeps _) fun _ =>
      .serve closed (fun _ => true) (fun _ => true) fun _ => rfl
  case h_6 => exact .of_keeps synchronise
  case h_7 => exact .of_keeps synchronise
  case h_8 => exact .pure _
  case h_9 => exact .pure _

theorem slLscStatusProcessorOutageEnded_keeps (octets : List UInt8) :
    Keeps (fun s => J s.view) (slLscStatusProcessorOutageEnded octets) := by
  refine keeps_bind (keeps_quiet fun _ => rfl) fun _ =>
    keeps_bind keeps_get fun s => keeps_ite ?_ (keeps_throw _)
  refine keeps_bind (keeps_when ?_) fun _ =>
    keeps_when (slLscNoProcessorOutage_keeps lasting.toClosed)
  exact keeps_bind (keeps_when (slSynchronise_keeps lasting octets)) fun _ =>
    keeps_bind (notice_keeps _) fun _ => keeps_bind (ind_keeps _) fun _ =>
      keeps_quiet fun _ => rfl

end Synchronisation

section Requests

variable {J : View → Prop} {w : View}

theorem slLscEmergencyCeases_keeps :
    Keeps (fun s => J s.view) slLscEmergencyCeases :=
  keeps_quiet fun _ => rfl

theorem slLscEmergency_keeps (steady : Steady J) :
    Keeps (fun s => J s.view) slLscEmergency :=
  keeps_bind (keeps_quiet fun _ => rfl) fun _ => keeps_bind keeps_get
    fun _ => keeps_ite (slSendProving_keeps steady.toTelling _) (keeps_throw _)

theorem slLscRetrieveBsnt_keeps :
    Keeps (fun s => J s.view) slLscRetrieveBsnt := by
  refine keeps_bind keeps_get fun s => ?_
  split <;> first
    | exact ignoring_keeps (ind_keeps _)
    | exact keeps_throw _

section

variable (closed : Closed J)

include closed

theorem slLscLocalProcessorOutage_keeps :
    Keeps (fun s => J s.view) slLscLocalProcessorOutage := by
  refine keeps_of_ends fun s holds => ?_
  split
  case h_6 state =>
    refine .bind (slSendStatus_keeps (closed.at _).toTelling _) fun _ =>
      .turn closed .alignedNotReady (fun s => s.view.sendMsu)
        (fun _ => false) (fun _ => rfl) fun s' here ok => ?_
    have idle : s'.view.state.idle = true := by
      rw [here.state, Sl.view, state]
      rfl
    exact .clear (ok.idle idle).1 rfl
  case h_7 =>
    refine .of_keeps (keeps_bind (slSendStatus_keeps closed.toTelling _)
      fun _ => keeps_bind (keeps_modify fun s h => ?_) fun _ =>
      keeps_bind (slOutageBegins_keeps closed.toSteady) fun _ =>
      keeps_modify fun s h => ?_)
    · exact closed.turn s.view s.state s.flags.sendMsu false
        (fun ok => ⟨ok.sends, (absurd · Bool.false_ne_true)⟩) h
    · refine closed.shift .processorOutage s.flags.sendMsu s.flags.recvMsu
        .localOutage (fun clear _ => ⟨fun set => ?_, fun _ => Or.inr rfl⟩) h
      simp only [View.turn] at set
      simp [set] at clear
  case h_8 =>
    exact .of_keeps (keeps_bind (keeps_when (slSendStatus_keeps
      closed.toTelling _)) fun _ => keeps_quiet fun _ => rfl)
  case h_9 => exact .throw _
  all_goals exact .of_keeps (keeps_quiet fun _ => rfl)

theorem slResumeAligned_ends (state : w.state = .alignedNotReady) :
    Ends J w slResumeAligned := by
  refine .bind (keeps_quiet fun _ => rfl) fun _ => .bind keeps_get fun s =>
    .bind (keeps_when (slLscNoProcessorOutage_at (by rw [state]; nofun)))
      fun _ => ?_
  refine triple_bind (R := fun _ (s : Sl) => J s.view ∧
    s.view.state.idle = true) (triple_when (fun _ => ?_) fun _ s here =>
      ⟨here.holds, by rw [here.state, state]; rfl⟩) fun _ =>
    triple_modify fun s ⟨holds, idle⟩ => ?_
  · refine triple_modify fun s here => ⟨?_, ?_⟩
    · exact closed.slip s.view s.state s.flags.sendMsu true .resumed here.holds
    · show s.view.state.idle = true
      rw [here.state, state]
      rfl
  · exact closed.turn s.view .alignedReady false s.flags.recvMsu
      (fun ok => .clear rfl (ok.idle idle).2) holds

theorem slResumeItut_keeps : Keeps (fun s => J s.view) slResumeItut := by
  have steady := closed.toSteady
  refine keeps_bind (slOutageEnded_keeps steady) fun _ =>
    keeps_bind keeps_get fun s =>
    keeps_bind (keeps_when (slLscNoProcessorOutage_keeps closed)) fun _ =>
    keeps_bind (keeps_modify fun s holds =>
      closed.congest s.view false holds) fun _ =>
    keeps_bind keeps_get fun s =>
    keeps_bind (keeps_when (slSendStatus_keeps steady.toTelling _)) fun _ =>
    keeps_modify fun s holds => ?_
  exact closed.turn s.view s.state false s.flags.recvMsu
    (fun ok => ⟨nofun, ok.receives⟩) holds

theorem slResumeAnsi_ends (state : w.state = .processorOutage) :
    Ends J w slResumeAnsi := by
  have steady := closed.at w
  refine .bind (slOutageEnded_keeps steady) fun _ => .bind_turn
    { w with recvMsu := true } (triple_modify fun s here => ?_)
    fun _ => .bind keeps_get fun s => .ite (fun _ => ?_) fun _ =>
    .serve closed (fun _ => true) (fun s => s.view.recvMsu) fun _ => rfl
  · refine ⟨closed.turn s.view s.state s.flags.sendMsu true
      (fun ok => ⟨ok.sends, fun _ => Or.inr ?_⟩) here.holds, here.state,
      here.sendMsu, rfl⟩
    exact here.state.trans state
  · refine triple_bind (R := fun _ (s : Sl) => J s.view)
      (triple_modify fun s here => ?_) fun _ => ind_keeps _
    exact closed.turn s.view s.state false s.flags.recvMsu
      (fun ok => ⟨nofun, ok.receives⟩) here.holds

theorem slLscResume_keeps : Keeps (fun s => J s.view) slLscResume := by
  refine keeps_of_ends fun s holds => ?_
  split
  case h_6 => exact .pure _
  case h_7 state => exact slResumeAligned_ends closed state
  case h_8 state =>
    exact .ite (fun _ => slResumeAnsi_ends closed state) fun _ =>
      .of_keeps (slResumeItut_keeps closed)
  case h_9 => exact .throw _
  all_goals exact .of_keeps (keeps_quiet fun _ => rfl)

theorem alignmentTimeout_keeps (waiting : LinkState) :
    Keeps (fun s => J s.view) (alignmentTimeout waiting) :=
  keeps_bind keeps_get fun _ => keeps_ite (fail_keeps closed _ _)
    (keeps_throw _)

theorem slT4Timeout_keeps : Keeps (fun s => J s.view) slT4Timeout :=
  keeps_of_ends fun s _ => .ite (fun state => slReady_ends closed (by
    rw [Sl.view, state]
    rfl)) fun _ => .throw _

theorem slLscStart_leads {s : Sl} (stopped : s.state = .outOfService)
    (reset : J s.view.reset) :
    Triple (fun s' => s = s') slLscStart (fun _ s => J s.view)
      (fun s => J s.view) := by
  refine triple_get_bind fun s' eq => ?_
  subst eq
  rw [if_pos stopped]
  have idle : s.view.reset.state.idle = true := by
    show s.state.idle = true
    rw [stopped]
    rfl
  have ends : Ends J s.view.reset (do
      slSendStatus .alignment
      if !s.flags.remAln then
        modify fun s => { s with state := .notAligned }
      else if !s.nopr then
        slProve
        modify fun s => { s with state := .aligned }
      else
        slReady) :=
    .bind (slSendStatus_keeps (closed.at _).toTelling _) fun _ => .ite
      (fun _ => .rest closed idle .notAligned fun _ => rfl) fun _ => .ite
      (fun _ => .bind (slProve_keeps (closed.at _)) fun _ =>
        .rest closed idle .aligned fun _ => rfl)
      fun _ => slReady_ends closed idle
  exact triple_bind (triple_modify fun _ eq => eq ▸ At.here reset)
    fun _ => ends

theorem slRecovered_keeps : Keeps (fun s => J s.view) slRecovered := by
  refine keeps_of_each fun s holds => ?_
  cases told : s.env.indMem.headD true with
  | true =>
      refine triple_bind (triple_modify (Q := fun _ (s : Sl) =>
        s.env.indMem.headD true = true ∧
          J { s.view with state := .inService }) fun s' eq => ?_) fun _ =>
        triple_bind (triple_conseq (ind_succeeds
          (J := fun v => J { v with state := .inService }) _) (fun _ h => h)
          (fun _ _ h => h) fun _ stopped => stopped.elim) fun _ =>
        triple_modify fun _ h => h
      subst eq
      rw [if_pos told, List.append_nil]
      exact ⟨told, closed.turn s.view .inService true s.flags.recvMsu
        (fun _ => .inService rfl) holds⟩
  | false =>
      refine triple_bind (R := fun _ (s : Sl) => J s.view)
        (triple_modify fun s' eq => ?_) fun _ =>
        keeps_bind (ind_keeps _) fun _ => keeps_modify fun s h =>
          closed.turn s.view .inService s.flags.sendMsu s.flags.recvMsu
            (fun _ => .inService rfl) h
      subst eq
      rw [told]
      exact closed.slip s.view s.state true s.flags.recvMsu .recoveryUntold
        holds

end

section

variable (lasting : Lasting J)

include lasting

theorem slLscClearRtb_keeps : Keeps (fun s => J s.view) slLscClearRtb := by
  refine keeps_bind keeps_get fun s => keeps_ite ?_ (keeps_throw _)
  exact keeps_bind (keeps_modify fun s h => lasting.purge h) fun _ =>
    keeps_bind (ind_keeps _) fun _ =>
    keeps_bind slCheckCongestion_keeps fun _ =>
    keeps_bind (keeps_quiet fun _ => rfl) fun _ =>
    keeps_bind (keeps_when (keeps_bind (notice_keeps _) fun _ =>
      keeps_quiet fun _ => rfl)) fun _ => slRecovered_keeps lasting.toClosed

theorem freeRetrieved_keeps (fsnc fuel : Nat) {s : Sl}
    (noted : s.missteps ≠ []) (holds : J s.view) :
    J (s.freeRetrieved fsnc fuel).view ∧
      (s.freeRetrieved fsnc fuel).missteps ≠ [] := by
  induction fuel generalizing s with
  | zero => exact ⟨holds, noted⟩
  | succ fuel ih =>
      unfold Sl.freeRetrieved
      split
      · exact ih noted (lasting.loose s.view _ s.bsnr s.tack _ s.freed noted
          holds)
      · exact ⟨holds, noted⟩

theorem slRetrieveRtb_keeps (fuel : Nat) :
    Keeps (fun s => J s.view ∧ s.view.missteps ≠ []) (slRetrieveRtb fuel) := by
  induction fuel with
  | zero => exact keeps_pure _
  | succ fuel ih =>
      refine keeps_bind keeps_get fun s => ?_
      split
      · exact keeps_pure _
      · refine keeps_bind (ind_keeps (J := fun v => J v ∧ v.missteps ≠ []) _)
          fun _ => keeps_bind (keeps_modify fun s ⟨holds, noted⟩ => ?_)
            fun _ => ih
        exact ⟨lasting.loose s.view s.fsnt s.bsnr s.tack _ s.freed noted
          holds, noted⟩

omit lasting in
theorem slRetrieveTb_keeps (fuel : Nat) :
    Keeps (fun s => J s.view) (slRetrieveTb fuel) := by
  induction fuel with
  | zero => exact keeps_pure _
  | succ fuel ih =>
      refine keeps_bind keeps_get fun s => ?_
      split
      · exact keeps_pure _
      · exact keeps_bind (ind_keeps _) fun _ =>
          keeps_bind (keeps_quiet fun _ => rfl) fun _ => ih

theorem slLscRetrievalRequestAndFsnc_keeps (fsnc : Nat) :
    Keeps (fun s => J s.view) (slLscRetrievalRequestAndFsnc fsnc) := by
  refine triple_get_bind fun s holds => ?_
  have retrieve : Triple (fun s' => s = s') (do
      modify fun s =>
        { s with missteps := s.missteps ++
            if s.rtb = [] then [] else [.retrieved] }
      modify fun s => s.freeRetrieved fsnc s.rtb.length
      slRetrieveRtb s.rtb.length
      slRetrieveTb s.tb.length
      ind .retrievalComplete : SlM Unit) (fun _ s => J s.view)
      (fun s => J s.view) := by
    have rest : Keeps (fun s => J s.view) (do
        slRetrieveTb s.tb.length
        ind .retrievalComplete : SlM Unit) :=
      keeps_bind (slRetrieveTb_keeps _) fun _ => ind_keeps _
    by_cases empty : s.rtb = []
    · refine triple_bind (triple_modify (Q := fun _ (s' : Sl) =>
        J s'.view ∧ s'.rtb = []) fun s' eq => ?_) fun _ =>
        triple_bind (R := fun _ (s' : Sl) => J s'.view)
          (triple_modify fun s' h => ?_) fun _ => ?_
      · subst eq
        rw [if_pos empty, List.append_nil]
        exact ⟨holds, empty⟩
      · rw [h.2]
        exact h.1
      · rw [empty]
        exact rest
    · refine triple_bind (triple_modify (Q := fun _ (s' : Sl) =>
        J s'.view ∧ s'.missteps ≠ []) fun s' eq => ?_) fun _ =>
        triple_bind (R := fun _ (s' : Sl) => J s'.view ∧ s'.missteps ≠ [])
          (triple_modify fun s' h => freeRetrieved_keeps lasting fsnc _
            h.2 h.1) fun _ => triple_bind (triple_conseq
            (slRetrieveRtb_keeps lasting _) (fun _ h => h) (fun _ _ h => h)
            fun _ h => h.1) fun _ => triple_conseq rest (fun _ h => h.1)
            (fun _ _ h => h) fun _ h => h
      subst eq
      rw [if_neg empty]
      exact ⟨lasting.misstep s.view .retrieved holds, by simp⟩
  have refused : Triple (fun s' => s = s') (do
      ind .retrievalNotPossible
      throw .EPROTO : SlM Unit) (fun _ s => J s.view) (fun s => J s.view) :=
    triple_bind (triple_conseq (ind_keeps (J := J) _) (fun _ eq => eq ▸ holds)
      (fun _ _ h => h) fun _ h => h) fun _ => triple_throw fun _ h => h
  split <;> first | exact retrieve | exact refused

end

section

variable (throughout : Throughout J)

include throughout

theorem slClearBuffers_keeps : Keeps (fun s => J s.view) slClearBuffers := by
  have closed := throughout.toClosed
  have cleared : Keeps (fun s => J s.view) slBuffersCleared :=
    keeps_modify fun s h => closed.turn s.view .inService true true
      (fun _ => .inService rfl) h
  refine keeps_bind (keeps_modify fun s h =>
    throughout.toLasting.purge h) fun _ =>
    keeps_bind slCheckCongestion_keeps fun _ => keeps_bind keeps_get fun s =>
    keeps_ite ?_ ?_
  · exact keeps_bind (notice_keeps _) fun _ => keeps_bind (ind_keeps _) fun _ =>
      keeps_bind (keeps_modify fun s h => throughout.clearRb s.view h) fun _ =>
      keeps_bind (ind_keeps _) fun _ =>
      keeps_bind (keeps_when (keeps_bind (ind_keeps _) fun _ =>
        keeps_quiet fun _ => rfl)) fun _ => cleared
  · exact keeps_bind (keeps_quiet fun _ => rfl) fun _ => keeps_when cleared

theorem slLscClearBuffers_keeps :
    Keeps (fun s => J s.view) slLscClearBuffers := by
  have closed := throughout.toClosed
  refine keeps_of_ends fun s holds => ?_
  split
  case h_6 state =>
    refine .ite (fun _ => .bind (ind_keeps _) fun _ => .turn closed
      .alignedReady (fun _ => false) (fun s => s.view.recvMsu) (fun _ => rfl)
      fun s' here ok => .clear rfl (ok.idle ?_).2) fun _ => .pure _
    rw [here.state, Sl.view, state]
    rfl
  case h_7 => exact .of_keeps (slClearBuffers_keeps throughout)
  case h_8 => exact .throw _
  all_goals exact .ite (fun _ => .of_keeps (keeps_bind (ind_keeps _)
    fun _ => keeps_quiet fun _ => rfl)) fun _ => .pure _

theorem slLscPowerOn_keeps : Keeps (fun s => J s.view) slLscPowerOn := by
  have closed := throughout.toClosed
  refine keeps_of_ends fun s holds => .ite (fun state => ?_) fun _ => .throw _
  refine .bind_turn { s.view with sendMsu := false, recvMsu := false }
    (triple_modify fun s' here => ⟨?_, here.state, rfl, rfl⟩) fun _ =>
    .bind (slSendStatus_keeps (closed.at _).toTelling _) fun _ =>
      .rest closed (by rw [Sl.view, state]; rfl) .outOfService fun _ => rfl
  exact closed.congest _ false (closed.turn s'.view.reset s'.state false false
    (fun _ => .clear rfl rfl) (throughout.reset s'.view here.holds))

theorem slLscStart_keeps : Keeps (fun s => J s.view) slLscStart := by
  refine keeps_of_each fun s holds => ?_
  by_cases stopped : s.state = .outOfService
  · exact slLscStart_leads throughout.toClosed stopped
      (throughout.reset s.view holds)
  · refine triple_get_bind fun s' eq => ?_
    subst eq
    rw [if_neg stopped]
    exact triple_throw fun _ eq => eq ▸ holds

end

end Requests

end OpenSS7.M2pa
