import OpenSS7.Mtp2.Link

/-!
Changeover: both sides of a link stop, one is asked for the last number it
has accepted, and the other retrieves what comes after that number.
-/

namespace OpenSS7.Mtp2

open Program SlidingWindow

namespace Sl

def stop (s : Sl) (env : Env) : Sl := slLscStop.after (s.enter env)

def retrieveBsnt (s : Sl) (env : Env) : Sl :=
  slLscRetrieveBsnt.after (s.enter env)

def retrieve (s : Sl) (env : Env) (fsnc : Nat) : Sl :=
  (slLscRetrievalRequestAndFsnc fsnc).after (s.enter env)

end Sl

def Ind.retrieved : Ind → Option (List UInt8)
  | .retrievedMessage octets => some octets
  | _ => none

section Stopping

theorem sdtReq_returns (r : SdtReq) :
    Triple (fun s => s.env.reqMem = []) (sdtReq r)
      (fun _ s => s.env.reqMem = []) (fun _ => False) := by
  refine triple_get_bind fun s memory => triple_bind
    (R := fun _ s => s.env.reqMem = []) (triple_modify ?_) fun _ =>
    triple_ite (fun _ => triple_modify fun _ h => h) fun failed => ?_
  · rintro _ rfl
    simp [memory]
  · simp [memory] at failed

theorem slIacStop_returns :
    Triple (fun s => s.env.reqMem = []) slIacStop
      (fun _ s => s.env.reqMem = []) (fun _ => False) :=
  triple_bind (triple_get fun _ h => h) fun _ => triple_ite
    (fun _ => triple_bind (R := fun _ s => s.env.reqMem = [])
      (triple_modify fun _ h => h) fun _ =>
      triple_bind (sdtReq_returns _) fun _ => triple_modify fun _ h => h)
    fun _ => triple_pure fun _ h => h

theorem slLscStop_returns :
    Triple (fun s => s.env.reqMem = []) slLscStop
      (fun _ s => s.lscState = .outOfService) (fun _ => False) := by
  have wakeup : Triple (fun _ => True) slTxcSendSios (fun _ _ => True)
      (fun _ => False) :=
    triple_bind (triple_modify fun _ h => h) fun _ =>
      slDaedtTransmitterWakeup_total (J := fun _ => True)
        fun _ _ _ _ => trivial
  refine triple_get_bind fun s memory => triple_ite (fun _ => ?_)
    fun stopped => triple_pure fun _ eq => eq ▸ Decidable.not_not.1 stopped
  refine triple_bind (triple_conseq slIacStop_returns (fun _ eq => eq ▸ memory)
      (fun _ _ h => h) fun _ h => h) fun _ =>
    triple_bind (R := fun _ s => s.env.reqMem = [])
      (triple_modify fun _ h => h) fun _ =>
    triple_bind (R := fun _ s => s.env.reqMem = []) ?_ fun _ =>
    triple_bind (sdtReq_returns _) fun _ =>
    triple_bind (R := fun _ _ => True) (triple_modify fun _ _ => trivial)
      fun _ => triple_bind wakeup fun _ => triple_modify fun _ _ => rfl
  exact triple_bind (triple_modify fun _ h => h) fun _ =>
    triple_modify fun _ h => h

theorem Sl.stop_outOfService {s : Sl} {env : Env} (memory : env.reqMem = []) :
    (s.stop env).lscState = .outOfService := by
  refine triple_after (R := fun s => s.lscState = .outOfService)
    (triple_conseq slLscStop_returns (fun _ h => h) (fun _ _ h => h)
      fun _ h => h.elim) (s := s.enter env) memory

theorem Sl.stop_history (s : Sl) (env : Env) :
    (s.stop env).accepted = s.accepted ∧
      (s.stop env).submitted = s.submitted := by
  have kept := slLscStop_keeps (J := fun v =>
    v.accepted = s.accepted ∧ v.submitted = s.submitted)
    (fun v v' move h => by cases move <;> exact h)
  exact triple_after kept (s := s.enter env) ⟨rfl, rfl⟩

namespace Link

def stop (l : Link) (envA envB : Env) : Link :=
  { a := l.a.stop envA, b := l.b.stop envB, ab := [], ba := [] }

theorem InOrder.stopA {oa ob : Options} {l : Link}
    (inOrder : l.InOrder oa ob) {env : Env} (memory : env.indMem = []) :
    InOrder oa ob { l with a := l.a.stop env, ab := [], ba := [] } := by
  have kept := slLscStop_keeps
    (View.rests_closed oa (Good l.b) l.b.view l.ab l.ba l.ba)
  have stopped := inOrder.after (triple_after kept (inOrder.rests memory))
  exact stopped.lose (List.nil_sublist _) (List.nil_sublist _)

theorem InOrder.stop {oa ob : Options} {l : Link}
    (inOrder : l.InOrder oa ob) {envA envB : Env}
    (memoryA : envA.indMem = []) (memoryB : envB.indMem = []) :
    (l.stop envA envB).InOrder oa ob :=
  ((inOrder.stopA memoryA).swap.stopA memoryB).swap

end Link

end Stopping

section Retrieval

/-- What has been indicated and what is on `rtb`, where no indication
fails. -/
structure Told (inds : List Ind) (rtb : List Msu) (s : Sl) : Prop where
  memory : s.env.indMem = []
  inds : s.inds = inds
  rtb : s.rtb = rtb

theorem ind_told (i : Ind) (before : List Ind) (q : List Msu) :
    Triple (Told before q) (ind i) (fun _ => Told (before ++ [i]) q)
      (fun _ => False) := by
  refine triple_get_bind fun s told => triple_bind
    (R := fun _ => Told before q) (triple_modify ?_) fun _ =>
    triple_ite (fun _ => triple_modify fun _ h => ?_) fun failed => ?_
  · rintro _ rfl
    exact { told with memory := by simp [told.memory] }
  · exact { h with inds := by rw [h.inds] }
  · simp [told.memory] at failed

theorem Sl.retrieveBsnt_inds {s : Sl} {env : Env} (memory : env.indMem = [])
    (stopped : s.lscState = .outOfService) :
    (s.retrieveBsnt env).inds = [.bsnt (s.pred s.rxXFsn &&& 0x7f)] := by
  refine triple_after (P := fun s' => s.enter env = s')
    (R := fun s' => s'.inds = [.bsnt (s.pred s.rxXFsn &&& 0x7f)]) ?_ rfl
  refine triple_get_bind fun s₀ eq => ?_
  have state : s₀.lscState = .outOfService := eq ▸ stopped
  rw [state]
  refine triple_bind (R := fun _ s' => Told [] s.rtb s' ∧
    s'.rxTBsn = s.pred s.rxXFsn &&& 0x7f) (triple_modify ?_) fun _ =>
    triple_get_bind fun s₁ ⟨told, number⟩ => ?_
  · rintro _ rfl
    subst eq
    exact ⟨⟨memory, rfl, rfl⟩, rfl⟩
  · rw [number]
    exact triple_conseq (ind_told _ [] s.rtb) (fun _ eq => eq ▸ told)
      (fun _ _ told => told.inds) fun _ h => h.elim

def Msu.indication (m : Msu) : Ind := .retrievedMessage (m.hdr ++ m.sdu)

theorem slTxcRetrieve_told (q : List Msu) (before : List Ind) :
    Triple (Told before q) (slTxcRetrieve q.length)
      (fun _ => Told (before ++ q.map Msu.indication) []) (fun _ => False) := by
  induction q generalizing before with
  | nil =>
      rw [List.map_nil, List.append_nil]
      exact triple_pure fun _ told => told
  | cons m rest ih =>
      refine triple_get_bind fun s told => ?_
      rw [told.rtb]
      refine triple_bind (R := fun _ => Told before rest) (triple_modify ?_)
        fun _ => triple_bind (ind_told m.indication before rest) fun _ => ?_
      · rintro _ rfl
        exact { told with rtb := rfl }
      · have others := ih (before ++ [m.indication])
        rw [List.append_assoc] at others
        exact others

theorem Sl.free_zero {s : Sl} (small : s.txFFsn ≤ s.snMask) :
    s.free 0 = s := by
  have number : s.txFFsn % (s.snMask + 1) = s.txFFsn :=
    Nat.mod_eq_of_lt (Nat.lt_succ_of_le small)
  simp [Sl.free, number]

theorem Sl.freeRetrieved_eq {s : Sl} {k fuel fsnc : Nat}
    (small : s.txFFsn ≤ s.snMask) (held : k ≤ s.rtb.length)
    (wide : k ≤ s.snMask) (enough : k ≤ fuel)
    (sized : ∀ m ∈ s.rtb, 0 < m.size)
    (target : (s.txFFsn + k) % (s.snMask + 1) = s.succ fsnc) :
    s.freeRetrieved fsnc fuel = s.free k := by
  induction fuel generalizing s k with
  | zero =>
      obtain rfl : k = 0 := by omega
      exact (Sl.free_zero small).symm
  | succ fuel ih =>
      cases k with
      | zero =>
          have level : s.txFFsn = s.succ fsnc := by
            rw [← target]
            exact (Nat.mod_eq_of_lt (Nat.lt_succ_of_le small)).symm
          rw [Sl.free_zero small]
          exact if_neg fun h => h.2 level
      | succ k =>
          have apart : s.txFFsn ≠ s.succ fsnc := by
            rw [← target]
            intro same
            have turned : s.txFFsn ≡ s.txFFsn + (k + 1) [MOD s.snMask + 1] := by
              rw [Nat.ModEq, ← same]
              exact Nat.mod_eq_of_lt (Nat.lt_succ_of_le small)
            have := eq_of_modEq turned (by omega) (by omega)
            omega
          have waiting : qCount s.rtb ≠ 0 := by
            cases rtb : s.rtb with
            | nil => simp [rtb] at held
            | cons m rest =>
                refine View.Side.qCount_pos (sized m ?_)
                rw [rtb]
                exact List.mem_cons_self
          have one : s.freeOne = s.free 1 := Sl.freeOne_eq (by omega)
          have target' : ((s.txFFsn + 1) % (s.snMask + 1) + k) %
              (s.snMask + 1) = s.succ fsnc := by
            rw [← target, Nat.mod_add_mod, Nat.add_assoc, Nat.add_comm 1 k]
          have rest := ih (s := s.free 1)
            (Nat.le_of_lt_succ (Nat.mod_lt _ (Nat.succ_pos _)))
            (by simp only [Sl.free, List.length_drop]; omega)
            (show k ≤ s.snMask by omega) (by omega)
            (fun m mem => sized m (List.mem_of_mem_drop mem)) target'
          rw [Sl.freeRetrieved, if_pos ⟨waiting, apart⟩, one, rest,
            Sl.free_one_free]

theorem Sl.retrieve_inds {s : Sl} {env : Env} {k fsnc : Nat}
    (memory : env.indMem = []) (stopped : s.lscState = .outOfService)
    (small : s.txFFsn ≤ s.snMask) (held : k ≤ s.rtb.length)
    (wide : k ≤ s.snMask) (sized : ∀ m ∈ s.rtb, 0 < m.size)
    (target : (s.txFFsn + k) % (s.snMask + 1) = s.succ fsnc) :
    (s.retrieve env fsnc).inds =
      (s.rtb.drop k ++ s.tb).map Msu.indication ++ [.retrievalComplete] := by
  set q := s.rtb.drop k ++ s.tb with hq
  refine triple_after (P := fun s' => s.enter env = s')
    (R := fun s' => s'.inds = q.map Msu.indication ++ [.retrievalComplete])
    ?_ rfl
  refine triple_get_bind fun s₀ eq => ?_
  have state : s₀.lscState = .outOfService := eq ▸ stopped
  rw [state]
  set s₁ : Sl := { s.enter env with txCFsn := (s.enter env).masked fsnc }
  have freed : s₁.freeRetrieved fsnc s₁.rtb.length = s₁.free k :=
    Sl.freeRetrieved_eq small held wide held sized target
  refine triple_bind (R := fun _ s' => s₁ = s') (triple_modify ?_) fun _ =>
    triple_bind (R := fun _ s' => s₁.free k = s') (triple_modify ?_) fun _ =>
    triple_bind (R := fun _ => Told [] q) (triple_modify ?_) fun _ =>
    triple_bind (R := fun _ => Told [] q)
      (triple_modify fun _ told => { told with }) fun _ =>
    triple_get_bind fun s₂ told => ?_
  · rintro _ rfl
    rw [← eq]
  · rintro _ rfl
    exact freed.symm
  · rintro _ rfl
    exact ⟨memory, rfl, rfl⟩
  have complete (P : Sl → Prop) : Triple (Told (q.map Msu.indication) [])
      (do
        modify fun s => { s with rtbFull := false }
        ind .retrievalComplete
        modify fun s =>
          { s with Cm := 0, Ct := 0, txNFsn := s.txCFsn, txLFsn := s.txCFsn } :
        SlM PUnit)
      (fun _ s' => s'.inds = q.map Msu.indication ++ [.retrievalComplete])
      P :=
    triple_bind (triple_modify fun _ told => { told with }) fun _ =>
      triple_bind (triple_conseq (ind_told _ _ []) (fun _ h => h)
        (fun _ _ h => h) fun _ h => h.elim) fun _ =>
        triple_modify fun _ told => told.inds
  have messages := slTxcRetrieve_told q []
  rw [told.rtb]
  exact triple_bind (triple_conseq messages (fun _ eq => eq ▸ told)
    (fun _ _ h => h) fun _ h => h.elim) fun _ => complete _

end Retrieval

section Changeover

def Msu.octets (m : Msu) : List UInt8 := m.hdr ++ m.sdu

theorem retrieved_indication (q : List Msu) :
    (q.map Msu.indication ++ [Ind.retrievalComplete]).filterMap Ind.retrieved =
      q.map Msu.octets := by
  induction q with
  | nil => rfl
  | cons m rest ih => exact congrArg (m.octets :: ·) ih

theorem drop_octets {q : List Msu} (headers : ∀ m ∈ q, m.hdr.length = 3) :
    (q.map Msu.octets).map (List.drop 3) = q.map Msu.sdu := by
  rw [List.map_map]
  refine List.map_congr_left fun m mem => ?_
  exact List.drop_left' (headers m mem)

theorem octets_eq_sdu_iff {q : List Msu}
    (headers : ∀ m ∈ q, m.hdr.length = 3) :
    q.map Msu.octets = q.map Msu.sdu ↔ q.length = 0 := by
  cases q with
  | nil => simp
  | cons m rest =>
      refine ⟨fun same => ?_, fun none_ => by cases none_⟩
      have first : m.hdr ++ m.sdu = m.sdu := (List.cons.inj same).1
      have longer := congrArg List.length first
      have header := headers m List.mem_cons_self
      rw [List.length_append] at longer
      omega

theorem View.Side.headers {v : View} (side : v.Side) {m : Msu}
    (mem : m ∈ v.rtb ++ v.tb) : m.hdr.length = 3 := by
  obtain ⟨i, at_⟩ := List.mem_iff_getElem?.1 mem
  exact (side.places i m at_).2.1

namespace Link

theorem InOrder.unaccepted {oa ob : Options} {l : Link}
    (inOrder : l.InOrder oa ob) (goodA : Good l.a) (goodB : Good l.b) :
    ∃ k ≤ l.b.rtb.length, k ≤ 127 ∧
      l.b.released.length + k = l.a.accepted.length ∧
      l.a.accepted ++ (l.b.rtb.drop k ++ l.b.tb).map Msu.sdu =
        l.b.submitted := by
  obtain ⟨_, receives⟩ := inOrder.2.2.2 goodB goodA
  have window := inOrder.2.1.window
  have acked : l.b.released.length ≤ l.a.accepted.length :=
    Nat.le_trans receives.flight.acked receives.flight.accepted
  have sent : l.a.accepted.length ≤ l.b.released.length + l.b.rtb.length :=
    receives.flight.sent
  have wide : l.b.released.length + l.b.rtb.length ≤
      l.b.released.length + 127 := receives.flight.window
  set k := l.a.accepted.length - l.b.released.length with hk
  have count : l.b.released.length + k = l.a.accepted.length := by omega
  refine ⟨k, by omega, by omega, count, ?_⟩
  have history : (l.b.released ++ l.b.rtb ++ l.b.tb).map Msu.sdu =
      l.b.submitted := window.history
  have accepted : l.a.accepted = l.b.submitted.take l.a.accepted.length :=
    receives.accepted
  have left : (l.b.rtb.drop k ++ l.b.tb).map Msu.sdu =
      l.b.submitted.drop l.a.accepted.length := by
    rw [← history, ← count, ← List.map_drop, ← List.drop_drop,
      List.append_assoc, List.drop_left,
      List.drop_append_of_le_length (by omega)]
  rw [left]
  nth_rewrite 1 [accepted]
  exact List.take_append_drop _ _

theorem InOrder.retrieved {oa ob : Options} {l : Link}
    (inOrder : l.InOrder oa ob) (goodA : Good l.a) (goodB : Good l.b)
    (stoppedA : l.a.lscState = .outOfService)
    (stoppedB : l.b.lscState = .outOfService) {env env' : Env}
    (memory : env.indMem = []) (memory' : env'.indMem = []) :
    ∃ (bsnt : Nat) (q : List Msu),
      (l.a.retrieveBsnt env).inds = [.bsnt bsnt] ∧
      (l.b.retrieve env' bsnt).inds =
        q.map Msu.indication ++ [.retrievalComplete] ∧
      l.a.accepted ++ q.map Msu.sdu = l.b.submitted ∧
      ∀ m ∈ q, m.hdr.length = 3 := by
  obtain ⟨k, held, wide, count, left⟩ := inOrder.unaccepted goodA goodB
  have sideA := (inOrder.1.2.2 goodA goodB).1
  have sideB := (inOrder.2.2.2 goodB goodA).1
  have maskA : l.a.snMask = 127 := sideA.mask inOrder.1.1.window
  have maskB : l.b.snMask = 127 := sideB.mask inOrder.2.1.window
  have expected : l.a.rxXFsn = l.a.accepted.length % 128 := sideA.expected
  have first : l.b.txFFsn = l.b.released.length % 128 := sideB.first
  set bsnt := l.a.pred l.a.rxXFsn &&& 0x7f with hbsnt
  have number : bsnt = (l.a.accepted.length + 127) % 128 := by
    rw [hbsnt, Sl.pred, maskA, expected, Nat.mod_add_mod]
    exact (Nat.and_two_pow_sub_one_eq_mod _ 7).trans (Nat.mod_mod _ _)
  have target : (l.b.txFFsn + k) % (l.b.snMask + 1) = l.b.succ bsnt := by
    rw [Sl.succ, maskB, first, number, Nat.mod_add_mod, count,
      Nat.mod_add_mod, Nat.add_assoc]
    exact (Nat.add_mod_right _ _).symm
  have sized : ∀ m ∈ l.b.rtb, 0 < m.size := by
    intro m mem
    have header := sideB.headers (List.mem_append_left _ mem)
    unfold Msu.size
    omega
  refine ⟨bsnt, l.b.rtb.drop k ++ l.b.tb, Sl.retrieveBsnt_inds memory stoppedA,
    ?_, left, ?_⟩
  · exact Sl.retrieve_inds memory' stoppedB inOrder.2.1.window.first held
      (by rw [maskB]; exact wide) sized target
  · intro m mem
    rw [← List.drop_append_of_le_length held] at mem
    exact sideB.headers (List.mem_of_mem_drop mem)

/-- A changeover neither loses nor repeats a message, but each retrieved
message is indicated with the header in front, so that the messages accepted
and retrieved are those submitted only when there are none to retrieve. -/
theorem changeover_exact {l : Link} (fresh : l.Fresh)
    {actions : List (Bool × Action)} (legal : ∀ x ∈ actions, x.2.Legal)
    (envA envB env env' : Env)
    (memoryA : envA.indMem = [] ∧ envA.reqMem = [])
    (memoryB : envB.indMem = [] ∧ envB.reqMem = [])
    (memory : env.indMem = []) (memory' : env'.indMem = [])
    (goodA : Good ((l.run actions).stop envA envB).a)
    (goodB : Good ((l.run actions).stop envA envB).b) :
    let reached := l.run actions
    let stopped := reached.stop envA envB
    ∃ bsnt, (stopped.a.retrieveBsnt env).inds = [.bsnt bsnt] ∧
      let retrieved := (stopped.b.retrieve env' bsnt).inds.filterMap
        Ind.retrieved
      reached.a.accepted ++ retrieved.map (List.drop 3) =
          reached.b.submitted ∧
        (reached.a.accepted ++ retrieved = reached.b.submitted ↔
          reached.a.accepted.length = reached.b.submitted.length) := by
  intro reached stopped
  have inOrder : stopped.InOrder l.a.option l.b.option :=
    (fresh.inOrder.run legal).stop memoryA.1 memoryB.1
  obtain ⟨bsnt, q, told, inds, left, headers⟩ :=
    inOrder.retrieved goodA goodB (Sl.stop_outOfService memoryA.2)
      (Sl.stop_outOfService memoryB.2) memory memory'
  rw [show stopped.a.accepted = reached.a.accepted from
      (Sl.stop_history _ _).1,
    show stopped.b.submitted = reached.b.submitted from
      (Sl.stop_history _ _).2] at left
  refine ⟨bsnt, told, ?_⟩
  intro retrieved
  have octets : retrieved = q.map Msu.octets := by
    rw [← retrieved_indication, ← inds]
  rw [octets, drop_octets headers, ← left]
  refine ⟨rfl, ?_⟩
  rw [List.append_cancel_left_eq, octets_eq_sdu_iff headers,
    List.length_append, List.length_map]
  omega

def unfinished : List (Bool × Action) :=
  [(true, submission 1 0 10), (true, submission 1 1 11),
    (true, submission 0 2 12), (false, .deliver (.taking 1))]

theorem unfinished_legal : ∀ x ∈ unfinished, x.2.Legal := by
  simp [unfinished, submission, Action.Legal, Event.Own, Env.taking]

theorem changeover_exact_unfinished :
    let reached := (aligned false).run unfinished
    let stopped := reached.stop (.taking 1) (.taking 1)
    reached.a.accepted = [[10, 10, 10]] ∧
      ∃ bsnt, (stopped.a.retrieveBsnt (.taking 1)).inds = [.bsnt bsnt] ∧
        reached.a.accepted ++ ((stopped.b.retrieve (.taking 1)
          bsnt).inds.filterMap Ind.retrieved).map (List.drop 3) =
            [[10, 10, 10], [11, 11, 11], [12, 12, 12]] := by
  obtain ⟨bsnt, told, left, _⟩ := changeover_exact (aligned_fresh false)
    unfinished_legal (.taking 1) (.taking 1) (.taking 1) (.taking 1)
    ⟨rfl, rfl⟩ ⟨rfl, rfl⟩ rfl rfl
    ⟨by decide +kernel, by decide +kernel⟩
    ⟨by decide +kernel, by decide +kernel⟩
  exact ⟨by decide +kernel, bsnt, told, left.trans (by decide +kernel)⟩

theorem changeover_shows_headers :
    let reached := (aligned false).run unfinished
    let stopped := reached.stop (.taking 1) (.taking 1)
    (aligned false).Fresh ∧ (∀ x ∈ unfinished, x.2.Legal) ∧
      reached.a.lscState = .inService ∧ reached.b.lscState = .inService ∧
      (stopped.a.retrieveBsnt (.taking 1)).inds = [.bsnt 0] ∧
      (stopped.b.retrieve (.taking 1) 0).inds.filterMap Ind.retrieved =
        [[255, 129, 3, 11, 11, 11], [0, 0, 0, 12, 12, 12]] ∧
      reached.a.accepted ++ (stopped.b.retrieve (.taking 1)
        0).inds.filterMap Ind.retrieved ≠ reached.b.submitted := by
  refine ⟨aligned_fresh false, unfinished_legal, ?_, ?_, ?_, ?_, ?_⟩
  all_goals decide +kernel

end Link

end Changeover

end OpenSS7.Mtp2
