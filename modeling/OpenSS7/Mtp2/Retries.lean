import OpenSS7.Mtp2.Changeover

/-!
Retrieval when buffers run short: a request that fails is repeated until it
succeeds.
-/

namespace OpenSS7.Mtp2

open Program SlidingWindow

section Memory

/-- How many of the next `n` allocations succeed before one fails. -/
def granted : List Bool → Nat → Nat
  | _, 0 => 0
  | memory, n + 1 =>
      if memory.headD true then granted memory.tail n + 1 else 0

theorem granted_le (memory : List Bool) (n : Nat) : granted memory n ≤ n := by
  induction n generalizing memory with
  | zero => exact Nat.le_refl 0
  | succ n ih =>
      unfold granted
      split
      · exact Nat.succ_le_succ (ih memory.tail)
      · exact Nat.zero_le _

theorem granted_eq_iff (memory : List Bool) (n : Nat) :
    granted memory n = n ↔ ∀ success ∈ memory.take n, success = true := by
  induction n generalizing memory with
  | zero => simp [granted]
  | succ n ih =>
      unfold granted
      cases memory with
      | nil =>
          have all := (ih []).mpr (by simp)
          simp [all]
      | cons success rest =>
          cases success with
          | false => simp
          | true =>
              simp only [List.headD_cons, if_true, List.tail_cons,
                Nat.add_right_cancel_iff, ih rest, List.take_succ_cons,
                List.mem_cons, forall_eq_or_imp, true_and]

end Memory

section Attempts

variable {s : Sl}

theorem ind_exec (i : Ind) (s : Sl) :
    (ind i).exec s = if s.env.indMem.headD true then
        (.ok (), { s with
          env := { s.env with indMem := s.env.indMem.tail }
          inds := s.inds ++ [i] })
      else (.error .ENOBUFS, { s with
        env := { s.env with indMem := s.env.indMem.tail } }) := by
  show ((if s.env.indMem.headD true then _ else _ : SlM Unit)).exec _ = _
  split <;> rfl

/-- The first `n` messages of `rtb` have been taken from it, and all but
those from `told` on indicated. -/
def Sl.taken (s : Sl) (n told : Nat) : Sl :=
  { s with
    env := { s.env with indMem := s.env.indMem.drop n }
    rtb := s.rtb.drop n
    Ct := s.Ct - n
    inds := s.inds ++ (s.rtb.take told).map Msu.indication }

theorem Sl.taken_zero (s : Sl) : s.taken 0 0 = s := by
  have count : s.Ct - (0 : Nat) = s.Ct := Int.sub_zero s.Ct
  unfold Sl.taken
  rw [List.take_zero, List.map_nil, List.append_nil, count]
  rfl

def Sl.tellNext (s : Sl) (m : Msu) (rest : List Msu) : Sl :=
  { s with
    env := { s.env with indMem := s.env.indMem.tail }
    rtb := rest
    Ct := s.Ct - 1
    inds := s.inds ++ [m.indication] }

theorem Sl.tellNext_taken {m : Msu} {rest : List Msu} (q : s.rtb = m :: rest)
    (n told : Nat) :
    (s.tellNext m rest).taken n told = s.taken (n + 1) (told + 1) := by
  have count : s.Ct - 1 - n = s.Ct - (n + 1 : Nat) := by omega
  unfold Sl.tellNext Sl.taken
  rw [q]
  simp only [List.drop_tail, List.drop_succ_cons, count, List.take_succ_cons,
    List.map_cons, List.append_assoc, List.singleton_append]

theorem slTxcRetrieve_exec (q : List Msu) (s : Sl) (held : s.rtb = q) :
    (slTxcRetrieve q.length).exec s =
      if granted s.env.indMem q.length = q.length then
        (.ok (), s.taken q.length q.length)
      else (.error .ENOBUFS, s.taken (granted s.env.indMem q.length + 1)
        (granted s.env.indMem q.length)) := by
  induction q generalizing s with
  | nil =>
      show (Except.ok (), s) = if granted s.env.indMem 0 = 0 then
        (Except.ok (), s.taken 0 0) else _
      rw [if_pos (show granted s.env.indMem 0 = 0 from rfl), s.taken_zero]
  | cons m rest ih =>
      have step : (slTxcRetrieve (m :: rest).length).exec s =
          (do
            modify fun s => { s with rtb := rest, Ct := s.Ct - 1 }
            ind m.indication
            slTxcRetrieve rest.length : SlM Unit).exec s := by
        rw [List.length_cons, slTxcRetrieve, exec_bind, exec_get]
        dsimp only
        rw [held]
        rfl
      rw [step, exec_bind]
      show ((ind m.indication >>= fun _ => slTxcRetrieve rest.length :
        SlM Unit)).exec { s with rtb := rest, Ct := s.Ct - 1 } = _
      rw [exec_bind, ind_exec]
      simp only [List.length_cons, granted]
      by_cases supplied : s.env.indMem.headD true = true
      · rw [if_pos supplied, if_pos supplied]
        have onward := ih (s.tellNext m rest) rfl
        rw [s.tellNext_taken held, s.tellNext_taken held] at onward
        simp only [Nat.add_right_cancel_iff]
        exact onward
      · rw [if_neg supplied, if_neg supplied, if_neg (Nat.succ_ne_zero _).symm]
        show (Except.error SlError.ENOBUFS, _) = (.error .ENOBUFS, s.taken 1 0)
        unfold Sl.taken
        rw [held]
        simp [List.drop_one]

/-- A window from which messages can be retrieved: `k` of the messages on
`rtb` have been acknowledged by `fsnc`. Every message has its header. -/
structure Retrievable (fsnc k : Nat) (s : Sl) : Prop where
  permits : s.lscState = .outOfService ∨ s.lscState = .processorOutage
  first : s.txFFsn ≤ s.snMask
  counted : s.Ct = s.rtb.length
  waiting : s.Cm = s.tb.length
  sized : ∀ m ∈ s.rtb ++ s.tb, 0 < m.size
  held : k ≤ s.rtb.length
  wide : k ≤ s.snMask
  target : (s.txFFsn + k) % (s.snMask + 1) = s.succ fsnc

def Sl.wanted (s : Sl) (k : Nat) : List Msu := s.rtb.drop k ++ s.tb

def Sl.gathered (s : Sl) (fsnc k : Nat) : Sl :=
  { s.free k with
    txCFsn := s.masked fsnc
    tb := []
    Cm := s.Cm - s.tb.length
    rtb := s.wanted k
    Ct := s.Ct - k + s.tb.length
    txFFsn := s.succ (s.masked fsnc)
    Z := s.succ (s.masked fsnc) }

def slRetrievalEnds : SlM Unit := do
  modify fun s => { s with rtbFull := false }
  ind .retrievalComplete
  modify fun s =>
    { s with Cm := 0, Ct := 0, txNFsn := s.txCFsn, txLFsn := s.txCFsn }

theorem retrieval_exec {fsnc k : Nat} (ready : Retrievable fsnc k s) :
    (slLscRetrievalRequestAndFsnc fsnc).exec s =
      (do
        slTxcRetrieve (s.wanted k).length
        slRetrievalEnds : SlM Unit).exec (s.gathered fsnc k) := by
  have freed : ({ s with txCFsn := s.masked fsnc } : Sl).freeRetrieved fsnc
      s.rtb.length = ({ s with txCFsn := s.masked fsnc } : Sl).free k :=
    Sl.freeRetrieved_eq ready.first ready.held ready.wide ready.held
      (fun m inside => ready.sized m (List.mem_append_left _ inside))
      ready.target
  have entered : (slLscRetrievalRequestAndFsnc fsnc).exec s =
      (slTxcRetrievalRequestAndFsnc fsnc).exec s := by
    rw [slLscRetrievalRequestAndFsnc, exec_bind, exec_get]
    dsimp only
    rcases ready.permits with state | state <;> rw [state]
  rw [entered]
  show ((do
    modify fun s => s.freeRetrieved fsnc s.rtb.length
    modify fun s =>
      { s with
        tb := []
        Cm := s.Cm - s.tb.length
        rtb := s.rtb ++ s.tb
        Ct := s.Ct + s.tb.length }
    modify fun s =>
      { s with txFFsn := s.succ s.txCFsn, Z := s.succ s.txCFsn }
    let s ← get
    slTxcRetrieve s.rtb.length
    slRetrievalEnds : SlM Unit)).exec { s with txCFsn := s.masked fsnc } = _
  rw [exec_bind]
  show ((do
    modify fun s =>
      { s with
        tb := []
        Cm := s.Cm - s.tb.length
        rtb := s.rtb ++ s.tb
        Ct := s.Ct + s.tb.length }
    modify fun s =>
      { s with txFFsn := s.succ s.txCFsn, Z := s.succ s.txCFsn }
    let s ← get
    slTxcRetrieve s.rtb.length
    slRetrievalEnds : SlM Unit)).exec
      (({ s with txCFsn := s.masked fsnc } : Sl).freeRetrieved fsnc
        s.rtb.length) = _
  rw [freed]
  rfl

theorem slRetrievalEnds_exec (s : Sl) :
    ∃ result t, slRetrievalEnds.exec s = (result, t) ∧
      t.inds.filterMap Ind.retrieved = s.inds.filterMap Ind.retrieved ∧
      t.lscState = s.lscState ∧ t.txFFsn = s.txFFsn ∧ t.snMask = s.snMask ∧
      t.rtb = s.rtb ∧ t.tb = s.tb ∧
      (result = .ok () → t.Ct = 0 ∧ t.Cm = 0) ∧
      (result ≠ .ok () → t.Ct = s.Ct ∧ t.Cm = s.Cm) := by
  have run : slRetrievalEnds.exec s = (do
      ind .retrievalComplete
      modify fun s =>
        { s with Cm := 0, Ct := 0, txNFsn := s.txCFsn, txLFsn := s.txCFsn } :
        SlM Unit).exec { s with rtbFull := false } := rfl
  rw [run, exec_bind, ind_exec]
  by_cases supplied : s.env.indMem.headD true = true
  · rw [if_pos supplied]
    refine ⟨.ok (), _, rfl, ?_, rfl, rfl, rfl, rfl, rfl, fun _ => ⟨rfl, rfl⟩,
      fun failed => absurd rfl failed⟩
    show (s.inds ++ [Ind.retrievalComplete]).filterMap Ind.retrieved = _
    rw [List.filterMap_append]
    exact List.append_nil _
  · rw [if_neg supplied]
    exact ⟨.error .ENOBUFS, _, rfl, rfl, rfl, rfl, rfl, rfl, rfl, nofun,
      fun _ => ⟨rfl, rfl⟩⟩

structure Attempted (fsnc : Nat) (q : List Msu) (granted : Nat)
    (result : Except SlError Unit) (s t : Sl) : Prop where
  told : t.inds.filterMap Ind.retrieved =
    s.inds.filterMap Ind.retrieved ++ (q.take granted).map Msu.octets
  left : t.wanted 0 = q.drop (granted + 1)
  failed : granted < q.length → result ≠ .ok ()
  done : result = .ok () → t.Ct = 0 ∧ t.Cm = 0
  again : result ≠ .ok () → Retrievable fsnc 0 t

theorem filterMap_indication (q : List Msu) :
    (q.map Msu.indication).filterMap Ind.retrieved = q.map Msu.octets := by
  rw [List.filterMap_map]
  show q.filterMap (some ∘ Msu.octets) = _
  rw [List.filterMap_eq_map]

theorem Retrievable.taken {fsnc k : Nat} (ready : Retrievable fsnc k s)
    {n told : Nat} (within : n ≤ (s.wanted k).length) :
    Retrievable fsnc 0 ((s.gathered fsnc k).taken n told) where
  permits := ready.permits
  first := Nat.le_of_lt_succ (Nat.mod_lt _ (Nat.succ_pos _))
  counted := by
    show s.Ct - k + s.tb.length - n = (((s.wanted k).drop n).length : Int)
    have counted := ready.counted
    have held := ready.held
    unfold Sl.wanted at within ⊢
    rw [List.length_append, List.length_drop] at within
    rw [List.length_drop, List.length_append, List.length_drop, counted]
    omega
  waiting := by
    show s.Cm - s.tb.length = 0
    rw [ready.waiting, Int.sub_self]
  sized := by
    intro m inside
    have inside : m ∈ (s.wanted k).drop n ++ [] := inside
    rw [List.append_nil] at inside
    have inside := List.mem_of_mem_drop inside
    refine ready.sized m ?_
    rcases List.mem_append.1 inside with kept | waiting
    · exact List.mem_append_left _ (List.mem_of_mem_drop kept)
    · exact List.mem_append_right _ waiting
  held := Nat.zero_le _
  wide := Nat.zero_le _
  target := by
    show (s.succ (s.masked fsnc) + 0) % (s.snMask + 1) = s.succ fsnc
    unfold Sl.succ Sl.masked
    rw [Nat.add_zero, Nat.mod_mod, Nat.mod_add_mod]

theorem gathered_told (fsnc k n : Nat) :
    ((s.gathered fsnc k).taken n told).inds.filterMap Ind.retrieved =
      s.inds.filterMap Ind.retrieved ++
        ((s.wanted k).take told).map Msu.octets := by
  show (s.inds ++ ((s.wanted k).take told).map Msu.indication).filterMap
    Ind.retrieved = _
  rw [List.filterMap_append, filterMap_indication]

theorem retrieval_attempted {fsnc k : Nat} (ready : Retrievable fsnc k s) :
    ∃ result t, (slLscRetrievalRequestAndFsnc fsnc).exec s = (result, t) ∧
      Attempted fsnc (s.wanted k) (granted s.env.indMem (s.wanted k).length)
        result s t := by
  rw [retrieval_exec ready, exec_bind]
  rw [slTxcRetrieve_exec (s.wanted k) (s.gathered fsnc k) rfl]
  have memory : (s.gathered fsnc k).env.indMem = s.env.indMem := rfl
  rw [memory]
  by_cases all : granted s.env.indMem (s.wanted k).length = (s.wanted k).length
  · rw [if_pos all]
    have ready' : Retrievable fsnc 0 ((s.gathered fsnc k).taken
        (s.wanted k).length (s.wanted k).length) := ready.taken (Nat.le_refl _)
    have empty : ((s.gathered fsnc k).taken (s.wanted k).length
        (s.wanted k).length).rtb = [] := List.drop_length
    obtain ⟨result, t, ran, inds, state, first, mask, rtb, tb, done, failed⟩ :=
      slRetrievalEnds_exec ((s.gathered fsnc k).taken (s.wanted k).length
        (s.wanted k).length)
    refine ⟨result, t, ran, ?_, ?_, ?_, done, fun unended => ?_⟩
    · rw [inds, gathered_told, all]
    · show t.rtb.drop 0 ++ t.tb = _
      rw [rtb, tb, empty, all, List.drop_eq_nil_of_le (Nat.le_succ _)]
      rfl
    · intro short
      omega
    · obtain ⟨Ct, Cm⟩ := failed unended
      exact
        { permits := by
            rw [state]
            exact ready'.permits
          first := by
            rw [first, mask]
            exact ready'.first
          counted := by
            rw [Ct, rtb]
            exact ready'.counted
          waiting := by
            rw [Cm, tb]
            exact ready'.waiting
          sized := by
            rw [rtb, tb]
            exact ready'.sized
          held := Nat.zero_le _
          wide := Nat.zero_le _
          target := by
            unfold Sl.succ
            rw [first, mask]
            exact ready'.target }
  · rw [if_neg all]
    have short := Nat.lt_of_le_of_ne (granted_le _ _) all
    refine ⟨_, _, rfl, gathered_told _ _ _, ?_, fun _ => nofun, nofun,
      fun _ => ready.taken short⟩
    show ((s.wanted k).drop _).drop 0 ++ [] = _
    rw [List.drop_zero, List.append_nil]

end Attempts

section Requests

variable {s t : Sl} {fsnc : Nat}

/-- A request is made until it succeeds, each time with the same number and in
its own surroundings; `told` are the messages indicated over all attempts. -/
inductive Retried (fsnc : Nat) :
    Sl → List Env → List (List UInt8) → Sl → Prop
  | done {s t : Sl} {env : Env}
      (ran : (slLscRetrievalRequestAndFsnc fsnc).exec (s.enter env) =
        (.ok (), t)) :
      Retried fsnc s [env] (t.inds.filterMap Ind.retrieved) t
  | again {s t u : Sl} {env : Env} {e : SlError} {envs : List Env}
      {told : List (List UInt8)}
      (ran : (slLscRetrievalRequestAndFsnc fsnc).exec (s.enter env) =
        (.error e, t)) (later : Retried fsnc t envs told u) :
      Retried fsnc s (env :: envs) (t.inds.filterMap Ind.retrieved ++ told) u

theorem Retrievable.enter {k : Nat} (ready : Retrievable fsnc k s) (env : Env) :
    Retrievable fsnc k (s.enter env) := { ready with }

theorem wanted_enter (s : Sl) (env : Env) (k : Nat) :
    (s.enter env).wanted k = s.wanted k := rfl

theorem indMem_enter (s : Sl) (env : Env) :
    (s.enter env).env.indMem = env.indMem := rfl

theorem Attempted.told_length {q : List Msu} {supply : Nat}
    {result : Except SlError Unit} {env : Env}
    (attempted : Attempted fsnc q supply result (s.enter env) t) :
    (t.inds.filterMap Ind.retrieved).length = min supply q.length := by
  rw [attempted.told]
  show ([] ++ (q.take supply).map Msu.octets).length = _
  rw [List.nil_append, List.length_map, List.length_take]

theorem retried_bound {envs : List Env} {told : List (List UInt8)}
    (retried : Retried fsnc s envs told t) :
    ∀ {k : Nat}, Retrievable fsnc k s →
      told.length ≤ (s.wanted k).length ∧ t.Ct = 0 ∧ t.Cm = 0 := by
  induction retried with
  | done ran =>
      intro k ready
      obtain ⟨result, t', ran', attempted⟩ := retrieval_attempted
        (ready.enter _)
      cases ran.symm.trans ran'
      refine ⟨?_, attempted.done rfl⟩
      rw [attempted.told_length]
      exact Nat.min_le_right _ _
  | again ran later ih =>
      intro k ready
      obtain ⟨result, t', ran', attempted⟩ := retrieval_attempted
        (ready.enter _)
      cases ran.symm.trans ran'
      obtain ⟨bound, counts⟩ := ih (attempted.again nofun)
      refine ⟨?_, counts⟩
      rw [attempted.left, List.length_drop, wanted_enter] at bound
      rw [List.length_append, attempted.told_length, wanted_enter]
      omega

theorem retried_told {env : Env} {envs : List Env}
    {told : List (List UInt8)} {k : Nat}
    (retried : Retried fsnc s (env :: envs) told t)
    (ready : Retrievable fsnc k s) :
    (granted env.indMem (s.wanted k).length = (s.wanted k).length →
      told = (s.wanted k).map Msu.octets) ∧
    (granted env.indMem (s.wanted k).length < (s.wanted k).length →
      told.length < (s.wanted k).length) := by
  obtain ⟨result, t', ran', attempted⟩ := retrieval_attempted (ready.enter env)
  rw [wanted_enter] at attempted
  cases retried with
  | done ran =>
      cases ran.symm.trans ran'
      constructor
      · intro all
        rw [attempted.told, indMem_enter,
          all, List.take_length]
        rfl
      · intro short
        exact absurd rfl (attempted.failed short)
  | again ran later =>
      cases ran.symm.trans ran'
      obtain ⟨bound, -⟩ := retried_bound later (attempted.again nofun)
      rw [attempted.left, List.length_drop,
        indMem_enter] at bound
      constructor
      · intro all
        rw [all] at bound
        have none : _ = [] := List.eq_nil_of_length_eq_zero
          (Nat.le_zero.mp (Nat.le_trans bound (by omega)))
        rw [none, List.append_nil, attempted.told,
          indMem_enter, all,
          List.take_length]
        rfl
      · intro short
        rw [List.length_append, attempted.told_length,
          indMem_enter]
        omega

/-- How many messages of `rtb` the number acknowledges. -/
def Sl.place (s : Sl) (fsnc : Nat) : Nat :=
  ahead (s.snMask + 1) s.txFFsn (fsnc + 1)

/-- A window in a state that permits retrieval: the messages on `rtb` are
those numbered from `txFFsn` on, each with its header. -/
structure Windowed (s : Sl) : Prop where
  permits : s.lscState = .outOfService ∨ s.lscState = .processorOutage
  first : s.txFFsn ≤ s.snMask
  last : s.succ s.txLFsn = (s.txFFsn + s.rtb.length) % (s.snMask + 1)
  counted : s.Ct = s.rtb.length
  waiting : s.Cm = s.tb.length
  sized : ∀ m ∈ s.rtb ++ s.tb, 0 < m.size

theorem Windowed.retrievable (window : Windowed s)
    (within : s.place fsnc ≤ s.rtb.length) :
    Retrievable fsnc (s.place fsnc) s :=
  { window with
    held := within
    wide := Nat.le_of_lt_succ (ahead_lt (Nat.succ_pos _))
    target := add_ahead (Nat.succ_pos _) }

/-- Over all attempts the messages after `fsnc` are indicated in order and once
each, with the counts at zero, just where the first attempt finds a buffer for
every message. -/
theorem retrieval_survives_iff (window : Windowed s)
    (within : s.place fsnc ≤ s.rtb.length)
    {env : Env} {envs : List Env} {told : List (List UInt8)}
    (retried : Retried fsnc s (env :: envs) told t) :
    (told = (s.rtb.drop (s.place fsnc) ++ s.tb).map Msu.octets ∧
        t.Ct = 0 ∧ t.Cm = 0) ↔
      ∀ success ∈ env.indMem.take
          (s.rtb.drop (s.place fsnc) ++ s.tb).length, success = true := by
  have ready := window.retrievable within
  obtain ⟨all, short⟩ := retried_told retried ready
  rw [← granted_eq_iff]
  constructor
  · rintro ⟨exact, -⟩
    apply Nat.le_antisymm (granted_le _ _)
    apply Nat.le_of_not_lt
    intro less
    have fewer := short less
    rw [exact, List.length_map] at fewer
    exact Nat.lt_irrefl _ fewer
  · intro supplied
    exact ⟨all supplied, (retried_bound retried ready).2⟩

def outstanding : Sl :=
  { Sl.allocated ⟨SS7_PVAR_ITUT_93, false, false, false⟩ slDefault
      (.taking 0) with
    lscState := .outOfService
    snMask := 127
    txFFsn := 5
    txLFsn := 6
    rtb := [⟨0, [0, 0, 0], [10], 0, 5⟩, ⟨1, [0, 0, 0], [11], 1, 6⟩]
    tb := [⟨2, [0, 0, 0], [12], 2, 0⟩]
    Ct := 2
    Cm := 1 }

theorem outstanding_windowed : Windowed outstanding where
  permits := .inl rfl
  first := by decide
  last := rfl
  counted := rfl
  waiting := rfl
  sized := by decide

def granting (memory : List Bool) : Env :=
  { Env.taking 0 with indMem := memory }

theorem Retried.succeeded {env : Env}
    (ran : ((slLscRetrievalRequestAndFsnc fsnc).exec (s.enter env)).1 =
      .ok ()) :
    Retried fsnc s [env] ((s.retrieve env fsnc).inds.filterMap Ind.retrieved)
      (s.retrieve env fsnc) :=
  .done (Prod.ext ran rfl)

theorem Retried.failed {env : Env} {e : SlError} {envs : List Env}
    {told : List (List UInt8)}
    (ran : ((slLscRetrievalRequestAndFsnc fsnc).exec (s.enter env)).1 =
      .error e) (later : Retried fsnc (s.retrieve env fsnc) envs told t) :
    Retried fsnc s (env :: envs)
      ((s.retrieve env fsnc).inds.filterMap Ind.retrieved ++ told) t :=
  .again (Prod.ext ran rfl) later

theorem retrieval_survives_completion :
    ∃ told t, Retried 5 outstanding
        [granting [true, true, false], granting []] told t ∧
      told = [[0, 0, 0, 11], [0, 0, 0, 12]] := by
  have retried := Retried.failed
    (show ((slLscRetrievalRequestAndFsnc 5).exec
      (outstanding.enter (granting [true, true, false]))).1 =
        .error .ENOBUFS from rfl)
    (Retried.succeeded (show ((slLscRetrievalRequestAndFsnc 5).exec
      ((outstanding.retrieve (granting [true, true, false]) 5).enter
        (granting []))).1 = .ok () from rfl))
  exact ⟨_, _, retried, ((retrieval_survives_iff outstanding_windowed
    (by decide) retried).mpr (by decide)).1⟩

theorem retrieval_loses_message :
    ∃ told t, Retried 5 outstanding [granting [false], granting []] told t ∧
      told = [[0, 0, 0, 12]] ∧
      told ≠ (outstanding.rtb.drop (outstanding.place 5) ++
        outstanding.tb).map Msu.octets := by
  refine ⟨_, _, .failed (show ((slLscRetrievalRequestAndFsnc 5).exec
      (outstanding.enter (granting [false]))).1 = .error .ENOBUFS from rfl)
    (.succeeded (show ((slLscRetrievalRequestAndFsnc 5).exec
      ((outstanding.retrieve (granting [false]) 5).enter
        (granting []))).1 = .ok () from rfl)), ?_, ?_⟩
  · decide +kernel
  · decide +kernel

end Requests

end OpenSS7.Mtp2
