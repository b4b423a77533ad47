import Mathlib.Data.List.Nodup
import OpenSS7.Mtp3.Messages
import OpenSS7.Mtp3.SendRoute

/-!
What an adjacent signalling point is told when it becomes accessible by an
alternate route: `mtp_tfp_adjacent` and `mtp_tfr_adjacent`, which
`rs_set_state` calls while the route set still has its old state.
-/

namespace OpenSS7.Mtp3

open Program

section Telling

/-- What telling a neighbour reads besides routing: `RSF_CLUSTER` of a route
set, `sp->ni` and `sp->rs.sls_bits` of a signalling point, and what the sending
of a message meets with. -/
structure Neighbours where
  routing : Routing
  clusterRoute : Nat → Bool
  ni : Nat → Nat
  slsBits : Nat → Nat
  ready : Signal → Ready

structure Handed where
  signal : Signal
  label : Label
  posted : Posted

def Handed.Sent (h : Handed) : Prop := ∃ fate ∈ h.posted.fates, fate ≠ .freed

variable (g : Neighbours) (n : Net)

/-- `adj->rl.curr->rt.curr` -/
def Net.currentRoute (adj : Nat) : Option Nat :=
  (n.rs adj).curr.bind fun rl => (n.rl rl).curr

/-- The functions `mtp_send_tfp` to `mtp_send_tcr`, called for a neighbour. -/
def sendSignal (adj : Nat) (signal : Signal) (sls : Nat)
    (congestion : Nat → Congestion) : Handed :=
  let sp := (n.rs adj).sp
  let label := ⟨g.ni sp, g.routing.dest adj, g.routing.pc sp, sls⟩
  ⟨signal, label, mtpSendRoute g.routing n (g.ready signal) sp 3
    (g.routing.dest adj) sls (g.routing.protocol.encode label signal).octets
    congestion⟩

/-- The loops over `sp->rs.list`; `skips` are the states of the route sets that
are passed over. -/
def sendAdjacent (skips : State → Bool) (signal : Nat → Signal) (adj : Nat) :
    List Nat → Nat → (Nat → Congestion) → List Handed × (Nat → Congestion)
  | [], _, congestion => ([], congestion)
  | rs :: rest, sls, congestion =>
      if rs = adj ∨ skips (n.rs rs).state = true then
        sendAdjacent skips signal adj rest sls congestion
      else
        let handed := sendSignal g n adj (signal rs) sls congestion
        let others := sendAdjacent skips signal adj rest
          (sls + 1 &&& (1 <<< g.slsBits (n.rs adj).sp - 1))
          handed.posted.congestion
        (handed :: others.1, others.2)

/-- What both functions do; there is no result where a pointer is `NULL`. -/
def tellAdjacent (skips : State → Bool) (signal : Nat → Signal) (adj : Nat)
    (congestion : Nat → Congestion) :
    Option (List Handed × (Nat → Congestion)) :=
  let flags := (n.sp (n.rs adj).sp).flags
  if flags.xferFunc = false ∨ flags.restartPhase1 = true then
    some ([], congestion)
  else
    match n.currentRoute adj with
    | none => none
    | some rt =>
        if (n.lk (n.rt rt).lk).adj = adj then some ([], congestion)
        else
          some (sendAdjacent g n skips signal adj
            (g.routing.routeSets (n.rs adj).sp) 0 congestion)

def Neighbours.prohibiting (rs : Nat) : Signal :=
  if g.clusterRoute rs = false then mtpSendTfp (g.routing.dest rs)
  else mtpSendTcp (g.routing.dest rs)

def Neighbours.restricting (rs : Nat) : Signal :=
  if g.clusterRoute rs = false then mtpSendTfr (g.routing.dest rs)
  else mtpSendTcr (g.routing.dest rs)

def mtpTfpAdjacent :=
  tellAdjacent g n (fun state => .restart ≤ state) g.prohibiting

def mtpTfrAdjacent :=
  tellAdjacent g n (fun state => .restricted < state || state < .danger)
    g.restricting

def restartAdjacent (adj : Nat) (congestion : Nat → Congestion) :
    Option (List Handed × (Nat → Congestion)) := do
  let tfps ← mtpTfpAdjacent g n adj congestion
  let tfrs ← mtpTfrAdjacent g n adj tfps.2
  pure (tfps.1 ++ tfrs.1, tfrs.2)

/-- The test of `rs_set_state` before these calls. -/
def Net.Restarts (adj : Nat) (state : Change) : Prop :=
  let oldflags := (n.rs adj).flags
  let newflags := mtpStaFlags state oldflags
  newflags ≠ oldflags ∧ mtpFlgState newflags ≠ (n.rs adj).state ∧
    (.restart < (n.rs adj).state ∧ mtpFlgState newflags ≤ .restart) ∧
    oldflags.adjacent = true

instance (adj : Nat) (state : Change) : Decidable (n.Restarts adj state) :=
  inferInstanceAs (Decidable (_ ∧ _ ∧ _ ∧ _))

/-- What `rs_set_state` has sent to an adjacent point. -/
def rsSetStateTells (adj : Nat) (state : Change)
    (congestion : Nat → Congestion) :
    Option (List Handed × (Nat → Congestion)) :=
  if n.Restarts adj state then restartAdjacent g n adj congestion
  else some ([], congestion)

end Telling

section Faulting

variable {g : Neighbours} {n : Net} {adj : Nat}

theorem mtpAdjacent_exec :
    (mtpAdjacent adj).exec n =
      if (n.sp (n.rs adj).sp).flags.xferFunc = true ∧
          (n.sp (n.rs adj).sp).flags.restartPhase1 = false ∧
          n.currentRoute adj = none then (.error .null, n)
      else (.ok (), n) := by
  unfold mtpAdjacent Net.currentRoute when
  simp only [exec_bind, exec_get]
  by_cases serves : (n.sp (n.rs adj).sp).flags.xferFunc = true ∧
      (n.sp (n.rs adj).sp).flags.restartPhase1 = false
  · rw [if_pos serves]
    cases (n.rs adj).curr with
    | none =>
        rw [if_pos ⟨serves.1, serves.2, rfl⟩]
        rfl
    | some rl =>
        rw [Option.bind_some]
        cases current : (n.rl rl).curr with
        | none =>
            rw [if_pos ⟨serves.1, serves.2, rfl⟩]
            simp only [current]
            rfl
        | some rt =>
            rw [if_neg fun null => nomatch null.2.2]
            simp only [current]
            rfl
  · rw [if_neg serves, if_neg fun null => serves ⟨null.1, null.2.1⟩]
    rfl

theorem tellAdjacent_none_iff (skips : State → Bool) (signal : Nat → Signal)
    (congestion : Nat → Congestion) :
    tellAdjacent g n skips signal adj congestion = none ↔
      (mtpAdjacent adj).exec n = (.error .null, n) := by
  rw [mtpAdjacent_exec]
  unfold tellAdjacent
  grind

theorem rsSetState_null (state : Change) (congestion : Nat → Congestion)
    (null : rsSetStateTells g n adj state congestion = none) :
    (rsSetState adj state).exec n = (.error .null, n) := by
  unfold rsSetStateTells at null
  split at null
  · next restarts =>
      have head : (mtpAdjacent adj).exec n = (.error .null, n) := by
        unfold restartAdjacent at null
        cases first : mtpTfpAdjacent g n adj congestion with
        | none => exact (tellAdjacent_none_iff _ _ _).mp first
        | some tfps =>
            rw [first] at null
            cases second : mtpTfrAdjacent g n adj tfps.2 with
            | none => exact (tellAdjacent_none_iff _ _ _).mp second
            | some tfrs =>
                rw [Option.bind_eq_bind, Option.bind_some, second] at null
                exact nomatch null
      obtain ⟨flags, moved, across, adjacent⟩ := restarts
      unfold rsSetState when
      simp only [exec_bind, exec_get, if_pos flags, if_pos moved, if_pos across,
        if_pos adjacent, head]
  · exact nomatch null

end Faulting

theorem State.not_le_iff (s s' : State) : ¬ s ≤ s' ↔ s' < s :=
  not_le (a := s.number)

section Handing

variable {g : Neighbours} {n : Net} {adj : Nat} {skips : State → Bool}
  {signal : Nat → Signal}

theorem sendAdjacent_signals (list : List Nat) (sls : Nat)
    (congestion : Nat → Congestion) :
    (sendAdjacent g n skips signal adj list sls congestion).1.map
        Handed.signal =
      (list.filter fun rs => rs ≠ adj && !skips (n.rs rs).state).map
        signal := by
  induction list generalizing sls congestion with
  | nil => rfl
  | cons rs rest ih =>
      rw [sendAdjacent]
      split
      · next skipped =>
          rw [ih, List.filter_cons_of_neg]
          obtain same | skipped := skipped
          · simp [same]
          · simp [skipped]
      · next kept =>
          rw [not_or, Bool.not_eq_true] at kept
          rw [List.map_cons, ih, List.filter_cons_of_pos]
          · rfl
          · simp [kept]

theorem restartAdjacent_signals (congestion : Nat → Congestion) {rt : Nat}
    (serves : (n.sp (n.rs adj).sp).flags.xferFunc = true)
    (phase : (n.sp (n.rs adj).sp).flags.restartPhase1 = false)
    (current : n.currentRoute adj = some rt)
    (alternate : (n.lk (n.rt rt).lk).adj ≠ adj) :
    let others := (g.routing.routeSets (n.rs adj).sp).filter (· ≠ adj)
    (restartAdjacent g n adj congestion).map
        (fun told => told.1.map Handed.signal) =
      some ((others.filter fun rs => (n.rs rs).state < .restart).map
          g.prohibiting ++
        (others.filter fun rs => .danger ≤ (n.rs rs).state ∧
          (n.rs rs).state ≤ .restricted).map g.restricting) := by
  have tells : ∀ (skips : State → Bool) (signal : Nat → Signal) congestion,
      tellAdjacent g n skips signal adj congestion =
        some (sendAdjacent g n skips signal adj
          (g.routing.routeSets (n.rs adj).sp) 0 congestion) := by
    intro skips signal congestion
    simp [tellAdjacent, serves, phase, current, alternate]
  simp only [restartAdjacent, mtpTfpAdjacent, mtpTfrAdjacent, tells,
    Option.bind_eq_bind, Option.bind_some, Option.pure_def, Option.map_some,
    List.map_append, sendAdjacent_signals, List.filter_filter]
  congr 3
  · refine List.filter_congr fun rs _ => ?_
    have := State.not_le_iff .restart (n.rs rs).state
    grind
  · refine List.filter_congr fun rs _ => ?_
    have := State.not_le_iff .danger (n.rs rs).state
    have := State.not_le_iff (n.rs rs).state .restricted
    grind

end Handing

section Discarding

variable {g : Neighbours} {n : Net} {adj : Nat}

/-- A signalling point has a route set for each of its destinations once:
`mtp_add_rs` refuses a destination that has one. The type of a route set stays
`RT_TYPE_MEMBER`. -/
structure Neighbours.Configured (g : Neighbours) (n : Net) (adj : Nat) :
    Prop where
  listed : adj ∈ g.routing.routeSets (n.rs adj).sp
  distinct : ((g.routing.routeSets (n.rs adj).sp).map g.routing.dest).Nodup
  member : g.routing.cluster adj = false

theorem Neighbours.Configured.found (configured : g.Configured n adj) :
    g.routing.routeSet (n.rs adj).sp (g.routing.dest adj) = some adj := by
  have first : (g.routing.routeSets (n.rs adj).sp).find? (fun rs =>
      !g.routing.cluster rs &&
        decide (g.routing.dest rs = g.routing.dest adj)) = some adj := by
    cases search : (g.routing.routeSets (n.rs adj).sp).find? fun rs =>
        !g.routing.cluster rs &&
          decide (g.routing.dest rs = g.routing.dest adj) with
    | none =>
        have absent := List.find?_eq_none.mp search adj configured.listed
        simp [configured.member] at absent
    | some rs =>
        have matches' := List.find?_some search
        simp only [Bool.and_eq_true, decide_eq_true_eq] at matches'
        rw [List.inj_on_of_nodup_map configured.distinct
          (List.mem_of_find?_eq_some search) configured.listed matches'.2]
  rw [Routing.routeSet, first]
  rfl

theorem mtpSendRoute_inaccessible {r : Routing} {sp dpc rs : Nat}
    (found : r.routeSet sp dpc = some rs)
    (inaccessible : .restricted < (n.rs rs).state) (a : Ready)
    (priority sls : Nat) (octets : Octets) (congestion : Nat → Congestion) :
    (mtpSendRoute r n a sp priority dpc sls octets congestion).fates =
      [.freed] := by
  simp [mtpSendRoute, found, inaccessible]

theorem sendAdjacent_unsent (configured : g.Configured n adj)
    (inaccessible : .restricted < (n.rs adj).state) {skips : State → Bool}
    {signal : Nat → Signal} (list : List Nat) (sls : Nat)
    (congestion : Nat → Congestion) {h : Handed}
    (handed : h ∈ (sendAdjacent g n skips signal adj list sls congestion).1) :
    ¬ h.Sent := by
  induction list generalizing sls congestion with
  | nil => exact nomatch handed
  | cons rs rest ih =>
      rw [sendAdjacent] at handed
      split at handed
      · exact ih _ _ handed
      · obtain rfl | handed := List.mem_cons.mp handed
        · rintro ⟨fate, listed, kept⟩
          rw [sendSignal, mtpSendRoute_inaccessible configured.found
            inaccessible] at listed
          exact kept (List.mem_singleton.mp listed)
        · exact ih _ _ handed

theorem tellAdjacent_unsent (configured : g.Configured n adj)
    (inaccessible : .restricted < (n.rs adj).state) {skips : State → Bool}
    {signal : Nat → Signal} {congestion : Nat → Congestion}
    {told : List Handed × (Nat → Congestion)}
    (tells : tellAdjacent g n skips signal adj congestion = some told)
    {h : Handed} (handed : h ∈ told.1) : ¬ h.Sent := by
  unfold tellAdjacent at tells
  dsimp only at tells
  split at tells
  · cases tells
    exact nomatch handed
  · split at tells
    · exact nomatch tells
    · split at tells
      · cases tells
        exact nomatch handed
      · cases tells
        exact sendAdjacent_unsent configured inaccessible _ _ _ handed

theorem restartAdjacent_unsent (configured : g.Configured n adj)
    (inaccessible : .restricted < (n.rs adj).state)
    {congestion : Nat → Congestion} {told : List Handed × (Nat → Congestion)}
    (tells : restartAdjacent g n adj congestion = some told) {h : Handed}
    (handed : h ∈ told.1) : ¬ h.Sent := by
  rw [restartAdjacent, Option.bind_eq_bind, Option.bind_eq_some_iff] at tells
  obtain ⟨tfps, first, tells⟩ := tells
  rw [Option.bind_eq_some_iff] at tells
  obtain ⟨tfrs, second, tells⟩ := tells
  cases tells
  obtain handed | handed := List.mem_append.mp handed
  · exact tellAdjacent_unsent configured inaccessible first handed
  · exact tellAdjacent_unsent configured inaccessible second handed

theorem rsSetStateTells_unsent (configured : g.Configured n adj)
    {state : Change} {congestion : Nat → Congestion}
    {told : List Handed × (Nat → Congestion)}
    (tells : rsSetStateTells g n adj state congestion = some told)
    {h : Handed} (handed : h ∈ told.1) : ¬ h.Sent := by
  unfold rsSetStateTells at tells
  split at tells
  · next restarts =>
      have inaccessible : .restricted < (n.rs adj).state := by
        have above := restarts.2.2.1.1
        revert above
        cases (n.rs adj).state <;> decide
      exact restartAdjacent_unsent configured inaccessible tells handed
  · cases tells
    exact nomatch handed

end Discarding

section Truth

variable (g : Neighbours) (n : Net) (adj : Nat)

def Neighbours.Due (signal : Signal) : Prop :=
  ∃ rs ∈ g.routing.routeSets (n.rs adj).sp, rs ≠ adj ∧
    (.restart < (n.rs rs).state ∧ signal = g.prohibiting rs ∨
      (n.rs rs).state = .restricted ∧ signal = g.restricting rs)

def Neighbours.Truthful
    (result : Option (List Handed × (Nat → Congestion))) : Prop :=
  ∃ told, result = some told ∧ ∀ signal,
    (∃ h ∈ told.1, h.signal = signal ∧
      h.label.dpc = g.routing.dest adj ∧ h.Sent) ↔ g.Due n adj signal

end Truth

/-- A neighbour that becomes accessible by an alternate route is told the truth
exactly when the current route is known and there is nothing to tell. -/
theorem restart_truthful_iff (g : Neighbours) (n : Net) (adj : Nat)
    (state : Change) (congestion : Nat → Congestion)
    (configured : g.Configured n adj)
    (serves : (n.sp (n.rs adj).sp).flags.xferFunc = true)
    (phase : (n.sp (n.rs adj).sp).flags.restartPhase1 = false)
    (restarts : n.Restarts adj state)
    (alternate : ∀ rt ∈ n.currentRoute adj, (n.lk (n.rt rt).lk).adj ≠ adj) :
    g.Truthful n adj (rsSetStateTells g n adj state congestion) ↔
      (n.currentRoute adj).isSome ∧
        ∀ rs ∈ g.routing.routeSets (n.rs adj).sp, rs ≠ adj →
          (n.rs rs).state ≠ .restricted ∧ (n.rs rs).state ≤ .restart := by
  have tells_eq : rsSetStateTells g n adj state congestion =
      restartAdjacent g n adj congestion := if_pos restarts
  constructor
  · rintro ⟨told, tells, truth⟩
    have untold : ∀ signal, ¬ g.Due n adj signal := by
      intro signal due
      obtain ⟨h, handed, -, -, sent⟩ := (truth signal).mpr due
      exact rsSetStateTells_unsent configured tells handed sent
    constructor
    · rw [Option.isSome_iff_ne_none]
      intro null
      rw [tells_eq] at tells
      simp [restartAdjacent, mtpTfpAdjacent, tellAdjacent, serves, phase, null]
        at tells
    · intro rs listed other
      constructor
      · intro restricted
        exact untold _ ⟨rs, listed, other, .inr ⟨restricted, rfl⟩⟩
      · by_contra prohibited
        have above := (State.not_le_iff _ _).mp prohibited
        exact untold _ ⟨rs, listed, other, .inl ⟨above, rfl⟩⟩
  · rintro ⟨known, quiet⟩
    obtain ⟨rt, current⟩ := Option.isSome_iff_exists.mp known
    have signals := restartAdjacent_signals (g := g) congestion serves phase
      current (alternate rt current)
    cases tells : rsSetStateTells g n adj state congestion with
    | none =>
        rw [← tells_eq, tells] at signals
        exact nomatch signals
    | some told =>
        refine ⟨told, rfl, fun signal => iff_of_false ?_ ?_⟩
        · rintro ⟨h, handed, -, -, sent⟩
          exact rsSetStateTells_unsent configured tells handed sent
        · rintro ⟨rs, listed, other, ⟨above, -⟩ | ⟨restricted, -⟩⟩
          · exact (State.not_le_iff _ _).mpr above (quiet rs listed other).2
          · exact (quiet rs listed other).1 restricted

def Net.detour (route : Option Nat) (other : State) : Net :=
  { Net.transit with
    rs := fun p =>
      { Net.transit.rs p with
        state := if p = 0 then .prohibited else other
        flags := if p = 0 then
            { Flags.none with prohibited := true, adjacent := true }
          else .none }
    rl := fun p => { Net.transit.rl p with curr := route }
    lk := fun p => { Net.transit.lk p with adj := 1 } }

def Neighbours.detour : Neighbours where
  routing := Routing.transit .itut
  clusterRoute := fun _ => false
  ni := fun _ => 2
  slsBits := fun _ => 0
  ready := fun _ => ⟨0, true⟩

theorem detour_configured (route : Option Nat) (other : State) :
    Neighbours.detour.Configured (Net.detour route other) 0 where
  listed := List.mem_cons_self
  distinct := show [1, 2].Nodup by decide
  member := rfl

theorem detour_quiet :
    Neighbours.detour.Truthful (Net.detour (some 0) .allowed) 0
      (rsSetStateTells Neighbours.detour (Net.detour (some 0) .allowed) 0
        (.enter .allowed) fun _ => ⟨0, .stopped, .stopped⟩) :=
  (restart_truthful_iff Neighbours.detour (Net.detour (some 0) .allowed) 0
    (.enter .allowed) _ (detour_configured _ _) rfl rfl (by decide)
    (by rintro _ ⟨⟩; decide)).mpr
      ⟨rfl, fun rs _ other => by
        rw [show ((Net.detour (some 0) .allowed).rs rs).state = .allowed from
          if_neg other]
        decide⟩

theorem detour_untold :
    let due := mtpSendTfp 2
    (∀ route, Neighbours.detour.Due (Net.detour route .prohibited) 0 due) ∧
      rsSetStateTells Neighbours.detour (Net.detour none .prohibited) 0
        (.enter .allowed) (fun _ => ⟨0, .stopped, .stopped⟩) = none ∧
      (rsSetState 0 (.enter .allowed)).exec (Net.detour none .prohibited) =
        (.error .null, Net.detour none .prohibited) ∧
      ∀ route, ¬ Neighbours.detour.Truthful (Net.detour route .prohibited) 0
        (rsSetStateTells Neighbours.detour (Net.detour route .prohibited) 0
          (.enter .allowed) fun _ => ⟨0, .stopped, .stopped⟩) := by
  have due : ∀ route, Neighbours.detour.Due (Net.detour route .prohibited) 0
      (mtpSendTfp 2) :=
    fun _ => ⟨1, List.mem_cons_of_mem _ List.mem_cons_self, by decide,
      .inl ⟨show State.restart < .prohibited by decide, rfl⟩⟩
  refine ⟨due, rfl, rsSetState_null (g := Neighbours.detour) _
    (fun _ => ⟨0, .stopped, .stopped⟩) rfl, ?_⟩
  rintro route ⟨told, tells, truth⟩
  obtain ⟨h, handed, -, -, sent⟩ := (truth _).mpr (due route)
  exact rsSetStateTells_unsent (detour_configured _ _) tells handed sent

end OpenSS7.Mtp3
