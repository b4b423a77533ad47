import OpenSS7.Mtp3.Hierarchy
import OpenSS7.Mtp3.RoundTrip

/-!
What becomes of a message that a signalling link receives: `sl_recv_msg` and
`mtp_xfer_route`, and when the message is disposed of just once.
-/

namespace OpenSS7.Mtp3

section Routing

/-- What routing reads besides the entities. The type of a route set is
`RT_TYPE_CLUSTER` or else `RT_TYPE_MEMBER`, `routeMask` and `linkMask` are
`rl.sls_mask` and `lk.sls_mask` of a combined link set, and the statuses of a
link are read as unsigned numbers. -/
structure Routing where
  protocol : Protocol
  routeSets : Nat → List Nat
  cluster : Nat → Bool
  dest : Nat → Nat
  pc : Nat → Nat
  clusterMask : Nat
  ni : Nat → Nat
  routeMask : Nat → Nat
  linkMask : Nat → Nat
  congStatus : Nat → Nat
  discStatus : Nat → Nat

/-- What `mtp_proc_msg` and `mtp_send_tfc` return, and what `canputnext`
says. -/
structure Outcomes where
  proc : Int
  tfc : Int
  canput : Bool

inductive Fate where
  | freed
  | link (sl : Nat)
  | rerouting (cr : Nat)
  | changeover (cb : Nat)
deriving DecidableEq

structure Done where
  code : Int
  fates : List Fate
  octets : Octets
  moved : Nat
  net : Net

def EBUSY : Int := 16

/-- The loop of `sls_index` over the bits of the mask. -/
def slsCollect (sls mask : Nat) : List Nat → Nat → Nat
  | [], _ => 0
  | ibit :: rest, obit =>
      if mask.testBit ibit then
        (if sls.testBit ibit then 2 ^ obit else 0) +
          slsCollect sls mask rest (obit + 1)
      else slsCollect sls mask rest obit

def slsIndex (sls mask bits : Nat) : Nat :=
  slsCollect sls mask (List.range 8) 0 % 2 ^ bits

def rotateSls (sls : Nat) : Nat :=
  sls &&& 0xe0 ||| (sls &&& 0x1f) >>> 1 |||
    (if sls &&& 0x01 ≠ 0 then 0x10 else 0x00)

/-- `case SS7_PVAR_ANSI: case SS7_PVAR_JTTC: case SS7_PVAR_CHIN:` of a switch
over the whole of `pvar`. -/
def Protocol.rotates (p : Protocol) : Bool :=
  p.variant.wide && p.year = .y88

variable (r : Routing) (o : Outcomes) (n : Net)

def Routing.routeSet (loc dpc : Nat) : Option Nat :=
  ((r.routeSets loc).find? fun rs => !r.cluster rs && r.dest rs = dpc) <|>
    (r.routeSets loc).find? fun rs =>
      r.cluster rs && r.dest rs = dpc &&& r.clusterMask

inductive Hop where
  | missing
  | buffer (fate : Fate)
  | link (rl sl : Nat)
deriving DecidableEq

def Routing.hop (rs sls : Nat) : Hop :=
  match (n.rs rs).curr with
  | none => .missing
  | some rl =>
      let ls := (n.rl rl).ls
      match n.routing.smap rl
          (slsIndex sls (r.routeMask ls) (n.ls ls).rls.slsBits) with
      | .null => .missing
      | .buffer cr => .buffer (.rerouting cr)
      | .direct rt =>
          match n.linking.smap (n.rt rt).lk
              (slsIndex sls (r.linkMask ls) (n.ls ls).lks.slsBits) with
          | .null => .missing
          | .buffer cb => .buffer (.changeover cb)
          | .direct sl => .link rl sl

def Routing.level (m : MtpMsg) : Nat :=
  if r.protocol.mplev = true then m.mp else 0

def Routing.controls (sl : Nat) (m : MtpMsg) : Bool :=
  r.level m < r.congStatus sl && r.level m ≠ 3

/-- `freemsg(mp); return (0);` -/
def discarded (octets : Octets) (m : MtpMsg) : Done :=
  ⟨0, [.freed], octets, m.moved, n⟩

/-- The part of `mtp_xfer_route` for the link that was selected. -/
def xferLink (rl sl : Nat) (octets : Octets) (m : MtpMsg) : Done :=
  if r.controls sl m = true ∧ o.tfc ≠ 0 then ⟨o.tfc, [], octets, m.moved, n⟩
  else if r.level m < r.discStatus sl then discarded n octets m
  else if o.canput = false then ⟨-EBUSY, [], octets, m.moved, n⟩
  else if 1 < (n.rl rl).rts.list.length ∧ r.protocol.rotates = true then
    ⟨0, [.link sl], octets.set 7 (rotateSls m.sls).toUInt8, m.moved, n⟩
  else ⟨0, [.link sl], octets, m.moved, n⟩

/-- The part of `mtp_xfer_route` after the state of the route set is tested. -/
def xferOnward (rs : Nat) (octets : Octets) (m : MtpMsg) : Done :=
  match r.hop n rs m.sls with
  | .missing => discarded n octets m
  | .buffer fate => ⟨0, [fate], octets, m.moved, n⟩
  | .link rl sl => xferLink r o n rl sl octets m

def Net.respond (rs lk : Nat) : Net :=
  if (n.rs rs).rrs = [] then n
  else n.withRs rs fun s =>
    { s with
      rrs := s.rrs.erase lk
      flags := { s.flags with tfrPending := false }
      t18a := s.t18a || s.flags.tfrPending }

def mtpXferRoute (lk : Nat) (octets : Octets) (m : MtpMsg) : Done :=
  if .restart ≤ (n.sp (n.lk lk).loc).state then discarded n octets m
  else
    match r.routeSet (n.lk lk).loc m.dpc with
    | none => discarded n octets m
    | some rs =>
        match (n.rs rs).state with
        | .restricted => xferOnward r o (n.respond rs lk) rs octets m
        | .congested | .danger | .allowed => xferOnward r o n rs octets m
        | .restart => discarded n octets m
        | .prohibited | .blocked | .inhibited | .inactive =>
            ⟨0, [], octets, m.moved,
              n.withRs rs fun s => { s with t8 := true }⟩

/-- `mtp_lookup_rt_local` for `RT_TYPE_MEMBER` -/
def Routing.localRoute (lk opc : Nat) : Bool :=
  (n.lk lk).rts.list.any fun rt =>
    let rs := (n.rl (n.rt rt).rl).rs
    r.dest rs = opc && !r.cluster rs

def Routing.passes (lk : Nat) (m : MtpMsg) : Bool :=
  r.ni lk = m.ni &&
    (m.opc = r.dest (n.lk lk).adj ||
      ((n.rs (n.lk lk).adj).flags.xferFunc && r.localRoute n lk m.opc))

def slRecvMsg (sl : Nat) (mp : Block) : Done :=
  match mtpDecMsg r.protocol mp with
  | none => discarded n mp.octets .zero
  | some m =>
      let lk := (n.sl sl).lk
      if r.passes n lk m = false then discarded n mp.octets m
      else if r.pc (n.lk lk).loc = m.dpc then
        if o.proc < 0 then ⟨o.proc, [], mp.octets, m.moved, n⟩
        else discarded n mp.octets m
      else if (n.sp (n.lk lk).loc).flags.xferFunc = true then
        let done := mtpXferRoute r o n lk mp.octets m
        if done.code < 0 then done
        else { done with code := 0, fates := done.fates ++ [.freed] }
      else discarded n mp.octets m

end Routing

section Disposing

variable (r : Routing) (o : Outcomes) (n : Net)

def Done.Disposed (done : Done) (mp : Block) : Prop :=
  if done.code < 0 then
    done.fates = [] ∧ done.octets = mp.octets ∧ done.moved = 0
  else done.fates.length = 1

def Routing.Refuses (sl : Nat) (m : MtpMsg) : Prop :=
  if r.controls sl m = true ∧ o.tfc ≠ 0 then 0 < o.tfc ∨ m.moved = 0
  else r.discStatus sl ≤ r.level m ∧ o.canput = false ∧ m.moved = 0

/-- The message is neither freed nor handed on by `mtp_xfer_route`: the route
set is inaccessible, or the link does not take the message. -/
def Routing.Keeps (lk : Nat) (m : MtpMsg) : Prop :=
  (n.sp (n.lk lk).loc).state < .restart ∧
    ∃ rs, r.routeSet (n.lk lk).loc m.dpc = some rs ∧
      (.restart < (n.rs rs).state ∨
        (n.rs rs).state < .restart ∧
          ∃ rl sl, r.hop n rs m.sls = .link rl sl ∧ r.Refuses o sl m)

/-- The messages of which `sl_recv_msg` disposes just once. -/
def Routing.Fits (sl : Nat) (mp : Block) : Prop :=
  ∀ m, mtpDecMsg r.protocol mp = some m →
    r.passes n (n.sl sl).lk m = true →
    if r.pc (n.lk (n.sl sl).lk).loc = m.dpc then 0 ≤ o.proc ∨ m.moved = 0
    else (n.sp (n.lk (n.sl sl).lk).loc).flags.xferFunc = true →
      r.Keeps o n (n.sl sl).lk m

variable {r o n}

/-- The caller of `mtp_xfer_route` may free the message, or keep it if the value
is negative. -/
def Done.Returned (done : Done) (octets : Octets) : Prop :=
  if done.code < 0 then
    done.fates = [] ∧ done.octets = octets ∧ done.moved = 0
  else done.fates = []

theorem discarded_not_returned (octets : Octets) (m : MtpMsg) :
    ¬ (discarded n octets m).Returned octets := by
  intro returned
  cases returned

theorem xferLink_returned (rl sl : Nat) (octets : Octets) (m : MtpMsg) :
    (xferLink r o n rl sl octets m).Returned octets ↔ r.Refuses o sl m := by
  unfold xferLink Routing.Refuses
  by_cases controlled : r.controls sl m = true ∧ o.tfc ≠ 0
  · rw [if_pos controlled, if_pos controlled]
    unfold Done.Returned
    by_cases negative : o.tfc < 0
    · simp [negative, Int.not_lt.mpr (Int.le_of_lt negative)]
    · have positive : 0 < o.tfc :=
        lt_of_le_of_ne (Int.not_lt.mp negative) (Ne.symm controlled.2)
      simp [negative, positive]
  · rw [if_neg controlled, if_neg controlled]
    by_cases discards : r.level m < r.discStatus sl
    · rw [if_pos discards]
      exact iff_of_false (discarded_not_returned octets m)
        fun refuses => Nat.not_lt.mpr refuses.1 discards
    · rw [if_neg discards]
      have disc := Nat.not_lt.mp discards
      by_cases full : o.canput = false
      · rw [if_pos full]
        simp [Done.Returned, EBUSY, disc, full]
      · rw [if_neg full]
        refine iff_of_false ?_ fun refuses => full refuses.2.1
        split
        all_goals
          intro returned
          cases returned

theorem xferOnward_returned (rs : Nat) (octets : Octets) (m : MtpMsg) :
    (xferOnward r o n rs octets m).Returned octets ↔
      ∃ rl sl, r.hop n rs m.sls = .link rl sl ∧ r.Refuses o sl m := by
  unfold xferOnward
  cases way : r.hop n rs m.sls with
  | missing =>
      refine iff_of_false (discarded_not_returned octets m) ?_
      rintro ⟨_, _, same, _⟩
      cases same
  | buffer fate =>
      refine iff_of_false (fun returned => by cases returned) ?_
      rintro ⟨_, _, same, _⟩
      cases same
  | link rl sl =>
      refine (xferLink_returned rl sl octets m).trans ?_
      constructor
      · intro refuses
        exact ⟨rl, sl, rfl, refuses⟩
      · rintro ⟨_, _, same, refuses⟩
        cases same
        exact refuses

theorem hop_respond (rs lk sls : Nat) :
    r.hop (n.respond rs lk) rs sls = r.hop n rs sls := by
  unfold Net.respond
  split
  · rfl
  · unfold Routing.hop
    rw [show ((n.withRs rs _).rs rs).curr = (n.rs rs).curr by
      simp [Net.withRs]]
    rfl

theorem mtpXferRoute_returned (lk : Nat) (octets : Octets) (m : MtpMsg) :
    (mtpXferRoute r o n lk octets m).Returned octets ↔ r.Keeps o n lk m := by
  unfold mtpXferRoute Routing.Keeps
  by_cases restarting : .restart ≤ (n.sp (n.lk lk).loc).state
  · rw [if_pos restarting]
    exact iff_of_false (discarded_not_returned octets m)
      fun keeps => Nat.not_lt.mpr restarting keeps.1
  · rw [if_neg restarting]
    refine Iff.trans ?_ (and_iff_right (Nat.lt_of_not_le restarting)).symm
    cases found : r.routeSet (n.lk lk).loc m.dpc with
    | none =>
        refine iff_of_false (discarded_not_returned octets m) ?_
        rintro ⟨_, same, _⟩
        cases same
    | some rs =>
        simp only [Option.some.injEq, exists_eq_left']
        have onward {way : Prop} {state : State} (low : state < .restart) :
            way ↔ .restart < state ∨ state < .restart ∧ way :=
          ⟨fun way => .inr ⟨low, way⟩, fun either =>
            either.elim (fun high => absurd low (Nat.lt_asymm high)) And.right⟩
        cases state : (n.rs rs).state
        case restricted =>
            refine (xferOnward_returned rs octets m).trans ?_
            rw [hop_respond]
            exact onward (by decide)
        case allowed | danger | congested =>
            exact (xferOnward_returned rs octets m).trans (onward (by decide))
        case restart =>
            refine iff_of_false (discarded_not_returned octets m) ?_
            rintro (high | ⟨low, _⟩)
            · exact absurd high (by decide)
            · exact absurd low (by decide)
        all_goals exact iff_of_true rfl (.inl (by decide))

theorem disposed_freed (done : Done) (mp : Block) :
    (if done.code < 0 then done
      else { done with
        code := 0, fates := done.fates ++ [.freed] }).Disposed mp ↔
      done.Returned mp.octets := by
  unfold Done.Disposed Done.Returned
  by_cases negative : done.code < 0
  · simp [negative]
  · simp [negative]

/-- A received message is disposed of just once if and only if it is not
transferred, or the router leaves it with its caller; and what is not freed
then was decoded without a change. -/
theorem disposed_iff (r : Routing) (o : Outcomes) (n : Net) (sl : Nat)
    (mp : Block) :
    (slRecvMsg r o n sl mp).Disposed mp ↔ r.Fits o n sl mp := by
  have discards (m : MtpMsg) : (discarded n mp.octets m).Disposed mp := rfl
  unfold slRecvMsg Routing.Fits
  cases decoded : mtpDecMsg r.protocol mp with
  | none =>
      exact iff_of_true (discards _) fun _ same => nomatch same
  | some m =>
      simp only [Option.some.injEq, forall_eq']
      cases passes : r.passes n (n.sl sl).lk m with
      | false =>
          exact iff_of_true (discards m) fun screened => nomatch screened
      | true =>
          simp only [forall_const, Bool.true_eq_false, if_false]
          by_cases here : r.pc (n.lk (n.sl sl).lk).loc = m.dpc
          · rw [if_pos here, if_pos here]
            by_cases negative : o.proc < 0
            · rw [if_pos negative]
              simp [Done.Disposed, negative, Int.not_le.mpr negative]
            · rw [if_neg negative]
              exact iff_of_true (discards m) (.inl (Int.not_lt.mp negative))
          · rw [if_neg here, if_neg here]
            by_cases transfers :
                (n.sp (n.lk (n.sl sl).lk).loc).flags.xferFunc = true
            · rw [if_pos transfers]
              refine (disposed_freed _ mp).trans ?_
              refine (mtpXferRoute_returned _ mp.octets m).trans ?_
              exact ⟨fun keeps _ => keeps, fun keeps => keeps transfers⟩
            · rw [if_neg transfers]
              exact iff_of_true (discards m)
                fun transfers' => absurd transfers' transfers

def Net.transit : Net :=
  { Net.chain with
    sp := fun p =>
      { Net.chain.sp p with flags := { Flags.none with xferFunc := true } }
    rs := fun p => { Net.chain.rs p with curr := some 0 }
    routing := { Net.chain.routing with smap := fun _ _ => .direct 0 }
    linking := { Net.chain.linking with smap := fun _ _ => .direct 0 } }

def Routing.transit (variant : Variant) : Routing where
  protocol := ⟨variant, .y92, false⟩
  routeSets := fun _ => [0, 1]
  cluster := fun _ => false
  dest := fun rs => rs + 1
  pc := fun _ => 5
  clusterMask := 0
  ni := fun _ => 2
  routeMask := fun _ => 0
  linkMask := fun _ => 0
  congStatus := fun _ => 0
  discStatus := fun _ => 0

theorem disposed_fails :
    let r := Routing.transit .itut
    let mp := r.protocol.encode ⟨2, 2, 1, 0⟩ (mtpSendUser 0 3 [7])
    let done := slRecvMsg r ⟨0, 0, true⟩ Net.transit 0 mp
    let ansi := Routing.transit .ansi
    let tfc := ansi.protocol.encode ⟨2, 2, 1, 0⟩ (mtpSendTfc 9 1)
    let busy := slRecvMsg ansi ⟨0, 0, false⟩ Net.transit 0 tfc
    done.fates = [.link 0, .freed] ∧ ¬ done.Disposed mp ∧
      busy.code = -EBUSY ∧ busy.moved = 4 ∧ ¬ busy.Disposed tfc := by
  refine ⟨rfl, fun once => ?_, rfl, rfl, fun unmodified => ?_⟩
  · exact absurd (show 2 = 1 from once) (by decide)
  · exact absurd (show 4 = 0 from unmodified.2.2) (by decide)

end Disposing

end OpenSS7.Mtp3
