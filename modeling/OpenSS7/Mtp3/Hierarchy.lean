import OpenSS7.Mtp3.Traffic

/-!
The entities of a network appearance and the functions that change their
states: a change of a link goes up to its link set, from there to the routes
over it and to the combined link set, and so to route lists, route sets and
signalling points.
-/

namespace OpenSS7.Mtp3

open Program

section Entities

structure Rt where
  rl : Nat
  lk : Nat
  slot : Nat
  state : State
  flags : Flags
  t10 : Bool

/-- `struct rl`; `curr` is the current route, `rts` counts the routes. -/
structure Rl where
  rs : Nat
  ls : Nat
  cost : Nat
  state : State
  flags : Flags
  rts : Counters
  curr : Option Nat

/-- `struct rs`; `curr` is the current route list, `rrs` are the route
restrictions. -/
structure Rs where
  sp : Nat
  state : State
  flags : Flags
  rls : Counters
  curr : Option Nat
  rrs : List Nat
  t8 : Bool
  t11 : Bool
  t18a : Bool

structure Sl where
  lk : Nat
  slot : Nat
  state : State
  flags : Flags

/-- `struct lk`; `loc` and `adj` are the signalling points at its ends. -/
structure Lk where
  ls : Nat
  loc : Nat
  adj : Nat
  load : Nat
  state : State
  flags : Flags
  rts : Counters
  sls : Counters
  t28a : Bool

structure Ls where
  sp : Nat
  state : State
  flags : Flags
  rls : Counters
  lks : Counters

structure Sp where
  na : Nat
  state : State
  flags : Flags
  lss : Counters
  t1r : Bool
  t18 : Bool
  t22a : Bool
  t26a : Bool

/-- `struct na`; `ansi` tells that the protocol variant is ANSI and `tfr` is
`SS7_POPT_TFR`. -/
structure Na where
  sps : Counters
  ansi : Bool
  tfr : Bool

inductive Notice where
  | resume (rs : Nat)
  | pause (rs : Nat)
  | restricted (rs : Nat)
  | rst (rt : Nat)
  | rsr (rt : Nat)
deriving DecidableEq

structure Net where
  na : Nat → Na
  sp : Nat → Sp
  rs : Nat → Rs
  rl : Nat → Rl
  rt : Nat → Rt
  ls : Nat → Ls
  lk : Nat → Lk
  sl : Nat → Sl
  routing : Traffic
  linking : Traffic
  room : List Bool
  sent : List Notice

end Entities

abbrev NetM := Program Net Err

section Updates

variable (i : Nat)

def Net.withNa (f : Na → Na) (n : Net) : Net :=
  { n with na := Function.update n.na i (f (n.na i)) }

def Net.withSp (f : Sp → Sp) (n : Net) : Net :=
  { n with sp := Function.update n.sp i (f (n.sp i)) }

def Net.withRs (f : Rs → Rs) (n : Net) : Net :=
  { n with rs := Function.update n.rs i (f (n.rs i)) }

def Net.withRl (f : Rl → Rl) (n : Net) : Net :=
  { n with rl := Function.update n.rl i (f (n.rl i)) }

def Net.withRt (f : Rt → Rt) (n : Net) : Net :=
  { n with rt := Function.update n.rt i (f (n.rt i)) }

def Net.withLs (f : Ls → Ls) (n : Net) : Net :=
  { n with ls := Function.update n.ls i (f (n.ls i)) }

def Net.withLk (f : Lk → Lk) (n : Net) : Net :=
  { n with lk := Function.update n.lk i (f (n.lk i)) }

def Net.withSl (f : Sl → Sl) (n : Net) : Net :=
  { n with sl := Function.update n.sl i (f (n.sl i)) }

end Updates

def onRoutes (m : TrafficM Unit) : NetM Unit :=
  focus Net.routing (fun t n => { n with routing := t }) m

def onLinks (m : TrafficM Unit) : NetM Unit :=
  focus Net.linking (fun t n => { n with linking := t }) m

def send (notice : Notice) : NetM Unit := do
  let n ← get
  if n.room.headD true then
    set { n with room := n.room.tail, sent := n.sent ++ [notice] }
  else
    set { n with room := n.room.tail }
    throw .failed

section Routes

/-- The head of `mtp_tfp_adjacent` and of `mtp_tfr_adjacent`; messages whose
failure is ignored are left out. -/
def mtpAdjacent (adj : Nat) : NetM Unit := do
  let n ← get
  let sp := n.sp (n.rs adj).sp
  when (sp.flags.xferFunc = true ∧ sp.flags.restartPhase1 = false) do
    match (n.rs adj).curr with
    | none => throw .null
    | some rl =>
        match (n.rl rl).curr with
        | none => throw .null
        | some _ => pure ()

/-- `mtp_tfa_broadcast`, `mtp_tfr_broadcast` and `mtp_tfp_broadcast`. -/
def mtpTfaBroadcast (rs : Nat) : NetM Unit := send (.resume rs)
def mtpTfrBroadcast (rs : Nat) : NetM Unit := send (.restricted rs)
def mtpTfpBroadcast (rs : Nat) : NetM Unit := send (.pause rs)

def rsSetState (rs : Nat) (state : Change) : NetM Unit := do
  let n ← get
  let oldstate := (n.rs rs).state
  let oldflags := (n.rs rs).flags
  let newflags := mtpStaFlags state oldflags
  let newstate := mtpFlgState newflags
  when (newflags ≠ oldflags) do
    when (newstate ≠ oldstate) do
      when (.restart < oldstate ∧ newstate ≤ .restart) do
        when (oldflags.adjacent = true) do
          mtpAdjacent rs
          mtpAdjacent rs
      when (oldstate = .restricted)
        (modify (Net.withRs rs fun r =>
          { r with
            t11 := false
            t18a := false
            flags := { r.flags with tfrPending := false }
            rrs := [] }))
      when (newstate < .restricted ∧ .restricted ≤ oldstate) do
        modify (Net.withRs rs fun r => { r with t8 := false })
        mtpTfaBroadcast rs
      when (newstate = .restricted ∧ (n.na (n.sp (n.rs rs).sp).na).tfr = true) do
        when (oldstate < .restricted)
          (modify (Net.withRs rs fun r => { r with t11 := true }))
        when (.restricted < oldstate) (mtpTfrBroadcast rs)
      when (.restart < newstate ∧ oldstate ≤ .restart) do
        modify (Net.withRs rs fun r => { r with t8 := true })
        mtpTfpBroadcast rs
      modify (Net.withRs rs fun r => { r with state := newstate })
    modify (Net.withRs rs fun r => { r with flags := newflags })

/-- `rl_reroute`: the procedures for transfer points at its end are called only
where there is no transfer function, and do nothing there. -/
def rlReroute (rs : Nat) (rlOnto : Option Nat) (force : Bool) : NetM Unit := do
  let n ← get
  onRoutes (rlRerouteMaps (n.rs rs).curr rlOnto (2 ^ (n.rs rs).rls.slsBits)
    force)
  modify (Net.withRs rs fun r => { r with curr := rlOnto })

def pushing (m undo : NetM Unit) : NetM Unit :=
  tryCatch m fun e => do
    undo
    throw e

def moveRls (rs : Nat) (oldstate newstate : State) : NetM Unit :=
  modify (Net.withRs rs fun r => { r with rls := r.rls.move oldstate newstate })

/-- The first accessible route list of the set besides `rl`. -/
def Net.otherList (n : Net) (rs rl : Nat) : Option Nat :=
  (n.rs rs).rls.list.find? fun ra =>
    ra ≠ rl ∧ (n.rl ra).state ≤ .restricted

/-- The part of `rl_set_state` that chooses the current route list and tells the
route set. -/
def rlSelect (n : Net) (rl : Nat) (state : Change) (newstate : State) :
    NetM Unit :=
  let rs := (n.rl rl).rs
  let oldstate := (n.rl rl).state
  let tell : NetM Unit := do
    moveRls rs oldstate newstate
    pushing (rsSetState rs state) (moveRls rs newstate oldstate)
  if .restricted < newstate ∧ oldstate < .restart ∧
      (n.rs rs).curr = some rl then do
    rlReroute rs (n.otherList rs rl) true
    tell
  else if .restricted < oldstate ∧ newstate < .restart ∧
      (∀ ra ∈ (n.rs rs).curr, (n.rl rl).cost < (n.rl ra).cost) then do
    rlReroute rs (some rl) false
    tell
  else if (n.rs rs).curr = some rl then tell
  else moveRls rs oldstate newstate

def rlSetState (rl : Nat) (state : Change) : NetM Unit := do
  let n ← get
  let oldstate := (n.rl rl).state
  let newflags := mtpStaFlags state (n.rl rl).flags
  let newstate := mtpFlgState newflags
  when (newflags ≠ (n.rl rl).flags) do
    when (newstate ≠ oldstate) do
      rlSelect n rl state newstate
      modify (Net.withLs (n.rl rl).ls fun ls =>
        { ls with rls := ls.rls.move oldstate newstate })
      modify (Net.withRl rl fun r => { r with state := newstate })
    modify (Net.withRl rl fun r => { r with flags := newflags })

/-- A counter that is read into an `int`. -/
def asInt (count : BitVec 64) : Int := (count.setWidth 32).toInt

def Net.routesOf (n : Net) (rl : Nat) : Sharing where
  parent := rl
  list := (n.rl rl).rts.list
  slsBits := (n.rl rl).rts.slsBits
  slot := fun rt => (n.rt rt).slot
  state := fun rt => (n.rt rt).state

def offload (current : Bool) (rl : Sharing) (rt : Nat) (c : Counters)
    (newstate : State) : TrafficM Unit :=
  let accessible := asInt (c.allowed + c.danger + c.congested)
  let restricted := asInt c.restricted
  if newstate ≠ .restricted then
    if 1 < accessible then rtRerouteSub current rl rt (accessible - 1)
    else if restricted ≠ 0 then rtRerouteRes current rl rt restricted
    else rtRerouteAll current rl none true
  else
    if accessible = 0 ∧ 1 < restricted then
      rtRerouteSub current rl rt (restricted - 1)
    else if accessible = 0 then rtRerouteAll current rl none true
    else pure ()

def onload (current : Bool) (rl : Sharing) (rt : Nat) (c : Counters)
    (oldstate : State) : TrafficM Unit :=
  let accessible := asInt (c.allowed + c.danger + c.congested)
  let restricted := asInt c.restricted
  if oldstate ≠ .restricted then
    if accessible = 0 then rtRerouteAll current rl (some rt) false
    else rtRerouteAdd current rl rt (accessible + 1)
  else
    if accessible + restricted = 0 then
      rtRerouteAll current rl (some rt) false
    else if accessible = 0 then rtRerouteAdd current rl rt (restricted + 1)
    else pure ()

def moveRts (rl : Nat) (oldstate newstate : State) : NetM Unit :=
  modify (Net.withRl rl fun r => { r with rts := r.rts.move oldstate newstate })

def rtSetState (rt : Nat) (state : Change) : NetM Unit := do
  let n ← get
  let rl := (n.rt rt).rl
  let oldstate := (n.rt rt).state
  let newflags := mtpStaFlags state (n.rt rt).flags
  let newstate := mtpFlgState newflags
  let current : Bool := (n.rs (n.rl rl).rs).curr = some rl
  when (newflags ≠ (n.rt rt).flags) do
    when (newstate ≠ oldstate) do
      modify (Net.withRt rt fun r =>
        { r with t10 := newflags.prohibited || newflags.restricted })
      when (oldstate < .restart ∧ .restricted < newstate)
        (onRoutes (offload current (n.routesOf rl) rt (n.rl rl).rts newstate))
      when (newstate < .restart ∧ .restricted < oldstate)
        (onRoutes (onload current (n.routesOf rl) rt (n.rl rl).rts oldstate))
      moveRts rl oldstate newstate
      let rlNewstate :=
        mtpCntState ((n.rl rl).rts.move oldstate newstate) (n.rl rl).state
      when (rlNewstate ≠ (n.rl rl).state)
        (pushing (rlSetState rl rlNewstate) (moveRts rl newstate oldstate))
      modify (Net.withLk (n.rt rt).lk fun lk =>
        { lk with rts := lk.rts.move oldstate newstate })
      modify (Net.withRt rt fun r => { r with state := newstate })
    modify (Net.withRt rt fun r => { r with flags := newflags })

end Routes

section Links

/-- `sp_set_state`: the restart phase that it marks is overwritten by the flag
word that it stores in the end. -/
def spSetState (sp : Nat) (state : Change) : NetM Unit := do
  let n ← get
  let oldstate := (n.sp sp).state
  let newflags := mtpStaFlags state (n.sp sp).flags
  let newstate := mtpFlgState newflags
  when (newflags ≠ (n.sp sp).flags) do
    when (newstate ≠ oldstate) do
      when (.restart < oldstate ∧ newstate = .restart) do
        modify (Net.withSp sp fun s =>
          { s with
            flags := { s.flags with
              restartPhase1 := true, restartPhase2 := false } })
        if (n.na (n.sp sp).na).ansi then
          modify (Net.withSp sp fun s => { s with t22a := true, t26a := true })
        else
          modify (Net.withSp sp fun s => { s with t18 := true })
      when (oldstate < .restart ∧ .restart < newstate)
        (modify (Net.withSp sp fun s => { s with t1r := true }))
      modify (Net.withNa (n.sp sp).na fun a =>
        { a with sps := a.sps.move oldstate newstate })
      modify (Net.withSp sp fun s => { s with state := newstate })
    modify (Net.withSp sp fun s => { s with flags := newflags })

def blocking (newstate : State) : Change :=
  if newstate = .inactive then .enter .blocked else .unblocked

def forNet (body : Nat → NetM Unit) : List Nat → NetM Unit
  | [] => pure ()
  | i :: rest => do
      body i
      forNet body rest

def moveLss (sp : Nat) (oldstate newstate : State) : NetM Unit :=
  modify (Net.withSp sp fun s => { s with lss := s.lss.move oldstate newstate })

def lsSetState (ls : Nat) (state : Change) : NetM Unit := do
  let n ← get
  let oldstate := (n.ls ls).state
  let newflags := mtpStaFlags state (n.ls ls).flags
  let newstate := mtpFlgState newflags
  when (newflags ≠ (n.ls ls).flags) do
    when (newstate ≠ oldstate) do
      forNet (fun rl => do
        let n ← get
        when (blocking newstate ≠ .enter (n.rl rl).state)
          (rlSetState rl (blocking newstate))) (n.ls ls).rls.list
      moveLss (n.ls ls).sp oldstate newstate
      let n ← get
      let sp := n.sp (n.ls ls).sp
      let spNewstate := mtpCntState sp.lss sp.state
      when (spNewstate ≠ sp.state)
        (pushing (spSetState (n.ls ls).sp spNewstate)
          (moveLss (n.ls ls).sp newstate oldstate))
      modify (Net.withLs ls fun l => { l with state := newstate })
    modify (Net.withLs ls fun l => { l with flags := newflags })

def moveLks (ls : Nat) (oldstate newstate : State) : NetM Unit :=
  modify (Net.withLs ls fun l => { l with lks := l.lks.move oldstate newstate })

def lkSetState (lk : Nat) (state : Change) : NetM Unit := do
  let n ← get
  let oldstate := (n.lk lk).state
  let newflags := mtpStaFlags state (n.lk lk).flags
  let newstate := mtpFlgState newflags
  when (newflags ≠ (n.lk lk).flags) do
    when (newstate ≠ oldstate) do
      when (.restart < oldstate ∧ newstate ≤ .restart ∧
          .restart < (n.rs (n.lk lk).adj).state)
        (modify (Net.withLk lk fun l => { l with t28a := true }))
      forNet (fun rt => do
        let n ← get
        when (blocking newstate ≠ .enter (n.rt rt).state)
          (rtSetState rt (blocking newstate))) (n.lk lk).rts.list
      moveLks (n.lk lk).ls oldstate newstate
      let n ← get
      let ls := n.ls (n.lk lk).ls
      let lsNewstate := mtpCntState ls.lks ls.state
      when (lsNewstate ≠ ls.state)
        (pushing (lsSetState (n.lk lk).ls lsNewstate)
          (moveLks (n.lk lk).ls newstate oldstate))
      modify (Net.withLk lk fun l => { l with state := newstate })
    modify (Net.withLk lk fun l => { l with flags := newflags })

def Net.linksOf (n : Net) (lk : Nat) : Sharing where
  parent := lk
  list := (n.lk lk).sls.list
  slsBits := (n.lk lk).sls.slsBits
  slot := fun sl => (n.sl sl).slot
  state := fun sl => (n.sl sl).state

def Net.adjacentOf (n : Net) (lk : Nat) : Adjacent where
  load := (n.lk lk).load
  route := do
    let rl ← (n.rs (n.lk lk).adj).rls.list.getLast?
    let rt ← (n.rl rl).rts.list.find? fun rt => (n.rt rt).lk = lk
    pure (n.rt rt).state
  reached := (n.rs (n.lk lk).adj).state < .restart

def changeback (adj : Adjacent) (lk : Sharing) (sl : Nat) (c : Counters) :
    TrafficM Unit :=
  slChangebackAdd adj lk sl
    (asInt (c.allowed + c.danger + c.congested + c.restricted + 1))

def changeover (adj : Adjacent) (lk : Sharing) (sl : Nat) (c : Counters)
    (oldstate : State) : TrafficM Unit :=
  if oldstate ≠ .inhibited then
    let active := asInt (c.allowed + c.danger + c.congested - 1)
    let inhibited := asInt c.restricted
    if 0 < active then slChangeoverSub adj lk sl active
    else if inhibited ≠ 0 then slChangeoverRes adj lk sl inhibited
    else pure ()
  else pure ()

def moveSls (lk : Nat) (oldstate newstate : State) : NetM Unit :=
  modify (Net.withLk lk fun l => { l with sls := l.sls.move oldstate newstate })

def slSetState (sl : Nat) (state : Change) : NetM Unit := do
  let n ← get
  let lk := (n.sl sl).lk
  let oldstate := (n.sl sl).state
  let newflags := mtpStaFlags state (n.sl sl).flags
  let newstate := mtpFlgState newflags
  when (newflags ≠ (n.sl sl).flags) do
    when (newstate ≠ oldstate) do
      when (newstate < .restricted ∧ .congested < oldstate)
        (onLinks (changeback (n.adjacentOf lk) (n.linksOf lk) sl (n.lk lk).sls))
      when (oldstate < .restricted ∧ .congested < newstate)
        (onLinks (changeover (n.adjacentOf lk) (n.linksOf lk) sl (n.lk lk).sls
          oldstate))
      moveSls lk oldstate newstate
      let lkNewstate :=
        mtpCntState ((n.lk lk).sls.move oldstate newstate) (n.lk lk).state
      when (lkNewstate ≠ (n.lk lk).state)
        (pushing (lkSetState lk lkNewstate) (moveSls lk newstate oldstate))
      modify (Net.withSl sl fun s => { s with state := newstate })
    modify (Net.withSl sl fun s => { s with flags := newflags })

end Links

def Net.chain : Net where
  na := fun p => ⟨.zero (only p) 0, false, true⟩
  sp := fun p => ⟨0, .allowed, .none, .zero (only p) 0, false, false, false,
    false⟩
  rs := fun p => ⟨0, .allowed, .none, .zero (only p) 0, none, [], false, false,
    false⟩
  rl := fun p => ⟨0, 0, 0, .allowed, .none, .zero (only p) 0, none⟩
  rt := fun _ => ⟨0, 0, 0, .allowed, .none, false⟩
  ls := fun p => ⟨0, .allowed, .none, .zero (only p) 0, .zero (only p) 0⟩
  lk := fun p => ⟨0, 0, 0, 0, .allowed, .none, .zero (only p) 0,
    .zero (only p) 0, false⟩
  sl := fun _ => ⟨0, 0, .allowed, .none⟩
  routing := .empty RT_SMAP_SIZE []
  linking := .empty SL_SMAP_SIZE []
  room := []
  sent := []
where
  only (p : Nat) : List Nat := if p = 0 then [0] else []

end OpenSS7.Mtp3
