import OpenSS7.Mtp3.State

/-!
The sharing of traffic over the routes of a route list and over the links of a
link set: the SLS maps, the loads, the buffers of controlled rerouting and of
changeover and changeback, and the procedures that move traffic.
-/

namespace OpenSS7.Mtp3

open Program

inductive Err where
  | failed
  | null
  | freed
  | mistyped
  | outside
  | divide
deriving DecidableEq

inductive Slot where
  | null
  | direct (member : Nat)
  | buffer (id : Nat)
deriving DecidableEq

def Slot.ofMember : Option Nat → Slot
  | none => null
  | some member => direct member

inductive Timer where
  | t1
  | t2
  | t3
  | t4
  | t5
  | t6
deriving DecidableEq

/-- `struct cr` and `struct cb`: `rl.rl` or `lk.lk`, `index`, the members `from`
and `onto`, and the timer that runs. -/
structure Buffer where
  parent : Nat
  index : Nat
  source : Option Nat
  onto : Option Nat
  timer : Option Timer
deriving DecidableEq

/-- The loads of the routes (links), the SLS maps of the route lists (link
sets) and their buffers. A freed buffer is `none`; `room` holds the outcomes of
allocations, and `logged` tells that one of the messages was logged that say
that traffic could not be placed. -/
structure Traffic where
  load : Nat → BitVec 32
  smap : Nat → Nat → Slot
  mapSize : Nat
  buffer : Nat → Option Buffer
  buffers : Nat → List Nat
  fresh : Nat
  room : List Bool
  logged : Bool

def RT_SMAP_SIZE : Nat := 32
def SL_SMAP_SIZE : Nat := 256

def Traffic.empty (mapSize : Nat) (room : List Bool) : Traffic where
  load := fun _ => 0
  smap := fun _ _ => .null
  mapSize := mapSize
  buffer := fun _ => none
  buffers := fun _ => []
  fresh := 0
  room := room
  logged := false

structure Sharing where
  parent : Nat
  list : List Nat
  slsBits : Nat
  slot : Nat → Nat
  state : Nat → State

/-- `1 << sls_bits` -/
def Sharing.total (g : Sharing) : Nat := 2 ^ g.slsBits

abbrev TrafficM := Program Traffic Err

section Access

def slotAt (parent index : Nat) : TrafficM Slot := do
  let t ← get
  if index < t.mapSize then pure (t.smap parent index) else throw .outside

def setSlot (parent index : Nat) (slot : Slot) : TrafficM Unit := do
  let t ← get
  if index < t.mapSize then
    set { t with
      smap := Function.update t.smap parent
        (Function.update (t.smap parent) index slot) }
  else throw .outside

/-- `load++` -/
def raise (member : Nat) : TrafficM Unit :=
  modify fun t =>
    { t with load := Function.update t.load member (t.load member + 1) }

/-- `load--` -/
def lower (member : Nat) : TrafficM Unit :=
  modify fun t =>
    { t with load := Function.update t.load member (t.load member - 1) }

def loadOf (member : Nat) : TrafficM (BitVec 32) := do
  let t ← get
  pure (t.load member)

def bufferAt (id : Nat) : TrafficM Buffer := do
  let t ← get
  match t.buffer id with
  | some b => pure b
  | none => throw .freed

def setBuffer (id : Nat) (b : Buffer) : TrafficM Unit :=
  modify fun t => { t with buffer := Function.update t.buffer id (some b) }

def ifSome (member : Option Nat) (act : Nat → TrafficM Unit) : TrafficM Unit :=
  match member with
  | some member => act member
  | none => pure ()

def deref (member : Option Nat) : TrafficM Nat :=
  match member with
  | some member => pure member
  | none => throw .null

/-- `mi_strlog(q, 0, SL_ERROR, ...)` -/
def strlog : TrafficM Unit := modify fun t => { t with logged := true }

/-- `for (...; cond; ...) body` over what is left of a list. -/
def forWhile (cond : TrafficM Bool) (body : Nat → TrafficM Unit) :
    List Nat → TrafficM Unit
  | [] => pure ()
  | i :: rest => do
      if ← cond then
        body i
        forWhile cond body rest
      else pure ()

def forEach (body : Nat → TrafficM Unit) : List Nat → TrafficM Unit
  | [] => pure ()
  | i :: rest => do
      body i
      forEach body rest

end Access

section Buffers

def allocBuffer (parent : Nat) (source onto : Option Nat) (index : Nat) :
    TrafficM (Option Nat) := do
  let t ← get
  if t.room.headD true then
    set { t with
      buffer := Function.update t.buffer t.fresh
        (some ⟨parent, index, source, onto, none⟩)
      buffers := Function.update t.buffers parent
        (t.fresh :: t.buffers parent)
      fresh := t.fresh + 1
      room := t.room.tail }
    pure (some t.fresh)
  else
    set { t with room := t.room.tail }
    pure none

def freeBuffer (id : Nat) : TrafficM Unit := do
  let b ← bufferAt id
  ifSome b.onto lower
  ifSome b.source raise
  modify fun t => { t with
    buffer := Function.update t.buffer id none
    buffers := Function.update t.buffers b.parent
      ((t.buffers b.parent).erase id) }

def startTimer (id : Nat) (timer : Timer) : TrafficM Unit := do
  let b ← bufferAt id
  setBuffer id { b with timer := some timer }

def stopTimers (id : Nat) : TrafficM Unit := do
  let b ← bufferAt id
  setBuffer id { b with timer := none }

def divertBuffer (id : Nat) : TrafficM Unit := do
  stopTimers id
  let b ← bufferAt id
  ifSome b.onto fun onto => do
    let slot ← slotAt b.parent b.index
    when (slot = .buffer id) (setSlot b.parent b.index (.direct onto))
  freeBuffer id

def cancelBuffer (id : Nat) : TrafficM Unit := do
  stopTimers id
  let b ← bufferAt id
  match b.source with
  | some source => do
      raise source
      ifSome b.onto lower
      let slot ← slotAt b.parent b.index
      when (slot = .buffer id) (setSlot b.parent b.index (.direct source))
      freeBuffer id
  | none => divertBuffer id

def mtpAllocCr (rl : Nat) (source onto : Option Nat) (index : Nat) :
    TrafficM (Option Nat) :=
  allocBuffer rl source onto index

def mtpFreeCr (cr : Nat) : TrafficM Unit := freeBuffer cr

def crCancelBuffer (cr : Nat) : TrafficM Unit := cancelBuffer cr

def mtpAllocCb (lk : Nat) (source onto : Nat) (index : Nat) :
    TrafficM (Option Nat) :=
  allocBuffer lk (some source) (some onto) index

def cbCancelBuffer (cb : Nat) : TrafficM Unit := cancelBuffer cb

end Buffers

section Balancing

def carrier (slot : Slot) : TrafficM (Option Nat) :=
  match slot with
  | .null => throw .null
  | .direct member => pure (some member)
  | .buffer id => do
      let b ← bufferAt id
      pure b.onto

/-- `i % n` -/
def homeSlot (g : Sharing) (i : Nat) : TrafficM Nat :=
  if g.list.length = 0 then throw .divide else pure (i % g.list.length)

def addTraffic (g : Sharing) (move : Nat → TrafficM Unit) (onto : Nat)
    (active : Int) : TrafficM Unit := do
  when (active = 0) (throw .divide)
  let maxload := (g.total : Int).tdiv active
  let excess : Int := if (g.total : Int).tmod active ≠ 0 then 1 else 0
  let room : TrafficM Bool := do
    let load ← loadOf onto
    pure (load ≤ BitVec.ofInt 32 maxload)
  forWhile room (fun i => do
    let slot ← slotAt g.parent i
    when (slot = .null) do
      setSlot g.parent i (.direct onto)
      raise onto) (List.range g.total)
  forWhile room (fun i => do
    let slot ← slotAt g.parent i
    let member ← carrier slot
    when (member ≠ some onto) do
      let home ← homeSlot g i
      when (g.slot onto = home) (move i)) (List.range g.total)
  forWhile room (fun i => do
    let slot ← slotAt g.parent i
    let member ← carrier slot
    when (member ≠ some onto) do
      let member ← deref member
      let load ← loadOf member
      when (BitVec.ofInt 32 (maxload + excess) < load) do
        let home ← homeSlot g i
        when (g.slot member ≠ home) (move i)) (List.range g.total)
  let load ← loadOf onto
  when (load < BitVec.ofInt 32 maxload) strlog

def cancelOnto (cancel : Nat → TrafficM Unit) (g : Sharing) (member : Nat) :
    TrafficM Unit := do
  let t ← get
  forWhile (do let load ← loadOf member; pure (load ≠ 0))
    (fun id => do
      let b ← bufferAt id
      when (b.onto = some member) (cancel id))
    (t.buffers g.parent)

def removeTraffic (g : Sharing) (cancel : Nat → TrafficM Unit)
    (move : Nat → Nat → TrafficM Unit) (takes : Nat → BitVec 32 → Bool)
    (indices source : Nat) : TrafficM Unit := do
  cancelOnto cancel g source
  forWhile (do let load ← loadOf source; pure (load ≠ 0))
    (fun i => do
      let slot ← slotAt g.parent i
      let member ← match slot with
        | .null => pure none
        | slot => carrier slot
      when (member = some source) do
        forEach (fun member => do
          let load ← loadOf member
          when (takes member load = true) (move member i)) g.list)
    (List.range indices)

end Balancing

section Rerouting

/-- `rt_reroute`: `current` tells that the route list is the current one of its
route set. -/
def rtReroute (current : Bool) (rl : Nat) (rtOnto : Option Nat) (index : Nat)
    (force : Bool) : TrafficM Unit := do
  let slot ← slotAt rl index
  match slot with
  | .buffer id => do
      let cr ← bufferAt id
      when (cr.onto ≠ rtOnto) do
        ifSome cr.onto lower
        setBuffer id { cr with onto := rtOnto }
        let onto ← deref rtOnto
        raise onto
  | .null =>
      when (rtOnto ≠ none) (place none)
  | .direct rt =>
      when (rtOnto ≠ some rt) do
        lower rt
        setSlot rl index .null
        place (some rt)
where
  place (rt : Option Nat) : TrafficM Unit := do
    let cr ←
      if current && !force then mtpAllocCr rl rt rtOnto index else pure none
    match cr with
    | some id => do
        startTimer id .t6
        setSlot rl index (.buffer id)
    | none => setSlot rl index (.ofMember rtOnto)
    let onto ← deref rtOnto
    raise onto

def rtRerouteAll (current : Bool) (rl : Sharing) (rtOnto : Option Nat)
    (force : Bool) : TrafficM Unit :=
  forEach (fun i => rtReroute current rl.parent rtOnto i force)
    (List.range rl.total)

def rtRerouteAdd (current : Bool) (rl : Sharing) (rtOnto : Nat)
    (active : Int) : TrafficM Unit :=
  addTraffic rl
    (fun i => rtReroute current rl.parent (some rtOnto) i false) rtOnto active

/-- The greatest load of a member: `(total + n - 1) / n`. -/
def shareOf (g : Sharing) (n : Int) : BitVec 32 :=
  BitVec.ofInt 32 ((g.total + n - 1).tdiv n)

def rtRerouteSub (current : Bool) (rl : Sharing) (rtFrom : Nat)
    (accessible : Int) : TrafficM Unit := do
  when (accessible = 0) (throw .divide)
  removeTraffic rl crCancelBuffer
    (fun rt i => rtReroute current rl.parent (some rt) i true)
    (fun _ load => load ≠ 0 ∧ load < shareOf rl accessible) rl.total rtFrom
  let load ← loadOf rtFrom
  when (load ≠ 0) strlog

/-- `rt_reroute_res`: it visits the whole array and not only the indices in
use. -/
def rtRerouteRes (current : Bool) (rl : Sharing) (rtFrom : Nat)
    (restricted : Int) : TrafficM Unit := do
  when (restricted = 0) (throw .divide)
  removeTraffic rl crCancelBuffer
    (fun rt i => rtReroute current rl.parent (some rt) i true)
    (fun rt load => rl.state rt = .restricted ∧ load < shareOf rl restricted)
    RT_SMAP_SIZE rtFrom

def rlRerouteOnto (rlFrom rlOnto total : Nat) (force : Bool) :
    TrafficM Unit := do
  let t ← get
  forEach (fun id => do
    let cr ← bufferAt id
    setSlot rlFrom cr.index (.ofMember cr.onto)
    let slot ← slotAt rlOnto cr.index
    let onto ← match slot with
      | .null => pure none
      | .direct rt => pure (some rt)
      | .buffer _ => throw .mistyped
    modify fun t => { t with
      buffers := Function.update
        (Function.update t.buffers rlFrom ((t.buffers rlFrom).erase id)) rlOnto
        (id :: t.buffers rlOnto) }
    setBuffer id { cr with parent := rlOnto, onto := onto }
    setSlot rlOnto cr.index (.buffer id)) (t.buffers rlFrom)
  forEach (fun index => do
    let slot ← slotAt rlOnto index
    match slot with
    | .null => throw .null
    | .buffer id => do
        let _ ← bufferAt id
        pure ()
    | .direct rtOnto =>
        when (force = false) do
          let slot ← slotAt rlFrom index
          let rtFrom ← match slot with
            | .null => pure none
            | .direct rt => pure (some rt)
            | .buffer _ => throw .mistyped
          let cr ← mtpAllocCr rlOnto rtFrom (some rtOnto) index
          ifSome cr fun id => do
            startTimer id .t6
            setSlot rlOnto index (.buffer id)) (List.range total)

/-- The part of `rl_reroute` that concerns the SLS maps. -/
def rlRerouteMaps (rlFrom rlOnto : Option Nat) (total : Nat) (force : Bool) :
    TrafficM Unit := do
  let t ← get
  match rlFrom, rlOnto with
  | none, none => pure ()
  | some rlFrom, none => forEach mtpFreeCr (t.buffers rlFrom)
  | none, some rlOnto => forEach mtpFreeCr (t.buffers rlOnto)
  | some rlFrom, some rlOnto =>
      when (rlFrom ≠ rlOnto) (rlRerouteOnto rlFrom rlOnto total force)

end Rerouting

section Changeover

/-- What the procedures read besides the links: `lk->load`, the state of the
route to the adjacent point over the link set, and whether the adjacent point is
accessible. -/
structure Adjacent where
  load : Nat
  route : Option State
  reached : Bool

def slotLink (slot : Slot) : TrafficM (Option Nat × Option Nat) :=
  match slot with
  | .null => throw .null
  | .direct sl => pure (none, some sl)
  | .buffer id => do
      let b ← bufferAt id
      pure (some id, b.onto)

/-- `*slp = sl_onto` -/
def setLink (lk index : Nat) (cb : Option Nat) (slOnto : Nat) :
    TrafficM Unit :=
  match cb with
  | none => setSlot lk index (.direct slOnto)
  | some id => do
      let b ← bufferAt id
      setBuffer id { b with onto := some slOnto }

def unload (sl : Nat) : TrafficM Unit := do
  let load ← loadOf sl
  when (load ≠ 0) (lower sl)

def claimBuffer (lk index sl slOnto : Nat) (cb : Option Nat) :
    TrafficM (Option Nat) :=
  match cb with
  | some id => do
      stopTimers id
      pure (some id)
  | none => mtpAllocCb lk sl slOnto index

def slChangeback (adj : Adjacent) (lk slOnto index : Nat) :
    TrafficM Unit := do
  let slot ← slotAt lk index
  when (slot ≠ .null) do
    let (cb, sl) ← slotLink slot
    if sl = some slOnto then
      let cb ← deref cb
      cbCancelBuffer cb
    else
      ifSome sl unload
      setLink lk index cb slOnto
      raise slOnto
      when (adj.load ≠ 0) do
        ifSome sl fun sl => do
          let cb ← claimBuffer lk index sl slOnto cb
          ifSome cb fun id =>
            match adj.route with
            | none => pure ()
            | some state => do
                if state < .restart then
                  -- `mtp_send_cbd`
                  let t ← get
                  set { t with room := t.room.tail }
                  when (t.room.headD true = true) (startTimer id .t4)
                else startTimer id .t3

def slChangeover (adj : Adjacent) (lk slOnto index : Nat) :
    TrafficM Unit := do
  let slot ← slotAt lk index
  when (slot ≠ .null) do
    let (cb, sl) ← slotLink slot
    ifSome sl unload
    setLink lk index cb slOnto
    raise slOnto
    when (adj.load ≠ 0) do
      ifSome sl fun sl => do
        let cb ← claimBuffer lk index sl slOnto cb
        ifSome cb fun id =>
          startTimer id (if adj.reached then .t2 else .t1)

def slChangebackAdd (adj : Adjacent) (lk : Sharing) (slOnto : Nat)
    (active : Int) : TrafficM Unit :=
  addTraffic lk (fun i => slChangeback adj lk.parent slOnto i) slOnto active

def slChangeoverSub (adj : Adjacent) (lk : Sharing) (slFrom : Nat)
    (active : Int) : TrafficM Unit := do
  when (active = 0) (throw .divide)
  removeTraffic lk cbCancelBuffer
    (fun sl i => slChangeover adj lk.parent sl i)
    (fun _ load => load ≠ 0 ∧ load < shareOf lk active) lk.total slFrom
  let load ← loadOf slFrom
  when (load ≠ 0) strlog

def slChangeoverRes (adj : Adjacent) (lk : Sharing) (slFrom : Nat)
    (inhibited : Int) : TrafficM Unit := do
  when (inhibited = 0) (throw .divide)
  removeTraffic lk cbCancelBuffer
    (fun sl i => slChangeover adj lk.parent sl i)
    (fun sl load => lk.state sl = .inhibited ∧ load < shareOf lk inhibited)
    lk.total slFrom
  let load ← loadOf slFrom
  when (load ≠ 0) strlog

end Changeover

end OpenSS7.Mtp3
