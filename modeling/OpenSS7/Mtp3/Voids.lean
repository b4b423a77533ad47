import OpenSS7.Lib.Ends
import OpenSS7.Mtp3.Counting

/-!
The procedures that move traffic return nothing, and so no error: where one of
them stops, it does what has no meaning.
-/

namespace OpenSS7.Mtp3

open Program

section Voids

abbrev Void {α : Type} (m : TrafficM α) : Prop := Spares .failed m

variable {body : Nat → TrafficM Unit} {g : Sharing} {i j : Nat}
  {slot : Slot} {member : Option Nat} {force current : Bool} {adj : Adjacent}
  {total : Nat}

@[grind ←] theorem slotAt_void : Void (slotAt i j) := by
  unfold slotAt
  grind

@[grind ←] theorem setSlot_void : Void (setSlot i j slot) := by
  unfold setSlot
  grind

@[grind ←] theorem raise_void : Void (raise i) := by
  unfold raise
  grind

@[grind ←] theorem lower_void : Void (lower i) := by
  unfold lower
  grind

@[grind ←] theorem loadOf_void : Void (loadOf i) := by
  unfold loadOf
  grind

@[grind ←] theorem bufferAt_void : Void (bufferAt i) := by
  unfold bufferAt
  refine spares_bind spares_get fun t => ?_
  split <;> grind

@[grind ←] theorem setBuffer_void {b : Buffer} : Void (setBuffer i b) := by
  unfold setBuffer
  grind

@[grind ←] theorem ifSome_void (act : ∀ i, Void (body i)) :
    Void (ifSome member body) := by
  unfold ifSome
  split <;> grind

@[grind ←] theorem deref_void : Void (deref member) := by
  unfold deref
  split <;> grind

@[grind ←] theorem strlog_void : Void strlog := by
  unfold strlog
  grind

@[grind ←] theorem forEach_void (each : ∀ i, Void (body i)) :
    ∀ list, Void (forEach body list)
  | [] => by
      rw [forEach]
      grind
  | i :: rest => by
      rw [forEach]
      exact spares_bind (each i) fun _ => forEach_void each rest

@[grind ←] theorem forWhile_void {cond : TrafficM Bool} (test : Void cond)
    (each : ∀ i, Void (body i)) : ∀ list, Void (forWhile cond body list)
  | [] => by
      rw [forWhile]
      grind
  | i :: rest => by
      rw [forWhile]
      refine spares_bind test fun _ => spares_ite (fun _ => ?_) fun _ =>
        spares_pure _
      exact spares_bind (each i) fun _ => forWhile_void test each rest

@[grind ←] theorem allocBuffer_void {source onto : Option Nat} :
    Void (allocBuffer i source onto j) := by
  unfold allocBuffer
  grind

@[grind ←] theorem freeBuffer_void : Void (freeBuffer i) := by
  unfold freeBuffer
  grind

@[grind ←] theorem startTimer_void {timer : Timer} : Void (startTimer i timer) := by
  unfold startTimer
  grind

@[grind ←] theorem stopTimers_void : Void (stopTimers i) := by
  unfold stopTimers
  grind

@[grind ←] theorem divertBuffer_void : Void (divertBuffer i) := by
  unfold divertBuffer
  grind

@[grind ←] theorem cancelBuffer_void : Void (cancelBuffer i) := by
  unfold cancelBuffer
  refine spares_bind stopTimers_void fun _ => spares_bind bufferAt_void
    fun b => ?_
  split <;> grind

@[grind ←] theorem carrier_void : Void (carrier slot) := by
  unfold carrier
  split <;> grind

@[grind ←] theorem homeSlot_void : Void (homeSlot g i) := by
  unfold homeSlot
  grind

theorem addTraffic_void {active : Int} (move : ∀ i, Void (body i)) :
    Void (addTraffic g body i active) := by
  have test (most : BitVec 32) : Void (do
      let load ← loadOf i
      pure (decide (load ≤ most))) := by grind
  unfold addTraffic
  refine spares_bind (spares_when fun _ => spares_throw (by decide)) fun _ =>
    spares_bind (forWhile_void (test _) (fun i => ?_) _) fun _ =>
      spares_bind (forWhile_void (test _) (fun i => ?_) _) fun _ =>
        spares_bind (forWhile_void (test _) (fun i => ?_) _) fun _ => ?_
  · grind
  · grind
  · refine spares_bind slotAt_void fun slot => spares_bind carrier_void
      fun member => spares_when fun _ => ?_
    grind
  · exact spares_bind loadOf_void fun _ => spares_when fun _ => strlog_void

theorem cancelOnto_void (cancel : ∀ i, Void (body i)) :
    Void (cancelOnto body g i) := by
  unfold cancelOnto
  grind

theorem removeTraffic_void {move : Nat → Nat → TrafficM Unit}
    {takes : Nat → BitVec 32 → Bool} (cancel : ∀ i, Void (body i))
    (moves : ∀ i j, Void (move i j)) :
    Void (removeTraffic g body move takes i j) := by
  have placed : ∀ list i, Void (forEach (fun member => do
      let load ← loadOf member
      when (takes member load = true) (move member i)) list) := by grind
  unfold removeTraffic
  refine spares_bind (cancelOnto_void cancel) fun _ =>
    forWhile_void ?_ (fun i => spares_bind slotAt_void fun slot => ?_) _
  · grind
  · dsimp only
    split <;> grind

theorem rtReroute_place_void {rt rtOnto : Option Nat} :
    Void (rtReroute.place current i rtOnto j force rt) := by
  unfold rtReroute.place mtpAllocCr
  dsimp only
  refine spares_ite (fun _ => spares_bind allocBuffer_void fun cr => ?_)
    fun _ => ?_
  · split <;> grind
  · grind

theorem rtReroute_void {rtOnto : Option Nat} :
    Void (rtReroute current i rtOnto j force) := by
  unfold rtReroute
  refine spares_bind slotAt_void fun slot => ?_
  split <;> grind [rtReroute_place_void]

@[grind ←] theorem rtRerouteAll_void {rtOnto : Option Nat} :
    Void (rtRerouteAll current g rtOnto force) :=
  forEach_void (fun _ => rtReroute_void) _

@[grind ←] theorem rtRerouteAdd_void {active : Int} :
    Void (rtRerouteAdd current g i active) :=
  addTraffic_void fun _ => rtReroute_void

@[grind ←] theorem rtRerouteSub_void {accessible : Int} :
    Void (rtRerouteSub current g i accessible) := by
  unfold rtRerouteSub
  refine spares_bind (by grind) fun _ => spares_bind (removeTraffic_void
    (fun _ => cancelBuffer_void) fun _ _ => rtReroute_void) fun _ => ?_
  grind

@[grind ←] theorem rtRerouteRes_void {restricted : Int} :
    Void (rtRerouteRes current g i restricted) := by
  unfold rtRerouteRes
  exact spares_bind (by grind) fun _ => removeTraffic_void
    (fun _ => cancelBuffer_void) fun _ _ => rtReroute_void

theorem rlRerouteOnto_void : Void (rlRerouteOnto i j total force) := by
  unfold rlRerouteOnto
  refine spares_bind spares_get fun t => spares_bind
    (forEach_void (fun id => ?_) _) fun _ => forEach_void (fun index => ?_) _
  · refine spares_bind bufferAt_void fun cr => spares_bind setSlot_void
      fun _ => spares_bind slotAt_void fun slot => ?_
    dsimp only
    split <;> grind
  · refine spares_bind slotAt_void fun slot => ?_
    split
    · grind
    · grind
    · refine spares_when fun _ => spares_bind slotAt_void fun slot => ?_
      unfold mtpAllocCr
      dsimp only
      split <;> grind

theorem rlRerouteMaps_void {rlFrom rlOnto : Option Nat} :
    Void (rlRerouteMaps rlFrom rlOnto total force) := by
  unfold rlRerouteMaps mtpFreeCr
  refine spares_bind spares_get fun t => ?_
  split <;> grind [rlRerouteOnto_void]

@[grind ←] theorem slotLink_void : Void (slotLink slot) := by
  unfold slotLink
  split <;> grind

@[grind ←] theorem setLink_void : Void (setLink i j member total) := by
  unfold setLink
  split <;> grind

@[grind ←] theorem unload_void : Void (unload i) := by
  unfold unload
  grind

@[grind ←] theorem claimBuffer_void {sl onto : Nat} :
    Void (claimBuffer i j sl onto member) := by
  unfold claimBuffer mtpAllocCb
  split <;> grind

theorem slChangeback_void : Void (slChangeback adj i j total) := by
  unfold slChangeback cbCancelBuffer
  refine spares_bind slotAt_void fun slot => spares_when fun _ =>
    spares_bind slotLink_void fun link => spares_ite (fun _ => ?_) fun _ => ?_
  · grind
  · refine spares_bind (by grind) fun _ => spares_bind (by grind) fun _ =>
      spares_bind (by grind) fun _ => spares_when fun _ => ifSome_void
        fun sl => spares_bind (by grind) fun cb => ifSome_void fun id => ?_
    split <;> grind

theorem slChangeover_void : Void (slChangeover adj i j total) := by
  unfold slChangeover
  refine spares_bind slotAt_void fun slot => spares_when fun _ =>
    spares_bind slotLink_void fun link => ?_
  grind

theorem offload_void {c : Counters} {newstate : State} :
    Void (offload current g i c newstate) := by
  unfold offload
  grind

theorem onload_void {c : Counters} {oldstate : State} :
    Void (onload current g i c oldstate) := by
  unfold onload
  grind

theorem changeback_void {c : Counters} : Void (changeback adj g i c) :=
  addTraffic_void fun _ => slChangeback_void

theorem changeover_void {c : Counters} {oldstate : State} :
    Void (changeover adj g i c oldstate) := by
  have moved (takes : Nat → BitVec 32 → Bool) : Void (removeTraffic g
      cbCancelBuffer (fun sl i => slChangeover adj g.parent sl i) takes
      g.total i) :=
    removeTraffic_void (fun _ => cancelBuffer_void) fun _ _ =>
      slChangeover_void
  unfold changeover slChangeoverSub slChangeoverRes
  grind

end Voids

end OpenSS7.Mtp3
