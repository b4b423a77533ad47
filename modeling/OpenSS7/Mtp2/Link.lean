import OpenSS7.Mtp2.Side

/-!
Two modules joined by a channel in each direction that keeps the order of
signal units but may lose any of them, and the order in which messages are
accepted at either end.
-/

namespace OpenSS7.Mtp2

open Program

/-- Two modules and the units on their way from `a` to `b` and back. -/
structure Link where
  a : Sl
  b : Sl
  ab : List Su
  ba : List Su

namespace Link

/-- What can happen at side `a`: an event of its own, the arrival of the
oldest unit, the loss of one of the units it has sent. -/
inductive Action where
  | own (env : Env) (event : Event)
  | deliver (env : Env)
  | lose (i : Nat)

def swap (l : Link) : Link := { a := l.b, b := l.a, ab := l.ba, ba := l.ab }

def act (l : Link) : Action → Link
  | .own env event =>
      let a := l.a.handle env event
      { l with a := a, ab := l.ab ++ a.sent }
  | .deliver env =>
      match l.ba with
      | [] => l
      | su :: rest =>
          let a := l.a.handle env (.signalUnit su.octets)
          { l with a := a, ab := l.ab ++ a.sent, ba := rest }
  | .lose i => { l with ab := l.ab.eraseIdx i }

/-- An action at side `a`, or at side `b` when `atB`. -/
def step (l : Link) (atB : Bool) (action : Action) : Link :=
  if atB then (l.swap.act action).swap else l.act action

def run (l : Link) (actions : List (Bool × Action)) : Link :=
  actions.foldl (fun l action => l.step action.1 action.2) l

def Action.Legal : Action → Prop
  | .own env event =>
      env.indMem = [] ∧ event.Own fun sdu => 3 ≤ sdu.length
  | .deliver env => env.indMem = []
  | .lose _ => True

def Good (s : Sl) : Prop := s.crossed = false ∧ s.reopened = false

/-- The link as seen from side `a`, which has the options `o`. -/
def Half (o : Options) (l : Link) : Prop :=
  l.a.view.Plain o ∧ l.a.rxFFsn = l.a.txFFsn ∧
    (Good l.a → Good l.b → l.a.view.Side ∧
      Direction l.a.released.length (l.a.released.length + l.a.rtb.length)
        l.a.submitted l.b.acked l.b.accepted l.ab l.ba)

def InOrder (oa ob : Options) (l : Link) : Prop :=
  l.Half oa ∧ l.swap.Half ob

section Step

variable {oa ob : Options} {l : Link}

theorem InOrder.swap (inOrder : l.InOrder oa ob) : l.swap.InOrder ob oa :=
  ⟨inOrder.2, inOrder.1⟩

theorem InOrder.rests (inOrder : l.InOrder oa ob) {env : Env}
    (memory : env.indMem = []) :
    View.Rests oa (Good l.b) l.b.view l.ab l.ba l.ba (l.a.enter env).view := by
  obtain ⟨⟨plain, agree, joined⟩, _, _, back⟩ := inOrder
  refine ⟨⟨⟨{ plain.window with memory := memory }, plain.option,
    plain.format, plain.calm⟩, ?_⟩, agree⟩
  intro goodB uncrossed intact
  obtain ⟨side, sends⟩ := joined ⟨uncrossed, intact⟩ goodB
  obtain ⟨peer, receives⟩ := back goodB ⟨uncrossed, intact⟩
  refine ⟨{ side with }, peer, ?_, ?_⟩
  · show Direction _ _ _ _ _ (l.ab ++ []) _
    rw [List.append_nil]
    exact sends
  · show Direction _ _ _ _ _ _ (l.ab ++ [])
    rw [List.append_nil]
    exact receives

theorem InOrder.after (inOrder : l.InOrder oa ob) {a : Sl}
    {ba : List Su} (rests : View.Rests oa (Good l.b) l.b.view l.ab ba ba a.view) :
    InOrder oa ob { l with a := a, ab := l.ab ++ a.sent, ba := ba } := by
  obtain ⟨⟨plain, safe⟩, agree⟩ := rests
  refine ⟨⟨plain, agree, ?_⟩, inOrder.2.1, inOrder.2.2.1, ?_⟩
  · intro goodA goodB
    have joined := safe goodB goodA.1 goodA.2
    exact ⟨joined.side, joined.sends⟩
  · intro goodB goodA
    have joined := safe goodB goodA.1 goodA.2
    exact ⟨joined.peer, joined.receives⟩

theorem rests_submit {o : Options} {good : Prop} {v w : View} {out acks data : List Su}
    {sdu : List UInt8} {m : Msu} (long : 3 ≤ sdu.length)
    (made : v.Submits sdu m) (rests : View.Rests o good w out acks data v) :
    View.Rests o good w out acks data (v.submit m) := by
  obtain ⟨⟨plain, safe⟩, agree⟩ := rests
  refine ⟨⟨⟨plain.window.submit m, plain.option, plain.format, plain.calm⟩,
    ?_⟩, agree⟩
  intro ok uncrossed intact
  obtain ⟨side, peer, sends, receives⟩ := safe ok uncrossed intact
  have total := View.Side.messages_length plain.window
  refine ⟨{ side with places := ?_ }, peer, sends.submit (by omega) _, receives⟩
  intro i m' at_
  simp only [View.submit, ← List.append_assoc] at at_ ⊢
  rcases Nat.lt_or_ge i (v.rtb ++ v.tb).length with old | new
  · rw [List.getElem?_append_left old] at at_
    exact side.places i m' at_
  · rw [List.getElem?_append_right new, List.getElem?_singleton] at at_
    split at at_
    case isTrue last =>
      rw [List.length_append] at new last
      rw [← Option.some.inj at_, made.sdu, made.idx, made.hdr]
      refine ⟨by omega, ?_, long⟩
      rw [Options.hlen, plain.format]
      rfl
    case isFalse => cases at_

theorem InOrder.reads (inOrder : l.InOrder oa ob) {env : Env}
    (memory : env.indMem = []) {su : Su} {rest : List Su}
    (head : l.ba = su :: rest) :
    View.Reads oa (Good l.b) l.b.view l.ab (su :: rest) (su :: rest) su
      ((l.a.enter env).decode su.octets).view := by
  obtain ⟨⟨plain, safe⟩, agree⟩ := inOrder.rests memory
  have format : l.a.option.xsn = false := plain.format
  rw [head] at safe
  refine ⟨⟨⟨{ plain.window with }, plain.option, plain.format, plain.calm⟩,
    ?_⟩, ?_, agree⟩
  · intro ok uncrossed intact
    obtain ⟨side, peer, sends, receives⟩ := safe ok uncrossed intact
    exact ⟨{ side with }, peer, sends, receives⟩
  · have same : slRcDecode (l.a.enter env).option.xsn su.octets =
        slRcDecode false su.octets := by
      rw [← format]
      rfl
    constructor
    · exact congrArg (·.header.bsn) same
    · exact congrArg (·.header.fsn) same
    · exact congrArg Decoded.len same
    · show Bit (slRcDecode (l.a.enter env).option.xsn su.octets).header.bib
      rw [same]
      exact octet_bit _

theorem InOrder.deliver (inOrder : l.InOrder oa ob) {env : Env}
    (memory : env.indMem = []) {su : Su} {rest : List Su}
    (head : l.ba = su :: rest) :
    View.Rests oa (Good l.b) l.b.view l.ab rest rest
      (l.a.handle env (.signalUnit su.octets)).view := by
  have rests := inOrder.rests memory
  have idle : View.Rests oa (Good l.b) l.b.view l.ab rest rest
      (l.a.enter env).view := by
    rw [head] at rests
    exact ⟨rests.1.lose (List.sublist_cons_self su rest)
      (List.sublist_cons_self su rest), rests.2⟩
  have format : (l.a.enter env).option.xsn = false := rests.1.1.format
  have rule := View.reads_receives oa (Good l.b) l.b.view l.ab rest su
  have three : su.octets.drop 3 = su.octets.drop
      (slRcDecode (l.a.enter env).option.xsn su.octets).rptr := by
    rw [format]
    rfl
  rw [three] at rule
  exact triple_after
    (slRcSignalUnit_leads rule idle (inOrder.reads memory head)) rfl

theorem InOrder.lose (inOrder : l.InOrder oa ob) {ab ba : List Su}
    (fewer : ab.Sublist l.ab) (fewerBack : ba.Sublist l.ba) :
    InOrder oa ob { l with ab := ab, ba := ba } := by
  obtain ⟨⟨plainA, agreeA, halfA⟩, plainB, agreeB, halfB⟩ := inOrder
  refine ⟨⟨plainA, agreeA, ?_⟩, plainB, agreeB, ?_⟩
  · intro goodA goodB
    obtain ⟨side, sends⟩ := halfA goodA goodB
    exact ⟨side, sends.lose fewer fewerBack⟩
  · intro goodB goodA
    obtain ⟨side, receives⟩ := halfB goodB goodA
    exact ⟨side, receives.lose fewerBack fewer⟩

theorem InOrder.act (inOrder : l.InOrder oa ob) {action : Action}
    (legal : action.Legal) : (l.act action).InOrder oa ob := by
  cases action with
  | own env event =>
      obtain ⟨memory, own⟩ := legal
      have kept := Event.program_keeps
        (View.rests_closed oa (Good l.b) l.b.view l.ab l.ba l.ba)
        (fun _ rests => rests.1.1.window.memory)
        (fun _ _ _ long made rests => rests_submit long made rests) own
      exact inOrder.after (triple_after kept (inOrder.rests memory))
  | deliver env =>
      simp only [Link.act]
      split
      case h_1 => exact inOrder
      case h_2 su rest head => exact inOrder.after (inOrder.deliver legal head)
  | lose i => exact inOrder.lose (List.eraseIdx_sublist l.ab i) (.refl _)

theorem InOrder.step (inOrder : l.InOrder oa ob) (atB : Bool)
    {action : Action} (legal : action.Legal) :
    (l.step atB action).InOrder oa ob := by
  cases atB with
  | false => exact inOrder.act legal
  | true => exact (inOrder.swap.act legal).swap

theorem InOrder.run (inOrder : l.InOrder oa ob)
    {actions : List (Bool × Action)} (legal : ∀ x ∈ actions, x.2.Legal) :
    (l.run actions).InOrder oa ob := by
  induction actions generalizing l with
  | nil => exact inOrder
  | cons x actions ih =>
      exact ih (inOrder.step x.1 (legal x List.mem_cons_self))
        fun y mem => legal y (List.mem_cons_of_mem x mem)

end Step

end Link

structure Sl.Fresh (s : Sl) : Prop where
  initial : s.view.Initial
  format : s.option.xsn = false
  bibr : Bit s.txRBib
  limit : s.option.pcr = true → s.config.N1 ≤ 127

namespace Sl.Fresh

variable {s : Sl}

theorem plain (fresh : s.Fresh) : s.view.Plain s.option :=
  ⟨fresh.initial.synced.1, rfl, fresh.format, fun _ => fresh.initial.reopened⟩

theorem side (fresh : s.Fresh) : s.view.Side := by
  have initial := fresh.initial
  have format : s.view.option.xsn = false := fresh.format
  have ibMask : s.view.ibMask = 0x80 := by
    rw [initial.ibMask, format]
    rfl
  refine
    { format := fresh.format
      ibMask := ibMask
      bib := Or.inr (initial.txNBib.trans ibMask)
      fib := Or.inr (initial.txNFib.trans ibMask)
      bibr := fresh.bibr
      limit := ?_
      first := ?_
      places := ?_
      expected := ?_
      acks := ?_ }
  · intro pcr
    rw [initial.rtb]
    exact ⟨fresh.limit pcr, Nat.zero_le _, fun _ => by simp⟩
  · rw [initial.txFFsn, initial.released]
    rfl
  · intro i m at_
    rw [initial.rtb, initial.tb] at at_
    cases at_
  · rw [initial.rxXFsn, initial.accepted]
    rfl
  · rw [initial.txXFsn, initial.acked]

end Sl.Fresh

namespace Link

structure Fresh (l : Link) : Prop where
  a : l.a.Fresh
  b : l.b.Fresh
  ab : l.ab = []
  ba : l.ba = []

theorem Fresh.swap {l : Link} (fresh : l.Fresh) : l.swap.Fresh :=
  ⟨fresh.b, fresh.a, fresh.ba, fresh.ab⟩

theorem Fresh.half {l : Link} (fresh : l.Fresh) : l.Half l.a.option := by
  refine ⟨fresh.a.plain, fresh.a.initial.synced.2, fun _ _ => ?_⟩
  refine ⟨fresh.a.side, ?_⟩
  rw [show l.a.released = [] from fresh.a.initial.released,
    show l.a.rtb = [] from fresh.a.initial.rtb,
    show l.a.submitted = [] from fresh.a.initial.submitted,
    show l.b.acked = 0 from fresh.b.initial.acked,
    show l.b.accepted = [] from fresh.b.initial.accepted, fresh.ab, fresh.ba]
  exact Direction.initial

theorem Fresh.inOrder {l : Link} (fresh : l.Fresh) :
    l.InOrder l.a.option l.b.option :=
  ⟨fresh.half, fresh.swap.half⟩

def InSequence (l : Link) : Prop :=
  l.a.accepted <+: l.b.submitted ∧ l.b.accepted <+: l.a.submitted

theorem InOrder.inSequence {oa ob : Options} {l : Link}
    (inOrder : l.InOrder oa ob) (goodA : Good l.a) (goodB : Good l.b) :
    l.InSequence := by
  have sends := (inOrder.1.2.2 goodA goodB).2
  have receives := (inOrder.2.2.2 goodB goodA).2
  constructor
  · exact List.prefix_iff_eq_take.2 receives.accepted
  · exact List.prefix_iff_eq_take.2 sends.accepted

def aligned (pcr : Bool) : Link :=
  let s := ((Sl.poweredOn ⟨SS7_PVAR_ITUT_96, pcr, false, false⟩
    slDefault).start (.taking 2)).run alignment
  { a := s, b := s, ab := [], ba := [] }

theorem aligned_fresh (pcr : Bool) : (aligned pcr).Fresh := by
  have fresh : (aligned pcr).a.Fresh := by
    refine ⟨?_, ?_, Or.inr ?_, fun _ => ?_⟩
    · constructor <;> (cases pcr <;> decide +kernel)
    all_goals cases pcr <;> decide +kernel
  exact ⟨fresh, fresh, rfl, rfl⟩

def submission (n id : Nat) (x : UInt8) : Action :=
  .own (.taking n) (.pdu id [x, x, x] 0 true)

/-- Preventive cyclic retransmission delivers in sequence as long as each
retransmission finds on `rtb` the message of the number it is sent under. -/
theorem pcr_delivers_in_sequence {l : Link} (fresh : l.Fresh)
    (cyclicA : l.a.option.pcr = true) (cyclicB : l.b.option.pcr = true)
    {actions : List (Bool × Action)} (legal : ∀ x ∈ actions, x.2.Legal)
    (uncrossedA : (l.run actions).a.crossed = false)
    (uncrossedB : (l.run actions).b.crossed = false) :
    (l.run actions).InSequence := by
  have inOrder := fresh.inOrder.run legal
  have plainA := inOrder.1.1
  have plainB := inOrder.2.1
  refine inOrder.inSequence ⟨uncrossedA, ?_⟩ ⟨uncrossedB, ?_⟩
  · exact plainA.calm (by rw [plainA.option]; exact cyclicA)
  · exact plainB.calm (by rw [plainB.option]; exact cyclicB)

def cycle : List (Bool × Action) :=
  [(false, submission 1 0 10), (false, submission 1 1 11),
    (false, submission 1 2 12), (false, .lose 0), (false, .own (.taking 3) .txWakeup),
    (true, .deliver (.taking 0)), (true, .deliver (.taking 0)),
    (true, .deliver (.taking 1)),
    (false, .deliver (.taking 0)), (true, .deliver (.taking 0)),
    (true, .deliver (.taking 0))]

theorem pcr_delivers_in_sequence_cycle :
    ((aligned true).run cycle).b.accepted =
        [[10, 10, 10], [11, 11, 11], [12, 12, 12]] ∧
      ((aligned true).run cycle).InSequence := by
  refine ⟨by decide +kernel, pcr_delivers_in_sequence (aligned_fresh true)
    (by decide +kernel) (by decide +kernel) ?_ (by decide +kernel)
    (by decide +kernel)⟩
  simp [cycle, submission, Action.Legal, Event.Own, Env.taking]

def dangling : List (Bool × Action) :=
  [(false, submission 1 0 10), (false, submission 1 1 11),
    (false, submission 1 2 12), (false, .lose 2), (true, .deliver (.taking 0)),
    (true, .deliver (.taking 1)),
    (false, .own (.taking 0) .transmissionRequest), (false, .lose 0),
    (false, .deliver { Env.taking 2 with
      stale := fun _ => ⟨⟨99, [0, 0, 0], [9, 9, 9], 0, 0⟩, some 99⟩ }),
    (true, .deliver (.taking 0)), (true, .deliver (.taking 0))]

theorem pcr_substitutes_message :
    (aligned true).Fresh ∧ (aligned true).a.option.pcr = true ∧
      (aligned true).b.option.pcr = true ∧
      (∀ x ∈ dangling, x.2.Legal) ∧
      ((aligned true).run dangling).a.lscState = .inService ∧
      ((aligned true).run dangling).b.lscState = .inService ∧
      ¬ ((aligned true).run dangling).InSequence := by
  refine ⟨aligned_fresh true, by decide +kernel, by decide +kernel, ?_,
    by decide +kernel, by decide +kernel, ?_⟩
  · simp [dangling, submission, Action.Legal, Event.Own, Env.taking]
  · intro inSequence
    exact absurd inSequence.2 (by decide +kernel)

/-- With any method, so with the basic one on both sides, messages are
delivered in sequence as long as each retransmission finds on `rtb` the
message of the number it is sent under, and the basic method does not clear
`rtb_full` with the whole window outstanding. -/
theorem basic_delivers_in_sequence {l : Link} (fresh : l.Fresh)
    {actions : List (Bool × Action)} (legal : ∀ x ∈ actions, x.2.Legal)
    (goodA : Good (l.run actions).a) (goodB : Good (l.run actions).b) :
    (l.run actions).InSequence :=
  (fresh.inOrder.run legal).inSequence goodA goodB

def retransmission : List (Bool × Action) :=
  [(false, submission 1 0 10), (false, submission 1 1 11),
    (false, submission 1 2 12), (false, submission 1 3 13),
    (false, .lose 0), (true, .deliver (.taking 1)),
    (false, .lose 0), (false, .lose 0), (false, .deliver (.taking 2)),
    (true, .deliver (.taking 1)), (true, .deliver (.taking 0))]

theorem basic_delivers_in_sequence_retransmission :
    ((aligned false).run retransmission).b.accepted =
        [[10, 10, 10], [11, 11, 11]] ∧
      ((aligned false).run retransmission).InSequence := by
  refine ⟨by decide +kernel, basic_delivers_in_sequence (aligned_fresh false)
    ?_ ⟨by decide +kernel, by decide +kernel⟩
    ⟨by decide +kernel, by decide +kernel⟩⟩
  simp [retransmission, submission, Action.Legal, Event.Own, Env.taking]

def relabelling : List (Bool × Action) :=
  retransmission ++ [(false, .deliver (.taking 0)),
    (false, .own (.taking 1) .txWakeup), (true, .deliver (.taking 0))]

theorem basic_duplicates_message :
    (aligned false).Fresh ∧ (aligned false).a.option.pcr = false ∧
      (aligned false).b.option.pcr = false ∧
      (∀ x ∈ relabelling, x.2.Legal) ∧
      ((aligned false).run relabelling).a.lscState = .inService ∧
      ((aligned false).run relabelling).b.lscState = .inService ∧
      ¬ ((aligned false).run relabelling).InSequence := by
  refine ⟨aligned_fresh false, by decide +kernel, by decide +kernel, ?_,
    by decide +kernel, by decide +kernel, ?_⟩
  · simp [relabelling, retransmission, submission, Action.Legal, Event.Own,
      Env.taking]
  · intro inSequence
    exact absurd inSequence.2 (by decide +kernel)

end Link

end OpenSS7.Mtp2
