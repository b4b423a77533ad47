import OpenSS7.Lib.Program
import OpenSS7.Mtp3.RoundTrip
import OpenSS7.Mtp3.Traffic

/-!
Changeover of a failed link: the two signalling points at its ends exchange the
numbers of what they received last, over another link, and request the retrieval
of what they sent from their level 2.
-/

namespace OpenSS7.Mtp3

open Program

/-- `sl->l_state` -/
inductive LinkPhase where
  | oos
  | windInsi
  | wackSltm
  | is
  | procOutg
  | windClrb
  | windBsnt
  | wackCoo
  | wackEco
  | wconRet
deriving DecidableEq

/-- What a request for retrieval is made for: a changeover order, an
acknowledgement, a message without a number, or else its number is the one
stored in `sl->fsnc`. -/
inductive Cause where
  | coo
  | coa
  | unnumbered
  | stored
deriving DecidableEq

inductive Request where
  | clearBuffers
  | clearRtb
  | retrieve (cause : Cause) (fsnc : BitVec 32)
deriving DecidableEq

/-- The messages of changeover as they are decoded; `stored` tells that the
number of an acknowledgement was `sl->fsnc`. -/
inductive Order where
  | coo (fsnl : BitVec 32)
  | coa (fsnl : BitVec 32) (stored : Bool)
  | eco
  | eca
deriving DecidableEq

/-- One end of the failed link. `carries` is `sl->state < SL_UNUSABLE` and
`SLF_TRAFFIC`, `suspended` tells that the link is not restarted yet, `room` holds
the outcomes of allocations; `sent` are the messages sent and `requests` those
to level 2, the last one first. -/
structure LinkEnd where
  phase : LinkPhase
  carries : Bool
  blocked : Bool
  suspended : Bool
  cooRecv : Bool
  ecoRecv : Bool
  fsnc : BitVec 32
  bsnt : BitVec 32
  room : List Bool
  sent : List Order
  requests : List Request
deriving DecidableEq

abbrev EndM := Program LinkEnd Err

def sevenBits (number : BitVec 32) : BitVec 32 := number &&& 0x7f

section Requests

def attempt : EndM Unit := do
  let s ← get
  set { s with room := s.room.tail }
  when (s.room.headD true = false) (throw .failed)

def enter (phase : LinkPhase) : EndM Unit :=
  modify fun s => { s with phase := phase }

/-- `mtp_send_coo`, `mtp_send_coa`, `mtp_send_eco` and `mtp_send_eca` -/
def sendOrder (order : Order) : EndM Unit := do
  attempt
  modify fun s => { s with sent := order :: s.sent }

/-- `sl_set_state`, of which only its outcome matters here. -/
def routingState : EndM Unit := attempt

def slClearBuffersReq : EndM Unit := do
  attempt
  modify fun s =>
    { s with phase := .oos, requests := .clearBuffers :: s.requests }

def slClearRtbReq : EndM Unit := do
  attempt
  modify fun s =>
    { s with phase := .windClrb, requests := .clearRtb :: s.requests }

def slRetrievalRequestAndFsncReq (cause : Cause) (fsnc : BitVec 32) :
    EndM Unit := do
  attempt
  modify fun s =>
    { s with
      phase := .wconRet
      requests := .retrieve cause fsnc :: s.requests }

def slStopReq : EndM Unit := do
  attempt
  enter .oos

def slStartReq : EndM Unit := do
  attempt
  enter .windInsi

def slRetrieveBsntReq : EndM Unit := do
  attempt
  enter .windBsnt

end Requests

section Handling

/-- The last part of `sl_stop_restore`, for a link without traffic. -/
def restoreLink : EndM Unit := do
  slStopReq
  routingState
  let s ← get
  when (s.blocked = true) do
    routingState
    slClearBuffersReq
  routingState
  when (s.suspended = false) slStartReq

/-- The middle part of `sl_stop_restore`. -/
def failLink : EndM Unit := do
  let s ← get
  if s.carries = true then do
    slStopReq
    routingState
    when (s.blocked = true) routingState
    routingState
    slRetrieveBsntReq
    modify fun s => { s with carries := false }
  else restoreLink

def slStopRestore : EndM Unit := do
  let s ← get
  match s.phase with
  | .windInsi =>
      slStopReq
      routingState
  | .wconRet =>
      routingState
      failLink
  | .procOutg | .is => failLink
  | .wackSltm => restoreLink
  | _ => throw .failed

def slOutOfServiceInd : EndM Unit := do
  let s ← get
  match s.phase with
  | .windInsi | .is | .procOutg | .wackSltm => slStopRestore
  | _ => throw .failed

def slBsntInd (bsnt : BitVec 32) : EndM Unit := do
  let s ← get
  when (s.phase ≠ .windBsnt) (throw .failed)
  modify fun s => { s with bsnt := bsnt }
  if s.cooRecv = true ∨ s.ecoRecv = true then do
    sendOrder (.coa (sevenBits bsnt) false)
    when (s.fsnc = -1) slClearRtbReq
    routingState
    slRetrievalRequestAndFsncReq .stored s.fsnc
  else do
    sendOrder (.coo (sevenBits bsnt))
    enter .wackCoo

def slBsntNotRetrievableInd : EndM Unit := do
  let s ← get
  when (s.phase ≠ .windBsnt) (throw .failed)
  modify fun s => { s with bsnt := -1 }
  if s.cooRecv = true ∨ s.ecoRecv = true then do
    sendOrder .eca
    if s.ecoRecv = true ∨ s.fsnc = -1 then do
      slClearRtbReq
      modify fun s => { s with fsnc := -1 }
      routingState
      slRetrievalRequestAndFsncReq .unnumbered (-1)
    else do
      routingState
      slRetrievalRequestAndFsncReq .stored s.fsnc
  else do
    sendOrder .eco
    enter .wackEco

/-- `sl_retrieval_complete_ind` and `sl_retrieval_not_possible_ind` -/
def slRetrievalCompleteInd : EndM Unit := do
  let s ← get
  when (s.phase ≠ .wconRet) (throw .failed)
  slStopRestore

def slRtbClearedInd : EndM Unit := do
  let s ← get
  match s.phase with
  | .windClrb => enter .oos
  | .wconRet => pure ()
  | _ => throw .failed

def answer : EndM Unit := do
  let s ← get
  if s.fsnc ≠ -1 then sendOrder (.coa (sevenBits s.fsnc) true)
  else sendOrder .eca

def mtpRecvCoo (fsnl : BitVec 32) : EndM Unit := do
  let s ← get
  match s.phase with
  | .windInsi | .is | .procOutg | .wackSltm => slStopRestore
  | .windBsnt => modify fun s => { s with cooRecv := true }
  | .wackCoo | .wackEco =>
      answer
      routingState
      slRetrievalRequestAndFsncReq .coo fsnl
  | .wconRet => answer
  | .oos | .windClrb => pure ()

def mtpRecvCoa (fsnl : BitVec 32) (stored : Bool) : EndM Unit := do
  let s ← get
  when (s.phase = .wackCoo ∨ s.phase = .wackEco) do
    slClearRtbReq
    routingState
    slRetrievalRequestAndFsncReq (if stored then .stored else .coa) fsnl

def mtpRecvEco : EndM Unit := do
  let s ← get
  match s.phase with
  | .windInsi | .is | .procOutg | .wackSltm => slStopRestore
  | .windBsnt => modify fun s => { s with ecoRecv := true }
  | .wackCoo | .wackEco =>
      answer
      slClearRtbReq
      routingState
      slRetrievalRequestAndFsncReq .unnumbered (-1)
  | .wconRet => answer
  | .oos | .windClrb => pure ()

def mtpRecvEca : EndM Unit := do
  let s ← get
  when (s.phase = .wackCoo ∨ s.phase = .wackEco) do
    slClearRtbReq
    routingState
    slRetrievalRequestAndFsncReq .unnumbered (-1)

def receive : Order → EndM Unit
  | .coo fsnl => mtpRecvCoo fsnl
  | .coa fsnl stored => mtpRecvCoa fsnl stored
  | .eco => mtpRecvEco
  | .eca => mtpRecvEca

def report : Option (BitVec 32) → EndM Unit
  | some bsnt => slBsntInd bsnt
  | none => slBsntNotRetrievableInd

end Handling

section Exchange

inductive Party where
  | near
  | far
deriving DecidableEq

def Party.peer : Party → Party
  | near => far
  | far => near

abbrev Pair := Party → LinkEnd

inductive Event where
  | fails
  | reports
  | cleared
  | completes
deriving DecidableEq

def Event.perform (bsnt : Option (BitVec 32)) : Event → EndM Unit
  | fails => slOutOfServiceInd
  | reports => report bsnt
  | cleared => slRtbClearedInd
  | completes => slRetrievalCompleteInd

/-- The two ends of a failed link: any event may come at either end, and any
message that the other end has sent may arrive, in any order, more than once or
never. `bsnt` is what level 2 reports at each end. -/
inductive Exchanges (bsnt : Party → Option (BitVec 32)) (start : Pair) :
    Pair → Prop where
  | start : Exchanges bsnt start start
  | event {pair : Pair} (p : Party) (e : Event) :
      Exchanges bsnt start pair →
      Exchanges bsnt start
        (Function.update pair p ((e.perform (bsnt p)).after (pair p)))
  | arrives {pair : Pair} (p : Party) (order : Order) :
      Exchanges bsnt start pair → order ∈ (pair p.peer).sent →
      Exchanges bsnt start
        (Function.update pair p ((receive order).after (pair p)))

def Reported (bsnt : Option (BitVec 32)) (number : BitVec 32) : Prop :=
  ∃ b, bsnt = some b ∧ number = sevenBits b

def Order.Right (bsnt : Option (BitVec 32)) : Order → Prop
  | coo fsnl => Reported bsnt fsnl
  | coa fsnl stored => stored = true ∨ Reported bsnt fsnl
  | _ => True

def Request.Right (bsnt : Option (BitVec 32)) (earlier : List Request) :
    Request → Prop
  | retrieve .coo fsnc => Reported bsnt fsnc
  | retrieve .coa fsnc => Reported bsnt fsnc
  | retrieve .unnumbered fsnc => fsnc = -1 ∧ earlier.head? = some .clearRtb
  | _ => True

def RequestsRight (bsnt : Option (BitVec 32)) : List Request → Prop
  | [] => True
  | request :: earlier =>
      request.Right bsnt earlier ∧ RequestsRight bsnt earlier

structure LinkEnd.Right (own peer : Option (BitVec 32)) (s : LinkEnd) :
    Prop where
  sent : ∀ order ∈ s.sent, order.Right own
  requests : RequestsRight peer s.requests

end Exchange

section Keeping

variable {own peer : Option (BitVec 32)}

def LinkEnd.Cleared (own peer : Option (BitVec 32)) (s : LinkEnd) : Prop :=
  s.Right own peer ∧ s.requests.head? = some .clearRtb

theorem keeps_attempt {I : LinkEnd → Prop}
    (same : ∀ s room, I s → I { s with room := room }) : Keeps I attempt := by
  unfold attempt
  refine triple_get_bind fun s right => ?_
  refine triple_bind (R := fun _ => I) (fun _ _ => same s _ right) fun _ => ?_
  exact keeps_when (keeps_throw _)

theorem attempt_right : Keeps (LinkEnd.Right own peer) attempt :=
  keeps_attempt fun _ _ right => ⟨right.sent, right.requests⟩

theorem routingState_right : Keeps (LinkEnd.Right own peer) routingState :=
  attempt_right

theorem routingState_cleared : Keeps (LinkEnd.Cleared own peer) routingState :=
  keeps_attempt fun _ _ cleared =>
    ⟨⟨cleared.1.sent, cleared.1.requests⟩, cleared.2⟩

theorem keeps_attempt_modify {f : LinkEnd → LinkEnd}
    (right : ∀ s, s.Right own peer → (f s).Right own peer) :
    Keeps (LinkEnd.Right own peer) (do attempt; modify f) :=
  keeps_bind attempt_right fun _ => keeps_modify right

theorem sendOrder_right {order : Order} (right : order.Right own) :
    Keeps (LinkEnd.Right own peer) (sendOrder order) :=
  keeps_attempt_modify fun _ before =>
    ⟨fun _ member => (List.mem_cons.mp member).elim (fun same => same ▸ right)
      (before.sent _), before.requests⟩

theorem slClearRtbReq_cleared :
    Triple (LinkEnd.Right own peer) slClearRtbReq
      (fun _ => LinkEnd.Cleared own peer) (LinkEnd.Right own peer) :=
  triple_bind attempt_right fun _ => triple_modify fun _ before =>
    ⟨⟨before.sent, trivial, before.requests⟩, rfl⟩

theorem slClearRtbReq_right : Keeps (LinkEnd.Right own peer) slClearRtbReq :=
  triple_conseq slClearRtbReq_cleared (fun _ right => right)
    (fun _ _ cleared => cleared.1) fun _ right => right

theorem slClearBuffersReq_right :
    Keeps (LinkEnd.Right own peer) slClearBuffersReq :=
  keeps_attempt_modify fun _ before =>
    ⟨before.sent, trivial, before.requests⟩

theorem retrieve_right {cause : Cause} {fsnc : BitVec 32}
    (right : ∀ earlier, (Request.retrieve cause fsnc).Right peer earlier) :
    Keeps (LinkEnd.Right own peer) (slRetrievalRequestAndFsncReq cause fsnc) :=
  keeps_attempt_modify fun _ before =>
    ⟨before.sent, right _, before.requests⟩

theorem retrieve_unnumbered :
    Triple (LinkEnd.Cleared own peer) (do
      routingState
      slRetrievalRequestAndFsncReq .unnumbered (-1))
      (fun _ => LinkEnd.Right own peer) (LinkEnd.Right own peer) := by
  have settled : Triple (LinkEnd.Cleared own peer) routingState
      (fun _ => LinkEnd.Cleared own peer) (LinkEnd.Right own peer) :=
    triple_conseq routingState_cleared (fun _ cleared => cleared)
      (fun _ _ cleared => cleared) fun _ cleared => cleared.1
  have attempted : Triple (LinkEnd.Cleared own peer) attempt
      (fun _ => LinkEnd.Cleared own peer) (LinkEnd.Right own peer) := settled
  refine triple_bind settled fun _ => triple_bind attempted fun _ => ?_
  exact triple_modify fun _ before =>
    ⟨before.1.sent, ⟨rfl, before.2⟩, before.1.requests⟩

theorem enter_right (phase : LinkPhase) :
    Keeps (LinkEnd.Right own peer) (enter phase) :=
  keeps_modify fun _ right => ⟨right.sent, right.requests⟩

theorem attempt_enter_right (phase : LinkPhase) :
    Keeps (LinkEnd.Right own peer) (do attempt; enter phase) :=
  keeps_bind attempt_right fun _ => enter_right phase

theorem restoreLink_right : Keeps (LinkEnd.Right own peer) restoreLink := by
  refine keeps_bind (attempt_enter_right _) fun _ => ?_
  refine keeps_bind routingState_right fun _ => keeps_bind keeps_get fun s => ?_
  refine keeps_bind (keeps_when ?_) fun _ => ?_
  · exact keeps_bind routingState_right fun _ => slClearBuffersReq_right
  · exact keeps_bind routingState_right fun _ =>
      keeps_when (attempt_enter_right _)

theorem failLink_right : Keeps (LinkEnd.Right own peer) failLink := by
  refine keeps_bind keeps_get fun s => keeps_ite ?_ restoreLink_right
  refine keeps_bind (attempt_enter_right _) fun _ => ?_
  refine keeps_bind routingState_right fun _ => ?_
  refine keeps_bind (keeps_when routingState_right) fun _ => ?_
  refine keeps_bind routingState_right fun _ => ?_
  refine keeps_bind (attempt_enter_right _) fun _ => ?_
  exact keeps_modify fun _ right => ⟨right.sent, right.requests⟩

theorem slStopRestore_right : Keeps (LinkEnd.Right own peer) slStopRestore := by
  refine keeps_bind keeps_get fun s => ?_
  cases s.phase with
  | windInsi =>
      exact keeps_bind (attempt_enter_right _) fun _ => routingState_right
  | wconRet => exact keeps_bind routingState_right fun _ => failLink_right
  | procOutg => exact failLink_right
  | is => exact failLink_right
  | wackSltm => exact restoreLink_right
  | _ => exact keeps_throw _

theorem slOutOfServiceInd_right :
    Keeps (LinkEnd.Right own peer) slOutOfServiceInd := by
  refine keeps_bind keeps_get fun s => ?_
  cases s.phase with
  | windInsi | is | procOutg | wackSltm => exact slStopRestore_right
  | _ => exact keeps_throw _

theorem slRtbClearedInd_right :
    Keeps (LinkEnd.Right own peer) slRtbClearedInd := by
  refine keeps_bind keeps_get fun s => ?_
  cases s.phase with
  | windClrb => exact enter_right _
  | wconRet => exact keeps_pure _
  | _ => exact keeps_throw _

theorem slRetrievalCompleteInd_right :
    Keeps (LinkEnd.Right own peer) slRetrievalCompleteInd := by
  refine keeps_bind keeps_get fun s => ?_
  exact keeps_bind (keeps_when (keeps_throw _)) fun _ => slStopRestore_right

theorem slBsntInd_right (bsnt : BitVec 32) :
    Keeps (LinkEnd.Right (some bsnt) peer) (slBsntInd bsnt) := by
  have reported : Reported (some bsnt) (sevenBits bsnt) := ⟨bsnt, rfl, rfl⟩
  refine keeps_bind keeps_get fun s => ?_
  refine keeps_bind (keeps_when (keeps_throw _)) fun _ => ?_
  refine keeps_bind (keeps_modify fun _ right =>
    ⟨right.sent, right.requests⟩) fun _ => ?_
  refine keeps_ite ?_ ?_
  · refine keeps_bind (sendOrder_right (.inr reported)) fun _ => ?_
    refine keeps_bind (keeps_when slClearRtbReq_right) fun _ => ?_
    refine keeps_bind routingState_right fun _ => ?_
    exact retrieve_right fun _ => trivial
  · exact keeps_bind (sendOrder_right reported) fun _ => enter_right _

theorem slBsntNotRetrievableInd_right :
    Keeps (LinkEnd.Right own peer) slBsntNotRetrievableInd := by
  refine keeps_bind keeps_get fun s => ?_
  refine keeps_bind (keeps_when (keeps_throw _)) fun _ => ?_
  refine keeps_bind (keeps_modify fun _ right =>
    ⟨right.sent, right.requests⟩) fun _ => ?_
  refine keeps_ite ?_ ?_
  · refine keeps_bind (sendOrder_right trivial) fun _ => keeps_ite ?_ ?_
    · refine triple_bind slClearRtbReq_cleared fun _ => ?_
      refine triple_bind (triple_modify fun _ cleared => ?_) fun _ =>
        retrieve_unnumbered
      exact ⟨⟨cleared.1.sent, cleared.1.requests⟩, cleared.2⟩
    · refine keeps_bind routingState_right fun _ => ?_
      exact retrieve_right fun _ => trivial
  · exact keeps_bind (sendOrder_right trivial) fun _ => enter_right _

theorem answer_right : Keeps (LinkEnd.Right own peer) answer := by
  refine keeps_bind keeps_get fun s => keeps_ite ?_ ?_
  · exact sendOrder_right (.inl rfl)
  · exact sendOrder_right trivial

theorem mtpRecvCoo_right {fsnl : BitVec 32} (reported : Reported peer fsnl) :
    Keeps (LinkEnd.Right own peer) (mtpRecvCoo fsnl) := by
  refine keeps_bind keeps_get fun s => ?_
  cases s.phase with
  | windInsi | is | procOutg | wackSltm => exact slStopRestore_right
  | windBsnt => exact keeps_modify fun _ right => ⟨right.sent, right.requests⟩
  | wackCoo | wackEco =>
      refine keeps_bind answer_right fun _ => ?_
      refine keeps_bind routingState_right fun _ => ?_
      exact retrieve_right fun _ => reported
  | wconRet => exact answer_right
  | oos | windClrb => exact keeps_pure _

theorem mtpRecvCoa_right {fsnl : BitVec 32} {stored : Bool}
    (right : stored = true ∨ Reported peer fsnl) :
    Keeps (LinkEnd.Right own peer) (mtpRecvCoa fsnl stored) := by
  refine keeps_bind keeps_get fun s => keeps_when ?_
  refine keeps_bind slClearRtbReq_right fun _ => ?_
  refine keeps_bind routingState_right fun _ => retrieve_right fun _ => ?_
  cases stored with
  | true => trivial
  | false => exact right.resolve_left Bool.false_ne_true

theorem mtpRecvEco_right : Keeps (LinkEnd.Right own peer) mtpRecvEco := by
  refine keeps_bind keeps_get fun s => ?_
  cases s.phase with
  | windInsi | is | procOutg | wackSltm => exact slStopRestore_right
  | windBsnt => exact keeps_modify fun _ right => ⟨right.sent, right.requests⟩
  | wackCoo | wackEco =>
      refine keeps_bind answer_right fun _ => ?_
      exact triple_bind slClearRtbReq_cleared fun _ => retrieve_unnumbered
  | wconRet => exact answer_right
  | oos | windClrb => exact keeps_pure _

theorem mtpRecvEca_right : Keeps (LinkEnd.Right own peer) mtpRecvEca := by
  refine keeps_bind keeps_get fun s => keeps_when ?_
  exact triple_bind slClearRtbReq_cleared fun _ => retrieve_unnumbered

theorem receive_right {order : Order} (right : order.Right peer) :
    Keeps (LinkEnd.Right own peer) (receive order) := by
  cases order with
  | coo fsnl => exact mtpRecvCoo_right right
  | coa fsnl stored => exact mtpRecvCoa_right right
  | eco => exact mtpRecvEco_right
  | eca => exact mtpRecvEca_right

theorem perform_right (e : Event) :
    Keeps (LinkEnd.Right own peer) (e.perform own) := by
  cases e with
  | fails => exact slOutOfServiceInd_right
  | reports =>
      cases own with
      | none => exact slBsntNotRetrievableInd_right
      | some bsnt => exact slBsntInd_right bsnt
  | cleared => exact slRtbClearedInd_right
  | completes => exact slRetrievalCompleteInd_right

end Keeping

section Runs

variable {bsnt : Party → Option (BitVec 32)} {start pair : Pair}

def Pair.Right (bsnt : Party → Option (BitVec 32)) (pair : Pair) : Prop :=
  ∀ p, (pair p).Right (bsnt p) (bsnt p.peer)

theorem update_right (right : pair.Right bsnt) (p : Party) {m : EndM Unit}
    (keeps : Keeps (LinkEnd.Right (bsnt p) (bsnt p.peer)) m) :
    Pair.Right bsnt (Function.update pair p (m.after (pair p))) := by
  intro q
  by_cases same : q = p
  · subst same
    rw [Function.update_self]
    exact triple_after keeps (right q)
  · rw [Function.update_of_ne same]
    exact right q

/-- In every state of an exchange that begins with no message and no request,
each request for retrieval that was made for the number in a changeover order,
or in an acknowledgement sent at a report of level 2, has the number that the
other end's level 2 reported, and each that was made for a message without a
number follows a request to clear the retransmission buffer and has none. -/
theorem exchanges_right (bsnt : Party → Option (BitVec 32)) (start pair : Pair)
    (fresh : ∀ p, (start p).sent = [] ∧ (start p).requests = [])
    (run : Exchanges bsnt start pair) :
    ∀ p, RequestsRight (bsnt p.peer) (pair p).requests := by
  have right : pair.Right bsnt := by
    induction run with
    | start =>
        intro p
        obtain ⟨sent, requests⟩ := fresh p
        refine ⟨fun order member => ?_, ?_⟩
        · rw [sent] at member
          exact nomatch member
        · rw [requests]
          trivial
    | event p e _ ih => exact update_right ih p (perform_right e)
    | arrives p order _ member ih =>
        exact update_right ih p (receive_right ((ih p.peer).sent order member))
  exact fun p => (right p).requests

def LinkEnd.inService : LinkEnd where
  phase := .is
  carries := true
  blocked := false
  suspended := false
  cooRecv := false
  ecoRecv := false
  fsnc := 0
  bsnt := 0
  room := []
  sent := []
  requests := []

def Pair.inService : Pair := fun _ => .inService

def Pair.perform (bsnt : Party → Option (BitVec 32)) (p : Party) (e : Event)
    (pair : Pair) : Pair :=
  Function.update pair p ((e.perform (bsnt p)).after (pair p))

def Pair.receive (p : Party) (order : Order) (pair : Pair) : Pair :=
  Function.update pair p ((Mtp3.receive order).after (pair p))

def Pair.failed (bsnt : Party → Option (BitVec 32)) : Pair :=
  Pair.inService.perform bsnt .near .fails |>.perform bsnt .near .reports
    |>.perform bsnt .far .fails |>.perform bsnt .far .reports

theorem exchanges_failed (bsnt : Party → Option (BitVec 32)) :
    Exchanges bsnt .inService (.failed bsnt) :=
  .event .far .reports (.event .far .fails (.event .near .reports
    (.event .near .fails .start)))

/-- `near` accepted number 5 last and `far` number 9. -/
def bothReport : Party → Option (BitVec 32)
  | .near => some 5
  | .far => some 9

/-- Level 2 of `far` cannot tell. -/
def oneReports : Party → Option (BitVec 32)
  | .near => some 5
  | .far => none

theorem exchanges_right_orders :
    let pair := (Pair.failed bothReport).receive .near (.coo 9)
    (pair .near).requests = [.retrieve .coo 9] ∧
      RequestsRight (some 9) (pair .near).requests := by
  have run : Exchanges bothReport .inService
      ((Pair.failed bothReport).receive .near (.coo 9)) :=
    .arrives .near (.coo 9) (exchanges_failed bothReport) (by decide)
  exact ⟨by decide, exchanges_right bothReport _ _ (fun _ => ⟨rfl, rfl⟩) run
    .near⟩

theorem exchanges_fails :
    (∃ pair, Exchanges bothReport .inService pair ∧
      (pair .far).requests = [.retrieve .stored 0]) ∧
    ∃ pair, Exchanges oneReports .inService pair ∧
      (pair .far).sent = [.eco] ∧
      (pair .near).requests = [.retrieve .unnumbered (-1), .clearRtb] := by
  have ordered : Exchanges bothReport .inService
      (Pair.inService.perform bothReport .near .fails
        |>.perform bothReport .near .reports
        |>.perform bothReport .far .fails |>.receive .far (.coo 5)) :=
    .arrives .far (.coo 5) (.event .far .fails (.event .near .reports
      (.event .near .fails .start))) (by decide)
  have emergency : Exchanges oneReports .inService
      ((Pair.failed oneReports).receive .near .eco) :=
    .arrives .near .eco (exchanges_failed oneReports) (by decide)
  exact ⟨⟨_, .event .far .reports ordered, by decide⟩,
    ⟨_, emergency, by decide, by decide⟩⟩

end Runs

end OpenSS7.Mtp3
