import OpenSS7.Sctp.Cookie
import OpenSS7.Sctp.Registration

/-!
What a COOKIE-ECHO chunk does to a stream: the action that the tags of its
cookie choose, and the cookies whose lifetime is over.
-/

namespace OpenSS7.Sctp

/-- The fields of a cookie that are compared; they stand among the octets in
`rest`. -/
structure CookieFields where
  vTag : Tag
  pTag : Tag
  lTtag : Tag
  pTtag : Tag
  daddr : BitVec 32
  saddr : BitVec 32
  dport : BitVec 16
  sport : BitVec 16
deriving DecidableEq

/-- What `sctp_update_from_cookie` returns, and whether the stream has been
hashed by then. -/
structure Update where
  err : Int
  hashed : Bool

structure EchoOutcomes where
  fits : Bool
  /-- The result of `memcmp` where it finds a difference. -/
  differs : Int
  abort : Bool
  connInd : Option Int
  update : Update
  resetInd : Option Int
  connCon : Option Int
  /-- `sctp_return_more(mp) > 0` -/
  more : Bool
  /-- `sctp_recv_msg_slow` for the chunks behind. -/
  receive : Stream → Stream
  shutdownAck : Means
  /-- `sctp_return_stop(mp)` -/
  stop : Int
  cookieAck : Bool
  keeps : ∀ s, s.deeds <+: (receive s).deeds

inductive Action where
  | listen
  | a
  | b
  | c
  | d
  | p
  | discard
deriving DecidableEq

def Stream.action (s : Stream) (ck : CookieFields) : Action :=
  if s.vTag = 0 then .listen
  else if ck.vTag ≠ s.vTag then
    if ck.pTag ≠ s.pTag then
      if ck.lTtag = s.vTag ∧ ck.pTtag = s.pTag then .a
      else if ck.lTtag = 0 ∧ ck.pTtag = 0 then .p
      else .discard
    else if ck.lTtag = 0 ∧ ck.pTtag = 0 then .c
    else .discard
  else if s.pTag = 0 ∨ s.state = .cookieWait ∨ s.state = .cookieEchoed then .b
  else if ck.pTag ≠ s.pTag then .b
  else .d

def CookieFields.repeats (ck co : CookieFields) : Bool :=
  co.vTag = ck.vTag || (co.dport = ck.dport && co.sport = ck.sport &&
    co.daddr = ck.daddr && co.saddr = ck.saddr)

namespace Stream

variable (o : EchoOutcomes) (stale : Bool) (s : Stream) (ck : CookieFields)

def sctpUpdateFromCookie : Stream × Int :=
  (if o.update.err = 0 ∨ o.update.hashed = true then s.sctpConnHash else s,
    o.update.err)

def receiveMore : Stream := if o.more then o.receive s else s

/-- `recv_cookie_echo_listen`: the lifetime is not looked at. -/
def echoListen (conq : List CookieFields) : Stream × Int :=
  if s.conind then
    if conq.any ck.repeats then (s, 0)
    else if s.rq then
      match o.connInd with
      | some err => if err = 0 then (s.log .connInd, 0) else (s, err)
      | none => (s, -efault)
    else (s, -efault)
  else (s, 0)

/-- `recv_cookie_echo_action_a` -/
def echoA : Stream × Int :=
  if stale then (s, -etimedout)
  else
    match s.state with
    | .shutdownAckSent =>
        ((s.sctpSendAbortError o.abort).sctpSendShutdownAck o.shutdownAck,
          o.stop)
    | .established | .shutdownPending | .shutdownSent | .shutdownReceived
    | .shutdownRecvwait =>
        let s := s.sctpSendAbort o.abort
        if s.rq then
          let s := { s.sctpReset with vTag := ck.vTag, pTag := ck.pTag }
          let (s, err) := s.sctpUpdateFromCookie o
          if err ≠ 0 then (s.sctpAbort, err)
          else
            let (s, err) := s.establish.sctpResetInd o.resetInd
            if err ≠ 0 then (s, err)
            else ((s.receiveMore o).sctpSendCookieAck o.cookieAck, 0)
        else (s.sctpAbort, -econnreset)
    | _ => (s, -efault)

/-- `recv_cookie_echo_action_d` -/
def echoD : Stream × Int :=
  match s.state with
  | .cookieWait | .cookieEchoed =>
      let (s, err) := s.sctpConnCon o.connCon
      if err ≠ 0 then (s, err)
      else ((s.receiveMore o).sctpSendCookieAck o.cookieAck, 0)
  | .established => ((s.receiveMore o).sctpSendCookieAck o.cookieAck, 0)
  | _ => (s, 0)

def retag : Stream := { s with pTag := ck.pTag, phash := true }.log .retagged

/-- `recv_cookie_echo_action_b` -/
def echoB : Stream × Int :=
  if stale then (s, -etimedout)
  else
    match s.state with
    | .cookieWait | .cookieEchoed =>
        let (s, err) := s.sctpUnhash.sctpUpdateFromCookie o
        if err ≠ 0 then (s.sctpAbort, err) else (s.retag ck).echoD o
    | .established => (s.retag ck).echoD o
    | _ => (s, -efault)

/-- `recv_cookie_echo_action_p` -/
def echoP : Stream × Int :=
  if stale then (s, -etimedout)
  else
    match s.state with
    | .cookieWait =>
        { s.vhashUnhash with vTag := ck.vTag }.vhashInsert.echoB o stale ck
    | .cookieEchoed => s.echoB o stale { ck with vTag := s.vTag }
    | _ => (s, 0)

def echo (conq : List CookieFields) : Stream × Int :=
  match s.action ck with
  | .listen => s.echoListen o ck conq
  | .a => s.echoA o stale ck
  | .b => s.echoB o stale ck
  | .c => if stale then (s, -etimedout) else (s, 0)
  | .d => s.echoD o
  | .p => s.echoP o stale ck
  | .discard => (s, 0)

end Stream

section Receiving

variable (digests : Digests) (settings : CookieSettings)
  (fields : List UInt8 → CookieFields)

/-- `sctp_recv_cookie_echo`; `conq` holds the cookies of the connection
indications that wait. -/
def sctpRecvCookieEcho (o : EchoOutcomes) (keys : Keys) (jiffies : ULong)
    (s : Stream) (conq : List CookieFields) (ck : SignedCookie) :
    Stream × Int :=
  if !o.fits then (s, -emsgsize)
  else if !sctpVerifyCookie digests settings keys ck then (s, o.differs)
  else s.echo o (ck.stale jiffies) (fields ck.rest) conq

end Receiving

def Cookie.expired (ck : Cookie) (jiffies : ULong) : Bool :=
  ck.lifespan < jiffies - ck.timestamp

namespace Stream

structure Refused (s s' : Stream) : Prop where
  deeds : s'.deeds = s.deeds
  state : s'.state = s.state
  vTag : s'.vTag = s.vTag
  pTag : s'.pTag = s.pTag

def works : Action → State → Bool
  | .a, .established | .a, .shutdownPending | .a, .shutdownSent
  | .a, .shutdownReceived | .a, .shutdownRecvwait => true
  | .b, .cookieWait | .b, .cookieEchoed | .b, .established => true
  | .p, .cookieWait | .p, .cookieEchoed => true
  | _, _ => false

def Accepts (o : EchoOutcomes) (stale : Bool) (s : Stream) (ck : CookieFields)
    (conq : List CookieFields) : Prop :=
  (s.action ck = .listen ∧ s.conind = true ∧ conq.any ck.repeats = false ∧
    s.rq = true ∧ o.connInd = some 0) ∨
  (stale = false ∧ works (s.action ck) s.state = true)

def Matches (s : Stream) (ck : CookieFields) : Prop :=
  s.vTag ≠ 0 ∧ ck.vTag = s.vTag ∧ ck.pTag = s.pTag

section Records

variable {s s' s'' : Stream} {o : EchoOutcomes} {deed : Deed}

def Follows (s s' : Stream) : Prop := s.deeds <+: s'.deeds

theorem Follows.rfl : Follows s s := List.prefix_rfl

theorem Follows.trans (first : Follows s s') (second : Follows s' s'') :
    Follows s s'' :=
  List.IsPrefix.trans first second

theorem follows_log : Follows s (s.log deed) := List.prefix_append _ _

theorem follows_establish : Follows s s.establish := follows_log

theorem follows_sctpReset : Follows s s.sctpReset := by
  unfold Follows
  rw [deeds_sctpReset]
  exact List.prefix_append _ _

theorem follows_sctpAbort : Follows s s.sctpAbort := by
  unfold sctpAbort
  split
  · exact .rfl
  · exact follows_sctpReset

theorem follows_sctpRouteNormal (route : Bool) :
    Follows s (s.sctpRouteNormal route) := by
  unfold sctpRouteNormal
  split
  · exact follows_sctpAbort
  · exact .rfl

theorem follows_sctpUpdateFromCookie :
    Follows s (s.sctpUpdateFromCookie o).1 := by
  unfold sctpUpdateFromCookie
  split <;> exact .rfl

theorem follows_sctpResetInd (resetInd : Option Int) :
    Follows s (s.sctpResetInd resetInd).1 := by
  unfold sctpResetInd
  split
  · split
    · exact follows_log
    · exact follows_sctpAbort
  · exact .rfl

theorem follows_sctpConnCon (connCon : Option Int) :
    Follows s (s.sctpConnCon connCon).1 := by
  unfold sctpConnCon
  dsimp only
  split
  · split
    · exact .rfl
    · exact follows_establish.trans follows_log
  · exact .rfl

theorem follows_sctpSendCookieAck (route : Bool) :
    Follows s (s.sctpSendCookieAck route) := by
  unfold sctpSendCookieAck
  split
  · exact follows_establish
  · exact follows_sctpRouteNormal route

theorem follows_receiveMore : Follows s (s.receiveMore o) := by
  unfold receiveMore
  split
  · exact o.keeps s
  · exact .rfl

theorem follows_answer :
    Follows s ((s.receiveMore o).sctpSendCookieAck o.cookieAck) :=
  follows_receiveMore.trans (follows_sctpSendCookieAck _)

theorem follows_echoD : Follows s (s.echoD o).1 := by
  have confirms : Follows s (match s.sctpConnCon o.connCon with
      | (s, err) =>
          if err ≠ 0 then (s, err)
          else ((s.receiveMore o).sctpSendCookieAck o.cookieAck, 0)).1 := by
    dsimp only
    split
    · exact follows_sctpConnCon _
    · exact (follows_sctpConnCon _).trans follows_answer
  unfold echoD
  split
  · exact confirms
  · exact confirms
  · exact follows_answer
  · exact .rfl

theorem not_refused (follows : Follows (s.log deed) s') : ¬ Refused s s' := by
  intro refused
  have longer := follows.length_le
  rw [refused.deeds] at longer
  unfold log at longer
  rw [List.length_append] at longer
  exact absurd longer (by simp)

theorem refused_rfl : Refused s s := ⟨rfl, rfl, rfl, rfl⟩

theorem echoListen_refused_iff (o : EchoOutcomes) (s : Stream)
    (ck : CookieFields) (conq : List CookieFields) :
    Refused s (s.echoListen o ck conq).1 ↔
      ¬ (s.conind = true ∧ conq.any ck.repeats = false ∧ s.rq = true ∧
        o.connInd = some 0) := by
  unfold echoListen
  split
  · next conind =>
      split
      · next repeated => simp [refused_rfl, repeated]
      · next single =>
          split
          · next rq =>
              split
              · next err offered =>
                  by_cases taken : err = 0
                  · rw [if_pos taken]
                    exact iff_of_false (not_refused .rfl) (by simp_all)
                  · rw [if_neg taken]
                    exact iff_of_true refused_rfl (by simp_all)
              · next none => exact iff_of_true refused_rfl (by simp_all)
          · next rq => exact iff_of_true refused_rfl (by simp_all)
  · next conind => exact iff_of_true refused_rfl (by simp_all)

theorem sctpSendAbort_works {s : Stream} (route : Bool)
    (working : works .a s.state = true) :
    s.sctpSendAbort route = s.sctpChangeState s.idle := by
  unfold sctpSendAbort sctpRouteNormal disconnect
  revert working
  cases state : s.state <;> simp [works, State.needabort, State.connected,
    State.opening, State.disconnected, state]

theorem idle_ne_works {s : Stream} {state : State}
    (working : works .a state = true) : s.idle ≠ state := by
  rintro rfl
  revert working
  unfold idle
  cases s.conind <;> decide

def restart (o : EchoOutcomes) (s : Stream) (ck : CookieFields) :
    Stream × Int :=
  let s := { s.sctpReset with vTag := ck.vTag, pTag := ck.pTag }
  let (s, err) := s.sctpUpdateFromCookie o
  if err ≠ 0 then (s.sctpAbort, err)
  else
    let (s, err) := s.establish.sctpResetInd o.resetInd
    if err ≠ 0 then (s, err)
    else ((s.receiveMore o).sctpSendCookieAck o.cookieAck, 0)

theorem echoA_works (o : EchoOutcomes) (s : Stream) (ck : CookieFields)
    (working : works .a s.state = true) :
    s.echoA o false ck =
      if s.rq then restart o (s.sctpChangeState s.idle) ck
      else ((s.sctpChangeState s.idle).sctpAbort, -econnreset) := by
  have aborted := sctpSendAbort_works o.abort working
  unfold echoA
  revert working aborted
  cases state : s.state
  case established | shutdownPending | shutdownSent | shutdownReceived |
      shutdownRecvwait =>
    intro _ aborted
    simp only [aborted]
    rfl
  all_goals exact fun working => absurd working (by decide)

theorem follows_restart (o : EchoOutcomes) (s : Stream) (ck : CookieFields) :
    Follows (s.log .reset) (restart o s ck).1 := by
  have reset : Follows (s.log .reset)
      { s.sctpReset with vTag := ck.vTag, pTag := ck.pTag } := by
    unfold Follows
    rw [deeds_sctpReset]
    exact List.prefix_rfl
  have updated := reset.trans (follows_sctpUpdateFromCookie (o := o))
  unfold restart
  dsimp only
  split
  · exact updated.trans follows_sctpAbort
  · have notified := (updated.trans follows_establish).trans
      (follows_sctpResetInd o.resetInd)
    split
    · exact notified
    · exact notified.trans follows_answer

theorem echoA_refused_iff (o : EchoOutcomes) (stale : Bool) (s : Stream)
    (ck : CookieFields) :
    Refused s (s.echoA o stale ck).1 ↔
      ¬ (stale = false ∧ works .a s.state = true) := by
  cases stale with
  | true => exact iff_of_true refused_rfl (by simp)
  | false =>
      by_cases working : works .a s.state = true
      · refine iff_of_false ?_ (by simp [working])
        rw [echoA_works o s ck working]
        split
        · exact not_refused (follows_restart o _ ck)
        · intro refused
          have state : (s.sctpChangeState s.idle).sctpAbort.state =
              s.idle := by
            unfold sctpAbort
            split
            · rfl
            · exact state_sctpReset
          exact idle_ne_works working (state.symm.trans refused.state)
      · refine iff_of_true ?_ (by simp [working])
        unfold echoA
        cases state : s.state
        case shutdownAckSent =>
          have still : s.sctpSendAbortError o.abort = s := by
            simp [sctpSendAbortError, state, State.needabort]
          simp only [Bool.false_eq_true, if_false, still]
          unfold sctpSendShutdownAck sctpRouteNormal
          split
          · exact ⟨rfl, state.symm, rfl, rfl⟩
          · simp only [state, State.opening, Bool.false_eq_true, and_false,
              if_false]
            exact refused_rfl
        case established | shutdownPending | shutdownSent | shutdownReceived |
            shutdownRecvwait =>
          rw [state] at working
          exact absurd rfl working
        all_goals exact refused_rfl

theorem follows_echoB (o : EchoOutcomes) (s : Stream) (ck : CookieFields)
    (working : works .b s.state = true) :
    ∃ deed, Follows (s.log deed) (s.echoB o false ck).1 := by
  have retagged : Follows (s.log .retagged) ((s.retag ck).echoD o).1 := by
    have same : Follows (s.log .retagged) (s.retag ck) := List.prefix_rfl
    exact same.trans follows_echoD
  have opening (waiting : s.state ≠ .listen) :
      ∃ deed, Follows (s.log deed)
        (match s.sctpUnhash.sctpUpdateFromCookie o with
        | (s, err) =>
            if err ≠ 0 then (s.sctpAbort, err)
            else (s.retag ck).echoD o).1 := by
    have updated : ∀ t, t = (s.sctpUnhash.sctpUpdateFromCookie o).1 →
        t.deeds = s.deeds ∧ t.state = s.state := by
      rintro t rfl
      unfold sctpUpdateFromCookie
      split <;> exact ⟨deeds_sctpUnhash, state_sctpUnhash⟩
    obtain ⟨deeds, state⟩ := updated _ rfl
    dsimp only
    split
    · refine ⟨.reset, ?_⟩
      unfold sctpAbort
      rw [if_neg (by rw [state]; exact waiting)]
      unfold Follows log
      rw [deeds_sctpReset, deeds]
    · refine ⟨.retagged, ?_⟩
      refine Follows.trans ?_ follows_echoD
      unfold Follows retag log
      rw [deeds]
  unfold echoB
  revert working
  cases state : s.state
  case cookieWait => exact fun _ => opening (by simp [state])
  case cookieEchoed => exact fun _ => opening (by simp [state])
  case established => exact fun _ => ⟨.retagged, retagged⟩
  all_goals exact fun working => absurd working (by decide)

theorem echoB_refused_iff (o : EchoOutcomes) (stale : Bool) (s : Stream)
    (ck : CookieFields) :
    Refused s (s.echoB o stale ck).1 ↔
      ¬ (stale = false ∧ works .b s.state = true) := by
  cases stale with
  | true => exact iff_of_true refused_rfl (by simp)
  | false =>
      by_cases working : works .b s.state = true
      · obtain ⟨deed, follows⟩ := follows_echoB o s ck working
        exact iff_of_false (not_refused follows) (by simp [working])
      · refine iff_of_true ?_ (by simp [working])
        unfold echoB
        cases state : s.state
        case cookieWait | cookieEchoed | established =>
          rw [state] at working
          exact absurd rfl working
        all_goals exact refused_rfl

theorem echoP_refused_iff (o : EchoOutcomes) (stale : Bool) (s : Stream)
    (ck : CookieFields) :
    Refused s (s.echoP o stale ck).1 ↔
      ¬ (stale = false ∧ works .p s.state = true) := by
  cases stale with
  | true => exact iff_of_true refused_rfl (by simp)
  | false =>
      unfold echoP
      cases state : s.state
      case cookieWait =>
        obtain ⟨deed, follows⟩ := follows_echoB o
          { s.vhashUnhash with vTag := ck.vTag }.vhashInsert ck
          (by simp [vhashUnhash, vhashInsert, state, works])
        exact iff_of_false (not_refused (s := s) follows) (by simp [works])
      case cookieEchoed =>
        obtain ⟨deed, follows⟩ := follows_echoB o s { ck with vTag := s.vTag }
          (by simp [state, works])
        exact iff_of_false (not_refused follows) (by simp [works])
      all_goals exact iff_of_true refused_rfl (by simp [works])

theorem echo_refused_iff (o : EchoOutcomes) (stale : Bool) (s : Stream)
    (ck : CookieFields) (conq : List CookieFields) (other : ¬ Matches s ck) :
    Refused s (s.echo o stale ck conq).1 ↔ ¬ Accepts o stale s ck conq := by
  unfold echo Accepts
  cases chosen : s.action ck with
  | listen =>
      simp only [echoListen_refused_iff]
      simp [works]
  | a => simp [echoA_refused_iff]
  | b => simp [echoB_refused_iff]
  | c =>
      refine iff_of_true ?_ (by simp [works])
      cases stale <;> exact refused_rfl
  | d =>
      refine absurd ?_ other
      unfold action at chosen
      unfold Matches
      grind
  | p => simp [echoP_refused_iff]
  | discard => exact iff_of_true refused_rfl (by simp [works])

end Records

end Stream

section Expired

variable (digests : Digests) (settings : CookieSettings)
  (fields : List UInt8 → CookieFields) (o : EchoOutcomes) (keys : Keys)
  (jiffies : ULong) (s : Stream) (conq : List CookieFields)
  (ck : SignedCookie)

def RefusesExpired : Prop :=
  sctpVerifyCookie digests settings keys ck = true →
    ck.expired jiffies = true → ¬ s.Matches (fields ck.rest) →
    s.Refused (sctpRecvCookieEcho digests settings fields o keys jiffies s conq
      ck).1

theorem refusesExpired_iff :
    RefusesExpired digests settings fields o keys jiffies s conq ck ↔
      ¬ (sctpVerifyCookie digests settings keys ck = true ∧
        ck.expired jiffies = true ∧ ¬ s.Matches (fields ck.rest) ∧
        o.fits = true ∧
        s.Accepts o (ck.stale jiffies) (fields ck.rest) conq) := by
  unfold RefusesExpired sctpRecvCookieEcho
  by_cases verified : sctpVerifyCookie digests settings keys ck = true
  · by_cases fits : o.fits = true
    · simp only [verified, fits, Bool.not_true, Bool.false_eq_true, if_false,
        true_and, forall_const]
      constructor
      · rintro refuses ⟨expired, other, accepts⟩
        exact (Stream.echo_refused_iff o _ s _ conq other).1
          (refuses expired other) accepts
      · intro refuses expired other
        exact (Stream.echo_refused_iff o _ s _ conq other).2
          fun accepts => refuses ⟨expired, other, accepts⟩
    · refine iff_of_true (fun _ _ _ => ?_) (by simp [fits])
      rw [Bool.eq_false_of_not_eq_true fits]
      exact Stream.refused_rfl
  · exact iff_of_true (fun signed => absurd signed verified)
      (by simp [verified])

end Expired

def someListener : Stream where
  state := .listen
  vTag := 0
  pTag := 0
  conind := true
  prev := true
  vhash := none
  phash := false
  rq := true
  deeds := []

def someOutcomes : EchoOutcomes where
  fits := true
  differs := 1
  abort := true
  connInd := some 0
  update := ⟨0, true⟩
  resetInd := some 0
  connCon := some 0
  more := false
  receive := id
  shutdownAck := ⟨true, true⟩
  stop := 0
  cookieAck := true
  keeps := fun _ => List.prefix_rfl

def lateCookie : SignedCookie where
  timestamp := 100
  lifespan := 50
  nIstr := 1
  nOstr := 1
  keyTag := 0
  rest := []
  hmac := .replicate HMAC_SIZE 0xff

def zeroDigests : Digests where
  hmacSha1 := fun _ _ => .replicate 20 0
  hmacMd5 := fun _ _ => .replicate 16 0

theorem lateCookie_indicated :
    ¬ RefusesExpired zeroDigests ⟨60000, 1000, 3000, 1000, .none⟩
      (fun _ => ⟨7, 8, 0, 0, 1, 2, 3, 4⟩) someOutcomes .initial 1000
      someListener [] lateCookie := by
  intro refuses
  have refused := refuses rfl (by decide) (by simp [Stream.Matches,
    someListener])
  exact absurd refused.deeds (by decide)

end OpenSS7.Sctp
