import OpenSS7.Sctp.Cookie

/-!
The numbers of streams two endpoints agree on when one opens an association
with INIT and the other answers it from its cookie.
-/

namespace OpenSS7.Sctp

structure Endpoint where
  nIstr : UInt16
  nOstr : UInt16
  maxIstr : UInt16
  reqOstr : UInt16
deriving DecidableEq

structure Init where
  nIstr : UInt16
  nOstr : UInt16
deriving DecidableEq

def sctpSendInit (sp : Endpoint) : Init where
  nIstr := sp.maxIstr
  nOstr := sp.reqOstr

def negotiate (own offered : UInt16) : UInt16 :=
  if own ≠ 0 ∧ own ≤ offered then own else offered

/-- `istrs` and `ostrs` of `sctp_recv_init`, unless it goes to
`invalid_parm`. -/
def sctpRecvInit (sp : Endpoint) (m : Init) : Option (UInt16 × UInt16) :=
  if m.nIstr = 0 ∨ m.nOstr = 0 then none
  else
    let istrs := negotiate sp.nIstr m.nIstr
    let ostrs := negotiate sp.nOstr m.nOstr
    if istrs = 0 ∨ ostrs = 0 then none else some (istrs, ostrs)

def sctpSendInitAck (ck : Cookie) : Init where
  nIstr := ck.nIstr
  nOstr := ck.nOstr

def sctpRecvInitAck (sp : Endpoint) (m : Init) : Option Endpoint :=
  if m.nOstr = 0 ∨ m.nIstr = 0 ∨ sp.maxIstr < m.nOstr then none
  else some { sp with nOstr := m.nOstr, nIstr := m.nIstr }

def sctpUpdateFromCookie (sp : Endpoint) (ck : Cookie) : Endpoint :=
  { sp with nIstr := ck.nIstr, nOstr := ck.nOstr }

/-- The test that sends a DATA chunk to `badstream`. -/
def Endpoint.badstream (sp : Endpoint) (sid : UInt16) : Bool := sp.nIstr ≤ sid

structure Arrival where
  settings : CookieSettings
  jiffies : ULong
  ckInc : UInt32
  rest : List UInt8

/-- INIT from `a`, INIT-ACK and the cookie from `b`, and the cookie back: both
ends of the association, if it is established. -/
def establish (arrival : Arrival) (a b : Endpoint) :
    Option (Endpoint × Endpoint) := do
  let (istrs, ostrs) ← sctpRecvInit b (sctpSendInit a)
  let ck := sctpInitCookie arrival.settings arrival.jiffies arrival.ckInc istrs
    ostrs arrival.rest
  let a ← sctpRecvInitAck a (sctpSendInitAck ck)
  return (a, sctpUpdateFromCookie b ck)

def Endpoint.Agree (a b : Endpoint) : Prop :=
  (a.nOstr ≤ b.nIstr ∧ b.nOstr ≤ a.nIstr) ∧
    ∀ sid, (sid < a.nOstr → b.badstream sid = false) ∧
      (sid < b.nOstr → a.badstream sid = false)

variable {arrival : Arrival} {a b a' b' : Endpoint}

theorem agree_iff (a b : Endpoint) :
    a.Agree b ↔ a.nOstr ≤ b.nIstr ∧ b.nOstr ≤ a.nIstr := by
  constructor
  · exact And.left
  · intro within
    refine ⟨within, fun sid => ⟨fun below => ?_, fun below => ?_⟩⟩
    · apply decide_eq_false
      exact UInt16.not_le.2 (UInt16.lt_of_lt_of_le below within.1)
    · apply decide_eq_false
      exact UInt16.not_le.2 (UInt16.lt_of_lt_of_le below within.2)

theorem establish_some (done : establish arrival a b = some (a', b')) :
    negotiate b.nOstr a.reqOstr ≤ a.maxIstr ∧
      a'.nIstr = negotiate b.nIstr a.maxIstr ∧
      a'.nOstr = negotiate b.nOstr a.reqOstr ∧
      b'.nIstr = a'.nIstr ∧ b'.nOstr = a'.nOstr := by
  unfold establish at done
  obtain ⟨⟨istrs, ostrs⟩, received, done⟩ := Option.bind_eq_some_iff.1 done
  obtain ⟨opened, answered, done⟩ := Option.bind_eq_some_iff.1 done
  cases done
  unfold sctpRecvInit at received
  split at received
  case isTrue => cases received
  case isFalse =>
    simp only at received
    split at received
    case isTrue => cases received
    case isFalse =>
      cases received
      unfold sctpRecvInitAck at answered
      split at answered
      case isTrue => cases answered
      case isFalse accepted =>
        cases answered
        refine ⟨?_, rfl, rfl, rfl, rfl⟩
        exact UInt16.not_lt.1 fun above => accepted (.inr (.inr above))

theorem le_negotiate_iff (own offered n : UInt16) (within : n ≤ offered) :
    n ≤ negotiate own offered ↔ own = 0 ∨ n ≤ own := by
  unfold negotiate
  split
  case isTrue set => simp [set.1]
  case isFalse unset =>
    refine ⟨fun _ => ?_, fun _ => within⟩
    by_cases zero : own = 0
    · exact .inl zero
    · right
      have above := UInt16.not_le.1 fun below => unset ⟨zero, below⟩
      exact UInt16.le_of_lt (UInt16.lt_of_le_of_lt within above)

theorem negotiate_le_iff (own offered n : UInt16) :
    negotiate own offered ≤ n ↔ offered ≤ n ∨ own ≠ 0 ∧ own ≤ n := by
  unfold negotiate
  split
  case isTrue set =>
    refine ⟨fun below => .inr ⟨set.1, below⟩, ?_⟩
    rintro (below | below)
    · exact UInt16.le_trans set.2 below
    · exact below.2
  case isFalse unset =>
    refine ⟨.inl, ?_⟩
    rintro (below | ⟨own, below⟩)
    · exact below
    · have above := UInt16.not_le.1 fun within => unset ⟨own, within⟩
      exact UInt16.le_trans (UInt16.le_of_lt above) below

theorem streams_agree_iff (arrival : Arrival) (a b a' b' : Endpoint)
    (done : establish arrival a b = some (a', b')) :
    a'.Agree b' ↔
      b.nIstr = 0 ∨ a.reqOstr ≤ b.nIstr ∨
        b.nOstr ≠ 0 ∧ b.nOstr ≤ b.nIstr := by
  obtain ⟨within, istrs, ostrs, istrs', ostrs'⟩ := establish_some done
  rw [agree_iff, istrs', ostrs', and_self, istrs, ostrs,
    le_negotiate_iff _ _ _ within, negotiate_le_iff]

theorem streams_agree_iff_equal :
    let arrival : Arrival := ⟨⟨6000, 0, 300, 100, .sha1⟩, 1, 0, []⟩
    let a : Endpoint := ⟨0, 0, 10, 10⟩
    let b : Endpoint := ⟨10, 10, 10, 10⟩
    let a' : Endpoint := ⟨10, 10, 10, 10⟩
    establish arrival a b = some (a', b) ∧ a'.Agree b :=
  ⟨by decide, (streams_agree_iff ⟨⟨6000, 0, 300, 100, .sha1⟩, 1, 0, []⟩
    ⟨0, 0, 10, 10⟩ ⟨10, 10, 10, 10⟩ _ _ (by decide)).2 (by decide)⟩

-- the passive end, set to five inbound streams, may be sent to on five more
theorem streams_disagree :
    let arrival : Arrival := ⟨⟨6000, 0, 300, 100, .sha1⟩, 1, 0, []⟩
    let a : Endpoint := ⟨0, 0, 10, 10⟩
    let b : Endpoint := ⟨5, 0, 10, 10⟩
    ∃ a' b', establish arrival a b = some (a', b') ∧
      a'.nOstr = 10 ∧ b'.nIstr = 5 ∧ b'.badstream 7 = true ∧
      ¬ a'.Agree b' :=
  ⟨⟨5, 10, 10, 10⟩, ⟨5, 10, 10, 10⟩, by decide, rfl, rfl, by decide,
    fun agree => absurd agree.1.1 (by decide)⟩

end OpenSS7.Sctp
