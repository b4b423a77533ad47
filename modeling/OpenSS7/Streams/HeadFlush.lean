import OpenSS7.Streams.Flushband

/-!
M_FLUSH at the stream head: `str_m_flush`, which flushes the queues of the
stream head and turns the message around.
-/

namespace OpenSS7.Streams

def FLUSHR : UInt8 := 0x01
def FLUSHW : UInt8 := 0x02
def FLUSHBAND : UInt8 := 0x04

def M_SIG : Nat := 0x0b

structure FlushMsg where
  /-- From `b_rptr` to `b_wptr`. -/
  octets : List UInt8
  /-- What the memory holds from `b_wptr` on. -/
  behind : List UInt8
  noloop : Bool
deriving DecidableEq

structure FlushHead where
  rq : QState
  wq : QState
  strpri : Bool
  strmsig : Bool

structure Flushing where
  head : FlushHead
  /-- The message passed to `qreply`. -/
  reply : Option FlushMsg
  reads : List Nat

def FlushMsg.octet (mp : FlushMsg) (i : Nat) : UInt8 :=
  (mp.octets ++ mp.behind).getD i 0

def FlushMsg.flag (mp : FlushMsg) (i : Nat) (flag : UInt8) : Bool :=
  mp.octet i &&& flag != 0

/-- `flushband(q, band, FLUSHALL)` or `flushq(q, FLUSHALL)`. -/
def flushEither (fuel : Nat) (s : QState) (banded : Bool) (band : UInt8) :
    Option QState :=
  if banded = true then
    (s.flushband fuel band.toNat .flushall).map Prod.fst
  else
    (s.flushq fuel .flushall).map Prod.fst

namespace FlushHead

def fixBits (head : FlushHead) : FlushHead :=
  if head.strpri || head.strmsig then
    let type := head.rq.q.qFirst.map fun b => (head.rq.heap.msg b).dbType
    { head with
      strpri := head.strpri && type == some M_PCPROTO
      strmsig := head.strmsig && type == some M_SIG }
  else
    head

def flushRead (fuel : Nat) (head : FlushHead) (mp : FlushMsg) :
    Option FlushHead := do
  let rq ← flushEither fuel head.rq (mp.flag 0 FLUSHBAND) (mp.octet 1)
  if mp.flag 0 FLUSHBAND then
    some { head with rq := rq }
  else
    some { head with rq := rq }.fixBits

/-- The part of `str_m_flush` below `We set MSGNOLOOP`. -/
def turn (fuel : Nat) (head : FlushHead) (mp : FlushMsg) (reads : List Nat) :
    Option Flushing :=
  if !mp.noloop && head.wq.q.qNext && mp.flag 0 FLUSHW then do
    let wq ← flushEither fuel head.wq (mp.flag 1 FLUSHBAND) (mp.octet 1)
    some
      { head := { head with wq := wq }
        reply := some { mp with noloop := true }
        reads := reads ++ [1] }
  else
    some { head := head, reply := none, reads := reads }

def strMFlush (fuel : Nat) (head : FlushHead) (mp : FlushMsg) :
    Option Flushing :=
  if mp.flag 0 FLUSHR then do
    let head ← head.flushRead fuel mp
    head.turn fuel
      { mp with octets := mp.octets.modifyHead (· &&& ~~~FLUSHR) }
      (if mp.flag 0 FLUSHBAND then [0, 1] else [0])
  else
    head.turn fuel mp [0]

end FlushHead

namespace FlushMsg

def leaves (mp : FlushMsg) (named : Bool) (l : List Entry) : List Entry :=
  if named = true then
    if mp.flag 0 FLUSHBAND = true then
      bandFlushed (mp.octet 1).toNat .flushall l
    else []
  else l

def turned (mp : FlushMsg) (head : FlushHead) : Bool :=
  !mp.noloop && head.wq.q.qNext && mp.flag 0 FLUSHW

def Formed (mp : FlushMsg) : Prop :=
  mp.octets.length = if mp.flag 0 FLUSHBAND = true then 2 else 1

def reply (mp : FlushMsg) : FlushMsg :=
  { mp with
    octets := mp.octets.modifyHead (· &&& ~~~FLUSHR)
    noloop := true }

end FlushMsg

structure Named (head : FlushHead) (l m : List Entry) (mp : FlushMsg)
    (out : Flushing) : Prop where
  read : WellFormed out.head.rq (mp.leaves (mp.flag 0 FLUSHR) l)
  write : WellFormed out.head.wq (mp.leaves (mp.turned head) m)
  reply : out.reply = if mp.turned head = true then some mp.reply else none
  inside : ∀ i ∈ out.reads, i < mp.octets.length
  strpri : out.head.strpri = true →
    ∃ e ∈ mp.leaves (mp.flag 0 FLUSHR) l, e.msg.dbType = M_PCPROTO
  strmsig : out.head.strmsig = true →
    ∃ e ∈ (mp.leaves (mp.flag 0 FLUSHR) l).head?, e.msg.dbType = M_SIG

def FlushMsg.fixes (mp : FlushMsg) : Bool :=
  mp.flag 0 FLUSHR && !mp.flag 0 FLUSHBAND

structure Fits (head : FlushHead) (l m : List Entry) (mp : FlushMsg) :
    Prop where
  read : mp.flag 0 FLUSHR = true → mp.flag 0 FLUSHBAND = true →
    FlushesBand (mp.octet 1).toNat head.rq.q.qNband .flushall l
  write : mp.turned head = true → mp.flag 0 FLUSHBAND = true ∧
    if mp.flag 1 FLUSHBAND = true then
      FlushesBand (mp.octet 1).toNat head.wq.q.qNband .flushall m
    else bandFlushed (mp.octet 1).toNat .flushall m = []
  strpri : mp.fixes = false → head.strpri = true →
    ∃ e ∈ l, e.msg.dbType = M_PCPROTO
  strmsig : mp.fixes = false → head.strmsig = true →
    ∃ e ∈ (mp.leaves (mp.flag 0 FLUSHR) l).head?, e.msg.dbType = M_SIG

section Either

variable {s : QState} {l : List Entry} {fuel : Nat}

theorem flushEither_all (formed : WellFormed s l) (enough : l.length ≤ fuel)
    (band : UInt8) :
    ∃ s', flushEither fuel s false band = some s' ∧ WellFormed s' [] := by
  obtain ⟨s', chain, done, holds⟩ :=
    QState.flushqLocked_spec formed.toHolds enough .flushall
  refine ⟨s', ?_, holds, QState.flushqLocked_exact formed.toHolds formed.exact done,
    QState.tallied_flushqLocked formed.tallied done⟩
  simp [flushEither, QState.flushq, done]

theorem flushEither_band (formed : WellFormed s l) (enough : l.length ≤ fuel)
    (band : UInt8) :
    (∃ s', flushEither fuel s true band = some s' ∧
      WellFormed s' (bandFlushed band.toNat .flushall l)) ↔
        FlushesBand band.toNat s.q.qNband .flushall l := by
  rw [← QState.flushbandLocked_iff formed enough, ← QState.flushband_locked]
  simp only [flushEither, if_true, Option.map_eq_some_iff]
  constructor
  · rintro ⟨s', ⟨⟨s'', outcome⟩, done, rfl⟩, formed'⟩
    exact ⟨s'', outcome, done, formed'⟩
  · rintro ⟨s', outcome, done, formed'⟩
    exact ⟨s', ⟨(s', outcome), done, rfl⟩, formed'⟩

end Either

section Message

variable {mp : FlushMsg}

theorem FlushMsg.octet_clear (mp : FlushMsg) (some : 0 < mp.octets.length) :
    ({ mp with octets := mp.octets.modifyHead (· &&& ~~~FLUSHR) } :
      FlushMsg).octet 0 = mp.octet 0 &&& ~~~FLUSHR := by
  obtain ⟨octets, behind, noloop⟩ := mp
  cases octets with
  | nil => cases some
  | cons flags rest => rfl

theorem FlushMsg.octet_next (mp : FlushMsg) (some : 0 < mp.octets.length) :
    ({ mp with octets := mp.octets.modifyHead (· &&& ~~~FLUSHR) } :
      FlushMsg).octet 1 = mp.octet 1 := by
  obtain ⟨octets, behind, noloop⟩ := mp
  cases octets with
  | nil => cases some
  | cons flags rest => rfl

theorem clear_flushw (flags : UInt8) :
    flags &&& ~~~FLUSHR &&& FLUSHW = flags &&& FLUSHW := by
  rw [UInt8.and_assoc]
  rfl

theorem clear_absent {flags : UInt8} (absent : flags &&& FLUSHR = 0) :
    flags &&& ~~~FLUSHR = flags := by
  apply UInt8.toBitVec_inj.mp
  ext i bound
  have bit := congrArg (fun x : UInt8 => x.toBitVec[i]) absent
  simp only [UInt8.toBitVec_and, UInt8.toBitVec_not, BitVec.getElem_and,
    BitVec.getElem_not] at bit ⊢
  cases flag : FLUSHR.toBitVec[i] with
  | false => simp
  | true =>
      rw [flag, Bool.and_true] at bit
      rw [bit]
      simp

theorem FlushMsg.Formed.some (formed : mp.Formed) : 0 < mp.octets.length := by
  rw [formed]
  split <;> omega

theorem FlushMsg.Formed.band_iff (formed : mp.Formed) :
    1 < mp.octets.length ↔ mp.flag 0 FLUSHBAND = true := by
  rw [formed]
  split
  case isTrue set => simp [set]
  case isFalse clear => simp [clear]

end Message

namespace FlushHead

variable {head : FlushHead} {mp : FlushMsg} {l m : List Entry} {fuel : Nat}

/-- The first part of `str_m_flush`. -/
def afterRead (fuel : Nat) (head : FlushHead) (mp : FlushMsg) :
    Option FlushHead :=
  if mp.flag 0 FLUSHR = true then head.flushRead fuel mp else some head

theorem afterRead_wq {head' : FlushHead}
    (done : head.afterRead fuel mp = some head') : head'.wq = head.wq := by
  unfold afterRead at done
  split at done
  case isFalse =>
    cases done
    rfl
  simp only [flushRead, Option.bind_eq_bind, Option.bind_eq_some_iff] at done
  obtain ⟨rq, _, done⟩ := done
  split at done
  · cases done
    rfl
  · cases done
    unfold fixBits
    split <;> rfl

theorem turn_eq {head' : FlushHead} (wq : head'.wq = head.wq)
    {mp' : FlushMsg} (noloop : mp'.noloop = mp.noloop)
    (flag : mp'.flag 0 FLUSHW = mp.flag 0 FLUSHW)
    (next : mp'.octet 1 = mp.octet 1) (reads : List Nat) :
    head'.turn fuel mp' reads =
      if mp.turned head = true then
        (flushEither fuel head.wq (mp.flag 1 FLUSHBAND) (mp.octet 1)).map
          fun wq =>
            { head := { head' with wq := wq }
              reply := some { mp' with noloop := true }
              reads := reads ++ [1] }
      else some { head := head', reply := none, reads := reads } := by
  have same : mp'.flag 1 FLUSHBAND = mp.flag 1 FLUSHBAND := by
    rw [FlushMsg.flag, next, FlushMsg.flag]
  unfold turn FlushMsg.turned
  rw [wq, noloop, flag, next, same]
  split
  · cases flushEither fuel head.wq (mp.flag 1 FLUSHBAND) (mp.octet 1) <;> rfl
  · rfl

def reads (head : FlushHead) (mp : FlushMsg) : List Nat :=
  (if mp.flag 0 FLUSHR && mp.flag 0 FLUSHBAND then [0, 1] else [0]) ++
    if mp.turned head = true then [1] else []

theorem strMFlush_eq (formed : mp.Formed) :
    head.strMFlush fuel mp =
      (head.afterRead fuel mp).bind fun head' =>
        (if mp.turned head = true then
          flushEither fuel head.wq (mp.flag 1 FLUSHBAND) (mp.octet 1)
        else some head.wq).map fun wq =>
          { head := { head' with wq := wq }
            reply := if mp.turned head = true then some mp.reply else none
            reads := head.reads mp } := by
  have some := formed.some
  unfold strMFlush afterRead reads
  cases read : mp.flag 0 FLUSHR with
  | true =>
      simp only [if_true, Bool.true_and]
      cases done : head.flushRead fuel mp with
      | none => rfl
      | some head' =>
          have wq : head'.wq = head.wq :=
            afterRead_wq (by rw [afterRead, if_pos read]; exact done)
          have flag : ({ mp with
              octets := mp.octets.modifyHead (· &&& ~~~FLUSHR) } :
                FlushMsg).flag 0 FLUSHW = mp.flag 0 FLUSHW := by
            rw [FlushMsg.flag, mp.octet_clear some, clear_flushw]
            rfl
          simp only [Option.bind_eq_bind, Option.bind_some]
          rw [@turn_eq head mp fuel head' wq
            { mp with octets := mp.octets.modifyHead (· &&& ~~~FLUSHR) } rfl
            flag (mp.octet_next some)]
          split
          · rfl
          · rw [List.append_nil, Option.map_some, ← wq]
  | false =>
      have absent : mp.octet 0 &&& FLUSHR = 0 := by
        simpa [FlushMsg.flag] using read
      have octets : mp.octets.modifyHead (· &&& ~~~FLUSHR) = mp.octets := by
        obtain ⟨octets, behind, noloop⟩ := mp
        cases octets with
        | nil => rfl
        | cons flags rest => exact congrArg (· :: rest) (clear_absent absent)
      simp only [Bool.false_eq_true, if_false, Bool.false_and,
        Option.bind_some]
      rw [@turn_eq head mp fuel head rfl mp rfl rfl rfl, FlushMsg.reply, octets]
      split
      · rfl
      · rw [List.append_nil]
        rfl

theorem afterRead_formed (formed : WellFormed head.rq l)
    (enough : l.length ≤ fuel) :
    (∃ head', head.afterRead fuel mp = some head' ∧
      WellFormed head'.rq (mp.leaves (mp.flag 0 FLUSHR) l)) ↔
        (mp.flag 0 FLUSHR = true → mp.flag 0 FLUSHBAND = true →
          FlushesBand (mp.octet 1).toNat head.rq.q.qNband .flushall l) := by
  unfold afterRead FlushMsg.leaves
  cases read : mp.flag 0 FLUSHR with
  | false => exact iff_of_true ⟨head, rfl, formed⟩ nofun
  | true =>
      simp only [if_true, forall_const]
      cases banded : mp.flag 0 FLUSHBAND with
      | false =>
          refine iff_of_true ?_ nofun
          obtain ⟨rq, done, empty⟩ :=
            flushEither_all formed enough (mp.octet 1)
          refine ⟨({ head with rq := rq } : FlushHead).fixBits, ?_, ?_⟩
          · simp [flushRead, banded, done]
          · unfold fixBits
            split <;> exact empty
      | true =>
          simp only [forall_const, if_true]
          rw [← flushEither_band formed enough]
          constructor
          · rintro ⟨head', done, formed'⟩
            simp only [flushRead, banded, if_true, Option.bind_eq_bind,
              Option.bind_eq_some_iff] at done
            obtain ⟨rq, done, same⟩ := done
            cases same
            exact ⟨rq, done, formed'⟩
          · rintro ⟨rq, done, formed'⟩
            refine ⟨{ head with rq := rq }, ?_, formed'⟩
            simp [flushRead, banded, done]

theorem afterRead_bits {head' : FlushHead}
    (formed : WellFormed head.rq l) (enough : l.length ≤ fuel)
    (done : head.afterRead fuel mp = some head') :
    (mp.fixes = true ∧ head'.strpri = false ∧ head'.strmsig = false) ∨
      (mp.fixes = false ∧ head'.strpri = head.strpri ∧
        head'.strmsig = head.strmsig) := by
  unfold afterRead at done
  unfold FlushMsg.fixes
  cases read : mp.flag 0 FLUSHR with
  | false =>
      rw [read] at done
      cases done
      exact .inr ⟨rfl, rfl, rfl⟩
  | true =>
      simp only [read, if_true] at done
      cases banded : mp.flag 0 FLUSHBAND with
      | true =>
          simp only [flushRead, banded, if_true, Option.bind_eq_bind,
            Option.bind_eq_some_iff] at done
          obtain ⟨rq, _, same⟩ := done
          cases same
          exact .inr ⟨rfl, rfl, rfl⟩
      | false =>
          obtain ⟨rq, flushed, empty⟩ :=
            flushEither_all formed enough (mp.octet 1)
          have first : rq.q.qFirst = none := empty.linked.first_eq
          simp only [flushRead, banded, flushed, Option.bind_eq_bind,
            Option.bind_some, Bool.false_eq_true, if_false,
            Option.some.injEq] at done
          subst done
          refine .inl ⟨rfl, ?_⟩
          unfold fixBits
          split
          case isTrue => simp [first]
          case isFalse clear => simpa using clear

theorem write_formed (formedMp : mp.Formed) (formed : WellFormed head.wq m)
    (enough : m.length ≤ fuel) :
    ((∃ wq, (if mp.turned head = true then
        flushEither fuel head.wq (mp.flag 1 FLUSHBAND) (mp.octet 1)
      else some head.wq) = some wq ∧
        WellFormed wq (mp.leaves (mp.turned head) m)) ∧
      ∀ i ∈ head.reads mp, i < mp.octets.length) ↔
        (mp.turned head = true → mp.flag 0 FLUSHBAND = true ∧
          if mp.flag 1 FLUSHBAND = true then
            FlushesBand (mp.octet 1).toNat head.wq.q.qNband .flushall m
          else bandFlushed (mp.octet 1).toNat .flushall m = []) := by
  have some := formedMp.some
  have first : ∀ i ∈ (if mp.flag 0 FLUSHR && mp.flag 0 FLUSHBAND then [0, 1]
      else [0]), i < mp.octets.length := by
    intro i member
    split at member
    case isTrue both =>
      have both := formedMp.band_iff.mpr (Bool.and_eq_true_iff.mp both).2
      simp only [List.mem_cons, List.not_mem_nil, or_false] at member
      omega
    case isFalse =>
      simp only [List.mem_cons, List.not_mem_nil, or_false] at member
      omega
  cases turned : mp.turned head with
  | false =>
      refine iff_of_true ⟨⟨head.wq, rfl, formed⟩, ?_⟩ nofun
      rw [reads, turned]
      simpa using first
  | true =>
      have inside : (∀ i ∈ head.reads mp, i < mp.octets.length) ↔
          mp.flag 0 FLUSHBAND = true := by
        rw [← formedMp.band_iff, reads, turned]
        constructor
        · intro all
          exact all 1 (List.mem_append_right _ (List.mem_singleton_self 1))
        · intro two i member
          rcases List.mem_append.mp member with member | member
          · exact first i member
          · rw [List.mem_singleton.mp member]
            exact two
      rw [inside, and_comm]
      simp only [if_true, forall_const]
      refine and_congr_right fun banded => ?_
      simp only [FlushMsg.leaves, banded, if_true]
      cases flag : mp.flag 1 FLUSHBAND with
      | true => exact flushEither_band formed enough (mp.octet 1)
      | false =>
          obtain ⟨wq, done, empty⟩ :=
            flushEither_all formed enough (mp.octet 1)
          simp only [done, Option.some.injEq, exists_eq_left',
            Bool.false_eq_true, if_false]
          exact ⟨fun formed => formed.toThreaded.unique empty.toThreaded,
            fun nothing => nothing ▸ empty⟩

theorem leaves_pcproto (mp : FlushMsg) (fixes : mp.fixes = false) :
    (∃ e ∈ mp.leaves (mp.flag 0 FLUSHR) l, e.msg.dbType = M_PCPROTO) ↔
      ∃ e ∈ l, e.msg.dbType = M_PCPROTO := by
  unfold FlushMsg.leaves
  unfold FlushMsg.fixes at fixes
  cases read : mp.flag 0 FLUSHR with
  | false => rfl
  | true =>
      cases banded : mp.flag 0 FLUSHBAND with
      | false =>
          rw [read, banded] at fixes
          cases fixes
      | true =>
          simp only [if_true]
          refine exists_congr fun e => ?_
          refine ⟨fun ⟨member, type⟩ => ⟨(List.mem_filter.mp member).1, type⟩,
            fun ⟨member, type⟩ => ⟨List.mem_filter.mpr ⟨member, ?_⟩, type⟩⟩
          have high : e.msg.isHiPri = true := by
            rw [Msg.isHiPri, type]
            rfl
          have outside : e.ofBand (mp.octet 1).toNat = false := by
            rw [Bool.eq_false_iff, ne_eq, e.ofBand_iff_cls, Entry.cls,
              if_pos high]
            exact WithTop.top_ne_coe
          simp [Entry.taken, outside]

/-- `str_m_flush` flushes what the message names exactly where `flushband`
takes the bands named, where the octet for the band is there and has the bit
of FLUSHBAND when the message goes back down, and where the bits of the head
were right and do not go with the band. -/
theorem strMFlush_iff (read : WellFormed head.rq l)
    (write : WellFormed head.wq m) (formed : mp.Formed)
    (enough : l.length ≤ fuel ∧ m.length ≤ fuel) :
    (∃ out, head.strMFlush fuel mp = some out ∧ Named head l m mp out) ↔
      Fits head l m mp := by
  rw [strMFlush_eq formed]
  have reading := @afterRead_formed head mp l fuel read enough.1
  have writing := write_formed formed write enough.2
  constructor
  · rintro ⟨out, done, named⟩
    rw [Option.bind_eq_some_iff] at done
    obtain ⟨head', after, done⟩ := done
    rw [Option.map_eq_some_iff] at done
    obtain ⟨wq, flushed, rfl⟩ := done
    have bits := afterRead_bits read enough.1 after
    refine ⟨reading.mp ⟨head', after, named.read⟩,
      writing.mp ⟨⟨wq, flushed, named.write⟩, named.inside⟩, ?_, ?_⟩
    · intro fixes set
      obtain ⟨fixed, -⟩ | ⟨-, same, -⟩ := bits
      · rw [fixes] at fixed
        cases fixed
      · exact (leaves_pcproto mp fixes).mp (named.strpri (same.trans set))
    · intro fixes set
      obtain ⟨fixed, -⟩ | ⟨-, -, same⟩ := bits
      · rw [fixes] at fixed
        cases fixed
      · exact named.strmsig (same.trans set)
  · intro fits
    obtain ⟨head', after, formed'⟩ := reading.mpr fits.read
    obtain ⟨⟨wq, flushed, formedWq⟩, inside⟩ := writing.mpr fits.write
    have bits := afterRead_bits read enough.1 after
    refine ⟨_, Option.bind_eq_some_iff.mpr ⟨head', after,
      Option.map_eq_some_iff.mpr ⟨wq, flushed, rfl⟩⟩,
      formed', formedWq, rfl, inside, ?_, ?_⟩
    · intro set
      obtain ⟨-, clear, -⟩ | ⟨fixes, same, -⟩ := bits
      · exact absurd (clear.symm.trans set) nofun
      · exact (leaves_pcproto mp fixes).mpr
          (fits.strpri fixes (same.symm.trans set))
    · intro set
      obtain ⟨-, -, clear⟩ | ⟨fixes, -, same⟩ := bits
      · exact absurd (clear.symm.trans set) nofun
      · exact fits.strmsig fixes (same.symm.trans set)

theorem fresh_formed (hiwat lowat : Nat) :
    WellFormed (QState.fresh hiwat lowat) [] :=
  ⟨(QState.fresh_empty hiwat lowat).holds, nofun, ⟨rfl, rfl⟩⟩

theorem strMFlush_iff_fresh :
    (∃ out, FlushHead.strMFlush 0
      ⟨QState.fresh 16 4, QState.fresh 16 4, true, false⟩ ⟨[0x03], [], false⟩ =
        some out ∧
      Named ⟨QState.fresh 16 4, QState.fresh 16 4, true, false⟩ [] []
        ⟨[0x03], [], false⟩ out) ↔
      Fits ⟨QState.fresh 16 4, QState.fresh 16 4, true, false⟩ [] []
        ⟨[0x03], [], false⟩ :=
  strMFlush_iff (fresh_formed 16 4) (fresh_formed 16 4) rfl
    ⟨Nat.le_refl 0, Nat.le_refl 0⟩

theorem one_below : ∃ s e, WellFormed s [e] ∧ e.msg = ⟨0, M_DATA, [(0, 1)]⟩ ∧
    s.q.qNext = true := by
  have put := @Run.step
    { QState.fresh 16 4 with q := { (QState.fresh 16 4).q with qNext := true } }
    _ _ _ (.putq 1 ⟨0, M_DATA, [(0, 1)]⟩ 1) _ 1 .nil (by decide) (by decide) rfl
  refine ⟨_, _, ⟨put.holds ?_, ?_, ⟨rfl, rfl⟩⟩, rfl, rfl⟩
  · exact ⟨rfl, rfl, rfl, rfl, rfl, by simp [QState.fresh]⟩
  · intro ix qb found
    cases found

theorem strMFlush_takes_others :
    ¬ ∀ (head : FlushHead) (mp : FlushMsg) (l m : List Entry) (fuel : Nat),
      WellFormed head.rq l → WellFormed head.wq m → mp.Formed →
        l.length ≤ fuel ∧ m.length ≤ fuel →
          ∃ out, head.strMFlush fuel mp = some out ∧
            Named head l m mp out := by
  intro claim
  obtain ⟨s, e, formed, msg, next⟩ := one_below
  obtain ⟨out, done, named⟩ := claim ⟨QState.fresh 16 4, s, false, false⟩
    ⟨[0x06, 1], [], false⟩ [] [e] 1 (fresh_formed 16 4) formed rfl
    ⟨Nat.zero_le 1, Nat.le_refl 1⟩
  obtain ⟨wq, flushed, empty⟩ := flushEither_all formed (Nat.le_refl 1) 1
  have turned : FlushMsg.turned ⟨[0x06, 1], [], false⟩
      ⟨QState.fresh 16 4, s, false, false⟩ = true := by
    simp only [FlushMsg.turned, next]
    rfl
  have band : FlushMsg.flag ⟨[0x06, 1], [], false⟩ 1 FLUSHBAND = false := rfl
  have octet : FlushMsg.octet ⟨[0x06, 1], [], false⟩ 1 = 1 := rfl
  have after : afterRead 1 ⟨QState.fresh 16 4, s, false, false⟩
      ⟨[0x06, 1], [], false⟩ = some ⟨QState.fresh 16 4, s, false, false⟩ := rfl
  have form : FlushMsg.Formed ⟨[0x06, 1], [], false⟩ := rfl
  rw [strMFlush_eq form, after, turned, band, octet, Option.bind_some,
    if_pos rfl, flushed] at done
  cases done
  have write := named.write
  rw [turned] at write
  have left : FlushMsg.leaves ⟨[0x06, 1], [], false⟩ true [e] = [e] := by
    refine bandFlushed_of_none fun e' member => ?_
    rw [List.mem_singleton.mp member, e.ofBand_iff (by decide), msg]
    decide
  rw [left] at write
  cases write.toThreaded.unique empty.toThreaded

end FlushHead

end OpenSS7.Streams
