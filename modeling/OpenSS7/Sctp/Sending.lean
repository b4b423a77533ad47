import OpenSS7.Sctp.Fragment
import OpenSS7.Sctp.Sender

/-!
`sctp_send_data`: a user message, or a part of one, becomes DATA chunks on the
queue of its stream, or is added to a chunk that has not been transmitted.
-/

namespace OpenSS7.Sctp.Sending

structure Flags where
  last : Bool
  first : Bool
  urg : Bool
  conf : Bool
deriving DecidableEq

/-- A DATA chunk on its queue, with its control block. `len` is the length
field of the chunk and `msg` the number of the user message it belongs to,
which the code does not keep. -/
structure Chunk where
  addr : Nat
  flags : Flags
  sid : UInt16
  ssn : UInt16
  ppi : UInt32
  dlen : Nat
  len : UInt16
  data : List Block
  msg : Nat
deriving DecidableEq

/-- `st->n` or `st->x` -/
structure Part where
  ppi : UInt32
  head : Option Nat
  more : Bool
deriving DecidableEq

structure Queue where
  sent : List Chunk
  waiting : List Chunk
  qCount : Nat
deriving DecidableEq

namespace Queue

def fresh (q : Queue) : Nat := (q.waiting.map Chunk.addr).foldr max 0 + 1

def find (q : Queue) (addr : Nat) : Option Chunk :=
  q.waiting.find? fun cb => cb.addr = addr

/-- `bufq_queue` -/
def put (q : Queue) (mp : Chunk) : Queue :=
  { q with
    waiting := q.waiting ++ [mp]
    qCount := q.qCount + (16 + chainSize mp.data) }

def write (q : Queue) (addr : Nat) (cb : Chunk) (dlen : Nat) : Queue :=
  { q with
    waiting := q.waiting.map fun c => if c.addr = addr then cb else c
    qCount := q.qCount + dlen }

def take (q : Queue) : Queue :=
  match q.waiting with
  | [] => q
  | mp :: rest =>
      { sent := q.sent ++ [mp]
        waiting := rest
        qCount := q.qCount - (16 + chainSize mp.data) }

def all (q : Queue) : List Chunk := q.sent ++ q.waiting

end Queue

/-- What `sctp_send_data` works on: the stream, the part of it and the queue
that the flags select. -/
structure Lane where
  sid : UInt16
  ssn : UInt16
  part : Part
  queue : Queue
  msg : Nat
deriving DecidableEq

def Lane.building (lane : Lane) : Option Chunk :=
  if lane.part.more then lane.part.head.bind lane.queue.find else none

inductive Errno where
  | ok
  | busy
  | noBufs
  | hostUnreach
  | fault
  | noStream
deriving DecidableEq

structure Turn where
  avail : Option Nat
  noDup : Bool
  noChunk : Bool
deriving DecidableEq

structure Writing where
  lane : Lane
  dp : List Block
  mlen : Nat
  dflags : Flags
deriving DecidableEq

inductive Outcome where
  | go (w : Writing)
  | stop (w : Writing) (ret : Errno)
deriving DecidableEq

namespace Writing

def chunk (w : Writing) (bp : List Block) (dlen : Nat) : Chunk :=
  { addr := w.lane.queue.fresh
    flags := w.dflags
    sid := w.lane.sid
    ssn := if w.dflags.urg then 0 else w.lane.ssn + 1
    ppi := w.lane.part.ppi
    dlen := dlen
    len := (dataLen dlen).toUInt16
    data := bp
    msg := w.lane.msg }

def queued (w : Writing) (bp : List Block) (dlen : Nat) : Writing :=
  let mp := w.chunk bp dlen
  { lane :=
      { w.lane with
        part :=
          { w.lane.part with
            more := !w.dflags.last
            head := if w.dflags.last then none else some mp.addr }
        ssn := if !w.dflags.urg && w.dflags.last then mp.ssn else w.lane.ssn
        queue := w.lane.queue.put mp }
    dp := w.dp
    mlen := w.mlen - dlen
    dflags := { w.dflags with first := false } }

def joined (w : Writing) (cb : Chunk) : Chunk :=
  { cb with
    flags :=
      { last := cb.flags.last || w.dflags.last
        first := cb.flags.first || w.dflags.first
        urg := cb.flags.urg || w.dflags.urg
        conf := cb.flags.conf }
    dlen := cb.dlen + w.mlen
    len := (dataLen (cb.dlen + w.mlen)).toUInt16
    data := cb.data ++ w.dp }

def appended (w : Writing) (cb : Chunk) : Writing :=
  { w with
    lane :=
      { w.lane with
        part :=
          if w.dflags.last then
            { w.lane.part with head := none, more := false }
          else w.lane.part
        queue := w.lane.queue.write cb.addr (w.joined cb) w.mlen } }

def queueChunk (t : Turn) (w : Writing) (bp : List Block) (dlen : Nat) :
    Outcome :=
  if t.noChunk then .stop w .noBufs else .go (w.queued bp dlen)

def awnd (w : Writing) (swnd : Nat) : Nat := swnd - w.lane.queue.qCount

def span (amps awnd : Nat) : Nat := if awnd < amps then amps / 2 else amps

def cutLen (amps awnd : Nat) : Nat := span amps awnd - 16

def fragment (t : Turn) (w : Writing) (dlen : Nat) : Outcome :=
  let (dp, left) := trimhead w.dp dlen
  if left ≠ 0 then .stop { w with dp := dp } .fault
  else
    let (bp, left) := trimtail w.dp dlen
    if left ≠ 0 then .stop { w with dp := dp } .fault
    else
      -- the original is trimmed before the chunk is allocated
      queueChunk t
        { w with dp := dp, dflags := { w.dflags with last := false } } bp dlen

def building (w : Writing) : Option Chunk := w.lane.building

def pass (amps : Nat) (flags : Flags) (t : Turn) (w : Writing) : Outcome :=
  match t.avail with
  | none => .stop w .hostUnreach
  | some swnd =>
      let plen := padc (dataLen w.mlen)
      let awnd := w.awnd swnd
      if awnd < plen ∨ amps < plen then
        if plen ≤ amps ∨ awnd < amps / 2 then .stop w .busy
        else if t.noDup then .stop w .noBufs
        else if span amps awnd ≤ 16 then .stop w .fault
        else if w.mlen ≤ cutLen amps awnd then .stop w .fault
        else fragment t w (cutLen amps awnd)
      else
        let w :=
          { w with
            dflags := { w.dflags with last := w.dflags.last || flags.last } }
        match w.building with
        | some cb =>
            if plen + cb.dlen ≤ amps then .stop (w.appended cb) .ok
            else queueChunk t w w.dp w.mlen
        | none => queueChunk t w w.dp w.mlen

def loop (amps : Nat) (flags : Flags) (turns : Nat → Turn) :
    Nat → Writing → Writing × Errno
  | 0, w => (w, .ok)
  | fuel + 1, w =>
      if w.mlen = 0 then (w, .ok)
      else
        match pass amps flags (turns fuel) w with
        | .go w => loop amps flags turns fuel w
        | .stop w ret => (w, ret)

end Writing

def sctpSendData (amps : Nat) (turns : Nat → Turn) (lane : Lane)
    (flags : Flags) (dp : List Block) : Lane × List Block × Errno :=
  let (w, ret) :=
    Writing.loop amps flags turns (msgdsize dp) ⟨lane, dp, msgdsize dp, flags⟩
  (w.lane, if ret = .ok then [] else w.dp, ret)

namespace Writing

variable {amps : Nat} {flags : Flags} {t : Turn} {w : Writing}

def Overlong (amps : Nat) (w : Writing) (swnd : Nat) : Prop :=
  w.awnd swnd < padc (dataLen w.mlen) ∨ amps < padc (dataLen w.mlen)

instance (amps : Nat) (w : Writing) (swnd : Nat) :
    Decidable (w.Overlong amps swnd) :=
  inferInstanceAs (Decidable (_ ∨ _))

def Cuts (amps : Nat) (t : Turn) (w : Writing) (swnd : Nat) : Prop :=
  (amps < padc (dataLen w.mlen) ∧ amps / 2 ≤ w.awnd swnd) ∧
    t.noDup = false ∧ 16 < span amps (w.awnd swnd) ∧
    cutLen amps (w.awnd swnd) < w.mlen

instance (amps : Nat) (t : Turn) (w : Writing) (swnd : Nat) :
    Decidable (w.Cuts amps t swnd) :=
  inferInstanceAs (Decidable (_ ∧ _))

theorem Cuts.overlong {swnd : Nat} (cuts : w.Cuts amps t swnd) :
    w.Overlong amps swnd :=
  .inr cuts.1.1

theorem Cuts.some {swnd : Nat} (cuts : w.Cuts amps t swnd) :
    0 < cutLen amps (w.awnd swnd) :=
  Nat.sub_pos_of_lt cuts.2.2.1

theorem Cuts.short {swnd : Nat} (cuts : w.Cuts amps t swnd) :
    cutLen amps (w.awnd swnd) < w.mlen :=
  cuts.2.2.2

def closing (flags : Flags) (w : Writing) : Writing :=
  { w with dflags := { w.dflags with last := w.dflags.last || flags.last } }

def trimmed (w : Writing) (dlen : Nat) : Writing :=
  { w with
    dp := (trimhead w.dp dlen).1
    dflags := { w.dflags with last := false } }

inductive Passes (amps : Nat) (flags : Flags) (t : Turn) (w : Writing) :
    Outcome → Prop where
  | unrouted : Passes amps flags t w (.stop w .hostUnreach)
  | busy : Passes amps flags t w (.stop w .busy)
  | noDup : Passes amps flags t w (.stop w .noBufs)
  | fault (w' : Writing) (lane : w'.lane = w.lane) :
      Passes amps flags t w (.stop w' .fault)
  | lost (swnd : Nat) (avail : t.avail = some swnd)
      (cuts : w.Cuts amps t swnd) (refused : t.noChunk = true) :
      Passes amps flags t w
        (.stop (w.trimmed (cutLen amps (w.awnd swnd))) .noBufs)
  | cut (swnd : Nat) (avail : t.avail = some swnd)
      (cuts : w.Cuts amps t swnd) (granted : t.noChunk = false) :
      Passes amps flags t w
        (.go ((w.trimmed (cutLen amps (w.awnd swnd))).queued
          (trimtail w.dp (cutLen amps (w.awnd swnd))).1
          (cutLen amps (w.awnd swnd))))
  | append (swnd : Nat) (avail : t.avail = some swnd)
      (fits : ¬w.Overlong amps swnd) (cb : Chunk)
      (found : w.building = some cb)
      (room : padc (dataLen w.mlen) + cb.dlen ≤ amps) :
      Passes amps flags t w (.stop ((w.closing flags).appended cb) .ok)
  | noChunk (swnd : Nat) (avail : t.avail = some swnd)
      (fits : ¬w.Overlong amps swnd) :
      Passes amps flags t w (.stop (w.closing flags) .noBufs)
  | whole (swnd : Nat) (avail : t.avail = some swnd)
      (fits : ¬w.Overlong amps swnd)
      (apart : ∀ cb, w.building = some cb →
        ¬padc (dataLen w.mlen) + cb.dlen ≤ amps) :
      Passes amps flags t w (.go ((w.closing flags).queued w.dp w.mlen))

theorem pass_cuts {swnd : Nat} (avail : t.avail = some swnd)
    (cuts : w.Cuts amps t swnd) (measured : w.mlen = msgdsize w.dp) :
    pass amps flags t w =
      queueChunk t (w.trimmed (cutLen amps (w.awnd swnd)))
        (trimtail w.dp (cutLen amps (w.awnd swnd))).1
        (cutLen amps (w.awnd swnd)) := by
  have within : cutLen amps (w.awnd swnd) ≤ msgdsize w.dp := by
    rw [← measured]
    exact Nat.le_of_lt cuts.short
  have overlong := cuts.overlong
  unfold Overlong at overlong
  obtain ⟨⟨long, room⟩, dup, wide, short⟩ := cuts
  unfold pass
  rw [avail]
  dsimp only
  rw [if_pos overlong, if_neg (by omega), dup]
  rw [if_neg Bool.false_ne_true, if_neg (by omega), if_neg (by omega)]
  unfold fragment
  dsimp only
  rw [(trimhead_spec within).2, trimtail_left within]
  rw [if_neg (fun no => no rfl), if_neg (fun no => no rfl)]
  rfl

theorem pass_passes (amps : Nat) (flags : Flags) (t : Turn)
    (measured : w.mlen = msgdsize w.dp) :
    Passes amps flags t w (pass amps flags t w) := by
  cases avail : t.avail with
  | none =>
      unfold pass
      rw [avail]
      exact .unrouted
  | some swnd =>
      by_cases cuts : w.Cuts amps t swnd
      · rw [pass_cuts avail cuts measured]
        unfold queueChunk
        split
        next refused => exact .lost swnd avail cuts refused
        next granted =>
          rw [Bool.not_eq_true] at granted
          exact .cut swnd avail cuts granted
      unfold pass
      rw [avail]
      dsimp only
      split
      next overlong =>
        split
        · exact .busy
        next room =>
          split
          · exact .noDup
          next dup =>
            split
            · exact .fault w rfl
            next wide =>
              split
              · exact .fault w rfl
              next short =>
                rw [Bool.not_eq_true] at dup
                exact absurd ⟨by omega, dup, by omega, by omega⟩ cuts
      next fits =>
        have entire (apart : ∀ cb, w.building = some cb →
            ¬padc (dataLen w.mlen) + cb.dlen ≤ amps) :
            Passes amps flags t w
              (queueChunk t (w.closing flags) w.dp w.mlen) := by
          unfold queueChunk
          split
          · exact .noChunk swnd avail fits
          next granted => exact .whole swnd avail fits apart
        show Passes amps flags t w
          (match w.building with
          | some cb =>
              if padc (dataLen w.mlen) + cb.dlen ≤ amps then
                .stop ((w.closing flags).appended cb) .ok
              else queueChunk t (w.closing flags) w.dp w.mlen
          | none => queueChunk t (w.closing flags) w.dp w.mlen)
        cases found : w.building with
        | none => exact entire (by rw [found]; exact nofun)
        | some cb =>
            dsimp only
            by_cases room : padc (dataLen w.mlen) + cb.dlen ≤ amps
            · rw [if_pos room]
              exact .append swnd avail fits cb found room
            · rw [if_neg room]
              refine entire fun cb' found' => ?_
              rw [found] at found'
              cases found'
              exact room

end Writing

/-- The flags that `sctp_data_req` chooses, and the stream as it leaves it. -/
def Lane.request (lane : Lane) (ppi : UInt32) (ord more rcpt : Bool)
    (mp : List Block) : Writing :=
  { lane :=
      if lane.part.more then lane
      else { lane with part := { lane.part with ppi := ppi } }
    dp := mp
    mlen := msgdsize mp
    dflags :=
      { last := !more, first := !lane.part.more, urg := !ord, conf := rcpt } }

/-- `sctp_data_req`, on the part of the stream that it selects; `found` tells
whether the stream is there or could be allocated. -/
def sctpDataReq (amps : Nat) (turns : Nat → Turn) (lane : Lane)
    (found : Bool) (ppi : UInt32) (ord more rcpt : Bool) (mp : List Block) :
    Lane × List Block × Errno :=
  if msgdsize mp = 0 then (lane, [], .ok)
  else if !found then (lane, mp, .noStream)
  else
    let w := lane.request ppi ord more rcpt mp
    sctpSendData amps turns w.lane w.dflags mp

def Chunk.Measured (cb : Chunk) : Prop :=
  cb.dlen = msgdsize cb.data ∧ cb.len.toNat = dataLen cb.dlen

structure Queues (first last : Bool) (message : List UInt8)
    (new : List Chunk) : Prop where
  some : new ≠ []
  octets : (new.flatMap fun cb => contents cb.data) = message
  measured : ∀ cb ∈ new, cb.Measured
  firsts : new.map (fun cb => cb.flags.first) =
    first :: List.replicate (new.length - 1) false
  lasts : new.map (fun cb => cb.flags.last) =
    List.replicate (new.length - 1) false ++ [last]

structure Extends (first last : Bool) (message : List UInt8)
    (cb cb' : Chunk) : Prop where
  octets : contents cb'.data = contents cb.data ++ message
  measured : cb'.Measured
  dlen : cb'.dlen = cb.dlen + message.length
  first : cb'.flags.first = (cb.flags.first || first)
  last : cb'.flags.last = (cb.flags.last || last)

def written (cb cb' : Chunk) (queue : List Chunk) : List Chunk :=
  queue.map fun c => if c.addr = cb.addr then cb' else c

def Carried (building : Option Chunk) (first last : Bool)
    (message : List UInt8) (before after : List Chunk) : Prop :=
  (∃ new, after = before ++ new ∧ Queues first last message new) ∨
    ∃ cb cb', building = some cb ∧ cb ∈ before ∧
      after = written cb cb' before ∧ Extends first last message cb cb'

def Broken (building : Option Chunk) (before after : List Chunk) : Prop :=
  (∃ new, after = before ++ new ∧ ∃ cb ∈ new, ¬cb.Measured) ∨
    ∃ cb cb', building = some cb ∧ cb ∈ before ∧
      after = written cb cb' before ∧ ¬cb'.Measured

theorem Carried.not_broken {building : Option Chunk} {first last : Bool}
    {message : List UInt8} {before after : List Chunk}
    (carried : Carried building first last message before after) :
    ¬Broken building before after := by
  intro broken
  rcases carried with ⟨new, shape, queues⟩ |
    ⟨cb, cb', built, held, shape, grown⟩
  · rcases broken with ⟨new', shape', cb, member, wrong⟩ |
      ⟨cb, cb', -, -, shape', -⟩
    · rw [shape, List.append_cancel_left_eq] at shape'
      exact wrong (queues.measured cb (shape' ▸ member))
    · have lengths := congrArg List.length (shape.symm.trans shape')
      unfold written at lengths
      rw [List.length_append, List.length_map] at lengths
      exact queues.some (List.eq_nil_of_length_eq_zero (by omega))
  · rcases broken with ⟨new', shape', other, member, wrong⟩ |
      ⟨other, other', built', -, shape', wrong⟩
    · have lengths := congrArg List.length (shape.symm.trans shape')
      unfold written at lengths
      rw [List.length_append, List.length_map] at lengths
      rw [List.eq_nil_of_length_eq_zero (l := new') (by omega)] at member
      cases member
    · rw [built] at built'
      cases built'
      have same := shape.symm.trans shape'
      unfold written at same
      have here := List.map_inj_left.mp same cb held
      rw [if_pos rfl, if_pos rfl] at here
      exact wrong (here ▸ grown.measured)

namespace Queue

variable {q : Queue}

theorem addr_lt_fresh {cb : Chunk} (held : cb ∈ q.waiting) :
    cb.addr < q.fresh := by
  unfold fresh
  generalize q.waiting = waiting at held
  induction waiting with
  | nil => cases held
  | cons c rest ih =>
      rw [List.map_cons, List.foldr_cons]
      rcases List.mem_cons.mp held with rfl | later
      · exact Nat.lt_succ_of_le (Nat.le_max_left _ _)
      · exact Nat.lt_of_lt_of_le (ih later)
          (Nat.succ_le_succ (Nat.le_max_right _ _))

theorem find_put {mp : Chunk} (new : mp.addr = q.fresh) :
    (q.put mp).find mp.addr = some mp := by
  unfold find put
  dsimp only
  rw [List.find?_append, List.find?_eq_none.mpr, Option.none_or]
  · simp
  · intro cb held
    have below := addr_lt_fresh held
    simp only [decide_eq_true_eq]
    omega

theorem mem_of_find {addr : Nat} {cb : Chunk}
    (found : q.find addr = some cb) : cb ∈ q.waiting ∧ cb.addr = addr :=
  ⟨List.mem_of_find?_eq_some found, by
    simpa using List.find?_some found⟩

theorem written_put {mp mp' : Chunk} (new : mp.addr = q.fresh) :
    written mp mp' (q.waiting ++ [mp]) = q.waiting ++ [mp'] := by
  have others : written mp mp' q.waiting = q.waiting := by
    unfold written
    rw [List.map_congr_left (g := id), List.map_id]
    intro cb held
    have below := addr_lt_fresh held
    exact if_neg (by omega)
  unfold written at others ⊢
  rw [List.map_append, List.map_singleton, if_pos rfl, others]

end Queue

theorem toNat_len (dlen : Nat) :
    (dataLen dlen).toUInt16.toNat = dataLen dlen ↔ dataLen dlen < 2 ^ 16 := by
  rw [Nat.toUInt16_eq, UInt16.toNat_ofNat']
  omega

namespace Writing

variable {amps : Nat} {flags : Flags} {t : Turn} {w : Writing}

def Clean (amps : Nat) (t : Turn) (w : Writing) : Prop :=
  match t.avail with
  | none => True
  | some swnd =>
      if w.Overlong amps swnd then
        Clears (cutLen amps (w.awnd swnd)) w.dp ∧
          dataLen (cutLen amps (w.awnd swnd)) < 2 ^ 16
      else
        match w.building with
        | some cb =>
            if padc (dataLen w.mlen) + cb.dlen ≤ amps then
              cb.dlen = msgdsize cb.data ∧ dataLen (cb.dlen + w.mlen) < 2 ^ 16
            else dataLen w.mlen < 2 ^ 16
        | none => dataLen w.mlen < 2 ^ 16

def EveryPass (met : Turn → Writing → Prop) (amps : Nat) (flags : Flags)
    (turns : Nat → Turn) : Nat → Writing → Prop
  | 0, _ => True
  | fuel + 1, w =>
      w.mlen = 0 ∨
        (met (turns fuel) w ∧
          match pass amps flags (turns fuel) w with
          | .go w => EveryPass met amps flags turns fuel w
          | .stop _ _ => True)

instance decideEveryPass {met : Turn → Writing → Prop}
    [∀ t w, Decidable (met t w)] (amps : Nat) (flags : Flags)
    (turns : Nat → Turn) :
    ∀ (fuel : Nat) (w : Writing),
      Decidable (EveryPass met amps flags turns fuel w)
  | 0, _ => .isTrue True.intro
  | fuel + 1, w =>
      let later : (o : Outcome) → Decidable (match o with
          | .go w => EveryPass met amps flags turns fuel w
          | .stop _ _ => True)
        | .go w => decideEveryPass amps flags turns fuel w
        | .stop _ _ => .isTrue True.intro
      have := later (pass amps flags (turns fuel) w)
      inferInstanceAs (Decidable (_ ∨ (_ ∧ _)))

def AllClean (amps : Nat) (flags : Flags) (turns : Nat → Turn) (fuel : Nat)
    (w : Writing) : Prop :=
  EveryPass (Clean amps) amps flags turns fuel w

theorem allClean_succ (amps : Nat) (flags : Flags) (turns : Nat → Turn)
    (fuel : Nat) (w : Writing) :
    AllClean amps flags turns (fuel + 1) w ↔
      w.mlen = 0 ∨
        (Clean amps (turns fuel) w ∧
          match pass amps flags (turns fuel) w with
          | .go w => AllClean amps flags turns fuel w
          | .stop _ _ => True) :=
  Iff.rfl

theorem clean_of_overlong {swnd : Nat} (avail : t.avail = some swnd)
    (overlong : w.Overlong amps swnd) :
    Clean amps t w ↔
      Clears (cutLen amps (w.awnd swnd)) w.dp ∧
        dataLen (cutLen amps (w.awnd swnd)) < 2 ^ 16 := by
  unfold Clean
  rw [avail]
  dsimp only
  rw [if_pos overlong]

theorem clean_of_append {swnd : Nat} (avail : t.avail = some swnd)
    (fits : ¬w.Overlong amps swnd) {cb : Chunk} (found : w.building = some cb)
    (room : padc (dataLen w.mlen) + cb.dlen ≤ amps) :
    Clean amps t w ↔
      cb.dlen = msgdsize cb.data ∧ dataLen (cb.dlen + w.mlen) < 2 ^ 16 := by
  unfold Clean
  rw [avail]
  dsimp only
  rw [if_neg fits, found]
  dsimp only
  rw [if_pos room]

theorem clean_of_whole {swnd : Nat} (avail : t.avail = some swnd)
    (fits : ¬w.Overlong amps swnd)
    (apart : ∀ cb, w.building = some cb →
      ¬padc (dataLen w.mlen) + cb.dlen ≤ amps) :
    Clean amps t w ↔ dataLen w.mlen < 2 ^ 16 := by
  unfold Clean
  rw [avail]
  dsimp only
  rw [if_neg fits]
  cases found : w.building with
  | none => exact Iff.rfl
  | some cb =>
      dsimp only
      rw [if_neg (apart cb found)]

theorem building_mem {cb : Chunk} (found : w.building = some cb) :
    cb ∈ w.lane.queue.waiting ∧ w.lane.part.more = true ∧
      w.lane.part.head = some cb.addr := by
  unfold building Lane.building at found
  split at found
  next more =>
    obtain ⟨addr, head, found⟩ := Option.bind_eq_some_iff.mp found
    obtain ⟨held, same⟩ := Queue.mem_of_find found
    exact ⟨held, more, same ▸ head⟩
  next => cases found

theorem building_queued (w : Writing) (bp : List Block) (dlen : Nat)
    (more : w.dflags.last = false) :
    (w.queued bp dlen).building = some (w.chunk bp dlen) := by
  unfold building Lane.building queued
  dsimp only
  rw [more]
  exact Queue.find_put rfl

theorem measured_chunk (w : Writing) (bp : List Block) (dlen : Nat) :
    (w.chunk bp dlen).Measured ↔
      dlen = msgdsize bp ∧ dataLen dlen < 2 ^ 16 :=
  and_congr_right fun _ => toNat_len dlen

theorem carried_of_cut {q : Queue} {c : Chunk} {first last : Bool}
    {rest : List UInt8} {after : List Chunk} (new : c.addr = q.fresh)
    (open_ : c.flags.last = false) (measured : c.Measured)
    (flag : c.flags.first = first)
    (carried : Carried (some c) false last rest (q.waiting ++ [c]) after)
    (building : Option Chunk) :
    Carried building first last (contents c.data ++ rest) q.waiting after := by
  rcases carried with ⟨others, shape, queues⟩ |
    ⟨cb, cb', built, -, shape, grown⟩
  · refine .inl ⟨c :: others, ?_, ?_⟩
    · rw [shape, List.append_assoc]
      rfl
    · have length : others.length - 1 + 1 = others.length :=
        Nat.succ_pred_eq_of_pos (List.length_pos_of_ne_nil queues.some)
      refine ⟨List.cons_ne_nil _ _, ?_, ?_, ?_, ?_⟩
      · rw [List.flatMap_cons, queues.octets]
      · intro cb member
        rcases List.mem_cons.mp member with rfl | later
        · exact measured
        · exact queues.measured cb later
      · rw [List.map_cons, queues.firsts, flag, List.length_cons,
          Nat.add_sub_cancel, ← List.replicate_succ, length]
      · rw [List.map_cons, queues.lasts, open_, List.length_cons,
          Nat.add_sub_cancel, ← length, List.replicate_succ, length]
        rfl
  · cases built
    rw [Queue.written_put new] at shape
    refine .inl ⟨[cb'], shape, List.cons_ne_nil _ _, ?_, ?_, ?_, ?_⟩
    · rw [List.flatMap_singleton, grown.octets]
    · intro cb member
      rw [List.mem_singleton.mp member]
      exact grown.measured
    · rw [List.map_singleton, grown.first, flag, Bool.or_false]
      rfl
    · rw [List.map_singleton, grown.last, open_, Bool.false_or]
      rfl

theorem broken_of_cut {q : Queue} {c : Chunk} {after : List Chunk}
    (new : c.addr = q.fresh)
    (broken : Broken (some c) (q.waiting ++ [c]) after)
    (building : Option Chunk) : Broken building q.waiting after := by
  rcases broken with ⟨others, shape, wrong⟩ | ⟨cb, cb', built, -, shape, wrong⟩
  · obtain ⟨cb, member, wrong⟩ := wrong
    refine .inl ⟨c :: others, ?_, cb, List.mem_cons_of_mem _ member, wrong⟩
    rw [shape, List.append_assoc]
    rfl
  · cases built
    rw [Queue.written_put new] at shape
    exact .inl ⟨[cb'], shape, cb', List.mem_singleton_self _, wrong⟩

theorem broken_of_carried {q : Queue} {c : Chunk} {first last : Bool}
    {rest : List UInt8} {after : List Chunk}
    (len : c.len = (dataLen c.dlen).toUInt16) (wrong : ¬c.Measured)
    (carried : Carried (some c) first last rest (q.waiting ++ [c]) after)
    (building : Option Chunk) : Broken building q.waiting after := by
  rcases carried with ⟨others, shape, -⟩ | ⟨cb, cb', built, -, shape, grown⟩
  · refine .inl ⟨c :: others, ?_, c, List.mem_cons_self, wrong⟩
    rw [shape, List.append_assoc]
    rfl
  · cases built
    refine absurd ?_ wrong
    obtain ⟨size, header⟩ := grown.measured
    have total := congrArg List.length grown.octets
    rw [List.length_append] at total
    unfold msgdsize at size
    rw [grown.dlen, total] at size
    refine ⟨by unfold msgdsize; omega, ?_⟩
    rw [len, toNat_len]
    have bound := cb'.len.toNat_lt
    rw [header, grown.dlen] at bound
    unfold dataLen at bound ⊢
    omega

theorem closing_last (closes : w.dflags.last = true → flags.last = true) :
    (w.closing flags).dflags.last = flags.last := by
  show (w.dflags.last || flags.last) = flags.last
  cases last : w.dflags.last with
  | false => rfl
  | true => rw [closes last, Bool.or_true]

theorem appended_carried {cb : Chunk} (measured : w.mlen = msgdsize w.dp)
    (found : w.building = some cb)
    (closes : w.dflags.last = true → flags.last = true) :
    (cb.dlen = msgdsize cb.data ∧ dataLen (cb.dlen + w.mlen) < 2 ^ 16 →
      Carried w.building w.dflags.first flags.last (contents w.dp)
        w.lane.queue.waiting
        ((w.closing flags).appended cb).lane.queue.waiting) ∧
      (¬(cb.dlen = msgdsize cb.data ∧ dataLen (cb.dlen + w.mlen) < 2 ^ 16) →
        Broken w.building w.lane.queue.waiting
          ((w.closing flags).appended cb).lane.queue.waiting) := by
  obtain ⟨held, -, -⟩ := building_mem found
  have size : ((w.closing flags).joined cb).Measured ↔
      cb.dlen = msgdsize cb.data ∧ dataLen (cb.dlen + w.mlen) < 2 ^ 16 := by
    refine and_congr ?_ (toNat_len _)
    show cb.dlen + w.mlen = msgdsize (cb.data ++ w.dp) ↔ _
    unfold msgdsize at measured ⊢
    rw [contents_append, List.length_append]
    omega
  rw [← size]
  constructor
  · intro right
    refine .inr ⟨cb, _, found, held, rfl, ?_, right, ?_, rfl, ?_⟩
    · exact contents_append cb.data w.dp
    · exact congrArg (cb.dlen + ·) measured
    · exact congrArg (cb.flags.last || ·) (closing_last closes)
  · intro wrong
    exact .inr ⟨cb, _, found, held, rfl, wrong⟩

theorem whole_carried (measured : w.mlen = msgdsize w.dp)
    (closes : w.dflags.last = true → flags.last = true) :
    (dataLen w.mlen < 2 ^ 16 →
      Carried w.building w.dflags.first flags.last (contents w.dp)
        w.lane.queue.waiting
        ((w.closing flags).queued w.dp w.mlen).lane.queue.waiting) ∧
      (¬dataLen w.mlen < 2 ^ 16 →
        Broken w.building w.lane.queue.waiting
          ((w.closing flags).queued w.dp w.mlen).lane.queue.waiting) := by
  have size := measured_chunk (w.closing flags) w.dp w.mlen
  rw [and_iff_right measured] at size
  rw [← size]
  constructor
  · intro right
    refine .inl ⟨[(w.closing flags).chunk w.dp w.mlen], rfl,
      List.cons_ne_nil _ _, List.flatMap_singleton _ _, ?_, rfl, ?_⟩
    · intro cb member
      rw [List.mem_singleton.mp member]
      exact right
    · exact congrArg (fun last => [last]) (closing_last closes)
  · intro wrong
    exact .inl ⟨_, rfl, _, List.mem_singleton_self _, wrong⟩

theorem cut_measured {dlen : Nat} (measured : w.mlen = msgdsize w.dp)
    (within : dlen ≤ w.mlen) (bp : List Block) :
    ((w.trimmed dlen).queued bp dlen).mlen =
      msgdsize ((w.trimmed dlen).queued bp dlen).dp := by
  show w.mlen - dlen = msgdsize (trimhead w.dp dlen).1
  rw [measured] at within ⊢
  unfold msgdsize
  rw [(trimhead_spec within).1, List.length_drop]

theorem cut_carried {dlen fuel : Nat} {turns : Nat → Turn} {last : Bool}
    {after : List Chunk} (measured : w.mlen = msgdsize w.dp)
    (within : dlen ≤ w.mlen) (positive : 0 < dlen)
    (later :
      (AllClean amps flags turns fuel
          ((w.trimmed dlen).queued (trimtail w.dp dlen).1 dlen) →
        Carried
          ((w.trimmed dlen).queued (trimtail w.dp dlen).1 dlen).building
          false last (contents (trimhead w.dp dlen).1)
          (w.lane.queue.waiting ++
            [(w.trimmed dlen).chunk (trimtail w.dp dlen).1 dlen]) after) ∧
        (¬AllClean amps flags turns fuel
            ((w.trimmed dlen).queued (trimtail w.dp dlen).1 dlen) →
          Broken
            ((w.trimmed dlen).queued (trimtail w.dp dlen).1 dlen).building
            (w.lane.queue.waiting ++
              [(w.trimmed dlen).chunk (trimtail w.dp dlen).1 dlen]) after)) :
    ((Clears dlen w.dp ∧ dataLen dlen < 2 ^ 16) ∧
        AllClean amps flags turns fuel
          ((w.trimmed dlen).queued (trimtail w.dp dlen).1 dlen) →
      Carried w.building w.dflags.first last (contents w.dp)
        w.lane.queue.waiting after) ∧
      (¬((Clears dlen w.dp ∧ dataLen dlen < 2 ^ 16) ∧
          AllClean amps flags turns fuel
            ((w.trimmed dlen).queued (trimtail w.dp dlen).1 dlen)) →
        Broken w.building w.lane.queue.waiting after) := by
  rw [building_queued _ _ _ rfl] at later
  have size : ((w.trimmed dlen).chunk (trimtail w.dp dlen).1 dlen).Measured ↔
      Clears dlen w.dp ∧ dataLen dlen < 2 ^ 16 := by
    rw [measured_chunk]
    refine and_congr_left fun _ => ?_
    constructor
    · intro whole
      by_contra behind
      have short := trimtail_of_not_clears positive behind
      unfold msgdsize at whole
      omega
    · intro clears
      unfold msgdsize at measured ⊢
      rw [trimtail_of_clears clears, List.length_take, ← measured,
        Nat.min_eq_left within]
  rw [← size]
  constructor
  · rintro ⟨right, clean⟩
    have whole : contents w.dp =
        contents ((w.trimmed dlen).chunk (trimtail w.dp dlen).1 dlen).data ++
          contents (trimhead w.dp dlen).1 := by
      have inside : dlen ≤ msgdsize w.dp := measured ▸ within
      exact (contents_cut inside (size.mp right).1).symm
    rw [whole]
    exact carried_of_cut rfl rfl right rfl (later.1 clean) _
  · intro unclean
    by_cases clean : AllClean amps flags turns fuel
        ((w.trimmed dlen).queued (trimtail w.dp dlen).1 dlen)
    · have wrong : ¬((w.trimmed dlen).chunk (trimtail w.dp dlen).1
          dlen).Measured := fun right => unclean ⟨right, clean⟩
      exact broken_of_carried rfl wrong (later.1 clean) _
    · exact broken_of_cut rfl (later.2 clean) _

theorem loop_done (amps : Nat) (flags : Flags) (turns : Nat → Turn)
    (fuel : Nat) (w : Writing) (done : w.mlen = 0) :
    loop amps flags turns fuel w = (w, .ok) := by
  cases fuel with
  | zero => rfl
  | succ fuel =>
      unfold loop
      rw [if_pos done]

theorem Passes.shorter {w' : Writing} (measured : w.mlen = msgdsize w.dp)
    (passes : Passes amps flags t w (.go w')) (more : 0 < w'.mlen) :
    w'.mlen = msgdsize w'.dp ∧ w'.mlen < w.mlen := by
  cases passes with
  | cut swnd avail cuts granted =>
      have within := Nat.le_of_lt cuts.short
      refine ⟨cut_measured measured within _, ?_⟩
      exact Nat.sub_lt (Nat.lt_of_le_of_lt (Nat.zero_le _) cuts.short) cuts.some
  | whole swnd avail fits apart =>
      exact absurd (Nat.sub_self w.mlen) (Nat.ne_of_gt more)

def Leads (going : Writing → Prop) (done : Writing → Errno → Prop) :
    Outcome → Prop
  | .go w => (0 < w.mlen → going w) ∧ (w.mlen = 0 → done w .ok)
  | .stop w ret => done w ret

theorem loop_rule (amps : Nat) (flags : Flags) (met : Turn → Writing → Prop)
    (going : Writing → Prop) (done : Writing → Errno → Prop)
    (step : ∀ {t w o}, going w → 0 < w.mlen → w.mlen = msgdsize w.dp →
      met t w → Passes amps flags t w o → Leads going done o)
    {turns : Nat → Turn} {fuel : Nat} {w : Writing} (start : going w)
    (measured : w.mlen = msgdsize w.dp) (some : 0 < w.mlen)
    (enough : w.mlen ≤ fuel)
    (every : EveryPass met amps flags turns fuel w) :
    done (loop amps flags turns fuel w).1
      (loop amps flags turns fuel w).2 := by
  induction fuel generalizing w with
  | zero => omega
  | succ fuel ih =>
      have nonzero : ¬w.mlen = 0 := Nat.ne_of_gt some
      unfold EveryPass at every
      obtain ⟨here, later⟩ := every.resolve_left nonzero
      unfold loop
      rw [if_neg nonzero]
      have passes := pass_passes amps flags (turns fuel) measured
      have leads := step start some measured here passes
      cases passed : pass amps flags (turns fuel) w with
      | stop w' ret =>
          rw [passed] at leads
          exact leads
      | go w' =>
          rw [passed] at leads later
          dsimp only at later ⊢
          by_cases rest : w'.mlen = 0
          · rw [loop_done _ _ _ _ _ rest]
            exact leads.2 rest
          have more := Nat.pos_of_ne_zero rest
          rw [passed] at passes
          obtain ⟨measured', shorter⟩ := passes.shorter measured more
          exact ih (leads.1 more) measured' more
            (Nat.le_of_lt_succ (Nat.lt_of_lt_of_le shorter enough)) later

theorem EveryPass.mono {met met' : Turn → Writing → Prop}
    {turns : Nat → Turn} {fuel : Nat} {w : Writing}
    (weaker : ∀ t w, met t w → met' t w)
    (every : EveryPass met amps flags turns fuel w) :
    EveryPass met' amps flags turns fuel w := by
  induction fuel generalizing w with
  | zero => exact True.intro
  | succ fuel ih =>
      refine every.imp_right fun ⟨here, later⟩ => ⟨weaker _ _ here, ?_⟩
      split
      next w' passed =>
        rw [passed] at later
        exact ih later
      next => exact True.intro

theorem everyPass_of {met : Turn → Writing → Prop}
    (all : ∀ t w, met t w) (turns : Nat → Turn) (fuel : Nat) (w : Writing) :
    EveryPass met amps flags turns fuel w := by
  induction fuel generalizing w with
  | zero => exact True.intro
  | succ fuel ih =>
      refine .inr ⟨all _ _, ?_⟩
      split
      next w' _ => exact ih w'
      next => exact True.intro

theorem loop_carried (amps : Nat) (flags : Flags) (turns : Nat → Turn)
    (fuel : Nat) (w : Writing) (measured : w.mlen = msgdsize w.dp)
    (some : 0 < w.mlen) (enough : w.mlen ≤ fuel)
    (closes : w.dflags.last = true → flags.last = true)
    (taken : (loop amps flags turns fuel w).2 = .ok) :
    (AllClean amps flags turns fuel w →
      Carried w.building w.dflags.first flags.last (contents w.dp)
        w.lane.queue.waiting
        (loop amps flags turns fuel w).1.lane.queue.waiting) ∧
      (¬AllClean amps flags turns fuel w →
        Broken w.building w.lane.queue.waiting
          (loop amps flags turns fuel w).1.lane.queue.waiting) := by
  induction fuel generalizing w with
  | zero => omega
  | succ fuel ih =>
      have nonzero : ¬w.mlen = 0 := Nat.ne_of_gt some
      unfold loop at taken ⊢
      rw [allClean_succ]
      rw [if_neg nonzero] at taken ⊢
      have passes := pass_passes amps flags (turns fuel) measured
      cases passed : pass amps flags (turns fuel) w with
      | stop w' ret =>
          rw [passed] at taken passes
          dsimp only at taken ⊢
          rw [taken] at passes
          simp only [nonzero, false_or, and_true]
          cases passes with
          | append swnd avail fits cb found room =>
              rw [clean_of_append avail fits found room]
              exact appended_carried measured found closes
      | go w' =>
          rw [passed] at taken passes
          dsimp only at taken ⊢
          simp only [nonzero, false_or]
          generalize outcome : Outcome.go w' = o at passes
          cases passes with
          | cut swnd avail cuts granted =>
              cases outcome
              rw [clean_of_overlong avail cuts.overlong]
              have within := Nat.le_of_lt cuts.short
              have later := ih _ ?_ ?_ ?_ ?_ taken
              · exact cut_carried measured within cuts.some later
              · exact cut_measured measured within _
              · exact Nat.sub_pos_of_lt cuts.short
              · exact Nat.le_of_lt_succ (Nat.lt_of_lt_of_le
                  (Nat.sub_lt some cuts.some) enough)
              · exact nofun
          | whole swnd avail fits apart =>
              cases outcome
              rw [clean_of_whole avail fits apart]
              rw [loop_done _ _ _ _ _ (Nat.sub_self w.mlen)]
              have clean : AllClean amps flags turns fuel
                  ((w.closing flags).queued w.dp w.mlen) := by
                cases fuel with
                | zero => exact True.intro
                | succ n => exact .inl (Nat.sub_self w.mlen)
              simp only [clean, and_true]
              exact whole_carried measured closes
          | _ => cases outcome

end Writing

section Requests

variable (amps : Nat) (turns : Nat → Turn) (lane : Lane) (ppi : UInt32)
  (ord more rcpt : Bool) (mp : List Block)

theorem request_queue :
    (lane.request ppi ord more rcpt mp).lane.queue = lane.queue := by
  unfold Lane.request
  dsimp only
  split <;> rfl

theorem request_building :
    (lane.request ppi ord more rcpt mp).building = lane.building := by
  unfold Writing.building Lane.building Lane.request
  dsimp only
  split <;> rfl

/-- A message that is accepted is carried as it should be exactly where no
fragment is cut behind the first block that holds data, and no length exceeds
its field. -/
theorem carried_iff_clean (found : Bool) (some : msgdsize mp ≠ 0)
    (taken : (sctpDataReq amps turns lane found ppi ord more rcpt mp).2.2 =
      .ok) :
    Carried lane.building (!lane.part.more) (!more) (contents mp)
        lane.queue.waiting
        (sctpDataReq amps turns lane found ppi ord more rcpt
          mp).1.queue.waiting ↔
      Writing.AllClean amps (lane.request ppi ord more rcpt mp).dflags turns
        (msgdsize mp) (lane.request ppi ord more rcpt mp) := by
  unfold sctpDataReq at taken ⊢
  rw [if_neg some] at taken ⊢
  cases found with
  | false => cases taken
  | true =>
      obtain ⟨right, wrong⟩ := Writing.loop_carried amps
        (lane.request ppi ord more rcpt mp).dflags turns (msgdsize mp)
        (lane.request ppi ord more rcpt mp) rfl (Nat.pos_of_ne_zero some)
        (Nat.le_refl _) id taken
      rw [request_building, request_queue] at right wrong
      constructor
      · intro carried
        by_contra unclean
        exact carried.not_broken (wrong unclean)
      · exact right

end Requests

def idleLane : Lane :=
  { sid := 0, ssn := 0xffff, part := { ppi := 0, head := none, more := false }
    queue := { sent := [], waiting := [], qCount := 0 }, msg := 0 }

def openTurn : Turn := { avail := some 4000, noDup := false, noChunk := false }

theorem carried_in_one_block :
    Carried idleLane.building (!idleLane.part.more) (!false)
        (contents [⟨true, List.replicate 120 7⟩]) idleLane.queue.waiting
        (sctpDataReq 100 (fun _ => openTurn) idleLane true 0 true false false
          [⟨true, List.replicate 120 7⟩]).1.queue.waiting ↔
      Writing.AllClean 100
        (idleLane.request 0 true false false
          [⟨true, List.replicate 120 7⟩]).dflags (fun _ => openTurn)
        (msgdsize [⟨true, List.replicate 120 7⟩])
        (idleLane.request 0 true false false
          [⟨true, List.replicate 120 7⟩]) :=
  carried_iff_clean 100 (fun _ => openTurn) idleLane 0 true false false
    [⟨true, List.replicate 120 7⟩] true (by decide) (by decide +kernel)

theorem lost_in_two_blocks :
    (sctpDataReq 100 (fun _ => openTurn) idleLane true 0 true false false
        [⟨true, List.replicate 20 7⟩, ⟨true, List.replicate 100 7⟩]).2.2 =
        .ok ∧
      (sctpDataReq 100 (fun _ => openTurn) idleLane true 0 true false false
        [⟨true, List.replicate 20 7⟩,
          ⟨true, List.replicate 100 7⟩]).1.queue.waiting.map
          (fun cb => (cb.dlen, msgdsize cb.data)) = [(84, 64), (36, 36)] ∧
      ¬Carried idleLane.building (!idleLane.part.more) (!false)
        (contents [⟨true, List.replicate 20 7⟩, ⟨true, List.replicate 100 7⟩])
        idleLane.queue.waiting
        (sctpDataReq 100 (fun _ => openTurn) idleLane true 0 true false false
          [⟨true, List.replicate 20 7⟩,
            ⟨true, List.replicate 100 7⟩]).1.queue.waiting := by
  have lengths : (sctpDataReq 100 (fun _ => openTurn) idleLane true 0 true
      false false [⟨true, List.replicate 20 7⟩,
        ⟨true, List.replicate 100 7⟩]).1.queue.waiting.map
      (fun cb => (cb.dlen, msgdsize cb.data)) = [(84, 64), (36, 36)] := by
    decide +kernel
  refine ⟨by decide +kernel, lengths, ?_⟩
  rintro (⟨new, shape, queues⟩ | ⟨cb, cb', built, -⟩)
  · have equal : ∀ p ∈ new.map (fun cb => (cb.dlen, msgdsize cb.data)),
        p.1 = p.2 := by
      intro p member
      obtain ⟨cb, held, rfl⟩ := List.mem_map.mp member
      exact (queues.measured cb held).1
    rw [show _ = new from shape] at lengths
    rw [lengths] at equal
    exact absurd (equal _ List.mem_cons_self) (by decide)
  · cases built

end OpenSS7.Sctp.Sending
