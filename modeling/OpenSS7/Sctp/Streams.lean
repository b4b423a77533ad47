import OpenSS7.Lib.Runs
import OpenSS7.Sctp.Sending
import Mathlib.Logic.Function.Basic

/-!
The outbound streams of an association: messages are written to them, and
their chunks are bundled into packets, in any order.
-/

namespace OpenSS7.Sctp.Sending

/-- An outbound stream. `nMsg` and `xMsg` count the messages that have been
written to the end, which the code does not. -/
structure Strm where
  ssn : UInt16
  n : Part
  x : Part
  nMsg : Nat
  xMsg : Nat

structure Assoc where
  ostrm : UInt16 → Strm
  sndq : Queue
  urgq : Queue

/-- The arguments of `sctp_data_req`, and what the call meets. -/
structure Request where
  amps : Nat
  turns : Nat → Turn
  found : Bool
  ppi : UInt32
  sid : UInt16
  ord : Bool
  more : Bool
  rcpt : Bool
  mp : List Block

namespace Request

/-- `sctp_data_req`, on what it selects of the stream -/
def write (r : Request) (lane : Lane) : Lane × List Block × Errno :=
  sctpDataReq r.amps r.turns lane r.found r.ppi r.ord r.more r.rcpt r.mp

/-- The loop of `sctp_send_data` as it is entered. -/
def entry (r : Request) (lane : Lane) : Writing :=
  lane.request r.ppi r.ord r.more r.rcpt r.mp

def ends (r : Request) (lane : Lane) (ret : Errno) : Bool :=
  ret = .ok && !r.more && (msgdsize r.mp ≠ 0 || lane.part.more)

def after (r : Request) (lane : Lane) : Lane :=
  let (lane', _, ret) := r.write lane
  { lane' with msg := if r.ends lane ret then lane'.msg + 1 else lane'.msg }

def number (r : Request) (lane : Lane) : UInt16 :=
  if r.ord then lane.ssn + 1 else 0

end Request

inductive Event where
  | dataReq (r : Request)
  | bundle (ord noDup : Bool)

def Lane.steal (lane : Lane) (mp : Chunk) (noDup : Bool) : Lane :=
  { lane with
    part :=
      if lane.part.head = some mp.addr then { lane.part with head := none }
      else lane.part
    queue := if noDup then lane.queue else lane.queue.take }

namespace Assoc

def queue (sp : Assoc) (ord : Bool) : Queue :=
  if ord then sp.sndq else sp.urgq

def lane (sp : Assoc) (ord : Bool) (sid : UInt16) : Lane :=
  let st := sp.ostrm sid
  { sid := sid
    ssn := st.ssn
    part := if ord then st.n else st.x
    queue := sp.queue ord
    msg := if ord then st.nMsg else st.xMsg }

def put (sp : Assoc) (ord : Bool) (lane : Lane) : Assoc :=
  let st := sp.ostrm lane.sid
  if ord then
    { sp with
      ostrm :=
        Function.update sp.ostrm lane.sid
          { st with ssn := lane.ssn, n := lane.part, nMsg := lane.msg }
      sndq := lane.queue }
  else
    { sp with
      ostrm :=
        Function.update sp.ostrm lane.sid
          { st with ssn := lane.ssn, x := lane.part, xMsg := lane.msg }
      urgq := lane.queue }

/-- `sctp_data_req` -/
def dataReq (sp : Assoc) (r : Request) : Assoc × List Block × Errno :=
  (sp.put r.ord (r.after (sp.lane r.ord r.sid)),
    (r.write (sp.lane r.ord r.sid)).2)

/-- `sctp_bundle_data_normal` and `sctp_bundle_data_urgent`, for the chunk in
front -/
def bundle (sp : Assoc) (ord noDup : Bool) : Assoc :=
  match (sp.queue ord).waiting with
  | [] => sp
  | mp :: _ => sp.put ord ((sp.lane ord mp.sid).steal mp noDup)

def step (sp : Assoc) : Event → Assoc
  | .dataReq r => (sp.dataReq r).1
  | .bundle ord noDup => sp.bundle ord noDup

def run (sp : Assoc) (events : List Event) : Assoc := events.foldl step sp

end Assoc

def Chunk.tag (cb : Chunk) : Nat × UInt16 × UInt16 × Nat :=
  (cb.addr, cb.sid, cb.ssn, cb.msg)

def Lane.Owned (lane : Lane) : Prop :=
  ∀ addr, lane.part.head = some addr →
    ∃ cb ∈ lane.queue.waiting, cb.addr = addr ∧ cb.sid = lane.sid

def Queue.Distinct (q : Queue) : Prop := (q.waiting.map Chunk.addr).Nodup

structure Grows (lane lane' : Lane) (ssn : UInt16) (new : List Nat) :
    Prop where
  sid : lane'.sid = lane.sid
  msg : lane'.msg = lane.msg
  sent : lane'.queue.sent = lane.queue.sent
  tags : lane'.queue.waiting.map Chunk.tag =
    lane.queue.waiting.map Chunk.tag ++
      new.map fun addr => (addr, lane.sid, ssn, lane.msg)
  distinct : lane'.queue.Distinct
  others : lane'.queue.waiting.filter (fun cb => cb.sid ≠ lane.sid) =
    lane.queue.waiting.filter fun cb => cb.sid ≠ lane.sid
  head : ∀ addr, lane'.part.head = some addr →
    lane.part.head = some addr ∨ addr ∈ new

namespace Queue

variable {q : Queue} {cb cb' : Chunk}

theorem Distinct.eq (distinct : q.Distinct) (held : cb ∈ q.waiting)
    (held' : cb' ∈ q.waiting) (same : cb.addr = cb'.addr) : cb = cb' :=
  List.inj_on_of_nodup_map distinct held held' same

theorem Distinct.find (distinct : q.Distinct) (held : cb ∈ q.waiting) :
    q.find cb.addr = some cb := by
  cases found : q.find cb.addr with
  | none =>
      have missing := List.find?_eq_none.mp found cb held
      simp at missing
  | some c =>
      obtain ⟨held', same⟩ := mem_of_find found
      rw [distinct.eq held' held same]

theorem Distinct.put (distinct : q.Distinct) (new : cb.addr = q.fresh) :
    (q.put cb).Distinct := by
  unfold Distinct Queue.put
  rw [List.map_append]
  refine distinct.append (List.nodup_singleton _) ?_
  intro addr held here
  obtain ⟨c, held', same⟩ := List.mem_map.mp held
  rw [List.map_singleton, List.mem_singleton] at here
  have below := addr_lt_fresh held'
  omega

theorem Distinct.take (distinct : q.Distinct) : q.take.Distinct := by
  unfold Distinct Queue.take
  unfold Distinct at distinct
  cases waiting : q.waiting with
  | nil =>
      dsimp only
      rw [waiting]
      exact List.nodup_nil
  | cons c rest =>
      rw [waiting, List.map_cons, List.nodup_cons] at distinct
      exact distinct.2

theorem all_take (q : Queue) : q.take.all = q.all := by
  unfold all Queue.take
  split
  next => rfl
  next mp rest waiting => rw [waiting, List.append_assoc]; rfl

theorem mem_of_mem_take (held : cb ∈ q.take.waiting) : cb ∈ q.waiting := by
  unfold Queue.take at held
  split at held
  next => exact held
  next mp rest waiting =>
    rw [waiting]
    exact List.mem_cons_of_mem _ held

theorem map_written {β : Type} (f : Chunk → β) (distinct : q.Distinct)
    (held : cb ∈ q.waiting) (same : f cb' = f cb) :
    (written cb cb' q.waiting).map f = q.waiting.map f := by
  unfold written
  rw [List.map_map]
  refine List.map_congr_left fun c held' => ?_
  show f (if c.addr = cb.addr then cb' else c) = f c
  split
  next addr => rw [same, distinct.eq held' held addr]
  next => rfl

theorem filter_written {p : Chunk → Bool} (distinct : q.Distinct)
    (held : cb ∈ q.waiting) (before : p cb = false) (after : p cb' = false) :
    (written cb cb' q.waiting).filter p = q.waiting.filter p := by
  unfold written
  unfold Distinct at distinct
  generalize q.waiting = waiting at distinct held
  induction waiting with
  | nil => rfl
  | cons c rest ih =>
      rw [List.map_cons, List.nodup_cons] at distinct
      rw [List.map_cons]
      by_cases addr : c.addr = cb.addr
      · have here : c = cb := by
          rcases List.mem_cons.mp held with same | later
          · exact same.symm
          · exact absurd (addr ▸ List.mem_map_of_mem later) distinct.1
        have beyond : rest.map
            (fun c => if c.addr = cb.addr then cb' else c) = rest := by
          rw [List.map_congr_left (g := id), List.map_id]
          intro c' held'
          refine if_neg fun addr' => distinct.1 ?_
          rw [addr, ← addr']
          exact List.mem_map_of_mem held'
        rw [if_pos addr, beyond]
        rw [List.filter_cons_of_neg (by simp [after])]
        rw [List.filter_cons_of_neg (by simp [here, before])]
      · have later : cb ∈ rest :=
          (List.mem_cons.mp held).resolve_left fun same => addr (same ▸ rfl)
        rw [if_neg addr, List.filter_cons, List.filter_cons,
          ih distinct.2 later]

end Queue

namespace Grows

variable {lane lane' : Lane} {ssn : UInt16} {new : List Nat}

theorem refl (distinct : lane.queue.Distinct) (ssn : UInt16) :
    Grows lane lane ssn [] :=
  { sid := rfl, msg := rfl, sent := rfl, tags := (List.append_nil _).symm
    distinct := distinct, others := rfl, head := fun _ => .inl }

theorem owned (grows : Grows lane lane' ssn new) (owned : lane.Owned) :
    lane'.Owned := by
  intro addr head
  suffices held : (addr, lane.sid) ∈
      (lane'.queue.waiting.map Chunk.tag).map fun tag => (tag.1, tag.2.1) by
    rw [List.map_map] at held
    obtain ⟨cb, held, same⟩ := List.mem_map.mp held
    rw [grows.sid]
    exact ⟨cb, held, congrArg Prod.fst same, congrArg Prod.snd same⟩
  rw [grows.tags, List.map_append, List.mem_append]
  rcases grows.head addr head with before | added
  · obtain ⟨cb, held, rfl, same⟩ := owned addr before
    left
    rw [List.map_map, ← same]
    exact List.mem_map_of_mem held
  · right
    rw [List.map_map]
    exact List.mem_map.mpr ⟨addr, added, rfl⟩

theorem mem_others (grows : Grows lane lane' ssn new) {cb : Chunk}
    (other : cb.sid ≠ lane.sid) :
    cb ∈ lane'.queue.waiting ↔ cb ∈ lane.queue.waiting := by
  have filtered (chunks : List Chunk) :
      cb ∈ chunks.filter (fun cb => cb.sid ≠ lane.sid) ↔ cb ∈ chunks := by
    rw [List.mem_filter, decide_eq_true_eq]
    exact and_iff_left other
  rw [← filtered, grows.others, filtered]

variable {w : Writing}

theorem queued (grows : Grows lane w.lane ssn new)
    (number : ssn = if w.dflags.urg then 0 else w.lane.ssn + 1)
    (bp : List Block) (dlen : Nat) :
    Grows lane (w.queued bp dlen).lane ssn
      (new ++ [w.lane.queue.fresh]) := by
  refine ⟨grows.sid, grows.msg, grows.sent, ?_, ?_, ?_, ?_⟩
  · show (w.lane.queue.waiting ++ [w.chunk bp dlen]).map Chunk.tag = _
    rw [List.map_append, grows.tags, List.map_append, List.append_assoc]
    rw [List.map_singleton, List.map_singleton, number, ← grows.sid,
      ← grows.msg]
    rfl
  · exact grows.distinct.put rfl
  · show (w.lane.queue.waiting ++ [w.chunk bp dlen]).filter _ = _
    rw [List.filter_append, grows.others]
    rw [List.filter_cons_of_neg, List.filter_nil, List.append_nil]
    exact fun other => of_decide_eq_true other grows.sid
  · intro addr head
    right
    unfold Writing.queued at head
    dsimp only at head
    split at head
    · cases head
    · cases head
      exact List.mem_append_right _ (List.mem_singleton_self _)

theorem appended (grows : Grows lane w.lane ssn new) (owned : lane.Owned)
    {cb : Chunk} (found : w.building = some cb) :
    Grows lane (w.appended cb).lane ssn new := by
  obtain ⟨held, -, head⟩ := Writing.building_mem found
  have own : cb.sid = lane.sid := by
    obtain ⟨c, held', addr, sid⟩ := grows.owned owned cb.addr head
    rw [← grows.distinct.eq held' held addr, sid, grows.sid]
  refine ⟨grows.sid, grows.msg, grows.sent, ?_, ?_, ?_, ?_⟩
  · show (written cb (w.joined cb) w.lane.queue.waiting).map Chunk.tag = _
    have tags : (written cb (w.joined cb) w.lane.queue.waiting).map
        Chunk.tag = w.lane.queue.waiting.map Chunk.tag :=
      Queue.map_written _ grows.distinct held rfl
    exact tags.trans grows.tags
  · show ((written cb (w.joined cb) w.lane.queue.waiting).map
      Chunk.addr).Nodup
    have addrs : (written cb (w.joined cb) w.lane.queue.waiting).map
        Chunk.addr = w.lane.queue.waiting.map Chunk.addr :=
      Queue.map_written _ grows.distinct held rfl
    rw [addrs]
    exact grows.distinct
  · show (written cb (w.joined cb) w.lane.queue.waiting).filter _ = _
    rw [Queue.filter_written grows.distinct held, grows.others]
    · exact decide_eq_false (not_not.mpr own)
    · exact decide_eq_false (not_not.mpr own)
  · intro addr head'
    unfold Writing.appended at head'
    dsimp only at head'
    split at head'
    · cases head'
    · exact grows.head addr head'

theorem pass {amps : Nat} {flags : Flags} {t : Turn} {o : Outcome}
    (grows : Grows lane w.lane ssn new) (owned : lane.Owned)
    (number : ssn = if w.dflags.urg then 0 else w.lane.ssn + 1)
    (passes : Writing.Passes amps flags t w o) :
    ∃ new', match o with
      | .go w' => Grows lane w'.lane ssn new'
      | .stop w' _ => Grows lane w'.lane ssn new' := by
  cases passes with
  | fault w' same =>
      refine ⟨new, ?_⟩
      show Grows lane w'.lane ssn new
      rw [same]
      exact grows
  | cut => exact ⟨_, queued (w := w.trimmed _) grows number _ _⟩
  | whole => exact ⟨_, queued (w := w.closing flags) grows number _ _⟩
  | append _ _ _ cb found =>
      exact ⟨_, appended (w := w.closing flags) grows owned found⟩
  | _ => exact ⟨new, grows⟩

end Grows

namespace Writing

variable {w : Writing}

theorem ssn_queued_of_more (more : w.dflags.last = false) (bp : List Block)
    (dlen : Nat) : (w.queued bp dlen).lane.ssn = w.lane.ssn := by
  unfold queued
  dsimp only
  rw [more, Bool.and_false]
  rfl

theorem ssn_queued_of_last (ordered : w.dflags.urg = false)
    (last : w.dflags.last = true) (bp : List Block) (dlen : Nat) :
    (w.queued bp dlen).lane.ssn = w.lane.ssn + 1 ∧
      (w.queued bp dlen).lane.part.head = none := by
  unfold queued chunk
  dsimp only
  rw [ordered, last]
  exact ⟨rfl, rfl⟩

theorem ssn_queued_of_urg (urg : w.dflags.urg = true) (bp : List Block)
    (dlen : Nat) : (w.queued bp dlen).lane.ssn = w.lane.ssn := by
  unfold queued
  dsimp only
  rw [urg]
  rfl

theorem ssn_cut (w : Writing) (bp : List Block) (dlen : Nat) :
    ((w.trimmed dlen).queued bp dlen).lane.ssn = w.lane.ssn :=
  ssn_queued_of_more (w := w.trimmed dlen) rfl bp dlen

theorem loop_grows (amps : Nat) (flags : Flags) (turns : Nat → Turn)
    {fuel : Nat} {lane : Lane} {ssn : UInt16} {new : List Nat}
    (grows : Grows lane w.lane ssn new) (owned : lane.Owned)
    (number : ssn = if w.dflags.urg then 0 else w.lane.ssn + 1)
    (some : 0 < w.mlen) (measured : w.mlen = msgdsize w.dp)
    (enough : w.mlen ≤ fuel) :
    (∃ new', Grows lane (loop amps flags turns fuel w).1.lane ssn new') ∧
      (w.dflags.urg = true →
        (loop amps flags turns fuel w).1.lane.ssn = w.lane.ssn) := by
  refine loop_rule amps flags (fun _ _ => True)
    (fun v => (∃ new', Grows lane v.lane ssn new') ∧
      v.dflags.urg = w.dflags.urg ∧ v.lane.ssn = w.lane.ssn)
    (fun v _ => (∃ new', Grows lane v.lane ssn new') ∧
      (w.dflags.urg = true → v.lane.ssn = w.lane.ssn))
    ?_ ⟨⟨new, grows⟩, rfl, rfl⟩ measured some enough
    (everyPass_of (fun _ _ => True.intro) _ _ _)
  rintro t v o ⟨⟨new, grows⟩, urg, same⟩ _ _ - passes
  have after := grows.pass owned (by rw [urg, same]; exact number) passes
  cases passes with
  | fault w' lane => exact ⟨after, fun _ => lane ▸ same⟩
  | cut =>
      refine ⟨fun _ => ⟨after, urg, ?_⟩, fun _ => ⟨after, fun _ => ?_⟩⟩
      · exact (ssn_cut v _ _).trans same
      · exact (ssn_cut v _ _).trans same
  | whole =>
      refine ⟨fun more => absurd (Nat.sub_self v.mlen) ?_, fun _ => ?_⟩
      · exact Nat.ne_of_gt more
      · refine ⟨after, fun unordered => ?_⟩
        refine (ssn_queued_of_urg (w := v.closing _) ?_ _ _).trans same
        exact urg.trans unordered
  | _ => exact ⟨after, fun _ => same⟩

end Writing

section Requests

variable (r : Request) {lane : Lane}

theorem Grows.of_entry (distinct : lane.queue.Distinct) (ssn : UInt16) :
    Grows lane (r.entry lane).lane ssn [] := by
  unfold Request.entry Lane.request
  dsimp only
  split
  · exact refl distinct _
  · exact { refl distinct ssn with head := fun _ => .inl }

theorem Request.ssn_entry : (r.entry lane).lane.ssn = lane.ssn := by
  unfold entry Lane.request
  dsimp only
  split <;> rfl

theorem Request.write_grows (distinct : lane.queue.Distinct)
    (owned : lane.Owned) :
    (∃ new, Grows lane (r.write lane).1 (r.number lane) new) ∧
      (r.ord = false → (r.write lane).1.ssn = lane.ssn) := by
  unfold write sctpDataReq
  by_cases none : msgdsize r.mp = 0
  · rw [if_pos none]
    exact ⟨⟨[], .refl distinct _⟩, fun _ => rfl⟩
  rw [if_neg none]
  cases r.found with
  | false => exact ⟨⟨[], .refl distinct _⟩, fun _ => rfl⟩
  | true =>
      have number : r.number lane =
          if (r.entry lane).dflags.urg then 0
          else (r.entry lane).lane.ssn + 1 := by
        rw [r.ssn_entry]
        unfold number entry Lane.request
        cases r.ord <;> rfl
      obtain ⟨grows, unordered⟩ := Writing.loop_grows r.amps
        (r.entry lane).dflags r.turns (.of_entry r distinct _) owned number
        (Nat.pos_of_ne_zero none) rfl (Nat.le_refl _)
      refine ⟨grows, fun ord => (unordered ?_).trans r.ssn_entry⟩
      exact congrArg not ord

end Requests

namespace Assoc

variable {sp : Assoc} {ord : Bool} {sid : UInt16} {lane : Lane}

theorem lane_put_self (sp : Assoc) (ord : Bool) (lane : Lane) :
    (sp.put ord lane).lane ord lane.sid = lane := by
  unfold put
  cases ord <;>
    simp [Assoc.lane, queue]

theorem lane_put_other (other : sid ≠ lane.sid) :
    (sp.put ord lane).lane ord sid =
      { sp.lane ord sid with queue := lane.queue } := by
  unfold put
  cases ord <;>
    simp [Assoc.lane, queue, other]

theorem queue_put (sp : Assoc) (ord : Bool) (lane : Lane) :
    (sp.put ord lane).queue ord = lane.queue := by
  unfold put
  cases ord <;> rfl

theorem ostrm_put_ordered (sp : Assoc) (lane : Lane) (sid : UInt16) :
    (sp.put true lane).ostrm sid =
      if sid = lane.sid then
        { sp.ostrm lane.sid with
          ssn := lane.ssn, n := lane.part, nMsg := lane.msg }
      else sp.ostrm sid :=
  Function.update_apply _ _ _ _

theorem ostrm_put_unordered (sp : Assoc) (lane : Lane) (sid : UInt16) :
    (sp.put false lane).ostrm sid =
      if sid = lane.sid then
        { sp.ostrm lane.sid with
          ssn := lane.ssn, x := lane.part, xMsg := lane.msg }
      else sp.ostrm sid :=
  Function.update_apply _ _ _ _

theorem lane_put_across {ord' : Bool} (across : ord' ≠ ord) :
    (sp.put ord lane).lane ord' sid =
      { sp.lane ord' sid with
        ssn := if sid = lane.sid then lane.ssn else (sp.ostrm sid).ssn } := by
  unfold put
  by_cases same : sid = lane.sid
  · subst same
    cases ord <;> cases ord' <;> simp_all [Assoc.lane, queue]
  · cases ord <;> cases ord' <;> simp_all [Assoc.lane, queue]

end Assoc

namespace Lane

variable {lane : Lane} {mp cb : Chunk} {noDup : Bool}

theorem head_steal {addr : Nat}
    (head : (lane.steal mp noDup).part.head = some addr) :
    lane.part.head = some addr ∧ addr ≠ mp.addr := by
  unfold steal at head
  dsimp only at head
  split at head
  next => cases head
  next ahead => exact ⟨head, fun here => ahead (here ▸ head)⟩

theorem all_steal (lane : Lane) (mp : Chunk) (noDup : Bool) :
    (lane.steal mp noDup).queue.all = lane.queue.all := by
  unfold steal
  cases noDup with
  | false => exact lane.queue.all_take
  | true => rfl

theorem mem_of_mem_steal (mp : Chunk) (noDup : Bool)
    (held : cb ∈ (lane.steal mp noDup).queue.waiting) :
    cb ∈ lane.queue.waiting := by
  unfold steal at held
  cases noDup with
  | false => exact Queue.mem_of_mem_take held
  | true => exact held

theorem mem_steal {rest : List Chunk} (front : lane.queue.waiting = mp :: rest)
    (held : cb ∈ lane.queue.waiting) (behind : cb.addr ≠ mp.addr) :
    cb ∈ (lane.steal mp noDup).queue.waiting := by
  unfold steal
  cases noDup with
  | true => exact held
  | false =>
      show cb ∈ lane.queue.take.waiting
      unfold Queue.take
      rw [front] at held ⊢
      exact (List.mem_cons.mp held).resolve_left
        fun same => behind (congrArg Chunk.addr same)

end Lane

structure Sound (sp : Assoc) : Prop where
  distinct : ∀ ord, (sp.queue ord).Distinct
  owned : ∀ ord sid, (sp.lane ord sid).Owned

namespace Sound

variable {sp : Assoc}

theorem put (sound : Sound sp) {ord : Bool} {lane : Lane}
    (distinct : lane.queue.Distinct) (owned : lane.Owned)
    (others : ∀ sid ≠ lane.sid, ∀ addr,
      (sp.lane ord sid).part.head = some addr →
      ∃ cb ∈ lane.queue.waiting, cb.addr = addr ∧ cb.sid = sid) :
    Sound (sp.put ord lane) := by
  constructor
  · intro ord'
    by_cases same : ord' = ord
    · rw [same, Assoc.queue_put]
      exact distinct
    · show ((sp.put ord lane).lane ord' lane.sid).queue.Distinct
      rw [Assoc.lane_put_across same]
      exact sound.distinct ord'
  · intro ord' sid
    by_cases same : ord' = ord
    · rw [same]
      by_cases own : sid = lane.sid
      · rw [own, Assoc.lane_put_self]
        exact owned
      · rw [Assoc.lane_put_other own]
        exact others sid own
    · rw [Assoc.lane_put_across same]
      exact sound.owned ord' sid

theorem dataReq (sound : Sound sp) (r : Request) : Sound (sp.dataReq r).1 := by
  obtain ⟨⟨new, grows⟩, -⟩ := r.write_grows (sound.distinct r.ord)
    (sound.owned r.ord r.sid)
  refine sound.put grows.distinct
    (grows.owned (sound.owned r.ord r.sid)) fun sid other addr head => ?_
  obtain ⟨cb, held, same, own⟩ := sound.owned r.ord sid addr head
  refine ⟨cb, (grows.mem_others ?_).mpr held, same, own⟩
  rw [own]
  exact fun here => other (here.trans grows.sid.symm)

theorem bundle (sound : Sound sp) (ord noDup : Bool) :
    Sound (sp.bundle ord noDup) := by
  unfold Assoc.bundle
  split
  next => exact sound
  next mp rest waiting =>
    have front : mp ∈ (sp.queue ord).waiting := by
      rw [waiting]
      exact List.mem_cons_self
    refine sound.put ?_ ?_ ?_
    · unfold Lane.steal
      dsimp only
      split
      · exact sound.distinct ord
      · exact (sound.distinct ord).take
    · intro addr head
      obtain ⟨head, behind⟩ := Lane.head_steal head
      obtain ⟨cb, held, same, own⟩ := sound.owned ord mp.sid addr head
      refine ⟨cb, Lane.mem_steal waiting held ?_, same, own⟩
      exact fun here => behind (same.symm.trans here)
    · intro sid other addr head
      obtain ⟨cb, held, same, own⟩ := sound.owned ord sid addr head
      refine ⟨cb, Lane.mem_steal waiting held fun here => other ?_, same, own⟩
      exact own.symm.trans (congrArg Chunk.sid
        ((sound.distinct ord).eq held front here))

theorem step (sound : Sound sp) (event : Event) : Sound (sp.step event) := by
  cases event with
  | dataReq r => exact sound.dataReq r
  | bundle ord noDup => exact sound.bundle ord noDup

end Sound

def Strm.alloc : Strm :=
  { ssn := 0xffff
    n := { ppi := 0, head := none, more := false }
    x := { ppi := 0, head := none, more := false }
    nMsg := 0
    xMsg := 0 }

def Assoc.alloc : Assoc :=
  { ostrm := fun _ => Strm.alloc
    sndq := { sent := [], waiting := [], qCount := 0 }
    urgq := { sent := [], waiting := [], qCount := 0 } }

theorem Sound.alloc : Sound Assoc.alloc :=
  { distinct := fun ord => by cases ord <;> exact List.nodup_nil
    owned := fun ord sid addr head => by cases ord <;> cases head }

end OpenSS7.Sctp.Sending
