import OpenSS7.Sctp.Streams

/-!
A message whose writing is refused on the way is written again from where it
was left.
-/

namespace OpenSS7.Sctp.Sending

def Lane.own (lane : Lane) : List Chunk :=
  lane.queue.all.filter fun cb => cb.sid = lane.sid

def octets (chunks : List Chunk) : List UInt8 :=
  chunks.flatMap fun cb => contents cb.data

structure Whole (message : List UInt8) (new : List Chunk) : Prop where
  octets : octets new = message
  firsts : new.map (fun cb => cb.flags.first) =
    (List.range new.length).map fun i => decide (i = 0)
  lasts : new.map (fun cb => cb.flags.last) =
    (List.range new.length).map fun i => decide (i + 1 = new.length)
  some : new ≠ []
  number : ∃ ssn, ∀ cb ∈ new, cb.ssn = ssn

structure Target where
  sid : UInt16
  ord : Bool
  ppi : UInt32
  rcpt : Bool

structure Attempt where
  before : List Event
  amps : Nat
  turns : Nat → Turn

namespace Target

def request (m : Target) (t : Attempt) (more : Bool) (mp : List Block) :
    Request :=
  { amps := t.amps, turns := t.turns, found := true, ppi := m.ppi
    sid := m.sid, ord := m.ord, more := more, rcpt := m.rcpt, mp := mp }

def submit (m : Target) : Assoc → List Block → List (List Block) →
    List Attempt → Option Assoc
  | _, _, _, [] => none
  | sp, mp, later, t :: ts =>
      let (sp, rest, ret) :=
        (sp.run t.before).dataReq (m.request t (!later.isEmpty) mp)
      match ret with
      | .ok =>
          match later with
          | [] => some sp
          | mp :: later => submit m sp mp later ts
      | .busy | .noBufs => submit m sp rest later ts
      | _ => none

def Elsewhere (m : Target) : Event → Prop
  | .dataReq r => r.ord = m.ord → r.sid ≠ m.sid
  | .bundle _ _ => True

end Target

namespace Writing

def Keeps (amps : Nat) (t : Turn) (w : Writing) : Prop :=
  ∀ swnd ∈ t.avail, w.Cuts amps t swnd →
    t.noChunk = false ∧ Clears (cutLen amps (w.awnd swnd)) w.dp

end Writing

namespace Target

def AllKeep (m : Target) : Assoc → List Block → List (List Block) →
    List Attempt → Prop
  | _, _, _, [] => True
  | sp, mp, later, t :: ts =>
      let r := m.request t (!later.isEmpty) mp
      let lane := (sp.run t.before).lane m.ord m.sid
      Writing.EveryPass (Writing.Keeps t.amps) t.amps (r.entry lane).dflags
          t.turns (msgdsize mp) (r.entry lane) ∧
        let (sp, rest, ret) := (sp.run t.before).dataReq r
        match ret with
        | .ok =>
            match later with
            | [] => True
            | mp :: later => AllKeep m sp mp later ts
        | .busy | .noBufs => AllKeep m sp rest later ts
        | _ => True

end Target

section Own

variable {lane : Lane} {cb cb' : Chunk} {base new : List Chunk}

theorem Queue.own_write {q : Queue} {sid : UInt16} (distinct : q.Distinct)
    (held : cb ∈ q.waiting) (own : cb.sid = sid) (own' : cb'.sid = sid)
    (dlen : Nat) :
    ∃ front back,
      q.all.filter (fun c => c.sid = sid) = front ++ cb :: back ∧
        (q.write cb.addr cb' dlen).all.filter (fun c => c.sid = sid) =
          front ++ cb' :: back ∧ cb ∉ back := by
  obtain ⟨ahead, behind, split⟩ := List.append_of_mem held
  have addrs := distinct
  unfold Queue.Distinct at addrs
  rw [split, List.map_append, List.map_cons] at addrs
  obtain ⟨-, later, apart⟩ := List.nodup_append.mp addrs
  have unlike : ∀ c ∈ behind, c.addr ≠ cb.addr := by
    intro c member same
    rw [List.nodup_cons] at later
    exact later.1 (same ▸ List.mem_map_of_mem member)
  have unlike' : ∀ c ∈ ahead, c.addr ≠ cb.addr := fun c member =>
    apart c.addr (List.mem_map_of_mem member) cb.addr List.mem_cons_self
  have others (chunks : List Chunk) (unlike : ∀ c ∈ chunks, c.addr ≠ cb.addr) :
      chunks.map (fun c => if c.addr = cb.addr then cb' else c) = chunks := by
    rw [List.map_congr_left (g := id), List.map_id]
    exact fun c member => if_neg (unlike c member)
  refine ⟨(q.sent ++ ahead).filter (fun c => c.sid = sid),
    behind.filter (fun c => c.sid = sid), ?_, ?_, ?_⟩
  · unfold Queue.all
    rw [split, ← List.append_assoc, List.filter_append]
    rw [List.filter_cons_of_pos (by simpa using own)]
  · unfold Queue.all Queue.write
    dsimp only
    rw [split, List.map_append, List.map_cons, if_pos rfl,
      others ahead unlike', others behind unlike]
    rw [← List.append_assoc, List.filter_append]
    rw [List.filter_cons_of_pos (by simpa using own')]
  · intro here
    exact unlike cb (List.mem_of_mem_filter here) rfl

theorem octets_append (chunks others : List Chunk) :
    octets (chunks ++ others) = octets chunks ++ octets others :=
  List.flatMap_append

theorem octets_cons (cb : Chunk) (chunks : List Chunk) :
    octets (cb :: chunks) = contents cb.data ++ octets chunks :=
  List.flatMap_cons

theorem octets_singleton (cb : Chunk) : octets [cb] = contents cb.data :=
  List.flatMap_singleton _ _

variable {w : Writing}

theorem own_queued (w : Writing) (bp : List Block) (dlen : Nat) :
    (w.queued bp dlen).lane.own = w.lane.own ++ [w.chunk bp dlen] := by
  show (w.lane.queue.sent ++ (w.lane.queue.waiting ++
    [w.chunk bp dlen])).filter _ = _
  have mine : (w.chunk bp dlen).sid = (w.queued bp dlen).lane.sid := rfl
  rw [← List.append_assoc, List.filter_append]
  rw [List.filter_cons_of_pos (by simpa using mine)]
  rfl

theorem sid_building (distinct : w.lane.queue.Distinct)
    (owned : w.lane.Owned) (found : w.building = some cb) :
    cb.sid = w.lane.sid := by
  obtain ⟨held, -, head⟩ := Writing.building_mem found
  obtain ⟨c, held', addr, sid⟩ := owned cb.addr head
  rw [← distinct.eq held' held addr, sid]

theorem own_appended (distinct : w.lane.queue.Distinct)
    (owned : w.lane.Owned) (found : w.building = some cb) :
    ∃ front back, w.lane.own = front ++ cb :: back ∧
      (w.appended cb).lane.own = front ++ w.joined cb :: back ∧
      cb ∉ back := by
  have own := sid_building distinct owned found
  have own' : (w.joined cb).sid = w.lane.sid := own
  exact Queue.own_write distinct (Writing.building_mem found).1 own own' w.mlen

theorem last_of_split {chunks front back : List Chunk}
    (split : chunks ++ [cb] = front ++ cb :: back) (apart : cb ∉ back) :
    front = chunks ∧ back = [] := by
  rcases List.eq_nil_or_concat back with none | ⟨init, c, some⟩
  · rw [none] at split
    exact ⟨(List.append_inj_left' split rfl).symm, none⟩
  · rw [some, List.concat_eq_append, ← List.cons_append,
      ← List.append_assoc] at split
    have same := List.append_inj_right' split rfl
    cases same
    refine absurd ?_ apart
    rw [some, List.concat_eq_append]
    exact List.mem_append_right _ List.mem_cons_self

end Own

structure Carrying (base : List Chunk) (ssn : UInt16) (got : List UInt8)
    (new : List Chunk) (lane : Lane) : Prop where
  own : lane.own = base ++ new
  octets : octets new = got
  firsts : new.map (fun cb => cb.flags.first) =
    (List.range new.length).map fun i => decide (i = 0)
  number : ∀ cb ∈ new, cb.ssn = ssn

structure Pending (base : List Chunk) (ssn : UInt16) (got : List UInt8)
    (new : List Chunk) (lane : Lane) : Prop
    extends Carrying base ssn got new lane where
  open_ : ∀ cb ∈ new, cb.flags.last = false
  more : lane.part.more = !new.isEmpty
  built : ∀ cb, lane.building = some cb → new.getLast? = some cb

structure Ended (base : List Chunk) (ssn : UInt16) (got : List UInt8)
    (new : List Chunk) (lane : Lane) : Prop
    extends Carrying base ssn got new lane where
  some : new ≠ []
  lasts : new.map (fun cb => cb.flags.last) =
    (List.range new.length).map fun i => decide (i + 1 = new.length)

theorem map_last {init : List Chunk} {cb : Chunk}
    (open_ : ∀ c ∈ init, c.flags.last = false) (last : cb.flags.last = true) :
    (init ++ [cb]).map (fun cb => cb.flags.last) =
      (List.range (init ++ [cb]).length).map
        fun i => decide (i + 1 = (init ++ [cb]).length) := by
  rw [List.length_append, List.length_singleton, List.range_succ,
    List.map_append, List.map_append, List.map_singleton, List.map_singleton,
    last, decide_eq_true rfl]
  congr 1
  refine List.ext_getElem (by simp) fun i small small' => ?_
  simp only [List.getElem_map, List.getElem_range]
  rw [open_ _ (List.getElem_mem _), eq_comm, decide_eq_false_iff_not]
  simp at small
  omega

namespace Pending

variable {base new : List Chunk} {ssn : UInt16} {got : List UInt8}
  {w : Writing}

theorem carrying_queued (pending : Pending base ssn got new w.lane)
    (first : w.dflags.first = new.isEmpty)
    (number : (if w.dflags.urg then 0 else w.lane.ssn + 1) = ssn)
    (bp : List Block) (dlen : Nat) :
    Carrying base ssn (got ++ contents bp) (new ++ [w.chunk bp dlen])
      (w.queued bp dlen).lane := by
  constructor
  · rw [own_queued, pending.own, List.append_assoc]
  · rw [octets_append, octets_singleton, pending.octets]
    rfl
  · rw [List.map_append, pending.firsts, List.length_append,
      List.length_singleton, List.range_succ, List.map_append,
      List.map_singleton, List.map_singleton]
    have same : (w.chunk bp dlen).flags.first = decide (new.length = 0) := by
      show w.dflags.first = _
      rw [first]
      cases new <;> rfl
    rw [same]
  · intro cb member
    rcases List.mem_append.mp member with before | here
    · exact pending.number cb before
    · rw [List.mem_singleton.mp here, ← number]
      rfl

theorem queued (pending : Pending base ssn got new w.lane)
    (first : w.dflags.first = new.isEmpty)
    (number : (if w.dflags.urg then 0 else w.lane.ssn + 1) = ssn)
    (last : w.dflags.last = false) (bp : List Block) (dlen : Nat) :
    Pending base ssn (got ++ contents bp) (new ++ [w.chunk bp dlen])
      (w.queued bp dlen).lane := by
  refine ⟨pending.carrying_queued first number bp dlen, ?_, ?_, ?_⟩
  · intro cb member
    rcases List.mem_append.mp member with before | here
    · exact pending.open_ cb before
    · rw [List.mem_singleton.mp here]
      exact last
  · show (!w.dflags.last) = _
    rw [last]
    simp
  · intro cb found
    rw [show (w.queued bp dlen).lane.building = _ from
      Writing.building_queued w bp dlen last] at found
    rw [List.getLast?_concat]
    exact found

theorem ended_queued (pending : Pending base ssn got new w.lane)
    (first : w.dflags.first = new.isEmpty)
    (number : (if w.dflags.urg then 0 else w.lane.ssn + 1) = ssn)
    (last : w.dflags.last = true) (bp : List Block) (dlen : Nat) :
    Ended base ssn (got ++ contents bp) (new ++ [w.chunk bp dlen])
      (w.queued bp dlen).lane :=
  ⟨pending.carrying_queued first number bp dlen, by simp,
    map_last pending.open_ last⟩

theorem carrying_appended (pending : Pending base ssn got new w.lane)
    (distinct : w.lane.queue.Distinct) (owned : w.lane.Owned)
    (first : w.dflags.first = new.isEmpty) {cb : Chunk}
    (found : w.building = some cb) :
    ∃ init, new = init ++ [cb] ∧
      Carrying base ssn (got ++ contents w.dp) (init ++ [w.joined cb])
        (w.appended cb).lane := by
  obtain ⟨init, rfl⟩ := List.getLast?_eq_some_iff.mp (pending.built cb found)
  obtain ⟨front, back, before, after, apart⟩ :=
    own_appended distinct owned found
  rw [pending.own, ← List.append_assoc] at before
  obtain ⟨rfl, rfl⟩ := last_of_split before apart
  refine ⟨init, rfl, ?_, ?_, ?_, ?_⟩
  · rw [after, List.append_assoc]
  · rw [← pending.octets, octets_append, octets_append, octets_singleton,
      octets_singleton, List.append_assoc]
    exact congrArg _ (contents_append cb.data w.dp)
  · have same : (w.joined cb).flags.first = cb.flags.first := by
      show (cb.flags.first || w.dflags.first) = _
      rw [first]
      simp
    have firsts := pending.firsts
    rw [List.map_append, List.map_singleton, List.length_append] at firsts ⊢
    rw [same]
    exact firsts
  · intro c member
    rcases List.mem_append.mp member with early | here
    · exact pending.number c (List.mem_append_left _ early)
    · rw [List.mem_singleton.mp here]
      exact pending.number cb
        (List.mem_append_right _ (List.mem_singleton_self _))

theorem joined_flags (pending : Pending base ssn got new w.lane)
    {init : List Chunk} {cb : Chunk} (shape : new = init ++ [cb]) :
    (w.joined cb).flags.last = w.dflags.last := by
  have last := pending.open_ cb
    (shape ▸ List.mem_append_right _ (List.mem_singleton_self _))
  show (cb.flags.last || w.dflags.last) = _
  rw [last, Bool.false_or]

theorem appended (pending : Pending base ssn got new w.lane)
    (distinct : w.lane.queue.Distinct) (owned : w.lane.Owned)
    (first : w.dflags.first = new.isEmpty) (last : w.dflags.last = false)
    {cb : Chunk} (found : w.building = some cb) :
    ∃ new', new' ≠ [] ∧ Pending base ssn (got ++ contents w.dp) new'
      (w.appended cb).lane := by
  obtain ⟨init, shape, carrying⟩ :=
    pending.carrying_appended distinct owned first found
  obtain ⟨held, more, head⟩ := Writing.building_mem found
  have part : (w.appended cb).lane.part = w.lane.part := by
    unfold Writing.appended
    dsimp only
    rw [last]
    rfl
  refine ⟨_, List.concat_ne_nil _ _, carrying, ?_, ?_, ?_⟩
  · intro c member
    rcases List.mem_append.mp member with early | here
    · exact pending.open_ c (shape ▸ List.mem_append_left _ early)
    · rw [List.mem_singleton.mp here, pending.joined_flags shape, last]
  · rw [part, more]
    simp
  · intro c found'
    have distinct' := ((Grows.refl distinct 0).appended owned found).distinct
    have joined : w.joined cb ∈ (w.appended cb).lane.queue.waiting :=
      List.mem_map.mpr ⟨cb, held, if_pos rfl⟩
    unfold Lane.building at found'
    rw [part, if_pos more, head, Option.bind_some] at found'
    rw [show cb.addr = (w.joined cb).addr from rfl,
      distinct'.find joined] at found'
    rw [List.getLast?_concat]
    exact found'

theorem ended_appended (pending : Pending base ssn got new w.lane)
    (distinct : w.lane.queue.Distinct) (owned : w.lane.Owned)
    (first : w.dflags.first = new.isEmpty) (last : w.dflags.last = true)
    {cb : Chunk} (found : w.building = some cb) :
    ∃ new', Ended base ssn (got ++ contents w.dp) new'
      (w.appended cb).lane := by
  obtain ⟨init, shape, carrying⟩ :=
    pending.carrying_appended distinct owned first found
  refine ⟨_, carrying, List.concat_ne_nil _ _, map_last ?_ ?_⟩
  · exact fun c early => pending.open_ c (shape ▸ List.mem_append_left _ early)
  · rw [pending.joined_flags shape, last]

end Pending

theorem Ended.whole {base new : List Chunk} {ssn : UInt16}
    {got : List UInt8} {lane : Lane}
    (ended : Ended base ssn got new lane) : Whole got new :=
  { octets := ended.octets, firsts := ended.firsts, lasts := ended.lasts
    some := ended.some, number := ⟨ssn, ended.number⟩ }

/-- What a part of the message has come to, when its writing has been tried:
`more` tells whether other parts follow, and the last list is what is left. -/
inductive Came (base : List Chunk) (ssn number : UInt16)
    (total : List UInt8) (more : Bool) (lane : Lane) :
    Errno → List Block → Prop
  | part (open_ : more = true) (new : List Chunk)
      (pending : Pending base ssn total new lane)
      (same : lane.ssn = number) (rest : List Block) :
      Came base ssn number total more lane .ok rest
  | message (last : more = false) (new : List Chunk)
      (ended : Ended base ssn total new lane) (rest : List Block) :
      Came base ssn number total more lane .ok rest
  | refused (ret : Errno) (again : ret = .busy ∨ ret = .noBufs)
      (got : List UInt8) (new : List Chunk)
      (pending : Pending base ssn got new lane) (same : lane.ssn = number)
      (rest : List Block) (left : got ++ contents rest = total)
      (some : msgdsize rest ≠ 0) :
      Came base ssn number total more lane ret rest
  | failed (ret : Errno) (never : ret = .fault ∨ ret = .hostUnreach)
      (rest : List Block) : Came base ssn number total more lane ret rest

section Attempts

variable {r : Request} {lane : Lane} {base : List Chunk} {ssn : UInt16}
  {got : List UInt8} {new : List Chunk}

theorem loop_came {turns : Nat → Turn} {fuel : Nat} {w : Writing}
    (pending : Pending base ssn got new w.lane)
    (distinct : w.lane.queue.Distinct) (owned : w.lane.Owned)
    (first : w.dflags.first = new.isEmpty)
    (number : (if w.dflags.urg then 0 else w.lane.ssn + 1) = ssn)
    {flags : Flags} (closes : w.dflags.last = true → flags.last = true)
    (some : 0 < w.mlen) (measured : w.mlen = msgdsize w.dp)
    (enough : w.mlen ≤ fuel) {amps : Nat}
    (every : Writing.EveryPass (Writing.Keeps amps) amps flags turns fuel w) :
    Came base ssn w.lane.ssn (got ++ contents w.dp) (!flags.last)
      (Writing.loop amps flags turns fuel w).1.lane
      (Writing.loop amps flags turns fuel w).2
      (Writing.loop amps flags turns fuel w).1.dp := by
  refine Writing.loop_rule amps flags (Writing.Keeps amps)
    (fun v => ∃ got' new', Pending base ssn got' new' v.lane ∧
      got' ++ contents v.dp = got ++ contents w.dp ∧
      v.lane.queue.Distinct ∧ v.lane.Owned ∧
      v.dflags.first = new'.isEmpty ∧ v.dflags.urg = w.dflags.urg ∧
      v.lane.ssn = w.lane.ssn ∧
      (v.dflags.last = true → flags.last = true))
    (fun v ret => Came base ssn w.lane.ssn (got ++ contents w.dp)
      (!flags.last) v.lane ret v.dp)
    ?_ ⟨got, new, pending, rfl, distinct, owned, first, rfl, rfl, closes⟩
    measured some enough every
  rintro t v o ⟨got', new', pending', total, distinct', owned', first', urg,
    same, closes'⟩ some' measured' keeps passes
  have number' : (if v.dflags.urg then 0 else v.lane.ssn + 1) = ssn := by
    rw [urg, same]
    exact number
  have grows := (Grows.refl distinct' ssn).pass owned' number'.symm passes
  have left : msgdsize v.dp ≠ 0 := measured' ▸ Nat.ne_of_gt some'
  cases passes with
  | unrouted => exact .failed _ (.inr rfl) _
  | fault => exact .failed _ (.inl rfl) _
  | busy => exact .refused _ (.inl rfl) got' new' pending' same _ total left
  | noDup => exact .refused _ (.inr rfl) got' new' pending' same _ total left
  | noChunk => exact .refused _ (.inr rfl) got' new' pending' same _ total left
  | lost swnd avail cuts refused =>
      have granted := (keeps swnd avail cuts).1
      rw [refused] at granted
      cases granted
  | cut swnd avail cuts granted =>
      obtain ⟨cut, kept⟩ := grows
      refine ⟨fun _ => ⟨_, _, pending'.queued (w := v.trimmed _) first' number'
        rfl _ _, ?_, kept.distinct, kept.owned owned', ?_, urg, ?_, nofun⟩,
        fun ended => ?_⟩
      · have within : Writing.cutLen amps (v.awnd swnd) ≤ msgdsize v.dp :=
          measured' ▸ Nat.le_of_lt cuts.short
        rw [List.append_assoc, ← total]
        exact congrArg (got' ++ ·)
          (contents_cut within (keeps swnd avail cuts).2)
      · exact (by simp : false = (new' ++ [_]).isEmpty)
      · exact (Writing.ssn_cut v _ _).trans same
      · exact absurd ended (Nat.ne_of_gt (Nat.sub_pos_of_lt cuts.short))
  | append swnd avail fits cb found room =>
      have last := Writing.closing_last closes'
      cases ends : flags.last with
      | true =>
          obtain ⟨new, ended⟩ := Pending.ended_appended (w := v.closing flags)
            pending' distinct' owned' first' (last.trans ends) found
          exact .message rfl new (total ▸ ended) _
      | false =>
          obtain ⟨new, -, pending⟩ := Pending.appended (w := v.closing flags)
            pending' distinct' owned' first' (last.trans ends) found
          refine .part rfl new (total ▸ pending) ?_ _
          exact same
  | whole swnd avail fits apart =>
      refine ⟨fun more => absurd (Nat.sub_self v.mlen) ?_, fun _ => ?_⟩
      · exact Nat.ne_of_gt more
      have last := Writing.closing_last closes'
      cases ends : flags.last with
      | true =>
          refine .message rfl _ (total ▸ Pending.ended_queued
            (w := v.closing flags) pending' first' number' ?_ v.dp v.mlen) _
          exact last.trans ends
      | false =>
          refine .part rfl _ (total ▸ Pending.queued (w := v.closing flags)
            pending' first' number' ?_ v.dp v.mlen) ?_ _
          · exact (Writing.ssn_queued_of_more (w := v.closing flags)
              (last.trans ends) _ _).trans same
          · exact last.trans ends

end Attempts

def Errno.Again (ret : Errno) : Prop := ret = .ok ∨ ret = .busy ∨ ret = .noBufs

namespace Writing

def weight (w : Writing) : Nat := (octets w.lane.own).length + w.mlen

def leaves (w : Writing) (ret : Errno) : Nat :=
  (octets w.lane.own).length + if ret = .ok then 0 else msgdsize w.dp

def Bounded (n : Nat) : Outcome → Prop
  | .go w => w.weight ≤ n
  | .stop w ret => ret.Again → w.leaves ret ≤ n

variable {amps : Nat} {flags : Flags} {t : Turn} {w : Writing}

theorem leaves_of_refused {ret : Errno} (refused : ret ≠ .ok)
    (measured : w.mlen = msgdsize w.dp) : w.leaves ret = w.weight := by
  unfold leaves weight
  rw [if_neg refused, measured]

theorem length_octets_queued (w : Writing) (bp : List Block) (dlen : Nat) :
    (octets (w.queued bp dlen).lane.own).length =
      (octets w.lane.own).length + msgdsize bp := by
  rw [own_queued, octets_append, octets_singleton, List.length_append]
  rfl

theorem length_octets_appended (distinct : w.lane.queue.Distinct)
    (owned : w.lane.Owned) {cb : Chunk} (found : w.building = some cb) :
    (octets (w.appended cb).lane.own).length =
      (octets w.lane.own).length + msgdsize w.dp := by
  obtain ⟨front, back, before, after, -⟩ := own_appended distinct owned found
  have joined : contents (w.joined cb).data =
      contents cb.data ++ contents w.dp := contents_append cb.data w.dp
  rw [before, after, octets_append, octets_append, octets_cons, octets_cons,
    joined]
  unfold msgdsize
  simp only [List.length_append]
  omega

theorem msgdsize_trimmed {dlen : Nat} (measured : w.mlen = msgdsize w.dp)
    (within : dlen ≤ w.mlen) :
    msgdsize (w.trimmed dlen).dp = w.mlen - dlen :=
  (cut_measured measured within []).symm

theorem pass_bounded (measured : w.mlen = msgdsize w.dp)
    (distinct : w.lane.queue.Distinct) (owned : w.lane.Owned) {o : Outcome}
    (passes : Passes amps flags t w o) : Bounded w.weight o := by
  cases passes with
  | unrouted => exact fun again => by simp [Errno.Again] at again
  | fault => exact fun again => by simp [Errno.Again] at again
  | lost swnd avail cuts refused =>
      intro again
      unfold leaves weight
      rw [msgdsize_trimmed measured (Nat.le_of_lt cuts.short)]
      show (octets w.lane.own).length + (w.mlen - _) ≤ _
      omega
  | cut swnd avail cuts granted =>
      show _ + _ ≤ _
      rw [length_octets_queued]
      have short := length_trimtail w.dp (cutLen amps (w.awnd swnd))
      have within := cuts.short
      unfold weight msgdsize
      show (octets w.lane.own).length + _ + (w.mlen - _) ≤ _
      omega
  | append swnd avail fits cb found room =>
      intro again
      unfold leaves weight
      rw [length_octets_appended (w := w.closing flags) distinct owned found,
        measured]
      exact Nat.le_refl _
  | whole swnd avail fits apart =>
      show _ + _ ≤ _
      rw [length_octets_queued, ← measured]
      show (octets w.lane.own).length + w.mlen + (w.mlen - w.mlen) ≤ _
      unfold weight
      omega
  | _ => exact fun again => Nat.le_of_eq (leaves_of_refused nofun measured)

theorem pass_bounded_of_not_keeps (amps : Nat) (flags : Flags) (t : Turn)
    (measured : w.mlen = msgdsize w.dp) (loses : ¬w.Keeps amps t) :
    Bounded (w.weight - 1) (pass amps flags t w) := by
  unfold Keeps at loses
  push Not at loses
  obtain ⟨swnd, avail, cuts, loses⟩ := loses
  have some := cuts.some
  have short := cuts.short
  rw [pass_cuts avail cuts measured]
  unfold queueChunk
  split
  next refused =>
    intro again
    unfold leaves weight
    rw [msgdsize_trimmed measured (Nat.le_of_lt short)]
    show (octets w.lane.own).length + (w.mlen - _) ≤ _
    omega
  next granted =>
    have missing := trimtail_of_not_clears some
      (loses (Bool.not_eq_true _ ▸ granted))
    show _ + _ ≤ _
    rw [length_octets_queued]
    unfold weight msgdsize
    show (octets w.lane.own).length + _ + (w.mlen - _) ≤ _
    omega

theorem loop_bounded (amps : Nat) (flags : Flags) (turns : Nat → Turn)
    (fuel : Nat) (w : Writing) (measured : w.mlen = msgdsize w.dp)
    (some : 0 < w.mlen) (enough : w.mlen ≤ fuel)
    (distinct : w.lane.queue.Distinct) (owned : w.lane.Owned)
    (again : (loop amps flags turns fuel w).2.Again) :
    (loop amps flags turns fuel w).1.leaves (loop amps flags turns fuel w).2 ≤
        w.weight ∧
      (¬EveryPass (Keeps amps) amps flags turns fuel w →
        (loop amps flags turns fuel w).1.leaves
          (loop amps flags turns fuel w).2 < w.weight) := by
  induction fuel generalizing w with
  | zero => omega
  | succ fuel ih =>
      have nonzero : ¬w.mlen = 0 := Nat.ne_of_gt some
      have positive : 0 < w.weight :=
        Nat.lt_of_lt_of_le some (Nat.le_add_left _ _)
      have passes := pass_passes amps flags (turns fuel) measured
      have bounded := pass_bounded measured distinct owned passes
      have loses := pass_bounded_of_not_keeps amps flags (turns fuel) measured
      have grows := (Grows.refl distinct
        (if w.dflags.urg then 0 else w.lane.ssn + 1)).pass owned rfl passes
      unfold loop at again ⊢
      unfold EveryPass
      rw [if_neg nonzero] at again ⊢
      simp only [nonzero, false_or]
      cases passed : pass amps flags (turns fuel) w with
      | stop w' ret =>
          rw [passed] at again bounded loses
          refine ⟨bounded again, fun unkept => ?_⟩
          have lost := loses (fun keeps => unkept ⟨keeps, True.intro⟩) again
          exact Nat.lt_of_le_pred positive lost
      | go w' =>
          rw [passed] at again bounded loses passes grows
          dsimp only at again ⊢
          obtain ⟨new, grows⟩ := grows
          have next : (loop amps flags turns fuel w').1.leaves
              (loop amps flags turns fuel w').2 ≤ w'.weight ∧
              (¬EveryPass (Keeps amps) amps flags turns fuel w' →
                (loop amps flags turns fuel w').1.leaves
                  (loop amps flags turns fuel w').2 < w'.weight) := by
            by_cases rest : w'.mlen = 0
            · rw [loop_done _ _ _ _ _ rest]
              refine ⟨?_, fun unkept => absurd ?_ unkept⟩
              · exact Nat.add_le_add_left (Nat.zero_le _) _
              · cases fuel with
                | zero => exact True.intro
                | succ n => exact .inl rest
            · have more := Nat.pos_of_ne_zero rest
              obtain ⟨measured', shorter⟩ := passes.shorter measured more
              exact ih w' measured' more
                (Nat.le_of_lt_succ (Nat.lt_of_lt_of_le shorter enough))
                grows.distinct (grows.owned owned) again
          refine ⟨Nat.le_trans next.1 bounded, fun unkept => ?_⟩
          by_cases keeps : w.Keeps amps (turns fuel)
          · have lost := next.2 fun later => unkept ⟨keeps, later⟩
            exact Nat.lt_of_lt_of_le lost bounded
          · exact Nat.lt_of_le_pred positive (Nat.le_trans next.1 (loses keeps))

end Writing

theorem Grows.filter_others {lane lane' : Lane} {ssn sid : UInt16}
    {new : List Nat} (grows : Grows lane lane' ssn new)
    (other : sid ≠ lane.sid) :
    lane'.queue.all.filter (fun cb => cb.sid = sid) =
      lane.queue.all.filter fun cb => cb.sid = sid := by
  have narrowed (chunks : List Chunk) :
      chunks.filter (fun cb => cb.sid = sid) =
        (chunks.filter fun cb => cb.sid ≠ lane.sid).filter
          fun cb => cb.sid = sid := by
    rw [List.filter_filter]
    refine List.filter_congr fun cb _ => ?_
    by_cases here : cb.sid = sid
    · simp [here, other]
    · simp [here]
  unfold Queue.all
  rw [List.filter_append, List.filter_append, grows.sent,
    narrowed lane'.queue.waiting, grows.others, ← narrowed]

structure Left (lane lane' : Lane) (ord : Bool) : Prop where
  sid : lane'.sid = lane.sid
  own : lane'.own = lane.own
  more : lane'.part.more = lane.part.more
  built : ∀ cb, lane'.building = some cb → lane.building = some cb
  ssn : ord = true → lane'.ssn = lane.ssn

namespace Left

variable {lane lane' lane'' : Lane} {ord : Bool}

theorem refl (lane : Lane) (ord : Bool) : Left lane lane ord :=
  ⟨rfl, rfl, rfl, fun _ built => built, fun _ => rfl⟩

theorem trans (first : Left lane lane' ord) (second : Left lane' lane'' ord) :
    Left lane lane'' ord :=
  { sid := second.sid.trans first.sid
    own := second.own.trans first.own
    more := second.more.trans first.more
    built := fun cb built => first.built cb (second.built cb built)
    ssn := fun yes => (second.ssn yes).trans (first.ssn yes) }

theorem building_within {cb : Chunk} (distinct : lane.queue.Distinct)
    (more : lane'.part.more = lane.part.more)
    (heads : ∀ addr, lane'.part.head = some addr →
      lane.part.head = some addr ∧ ∀ cb ∈ lane'.queue.waiting,
        cb.addr = addr → cb ∈ lane.queue.waiting)
    (built : lane'.building = some cb) : lane.building = some cb := by
  unfold Lane.building at built ⊢
  rw [more] at built
  split at built
  next open_ =>
    obtain ⟨addr, head, found⟩ := Option.bind_eq_some_iff.mp built
    obtain ⟨held, same⟩ := Queue.mem_of_find found
    obtain ⟨head, within⟩ := heads addr head
    rw [if_pos open_, head, Option.bind_some, ← same]
    exact distinct.find (within cb held same)
  next => cases built

end Left

section Entry

variable {r : Request} {lane : Lane} {base new : List Chunk} {ssn : UInt16}
  {got : List UInt8}

theorem Request.write_loop (found : r.found = true) (some : msgdsize r.mp ≠ 0) :
    r.write lane =
      let (w, ret) := Writing.loop r.amps (r.entry lane).dflags r.turns
        (msgdsize r.mp) (r.entry lane)
      (w.lane, if ret = .ok then [] else w.dp, ret) := by
  unfold write sctpDataReq
  rw [if_neg some, found]
  rfl

theorem Request.entry_lane (r : Request) (lane : Lane) :
    (r.entry lane).lane.queue = lane.queue ∧
      (r.entry lane).lane.own = lane.own ∧
      (r.entry lane).lane.part.more = lane.part.more ∧
      (r.entry lane).lane.part.head = lane.part.head ∧
      (r.entry lane).lane.sid = lane.sid := by
  unfold entry Lane.request
  dsimp only
  split
  · exact ⟨rfl, rfl, rfl, rfl, rfl⟩
  · exact ⟨rfl, rfl, rfl, rfl, rfl⟩

theorem Request.entry_distinct (distinct : lane.queue.Distinct) :
    (r.entry lane).lane.queue.Distinct := by
  rw [(r.entry_lane lane).1]
  exact distinct

theorem Request.entry_owned (owned : lane.Owned) :
    (r.entry lane).lane.Owned := by
  obtain ⟨queue, -, -, head, sid⟩ := r.entry_lane lane
  intro addr built
  rw [head] at built
  rw [queue, sid]
  exact owned addr built

theorem Pending.entry (pending : Pending base ssn got new lane) :
    Pending base ssn got new (r.entry lane).lane := by
  obtain ⟨queue, own, more, head, -⟩ := r.entry_lane lane
  refine ⟨⟨own.trans pending.own, pending.octets, pending.firsts,
    pending.number⟩, pending.open_, more.trans pending.more, fun cb built => ?_⟩
  refine pending.built cb ?_
  unfold Lane.building at built ⊢
  rw [queue, more, head] at built
  exact built

theorem Pending.after (pending : Pending base ssn got new lane) (msg : Nat) :
    Pending base ssn got new { lane with msg := msg } :=
  ⟨⟨pending.own, pending.octets, pending.firsts, pending.number⟩,
    pending.open_, pending.more, pending.built⟩

theorem Ended.after (ended : Ended base ssn got new lane) (msg : Nat) :
    Ended base ssn got new { lane with msg := msg } :=
  ⟨⟨ended.own, ended.octets, ended.firsts, ended.number⟩, ended.some,
    ended.lasts⟩

theorem Pending.left {lane' : Lane} {ord : Bool}
    (pending : Pending base ssn got new lane) (left : Left lane lane' ord) :
    Pending base ssn got new lane' :=
  ⟨⟨left.own.trans pending.own, pending.octets, pending.firsts,
    pending.number⟩, pending.open_, left.more.trans pending.more,
    fun cb built => pending.built cb (left.built cb built)⟩

theorem Came.after {number : UInt16} {total : List UInt8} {more : Bool}
    {ret : Errno} {rest : List Block} (msg : Nat)
    (came : Came base ssn number total more lane ret rest) :
    Came base ssn number total more { lane with msg := msg } ret
      (if ret = .ok then [] else rest) := by
  cases came with
  | part open_ new pending same _ =>
      exact .part open_ new (pending.after msg) same _
  | message last new ended _ =>
      exact .message last new (ended.after msg) _
  | refused _ again got new pending same _ left some =>
      rw [if_neg (by rcases again with rfl | rfl <;> exact nofun)]
      exact .refused _ again got new (pending.after msg) same _ left some
  | failed _ never _ => exact .failed _ never _

end Entry

namespace Target

variable {m : Target} {sp : Assoc}

def lane (m : Target) (sp : Assoc) : Lane := sp.lane m.ord m.sid

theorem left_dataReq (sound : Sound sp) {r : Request}
    (elsewhere : m.Elsewhere (.dataReq r)) :
    Left (m.lane sp) (m.lane (sp.dataReq r).1) m.ord := by
  obtain ⟨⟨new, grows⟩, unordered⟩ := r.write_grows (sound.distinct r.ord)
    (sound.owned r.ord r.sid)
  unfold lane Assoc.dataReq
  dsimp only
  have own : (r.after (sp.lane r.ord r.sid)).sid = r.sid := grows.sid
  by_cases ord : r.ord = m.ord
  · have other := (elsewhere ord).symm
    rw [← ord, Assoc.lane_put_other fun same => other (same.trans own)]
    refine ⟨rfl, grows.filter_others other, rfl, fun cb => ?_, fun _ => rfl⟩
    refine Left.building_within (sound.distinct r.ord) rfl fun addr head => ?_
    refine ⟨head, fun cb held same => ?_⟩
    obtain ⟨cb', held', same', own'⟩ := sound.owned r.ord m.sid addr head
    have there := (grows.mem_others (own' ▸ other : cb'.sid ≠ r.sid)).mpr held'
    rw [grows.distinct.eq held there (same.trans same'.symm)]
    exact held'
  · rw [Assoc.lane_put_across fun same => ord same.symm]
    refine ⟨rfl, rfl, rfl, fun _ built => built, fun yes => ?_⟩
    dsimp only
    rw [own]
    split
    next here =>
      have no : r.ord = false := by
        cases ord' : r.ord with
        | false => rfl
        | true => exact absurd (ord'.trans yes.symm) ord
      rw [here]
      exact unordered no
    next => rfl

theorem left_bundle (sound : Sound sp) (ord noDup : Bool) :
    Left (m.lane sp) (m.lane (sp.bundle ord noDup)) m.ord := by
  unfold lane Assoc.bundle
  split
  next => exact .refl _ _
  next mp rest waiting =>
    by_cases same : m.ord = ord
    · rw [same]
      by_cases here : m.sid = mp.sid
      · have stolen : (sp.put ord ((sp.lane ord mp.sid).steal mp noDup)).lane
            ord mp.sid = (sp.lane ord mp.sid).steal mp noDup :=
          Assoc.lane_put_self sp ord _
        rw [here, stolen]
        refine ⟨rfl, ?_, ?_, fun cb => ?_, fun _ => rfl⟩
        · unfold Lane.own
          rw [Lane.all_steal]
          rfl
        · unfold Lane.steal
          dsimp only
          split <;> rfl
        · refine Left.building_within (sound.distinct ord) ?_
            fun addr head => ?_
          · unfold Lane.steal
            dsimp only
            split <;> rfl
          · exact ⟨(Lane.head_steal head).1,
              fun cb held _ => Lane.mem_of_mem_steal mp noDup held⟩
      · rw [Assoc.lane_put_other here]
        refine ⟨rfl, ?_, rfl, fun cb => ?_, fun _ => rfl⟩
        · exact congrArg (List.filter fun cb => cb.sid = m.sid)
            ((sp.lane ord mp.sid).all_steal mp noDup)
        · refine Left.building_within (sound.distinct ord) rfl
            fun addr head => ?_
          exact ⟨head, fun cb held _ => Lane.mem_of_mem_steal mp noDup held⟩
    · rw [Assoc.lane_put_across same]
      refine ⟨rfl, rfl, rfl, fun _ built => built, fun _ => ?_⟩
      dsimp only
      split
      next here =>
        rw [here]
        rfl
      next => rfl

theorem sound_run (sound : Sound sp) (events : List Event) :
    Sound (sp.run events) := by
  unfold Assoc.run
  induction events generalizing sp with
  | nil => exact sound
  | cons event rest ih => exact ih (sound.step event)

theorem left_run (sound : Sound sp) (events : List Event)
    (elsewhere : ∀ event ∈ events, m.Elsewhere event) :
    Left (m.lane sp) (m.lane (sp.run events)) m.ord := by
  unfold Assoc.run
  induction events generalizing sp with
  | nil => exact .refl _ _
  | cons event rest ih =>
      refine .trans ?_ (ih (sound.step event)
        fun e member => elsewhere e (List.mem_cons_of_mem _ member))
      have here := elsewhere event List.mem_cons_self
      cases event with
      | dataReq r => exact left_dataReq sound here
      | bundle ord noDup => exact left_bundle sound ord noDup

variable {base new : List Chunk} {ssn : UInt16} {got : List UInt8}
  {t : Attempt} {more : Bool} {mp : List Block}

theorem lane_dataReq (m : Target) (sp : Assoc) (sound : Sound sp) (t : Attempt)
    (more : Bool) (mp : List Block) :
    m.lane (sp.dataReq (m.request t more mp)).1 =
      (m.request t more mp).after (m.lane sp) := by
  obtain ⟨⟨new, grows⟩, -⟩ := (m.request t more mp).write_grows
    (sound.distinct m.ord) (sound.owned m.ord m.sid)
  have own : ((m.request t more mp).after (m.lane sp)).sid = m.sid := grows.sid
  have put := Assoc.lane_put_self sp m.ord
    ((m.request t more mp).after (m.lane sp))
  rw [own] at put
  exact put

def Numbers (m : Target) (ssn : UInt16) (lane : Lane) : Prop :=
  (if m.ord then lane.ssn + 1 else 0) = ssn

theorem came_dataReq (sound : Sound sp)
    (pending : Pending base ssn got new (m.lane sp))
    (numbers : m.Numbers ssn (m.lane sp)) (some : msgdsize mp ≠ 0)
    (every : Writing.EveryPass (Writing.Keeps t.amps) t.amps
      ((m.request t more mp).entry (m.lane sp)).dflags t.turns (msgdsize mp)
      ((m.request t more mp).entry (m.lane sp))) :
    Came base ssn (m.lane sp).ssn (got ++ contents mp) more
      (m.lane (sp.dataReq (m.request t more mp)).1)
      (sp.dataReq (m.request t more mp)).2.2
      (sp.dataReq (m.request t more mp)).2.1 := by
  have ssn' : ((m.request t more mp).entry (m.lane sp)).lane.ssn =
      (m.lane sp).ssn := (m.request t more mp).ssn_entry
  have came := loop_came (w := (m.request t more mp).entry (m.lane sp))
    pending.entry ?_ ?_ ?_ ?_ id (Nat.pos_of_ne_zero some) rfl
    (Nat.le_refl _) every
  · rw [lane_dataReq m sp sound]
    unfold Assoc.dataReq Request.after
    dsimp only
    have write : (m.request t more mp).write (m.lane sp) = _ :=
      (m.request t more mp).write_loop rfl some
    rw [show sp.lane (m.request t more mp).ord (m.request t more mp).sid =
      m.lane sp from rfl, write]
    rw [ssn', show (!((m.request t more mp).entry (m.lane sp)).dflags.last) =
      more from Bool.not_not more] at came
    exact came.after _
  · exact Request.entry_distinct (sound.distinct m.ord)
  · exact Request.entry_owned (sound.owned m.ord m.sid)
  · show (!(m.lane sp).part.more) = _
    rw [pending.more, Bool.not_not]
  · rw [ssn', ← numbers]
    cases ord : m.ord <;> simp [request, Request.entry, Lane.request, ord]

def load (m : Target) (sp : Assoc) (rest : List Block) : Nat :=
  (octets (m.lane sp).own).length + msgdsize rest

theorem bounded_dataReq (m : Target) (t : Attempt) (more : Bool)
    (mp : List Block) (sound : Sound sp)
    (again : (sp.dataReq (m.request t more mp)).2.2.Again) :
    m.load (sp.dataReq (m.request t more mp)).1
        (sp.dataReq (m.request t more mp)).2.1 ≤ m.load sp mp ∧
      (¬Writing.EveryPass (Writing.Keeps t.amps) t.amps
          ((m.request t more mp).entry (m.lane sp)).dflags t.turns
          (msgdsize mp) ((m.request t more mp).entry (m.lane sp)) →
        m.load (sp.dataReq (m.request t more mp)).1
          (sp.dataReq (m.request t more mp)).2.1 < m.load sp mp) := by
  by_cases none : msgdsize mp = 0
  · unfold load
    rw [lane_dataReq m sp sound]
    unfold Assoc.dataReq Request.after
    dsimp only
    have write : (m.request t more mp).write (m.lane sp) =
        (m.lane sp, [], .ok) := if_pos none
    rw [show sp.lane (m.request t more mp).ord (m.request t more mp).sid =
      m.lane sp from rfl, write, none]
    exact ⟨Nat.le_refl _, fun unkept => absurd True.intro unkept⟩
  have write : (m.request t more mp).write (m.lane sp) = _ :=
    (m.request t more mp).write_loop rfl none
  have bounded := Writing.loop_bounded t.amps
    ((m.request t more mp).entry (m.lane sp)).dflags t.turns (msgdsize mp)
    ((m.request t more mp).entry (m.lane sp)) rfl (Nat.pos_of_ne_zero none)
    (Nat.le_refl _) ?_ ?_
  · unfold load
    rw [lane_dataReq m sp sound]
    unfold Assoc.dataReq Request.after at again ⊢
    dsimp only at again ⊢
    rw [show sp.lane (m.request t more mp).ord (m.request t more mp).sid =
      m.lane sp from rfl, write] at again ⊢
    have bounded := bounded again
    unfold Writing.weight Writing.leaves at bounded
    rw [((m.request t more mp).entry_lane (m.lane sp)).2.1] at bounded
    rw [apply_ite msgdsize]
    exact bounded
  · exact Request.entry_distinct (sound.distinct m.ord)
  · exact Request.entry_owned (sound.owned m.ord m.sid)

theorem submit_bounded (sound : Sound sp) {later : List (List Block)}
    {ts : List Attempt}
    (elsewhere : ∀ t ∈ ts, ∀ event ∈ t.before, m.Elsewhere event)
    {sp' : Assoc} (taken : m.submit sp mp later ts = some sp') :
    (octets (m.lane sp').own).length ≤
        m.load sp mp + (later.map msgdsize).sum ∧
      (¬m.AllKeep sp mp later ts →
        (octets (m.lane sp').own).length <
          m.load sp mp + (later.map msgdsize).sum) := by
  induction ts generalizing sp mp later with
  | nil => cases taken
  | cons t ts ih =>
      have left := left_run sound t.before (elsewhere t List.mem_cons_self)
      have sound₁ := sound_run sound t.before
      have elsewhere' := fun t' member =>
        elsewhere t' (List.mem_cons_of_mem t member)
      have bounded := bounded_dataReq m t (!later.isEmpty) mp sound₁
      have sound₂ := sound₁.dataReq (m.request t (!later.isEmpty) mp)
      have load : m.load (sp.run t.before) mp = m.load sp mp := by
        unfold Target.load
        rw [left.own]
      rw [load] at bounded
      unfold submit at taken
      unfold AllKeep
      dsimp only at taken ⊢
      rw [show (sp.run t.before).lane m.ord m.sid = m.lane (sp.run t.before)
        from rfl]
      generalize (sp.run t.before).dataReq (m.request t (!later.isEmpty) mp) =
        result at taken bounded sound₂ ⊢
      obtain ⟨sp₂, rest, ret⟩ := result
      dsimp only at taken bounded sound₂ ⊢
      -- a refused part is written again with what is left of it
      have again (taken : m.submit sp₂ rest later ts = some sp') {every : Prop}
          (bounded : m.load sp₂ rest ≤ m.load sp mp ∧
            (¬every → m.load sp₂ rest < m.load sp mp)) :
          (octets (m.lane sp').own).length ≤
              m.load sp mp + (later.map msgdsize).sum ∧
            (¬(every ∧ m.AllKeep sp₂ rest later ts) →
              (octets (m.lane sp').own).length <
                m.load sp mp + (later.map msgdsize).sum) := by
        obtain ⟨whole, lost⟩ := ih sound₂ elsewhere' taken
        refine ⟨by omega, fun unkept => ?_⟩
        by_cases kept : every
        · have := lost fun rest => unkept ⟨kept, rest⟩
          omega
        · have := bounded.2 kept
          omega
      cases ret with
      | busy => exact again taken (bounded (.inr (.inl rfl)))
      | noBufs => exact again taken (bounded (.inr (.inr rfl)))
      | ok =>
          obtain ⟨whole, lost⟩ := bounded (.inl rfl)
          cases later with
          | nil =>
              cases taken
              unfold Target.load at whole lost ⊢
              refine ⟨by simp only [List.map_nil, List.sum_nil]; omega,
                fun unkept => ?_⟩
              have := lost fun every => unkept ⟨every, True.intro⟩
              omega
          | cons mp' later =>
              obtain ⟨whole', lost'⟩ := ih sound₂ elsewhere' taken
              unfold Target.load at whole lost whole' lost' ⊢
              rw [List.map_cons, List.sum_cons]
              refine ⟨by omega, fun unkept => ?_⟩
              by_cases kept : m.AllKeep sp₂ mp' later ts
              · have := lost fun every => unkept ⟨every, kept⟩
                omega
              · have := lost' kept
                omega
      | _ => cases taken

theorem Numbers.left {lane lane' : Lane} (numbers : m.Numbers ssn lane)
    (left : Left lane lane' m.ord) : m.Numbers ssn lane' := by
  unfold Numbers at numbers ⊢
  cases ord : m.ord with
  | false =>
      rw [ord] at numbers
      exact numbers
  | true =>
      rw [ord] at numbers
      rw [left.ssn ord]
      exact numbers

theorem submit_ended (sound : Sound sp)
    (pending : Pending base ssn got new (m.lane sp))
    (numbers : m.Numbers ssn (m.lane sp)) (filled : msgdsize mp ≠ 0)
    {later : List (List Block)} (nonempty : ∀ p ∈ later, msgdsize p ≠ 0)
    {ts : List Attempt}
    (elsewhere : ∀ t ∈ ts, ∀ event ∈ t.before, m.Elsewhere event)
    (keeps : m.AllKeep sp mp later ts) {sp' : Assoc}
    (taken : m.submit sp mp later ts = some sp') :
    ∃ new', Ended base ssn (got ++ contents mp ++ later.flatMap contents) new'
      (m.lane sp') := by
  induction ts generalizing sp mp later got new with
  | nil => cases taken
  | cons t ts ih =>
      have left := left_run sound t.before (elsewhere t List.mem_cons_self)
      have sound₁ := sound_run sound t.before
      have elsewhere' := fun t' member =>
        elsewhere t' (List.mem_cons_of_mem t member)
      unfold AllKeep at keeps
      dsimp only at keeps
      have came := came_dataReq sound₁ (pending.left left) (numbers.left left)
        filled keeps.1
      have sound₂ := sound₁.dataReq (m.request t (!later.isEmpty) mp)
      have keeps := keeps.2
      unfold submit at taken
      dsimp only at taken
      generalize (sp.run t.before).dataReq (m.request t (!later.isEmpty) mp) =
        result at taken came sound₂ keeps
      obtain ⟨sp₂, rest, ret⟩ := result
      dsimp only at taken came sound₂ keeps
      have numbers' (same : (m.lane sp₂).ssn = (m.lane (sp.run t.before)).ssn) :
          m.Numbers ssn (m.lane sp₂) := by
        unfold Numbers
        rw [same]
        exact numbers.left left
      cases came with
      | part open_ new pending same =>
          cases later with
          | nil => cases open_
          | cons mp' later =>
              rw [List.flatMap_cons, ← List.append_assoc]
              exact ih sound₂ pending (numbers' same)
                (nonempty mp' List.mem_cons_self)
                (fun p member => nonempty p (List.mem_cons_of_mem _ member))
                elsewhere' keeps taken
      | message last new ended =>
          cases later with
          | nil =>
              cases taken
              rw [List.flatMap_nil, List.append_nil]
              exact ⟨new, ended⟩
          | cons mp' later => cases last
      | refused ret again got new pending same rest left some =>
          rw [← left]
          rcases again with rfl | rfl
          · exact ih sound₂ pending (numbers' same) some nonempty elsewhere'
              keeps taken
          · exact ih sound₂ pending (numbers' same) some nonempty elsewhere'
              keeps taken
      | failed ret never rest =>
          rcases never with rfl | rfl
          · cases taken
          · cases taken

end Target

def Writing.Loses (amps : Nat) (t : Turn) (w : Writing) : Prop :=
  t.noChunk = true ∧ ∃ swnd ∈ t.avail, w.Cuts amps t swnd

section Refused

variable {r : Request} {lane : Lane}

theorem Grows.length_le {lane' : Lane} {ssn : UInt16} {new : List Nat}
    (grows : Grows lane lane' ssn new) :
    lane.queue.waiting.length ≤ lane'.queue.waiting.length := by
  have lengths := congrArg List.length grows.tags
  rw [List.length_append, List.length_map, List.length_map] at lengths
  omega

theorem queued_of_go {amps : Nat} {flags : Flags} {t : Turn}
    (turns : Nat → Turn) (fuel : Nat) {w w' : Writing}
    (distinct : w.lane.queue.Distinct) (owned : w.lane.Owned)
    (measured : w.mlen = msgdsize w.dp) (enough : w.mlen ≤ fuel + 1)
    (passes : Writing.Passes amps flags t w (.go w')) :
    w.lane.queue.waiting.length <
      (Writing.loop amps flags turns fuel w').1.lane.queue.waiting.length := by
  have one : w'.lane.queue.waiting.length =
      w.lane.queue.waiting.length + 1 := by
    cases passes with
    | cut => exact List.length_append
    | whole => exact List.length_append
  obtain ⟨new, grows⟩ := (Grows.refl distinct
    (if w.dflags.urg then 0 else w.lane.ssn + 1)).pass owned rfl passes
  by_cases rest : w'.mlen = 0
  · rw [Writing.loop_done _ _ _ _ _ rest, one]
    exact Nat.lt_succ_self _
  · have more := Nat.pos_of_ne_zero rest
    obtain ⟨measured', shorter⟩ := passes.shorter measured more
    obtain ⟨⟨new', later⟩, -⟩ := Writing.loop_grows amps flags turns
      (.refl grows.distinct _) (grows.owned owned) rfl more measured'
      (Nat.le_of_lt_succ (Nat.lt_of_lt_of_le shorter enough))
    have := later.length_le
    omega

theorem Request.unharmed_iff (distinct : lane.queue.Distinct)
    (owned : lane.Owned) (found : r.found = true) (some : msgdsize r.mp ≠ 0)
    (refused : (r.write lane).2.2 = .busy ∨ (r.write lane).2.2 = .noBufs)
    (queue : (r.write lane).1.queue = lane.queue) :
    (r.write lane).1 = (r.entry lane).lane ∧ (r.write lane).2.1 = r.mp ↔
      ¬(r.entry lane).Loses r.amps (r.turns (msgdsize r.mp - 1)) := by
  have distinct' := entry_distinct (r := r) distinct
  have owned' := entry_owned (r := r) owned
  have measured : (r.entry lane).mlen = msgdsize (r.entry lane).dp := rfl
  rw [r.write_loop found some] at refused queue ⊢
  dsimp only at refused queue ⊢
  obtain ⟨fuel, size⟩ := Nat.exists_eq_succ_of_ne_zero some
  rw [size] at refused queue ⊢
  rw [Nat.succ_sub_one]
  unfold Writing.loop at refused queue ⊢
  rw [if_neg (show ¬(r.entry lane).mlen = 0 from some)] at refused queue ⊢
  by_cases loses : (r.entry lane).Loses r.amps (r.turns fuel)
  · obtain ⟨noChunk, swnd, avail, cuts⟩ := loses
    refine iff_of_false ?_ fun not => not ⟨noChunk, swnd, avail, cuts⟩
    rw [Writing.pass_cuts avail cuts measured]
    unfold Writing.queueChunk
    rw [if_pos noChunk]
    dsimp only
    rw [if_neg (by rintro ⟨⟩)]
    rintro ⟨-, whole⟩
    have shorter := Writing.msgdsize_trimmed measured (Nat.le_of_lt cuts.short)
    rw [whole, measured] at shorter
    have less := Nat.sub_lt (Nat.pos_of_ne_zero some) cuts.some
    exact absurd shorter (Nat.ne_of_gt less)
  · refine iff_of_true ?_ loses
    have passes := Writing.pass_passes r.amps (r.entry lane).dflags
      (r.turns fuel) measured
    cases passed : Writing.pass r.amps (r.entry lane).dflags (r.turns fuel)
        (r.entry lane) with
    | go w' =>
        rw [passed] at passes queue
        have longer := queued_of_go r.turns fuel distinct' owned' measured
          (Nat.le_of_eq size) passes
        dsimp only at queue
        rw [queue, (r.entry_lane lane).1] at longer
        exact absurd longer (Nat.lt_irrefl _)
    | stop w' ret =>
        rw [passed] at passes refused
        dsimp only at refused ⊢
        cases passes with
        | unrouted => rcases refused with refused | refused <;> cases refused
        | fault => rcases refused with refused | refused <;> cases refused
        | append => rcases refused with refused | refused <;> cases refused
        | lost swnd avail cuts noChunk =>
            exact absurd ⟨noChunk, swnd, avail, cuts⟩ loses
        | busy => exact ⟨rfl, rfl⟩
        | noDup => exact ⟨rfl, rfl⟩
        | noChunk => exact ⟨rfl, rfl⟩

end Refused

def Target.Carries (m : Target) (sp sp' : Assoc) (mp : List Block)
    (later : List (List Block)) : Prop :=
  ∃ new, (m.lane sp').own = (m.lane sp).own ++ new ∧
    Whole (contents mp ++ later.flatMap contents) new

/-- A message that is written again until it is taken is carried whole exactly
where every pass keeps the data. A write that is refused before a chunk is
queued leaves the stream and the message exactly where no fragment is lost. -/
theorem resumable (before : List Event) (m : Target) (mp : List Block)
    (later : List (List Block)) (ts : List Attempt)
    (begins : (m.lane (Assoc.alloc.run before)).part.more = false)
    (filled : ∀ p ∈ mp :: later, msgdsize p ≠ 0)
    (elsewhere : ∀ t ∈ ts, ∀ event ∈ t.before, m.Elsewhere event)
    (sp' : Assoc)
    (taken : m.submit (Assoc.alloc.run before) mp later ts = some sp') :
    (m.Carries (Assoc.alloc.run before) sp' mp later ↔
        m.AllKeep (Assoc.alloc.run before) mp later ts) ∧
      ∀ r : Request, ∀ lane, lane = (Assoc.alloc.run before).lane r.ord r.sid →
        (r.write lane).2.2 = .busy ∨ (r.write lane).2.2 = .noBufs →
        (r.write lane).1.queue = lane.queue →
        ((r.write lane).1 = (r.entry lane).lane ∧ (r.write lane).2.1 = r.mp ↔
          ¬(r.entry lane).Loses r.amps (r.turns (msgdsize r.mp - 1))) := by
  have sound := Target.sound_run Sound.alloc before
  constructor
  · constructor
    · rintro ⟨new, own, whole⟩
      by_contra unkept
      have less := (Target.submit_bounded sound elsewhere taken).2 unkept
      unfold Target.load msgdsize at less
      rw [own, octets_append, whole.octets, List.length_append,
        List.length_append, List.length_flatMap] at less
      exact absurd less (by
        rw [Nat.add_assoc]
        exact Nat.lt_irrefl _)
    · intro keeps
      have pending : Pending (m.lane (Assoc.alloc.run before)).own
          (if m.ord then (m.lane (Assoc.alloc.run before)).ssn + 1 else 0) []
          [] (m.lane (Assoc.alloc.run before)) := by
        refine ⟨⟨(List.append_nil _).symm, rfl, rfl, nofun⟩, nofun, begins,
          fun cb built => ?_⟩
        unfold Lane.building at built
        rw [begins] at built
        cases built
      obtain ⟨new, ended⟩ := Target.submit_ended sound pending rfl
        (filled mp List.mem_cons_self)
        (fun p member => filled p (List.mem_cons_of_mem _ member)) elsewhere
        keeps taken
      exact ⟨new, ended.own, ended.whole⟩
  · rintro r lane rfl refused queue
    have some : msgdsize r.mp ≠ 0 := by
      intro none
      unfold Request.write sctpDataReq at refused
      rw [if_pos none] at refused
      rcases refused with refused | refused <;> cases refused
    have found : r.found = true := by
      cases found : r.found with
      | true => rfl
      | false =>
          unfold Request.write sctpDataReq at refused
          rw [if_neg some, found] at refused
          rcases refused with refused | refused <;> cases refused
    exact r.unharmed_iff (sound.distinct r.ord) (sound.owned r.ord r.sid)
      found some refused queue

def firstStream : Target := { sid := 0, ord := true, ppi := 0, rcpt := false }

def twoAttempts (first second : Turn) : List Attempt :=
  [{ before := [], amps := 100
     turns := fun n => if n = 119 then first else second },
    { before := [], amps := 100, turns := fun _ => openTurn }]

def closing : List Attempt :=
  twoAttempts openTurn { openTurn with avail := some 0 }

def unallocated : List Attempt :=
  twoAttempts { openTurn with noChunk := true } openTurn

def longMessage : List Block := [⟨true, List.replicate 120 7⟩]

def taken (ts : List Attempt) : Assoc :=
  (firstStream.submit Assoc.alloc longMessage [] ts).getD Assoc.alloc

theorem submit_taken {ts : List Attempt}
    (ended : (firstStream.submit Assoc.alloc longMessage [] ts).isSome) :
    firstStream.submit Assoc.alloc longMessage [] ts = some (taken ts) := by
  unfold taken
  obtain ⟨sp, found⟩ := Option.isSome_iff_exists.mp ended
  rw [found, Option.getD_some]

theorem resumed_behind_fragment :
    (firstStream.Carries (Assoc.alloc.run []) (taken closing) longMessage [] ↔
        firstStream.AllKeep (Assoc.alloc.run []) longMessage [] closing) ∧
      ∀ r : Request, ∀ lane, lane = (Assoc.alloc.run []).lane r.ord r.sid →
        (r.write lane).2.2 = .busy ∨ (r.write lane).2.2 = .noBufs →
        (r.write lane).1.queue = lane.queue →
        ((r.write lane).1 = (r.entry lane).lane ∧ (r.write lane).2.1 = r.mp ↔
          ¬(r.entry lane).Loses r.amps (r.turns (msgdsize r.mp - 1))) :=
  resumable [] firstStream longMessage [] closing rfl
    (by intro p member; rw [List.mem_singleton.mp member]; decide)
    (by
      intro t member event held
      have none : ∀ t ∈ closing, t.before = [] := by
        unfold closing twoAttempts
        simp
      rw [none t member] at held
      cases held)
    (taken closing) (submit_taken (by decide +kernel))

theorem lost_without_chunk :
    firstStream.submit Assoc.alloc longMessage [] unallocated =
        some (taken unallocated) ∧
      octets (firstStream.lane (taken unallocated)).own =
        List.replicate 36 7 ∧
      ¬firstStream.Carries Assoc.alloc (taken unallocated) longMessage [] := by
  have carried : octets (firstStream.lane (taken unallocated)).own =
      List.replicate 36 7 := by decide +kernel
  refine ⟨submit_taken (by decide +kernel), carried, ?_⟩
  rintro ⟨new, own, whole⟩
  rw [own, octets_append, whole.octets] at carried
  exact absurd (congrArg List.length carried) (by decide)

end OpenSS7.Sctp.Sending
