import OpenSS7.Sctp.Streams

/-!
The stream sequence numbers of the messages that are written to a stream.
-/

namespace OpenSS7.Sctp.Sending

def Writing.Joins (amps : Nat) (t : Turn) (w : Writing) : Prop :=
  ∃ swnd ∈ t.avail, ¬w.Overlong amps swnd ∧
    ∃ cb ∈ w.building, padc (dataLen w.mlen) + cb.dlen ≤ amps

instance (amps : Nat) (t : Turn) (w : Writing) : Decidable (w.Joins amps t) :=
  inferInstanceAs (Decidable (∃ swnd ∈ t.avail, _))

def Request.Numbers (r : Request) (lane : Lane) : Prop :=
  r.ord = true → r.more = false →
    (msgdsize r.mp = 0 → lane.part.more = false) ∧
      (r.found = true →
        Writing.EveryPass (fun t w => ¬w.Joins r.amps t) r.amps
          (r.entry lane).dflags r.turns (msgdsize r.mp) (r.entry lane))

def Event.Numbers (sp : Assoc) : Event → Prop
  | .dataReq r => r.Numbers (sp.lane r.ord r.sid)
  | .bundle _ _ => True

structure Consecutive (sp : Assoc) (sid : UInt16) : Prop where
  same : ∀ cb ∈ sp.sndq.all, ∀ cb' ∈ sp.sndq.all, cb.sid = sid →
    cb'.sid = sid → cb'.msg = cb.msg → cb'.ssn = cb.ssn
  next : ∀ cb ∈ sp.sndq.all, ∀ cb' ∈ sp.sndq.all, cb.sid = sid →
    cb'.sid = sid → cb'.msg = cb.msg + 1 → cb'.ssn = cb.ssn + 1
  every : ∀ k < (sp.ostrm sid).nMsg,
    ∃ cb ∈ sp.sndq.all, cb.sid = sid ∧ cb.msg = k
  building : ∀ cb, (sp.lane true sid).building = some cb →
    cb.sid = sid ∧ cb.msg = (sp.ostrm sid).nMsg

namespace Grows

variable {lane lane' : Lane} {ssn : UInt16} {new : List Nat} {cb : Chunk}

theorem mem_waiting (grows : Grows lane lane' ssn new)
    (held : cb ∈ lane.queue.waiting) :
    ∃ cb' ∈ lane'.queue.waiting, cb'.tag = cb.tag := by
  have tag : cb.tag ∈ lane'.queue.waiting.map Chunk.tag := by
    rw [grows.tags]
    exact List.mem_append_left _ (List.mem_map_of_mem held)
  exact List.mem_map.mp tag

theorem mem_all (grows : Grows lane lane' ssn new)
    (held : cb ∈ lane.queue.all) :
    ∃ cb' ∈ lane'.queue.all, cb'.tag = cb.tag := by
  rcases List.mem_append.mp held with sent | waiting
  · exact ⟨cb, List.mem_append_left _ (grows.sent ▸ sent), rfl⟩
  · obtain ⟨cb', held', same⟩ := grows.mem_waiting waiting
    exact ⟨cb', List.mem_append_right _ held', same⟩

theorem mem_new (grows : Grows lane lane' ssn new) {addr : Nat}
    (added : addr ∈ new) :
    ∃ cb ∈ lane'.queue.waiting, cb.tag = (addr, lane.sid, ssn, lane.msg) := by
  have tag : (addr, lane.sid, ssn, lane.msg) ∈
      lane'.queue.waiting.map Chunk.tag := by
    rw [grows.tags]
    exact List.mem_append_right _ (List.mem_map.mpr ⟨addr, added, rfl⟩)
  exact List.mem_map.mp tag

theorem of_mem_all (grows : Grows lane lane' ssn new)
    (held : cb ∈ lane'.queue.all) :
    (∃ cb' ∈ lane.queue.all, cb.tag = cb'.tag) ∨
      ∃ addr, cb.tag = (addr, lane.sid, ssn, lane.msg) := by
  rcases List.mem_append.mp held with sent | waiting
  · exact .inl ⟨cb, List.mem_append_left _ (grows.sent ▸ sent), rfl⟩
  · have tag : cb.tag ∈ lane'.queue.waiting.map Chunk.tag :=
      List.mem_map_of_mem waiting
    rw [grows.tags] at tag
    rcases List.mem_append.mp tag with before | added
    · obtain ⟨cb', held', same⟩ := List.mem_map.mp before
      exact .inl ⟨cb', List.mem_append_right _ held', same.symm⟩
    · obtain ⟨addr, -, same⟩ := List.mem_map.mp added
      exact .inr ⟨addr, same.symm⟩

end Grows

section Writes

variable {r : Request} {lane : Lane}

theorem Chunk.of_tag {cb : Chunk} {addr msg : Nat} {sid ssn : UInt16}
    (tag : cb.tag = (addr, sid, ssn, msg)) :
    cb.addr = addr ∧ cb.sid = sid ∧ cb.ssn = ssn ∧ cb.msg = msg := by
  unfold Chunk.tag at tag
  simpa using tag

theorem Request.ends_ok (some : msgdsize r.mp ≠ 0) :
    r.ends lane .ok = !r.more := by
  unfold ends
  rw [decide_eq_true some]
  cases r.more <;> rfl

theorem Request.Numbers.write (numbers : r.Numbers lane)
    (ord : r.ord = true) (distinct : lane.queue.Distinct)
    (owned : lane.Owned) :
    ∃ new, Grows lane (r.write lane).1 (lane.ssn + 1) new ∧
      if r.ends lane (r.write lane).2.2 then
        (r.write lane).1.ssn = lane.ssn + 1 ∧ new ≠ [] ∧
          (r.write lane).1.part.head = none
      else (r.write lane).1.ssn = lane.ssn := by
  unfold Request.write sctpDataReq
  by_cases none : msgdsize r.mp = 0
  · rw [if_pos none]
    refine ⟨[], .refl distinct _, ?_⟩
    rw [if_neg]
    intro ends
    unfold Request.ends at ends
    cases more : r.more with
    | false =>
        rw [((numbers ord more).1 none), more, none] at ends
        cases ends
    | true =>
        rw [more] at ends
        cases ends
  rw [if_neg none]
  cases found : r.found with
  | false => exact ⟨[], .refl distinct _, rfl⟩
  | true =>
      have number : r.number lane = lane.ssn + 1 := if_pos ord
      refine Writing.loop_rule r.amps (r.entry lane).dflags
        (fun t w => ¬(r.more = false ∧ w.Joins r.amps t))
        (fun w => (∃ new, Grows lane w.lane (lane.ssn + 1) new) ∧
          w.dflags.urg = false ∧ w.lane.ssn = lane.ssn ∧
          (w.dflags.last = true → r.more = false))
        (fun w ret => ∃ new, Grows lane w.lane (lane.ssn + 1) new ∧
          if r.ends lane ret then
            w.lane.ssn = lane.ssn + 1 ∧ new ≠ [] ∧ w.lane.part.head = .none
          else w.lane.ssn = lane.ssn)
        ?_ ?_ rfl (Nat.pos_of_ne_zero none) (Nat.le_refl _) ?_
      · rintro t w o ⟨⟨new, grows⟩, urg, ssn, closes⟩ some measured apart passes
        have after := grows.pass owned (by rw [urg, ssn]; rfl) passes
        cases passes with
        | append swnd avail fits cb found room =>
            obtain ⟨new', after⟩ := after
            refine ⟨new', after, ?_⟩
            rw [r.ends_ok none]
            cases more : r.more with
            | true => exact ssn
            | false =>
                exact absurd ⟨more, swnd, avail, fits, cb, found, room⟩ apart
        | cut swnd avail cuts granted =>
            refine ⟨fun _ => ⟨after, urg, ?_, nofun⟩, fun ended => ?_⟩
            · exact (Writing.ssn_cut w _ _).trans ssn
            · exact absurd ended (Nat.ne_of_gt (Nat.sub_pos_of_lt cuts.short))
        | whole =>
            refine ⟨fun more => absurd (Nat.sub_self w.mlen) ?_, fun _ => ?_⟩
            · exact Nat.ne_of_gt more
            have last : (w.closing (r.entry lane).dflags).dflags.last =
                !r.more := Writing.closing_last fun yes => by
              rw [show (r.entry lane).dflags.last = !r.more from rfl,
                closes yes]
              rfl
            refine ⟨_, grows.queued (w := w.closing _) ?_ w.dp w.mlen, ?_⟩
            · exact (by rw [urg, ssn]; rfl :
                lane.ssn + 1 = if w.dflags.urg then 0 else w.lane.ssn + 1)
            rw [r.ends_ok none, ← ssn]
            by_cases more : r.more = true
            · rw [more] at last ⊢
              exact Writing.ssn_queued_of_more last _ _
            · rw [Bool.not_eq_true] at more
              rw [more] at last ⊢
              obtain ⟨next, gone⟩ := Writing.ssn_queued_of_last
                (w := w.closing _) urg last w.dp w.mlen
              exact ⟨next, List.concat_ne_nil _ _, gone⟩
        | fault w' same =>
            obtain ⟨new', after⟩ := after
            exact ⟨new', after, same ▸ ssn⟩
        | _ => exact ⟨new, grows, ssn⟩
      · refine ⟨⟨[], .of_entry r distinct _⟩, ?_, r.ssn_entry, ?_⟩
        · exact congrArg not ord
        · intro last
          simpa [Request.entry, Lane.request] using last
      · by_cases more : r.more = true
        · refine Writing.everyPass_of (fun t w joins => ?_) _ _ _
          exact Bool.false_ne_true (joins.1.symm.trans more)
        · rw [Bool.not_eq_true] at more
          exact ((numbers ord more).2 found).mono
            fun t w (apart : ¬w.Joins r.amps t) joins => apart joins.2

theorem Request.after_counted {new : List Nat} {ssn : UInt16}
    (grows : Grows lane (r.write lane).1 ssn new)
    (counted : if r.ends lane (r.write lane).2.2 then
        (r.write lane).1.ssn = lane.ssn + 1 ∧ new ≠ [] ∧
          (r.write lane).1.part.head = none
      else (r.write lane).1.ssn = lane.ssn)
    (counts : lane.ssn + 1 = UInt16.ofNat lane.msg) :
    (r.after lane).ssn + 1 = UInt16.ofNat (r.after lane).msg ∧
      (∀ k < (r.after lane).msg,
        k < lane.msg ∨ k = lane.msg ∧ ∃ addr, addr ∈ new) ∧
      ∀ addr, (r.after lane).part.head = some addr →
        (r.after lane).msg = lane.msg ∧
          (lane.part.head = some addr ∨ addr ∈ new) := by
  unfold after
  dsimp only
  rw [grows.msg]
  split at counted
  next ends =>
    obtain ⟨ssn, added, gone⟩ := counted
    rw [if_pos ends, ssn, counts, gone]
    refine ⟨(UInt16.ofNat_add _ _).symm, fun k small => ?_, nofun⟩
    rcases Nat.lt_succ_iff_lt_or_eq.mp small with before | here
    · exact .inl before
    · exact .inr ⟨here, List.exists_mem_of_ne_nil new added⟩
  next going =>
    rw [if_neg going, counted]
    refine ⟨counts, fun k small => .inl small, fun addr head => ⟨rfl, ?_⟩⟩
    exact grows.head addr head

end Writes

structure Numbered (sp : Assoc) : Prop where
  sound : Sound sp
  numbers : ∀ cb ∈ sp.sndq.all, cb.ssn = UInt16.ofNat cb.msg
  counts : ∀ sid, (sp.ostrm sid).ssn + 1 = UInt16.ofNat (sp.ostrm sid).nMsg
  every : ∀ sid, ∀ k < (sp.ostrm sid).nMsg,
    ∃ cb ∈ sp.sndq.all, cb.sid = sid ∧ cb.msg = k
  heads : ∀ sid addr, (sp.ostrm sid).n.head = some addr →
    ∃ cb ∈ sp.sndq.waiting,
      cb.addr = addr ∧ cb.sid = sid ∧ cb.msg = (sp.ostrm sid).nMsg

namespace Numbered

variable {sp : Assoc}

theorem consecutive (numbered : Numbered sp) (sid : UInt16) :
    Consecutive sp sid := by
  refine ⟨?_, ?_, numbered.every sid, ?_⟩
  · intro cb held cb' held' _ _ message
    rw [numbered.numbers cb held, numbered.numbers cb' held', message]
  · intro cb held cb' held' _ _ message
    rw [numbered.numbers cb held, numbered.numbers cb' held', message]
    exact UInt16.ofNat_add _ _
  · intro cb found
    unfold Lane.building at found
    split at found
    · obtain ⟨addr, head, found⟩ := Option.bind_eq_some_iff.mp found
      obtain ⟨held, same⟩ := Queue.mem_of_find found
      obtain ⟨c, held', same', own⟩ := numbered.heads sid addr head
      rw [(numbered.sound.distinct true).eq held held'
        (same.trans same'.symm)]
      exact own
    · cases found

theorem alloc : Numbered Assoc.alloc :=
  { sound := .alloc, numbers := nofun, 
    counts := fun _ => (by decide : (0xffff : UInt16) + 1 = UInt16.ofNat 0)
    every := fun _ _ small => absurd small (Nat.not_lt_zero _)
    heads := nofun }

theorem of_ordered {sp' : Assoc} (numbered : Numbered sp) (sound : Sound sp')
    (all : sp'.sndq.all = sp.sndq.all)
    (waiting : ∀ cb ∈ sp'.sndq.waiting, cb ∈ sp.sndq.waiting)
    (streams : ∀ sid, (sp'.ostrm sid).ssn = (sp.ostrm sid).ssn ∧
      (sp'.ostrm sid).nMsg = (sp.ostrm sid).nMsg)
    (heads : ∀ sid addr, (sp'.ostrm sid).n.head = some addr →
      (sp.ostrm sid).n.head = some addr) :
    Numbered sp' := by
  refine ⟨sound, ?_, ?_, ?_, ?_⟩
  · rw [all]
    exact numbered.numbers
  · intro sid
    rw [(streams sid).1, (streams sid).2]
    exact numbered.counts sid
  · intro sid
    rw [(streams sid).2, all]
    exact numbered.every sid
  · intro sid addr head
    obtain ⟨cb, held, same, own⟩ := sound.owned true sid addr head
    obtain ⟨c, held', same', own'⟩ :=
      numbered.heads sid addr (heads sid addr head)
    refine ⟨cb, held, same, own, ?_⟩
    rw [(streams sid).2, ← own'.2]
    exact congrArg Chunk.msg ((numbered.sound.distinct true).eq
      (waiting cb held) held' (same.trans same'.symm))

theorem dataReq (numbered : Numbered sp) (r : Request)
    (numbers : r.Numbers (sp.lane r.ord r.sid)) :
    Numbered (sp.dataReq r).1 := by
  have sound := numbered.sound.dataReq r
  have distinct := numbered.sound.distinct r.ord
  have owned := numbered.sound.owned r.ord r.sid
  unfold Assoc.dataReq at sound ⊢
  dsimp only at sound ⊢
  cases ord : r.ord with
  | false =>
      obtain ⟨⟨new, grows⟩, same⟩ := r.write_grows distinct owned
      have ssn := same ord
      rw [ord] at sound grows ssn
      have own : (r.after (sp.lane false r.sid)).sid = r.sid := grows.sid
      refine numbered.of_ordered sound rfl (fun _ held => held) ?_ ?_
      · intro sid
        rw [Assoc.ostrm_put_unordered]
        split
        next here =>
          rw [here, own]
          exact ⟨ssn, rfl⟩
        next => exact ⟨rfl, rfl⟩
      · intro sid addr head
        rw [Assoc.ostrm_put_unordered] at head
        split at head
        next here =>
          rw [own] at here head
          rw [here]
          exact head
        next => exact head
  | true =>
      obtain ⟨new, grows, counted⟩ := numbers.write ord distinct owned
      rw [ord] at sound grows counted
      have own : (r.after (sp.lane true r.sid)).sid = r.sid := grows.sid
      have counts := numbered.counts r.sid
      obtain ⟨number, message, heads⟩ := Request.after_counted grows counted
        counts
      refine ⟨sound, ?_, ?_, ?_, ?_⟩
      · intro cb held
        rcases grows.of_mem_all held with ⟨cb', held', same⟩ | ⟨addr, same⟩
        · obtain ⟨-, -, ssn, msg⟩ := Chunk.of_tag same
          rw [ssn, msg]
          exact numbered.numbers cb' held'
        · obtain ⟨-, -, ssn, msg⟩ := Chunk.of_tag same
          rw [ssn, msg]
          exact counts
      · intro sid
        rw [Assoc.ostrm_put_ordered]
        split
        next => exact number
        next => exact numbered.counts sid
      · intro sid k small
        rw [Assoc.ostrm_put_ordered] at small
        split at small
        next here =>
          rw [here, own]
          rcases message k small with before | ⟨rfl, addr, added⟩
          · obtain ⟨cb, held, same⟩ := numbered.every r.sid k before
            obtain ⟨cb', held', tag⟩ := grows.mem_all held
            obtain ⟨-, sid, -, msg⟩ := Chunk.of_tag tag
            exact ⟨cb', held', sid.trans same.1, msg.trans same.2⟩
          · obtain ⟨cb, held, tag⟩ := grows.mem_new added
            obtain ⟨-, sid, -, msg⟩ := Chunk.of_tag tag
            exact ⟨cb, List.mem_append_right _ held, sid, msg⟩
        next =>
          obtain ⟨cb, held, same⟩ := numbered.every sid k small
          obtain ⟨cb', held', tag⟩ := grows.mem_all held
          obtain ⟨-, sid, -, msg⟩ := Chunk.of_tag tag
          exact ⟨cb', held', sid.trans same.1, msg.trans same.2⟩
      · intro sid addr head
        rw [Assoc.ostrm_put_ordered] at head ⊢
        split at head
        next here =>
          rw [if_pos here]
          obtain ⟨same, before | added⟩ := heads addr head
          · obtain ⟨cb, held, at_, sid', msg'⟩ :=
              numbered.heads r.sid addr before
            obtain ⟨cb', held', tag⟩ := grows.mem_waiting held
            obtain ⟨addr', sid, -, msg⟩ := Chunk.of_tag tag
            refine ⟨cb', held', addr'.trans at_, ?_, ?_⟩
            · rw [here, own, sid, sid']
            · exact (msg.trans msg').trans same.symm
          · obtain ⟨cb, held, tag⟩ := grows.mem_new added
            obtain ⟨addr', sid, -, msg⟩ := Chunk.of_tag tag
            refine ⟨cb, held, addr', ?_, msg.trans same.symm⟩
            rw [here, own, sid]
            rfl
        next other =>
          rw [if_neg other]
          obtain ⟨cb, held, at_, sid', msg'⟩ := numbered.heads sid addr head
          obtain ⟨cb', held', tag⟩ := grows.mem_waiting held
          obtain ⟨addr', sid, -, msg⟩ := Chunk.of_tag tag
          exact ⟨cb', held', addr'.trans at_, sid.trans sid', msg.trans msg'⟩

theorem bundle (numbered : Numbered sp) (ord noDup : Bool) :
    Numbered (sp.bundle ord noDup) := by
  have sound := numbered.sound.bundle ord noDup
  unfold Assoc.bundle at sound ⊢
  split at sound
  next => exact numbered
  next mp rest waiting =>
    cases ord with
    | false =>
        refine numbered.of_ordered sound rfl (fun _ held => held) ?_ ?_
        · intro sid
          rw [Assoc.ostrm_put_unordered]
          split
          next here =>
            rw [here]
            exact ⟨rfl, rfl⟩
          next => exact ⟨rfl, rfl⟩
        · intro sid addr head
          rw [Assoc.ostrm_put_unordered] at head
          split at head
          next here =>
            rw [here]
            exact head
          next => exact head
    | true =>
        refine numbered.of_ordered sound ?_ ?_ ?_ ?_
        · exact (sp.lane true mp.sid).all_steal mp noDup
        · intro cb held
          exact Lane.mem_of_mem_steal mp noDup held
        · intro sid
          rw [Assoc.ostrm_put_ordered]
          split
          next here =>
            rw [here]
            exact ⟨rfl, rfl⟩
          next => exact ⟨rfl, rfl⟩
        · intro sid addr head
          rw [Assoc.ostrm_put_ordered] at head
          split at head
          next here =>
            rw [here]
            have stolen : ((sp.lane true mp.sid).steal mp noDup).part.head =
              some addr := head
            exact (Lane.head_steal stolen).1
          next => exact head

theorem step (numbered : Numbered sp) (event : Event)
    (numbers : event.Numbers sp) : Numbered (sp.step event) := by
  cases event with
  | dataReq r => exact numbered.dataReq r numbers
  | bundle ord noDup => exact numbered.bundle ord noDup

end Numbered

/-- In every run no message of which is ended in a chunk that is queued
already, or by a write without data, the ordered messages of each stream are
numbered one after the other. -/
theorem consecutive_along (events : List Event)
    (along : Runs.Along Assoc.step (fun sp event => event.Numbers sp)
      Assoc.alloc events) (sid : UInt16) :
    Consecutive (Assoc.alloc.run events) sid :=
  (along.foldl (fun event numbered => numbered.step event)
    Numbered.alloc).consecutive sid

instance (r : Request) (lane : Lane) : Decidable (r.Numbers lane) :=
  inferInstanceAs (Decidable (_ → _ → _ ∧ (_ → _)))

instance (sp : Assoc) (event : Event) : Decidable (event.Numbers sp) :=
  match event with
  | .dataReq r => inferInstanceAs (Decidable (r.Numbers _))
  | .bundle _ _ => .isTrue True.intro

def smallWrite (more : Bool) (octets : List UInt8) : Event :=
  .dataReq
    { amps := 100, turns := fun _ => openTurn, found := true, ppi := 0
      sid := 0, ord := true, more := more, rcpt := false
      mp := [⟨true, octets⟩] }

theorem consecutive_when_transmitted :
    Consecutive
      (Assoc.alloc.run
        [smallWrite true [1, 2], .bundle true false, smallWrite false [3],
          smallWrite false [4]]) 0 :=
  consecutive_along
    [smallWrite true [1, 2], .bundle true false, smallWrite false [3],
      smallWrite false [4]] (by decide +kernel) 0

theorem number_used_twice :
    ¬Consecutive
      (Assoc.alloc.run
        [smallWrite true [1, 2], smallWrite false [3], smallWrite false [4]])
      0 := by
  have chunks : (Assoc.alloc.run
      [smallWrite true [1, 2], smallWrite false [3],
        smallWrite false [4]]).sndq.all.map
      (fun cb => (cb.sid, cb.ssn, cb.msg)) = [(0, 0, 0), (0, 0, 1)] := by
    decide +kernel
  intro consecutive
  obtain ⟨cb, held, first⟩ := List.mem_map.mp
    (chunks.symm ▸ List.mem_cons_self)
  obtain ⟨cb', held', second⟩ := List.mem_map.mp
    (chunks.symm ▸ List.mem_cons_of_mem _ List.mem_cons_self)
  simp only [Prod.mk.injEq] at first second
  have next := consecutive.next cb held cb' held' first.1 second.1
    (by rw [first.2.2, second.2.2])
  rw [first.2.1, second.2.1] at next
  exact absurd next (by decide)

end OpenSS7.Sctp.Sending
