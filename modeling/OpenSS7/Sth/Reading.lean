import Mathlib.Algebra.Order.BigOperators.Group.List
import OpenSS7.Sth.Read

/-!
When reads lose nothing and keep to the boundaries of messages.
-/

namespace OpenSS7.Sth

open PriorityList

def contents (protdis : Bool) (bs : List Block) : List UInt8 :=
  bs.flatMap (Block.content protdis)

def Message.readable (protdis : Bool) (mp : Message) : List UInt8 :=
  contents protdis mp.blocks

def readable (protdis : Bool) (q : List Message) : List UInt8 :=
  q.flatMap (Message.readable protdis)

def dropRead (protdis : Bool) : Nat → List Block → List Block
  | _, [] => []
  | n, b :: rest =>
      let len := (b.content protdis).length
      if n < len then { b with data := b.data.drop n } :: rest
      else dropRead protdis (n - len) rest

def Message.unread (protdis : Bool) (mp : Message) (n : Nat) : Option Message :=
  match dropRead protdis n mp.blocks with
  | [] => none
  | b :: rest =>
      some
        { first :=
            { b with
              msgmark := mp.first.msgmark
              msgdelim := mp.first.msgdelim
              bBand := mp.first.bBand }
          cont := rest }

def ReadOpt.Boundary (opt : ReadOpt) (mp : Message) : Prop :=
  opt.strdelim = false ∨ mp.first.msgdelim = true

def ReadOpt.Unmarked (opt : ReadOpt) (got : Nat) (mp : Message) : Prop :=
  got ≠ 0 → mp.first.msgmark = true → mp.readable opt.protdis = []

/-- What a read that has `got` octets and room for `room` more may do with the
messages waiting: take them whole from the front, in the message modes no
further than a boundary, and end inside one of them, whose rest stays in front
or is discarded. Besides the octets read and those discarded it gives the
messages that remain. -/
inductive Reads (opt : ReadOpt) :
    Nat → Nat → List Message → List UInt8 → List UInt8 → List Message → Prop
  | stop {got room : Nat} {q : List Message} : Reads opt got room q [] [] q
  | last {got room : Nat} {mp : Message} {q : List Message}
      (unmarked : opt.Unmarked got mp)
      (fits : (mp.readable opt.protdis).length ≤ room) :
      Reads opt got room (mp :: q) (mp.readable opt.protdis) [] q
  | more {got room : Nat} {mp : Message} {q q' : List Message}
      {octets gone : List UInt8}
      (unmarked : opt.Unmarked got mp)
      (fits : (mp.readable opt.protdis).length ≤ room)
      (within : opt.mode ≠ .rnorm → ¬ opt.Boundary mp)
      (rest : Reads opt (got + (mp.readable opt.protdis).length)
        (room - (mp.readable opt.protdis).length) q octets gone q') :
      Reads opt got room (mp :: q) (mp.readable opt.protdis ++ octets) gone q'
  | inside {got room n : Nat} {mp : Message} {q : List Message}
      (unmarked : opt.Unmarked got mp) (positive : 0 < n) (fits : n ≤ room)
      (less : n < (mp.readable opt.protdis).length) :
      Reads opt got room (mp :: q) ((mp.readable opt.protdis).take n)
        (if opt.mode = .rmsgd then (mp.readable opt.protdis).drop n else [])
        ((if opt.mode = .rmsgd then none
          else mp.unread opt.protdis n).toList ++ q)

/-- The block inside which `n` octets end. -/
def cutBlock (protdis : Bool) : Nat → List Block → Option Block
  | 0, _ => none
  | _, [] => none
  | n + 1, b :: rest =>
      let len := (b.content protdis).length
      if n + 1 < len then some b else cutBlock protdis (n + 1 - len) rest

/-- A read may end after `n` octets of a message, with `q` behind it: the rest
is discarded anyhow; or the octets end inside a block that carries the mark,
the delimiter and the band of the message, and nothing behind has a higher
priority than this block. -/
def ReadOpt.Cut (opt : ReadOpt) (mp : Message) (n : Nat) (q : List Message) :
    Prop :=
  n = (mp.readable opt.protdis).length ∨ opt.mode = .rmsgd ∨
    ∃ b ∈ cutBlock opt.protdis n mp.blocks,
      b.msgmark = mp.first.msgmark ∧ b.msgdelim = mp.first.msgdelim ∧
        (if b.dbType = .mPcproto then 0 else b.bBand) = mp.first.bBand ∧
        ∀ next ∈ q.head?, next.cls ≤ b.cls

/-- The condition under which a read with `got` octets and room for `room` more
does what it should: no message with data is marked among those it goes on
with, and it may end where it does. -/
def ReadOpt.Fits (opt : ReadOpt) (got room : Nat) : List Message → Prop
  | [] => True
  | mp :: q =>
      if Head.accepts opt.getFlags 0 mp = false then True
      else if mp.first.dbType = .mData ∧ mp.readable opt.protdis = [] ∧
          Reading.stopsAfter opt mp = false ∧ got ≠ 0 then True
      else
        opt.Unmarked got mp ∧
          if room ≤ (mp.readable opt.protdis).length then opt.Cut mp room q
          else if Reading.stopsAfter opt mp ∨
              mp.first.dbType = .mData ∧ mp.readable opt.protdis = [] then True
          else opt.Fits (got + (mp.readable opt.protdis).length)
            (room - (mp.readable opt.protdis).length) q

instance (opt : ReadOpt) (got : Nat) (mp : Message) :
    Decidable (opt.Unmarked got mp) :=
  inferInstanceAs (Decidable (_ → _ → _))

instance (opt : ReadOpt) (mp : Message) (n : Nat) (q : List Message) :
    Decidable (opt.Cut mp n q) :=
  inferInstanceAs (Decidable (_ ∨ _ ∨ ∃ b ∈ _, _ ∧ _ ∧ _ ∧ ∀ next ∈ _, _))

instance decidableFits (opt : ReadOpt) :
    ∀ got room q, Decidable (opt.Fits got room q)
  | _, _, [] => .isTrue trivial
  | got, room, mp :: q =>
      have := decidableFits opt (got + (mp.readable opt.protdis).length)
        (room - (mp.readable opt.protdis).length) q
      decidable_of_iff _ (Iff.of_eq (ReadOpt.Fits.eq_2 opt got room mp q).symm)

section Copyout

variable {protdis : Bool}

@[simp] theorem contents_nil : contents protdis [] = [] := rfl

@[simp] theorem contents_cons (b : Block) (bs : List Block) :
    contents protdis (b :: bs) = b.content protdis ++ contents protdis bs :=
  List.flatMap_cons

@[simp] theorem contents_append (pre bs : List Block) :
    contents protdis (pre ++ bs) =
      contents protdis pre ++ contents protdis bs :=
  List.flatMap_append

theorem strmsgcount_eq (mp : Message) :
    strmsgcount protdis mp = (mp.readable protdis).length := by
  unfold strmsgcount Message.readable contents
  rw [List.length_flatMap]

theorem content_cases (b : Block) :
    (b.content protdis = [] ∧
        ∀ faults room rest, strmcopyout protdis faults room (b :: rest) =
          strmcopyout protdis faults room rest) ∨
      (b.content protdis = b.data ∧ b.data ≠ [] ∧
        ¬ (protdis = true ∧ b.dbType ≠ .mData)) := by
  by_cases empty : b.data = []
  · left
    refine ⟨?_, fun faults room rest => ?_⟩
    · simp [Block.content, empty]
    · rw [strmcopyout, if_pos empty]
  · by_cases discarded : protdis = true ∧ b.dbType ≠ .mData
    · left
      refine ⟨by simp [Block.content, discarded], fun faults room rest => ?_⟩
      rw [strmcopyout, if_neg empty, if_pos discarded]
    · right
      exact ⟨by simp only [Block.content, if_neg discarded], empty, discarded⟩

theorem strmcopyout_append (pre bs : List Block) {room : Nat}
    (fits : (contents protdis pre).length ≤ room) :
    strmcopyout protdis none room (pre ++ bs) =
      (strmcopyout protdis none (room - (contents protdis pre).length)
        bs).after (contents protdis pre) := by
  induction pre generalizing room with
  | nil => simp [Copyout.after]
  | cons b rest ih =>
      rw [contents_cons, List.length_append] at fits
      rw [contents_cons, List.cons_append]
      rcases @content_cases protdis b with
        ⟨none, skip⟩ | ⟨content, some, kept⟩
      · rw [skip, none, List.nil_append]
        rw [none] at fits
        exact ih (by simpa using fits)
      · rw [content] at fits ⊢
        have positive : 0 < b.data.length := List.length_pos_iff.mpr some
        have whole : min b.data.length room = b.data.length := by omega
        rw [strmcopyout, if_neg some, if_neg kept]
        simp only [whole, positive, if_true, reduceCtorEq, if_false,
          Nat.lt_irrefl, Option.map_none, List.take_length]
        rw [ih (by omega), List.length_append, Nat.sub_sub]
        simp [Copyout.after, List.append_assoc]

theorem strmcopyout_all {bs : List Block} {room : Nat}
    (fits : (contents protdis bs).length ≤ room) :
    strmcopyout protdis none room bs = ⟨contents protdis bs, [], false⟩ := by
  have whole := strmcopyout_append bs [] fits
  rw [List.append_nil] at whole
  rw [whole]
  simp [strmcopyout, Copyout.after]

theorem strmcopyout_full (bs : List Block) :
    strmcopyout protdis none 0 bs = ⟨[], [], false⟩ := by
  induction bs with
  | nil => rfl
  | cons b rest ih =>
      rcases @content_cases protdis b with
        ⟨_, skip⟩ | ⟨_, some, kept⟩
      · rw [skip, ih]
      · rw [strmcopyout, if_neg some, if_neg kept]
        simp [ih]

theorem strmcopyout_cut {bs : List Block} {n : Nat} (positive : 0 < n)
    (less : n < (contents protdis bs).length) :
    strmcopyout protdis none n bs =
      ⟨(contents protdis bs).take n,
        if (cutBlock protdis n bs).isSome then dropRead protdis n bs else [],
        false⟩ := by
  induction bs generalizing n with
  | nil => exact absurd less (Nat.not_lt_zero _)
  | cons b rest ih =>
      rw [contents_cons, List.length_append] at less
      rw [contents_cons]
      rcases @content_cases protdis b with
        ⟨none, skip⟩ | ⟨content, full, kept⟩
      · have cut : cutBlock protdis n (b :: rest) =
            cutBlock protdis n rest := by
          obtain ⟨m, rfl⟩ := Nat.exists_eq_succ_of_ne_zero
            (Nat.pos_iff_ne_zero.mp positive)
          simp [cutBlock, none]
        have drop : dropRead protdis n (b :: rest) =
            dropRead protdis n rest := by
          simp [dropRead, none]
        rw [skip, none, List.nil_append, cut, drop]
        rw [none] at less
        exact ih positive (by simpa using less)
      · rw [content] at less ⊢
        rw [strmcopyout, if_neg full, if_neg kept]
        obtain ⟨m, rfl⟩ := Nat.exists_eq_succ_of_ne_zero
          (Nat.pos_iff_ne_zero.mp positive)
        have filled : 0 < b.data.length := List.length_pos_iff.mpr full
        by_cases within : m + 1 < b.data.length
        · have part : min b.data.length (m + 1) = m + 1 := by omega
          simp only [part, positive, if_true, reduceCtorEq, if_false, within,
            cutBlock, content, dropRead, Option.isSome_some]
          rw [List.take_append_of_le_length (Nat.le_of_lt within)]
        · have whole : min b.data.length (m + 1) = b.data.length := by omega
          simp only [whole, filled, if_true, reduceCtorEq, if_false,
            Nat.lt_irrefl, Option.map_none, List.take_length, cutBlock,
            content, dropRead, within]
          rw [List.take_append, List.take_of_length_le (by omega)]
          by_cases last : m + 1 - b.data.length = 0
          · rw [last, strmcopyout_full]
            simp [Copyout.after, cutBlock]
          · rw [ih (by omega) (by omega)]
            rfl

theorem dropRead_of_cut {bs : List Block} {n : Nat} {b : Block}
    (cut : cutBlock protdis n bs = some b) :
    ∃ k rest, dropRead protdis n bs =
      { b with data := b.data.drop k } :: rest := by
  induction bs generalizing n with
  | nil => cases n <;> cases cut
  | cons c rest ih =>
      cases n with
      | zero => cases cut
      | succ m =>
          unfold cutBlock at cut
          unfold dropRead
          simp only at cut ⊢
          split at cut
          case isTrue within =>
            rw [if_pos within, Option.some.inj cut]
            exact ⟨m + 1, rest, rfl⟩
          case isFalse beyond =>
            rw [if_neg beyond]
            exact ih cut

end Copyout

section Order

variable {q : List Message} {mp : Message}

theorem requeue_front (front : ∀ next ∈ q.head?, next.cls ≤ mp.cls) :
    requeue Message.cls mp q = mp :: q := by
  unfold requeue
  cases q with
  | nil => rfl
  | cons next rest =>
      have under := front next rfl
      have stays : decide (mp.cls < next.cls) = false :=
        decide_eq_false (not_lt_of_ge under)
      rw [List.takeWhile_cons_of_neg (by simp [stays]),
        List.dropWhile_cons_of_neg (by simp [stays])]
      rfl

theorem front_of_ordered (ordered : Ordered Message.cls (mp :: q)) :
    ∀ next ∈ q.head?, next.cls ≤ mp.cls := by
  intro next first
  exact (List.pairwise_cons.mp ordered).1 next (List.mem_of_mem_head? first)

theorem ordered_replace {left : Message}
    (ordered : Ordered Message.cls (mp :: q))
    (front : ∀ next ∈ q.head?, next.cls ≤ left.cls) :
    Ordered Message.cls (left :: q) := by
  have behind := (List.pairwise_cons.mp ordered).2
  refine List.pairwise_cons.mpr ⟨fun next member => ?_, behind⟩
  cases q with
  | nil => exact absurd member List.not_mem_nil
  | cons head rest =>
      have first := front head rfl
      rcases List.mem_cons.mp member with here | later
      · exact here ▸ first
      · exact le_trans ((List.pairwise_cons.mp behind).1 next later) first

theorem strputbq_q (h : Head) (mp : Message) :
    (h.strputbq mp).q = requeue Message.cls mp.queued h.q := by
  unfold Head.strputbq Head.strputbqFlags
  split <;> rfl

end Order

section Finish

variable {opt : ReadOpt} {h : Head} {nbytes : Nat} {r : Reading}

def Reading.gathered (r : Reading) (opt : ReadOpt) : List UInt8 :=
  (r.first.map (Message.readable opt.protdis)).getD []

theorem link_blocks (r : Reading) (mp : Message) (count : Nat) :
    ∃ first pre, (r.link mp count).first = some first ∧
      first.blocks = pre ++ mp.blocks ∧
      contents opt.protdis pre = r.gathered opt := by
  unfold Reading.link strlinkmsg Reading.gathered
  cases r.first with
  | none => exact ⟨mp, [], rfl, rfl, rfl⟩
  | some first => exact ⟨_, _ :: first.cont, rfl, rfl, rfl⟩

theorem gathered_link (r : Reading) (mp : Message) (count : Nat) :
    (r.link mp count).gathered opt =
      r.gathered opt ++ mp.readable opt.protdis := by
  obtain ⟨first, pre, linked, blocks, before⟩ :=
    @link_blocks opt r mp count
  rw [← before]
  unfold Reading.gathered Message.readable
  rw [linked]
  simp [blocks]

theorem finish_all (fits : (r.gathered opt).length ≤ nbytes) :
    h.finish opt none nbytes r = (r.gathered opt, false, h) := by
  unfold Head.finish Reading.gathered at *
  cases first : r.first with
  | none => rfl
  | some first =>
      rw [first] at fits
      simp only [Option.map_some, Option.getD_some] at fits ⊢
      rw [strmcopyout_all fits]
      rfl

theorem unread_of_cut {mp : Message} {n : Nat} {b : Block}
    (cut : cutBlock opt.protdis n mp.blocks = some b)
    (mark : b.msgmark = mp.first.msgmark)
    (delim : b.msgdelim = mp.first.msgdelim)
    (band : (if b.dbType = .mPcproto then 0 else b.bBand) = mp.first.bBand) :
    ∃ left, Message.ofBlocks (dropRead opt.protdis n mp.blocks) = some left ∧
      mp.unread opt.protdis n = some left.queued ∧ left.cls = b.cls := by
  obtain ⟨k, rest, dropped⟩ := dropRead_of_cut cut
  refine ⟨⟨{ b with data := b.data.drop k }, rest⟩, ?_, ?_, rfl⟩
  · rw [dropped]
    rfl
  · unfold Message.unread Message.queued
    rw [dropped]
    split at band
    case isTrue high => simp [← mark, ← delim, ← band, high]
    case isFalse ordinary => simp [← mark, ← delim, ← band, ordinary]

theorem finish_cut {mp : Message} {count n : Nat}
    (got : (r.gathered opt).length + n = nbytes) (positive : 0 < n)
    (short : n ≤ (mp.readable opt.protdis).length)
    (unmarked : opt.Unmarked (r.gathered opt).length mp)
    (ordered : Ordered Message.cls (mp :: h.q)) (cut : opt.Cut mp n h.q) :
    ∃ octets gone h', h.finish opt none nbytes (r.link mp count) =
        (r.gathered opt ++ octets, false, h') ∧
      Reads opt (r.gathered opt).length n (mp :: h.q) octets gone h'.q ∧
      Ordered Message.cls h'.q := by
  have behind := (List.pairwise_cons.mp ordered).2
  rcases Nat.eq_or_lt_of_le short with whole | less
  · refine ⟨mp.readable opt.protdis, [], h, ?_, ?_, behind⟩
    · rw [finish_all, gathered_link]
      rw [gathered_link, List.length_append]
      omega
    · exact .last unmarked (Nat.le_of_eq whole.symm)
  · obtain ⟨first, pre, linked, blocks, before⟩ :=
      @link_blocks opt r mp count
    have left : nbytes - (contents opt.protdis pre).length = n := by
      rw [before]
      omega
    have copyout : strmcopyout opt.protdis none nbytes first.blocks =
        ⟨r.gathered opt ++ (mp.readable opt.protdis).take n,
          if (cutBlock opt.protdis n mp.blocks).isSome then
            dropRead opt.protdis n mp.blocks else [], false⟩ := by
      rw [blocks, strmcopyout_append pre _ (by rw [before]; omega), left,
        strmcopyout_cut positive less, ← before]
      rfl
    have copied : r.gathered opt ++ (mp.readable opt.protdis).take n ≠ [] := by
      intro none
      have nothing := congrArg List.length none
      rw [List.length_append, List.length_take, List.length_nil] at nothing
      omega
    have read := @Reads.inside opt _ _ n mp h.q unmarked positive
      (Nat.le_refl n) less
    unfold Head.finish
    rw [linked]
    simp only [copyout]
    by_cases discard : opt.mode = .rmsgd
    · refine ⟨(mp.readable opt.protdis).take n,
        (mp.readable opt.protdis).drop n, h, ?_, ?_, behind⟩
      · split
        · rfl
        · rw [if_pos ⟨copied, trivial, discard⟩]
      · simpa only [discard, if_true, Option.toList_none, List.nil_append]
          using read
    · obtain ⟨b, found, mark, delim, band, front⟩ :=
        (cut.resolve_left (Nat.ne_of_lt less)).resolve_left discard
      obtain ⟨rest, blocks', unread, cls⟩ := unread_of_cut found mark delim band
      have returned : (h.strputbq rest).q = rest.queued :: h.q := by
        rw [strputbq_q]
        apply requeue_front
        rw [Message.queued_cls, cls]
        exact front
      rw [found]
      simp only [Option.isSome_some, if_true, blocks', discard, and_false,
        if_false]
      refine ⟨_, [], h.strputbq rest, rfl, ?_, ?_⟩
      · rw [returned]
        simpa only [discard, if_false, unread, Option.toList_some,
          List.singleton_append] using read
      · rw [returned]
        apply ordered_replace ordered
        rw [Message.queued_cls, cls]
        exact front

end Finish

section Gather

variable {opt : ReadOpt} {nbytes : Nat} {nodelay : Bool}

theorem strgetq_cons {h : Head} {mp : Message} {q : List Message}
    (waiting : h.q = mp :: q) :
    (Head.accepts opt.getFlags 0 mp = false ∧
        h.strgetq opt.getFlags 0 = (.ebadmsg, h)) ∨
      (Head.accepts opt.getFlags 0 mp = true ∧ ∃ h' : Head, h'.q = q ∧
        h.strgetq opt.getFlags 0 = (.msg mp, h')) := by
  unfold Head.strgetq
  rw [waiting]
  cases accepted : Head.accepts opt.getFlags 0 mp with
  | false => exact .inl ⟨rfl, by simp [accepted]⟩
  | true =>
      refine .inr ⟨rfl, { h with
        q := q
        strpri := if mp.first.dbType = .mPcproto then false else h.strpri },
        rfl, ?_⟩
      simp only [accepted, if_true]

theorem within_of_not_stops {mp : Message}
    (goes : Reading.stopsAfter opt mp = false) :
    opt.mode ≠ .rnorm → ¬ opt.Boundary mp := by
  intro messages boundary
  have modes : opt.messages = true := decide_eq_true messages
  unfold Reading.stopsAfter at goes
  rw [modes] at goes
  rcases boundary with undelimited | delimited
  · simp [undelimited] at goes
  · simp [delimited] at goes

theorem gather_reads {fuel : Nat} {h h' : Head} {once : Bool} {r r' : Reading}
    {err : ReadErr} (enough : h.q.length < fuel)
    (ordered : Ordered Message.cls h.q)
    (count : r.xferd = (r.gathered opt).length) (less : r.xferd < nbytes)
    (fits : opt.Fits r.xferd (nbytes - r.xferd) h.q)
    (loop : Head.gather opt nbytes nodelay fuel h once r =
      some (r', err, h')) :
    ∃ octets gone h'', h'.finish opt none nbytes r' =
        (r.gathered opt ++ octets, false, h'') ∧
      Reads opt r.xferd (nbytes - r.xferd) h.q octets gone h''.q ∧
      Ordered Message.cls h''.q := by
  have all : (r.gathered opt).length ≤ nbytes := by omega
  have nothing (h : Head) : h.finish opt none nbytes r =
      (r.gathered opt ++ [], false, h) := by
    rw [List.append_nil]
    exact finish_all all
  induction fuel generalizing h once r with
  | zero => exact absurd enough (Nat.not_lt_zero _)
  | succ fuel ih =>
      rw [Head.gather] at loop
      cases waiting : h.q with
      | nil =>
          have empty : h.strgetq opt.getFlags 0 = (.empty, h) := by
            unfold Head.strgetq
            rw [waiting]
          rw [empty] at loop
          simp only at loop
          split at loop
          · cases loop
          · cases loop
            refine ⟨[], [], _, nothing _, ?_, ordered⟩
            rw [waiting]
            exact .stop
      | cons mp q =>
          rw [waiting] at ordered fits enough
          rcases @strgetq_cons opt _ _ _ waiting with
            ⟨refused, result⟩ | ⟨accepted, taken, left, result⟩
          · rw [result] at loop
            cases loop
            refine ⟨[], [], _, nothing _, ?_, ?_⟩
            · rw [waiting]
              exact .stop
            · rw [waiting]
              exact ordered
          · rw [result] at loop
            subst left
            have octets := @strmsgcount_eq opt.protdis mp
            have zero : (mp.readable opt.protdis).length = 0 ↔
                mp.readable opt.protdis = [] := List.length_eq_zero_iff
            rw [ReadOpt.Fits, if_neg (by simp [accepted])] at fits
            unfold Reading.take at loop
            simp only [octets, zero] at loop
            by_cases eof : mp.first.dbType = .mData ∧
                mp.readable opt.protdis = [] ∧
                Reading.stopsAfter opt mp = false ∧ r.xferd ≠ 0
            · rw [if_pos eof] at loop
              cases loop
              have back : (taken.strputbq mp).q = h.q := by
                have same : mp.queued = mp := by
                  unfold Message.queued
                  simp [eof.1]
                rw [strputbq_q, waiting, same]
                exact requeue_front (front_of_ordered ordered)
              refine ⟨[], [], taken.strputbq mp, nothing _, ?_, ?_⟩
              · rw [back, waiting]
                exact .stop
              · rw [back, waiting]
                exact ordered
            · rw [if_neg eof] at fits loop
              obtain ⟨unmarked, fits⟩ := fits
              by_cases stops : Reading.stopsAfter opt mp = true ∨
                  mp.first.dbType = .mData ∧ mp.readable opt.protdis = [] ∨
                  nbytes ≤ r.xferd + (mp.readable opt.protdis).length
              · rw [if_pos (by simpa [or_assoc] using stops)] at loop
                cases loop
                split at fits
                case isTrue short =>
                  rw [count] at fits short unmarked less ⊢
                  exact finish_cut (by omega) (by omega) short unmarked ordered
                    fits
                case isFalse long =>
                  refine ⟨mp.readable opt.protdis, [], h', ?_, ?_, ?_⟩
                  · rw [finish_all, gathered_link]
                    rw [gathered_link, List.length_append]
                    omega
                  · exact .last unmarked (by omega)
                  · exact (List.pairwise_cons.mp ordered).2
              · rw [if_neg (by simpa [or_assoc] using stops)] at loop
                rw [not_or, not_or] at stops
                obtain ⟨goes, data, short⟩ := stops
                rw [if_neg (by omega), if_neg (not_or.mpr ⟨goes, data⟩)] at fits
                have linked := @gathered_link opt r mp
                  (mp.readable opt.protdis).length
                have next := ih (r := r.link mp (mp.readable opt.protdis).length)
                  (Nat.lt_of_succ_lt_succ enough)
                  (List.pairwise_cons.mp ordered).2
                  (by rw [linked, List.length_append, ← count]; rfl)
                  (by change r.xferd + _ < nbytes; omega)
                  (by change opt.Fits (r.xferd + _) (nbytes - (r.xferd + _)) _
                      rw [← Nat.sub_sub]
                      exact fits)
                  loop
                  (by rw [linked, List.length_append]; omega)
                  (fun h => by
                    rw [finish_all, List.append_nil]
                    rw [linked, List.length_append]
                    omega)
                obtain ⟨octets', gone, h'', done, reads, ordered'⟩ := next
                refine ⟨mp.readable opt.protdis ++ octets', gone, h'', ?_, ?_,
                  ordered'⟩
                · rw [done, linked, List.append_assoc]
                · apply Reads.more unmarked (by omega)
                  · exact within_of_not_stops (Bool.eq_false_iff.mpr goes)
                  · change Reads opt (r.xferd + _) (nbytes - (r.xferd + _)) _ _
                      _ _ at reads
                    rw [← Nat.sub_sub] at reads
                    exact reads

end Gather

section Conserve

variable {opt : ReadOpt}

theorem contents_dropRead {protdis : Bool} (n : Nat) (bs : List Block) :
    contents protdis (dropRead protdis n bs) =
      (contents protdis bs).drop n := by
  induction bs generalizing n with
  | nil => simp [dropRead]
  | cons b rest ih =>
      unfold dropRead
      simp only
      split
      case isTrue within =>
        rw [contents_cons, contents_cons,
          List.drop_append_of_le_length (Nat.le_of_lt within)]
        congr 1
        unfold Block.content at within ⊢
        simp only
        split
        case isTrue discarded => simp [discarded] at within
        case isFalse => rfl
      case isFalse beyond =>
        rw [ih, contents_cons, List.drop_append,
          List.drop_eq_nil_of_le (Nat.not_lt.mp beyond), List.nil_append]

theorem readable_unread {protdis : Bool} (mp : Message) (n : Nat) :
    readable protdis (mp.unread protdis n).toList =
      (mp.readable protdis).drop n := by
  have dropped := @contents_dropRead protdis n mp.blocks
  unfold Message.unread Message.readable
  rw [← dropped]
  cases dropRead protdis n mp.blocks with
  | nil => rfl
  | cons b rest =>
      simp only [Option.toList_some, readable, List.flatMap_cons,
        List.flatMap_nil, List.append_nil]
      rfl

theorem Reads.conserves {got room : Nat} {q q' : List Message}
    {octets gone : List UInt8} (reads : Reads opt got room q octets gone q') :
    readable opt.protdis q = octets ++ gone ++ readable opt.protdis q' := by
  induction reads with
  | stop => rfl
  | last => simp [readable]
  | more _ _ _ _ ih =>
      rw [readable, List.flatMap_cons]
      change _ ++ readable opt.protdis _ = _
      rw [ih]
      simp [List.append_assoc]
  | @inside got room n mp q _ _ _ _ =>
      have whole : readable opt.protdis (mp :: q) =
          mp.readable opt.protdis ++ readable opt.protdis q :=
        List.flatMap_cons
      rw [whole]
      by_cases discard : opt.mode = .rmsgd
      · simp [discard]
      · have rest : readable opt.protdis
            ((mp.unread opt.protdis n).toList ++ q) =
            (mp.readable opt.protdis).drop n ++ readable opt.protdis q := by
          rw [← readable_unread]
          exact List.flatMap_append
        simp only [discard, if_false, List.append_nil]
        rw [rest, ← List.append_assoc, List.take_append_drop]

theorem Reads.keeps {got room : Nat} {q q' : List Message}
    {octets gone : List UInt8} (reads : Reads opt got room q octets gone q')
    (mode : opt.mode ≠ .rmsgd) : gone = [] := by
  induction reads with
  | stop => rfl
  | last => rfl
  | more _ _ _ _ ih => exact ih
  | inside => rw [if_neg mode]

end Conserve

section Runs

/-- A read of `nbytes` octets; with `nodelay` it does not wait. -/
structure ReadCall where
  nbytes : Nat
  nodelay : Bool
deriving DecidableEq

variable (opt : ReadOpt)

def Accounted : Head → List ReadCall → List UInt8 → Prop
  | h, [], octets => octets = readable opt.protdis h.q
  | h, call :: rest, octets =>
      match h.strread opt call.nbytes call.nodelay with
      | none => octets = readable opt.protdis h.q
      | some (copied, _, h') =>
          ∃ gone later, Reads opt 0 call.nbytes h.q copied gone h'.q ∧
            octets = copied ++ gone ++ later ∧ Accounted h' rest later

def AllFit : Head → List ReadCall → Prop
  | _, [] => True
  | h, call :: rest =>
      opt.Fits 0 call.nbytes h.q ∧
        match h.strread opt call.nbytes call.nodelay with
        | none => True
        | some (_, _, h') => AllFit h' rest

instance decidableAllFit (opt : ReadOpt) :
    ∀ h calls, Decidable (AllFit opt h calls)
  | _, [] => .isTrue trivial
  | h, call :: rest =>
      match result : h.strread opt call.nbytes call.nodelay with
      | none =>
          decidable_of_iff (opt.Fits 0 call.nbytes h.q)
            (by simp [AllFit, result])
      | some (_, _, h') =>
          have := decidableAllFit opt h' rest
          decidable_of_iff (opt.Fits 0 call.nbytes h.q ∧ AllFit opt h' rest)
            (by simp [AllFit, result])

variable {opt}

theorem strread_reads {h h' : Head} {call : ReadCall} {copied : List UInt8}
    {err : ReadErr} (ordered : Ordered Message.cls h.q)
    (positive : 0 < call.nbytes) (fits : opt.Fits 0 call.nbytes h.q)
    (result : h.strread opt call.nbytes call.nodelay =
      some (copied, err, h')) :
    ∃ gone, Reads opt 0 call.nbytes h.q copied gone h'.q ∧
      Ordered Message.cls h'.q := by
  unfold Head.strread at result
  split at result
  · cases result
  case h_2 r err' taken loop =>
    obtain ⟨octets, gone, h'', done, reads, ordered'⟩ :=
      gather_reads (Nat.lt_succ_self _) ordered rfl positive
        (by rw [Nat.sub_zero]; exact fits) loop
    rw [done] at result
    cases result
    exact ⟨gone, by simpa [Reading.gathered] using reads, ordered'⟩

/-- Reads that fit what is waiting for them lose and duplicate nothing, and
keep to the boundaries and marks of the messages. -/
theorem reads_accounted (opt : ReadOpt) (h : Head) (calls : List ReadCall)
    (ordered : Ordered Message.cls h.q)
    (positive : ∀ call ∈ calls, 0 < call.nbytes) (fit : AllFit opt h calls) :
    Accounted opt h calls (readable opt.protdis h.q) := by
  induction calls generalizing h with
  | nil => rfl
  | cons call rest ih =>
      obtain ⟨fits, later⟩ := fit
      unfold Accounted
      cases result : h.strread opt call.nbytes call.nodelay with
      | none => rfl
      | some out =>
          obtain ⟨copied, err, h'⟩ := out
          rw [result] at later
          obtain ⟨gone, reads, ordered'⟩ := strread_reads ordered
            (positive call List.mem_cons_self) fits result
          exact ⟨gone, readable opt.protdis h'.q, reads, reads.conserves,
            ih h' ordered' (fun call member =>
              positive call (List.mem_cons_of_mem _ member)) later⟩

theorem reads_accounted_two :
    Accounted ⟨.rmsgn, .rprotnorm, false⟩
      ⟨[⟨⟨.mData, 0, false, false, [1, 2, 3]⟩, []⟩,
        ⟨⟨.mData, 0, false, false, [4]⟩, []⟩], false, false⟩
      [⟨2, true⟩, ⟨2, true⟩, ⟨2, true⟩] [1, 2, 3, 4] :=
  reads_accounted ⟨.rmsgn, .rprotnorm, false⟩
    ⟨[⟨⟨.mData, 0, false, false, [1, 2, 3]⟩, []⟩,
      ⟨⟨.mData, 0, false, false, [4]⟩, []⟩], false, false⟩
    [⟨2, true⟩, ⟨2, true⟩, ⟨2, true⟩]
    (by simp [Ordered, Message.cls, Block.cls]) (by decide) (by decide)

theorem block_behind_lost :
    ¬ Accounted ⟨.rnorm, .rprotnorm, false⟩
      ⟨[⟨⟨.mData, 0, false, false, [1, 2]⟩,
        [⟨.mData, 0, false, false, [3]⟩]⟩], false, false⟩
      [⟨2, true⟩] [1, 2, 3] := by
  rintro ⟨gone, later, reads, -, -⟩
  have kept := reads.keeps (by decide)
  subst kept
  have octets := reads.conserves
  revert octets
  decide

end Runs

end OpenSS7.Sth
