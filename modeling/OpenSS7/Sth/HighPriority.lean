import OpenSS7.Sth.Reading
import OpenSS7.Sth.Rput

/-!
When at most one high priority message waits at a stream head, and STRPRI tells
of it.
-/

namespace OpenSS7.Sth

open PriorityList

def PutsBack (rest : Option Message) : Prop :=
  ∃ left ∈ rest, left.isPcproto = true

def Reader.Holds : Reader → Prop
  | .idle => False
  | .reading call r => PutsBack (call.rest r)
  | .getting _ => False
  | .copying call r => PutsBack (call.rest r)
  | .got call mp => PutsBack (call.rest mp)
  | .returning mp next =>
      mp.isPcproto = true ∨ ∃ held ∈ next, PutsBack (held.1.rest held.2)
  | .cleaning next => ∃ held ∈ next, PutsBack (held.1.rest held.2)

def Point.Present (p : Point) : Prop :=
  (∃ mp ∈ p.h.q, mp.isPcproto = true) ∨ p.reader.Holds

structure Point.Sound (p : Point) : Prop where
  single : p.h.q.countP Message.isPcproto ≤ 1
  strpri : p.h.strpri = true ↔ p.Present
  discarded : ∀ mp, mp.isPcproto = true → (p.h.strrput mp).q = p.h.q →
    p.h.strclose = true ∨ p.Present

/-- The block at which `strmcopyout` stops, and whether a copy failed there. -/
def copyStop (protdis : Bool) :
    Option Nat → Nat → List Block → Option (Block × Bool)
  | _, _, [] => none
  | faults, room, b :: rest =>
      let len := (b.content protdis).length
      if len = 0 ∨ room = 0 then copyStop protdis faults room rest
      else if faults = some 0 then some (b, true)
      else if room < len then some (b, false)
      else copyStop protdis (faults.map (· - 1)) (room - len) rest

def ReadReq.Leaves (call : ReadReq) (stop : Block × Bool) : Prop :=
  stop.1.dbType = .mPcproto → call.opt.mode = .rmsgd ∧ stop.2 = false

def Point.TakesWhole (p : Point) (mp : Message) : Prop :=
  match p.reader with
  | .reading call r =>
      ∀ stop ∈ copyStop call.opt.protdis call.faults call.nbytes
        (strlinkmsg r.first mp).blocks, call.Leaves stop
  | .getting call => ∀ b ∈ call.stop mp, b.dbType ≠ .mPcproto
  | _ => True

def Point.Clean (p : Point) : Event → Prop
  | .strgetq => ∀ mp ∈ p.h.q.head?, p.TakesWhole mp
  | .flushq => ∀ mp ∈ p.h.q, mp.isPcproto = false
  | _ => True

def Point.AllClean (p : Point) : List Event → Prop
  | [] => True
  | e :: rest => p.Clean e ∧ ∀ p' ∈ p.step e, p'.AllClean rest

instance (call : ReadReq) (stop : Block × Bool) :
    Decidable (call.Leaves stop) :=
  inferInstanceAs (Decidable (_ → _))

instance (p : Point) (mp : Message) : Decidable (p.TakesWhole mp) := by
  unfold Point.TakesWhole
  split <;> infer_instance

instance (p : Point) (e : Event) : Decidable (p.Clean e) := by
  unfold Point.Clean
  split <;> infer_instance

instance decidableAllClean : ∀ (p : Point) events, Decidable (p.AllClean events)
  | _, [] => .isTrue trivial
  | p, e :: rest =>
      have := fun p' : Point => decidableAllClean p' rest
      inferInstanceAs
        (Decidable (p.Clean e ∧ ∀ p' ∈ p.step e, p'.AllClean rest))

section Copyout

theorem strmcopyout_stop (protdis : Bool) (faults : Option Nat) (room : Nat)
    (bs : List Block) :
    (copyStop protdis faults room bs = none ∧
        (strmcopyout protdis faults room bs).left = []) ∨
      ∃ stop data rest octets, copyStop protdis faults room bs = some stop ∧
        strmcopyout protdis faults room bs =
          ⟨octets, { stop.1 with data := data } :: rest, stop.2⟩ ∧
        (stop.2 = false → octets ≠ []) := by
  induction bs generalizing faults room with
  | nil => exact .inl ⟨rfl, rfl⟩
  | cons b rest ih =>
      unfold copyStop
      simp only
      rcases @content_cases protdis b with
        ⟨empty, skip⟩ | ⟨content, nonempty, kept⟩
      · rw [skip, empty, if_pos (.inl rfl)]
        exact ih faults room
      · have filled : b.data.length ≠ 0 := by
          rw [Ne, List.length_eq_zero_iff]
          exact nonempty
        rw [strmcopyout, if_neg nonempty, if_neg kept, content]
        simp only
        by_cases full : room = 0
        · have nothing : ¬ 0 < min b.data.length room := by omega
          rw [if_pos (.inr full), if_neg nothing]
          exact ih faults room
        · have positive : 0 < min b.data.length room := by omega
          rw [if_neg (not_or.mpr ⟨filled, full⟩), if_pos positive]
          by_cases fault : faults = some 0
          · rw [if_pos fault, if_pos fault]
            exact .inr ⟨(b, true), b.data, rest, [], rfl, rfl,
              (absurd ·.symm Bool.false_ne_true)⟩
          · rw [if_neg fault, if_neg fault]
            by_cases short : room < b.data.length
            · have part : min b.data.length room = room := by omega
              rw [part, if_pos short, if_pos short]
              refine .inr ⟨(b, false), b.data.drop room, rest,
                b.data.take room, rfl, rfl, fun _ none => ?_⟩
              have nothing := congrArg List.length none
              rw [List.length_take, List.length_nil] at nothing
              omega
            · have whole : min b.data.length room = b.data.length := by omega
              rw [whole, if_neg short, if_neg (Nat.lt_irrefl _)]
              rcases ih (faults.map (· - 1)) (room - b.data.length) with
                ⟨none, left⟩ | ⟨stop, data, later, octets, stops, out, _⟩
              · exact .inl ⟨none, left⟩
              · refine .inr ⟨stop, data, later, b.data ++ octets, stops, ?_,
                  fun _ => List.append_ne_nil_of_left_ne_nil nonempty _⟩
                rw [out, List.take_length]
                rfl

theorem not_putsBack {call : ReadReq} {r : Reading} {first : Message}
    (held : r.first = some first)
    (leaves : ∀ stop ∈ copyStop call.opt.protdis call.faults call.nbytes
      first.blocks, call.Leaves stop) :
    ¬ PutsBack (call.rest r) := by
  rintro ⟨left, returned, high⟩
  unfold ReadReq.rest at returned
  rw [held] at returned
  simp only at returned
  rcases strmcopyout_stop call.opt.protdis call.faults call.nbytes
      first.blocks with
    ⟨_, none⟩ | ⟨stop, data, rest, octets, stops, out, copied⟩
  · rw [none] at returned
    simp [Message.ofBlocks] at returned
  · rw [out] at returned
    simp only [Message.ofBlocks] at returned
    split at returned
    · cases returned
    case isFalse kept =>
      cases returned
      obtain ⟨discard, fault⟩ := leaves stop stops (of_decide_eq_true high)
      exact kept ⟨copied fault, fault, discard⟩

theorem not_putsBack_getpmsg {call : GetCall} {mp : Message}
    (stops : ∀ b ∈ call.stop mp, b.dbType ≠ .mPcproto) :
    ¬ PutsBack (call.rest mp) := by
  rintro ⟨left, returned, high⟩
  have kind := call.rest_dbType mp
  rw [returned] at kind
  obtain ⟨b, stop, same⟩ := Option.map_eq_some_iff.mp kind.symm
  apply stops b stop
  rw [same]
  exact of_decide_eq_true high

end Copyout

section Queue

variable {q : List Message} {mp : Message}

@[simp] theorem queued_isPcproto (mp : Message) :
    mp.queued.isPcproto = mp.isPcproto := by
  unfold Message.isPcproto
  rw [Message.queued_dbType]

theorem cls_eq_top : mp.cls = ⊤ ↔ mp.isPcproto = true := by
  unfold Message.cls Block.cls Message.isPcproto
  split
  case isTrue high => simp [high]
  case isFalse ordinary =>
      simp only [ordinary, decide_false, Bool.false_eq_true, iff_false]
      exact WithTop.coe_ne_top

theorem head_of_pcproto (ordered : Ordered Message.cls q) :
    q.head?.any Message.isPcproto = true ↔
      ∃ mp ∈ q, mp.isPcproto = true := by
  cases q with
  | nil => simp
  | cons head rest =>
      simp only [List.head?_cons, Option.any_some]
      refine ⟨fun high => ⟨head, List.mem_cons_self, high⟩, ?_⟩
      rintro ⟨mp, member, high⟩
      rcases List.mem_cons.mp member with rfl | later
      · exact high
      · have under := (List.pairwise_cons.mp ordered).1 mp later
        rw [cls_eq_top.mpr high, top_le_iff] at under
        exact cls_eq_top.mp under

theorem strputbqFlags_eq (h : Head) :
    h.strputbqFlags =
      { h with
        strpri := if h.q = [] then h.strpri
          else h.q.head?.any Message.isPcproto } := by
  obtain ⟨q, strpri, strclose⟩ := h
  cases q <;> rfl

theorem exists_pcproto_iff :
    (∃ mp ∈ q, mp.isPcproto = true) ↔ 0 < q.countP Message.isPcproto :=
  List.countP_pos_iff.symm

end Queue

structure Point.Good (p : Point) : Prop where
  ordered : Ordered Message.cls p.h.q
  single : p.h.q.countP Message.isPcproto ≤ 1
  strpri : p.h.strpri = true ↔ 0 < p.h.q.countP Message.isPcproto
  free : ¬ p.reader.Holds

section Steps

variable {p p' : Point} {mp : Message}

theorem Point.Good.insert {q : List Message} (good : p.Good)
    (ordinary : mp.isPcproto = false) (ordered : Ordered Message.cls q)
    (perm : q.Perm (mp.queued :: p.h.q)) {reader : Reader}
    (free : ¬ reader.Holds) :
    Point.Good { p with h := { p.h with q := q }, reader := reader } := by
  have count : q.countP Message.isPcproto =
      p.h.q.countP Message.isPcproto := by
    rw [perm.countP_eq, List.countP_cons_of_neg]
    rw [queued_isPcproto, ordinary]
    exact Bool.false_ne_true
  refine ⟨ordered, ?_, ?_, free⟩
  · change q.countP _ ≤ 1
    rw [count]
    exact good.single
  · change _ ↔ 0 < q.countP _
    rw [count]
    exact good.strpri

theorem Point.Good.strrput (good : p.Good) (mp : Message) :
    Point.Good { p with h := p.h.strrput mp } := by
  unfold Head.strrput Head.strMPcproto
  cases high : mp.isPcproto with
  | false =>
      rw [if_neg Bool.false_ne_true]
      exact good.insert high good.ordered.enqueue enqueue_perm good.free
  | true =>
      rw [if_pos rfl]
      by_cases discard : (p.h.strclose || p.h.strpri) = true
      · rw [if_pos discard]
        exact good
      · rw [if_neg discard]
        rw [Bool.or_eq_true, not_or] at discard
        have none : ¬ 0 < p.h.q.countP Message.isPcproto :=
          fun some => discard.2 (good.strpri.mpr some)
        have count : (enqueue Message.cls mp.queued p.h.q).countP
            Message.isPcproto = p.h.q.countP Message.isPcproto + 1 := by
          rw [enqueue_perm.countP_eq, List.countP_cons_of_pos]
          rw [queued_isPcproto, high]
        refine ⟨good.ordered.enqueue, ?_, ?_, good.free⟩
        · change (enqueue Message.cls mp.queued p.h.q).countP _ ≤ 1
          omega
        · change true = true ↔ 0 < (enqueue _ _ _).countP _
          rw [count]
          exact ⟨fun _ => Nat.succ_pos _, fun _ => rfl⟩

theorem Point.Good.flushFix (good : p.Good) :
    Point.Good { p with h := p.h.flushFix } := by
  refine ⟨good.ordered, good.single, ?_, good.free⟩
  change (p.h.strpri && p.h.q.head?.any Message.isPcproto) = true ↔ _
  rw [Bool.and_eq_true, head_of_pcproto good.ordered, exists_pcproto_iff,
    good.strpri, and_self]
  rfl

theorem Point.Good.putbqFlags (good : p.Good) {reader : Reader}
    (free : ¬ reader.Holds) :
    Point.Good { p with h := p.h.strputbqFlags, reader := reader } := by
  rw [strputbqFlags_eq]
  refine ⟨good.ordered, good.single, ?_, free⟩
  change (if p.h.q = [] then _ else _) = true ↔ 0 < p.h.q.countP _
  split
  · exact good.strpri
  · rw [head_of_pcproto good.ordered, exists_pcproto_iff]

theorem Point.Good.filter (good : p.Good) {keep : Message → Bool}
    (ordinary : ∀ mp, mp.isPcproto = true → keep mp = true) :
    Point.Good { p with h := { p.h with q := p.h.q.filter keep } } := by
  have count : (p.h.q.filter keep).countP Message.isPcproto =
      p.h.q.countP Message.isPcproto := by
    rw [List.countP_filter]
    apply List.countP_congr
    intro mp _
    simp only [Bool.and_eq_true, and_iff_left_iff_imp]
    exact ordinary mp
  refine ⟨List.Pairwise.sublist List.filter_sublist good.ordered, ?_, ?_,
    good.free⟩
  · change (List.filter _ _).countP _ ≤ 1
    rw [count]
    exact good.single
  · change _ ↔ 0 < (List.filter _ _).countP _
    rw [count]
    exact good.strpri

theorem Point.Good.take {flags : GetFlags} {band : Nat} {h : Head}
    (good : p.Good) (taken : p.h.strgetq flags band = (.msg mp, h))
    {reader : Reader} (free : ¬ reader.Holds) :
    Point.Good { p with h := h, reader := reader } := by
  unfold Head.strgetq at taken
  have present := good.strpri
  cases waiting : p.h.q with
  | nil =>
      rw [waiting] at taken
      cases taken
  | cons head rest =>
      rw [waiting] at taken present
      simp only at taken
      split at taken
      case isFalse => cases taken
      case isTrue =>
        cases taken
        have single := good.single
        have ordered := good.ordered
        rw [waiting] at single ordered
        rw [List.countP_cons] at single present
        have behind := (List.pairwise_cons.mp ordered).2
        refine ⟨behind, ?_, ?_, free⟩
        · change rest.countP _ ≤ 1
          omega
        · change (if mp.first.dbType = .mPcproto then false else p.h.strpri) =
            true ↔ 0 < rest.countP _
          by_cases high : mp.first.dbType = .mPcproto
          · have first : mp.isPcproto = true := decide_eq_true high
            rw [if_pos first] at single
            rw [if_pos high]
            constructor
            · exact fun set => nomatch set
            · omega
          · have first : mp.isPcproto = false := decide_eq_false high
            rw [if_neg high, present, first]
            simp

theorem Point.Good.reader (good : p.Good) {reader : Reader}
    (free : ¬ reader.Holds) : Point.Good { p with reader := reader } :=
  ⟨good.ordered, good.single, good.strpri, free⟩

theorem afterCopyout_free {rest : Option Message} (none : ¬ PutsBack rest) :
    ¬ (Point.afterCopyout rest).Holds := by
  cases rest with
  | none => exact id
  | some left =>
      rintro (high | ⟨held, member, _⟩)
      · exact none ⟨left, rfl, high⟩
      · cases member

theorem afterPut_free {next : Option (ReadReq × Reading)}
    (none : ¬ ∃ held ∈ next, PutsBack (held.1.rest held.2)) :
    ¬ (Point.afterPut next).Holds := by
  cases next with
  | none => exact id
  | some held => exact fun holds => none ⟨held, rfl, holds⟩

theorem strgetq_head {h h' : Head} {flags : GetFlags} {band : Nat}
    (taken : h.strgetq flags band = (.msg mp, h')) : mp ∈ h.q.head? := by
  unfold Head.strgetq at taken
  split at taken
  · cases taken
  case h_2 waiting =>
    rw [waiting]
    simp only at taken
    split at taken
    · cases taken
      rfl
    · cases taken

theorem strgetq_same {h h' : Head} {flags : GetFlags} {band : Nat}
    (refused : h.strgetq flags band = (.ebadmsg, h')) : h' = h := by
  unfold Head.strgetq at refused
  split at refused
  · cases refused
  · simp only at refused
    split at refused
    · cases refused
    · cases refused
      rfl

theorem take_cases (opt : ReadOpt) (nbytes : Nat) (r : Reading)
    (mp : Message) :
    (∃ count, r.take opt nbytes mp = .again (r.link mp count)) ∨
      (∃ count, r.take opt nbytes mp = .stop (r.link mp count)) ∨
      r.take opt nbytes mp = .putBack mp r ∧ mp.first.dbType = .mData := by
  unfold Reading.take
  simp only
  split
  case isTrue eof => exact .inr (.inr ⟨rfl, eof.1⟩)
  case isFalse =>
    split
    · exact .inr (.inl ⟨_, rfl⟩)
    · exact .inl ⟨_, rfl⟩

theorem Point.Good.strgetq (good : p.Good) (clean : p.Clean .strgetq)
    (result : p.strgetq = some p') : p'.Good := by
  unfold Point.strgetq at result
  have free := good.free
  cases reader : p.reader with
  | reading call r =>
      rw [reader] at result free
      simp only at result
      split at result
      · cases result
        exact good
      case h_2 h refused =>
        cases result
        rw [strgetq_same refused]
        exact good.reader free
      case h_3 mp h taken =>
        have whole := clean mp (strgetq_head taken)
        unfold Point.TakesWhole at whole
        rw [reader] at whole
        have linked (count : Nat) : ¬ PutsBack (call.rest (r.link mp count)) :=
          not_putsBack rfl whole
        rcases take_cases call.opt call.nbytes r mp with
          ⟨count, verdict⟩ | ⟨count, verdict⟩ | ⟨verdict, data⟩
        · rw [verdict] at result
          cases result
          exact good.take taken (linked count)
        · rw [verdict] at result
          cases result
          exact good.take taken (linked count)
        · rw [verdict] at result
          cases result
          apply good.take taken
          rintro (high | ⟨held, member, holds⟩)
          · rw [Message.isPcproto, data] at high
            cases high
          · cases member
            exact free holds
  | getting call =>
      rw [reader] at result
      simp only at result
      split at result
      · cases result
        exact good
      case h_2 h refused =>
        cases result
        rw [strgetq_same refused]
        exact good.reader id
      case h_3 mp h taken =>
        cases result
        have whole := clean mp (strgetq_head taken)
        unfold Point.TakesWhole at whole
        rw [reader] at whole
        exact good.take taken (not_putsBack_getpmsg whole)
  | idle => rw [reader] at result; cases result
  | copying => rw [reader] at result; cases result
  | got => rw [reader] at result; cases result
  | returning => rw [reader] at result; cases result
  | cleaning => rw [reader] at result; cases result

theorem Point.Good.flushband (good : p.Good) {band : Nat} {h : Head}
    (flushed : p.h.flushband band = some h) :
    Point.Good { p with h := h } := by
  unfold Head.flushband at flushed
  simp only at flushed
  split at flushed
  · cases flushed
  · cases flushed
    apply good.filter
    intro mp high
    simp [Head.inBand, high]

theorem Point.Good.step (good : p.Good) {e : Event} (clean : p.Clean e)
    (result : p.step e = some p') : p'.Good := by
  cases e with
  | strrput mp =>
      cases result
      exact good.strrput mp
  | flush =>
      cases result
      refine ⟨List.Pairwise.nil, Nat.zero_le _, ?_, good.free⟩
      simp [Head.flushFix, Head.flushq]
  | flushq =>
      cases result
      have none : p.h.q.countP Message.isPcproto = 0 := by
        rw [List.countP_eq_zero]
        intro mp member high
        rw [clean mp member] at high
        cases high
      have present := good.strpri
      rw [none] at present
      exact ⟨List.Pairwise.nil, Nat.zero_le _, present, good.free⟩
  | flushFix =>
      simp only [Point.step] at result
      split at result
      · cases result
      · cases result
        have fixed := good.flushFix
        exact ⟨fixed.ordered, fixed.single, fixed.strpri, fixed.free⟩
  | flushband band =>
      simp only [Point.step] at result
      obtain ⟨h, flushed, rfl⟩ := Option.map_eq_some_iff.mp result
      exact good.flushband flushed
  | close =>
      cases result
      exact ⟨good.ordered, good.single, good.strpri, good.free⟩
  | read call =>
      simp only [Point.step, Point.enter] at result
      split at result
      · cases result
        apply good.reader
        rintro ⟨left, returned, _⟩
        cases returned
      · cases result
  | getpmsg call =>
      simp only [Point.step, Point.enter] at result
      split at result
      · cases result
        exact good.reader id
      · cases result
  | strgetq => exact good.strgetq clean result
  | giveUp =>
      simp only [Point.step, Point.giveUp] at result
      have free := good.free
      split at result
      case h_1 reader =>
        cases result
        rw [reader] at free
        exact good.reader free
      · cases result
        exact good.reader id
      · cases result
  | copyout =>
      simp only [Point.step, Point.copyout] at result
      have free := good.free
      split at result
      case h_1 reader =>
        cases result
        rw [reader] at free
        exact good.reader (afterCopyout_free free)
      case h_2 reader =>
        cases result
        rw [reader] at free
        exact good.reader (afterCopyout_free free)
      · cases result
  | putbq =>
      simp only [Point.step, Point.putbq] at result
      have free := good.free
      split at result
      case h_1 mp next reader =>
        cases result
        rw [reader] at free
        have parts := not_or.mp free
        apply good.insert (Bool.eq_false_iff.mpr parts.1)
          good.ordered.requeue requeue_perm
        exact parts.2
      · cases result
  | putbqFlags =>
      simp only [Point.step, Point.putbqFlags] at result
      have free := good.free
      split at result
      case h_1 next reader =>
        cases result
        rw [reader] at free
        exact good.putbqFlags (afterPut_free free)
      · cases result

theorem Point.Good.sound (good : p.Good) : p.Sound := by
  have strpri : p.h.strpri = true ↔ p.Present := by
    rw [good.strpri, ← exists_pcproto_iff]
    exact ⟨.inl, fun present => present.resolve_right good.free⟩
  refine ⟨good.single, strpri, fun mp high same => ?_⟩
  unfold Head.strrput Head.strMPcproto at same
  rw [if_pos high] at same
  split at same
  case isTrue discard =>
    rw [Bool.or_eq_true, strpri] at discard
    exact discard
  case isFalse =>
    have longer := congrArg List.length same
    have queued : (enqueue Message.cls mp.queued p.h.q).length =
        p.h.q.length + 1 := enqueue_perm.length_eq
    change (enqueue Message.cls mp.queued p.h.q).length = _ at longer
    omega

end Steps

theorem start_good : Point.start.Good :=
  ⟨List.Pairwise.nil, Nat.zero_le _, by decide, id⟩

theorem Point.Good.run {p p' : Point} {events : List Event} (good : p.Good)
    (clean : p.AllClean events) (reached : p.run events = some p') :
    p'.Good := by
  induction events generalizing p with
  | nil =>
      cases reached
      exact good
  | cons e rest ih =>
      obtain ⟨next, result, later⟩ := Option.bind_eq_some_iff.mp reached
      exact ih (good.step clean.1 result) (clean.2 next result) later

/-- In a clean run the queue never holds two high priority messages, and
STRPRI tells of the one there is. -/
theorem high_priority_single (events : List Event) (p : Point)
    (clean : Point.start.AllClean events)
    (reached : Point.start.run events = some p) : p.Sound :=
  (start_good.run clean reached).sound

theorem high_priority_single_whole :
    Point.Sound
      ⟨⟨[⟨⟨.mPcproto, 0, false, false, [3]⟩, []⟩], true, false⟩, .idle, 0⟩ :=
  high_priority_single
    [.strrput ⟨⟨.mPcproto, 0, false, false, [1, 2]⟩, []⟩,
      .getpmsg ⟨.msgAny, 0, 2, 0, none, none⟩, .strgetq,
      .strrput ⟨⟨.mPcproto, 0, false, false, [3]⟩, []⟩, .copyout] _
    (by decide) (by decide)

theorem two_high_priority_messages :
    ∃ p, Point.start.run
        [.strrput ⟨⟨.mPcproto, 0, false, false, [1, 2]⟩, []⟩,
          .getpmsg ⟨.msgAny, 0, 1, 0, none, none⟩, .strgetq,
          .strrput ⟨⟨.mPcproto, 0, false, false, [3]⟩, []⟩, .copyout, .putbq] =
        some p ∧ ¬ p.Sound := by
  refine ⟨_, rfl, fun sound => ?_⟩
  have single := sound.single
  revert single
  decide

end OpenSS7.Sth
