import OpenSS7.Lib.Runs
import OpenSS7.Sth.Rput

/-!
A message that is taken off the stream head by one call of `getpmsg` after
another.
-/

namespace OpenSS7.Sth

open PriorityList

def octets (bs : List Block) : List UInt8 := bs.flatMap Block.data

namespace Message

def ctl (mp : Message) : List Block := mp.blocks.takeWhile Block.isControl

def dat (mp : Message) : List Block := mp.blocks.dropWhile Block.isControl

structure Formed (mp : Message) : Prop where
  data : ∀ b ∈ mp.dat, b.isControl = false
  held : mp.queued = mp

end Message

/-- A call of `getpmsg` none of whose copies fails. -/
structure Ask where
  flags : GetFlags
  band : Nat
  ctl : Int
  dat : Int
deriving DecidableEq

def Ask.call (ask : Ask) : GetCall :=
  ⟨ask.flags, ask.band, ask.ctl, ask.dat, none, none⟩

inductive Getting (k : WithTop ℕ) where
  | arrive (mp : { mp : Message // mp.cls ≤ k })
  | call (ask : Ask) (arrived : List { mp : Message // mp.cls ≤ k })

structure Retrieved where
  head : Head
  ctl : List UInt8
  dat : List UInt8
  /-- `MORECTL` and `MOREDATA` of the last call. -/
  more : Option (Bool × Bool)
  rest : Option Message

/-- `strgetpmsg_fast`, until the message is used up. -/
def Retrieved.step {k : WithTop ℕ} (r : Retrieved) :
    Getting k → Retrieved
  | .arrive mp => { r with head := r.head.strrput mp.1 }
  | .call ask arrived =>
      match r.rest, r.head.strgetq ask.flags ask.band with
      | some _, (.msg mp, head) =>
          let (ctl, dat) := ask.call.parts mp
          let head := arrived.foldl (fun head mp => head.strrput mp.1) head
          { head := match ask.call.rest mp with
              | none => head
              | some left => head.strputbq left
            ctl := r.ctl ++ ctl.copied.getD []
            dat := r.dat ++ dat.copied.getD []
            more := some (ask.call.retval mp)
            rest := ask.call.rest mp }
      | _, _ => r

structure Exact (mp : Message) (r : Retrieved) : Prop where
  ctl : r.ctl ++ octets (r.rest.elim [] Message.ctl) = octets mp.ctl
  dat : r.dat ++ octets (r.rest.elim [] Message.dat) = octets mp.dat
  morectl : ∀ more, r.more = some more →
    (more.1 = true ↔ r.rest.elim [] Message.ctl ≠ [])
  moredata : ∀ more, r.more = some more →
    (more.2 = true ↔ r.rest.elim [] Message.dat ≠ [])
  first : ∀ left, r.rest = some left → left.cls = mp.cls ∧
    left.first.bBand = mp.first.bBand ∧ ∃ later, r.head.q = left :: later

def Stays {k : WithTop ℕ} (r : Retrieved) : Getting k → Prop
  | .arrive _ => True
  | .call ask _ => ∀ left ∈ r.rest,
      Head.accepts ask.flags ask.band left = true →
        ∀ b ∈ ask.call.stop left,
          (b.dbType = .mPcproto ↔ left.first.dbType = .mPcproto)

instance {k : WithTop ℕ} (r : Retrieved) :
    ∀ event : Getting k, Decidable (Stays r event)
  | .arrive _ => .isTrue True.intro
  | .call ask _ => inferInstanceAs (Decidable (∀ left ∈ r.rest,
      Head.accepts ask.flags ask.band left = true →
        ∀ b ∈ ask.call.stop left,
          (b.dbType = .mPcproto ↔ left.first.dbType = .mPcproto)))

section Parts

theorem copyPart_octets (room : Nat) (bs : List Block) :
    (copyPart none room bs).1 ++ octets (copyPart none room bs).2.1 =
      octets bs := by
  induction bs generalizing room with
  | nil => rfl
  | cons b rest ih =>
      unfold copyPart
      rw [if_neg (Option.some_ne_none 0).symm]
      simp only
      split
      · simp only [octets, List.flatMap_cons]
        rw [← List.append_assoc, List.take_append_drop]
      · rw [List.append_assoc]
        exact congrArg (b.data ++ ·) (ih _)

theorem copyPart_kind {p : DbType → Prop} (faults : Option Nat) (room : Nat)
    {bs : List Block} (all : ∀ b ∈ bs, p b.dbType) :
    ∀ b ∈ (copyPart faults room bs).2.1, p b.dbType := by
  induction bs generalizing faults room with
  | nil => nofun
  | cons b rest ih =>
      have rest := fun b member => all b (List.mem_cons_of_mem _ member)
      have first := all b List.mem_cons_self
      unfold copyPart
      split
      · exact all
      · simp only
        split
        · intro b' member
          rcases List.mem_cons.mp member with rfl | member
          · exact first
          · exact rest b' member
        · exact ih _ _ rest

theorem restore_octets (flags : Block) (band : Nat) (bs : List Block) :
    octets (restore flags band bs) = octets bs := by
  cases bs <;> rfl

theorem restore_kind {p : DbType → Prop} (flags : Block) (band : Nat)
    {bs : List Block} (all : ∀ b ∈ bs, p b.dbType) :
    ∀ b ∈ restore flags band bs, p b.dbType := by
  cases bs with
  | nil => nofun
  | cons b rest =>
      intro b' member
      rcases List.mem_cons.mp member with rfl | member
      · exact all b List.mem_cons_self
      · exact all b' (List.mem_cons_of_mem _ member)

variable (maxlen : Int) (faults : Option Nat) (band : Nat)

theorem getPart_octets (bs : List Block) :
    (getPart maxlen none band bs).copied.getD [] ++
      octets (getPart maxlen none band bs).left = octets bs := by
  unfold getPart
  cases bs with
  | nil => rfl
  | cons b rest =>
      simp only
      split
      · rw [restore_octets]
        exact copyPart_octets maxlen.toNat (b :: rest)
      · exact restore_octets b band (b :: rest)

theorem getPart_kind {p : DbType → Prop} {bs : List Block}
    (all : ∀ b ∈ bs, p b.dbType) :
    ∀ b ∈ (getPart maxlen faults band bs).left, p b.dbType := by
  unfold getPart
  cases bs with
  | nil => nofun
  | cons b rest =>
      simp only
      split
      · exact restore_kind b band (copyPart_kind faults maxlen.toNat all)
      · exact restore_kind b band all

theorem getPart_band (bs : List Block) :
    ∀ b ∈ (getPart maxlen faults band bs).left.head?, b.bBand = band := by
  have restored (flags : Block) (bs : List Block) :
      ∀ b ∈ (restore flags band bs).head?, b.bBand = band := by
    cases bs with
    | nil => nofun
    | cons b rest =>
        rintro b' ⟨⟩
        rfl
  unfold getPart
  cases bs with
  | nil => nofun
  | cons b rest =>
      simp only
      split
      · exact restored b _
      · exact restored b (b :: rest)

end Parts

section Rest

variable {mp left : Message} {call : GetCall}

theorem GetCall.rest_blocks (some : call.rest mp = some left) :
    left.blocks = (call.parts mp).1.left ++ (call.parts mp).2.left := by
  unfold GetCall.rest at some
  simp only at some
  generalize (call.parts mp).1.left ++ (call.parts mp).2.left = bs at some
  cases bs with
  | nil => cases some
  | cons b bs =>
      cases some
      rfl

theorem GetCall.rest_parts (formed : mp.Formed)
    (some : call.rest mp = some left) :
    left.ctl = (call.parts mp).1.left ∧ left.dat = (call.parts mp).2.left := by
  have controls : ∀ b ∈ (call.parts mp).1.left, b.isControl = true := by
    intro b member
    have kind := @getPart_kind call.ctl call.ctlFaults mp.first.bBand
      (· ≠ .mData) mp.ctl (fun b member => by
        simpa [Block.isControl] using List.mem_takeWhile_imp member)
      b member
    simpa [Block.isControl] using kind
  have datas : ∀ b ∈ (call.parts mp).2.left, b.isControl = false := by
    intro b member
    have kind := @getPart_kind call.dat call.datFaults mp.first.bBand
      (· = .mData) mp.dat (fun b member => by
        simpa [Block.isControl] using formed.data b member) b member
    simpa [Block.isControl] using kind
  unfold Message.ctl Message.dat
  rw [rest_blocks some, List.takeWhile_append_of_pos controls,
    List.dropWhile_append_of_pos controls]
  generalize (call.parts mp).2.left = bs at datas
  cases bs with
  | nil => simp
  | cons b rest =>
      have first := datas b List.mem_cons_self
      simp [first]

theorem GetCall.rest_band (some : call.rest mp = some left) :
    left.first.bBand = mp.first.bBand := by
  have blocks := rest_blocks some
  have first : left.first ∈
      ((call.parts mp).1.left ++ (call.parts mp).2.left).head? := by
    rw [← blocks]
    rfl
  rw [List.head?_append] at first
  cases ctl : (call.parts mp).1.left.head? with
  | none =>
      rw [ctl, Option.none_or] at first
      exact getPart_band _ _ _ _ _ first
  | some b =>
      rw [ctl] at first
      cases first
      exact getPart_band _ _ _ _ _ ctl

theorem GetCall.rest_none (none : call.rest mp = none) :
    (call.parts mp).1.left = [] ∧ (call.parts mp).2.left = [] := by
  rw [← List.append_eq_nil_iff]
  unfold GetCall.rest at none
  simp only at none
  generalize (call.parts mp).1.left ++ (call.parts mp).2.left = bs at none
  cases bs with
  | nil => rfl
  | cons b bs => cases none

theorem GetCall.rest_elim (formed : mp.Formed) :
    (call.rest mp).elim [] Message.ctl = (call.parts mp).1.left ∧
      (call.rest mp).elim [] Message.dat = (call.parts mp).2.left := by
  cases again : call.rest mp with
  | none => exact ⟨(rest_none again).1.symm, (rest_none again).2.symm⟩
  | some left => exact rest_parts formed again

theorem GetCall.rest_cls_iff (formed : mp.Formed)
    (some : call.rest mp = some left) :
    left.cls = mp.cls ↔ ∀ b, call.stop mp = Option.some b →
      (b.dbType = .mPcproto ↔ mp.first.dbType = .mPcproto) := by
  have type := call.rest_dbType mp
  rw [some, Option.map_some] at type
  obtain ⟨b, stop, same⟩ := Option.map_eq_some_iff.mp type.symm
  have band := rest_band some
  have held := congrArg (fun mp => mp.first.bBand) formed.held
  simp only [stop, Option.some.injEq, forall_eq', same]
  unfold Message.cls Block.cls
  by_cases high : left.first.dbType = .mPcproto
  · by_cases was : mp.first.dbType = .mPcproto
    · simp [high, was]
    · rw [if_pos high, if_neg was]
      exact iff_of_false WithTop.top_ne_coe (fun same => was (same.mp high))
  · by_cases was : mp.first.dbType = .mPcproto
    · rw [if_neg high, if_pos was]
      exact iff_of_false WithTop.coe_ne_top
        (fun same => high (same.mpr was))
    · simp [high, was, band]

end Rest

def Held (mp : Message) (r : Retrieved) : Prop :=
  ∀ left, r.rest = some left → left.Formed ∧ ∀ m ∈ r.head.q, m.cls ≤ mp.cls

section Step

variable {mp left : Message} {h : Head}

theorem enqueue_first {x : Message} (le : x.cls ≤ left.cls)
    (later : List Message) :
    enqueue Message.cls x (left :: later) =
      left :: enqueue Message.cls x later := by
  unfold enqueue
  rw [List.takeWhile_cons_of_pos (by simpa using le),
    List.dropWhile_cons_of_pos (by simpa using le), List.cons_append]

theorem strrput_q (h : Head) (mp : Message) :
    (h.strrput mp).q = h.q ∨
      (h.strrput mp).q = enqueue Message.cls mp.queued h.q := by
  unfold Head.strrput Head.strMPcproto
  split
  · split
    · exact .inl rfl
    · exact .inr rfl
  · exact .inr rfl

theorem strrput_below {k : WithTop ℕ} {mp : Message} (le : mp.cls ≤ k)
    (below : ∀ m ∈ h.q, m.cls ≤ k) : ∀ m ∈ (h.strrput mp).q, m.cls ≤ k := by
  intro m member
  rcases strrput_q h mp with eq | eq
  · exact below m (eq ▸ member)
  · rw [eq] at member
    rcases List.mem_cons.mp (enqueue_perm.mem_iff.mp member) with rfl | member
    · rwa [Message.queued_cls]
    · exact below m member

theorem strrput_all_below {k : WithTop ℕ}
    (arrived : List { x : Message // x.cls ≤ k })
    (below : ∀ m ∈ h.q, m.cls ≤ k) :
    ∀ m ∈ (arrived.foldl (fun head mp => head.strrput mp.1) h).q,
      m.cls ≤ k := by
  induction arrived generalizing h with
  | nil => exact below
  | cons x arrived ih => exact ih (strrput_below x.2 below)

theorem strgetq_first {flags : GetFlags} {band : Nat} {later : List Message}
    (q : h.q = left :: later) (accepts : Head.accepts flags band left = true) :
    ∃ head, h.strgetq flags band = (.msg left, head) ∧ head.q = later := by
  unfold Head.strgetq
  rw [q]
  simp only
  rw [if_pos accepts]
  exact ⟨_, rfl, rfl⟩

theorem strputbq_first (below : ∀ m ∈ h.q, m.cls ≤ mp.cls)
    (held : mp.queued = mp) : (h.strputbq mp).q = mp :: h.q := by
  have same : ((h.putbq mp).strputbqFlags).q = (h.putbq mp).q := by
    unfold Head.strputbqFlags
    split <;> rfl
  rw [Head.strputbq, same, Head.putbq, held]
  exact requeue_first below

theorem Message.Formed.rest {call : GetCall} (formed : mp.Formed)
    (some : call.rest mp = some left) (cls : left.cls = mp.cls) :
    left.Formed := by
  refine ⟨fun b member => ?_, ?_⟩
  · rw [(GetCall.rest_parts formed some).2] at member
    have kind := @getPart_kind call.dat call.datFaults mp.first.bBand
      (· = .mData) mp.dat (fun b member => by
        simpa [Block.isControl] using formed.data b member) b member
    simpa [Block.isControl] using kind
  · by_cases high : left.first.dbType = .mPcproto
    · have was : mp.first.dbType = .mPcproto := by
        by_contra low
        unfold Message.cls Block.cls at cls
        rw [if_pos high, if_neg low] at cls
        exact WithTop.top_ne_coe cls
      have zero : mp.first.bBand = 0 := by
        have held := congrArg (fun mp => mp.first.bBand) formed.held
        simpa [Message.queued, was] using held.symm
      have band := (GetCall.rest_band some).trans zero
      obtain ⟨⟨dbType, bBand, msgmark, msgdelim, data⟩, cont⟩ := left
      cases band
      simp [Message.queued]
    · simp [Message.queued, high]

theorem Exact.arrive {r : Retrieved} (exact : Exact mp r) (held : Held mp r)
    (x : { x : Message // x.cls ≤ mp.cls }) :
    Exact mp { r with head := r.head.strrput x.1 } ∧
      Held mp { r with head := r.head.strrput x.1 } := by
  refine ⟨⟨exact.ctl, exact.dat, exact.morectl, exact.moredata, ?_⟩, ?_⟩
  · intro left some
    obtain ⟨cls, band, later, q⟩ := exact.first left some
    refine ⟨cls, band, ?_⟩
    rcases strrput_q r.head x.1 with eq | eq
    · exact ⟨later, eq.trans q⟩
    · refine ⟨_, eq.trans ((congrArg _ q).trans (enqueue_first ?_ later))⟩
      rw [Message.queued_cls, cls]
      exact x.2
  · intro left some
    exact ⟨(held left some).1, strrput_below x.2 (held left some).2⟩

theorem Exact.call {r : Retrieved} (exact : Exact mp r) (held : Held mp r)
    (ask : Ask) (arrived : List { x : Message // x.cls ≤ mp.cls }) :
    (Exact mp (r.step (.call ask arrived)) ↔
      Stays r (Getting.call ask arrived)) ∧
      (Stays r (Getting.call ask arrived) →
        Held mp (r.step (.call ask arrived))) := by
  cases rest : r.rest with
  | none =>
      have same : r.step (.call ask arrived) = r := by
        simp only [Retrieved.step, rest]
      rw [same]
      exact ⟨iff_of_true exact fun left some => absurd (rest.symm.trans some)
        nofun, fun _ => held⟩
  | some left =>
      obtain ⟨cls, band, later, q⟩ := exact.first left rest
      obtain ⟨formed, below⟩ := held left rest
      by_cases accepts : Head.accepts ask.flags ask.band left = true
      case neg =>
        have same : r.step (.call ask arrived) = r := by
          simp only [Retrieved.step, rest, Head.strgetq, q, if_neg accepts]
        rw [same]
        refine ⟨iff_of_true exact fun left' some => ?_, fun _ => held⟩
        cases rest.symm.trans some
        exact fun taken => absurd taken accepts
      have stays : Stays r (Getting.call ask arrived) ↔
          ∀ left', ask.call.rest left = some left' → left'.cls = mp.cls := by
        have unfolded : Stays r (Getting.call ask arrived) ↔
            ∀ b, ask.call.stop left = some b →
              (b.dbType = .mPcproto ↔ left.first.dbType = .mPcproto) := by
          constructor
          · exact fun stays => stays left rest accepts
          · rintro stays left' again -
            cases rest.symm.trans again
            exact stays
        rw [unfolded]
        cases again : ask.call.rest left with
        | none =>
            have type := ask.call.rest_dbType left
            rw [again] at type
            refine iff_of_true (fun b stop => ?_) nofun
            rw [stop] at type
            cases type
        | some left' =>
            simp only [Option.some.injEq, forall_eq']
            rw [← cls]
            exact (GetCall.rest_cls_iff formed again).symm
      obtain ⟨head, taken, headQ⟩ := strgetq_first q accepts
      have after := strrput_all_below arrived fun m member =>
        below m (q ▸ List.mem_cons_of_mem _ (headQ ▸ member))
      have ctl := getPart_octets ask.call.ctl left.first.bBand left.ctl
      have dat := getPart_octets ask.call.dat left.first.bBand left.dat
      have ctlAll := exact.ctl
      have datAll := exact.dat
      rw [rest, Option.elim_some] at ctlAll datAll
      obtain ⟨ctlLeft, datLeft⟩ := @GetCall.rest_elim left ask.call formed
      rw [stays]
      simp only [Retrieved.step, rest, taken]
      have place : ∀ left', ask.call.rest left = some left' →
          left'.cls = mp.cls → left'.Formed ∧
            ((arrived.foldl (fun head mp => head.strrput mp.1)
              head).strputbq left').q = left' :: (arrived.foldl
                (fun head mp => head.strrput mp.1) head).q := by
        intro left' again kept
        have form := formed.rest again (kept.trans cls.symm)
        exact ⟨form, strputbq_first (kept.symm ▸ after) form.held⟩
      refine ⟨⟨fun exact left' again => (exact.first left' again).1,
        fun kept => ⟨?_, ?_, ?_, ?_, fun left' again => ?_⟩⟩,
        fun kept left' again => ?_⟩
      · show _ ++ octets ((ask.call.rest left).elim [] Message.ctl) = _
        rw [ctlLeft, List.append_assoc, ← ctlAll]
        exact congrArg (r.ctl ++ ·) ctl
      · show _ ++ octets ((ask.call.rest left).elim [] Message.dat) = _
        rw [datLeft, List.append_assoc, ← datAll]
        exact congrArg (r.dat ++ ·) dat
      · rintro more ⟨⟩
        show _ ↔ (ask.call.rest left).elim [] Message.ctl ≠ []
        rw [ctlLeft]
        exact decide_eq_true_iff
      · rintro more ⟨⟩
        show _ ↔ (ask.call.rest left).elim [] Message.dat ≠ []
        rw [datLeft]
        exact decide_eq_true_iff
      · have cls' := kept left' again
        change ask.call.rest left = some left' at again
        refine ⟨cls', (GetCall.rest_band again).trans band, ?_⟩
        simp only [again]
        exact ⟨_, (place left' again cls').2⟩
      · have cls' := kept left' again
        obtain ⟨form, q'⟩ := place left' again cls'
        change ask.call.rest left = some left' at again
        refine ⟨form, fun m member => ?_⟩
        simp only [again] at member
        rw [q'] at member
        rcases List.mem_cons.mp member with rfl | member
        · exact cls'.le
        · exact after m member

end Step

/-- The calls return the message exactly, and leave the rest in its place,
where no call leaves a rest that is of another priority class. -/
theorem getpmsg_exact_iff (mp : Message) (formed : mp.Formed) (head : Head)
    (behind : List Message) (q : head.q = mp :: behind)
    (below : ∀ m ∈ behind, m.cls ≤ mp.cls) (events : List (Getting mp.cls)) :
    (∀ n, Exact mp ((events.take n).foldl Retrieved.step
      ⟨head, [], [], none, some mp⟩)) ↔
      Runs.Along Retrieved.step Stays ⟨head, [], [], none, some mp⟩
        events := by
  refine Runs.along_iff_while (fun r event (held : Held mp r) exact => ?_)
    events ?_ ?_
  · cases event with
    | arrive x =>
        obtain ⟨exact, held⟩ := exact.arrive held x
        exact ⟨iff_of_true exact True.intro, fun _ => held⟩
    | call ask arrived => exact exact.call held ask arrived
  · rintro left ⟨⟩
    refine ⟨formed, fun m member => ?_⟩
    rw [q] at member
    rcases List.mem_cons.mp member with rfl | member
    · exact le_rfl
    · exact below m member
  · refine ⟨rfl, rfl, nofun, nofun, ?_⟩
    rintro left ⟨⟩
    exact ⟨rfl, rfl, behind, q⟩

theorem getpmsg_exact_iff_proto :
    Exact ⟨⟨.mProto, 1, false, false, [1, 2]⟩,
        [⟨.mData, 0, false, false, [3]⟩]⟩
      ⟨⟨[⟨⟨.mData, 0, false, false, [9]⟩, []⟩], false, false⟩,
        [1, 2], [3], some (false, false), none⟩ :=
  (getpmsg_exact_iff _ ⟨by decide, by decide⟩
    ⟨[⟨⟨.mProto, 1, false, false, [1, 2]⟩,
      [⟨.mData, 0, false, false, [3]⟩]⟩], false, false⟩ [] rfl nofun
    [.call ⟨.msgAny, 0, 1, 0⟩ [⟨⟨⟨.mData, 0, false, false, [9]⟩, []⟩,
        by decide⟩],
      .call ⟨.msgAny, 0, -1, 1⟩ [], .call ⟨.msgBand, 1, 1, -1⟩ []]).mpr
    (by decide) 3

theorem getpmsg_not_exact :
    ¬ ∀ (mp : Message), mp.Formed → ∀ (head : Head) (behind : List Message),
      head.q = mp :: behind → (∀ m ∈ behind, m.cls ≤ mp.cls) →
      ∀ (events : List (Getting mp.cls)) (n : Nat),
        Exact mp ((events.take n).foldl Retrieved.step
          ⟨head, [], [], none, some mp⟩) := by
  intro claim
  have exact := claim ⟨⟨.mPcproto, 0, false, false, [1]⟩,
    [⟨.mData, 0, false, false, [2]⟩]⟩ ⟨by decide, by decide⟩
    ⟨[⟨⟨.mPcproto, 0, false, false, [1]⟩,
      [⟨.mData, 0, false, false, [2]⟩]⟩], true, false⟩ [] rfl nofun
    [.call ⟨.msgAny, 0, 8, -1⟩ []] 1
  have cls := (exact.first _ rfl).1
  revert cls
  decide

end OpenSS7.Sth
