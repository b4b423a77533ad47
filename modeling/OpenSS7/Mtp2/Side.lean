import OpenSS7.Mtp2.Direction

/-!
One side of a link between two modules: what it keeps to itself, what joins
it to the other side, and that both last through the handling of any unit.
-/

namespace OpenSS7.Mtp2

open Program SlidingWindow

def Bit (b : Nat) : Prop := b = 0 ∨ b = 0x80

theorem octet_bit (x : UInt8) : Bit (x.toNat &&& 0x80) := by
  have every : ∀ n < 256, n &&& 0x80 = 0 ∨ n &&& 0x80 = 0x80 := by
    decide +kernel
  exact every x.toNat x.toNat_lt

namespace View

structure Side (v : View) : Prop where
  format : v.option.xsn = false
  ibMask : v.ibMask = 0x80
  bib : Bit v.txNBib
  fib : Bit v.txNFib
  bibr : Bit v.txRBib
  limit : v.option.pcr = true → v.config.N1 ≤ 127 ∧
    v.rtb.length ≤ max v.config.N1 1 ∧
    (v.rtbFull = false → v.rtb.length < max v.config.N1 1)
  first : v.txFFsn = v.released.length % 128
  places : ∀ i m, (v.rtb ++ v.tb)[i]? = some m →
    m.idx = v.released.length + i ∧ m.hdr.length = 3 ∧ 3 ≤ m.sdu.length
  expected : v.rxXFsn = v.accepted.length % 128
  acks : v.txXFsn = v.acked % 128

namespace Side

variable {v : View}

theorem mask (side : v.Side) (window : v.Window) : v.snMask = 127 := by
  rw [window.mask, side.format]
  rfl

theorem header (side : v.Side) (window : v.Window) {fsn : Nat}
    (small : fsn ≤ 127) :
    (v.header fsn).InRange false ∧
      (v.header fsn).bsn = (v.acked + 127) % 128 := by
  have mask := side.mask window
  have bsn : (v.header fsn).bsn = (v.acked + 127) % 128 := by
    simp only [View.header, View.pred, mask, side.acks, Nat.mod_add_mod]
  refine ⟨⟨?_, small, side.bib, side.fib⟩, bsn⟩
  rw [bsn]
  exact Nat.le_of_lt_succ (Nat.mod_lt _ (by decide))

theorem messages_length (window : v.Window) :
    v.submitted.length = v.released.length + v.rtb.length + v.tb.length := by
  rw [← window.history]
  simp [Nat.add_assoc]

theorem message (side : v.Side) (window : v.Window) {i : Nat} {m : Msu}
    (at_ : (v.rtb ++ v.tb)[i]? = some m) :
    v.submitted[m.idx]? = some m.sdu := by
  rw [← window.history, (side.places i m at_).1, List.append_assoc,
    List.getElem?_map, List.getElem?_append_right (Nat.le_add_right _ _),
    Nat.add_sub_cancel_left, at_]
  rfl

theorem number (side : v.Side) (window : v.Window) {i : Nat} {m : Msu}
    (at_ : v.rtb[i]? = some m) : m.fsn = m.idx % 128 := by
  have inside := (List.getElem?_eq_some_iff.1 at_).1
  have place := (side.places i m
    (by rw [List.getElem?_append_left inside]; exact at_)).1
  rw [window.numbered i m at_, View.modulus, side.mask window, side.first,
    place, Nat.mod_add_mod]

theorem msu_ok (side : v.Side) (window : v.Window) {i : Nat} {m : Msu}
    (at_ : (v.rtb ++ v.tb)[i]? = some m) {fsn : Nat}
    (number : fsn = m.idx % 128) : (v.msu m fsn).Ok v.submitted := by
  obtain ⟨_, hdr, _⟩ := side.places i m at_
  have small : fsn ≤ 127 := by omega
  have ⟨range, acks⟩ := side.header window small
  have sent := Su.Ok.msu range acks number (side.message window at_)
  unfold View.msu View.msuHeader Msu.size
  rw [side.format, hdr]
  exact sent

theorem qCount_pos {m : Msu} {rest : List Msu} (some_ : 0 < m.size) :
    qCount (m :: rest) ≠ 0 := by
  simp only [qCount, List.map_cons, List.sum_cons]
  omega

theorem room (side : v.Side) (window : v.Window) {m : Msu} {rest : List Msu}
    (head : v.tb = m :: rest) (free : v.Free) (intact : v.reopened = false) :
    v.rtb.length < 127 ∧ (v.option.pcr = true →
      v.rtb.length < max v.config.N1 1) := by
  have mask := side.mask window
  cases pcr : v.option.pcr with
  | false =>
      rcases free with notFull | ⟨cyclic, _⟩
      · have := (window.bound pcr intact).2 notFull
        exact ⟨by omega, fun h => by cases h⟩
      · rw [pcr] at cyclic
        cases cyclic
  | true =>
      obtain ⟨N1, _, below⟩ := side.limit pcr
      have less : v.rtb.length < max v.config.N1 1 := by
        rcases free with notFull | ⟨_, empty | waiting⟩
        · exact below notFull
        · rw [empty]
          exact Nat.lt_of_lt_of_le Nat.zero_lt_one (Nat.le_max_right _ _)
        · have place := side.places v.rtb.length m (by rw [head]; simp)
          rw [head] at waiting
          exact absurd waiting
            (qCount_pos (by unfold Msu.size; omega))
      exact ⟨by omega, fun _ => less⟩

theorem msuHeader_length (side : v.Side) (m : Msu) (fsn : Nat) :
    (v.msuHeader m fsn).length = 3 := by
  rw [View.msuHeader, side.format]
  rfl

theorem sendFirst (side : v.Side) (window : v.Window) {m : Msu}
    {rest : List Msu} (head : v.tb = m :: rest) (free : v.Free)
    (intact : v.reopened = false) {full : Bool}
    (below : full = false → v.option.pcr = true →
      v.rtb.length + 1 < v.config.N1) :
    (v.first m rest full).Side :=
  { side with
    limit := by
      intro pcr
      obtain ⟨N1, _, _⟩ := side.limit pcr
      have room := (side.room window head free intact).2 pcr
      simp only [View.first, List.length_append, List.length_singleton]
      refine ⟨N1, room, fun stays => ?_⟩
      exact Nat.lt_of_lt_of_le (below stays pcr) (Nat.le_max_left _ _)
    places := by
      intro i m' at_
      simp only [View.first, List.append_assoc, List.singleton_append] at at_ ⊢
      rcases Nat.lt_trichotomy i v.rtb.length with old | rfl | new
      · refine side.places i m' ?_
        rw [List.getElem?_append_left old] at at_ ⊢
        exact at_
      · rw [List.getElem?_append_right (Nat.le_refl _), Nat.sub_self,
          List.getElem?_cons_zero, Option.some.injEq] at at_
        subst at_
        obtain ⟨idx, _, long⟩ := side.places v.rtb.length m
          (by rw [head]; simp)
        exact ⟨idx, side.msuHeader_length m _, long⟩
      · refine side.places i m' ?_
        obtain ⟨j, hj⟩ : ∃ j, i - v.rtb.length = j + 1 :=
          ⟨i - v.rtb.length - 1, by omega⟩
        rw [List.getElem?_append_right (Nat.le_of_lt new), hj,
          List.getElem?_cons_succ] at at_
        rw [head, List.getElem?_append_right (Nat.le_of_lt new), hj,
          List.getElem?_cons_succ]
        exact at_ }

theorem rewrite (side : v.Side) {i : Nat} {m : Msu}
    (found : v.rtb[i]? = some m) (fsn : Nat) (crossed : Bool) :
    { v with rtb := v.rtb.set i { m with hdr := v.msuHeader m fsn },
             crossed := crossed }.Side :=
  { side with
    limit := by
      rw [List.length_set]
      exact side.limit
    places := by
      intro j m' at_
      have inside := (List.getElem?_eq_some_iff.1 found).1
      rw [← List.set_append_left _ _ inside, List.getElem?_set] at at_
      split at at_
      case isTrue same =>
        subst same
        split at at_
        · obtain ⟨idx, _, long⟩ := side.places i m
            (by rw [List.getElem?_append_left inside]; exact found)
          rw [← Option.some.inj at_]
          exact ⟨idx, side.msuHeader_length m fsn, long⟩
        · cases at_
      case isFalse => exact side.places j m' at_ }

end Side

/-- The side `v` of a link, whose other side is `w`. The units `out` and
those sent by `v` are on their way to `w`; those whose acknowledgement `v`
has not taken are `acks`, those whose message it has not seen `data`. -/
structure Joined (v w : View) (out acks data : List Su) : Prop where
  side : v.Side
  peer : w.Side
  sends : Direction v.released.length (v.released.length + v.rtb.length)
    v.submitted w.acked w.accepted (out ++ v.sent) acks
  receives : Direction w.released.length (w.released.length + w.rtb.length)
    w.submitted v.acked v.accepted data (out ++ v.sent)

namespace Joined

variable {w v : View} {out acks data : List Su}

theorem idle (joined : v.Joined w out acks data) {su : Su}
    (ok : su.Ok v.submitted) (none_ : su.idx = none)
    (acked : su.ack = v.acked) : (v.send su).Joined w out acks data where
  side := { joined.side with }
  peer := joined.peer
  sends := by
    simp only [View.send, ← List.append_assoc]
    exact joined.sends.idle ok none_
  receives := by
    simp only [View.send, ← List.append_assoc]
    exact joined.receives.acknowledge acked

theorem again (joined : v.Joined w out acks data) {su : Su}
    (ok : su.Ok v.submitted) {i : Nat} (inside : i < v.rtb.length)
    (idx : su.idx = some (v.released.length + i))
    (acked : su.ack = v.acked) : (v.send su).Joined w out acks data where
  side := { joined.side with }
  peer := joined.peer
  sends := by
    simp only [View.send, ← List.append_assoc]
    exact joined.sends.again ok idx (by omega) (by omega)
  receives := by
    simp only [View.send, ← List.append_assoc]
    exact joined.receives.acknowledge acked

end Joined

theorem Joined.closed {w v v' : View} {out acks data : List Su}
    (joined : v.Joined w out acks data) (window : v.Window)
    (intact : v.reopened = false) (move : Move v v')
    (uncrossed : v'.crossed = false) : v'.Joined w out acks data := by
  have side := joined.side
  have last : v.txLFsn ≤ 127 := side.mask window ▸ window.last
  obtain ⟨range, acked⟩ := side.header window last
  cases move with
  | fisu =>
      refine joined.idle ?_ rfl rfl
      rw [side.format]
      exact .fisu range acked
  | lssu status =>
      refine joined.idle ?_ rfl rfl
      rw [side.format]
      exact .lssu range acked status
  | first m rest full head free below space =>
      have room := (side.room window head free intact).1
      have at_ : (v.rtb ++ v.tb)[v.rtb.length]? = some m := by
        rw [head]
        simp
      have place := (side.places v.rtb.length m at_).1
      have next : v.succ v.txLFsn = m.idx % 128 := by
        rw [window.next, place, View.modulus, side.mask window, side.first,
          Nat.mod_add_mod]
      have moved : Joined (v.first m rest full) w out acks data := by
        refine ⟨side.sendFirst window head free intact below, joined.peer, ?_,
          joined.receives⟩
        simp only [View.first, List.length_append, List.length_singleton]
        exact joined.sends.extend (by omega)
      refine moved.again (i := v.rtb.length) (side.msu_ok window at_ next) ?_ ?_
        rfl
      · simp [View.first]
      · exact congrArg some place
  | again i m fsn found =>
      have inside := (List.getElem?_eq_some_iff.1 found).1
      have at_ : (v.rtb ++ v.tb)[i]? = some m := by
        rw [List.getElem?_append_left inside]
        exact found
      have place := (side.places i m at_).1
      have number : fsn = m.idx % 128 := by
        simp only [View.send, Bool.or_eq_false_iff, decide_eq_false_iff_not,
          Decidable.not_not] at uncrossed
        rw [← uncrossed.2]
        exact side.number window found
      refine Joined.again (i := i)
        ⟨side.rewrite found fsn _, joined.peer, ?_, joined.receives⟩
        (side.msu_ok window at_ number) ?_ (congrArg some place) rfl
      · rw [List.length_set]
        exact joined.sends
      · rw [List.length_set]
        exact inside
  | stray su => cases uncrossed
  | clear below =>
      refine ⟨{ side with limit := fun pcr => ?_ }, joined.peer, joined.sends,
        joined.receives⟩
      obtain ⟨N1, held, _⟩ := side.limit pcr
      exact ⟨N1, held, fun _ =>
        Nat.lt_of_lt_of_le (below pcr) (Nat.le_max_left _ _)⟩
  | fsnx behind =>
      exact ⟨{ side with acks := side.expected }, joined.peer, joined.sends,
        joined.receives.catchUp⟩
  | nack =>
      refine ⟨{ side with bib := ?_ }, joined.peer, joined.sends,
        joined.receives⟩
      show Bit (if v.txNBib ≠ 0 then 0 else v.ibMask)
      split
      · exact Or.inl rfl
      · exact Or.inr side.ibMask
  | fib =>
      exact ⟨{ side with fib := side.bibr }, joined.peer, joined.sends,
        joined.receives⟩
  | ind => exact ⟨{ side with }, joined.peer, joined.sends, joined.receives⟩

/-- A side with the options `o`, in the basic format, whose window is in
order; with the cyclic method `rtb_full` is never cleared wrongly. -/
structure Plain (o : Options) (v : View) : Prop where
  window : v.Window
  option : v.option = o
  format : v.option.xsn = false
  calm : v.option.pcr = true → v.reopened = false

theorem plain_closed (o : Options) : Closed (Plain o) := by
  intro v v' move plain
  refine ⟨Window.closed v v' move plain.window, ?_, ?_, ?_⟩
  · cases move <;> exact plain.option
  · cases move <;> exact plain.format
  · cases move with
    | clear below =>
        intro pcr
        have pcr : v.option.pcr = true := pcr
        simp [plain.calm pcr, pcr]
    | _ => exact plain.calm

/-- A side that is joined to the other one as long as that is `good` and it
has not itself gone wrong in one of two ways. -/
def Safe (o : Options) (good : Prop) (w : View) (out acks data : List Su)
    (v : View) : Prop :=
  v.Plain o ∧ (good → v.crossed = false → v.reopened = false →
    v.Joined w out acks data)

theorem safe_closed (o : Options) (good : Prop) (w : View)
    (out acks data : List Su) : Closed (Safe o good w out acks data) := by
  intro v v' move ⟨plain, safe⟩
  refine ⟨plain_closed o v v' move plain, fun good uncrossed intact => ?_⟩
  have before : v.crossed = false ∧ v.reopened = false := by
    cases move with
    | again i m fsn found =>
        exact ⟨(Bool.or_eq_false_iff.1 uncrossed).1, intact⟩
    | stray su => cases uncrossed
    | clear below => exact ⟨uncrossed, (Bool.or_eq_false_iff.1 intact).1⟩
    | _ => exact ⟨uncrossed, intact⟩
  exact (safe good before.1 before.2).closed plain.window before.2 move
    uncrossed

section Reception

variable {o : Options} {good : Prop} {v w : View} {out acks data : List Su}

theorem Joined.lose (joined : v.Joined w out acks data)
    {acks' data' : List Su} (fewer : acks'.Sublist acks)
    (fewerData : data'.Sublist data) : v.Joined w out acks' data' :=
  ⟨joined.side, joined.peer, joined.sends.lose (List.Sublist.refl _) fewer,
    joined.receives.lose fewerData (List.Sublist.refl _)⟩

theorem Safe.lose (safe : Safe o good w out acks data v)
    {acks' data' : List Su} (fewer : acks'.Sublist acks)
    (fewerData : data'.Sublist data) : Safe o good w out acks' data' v :=
  ⟨safe.1, fun ok uncrossed intact =>
    (safe.2 ok uncrossed intact).lose fewer fewerData⟩

/-- The fields of the unit `su` have been read. -/
structure Read (su : Su) (v : View) : Prop where
  bsn : v.rxRBsn = (slRcDecode false su.octets).header.bsn
  fsn : v.rxRFsn = (slRcDecode false su.octets).header.fsn
  len : v.rxLen = (slRcDecode false su.octets).len
  bib : Bit v.rxRBib

theorem read_closed (su : Su) : Closed (Read su) := by
  intro v v' move read
  cases move <;> exact { read with }

theorem Joined.free {su : Su} (joined : v.Joined w out (su :: acks) data)
    (window : v.Window) (read : v.Read su) (mem : su ∈ data) {k : Nat}
    (held : k ≤ v.rtb.length) (wide : k ≤ v.snMask)
    (target : (v.txFFsn + k) % v.modulus = v.succ v.rxRBsn) :
    Joined { { v with txRBib := v.rxRBib }.free k with
      rxFFsn := v.succ v.rxRBsn } w out acks data := by
  have side := joined.side
  have mask := side.mask window
  have ok := joined.receives.units su mem
  have acked : v.released.length + k ≡ su.ack [MOD 128] := by
    rw [View.modulus, View.succ, mask, side.first, read.bsn, ok.bsn,
      Nat.mod_add_mod, Nat.mod_add_mod, Nat.add_assoc] at target
    exact target.trans (Nat.add_mod_right _ _)
  obtain ⟨_, sends⟩ := joined.sends.release (by omega) acked
  have taken : (v.released ++ v.rtb.take k).length = v.released.length + k := by
    rw [List.length_append, List.length_take_of_le held]
  refine ⟨?_, joined.peer, ?_, joined.receives⟩
  · exact
      { side with
        bibr := read.bib
        limit := by
          intro pcr
          obtain ⟨N1, most, below⟩ := side.limit pcr
          simp only [View.free, List.length_drop]
          exact ⟨N1, by omega, fun notFull => by have := below notFull; omega⟩
        first := by
          simp only [View.free, View.modulus, mask, side.first, taken,
            Nat.mod_add_mod]
        places := by
          intro i m at_
          simp only [View.free] at at_ ⊢
          rw [taken, Nat.add_assoc]
          refine side.places (k + i) m ?_
          rw [← at_, ← List.getElem?_drop, List.drop_append_of_le_length held] }
  · simp only [View.free]
    rw [taken, List.length_drop]
    rw [show v.released.length + k + (v.rtb.length - k) =
      v.released.length + v.rtb.length by omega]
    exact sends

theorem Joined.accept {su : Su} (joined : v.Joined w out acks (su :: data))
    (window : v.Window) (read : v.Read su) (number : v.rxRFsn = v.rxXFsn)
    (long : 2 < v.rxLen) :
    Joined (v.accept (su.octets.drop 3)) w out acks data := by
  have side := joined.side
  refine ⟨{ side with expected := ?_ }, joined.peer, joined.sends, ?_⟩
  · simp only [View.accept, View.succ, side.mask window, side.expected,
      Nat.mod_add_mod, List.length_append, List.length_singleton]
  · refine joined.receives.accept ?_ (read.len ▸ long)
    rw [← read.fsn, number, side.expected]

def Reads (o : Options) (good : Prop) (w : View) (out acks data : List Su)
    (su : Su) (v : View) : Prop :=
  Safe o good w out acks data v ∧ v.Read su ∧ v.rxFFsn = v.txFFsn

theorem reads_closed (o : Options) (good : Prop) (w : View)
    (out acks data : List Su) (su : Su) :
    Closed (Reads o good w out acks data su) := by
  intro v v' move ⟨safe, read, agree⟩
  refine ⟨safe_closed o good w out acks data v v' move safe,
    read_closed su v v' move read, ?_⟩
  cases move <;> exact agree

def Rests (o : Options) (good : Prop) (w : View) (out acks data : List Su)
    (v : View) : Prop :=
  Safe o good w out acks data v ∧ v.rxFFsn = v.txFFsn

theorem rests_closed (o : Options) (good : Prop) (w : View)
    (out acks data : List Su) : Closed (Rests o good w out acks data) := by
  intro v v' move ⟨safe, agree⟩
  refine ⟨safe_closed o good w out acks data v v' move safe, ?_⟩
  cases move <;> exact agree

theorem reads_receives (o : Options) (good : Prop) (w : View)
    (out rest : List Su) (su : Su) :
    Receives (Reads o good w out (su :: rest) (su :: rest) su)
      (Reads o good w out rest (su :: rest) su) (Rests o good w out rest rest)
      (su.octets.drop 3) where
  closed₀ := reads_closed _ _ _ _ _ _ _
  closed₁ := reads_closed _ _ _ _ _ _ _
  closed₂ := rests_closed _ _ _ _ _ _
  weaken₀ := fun v reads => ⟨reads.1.lose (List.sublist_cons_self su rest)
    (List.sublist_cons_self su rest), reads.2.2⟩
  weaken₁ := fun v reads => ⟨reads.1.lose (List.Sublist.refl rest)
    (List.sublist_cons_self su rest), reads.2.2⟩
  memory := fun v reads => reads.1.1.window.memory
  kept := fun v reads => ⟨reads.1.1.window.kept, reads.1.1.window.first⟩
  inside := by
    intro v ⟨⟨plain, _⟩, read, agree⟩ inside
    refine plain.window.acceptable agree ?_ inside
    rw [read.bsn, plain.window.mask, plain.format]
    exact slRcDecode_bsn_le false su.octets
  frees := by
    intro v k ⟨⟨plain, safe⟩, read, agree⟩ held wide target
    refine ⟨⟨⟨{ plain.window.free held with }, plain.option, plain.format,
      plain.calm⟩, ?_⟩,
      { read with }, target.symm⟩
    intro ok uncrossed intact
    exact (safe ok uncrossed intact).free plain.window read List.mem_cons_self
      held wide target
  accepts := by
    intro v ⟨⟨plain, safe⟩, read, agree⟩ number long
    refine ⟨⟨⟨{ plain.window with }, plain.option, plain.format, plain.calm⟩,
      ?_⟩, agree⟩
    intro ok uncrossed intact
    exact (safe ok uncrossed intact).accept plain.window read number long

end Reception

end View

end OpenSS7.Mtp2
