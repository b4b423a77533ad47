import OpenSS7.Sctp.Held

/-!
FORWARD-TSN: when the cumulative point comes to the end of what has been
received or given up.
-/

namespace OpenSS7.Sctp

open Serial

namespace PrRx

variable {base : Tsn} {rx rx' : PrRx} {dupb : Tsn → Bool}

def Holds (rx : PrRx) (i : Int) : Prop := ∃ cb ∈ rx.gaps, rx.place cb.tsn = i

structure Advances (rx rx' : PrRx) (f : Int) : Prop where
  ack : rx'.rAck = rx.rAck + BitVec.ofInt 32 (rx'.count - rx.count)
  reached : f ≤ rx'.count
  run : ∀ i, f < i → i ≤ rx'.count → rx.Holds i
  missing : ¬rx.Holds (rx'.count + 1)
  gone : ∀ cb ∈ rx.gaps, rx.place cb.tsn ≤ rx'.count → cb.deliv = true ∨
    ∃ put ∈ rx'.put.drop rx.put.length, put.cb.tsn = cb.tsn
  kept : rx'.gaps.map Cb.tsn =
    (rx.gaps.map Cb.tsn).filter fun tsn => rx'.count < rx.place tsn

def Carries (rx : PrRx) (istrm : UInt16 → Bool) (dupb : Tsn → Bool)
    (m : ForwardTsn) : Prop :=
  let f := rx.forwardPlace m
  rx.gaps = [] ∨ rx.Holds f ∧ ∀ cb ∈ rx.gaps,
    (rx.place cb.tsn ≤ f ∨ ∀ i, f < i → i ≤ rx.place cb.tsn → rx.Holds i) →
    cb.deliv = true ∨ dupb cb.tsn = true ∧
      ¬(rx.place cb.tsn ≤ f ∧ (rx.pushed istrm m).waits cb = true)

namespace Held

variable {m : ForwardTsn} {i : Int}

theorem holds_iff (held : Held base rx) (above : rx.count < i)
    (below : i ≤ rx.count + HALF + 1) :
    number base i ∈ rx.gaps.map Cb.tsn ↔ rx.Holds i := by
  constructor
  · intro member
    have range := (Runs.ascends held.runs).place le_rfl
      (by simp only [HALF]; omega) (by simp only [HALF] at *; omega) member
    obtain ⟨cb, member, same⟩ := List.mem_map.1 member
    refine ⟨cb, member, ?_⟩
    rw [same]
    exact Rx.place_number held.ack above range.2
  · rintro ⟨cb, member, rfl⟩
    rw [Rx.number_place held.ack]
    exact List.mem_map_of_mem member

theorem ready (held : Held base rx) (istrm : UInt16 → Bool)
    (newer : rx.count ≤ rx.forwardPlace m) :
    Ready base (rx.count + HALF) (rx.pushed istrm m) rx.gaps := by
  obtain ⟨strm, pushed⟩ := rx.pushed_eq istrm m
  rw [pushed]
  refine ⟨⟨held.ack, ?_, newer⟩, Runs.ascends held.runs, ?_, le_rfl⟩
  · change m.fTsn = number base (rx.forwardPlace m)
    rw [forwardPlace, held.pFsn]
    exact (number_ahead base m.fTsn rx.fsn).symm
  · simp only [HALF]
    omega

end Held

theorem Delivers.waiting {passed rest : List Cb} {cb : Cb}
    (delivers : Delivers dupb rx passed (cb :: rest) rx')
    (undelivered : cb.deliv = false) (waiting : rx.waits cb = true) :
    ∃ new, rx'.put = rx.put ++ new ∧
      ∀ x ∈ new, x.cb.tsn ∈ rest.map Cb.tsn := by
  cases delivers with
  | wait _ _ inner => exact inner.puts
  | stop _ waits _ =>
      rw [waiting] at waits
      cases waits
  | up _ waits _ _ =>
      rw [waiting] at waits
      cases waits
  | remove delivered _ _ =>
      rw [undelivered] at delivered
      cases delivered
  | keep delivered _ _ =>
      rw [undelivered] at delivered
      cases delivered

theorem Ready.head {high : Int} {todo : List Cb} {cb : Cb}
    (ready : Ready base high rx todo) (member : cb ∈ todo)
    (next : cb.tsn = number base (rx.count + 1)) : cb ∈ todo.head? := by
  cases todo with
  | nil => cases member
  | cons x rest =>
      obtain rfl | member := List.mem_cons.1 member
      · rfl
      · obtain ⟨p, -, above, below, more⟩ := ready.first
        have near := ready.near
        have later : cb.tsn ∈ rest.map Cb.tsn := List.mem_map_of_mem member
        rw [next] at later
        have := more.place (by omega) (by simp only [HALF] at *; omega)
          (by simp only [HALF] at *; omega) later
        omega

section Received

variable {istrm : UInt16 → Bool} {m : ForwardTsn} (held : Held base rx)
  (newer : rx.count < rx.forwardPlace m)
  (delivers : Delivers dupb (rx.pushed istrm m) [] rx.gaps rx')

include held newer

theorem advances_of_caught (high : rx'.count ≤ rx.count + HALF)
    (ack : rx'.rAck = number base rx'.count)
    (caught : Caught base (rx.count + HALF) (rx.pushed istrm m) rx.gaps rx') :
    Advances rx rx' (rx.forwardPlace m) := by
  obtain ⟨strm, pushed⟩ := rx.pushed_eq istrm m
  rw [pushed] at caught
  obtain ⟨reached, run, missing, gone, l, split, behind, ahead⟩ := caught
  simp only at reached run gone behind
  refine ⟨?_, reached, fun i past under => ?_, fun holds => ?_,
    fun cb member under => ?_, ?_⟩
  · rw [ack, held.ack, ← number_add, add_sub_cancel]
  · exact (held.holds_iff (by omega) (by omega)).1 (run i past under)
  · exact missing ((held.holds_iff (by omega) (by omega)).2 holds)
  · obtain ⟨i, past, near, here⟩ := held.runs.mem member
    have place : rx.place cb.tsn = i := by
      rw [here, Rx.place_number held.ack past near]
    exact gone cb member i here past (by omega)
  · rw [split, List.filter_append, List.filter_eq_nil_iff.2, List.nil_append,
      List.filter_eq_self.2]
    · intro tsn member
      obtain ⟨i, here, past, near⟩ := ahead.mem member
      rw [here, Rx.place_number held.ack (by omega) near]
      exact decide_eq_true past
    · intro tsn member
      obtain ⟨i, here, past, near⟩ := behind.mem member
      rw [here, Rx.place_number held.ack past (by omega), decide_eq_true_iff]
      omega

include delivers

theorem clear_of_gone (advances : Advances rx rx' (rx.forwardPlace m)) :
    Clear base (rx.pushed istrm m) rx.gaps := by
  obtain ⟨strm, pushed⟩ := rx.pushed_eq istrm m
  have ready := held.ready istrm newer.le
  intro cb first next undelivered
  have next : cb.tsn = number base (rx.count + 1) := by
    rwa [pushed] at next
  by_contra waits
  have waiting : (rx.pushed istrm m).waits cb = true := by simpa using waits
  obtain ⟨rest, gaps⟩ := List.head?_eq_some_iff.1 first
  have place : rx.place cb.tsn = rx.count + 1 := by
    rw [next]
    exact Rx.place_number held.ack (by omega) (by simp only [HALF]; omega)
  have reached := advances.reached
  obtain delivered | ⟨x, later, same⟩ := advances.gone cb
    (gaps ▸ List.mem_cons_self) (by omega)
  · rw [undelivered] at delivered
    cases delivered
  · rw [gaps] at delivers ready
    obtain ⟨new, put, source⟩ := delivers.waiting undelivered waiting
    rw [put, pushed, List.drop_left] at later
    have member := source x later
    rw [same, next] at member
    obtain ⟨p, here, above, below, more⟩ := ready.first
    rw [pushed] at above
    simp only at above
    have range := more.place (by simp only [HALF] at *; omega)
      (by simp only [HALF] at *; omega) (by simp only [HALF] at *; omega) member
    omega

theorem carries_of_advances (advances : Advances rx rx' (rx.forwardPlace m)) :
    rx.Holds (rx.forwardPlace m) ∧ ∀ cb ∈ rx.gaps,
      (rx.place cb.tsn ≤ rx.forwardPlace m ∨
        ∀ i, rx.forwardPlace m < i → i ≤ rx.place cb.tsn → rx.Holds i) →
      cb.deliv = true ∨ dupb cb.tsn = true ∧
        ¬(rx.place cb.tsn ≤ rx.forwardPlace m ∧
          (rx.pushed istrm m).waits cb = true) := by
  obtain ⟨strm, pushed⟩ := rx.pushed_eq istrm m
  have ready := held.ready istrm newer.le
  have clear := clear_of_gone held newer delivers advances
  have reached := advances.reached
  obtain ⟨low, high, -⟩ := delivers.bounds ready
  have close : rx.forwardPlace m ≤ rx.count + HALF := reached.trans high
  rw [pushed] at low
  have missing : number base (rx'.count + 1) ∉ rx.gaps.map Cb.tsn := by
    rw [held.holds_iff (by omega) (by omega)]
    exact advances.missing
  have needs := delivers.needs ready (by rw [pushed]; exact close) clear
    (by rw [pushed]; exact reached) missing
  have number_of : ∀ {i}, rx.count < i → i ≤ rx.count + HALF → rx.Holds i →
      number base i ∈ rx.gaps.map Cb.tsn :=
    fun above below => (held.holds_iff above (by omega)).2
  refine ⟨?_, fun cb member joined => ?_⟩
  · have := needs.held
    rw [pushed] at this
    obtain level | member := this
    · simp only at level
      omega
    · exact (held.holds_iff newer (by omega)).1 member
  · have above : rx.count < rx.place cb.tsn := by
      obtain ⟨i, past, under, here⟩ := held.runs.mem member
      rw [here, Rx.place_number held.ack past under]
      exact past
    have below := rx.place_le cb.tsn
    have here := (Rx.number_place held.ack cb.tsn).symm
    have able := needs.able cb member (rx.place cb.tsn) here
    rw [pushed] at able
    obtain delivered | granted := able above below (joined.imp_right
      fun run i past under => number_of (by simp only at past; omega) (by omega)
        (run i past under))
    · exact .inl delivered
    · cases undelivered : cb.deliv with
      | true => exact .inl rfl
      | false =>
          refine .inr ⟨granted, fun ⟨under, waiting⟩ => ?_⟩
          have beyond := waits_beyond ready.toPointed (by rw [pushed]; exact close)
            here (by rw [pushed]; exact above) (by rw [pushed]; exact below) waiting
          rw [pushed] at beyond
          simp only at beyond
          obtain past | ⟨first, opposite⟩ := beyond
          · omega
          · have head := ready.head member (by rw [pushed, here, first])
            have waits := clear cb head (by rw [pushed, here, first]) undelivered
            rw [waiting] at waits
            cases waits

end Received

theorem advances_empty {m : ForwardTsn} (istrm : UInt16 → Bool)
    (held : Held base rx) (empty : rx.gaps = []) :
    Advances rx
      { rx.pushed istrm m with
        rAck := (rx.pushed istrm m).pFsn
        count := (rx.pushed istrm m).fsn }
      (rx.forwardPlace m) := by
  obtain ⟨strm, pushed⟩ := rx.pushed_eq istrm m
  have there : m.fTsn = number base (rx.forwardPlace m) := by
    rw [forwardPlace, held.pFsn]
    exact (number_ahead base m.fTsn rx.fsn).symm
  simp only [pushed]
  refine ⟨?_, le_rfl, fun i past under => ?_, ?_, ?_, ?_⟩
  · simp only
    rw [there, held.ack, ← number_add, add_sub_cancel]
  · simp only at under
    omega
  · rintro ⟨cb, member, -⟩
    rw [empty] at member
    cases member
  · intro cb member
    rw [empty] at member
    cases member
  · simp only [empty, List.map_nil, List.filter_nil]

theorem forward_tsn_advances_iff {istrm : UInt16 → Bool} {m : ForwardTsn}
    (held : Held base rx) (accepted : rx.accepts m = true) :
    Advances rx (rx.sctpRecvForwardTsn istrm dupb m) (rx.forwardPlace m) ↔
      rx.Carries istrm dupb m := by
  have newer := forwardPlace_gt held accepted
  obtain ⟨strm, pushed⟩ := rx.pushed_eq istrm m
  unfold sctpRecvForwardTsn
  rw [if_pos accepted]
  simp only
  by_cases empty : rx.gaps = []
  · have none : (rx.pushed istrm m).ngaps = 0 := by
      rw [pushed]
      exact (Runs.empty_iff held.runs).2 empty
    rw [if_pos none]
    exact iff_of_true (advances_empty istrm held empty) (.inl empty)
  · have some : (rx.pushed istrm m).ngaps ≠ 0 := by
      rw [pushed]
      exact fun none => empty ((Runs.empty_iff held.runs).1 none)
    rw [if_neg some]
    have delivers := (rx.pushed istrm m).sctpDeliverData_delivers dupb
    rw [show (rx.pushed istrm m).gaps = rx.gaps by rw [pushed]] at delivers
    have ready := held.ready istrm newer.le
    constructor
    · exact fun advances =>
        .inr (carries_of_advances held newer delivers advances)
    · intro carries
      obtain ⟨there, able⟩ := carries.resolve_left empty
      obtain ⟨low, high, pointed⟩ := delivers.bounds ready
      have close : rx.forwardPlace m ≤ rx.count + HALF := by
        obtain ⟨cb, -, here⟩ := there
        have := rx.place_le cb.tsn
        omega
      refine advances_of_caught held newer high pointed.ack
        (delivers.catches rfl ready (by rw [pushed]; exact close) ?_ ⟨?_, ?_⟩)
      · intro cb first next undelivered
        rw [pushed] at next
        have place : rx.place cb.tsn = rx.count + 1 := by
          rw [next]
          exact Rx.place_number held.ack (by simp only; omega)
            (by simp only [HALF]; omega)
        obtain delivered | ⟨-, seen⟩ :=
          able cb (List.mem_of_mem_head? first) (.inl (by omega))
        · rw [undelivered] at delivered
          cases delivered
        · by_contra waits
          exact seen ⟨by omega, by simpa using waits⟩
      · refine .inr ?_
        rw [pushed]
        exact (held.holds_iff newer (by omega)).2 there
      · intro cb member p here above below joined
        rw [pushed] at above joined
        have place : rx.place cb.tsn = p := by
          rw [here, Rx.place_number held.ack above below]
        refine (able cb member ?_).imp_right fun seen => seen.1
        rw [place]
        refine joined.imp_right fun run i past under => ?_
        exact (held.holds_iff (by omega) (by omega)).1 (run i past under)

def gapped : PrRx :=
  (initial 9 2 4096).handle
    (.packet (fun _ => true) [.data ⟨12, 0, 0, true, true, false, 4⟩])

theorem gapped_held : Held 9 gapped :=
  ((Steady.initial 9 2 4096).handle
    (.packet (fun _ => true) [.data ⟨12, 0, 0, true, true, false, 4⟩])
    trivial).toHeld

theorem forward_tsn_advances_to_held :
    Advances gapped
      (gapped.sctpRecvForwardTsn (fun _ => true) (fun _ => true) ⟨8, 12, []⟩)
      (gapped.forwardPlace ⟨8, 12, []⟩) := by
  refine (forward_tsn_advances_iff gapped_held (by decide)).2 (.inr ⟨?_, ?_⟩)
  · exact ⟨⟨12, 12, 0, 0, true, true, false, true, 4⟩, by decide, by decide⟩
  · intro cb member _
    have only : gapped.gaps = [⟨12, 12, 0, 0, true, true, false, true, 4⟩] := by
      decide
    rw [only, List.mem_singleton] at member
    exact .inl (by rw [member])

theorem forward_tsn_falls_short :
    Held 9 gapped ∧ gapped.accepts ⟨8, 11, []⟩ = true ∧
      (gapped.sctpRecvForwardTsn (fun _ => true) (fun _ => true)
        ⟨8, 11, []⟩).rAck = 9 ∧
      ¬Advances gapped
        (gapped.sctpRecvForwardTsn (fun _ => true) (fun _ => true) ⟨8, 11, []⟩)
        (gapped.forwardPlace ⟨8, 11, []⟩) := by
  refine ⟨gapped_held, by decide, by decide, fun advances => ?_⟩
  have reached := advances.reached
  revert reached
  decide

end PrRx

end OpenSS7.Sctp
