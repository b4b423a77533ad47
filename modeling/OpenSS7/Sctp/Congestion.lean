import OpenSS7.Lib.Runs
import OpenSS7.Sctp.Sender

/-!
The congestion variables of a destination under acknowledgements, gap reports
and timeouts.
-/

namespace OpenSS7.Sctp

namespace Daddr

variable {sd : Daddr}

/-- The first part of `sctp_dest_calc`: what the acknowledged octets do. -/
def credit (sd : Daddr) : Daddr :=
  let accum := sd.ackAccum
  if accum ≠ 0 then
    let sd :=
      if sd.cwnd ≤ sd.ssthresh then
        if sd.cwnd < sd.inFlight then
          { sd with cwnd := sd.cwnd + min accum sd.mtu }
        else sd
      else
        let partialAck := (sd.partialAck + accum) % 2 ^ 64
        if sd.cwnd ≤ sd.inFlight ∧ sd.cwnd ≤ partialAck then
          { sd with
            cwnd := sd.cwnd + sd.mtu
            partialAck := sub64 partialAck (sd.cwnd + sd.mtu) }
        else { sd with partialAck := partialAck }
    { sd with inFlight := sd.inFlight - accum, ackAccum := 0 }
  else sd

def backOff (sd : Daddr) : Daddr :=
  if sd.dropping then
    let ssthresh := max (sd.cwnd / 2) (sd.mtu * 2)
    { sd with
      ssthresh := ssthresh
      cwnd := ssthresh
      partialAck := 0
      dropping := false }
  else sd

/-- `sctp_assoc_timedout` as far as the destination goes. -/
def assocTimedout (sd : Daddr) (rtoMin rtoMax : Nat) : Daddr :=
  let rto := if sd.rto ≠ 0 then sd.rto * 2 else 1
  { sd with
    ssthresh := max (sd.cwnd / 2) (sd.mtu * 2)
    cwnd := sd.mtu
    partialAck := 0
    rto := min rtoMax (max rtoMin rto) }

/-- What happens to a destination between two calls of `sctp_dest_calc`, and
the call. -/
inductive Event where
  | send (dlen : Nat)
  | ack (dlen : Nat)
  | gap (dlen : Nat)
  | drop (dlen : Nat)
  | destCalc
  | timedout (rtoMin rtoMax : Nat)
deriving DecidableEq

def handle (sd : Daddr) : Event → Daddr
  | .send dlen => { sd with inFlight := sd.inFlight + dlen }
  | .ack dlen =>
      { sd with ackAccum := min (sd.ackAccum + dlen) sd.inFlight }
  | .gap dlen => { sd with inFlight := sd.inFlight - dlen }
  | .drop dlen =>
      { sd with dropping := true, inFlight := sd.inFlight - dlen }
  | .destCalc => sd.calc
  | .timedout rtoMin rtoMax => sd.assocTimedout rtoMin rtoMax

/-- `partial_ack` with the octets acknowledged. -/
def counted (sd : Daddr) : Nat := (sd.partialAck + sd.ackAccum) % 2 ^ 64

def Climbs (sd : Daddr) : Prop :=
  sd.ackAccum ≠ 0 ∧ sd.ssthresh < sd.cwnd ∧ sd.cwnd ≤ sd.inFlight ∧
    sd.cwnd ≤ sd.counted

instance (sd : Daddr) : Decidable sd.Climbs :=
  inferInstanceAs (Decidable (_ ∧ _ ∧ _ ∧ _))

inductive Credited (sd : Daddr) : Prop where
  | idle (none : sd.ackAccum = 0) (same : sd.credit = sd)
  | slow (slow : sd.cwnd ≤ sd.ssthresh)
      (grows : sd.credit.cwnd ≤ sd.cwnd + sd.mtu)
      (keeps : sd.cwnd ≤ sd.credit.cwnd)
      (count : sd.credit.partialAck = sd.partialAck)
  | counts (fast : sd.ssthresh < sd.cwnd) (stays : ¬sd.Climbs)
      (same : sd.credit.cwnd = sd.cwnd)
      (count : sd.credit.partialAck = sd.counted)
  | climbs (climbs : sd.Climbs) (grows : sd.credit.cwnd = sd.cwnd + sd.mtu)
      (count : sd.credit.partialAck = sub64 sd.counted (sd.cwnd + sd.mtu))

theorem credit_spec (sd : Daddr) : sd.Credited := by
  by_cases none : sd.ackAccum = 0
  · exact .idle none (by simp [credit, none])
  have some : sd.ackAccum ≠ 0 := none
  by_cases slow : sd.cwnd ≤ sd.ssthresh
  · by_cases full : sd.cwnd < sd.inFlight
    · refine .slow slow ?_ ?_ ?_ <;>
        simp only [credit, some, slow, full, if_true, ne_eq, not_false_eq_true]
      · omega
      · omega
    · refine .slow slow ?_ ?_ ?_ <;>
        simp only [credit, some, slow, full, if_true, if_false, ne_eq,
          not_false_eq_true]
      · omega
      · omega
  · have fast : sd.ssthresh < sd.cwnd := by omega
    by_cases climbs : sd.Climbs
    · have climbs' := climbs
      obtain ⟨-, -, full, enough⟩ := climbs'
      rw [counted] at enough
      refine .climbs climbs ?_ ?_ <;>
        simp only [credit, counted, some, slow, full, enough, and_self,
          if_true, if_false, ne_eq, not_false_eq_true]
    · have stays : ¬(sd.cwnd ≤ sd.inFlight ∧
          sd.cwnd ≤ (sd.partialAck + sd.ackAccum) % 2 ^ 64) :=
        fun both => climbs ⟨some, fast, both.1, both.2⟩
      refine .counts fast climbs ?_ ?_ <;>
        simp only [credit, counted, some, slow, stays, if_true, if_false,
          ne_eq, not_false_eq_true]

theorem credit_same (sd : Daddr) :
    sd.credit.mtu = sd.mtu ∧ sd.credit.ssthresh = sd.ssthresh ∧
      sd.credit.dropping = sd.dropping := by
  unfold credit
  simp only
  split
  · split <;> split <;> exact ⟨rfl, rfl, rfl⟩
  · exact ⟨rfl, rfl, rfl⟩

end Daddr

/-- A destination and its record: the octets acknowledged since the window
last grew, and what `partial_ack` was left with when it did. -/
structure Path where
  sd : Daddr
  acked : Nat
  left : Nat

namespace Path

variable {p : Path}

def Grows (p : Path) : Prop := p.sd.cwnd < p.sd.credit.cwnd

instance (p : Path) : Decidable p.Grows := inferInstanceAs (Decidable (_ < _))

def step (p : Path) (event : Daddr.Event) : Path where
  sd := p.sd.handle event
  acked :=
    match event with
    | .destCalc => if p.Grows then 0 else p.acked + p.sd.ackAccum
    | _ => p.acked
  left :=
    match event with
    | .destCalc =>
        if p.sd.dropping then 0
        else if p.Grows then p.sd.credit.partialAck
        else p.left
    | .timedout _ _ => 0
    | _ => p.left

theorem step_destCalc (p : Path) :
    p.step .destCalc =
      ⟨p.sd.credit.backOff,
        if p.Grows then 0 else p.acked + p.sd.ackAccum,
        if p.sd.dropping then 0
        else if p.Grows then p.sd.credit.partialAck
        else p.left⟩ := rfl

structure InRange (p : Path) (event : Daddr.Event) : Prop where
  cwnd : p.sd.mtu ≤ (p.step event).sd.cwnd
  ssthresh : 2 * p.sd.mtu ≤ (p.step event).sd.ssthresh
  growth : (p.step event).sd.cwnd ≤ p.sd.cwnd + p.sd.mtu

/-- A step counts correctly as well: `partial_ack` does not wrap, and in
congestion avoidance growth is paid for. -/
structure Sound (p : Path) (event : Daddr.Event) : Prop
    extends InRange p event where
  unwrapped : event = .destCalc → p.sd.Climbs →
    p.sd.credit.partialAck ≤ p.sd.counted
  paid : event = .destCalc → p.sd.ssthresh < p.sd.cwnd → p.Grows →
    p.sd.cwnd ≤ p.acked + p.sd.ackAccum

/-- Where the window grows by congestion avoidance, `partial_ack` covers the
window after it, and the window before it without what was left over. -/
def Covers (p : Path) (event : Daddr.Event) : Prop :=
  event = .destCalc → p.sd.Climbs →
    p.sd.cwnd + max p.sd.mtu p.left ≤ p.sd.counted

instance (p : Path) (event : Daddr.Event) : Decidable (p.Covers event) :=
  inferInstanceAs (Decidable (_ → _ → _))

/-! ### The range -/

structure Ranged (sd : Daddr) : Prop where
  cwnd : sd.mtu ≤ sd.cwnd
  ssthresh : 2 * sd.mtu ≤ sd.ssthresh

theorem credit_ranged (ranged : Ranged p.sd) :
    Ranged p.sd.credit ∧ p.sd.credit.cwnd ≤ p.sd.cwnd + p.sd.mtu := by
  obtain ⟨mtu, ssthresh, -⟩ := p.sd.credit_same
  have low := ranged.cwnd
  refine ⟨⟨?_, by rw [mtu, ssthresh]; exact ranged.ssthresh⟩, ?_⟩
  · rw [mtu]
    cases p.sd.credit_spec with
    | idle none same => rwa [same]
    | slow slow grows keeps count => omega
    | counts fast stays same count => omega
    | climbs climbs grows count => omega
  · cases p.sd.credit_spec with
    | idle none same => rw [same]; omega
    | slow slow grows keeps count => exact grows
    | counts fast stays same count => omega
    | climbs climbs grows count => omega

theorem inRange (ranged : Ranged p.sd) (event : Daddr.Event) :
    p.InRange event ∧ Ranged (p.step event).sd := by
  obtain ⟨low, threshold⟩ := ranged
  cases event with
  | destCalc =>
      obtain ⟨⟨cwnd, ssthresh⟩, growth⟩ :=
        credit_ranged (p := p) ⟨low, threshold⟩
      obtain ⟨mtu, -, -⟩ := p.sd.credit_same
      rw [mtu] at cwnd ssthresh
      have result : (p.step .destCalc).sd = p.sd.credit.backOff := rfl
      have outcome : p.sd.mtu ≤ p.sd.credit.backOff.cwnd ∧
          2 * p.sd.mtu ≤ p.sd.credit.backOff.ssthresh ∧
          p.sd.credit.backOff.cwnd ≤ p.sd.cwnd + p.sd.mtu ∧
          p.sd.credit.backOff.mtu = p.sd.mtu := by
        cases dropping : p.sd.credit.dropping with
        | false =>
            simp only [Daddr.backOff, dropping, Bool.false_eq_true, if_false]
            exact ⟨cwnd, ssthresh, growth, mtu⟩
        | true =>
            simp only [Daddr.backOff, dropping, if_true, mtu]
            refine ⟨?_, ?_, ?_, trivial⟩ <;> omega
      refine ⟨⟨?_, ?_, ?_⟩, ⟨?_, ?_⟩⟩ <;> rw [result] <;> omega
  | timedout rtoMin rtoMax =>
      have result : (p.step (.timedout rtoMin rtoMax)).sd =
          p.sd.assocTimedout rtoMin rtoMax := rfl
      refine ⟨⟨?_, ?_, ?_⟩, ⟨?_, ?_⟩⟩ <;> rw [result] <;>
        simp only [Daddr.assocTimedout] <;> omega
  | send dlen =>
      exact ⟨⟨low, threshold, Nat.le_add_right ..⟩, low, threshold⟩
  | ack dlen =>
      exact ⟨⟨low, threshold, Nat.le_add_right ..⟩, low, threshold⟩
  | gap dlen =>
      exact ⟨⟨low, threshold, Nat.le_add_right ..⟩, low, threshold⟩
  | drop dlen =>
      exact ⟨⟨low, threshold, Nat.le_add_right ..⟩, low, threshold⟩

/-! ### The count -/

theorem counted_lt (sd : Daddr) : sd.counted < 2 ^ 64 :=
  Nat.mod_lt _ (by decide)

theorem counted_le (sd : Daddr) :
    sd.counted ≤ sd.partialAck + sd.ackAccum := Nat.mod_le _ _

theorem sub64_le {a b : Nat} (bound : a < 2 ^ 64) (le : b ≤ a) :
    sub64 a b = a - b := by
  unfold sub64
  omega

structure Counts (p : Path) : Prop where
  counted : p.sd.partialAck ≤ p.left + p.acked
  slow : p.sd.cwnd ≤ p.sd.ssthresh → p.sd.partialAck = 0

theorem backOff_cases (sd : Daddr) :
    (sd.dropping = false ∧ sd.backOff = sd) ∨
      (sd.dropping = true ∧ sd.backOff.partialAck = 0) := by
  unfold Daddr.backOff
  cases dropping : sd.dropping with
  | false => exact .inl ⟨rfl, by simp⟩
  | true => exact .inr ⟨rfl, by simp⟩

/-- What a call of `sctp_dest_calc` makes of the count before the destination
backs off. -/
structure Credits (p : Path) : Prop where
  paid : p.Grows → p.sd.ssthresh < p.sd.cwnd →
    p.sd.cwnd ≤ p.acked + p.sd.ackAccum
  counted : ¬p.Grows →
    p.sd.credit.partialAck ≤ p.left + (p.acked + p.sd.ackAccum)
  slow : p.sd.credit.cwnd ≤ p.sd.credit.ssthresh →
    p.sd.credit.partialAck = 0
  unwrapped : p.sd.Climbs → p.sd.credit.partialAck ≤ p.sd.counted

theorem credits (counts : p.Counts) (covers : p.Covers .destCalc) :
    p.Credits := by
  obtain ⟨-, ssthresh, -⟩ := p.sd.credit_same
  have counted := counts.counted
  have under := counted_lt p.sd
  have most := counted_le p.sd
  cases p.sd.credit_spec with
  | idle none same =>
      refine ⟨fun grows => ?_, fun _ => ?_, ?_, fun climbs => ?_⟩
      · rw [Grows, same] at grows
        omega
      · rw [same]
        omega
      · rw [same]
        exact counts.slow
      · exact absurd none climbs.1
  | slow slow grows keeps count =>
      have zero := counts.slow slow
      refine ⟨fun _ fast => by omega, fun _ => ?_, fun _ => ?_,
        fun climbs => absurd climbs.2.1 (by omega)⟩
      · omega
      · omega
  | counts fast stays same count =>
      refine ⟨fun grows => ?_, fun _ => ?_, fun slow => ?_,
        fun climbs => absurd climbs stays⟩
      · rw [Grows, same] at grows
        omega
      · omega
      · omega
  | climbs climbs grows count =>
      have covered := covers rfl climbs
      have fast := climbs.2.1
      rw [sub64_le under (by omega)] at count
      refine ⟨fun _ _ => ?_, fun _ => ?_, fun slow => ?_, fun _ => ?_⟩ <;>
        omega

theorem counts_step (counts : p.Counts) {event : Daddr.Event}
    (covers : p.Covers event) : (p.step event).Counts := by
  cases event with
  | destCalc =>
      have credits := p.credits counts covers
      have result : (p.step .destCalc).sd = p.sd.credit.backOff := rfl
      rcases backOff_cases p.sd.credit with ⟨steady, same⟩ | ⟨-, zero⟩
      · refine ⟨?_, by rw [result, same]; exact credits.slow⟩
        have steady : p.sd.dropping = false := by
          rw [← p.sd.credit_same.2.2]
          exact steady
        rw [step_destCalc, same]
        simp only [steady, Bool.false_eq_true, if_false]
        by_cases grows : p.Grows
        · rw [if_pos grows, if_pos grows]
          exact Nat.le_add_right ..
        · rw [if_neg grows, if_neg grows]
          exact credits.counted grows
      · exact ⟨by rw [result, zero]; exact Nat.zero_le _,
          fun _ => by rw [result, zero]⟩
  | timedout rtoMin rtoMax => exact ⟨Nat.zero_le _, fun _ => rfl⟩
  | send dlen => exact ⟨counts.counted, counts.slow⟩
  | ack dlen => exact ⟨counts.counted, counts.slow⟩
  | gap dlen => exact ⟨counts.counted, counts.slow⟩
  | drop dlen => exact ⟨counts.counted, counts.slow⟩

theorem sound (ranged : Ranged p.sd) (counts : p.Counts)
    {event : Daddr.Event} (covers : p.Covers event) : p.Sound event := by
  refine ⟨(inRange ranged event).1, ?_, ?_⟩
  · rintro rfl climbs
    exact (p.credits counts covers).unwrapped climbs
  · rintro rfl fast grows
    exact (p.credits counts covers).paid grows fast

/-! ### Runs -/

/-- A destination as `sctp_alloc_daddr` and routing leave it. -/
structure Fresh (sd : Daddr) : Prop extends Ranged sd where
  unacked : sd.partialAck = 0

/-- The range is kept in every run, and the count in every run that grows the
window only where it is covered. -/
theorem congestion_kept {sd : Daddr} (fresh : Fresh sd)
    (events : List Daddr.Event) :
    Runs.Along step InRange ⟨sd, 0, 0⟩ events ∧
      (Runs.Along step Covers ⟨sd, 0, 0⟩ events →
        Runs.Along step Sound ⟨sd, 0, 0⟩ events) := by
  have counts : Counts ⟨sd, 0, 0⟩ := by
    refine ⟨?_, fun _ => fresh.unacked⟩
    rw [fresh.unacked]
    exact Nat.zero_le _
  have ranged : Ranged (Path.mk sd 0 0).sd := fresh.toRanged
  clear fresh
  generalize Path.mk sd 0 0 = p at counts ranged
  constructor
  · clear counts
    induction events generalizing p with
    | nil => trivial
    | cons event events ih =>
        obtain ⟨here, next⟩ := inRange ranged event
        exact ⟨here, ih _ next⟩
  · intro covered
    induction events generalizing p with
    | nil => trivial
    | cons event events ih =>
        obtain ⟨covers, later⟩ := covered
        exact ⟨sound ranged counts covers, ih _ (counts_step counts covers)
          (inRange ranged event).2 later⟩

def avoiding : Daddr where
  inFlight := 0
  ackAccum := 0
  mAck := 0
  dropping := false
  cwnd := 6000
  ssthresh := 3000
  partialAck := 0
  mtu := 1500
  dmps := 1452
  rto := 1000

theorem congestion_kept_avoiding :
    Runs.Along step InRange ⟨avoiding, 0, 0⟩
        [.send 9000, .ack 7500, .destCalc] ∧
      (Runs.Along step Covers ⟨avoiding, 0, 0⟩
          [.send 9000, .ack 7500, .destCalc] →
        Runs.Along step Sound ⟨avoiding, 0, 0⟩
          [.send 9000, .ack 7500, .destCalc]) :=
  congestion_kept ⟨⟨by decide, by decide⟩, rfl⟩ _

theorem avoiding_climbs :
    ¬Runs.Along step Sound ⟨avoiding, 0, 0⟩
      [.send 12000, .ack 6000, .destCalc, .send 3000, .ack 1, .destCalc] := by
  intro along
  have wrapped := along.2.2.1.unwrapped rfl (by decide)
  revert wrapped
  decide

end Path

end OpenSS7.Sctp
