import OpenSS7.Sdt.Frame
import OpenSS7.Sdt.Framing

/-!
The receiver that takes a line in octets beside one that takes it in bits, and
what it delivers of a line of frames.
-/

namespace OpenSS7.Sdt

open Crc

variable (xsn : Bool) (m : Nat)

structure Rx where
  residue : List Bool
  bcc : BitVec 16
  octets : List UInt8

def Rx.store (rx : Rx) : Rx :=
  let octet := UInt8.ofBitVec (ofBits 8 (rx.residue.take 8))
  ⟨rx.residue.drop 8, bccUpdate rx.bcc octet, rx.octets ++ [octet]⟩

/-- `while (rx->rbits > 16)`, or `frame_too_long` -/
def Rx.drain (rx : Rx) : Option Rx :=
  if 16 < rx.residue.length then
    if frameTooLong xsn m rx.store.octets.length then none else rx.store.drain
  else some rx
termination_by rx.residue.length
decreasing_by
  rw [store, List.length_drop]
  omega

/-- No error at the closing flag. -/
def Rx.complete (rx : Rx) : Bool :=
  decide (rx.residue.length = 16) && decide (rx.bcc = ofBits 16 rx.residue) &&
    !frameTooShort xsn rx.octets.length && !lengthError xsn rx.octets

inductive RxMode where
  | hunt
  | sync
  | mof
deriving DecidableEq

/-- `s->rx`, and the messages that `sdt_daedr_received_bits` has been given. -/
structure Receiver where
  state : Nat
  mode : RxMode
  rx : Rx
  received : List (List UInt8)

def Receiver.fresh : Receiver := ⟨0, .hunt, ⟨[], 0, []⟩, []⟩

def Receiver.beginFrame (s : Receiver) (r : RxEntry) : Receiver :=
  if r.bitString.length = 0 then s
  else { s with mode := .mof, rx := ⟨r.bitString, 0x00ff#16, []⟩ }

def Receiver.newFrame (s : Receiver) (r : RxEntry) : Receiver :=
  if r.sync then { s with mode := .sync }.beginFrame r else { s with mode := .sync }

def Receiver.entry (s : Receiver) (r : RxEntry) : Receiver :=
  match s.mode with
  | .mof =>
      let rx := if r.sync then s.rx
        else { s.rx with residue := s.rx.residue ++ r.bitString }
      if r.flag then
        if rx.complete xsn then
          { s with received := s.received ++ [rx.octets] }.newFrame r
        else s.newFrame r
      else if r.hunt || r.idle then { s with mode := .hunt }
      else match rx.drain xsn m with
        | none => { s with mode := .hunt }
        | some rx => { s with rx := rx }
  | .sync =>
      if r.hunt || r.idle then { s with mode := .hunt } else s.beginFrame r
  | .hunt => if r.flag then s.newFrame r else s

/-- `sdt_rx_block` for one octet. -/
def sdtRxOctet (s : Receiver) (octet : UInt8) : Receiver :=
  let r := rxTableValue s.state octet.toBitVec
  { s with state := r.state }.entry xsn m r

/-- What the bits between two flags deliver. -/
def judge (bits : List Bool) : Option (List UInt8) :=
  let octets := octetsOf (bits.take (bits.length - 16))
  if bits.length % 8 = 0 ∧ 16 ≤ bits.length ∧ lengthOk xsn m octets ∧
      blockCheck octets = ofBits 16 (bits.drop (bits.length - 16)) then
    some octets
  else none

/-- Where a bit-serial receiver is on the line; it gives up after an abort, or
where less than eight bits come between two flags. -/
inductive Place where
  | hunting
  | between
  | inside (bits : List Bool)
  | lost

def serialTake (s : Place × List (List UInt8)) :
    LineEvent → Place × List (List UInt8)
  | .bit value => match s.1 with
      | .between => (.inside [value], s.2)
      | .inside bits => (.inside (bits ++ [value]), s.2)
      | place => (place, s.2)
  | .flag => match s.1 with
      | .lost => (.lost, s.2)
      | .inside bits =>
          if bits.length < 8 then (.lost, s.2)
          else (.between, s.2 ++ (judge xsn m bits).toList)
      | _ => (.between, s.2)
  | .abort => (.lost, s.2)

structure Reading (bits : List Bool) (rx : Rx) : Prop where
  read : lineBits rx.octets ++ rx.residue = bits
  bcc : rx.bcc = blockCheck rx.octets
  more : rx.octets = [] ∨ 8 < rx.residue.length
  short : rx.octets.length ≤ m + 1 + headerLength xsn

def Follows (s : Receiver) : Place × List (List UInt8) → Prop
  | (.lost, _) => True
  | (.hunting, out) => s.received = out ∧ s.mode = .hunt
  | (.between, out) => s.received = out ∧ s.mode = .sync
  | (.inside bits, out) => s.received = out ∧
      (s.mode = .mof ∧ Reading xsn m bits s.rx ∧ s.rx.residue.length ≤ 16 ∨
        s.mode = .hunt ∧ 8 * (m + 1 + headerLength xsn) + 16 < bits.length)

variable {xsn m}

theorem Reading.length {bits : List Bool} {rx : Rx}
    (reading : Reading xsn m bits rx) :
    8 * rx.octets.length + rx.residue.length = bits.length := by
  rw [← reading.read, List.length_append, length_lineBits]

theorem Reading.store {bits : List Bool} {rx : Rx}
    (reading : Reading xsn m bits rx) (many : 16 < rx.residue.length)
    (short : rx.octets.length < m + 1 + headerLength xsn) :
    Reading xsn m bits rx.store where
  read := by
    have octet : bitsOf (ofBits 8 (rx.residue.take 8)) = rx.residue.take 8 :=
      bitsOf_ofBits (by rw [List.length_take]; omega)
    rw [← reading.read, Rx.store, lineBits_append]
    simp [lineBits, octet, List.append_assoc]
  bcc := by simp [Rx.store, blockCheck, reading.bcc]
  more := by
    right
    rw [Rx.store, List.length_drop]
    omega
  short := by
    rw [Rx.store, List.length_append]
    exact short

theorem Reading.drain {bits : List Bool} {rx : Rx}
    (reading : Reading xsn m bits rx) :
    (∃ rx', rx.drain xsn m = some rx' ∧ Reading xsn m bits rx' ∧
        rx'.residue.length ≤ 16) ∨
      rx.drain xsn m = none ∧
        8 * (m + 1 + headerLength xsn) + 16 < bits.length := by
  have length := reading.length
  induction rx using Rx.drain.induct xsn m with
  | case1 rx many tooLong =>
      right
      rw [Rx.drain, if_pos many, if_pos tooLong]
      rw [frameTooLong, Rx.store, List.length_append, decide_eq_true_eq]
        at tooLong
      exact ⟨rfl, by simp at tooLong; omega⟩
  | case2 rx many fits ih =>
      rw [Rx.drain, if_pos many, if_neg fits]
      rw [frameTooLong, Rx.store, List.length_append, decide_eq_true_eq] at fits
      have stored := reading.store many (by simp at fits; omega)
      exact ih stored stored.length
  | case3 rx few =>
      rw [Rx.drain, if_neg few]
      exact .inl ⟨rx, rfl, reading, by omega⟩

theorem lineBits_octetsOf (bits : List Bool) :
    lineBits (octetsOf bits) = bits.take (8 * (bits.length / 8)) := by
  have chunks : ∀ n, 8 * n ≤ bits.length → lineBits ((List.range n).map fun i =>
      .ofBitVec (ofBits 8 ((bits.drop (8 * i)).take 8))) = bits.take (8 * n) := by
    intro n inside
    induction n with
    | zero => simp [lineBits]
    | succ n ih =>
        have octet : bitsOf (ofBits 8 ((bits.drop (8 * n)).take 8)) =
            (bits.drop (8 * n)).take 8 :=
          bitsOf_ofBits (by rw [List.length_take, List.length_drop]; omega)
        rw [List.range_succ, List.map_append, lineBits_append, ih (by omega),
          show 8 * (n + 1) = 8 * n + 8 by omega, List.take_add]
        simp [lineBits, octet]
  exact chunks _ (by omega)

theorem lineBits_injective : Function.Injective lineBits := by
  intro xs ys same
  have length := congrArg List.length same
  rw [length_lineBits, length_lineBits] at length
  induction xs generalizing ys with
  | nil => exact (List.eq_nil_of_length_eq_zero (by simpa using length.symm)).symm
  | cons x xs ih =>
      cases ys with
      | nil => cases length
      | cons y ys =>
          simp only [lineBits, List.flatMap_cons] at same
          obtain ⟨head, tail⟩ := List.append_inj same (by simp)
          rw [UInt8.toBitVec_inj.mp (bitsOf_injective head),
            ih tail (by simpa using length)]

theorem octetsOf_lineBits (octets : List UInt8) :
    octetsOf (lineBits octets) = octets :=
  lineBits_injective (by
    rw [lineBits_octetsOf, length_lineBits, Nat.mul_div_cancel_left _ (by omega),
      ← length_lineBits, List.take_length])

theorem judge_frame (octets : List UInt8) {check : List Bool}
    (sixteen : check.length = 16) :
    judge xsn m (lineBits octets ++ check) =
      if lengthOk xsn m octets ∧ blockCheck octets = ofBits 16 check then
        some octets else none := by
  have start : (lineBits octets ++ check).length - 16 =
      (lineBits octets).length := by
    rw [List.length_append]
    omega
  rw [judge, start, List.take_left, List.drop_left, octetsOf_lineBits]
  congr 1
  rw [List.length_append, length_lineBits, sixteen]
  simp

theorem Reading.judged {bits : List Bool} {rx : Rx}
    (reading : Reading xsn m bits rx) (few : rx.residue.length < 24) :
    judge xsn m bits =
      if rx.complete xsn then some rx.octets else none := by
  have length := reading.length
  by_cases sixteen : rx.residue.length = 16
  · have within : frameTooLong xsn m rx.octets.length = false := by
      rw [frameTooLong, decide_eq_false_iff_not]
      exact Nat.not_lt.mpr reading.short
    rw [← reading.read, judge_frame _ sixteen, Rx.complete, lengthOk, within,
      reading.bcc]
    congr 1
    simp [sixteen, and_comm, and_assoc]
  · have broken : ¬(bits.length % 8 = 0 ∧ 16 ≤ bits.length) := by
      rcases reading.more with none | more
      · rw [none] at length
        simp only [List.length_nil] at length
        omega
      · omega
    rw [judge, if_neg fun h => broken ⟨h.1, h.2.1⟩, Rx.complete]
    simp [sixteen]

theorem judge_long {bits : List Bool}
    (long : 8 * (m + 1 + headerLength xsn) + 16 < bits.length) :
    judge xsn m bits = none := by
  rw [judge, if_neg]
  rintro ⟨whole, -, ok, -⟩
  rw [lengthOk, frameTooLong, octetsOf, List.length_map, List.length_range,
    List.length_take] at ok
  simp only [Bool.and_eq_true, Bool.not_eq_true', decide_eq_false_iff_not] at ok
  omega

theorem take_flag_inside (bits : List Bool) (out : List (List UInt8)) :
    serialTake xsn m (.inside bits, out) .flag =
      if bits.length < 8 then (.lost, out)
      else (.between, out ++ (judge xsn m bits).toList) := rfl

theorem take_bits_inside (bits more : List Bool) (out : List (List UInt8)) :
    (more.map LineEvent.bit).foldl (serialTake xsn m) (.inside bits, out) =
      (.inside (bits ++ more), out) := by
  induction more generalizing bits with
  | nil => simp
  | cons bit more ih => simp [serialTake, ih]

theorem take_bits_between (bits : List Bool) (out : List (List UInt8)) :
    (bits.map LineEvent.bit).foldl (serialTake xsn m) (.between, out) =
      (if bits.length = 0 then .between else .inside bits, out) := by
  cases bits with
  | nil => rfl
  | cons bit bits => simp [serialTake, take_bits_inside]

theorem take_bits_stay {place : Place}
    (stays : ∀ bit out, serialTake xsn m (place, out) (.bit bit) = (place, out))
    (bits : List Bool) (out : List (List UInt8)) :
    (bits.map LineEvent.bit).foldl (serialTake xsn m) (place, out) =
      (place, out) := by
  induction bits with
  | nil => rfl
  | cons bit bits ih => rw [List.map_cons, List.foldl_cons, stays, ih]

theorem take_lost (events : List LineEvent) (out : List (List UInt8)) :
    events.foldl (serialTake xsn m) (.lost, out) = (.lost, out) := by
  induction events with
  | nil => rfl
  | cons event events ih => cases event <;> exact ih

theorem take_abort {events : List LineEvent} (abort : .abort ∈ events)
    (s : Place × List (List UInt8)) :
    (events.foldl (serialTake xsn m) s).1 = .lost := by
  obtain ⟨before, after, rfl⟩ := List.append_of_mem abort
  rw [List.foldl_append, List.foldl_cons, serialTake, take_lost]

theorem follows_of_lost {s : Receiver} {p : Place × List (List UInt8)}
    (lost : p.1 = .lost) : Follows xsn m s p := by
  obtain ⟨place, out⟩ := p
  cases lost
  trivial

theorem Follows.beginFrame {s : Receiver} {r : RxEntry}
    {out : List (List UInt8)} (follows : Follows xsn m s (.between, out))
    (short : r.bitString.length < 16) :
    Follows xsn m (s.beginFrame r)
      ((r.bitString.map LineEvent.bit).foldl (serialTake xsn m) (.between, out)) := by
  rw [take_bits_between, Receiver.beginFrame]
  split
  case isTrue none => exact follows
  case isFalse some =>
    refine ⟨follows.1, .inl ⟨rfl, ⟨?_, rfl, .inl rfl, Nat.zero_le _⟩, ?_⟩⟩
    · simp [lineBits]
    · exact Nat.le_of_lt short

/-- A flag, and the bits that follow it in its octet. -/
theorem Follows.newFrame {s : Receiver} {r : RxEntry}
    {out : List (List UInt8)} (received : s.received = out)
    (short : r.bitString.length < 16) :
    Follows xsn m (s.newFrame r) (((if r.sync then r.bitString else []).map
      LineEvent.bit).foldl (serialTake xsn m) (.between, out)) := by
  have between : Follows xsn m { s with mode := .sync } (.between, out) :=
    ⟨received, rfl⟩
  unfold Receiver.newFrame
  cases r.sync with
  | false => exact between
  | true => exact between.beginFrame short

theorem Reading.append {bits : List Bool} {rx : Rx}
    (reading : Reading xsn m bits rx) (more : List Bool) :
    Reading xsn m (bits ++ more) { rx with residue := rx.residue ++ more } where
  read := by rw [← reading.read, List.append_assoc]
  bcc := reading.bcc
  more := reading.more.imp_right fun more => by
    rw [List.length_append]
    omega
  short := reading.short

theorem Follows.bits {s : Receiver} {r : RxEntry}
    {p : Place × List (List UInt8)} (follows : Follows xsn m s p)
    (plain : r.flag = false ∧ r.sync = false ∧ r.hunt = false ∧ r.idle = false)
    (short : r.bitString.length < 16) :
    Follows xsn m (s.entry xsn m r)
      ((r.bitString.map LineEvent.bit).foldl (serialTake xsn m) p) := by
  obtain ⟨flag, sync, hunt, idle⟩ := plain
  obtain ⟨place, out⟩ := p
  cases place with
  | hunting =>
      rw [take_bits_stay fun _ _ => rfl]
      simpa [Receiver.entry, follows.2, flag] using follows
  | between =>
      have begun := follows.beginFrame short
      simpa [Receiver.entry, follows.2, hunt, idle] using begun
  | inside bits =>
      rw [take_bits_inside]
      obtain ⟨received, reads | tooLong⟩ := follows
      · obtain ⟨mode, reading, _⟩ := reads
        simp only [Receiver.entry, mode, flag, sync, hunt, idle,
          Bool.false_eq_true, if_false, Bool.or_self]
        rcases (reading.append r.bitString).drain with drained | long
        · obtain ⟨rx, eq, reading, few⟩ := drained
          simp only [eq]
          exact ⟨received, .inl ⟨rfl, reading, few⟩⟩
        · simp only [long.1]
          exact ⟨received, .inr ⟨rfl, long.2⟩⟩
      · refine ⟨by simpa [Receiver.entry, tooLong.1, flag] using received, .inr ?_⟩
        rw [List.length_append]
        exact ⟨by simp [Receiver.entry, tooLong.1, flag], by omega⟩
  | lost => exact follows_of_lost (by rw [take_lost])

/-- The bits of an octet fall before or behind its flag. -/
theorem Follows.flag {s : Receiver} {r : RxEntry}
    {p : Place × List (List UInt8)} (follows : Follows xsn m s p)
    (flag : r.flag = true ∧ r.hunt = false ∧ r.idle = false)
    (short : r.bitString.length < 16)
    (few : r.sync = false → r.bitString.length < 8) :
    Follows xsn m (s.entry xsn m r)
      (((if r.sync then r.bitString else []).map LineEvent.bit).foldl
        (serialTake xsn m) (serialTake xsn m
          (((if r.sync then [] else r.bitString).map LineEvent.bit).foldl
            (serialTake xsn m) p) .flag)) := by
  obtain ⟨flag, hunt, idle⟩ := flag
  obtain ⟨place, out⟩ := p
  cases place with
  | hunting =>
      rw [take_bits_stay (fun _ _ => rfl) (if r.sync then [] else r.bitString)]
      have renewed : Follows xsn m (s.newFrame r) _ :=
        Follows.newFrame follows.1 short
      simpa [Receiver.entry, follows.2, flag, serialTake] using renewed
  | between =>
      have begun := follows.beginFrame short
      simp only [Receiver.entry, follows.2, hunt, idle]
      cases sync : r.sync with
      | true => simpa [sync, serialTake] using begun
      | false =>
          rw [take_bits_between] at begun
          simp only [Bool.false_eq_true, if_false, take_bits_between]
          split at begun
          case isTrue none => simpa [none, serialTake] using begun
          case isFalse some =>
            exact follows_of_lost (by simp [some, serialTake, few sync])
  | inside bits =>
      rw [take_bits_inside]
      generalize behind : (if r.sync then [] else r.bitString) = before
      by_cases whole : (bits ++ before).length < 8
      · exact follows_of_lost (by rw [take_flag_inside, if_pos whole, take_lost])
      rw [take_flag_inside, if_neg whole]
      obtain ⟨received, reads | tooLong⟩ := follows
      · obtain ⟨mode, reading, small⟩ := reads
        have rest : before.length < 8 := by
          cases sync : r.sync <;> simp_all
        have appended : (if r.sync then s.rx
            else { s.rx with residue := s.rx.residue ++ r.bitString }) =
              { s.rx with residue := s.rx.residue ++ before } := by
          cases sync : r.sync <;> simp_all
        have judged := (reading.append before).judged (by
          rw [List.length_append]
          omega)
        simp only [Receiver.entry, mode, flag, if_true, appended]
        rw [judged]
        split
        · exact Follows.newFrame (by rw [← received]; rfl) short
        · exact Follows.newFrame (by rw [← received]; simp) short
      · have none : judge xsn m (bits ++ before) = none :=
          judge_long (by rw [List.length_append]; omega)
        rw [none]
        simp only [Receiver.entry, tooLong.1, flag, if_true]
        exact Follows.newFrame (by rw [← received]; simp) short
  | lost =>
      rw [take_lost]
      exact follows_of_lost (by rw [serialTake, take_lost])

theorem Follows.shown {s : Receiver} {r : RxEntry} {events : List LineEvent}
    {p : Place × List (List UInt8)} (follows : Follows xsn m s p)
    (shown : r.Shows events = true) :
    Follows xsn m (s.entry xsn m r) (events.foldl (serialTake xsn m) p) := by
  simp only [RxEntry.Shows, Bool.and_eq_true, Bool.not_eq_true',
    decide_eq_true_eq] at shown
  obtain ⟨⟨⟨hunt, idle⟩, short⟩, shape⟩ := shown
  cases flag : r.flag with
  | false =>
      simp only [flag, Bool.and_eq_true, Bool.not_eq_true', beq_iff_eq] at shape
      rw [shape.2]
      exact follows.bits ⟨flag, shape.1, hunt, idle⟩ short
  | true =>
      cases sync : r.sync with
      | true =>
          simp only [flag, sync, beq_iff_eq] at shape
          have flagged := follows.flag ⟨flag, hunt, idle⟩ short (by simp [sync])
          simpa [sync, shape] using flagged
      | false =>
          simp only [flag, sync, Bool.or_eq_true, Bool.and_eq_true, beq_iff_eq,
            decide_eq_true_eq] at shape
          rcases shape with one | two
          · have flagged := follows.flag ⟨flag, hunt, idle⟩ short fun _ => one.2
            simpa [sync, one.1] using flagged
          · have flagged := follows.flag ⟨flag, hunt, idle⟩ short
              fun _ => by simp [two.1]
            have again (p : Place × List (List UInt8)) :
                serialTake xsn m (serialTake xsn m p .flag) .flag =
                  serialTake xsn m p .flag := by
              obtain ⟨place, out⟩ := p
              cases place with
              | inside bits =>
                  rw [take_flag_inside]
                  split <;> rfl
              | _ => rfl
            rw [two.2]
            simpa [sync, two.1, again] using flagged

theorem Receiver.entry_state (s : Receiver) (r : RxEntry) :
    (s.entry xsn m r).state = s.state := by
  simp only [entry, newFrame, beginFrame]
  split
  · split_ifs <;> first | rfl | (split <;> rfl)
  · split_ifs <;> rfl
  · split_ifs <;> rfl

theorem Follows.octets (octets : List UInt8) {s : Receiver}
    {p : Place × List (List UInt8)} (known : s.state < 14)
    (follows : Follows xsn m s p) :
    Follows xsn m (octets.foldl (sdtRxOctet xsn m) s)
      ((serialBits s.state (lineBits octets)).2.foldl (serialTake xsn m) p) := by
  induction octets generalizing s p with
  | nil => exact follows
  | cons octet octets ih =>
      obtain ⟨state, below, shows⟩ := octet_shows known octet.toBitVec
      have next : (sdtRxOctet xsn m s octet).state =
          (serialBits s.state (bitsOf octet.toBitVec)).1 :=
        (Receiver.entry_state _ _).trans state
      have one : Follows xsn m (sdtRxOctet xsn m s octet)
          ((serialBits s.state (bitsOf octet.toBitVec)).2.foldl
            (serialTake xsn m) p) := by
        by_cases abort : .abort ∈ (serialBits s.state (bitsOf octet.toBitVec)).2
        · exact follows_of_lost (take_abort abort p)
        · have moved : Follows xsn m { s with
              state := (rxTableValue s.state octet.toBitVec).state } p := by
            obtain ⟨place, out⟩ := p
            cases place <;> exact follows
          exact moved.shown (shows abort)
      have rest := ih (next ▸ below) one
      rw [lineBits, List.flatMap_cons, serialBits_both, List.foldl_append, ← next]
      exact rest

/-- Octet by octet the receiver is where a bit-serial one is, which may have
given up. -/
theorem reception_serial (octets : List UInt8) :
    Follows xsn m (octets.foldl (sdtRxOctet xsn m) .fresh)
      ((serialBits 0 (lineBits octets)).2.foldl (serialTake xsn m)
        (.hunting, [])) :=
  Follows.octets octets (by decide) ⟨rfl, rfl⟩

def Place.pending (xsn : Bool) (m : Nat) : Place → List (List UInt8)
  | .inside bits => (judge xsn m bits).toList
  | _ => []

def Place.Whole : Place → Prop
  | .inside bits => 8 ≤ bits.length
  | .lost => False
  | _ => True

theorem Place.Whole.take_flag {place : Place} (whole : place.Whole)
    (out : List (List UInt8)) :
    serialTake xsn m (place, out) .flag =
      (.between, out ++ place.pending xsn m) := by
  cases place with
  | inside bits =>
      rw [take_flag_inside, if_neg (Nat.not_lt.mpr whole)]
      rfl
  | lost => exact whole.elim
  | _ => simp [serialTake, pending]

theorem take_flags {place : Place} (whole : place.Whole) (count : Nat)
    (out : List (List UInt8)) :
    (List.replicate (count + 1) LineEvent.flag).foldl (serialTake xsn m)
      (place, out) = (.between, out ++ place.pending xsn m) := by
  rw [List.replicate_succ, List.foldl_cons, whole.take_flag]
  induction count with
  | zero => rfl
  | succ count ih => exact ih

theorem take_turns (f : Flags) (turns : List (Option (List Bool)))
    (long : ∀ bits, some bits ∈ turns → 8 ≤ bits.length) {place : Place}
    (whole : place.Whole) (out : List (List UInt8)) :
    (turns.flatMap (turnEvents f) ++ [LineEvent.flag]).foldl (serialTake xsn m)
        (place, out) =
      (.between, out ++ place.pending xsn m ++
        turns.filterMap fun turn => turn.bind (judge xsn m)) := by
  induction turns generalizing place out with
  | nil => simpa using whole.take_flag out
  | cons turn turns ih =>
      have later (place : Place) (whole : place.Whole) (out : List (List UInt8)) :=
        ih (fun bits member => long bits (List.mem_cons_of_mem _ member)) whole out
      rw [List.flatMap_cons, List.append_assoc, List.foldl_append]
      cases turn with
      | none =>
          rw [turnEvents, List.foldl_cons, List.foldl_nil, whole.take_flag,
            later .between trivial]
          simp [Place.pending]
      | some bits =>
          have eight := long bits List.mem_cons_self
          have flags : List.replicate f.count LineEvent.flag =
              List.replicate (f.count - 1 + 1) .flag := by
            cases f <;> rfl
          have sent : (turnEvents f (some bits)).foldl (serialTake xsn m)
              (place, out) = (.inside bits, out ++ place.pending xsn m) := by
            rw [turnEvents, flags, List.foldl_append, take_flags whole,
              take_bits_between, if_neg (by omega)]
          rw [sent, later (.inside bits) eight]
          cases judged : judge xsn m bits <;> simp [Place.pending, judged]

/-- The octets of a line that ends in idle flags. -/
def lineOctets (f : Flags) (turns : List (Option (List Bool))) : List UInt8 :=
  octetsOf ((turns ++ [none, none]).flatMap (framed f))

/-- Between two octets no frame is under way. -/
def Receiver.Ready (s : Receiver) : Prop := s.state = 0 ∧ s.mode ≠ .mof

theorem received_turns (f : Flags) (turns : List (Option (List Bool)))
    (long : ∀ bits, some bits ∈ turns → 8 ≤ bits.length) {s : Receiver}
    (ready : s.Ready) :
    ((lineOctets f turns).foldl (sdtRxOctet xsn m) s).received =
      s.received ++ turns.filterMap fun turn => turn.bind (judge xsn m) := by
  have idle : Following 0 := by decide
  have line : (turns ++ [none, none]).flatMap (framed f) =
      turns.flatMap (framed f) ++ flagBits ++ flagBits := by
    simp [framed]
  have flag : flagBits.length = 8 := rfl
  obtain ⟨k, cut⟩ : ∃ k, lineBits (lineOctets f turns) =
      turns.flatMap (framed f) ++ flagBits ++ flagBits.take k := by
    rw [lineOctets, line, lineBits_octetsOf, List.take_append,
      List.take_of_length_le]
    · exact ⟨_, rfl⟩
    · simp only [List.length_append, flag]
      omega
  have starts : ∀ k < 8, (serialBits 0 (flagBits.take k)).2 = [] := by decide
  have behind : (serialBits 0 (flagBits.take k)).2 = [] ∨
      (serialBits 0 (flagBits.take k)).2 = [.flag] := by
    rcases Nat.lt_or_ge k 8 with inside | whole
    · exact .inl (starts k inside)
    · rw [List.take_of_length_le (flag.symm ▸ whole)]
      exact .inr (by decide)
  obtain ⟨place, whole, empty, begun⟩ : ∃ place : Place, place.Whole ∧
      place.pending xsn m = [] ∧ Follows xsn m s (place, s.received) := by
    cases mode : s.mode with
    | hunt => exact ⟨.hunting, trivial, rfl, rfl, mode⟩
    | sync => exact ⟨.between, trivial, rfl, rfl, mode⟩
    | mof => exact absurd mode ready.2
  have follows := Follows.octets (lineOctets f turns)
    (ready.1 ▸ (by decide : 0 < 14)) begun
  rw [ready.1, cut, serialBits_both, serialBits_framed f turns idle,
    List.foldl_append, show heldBack 0 = [] from rfl, List.map_nil,
    List.nil_append, take_turns f turns long whole, empty] at follows
  rcases behind with none | flag
  · rw [none] at follows
    simpa using follows.1
  · rw [flag] at follows
    simpa [Place.pending] using follows.1

theorem judge_checked (octets : List UInt8) (check : BitVec 16) :
    judge xsn m (lineBits (octets ++ bccOctets check)) =
      if lengthOk xsn m octets ∧ blockCheck octets = check then some octets
      else none := by
  have register : ofBits 16 (bitsOf check) = check :=
    bitsOf_injective (bitsOf_ofBits (length_bitsOf check))
  rw [lineBits_append, lineBits_bccOctets, judge_frame _ (length_bitsOf _),
    register]

theorem eight_le_frame (octets : List UInt8) (check : BitVec 16) :
    8 ≤ (lineBits (octets ++ bccOctets check)).length := by
  simp only [length_lineBits, List.length_append, bccOctets, List.length_cons,
    List.length_nil]
  omega

/-- A message with check octets as it stands between flags. -/
def checkedFrame (message : List UInt8 × BitVec 16) : List Bool :=
  lineBits (message.1 ++ bccOctets message.2)

theorem received_checked (f : Flags)
    (turns : List (Option (List UInt8 × BitVec 16))) {s : Receiver}
    (ready : s.Ready) :
    ((lineOctets f (turns.map (Option.map checkedFrame))).foldl
        (sdtRxOctet xsn m) s).received =
      s.received ++ ((turns.filterMap id).filter fun message =>
        lengthOk xsn m message.1 && decide (blockCheck message.1 = message.2)).map
          Prod.fst := by
  rw [received_turns f _ ?long ready]
  case long =>
    intro bits member
    obtain ⟨turn, -, eq⟩ := List.mem_map.mp member
    obtain ⟨message, -, rfl⟩ := Option.map_eq_some_iff.mp eq
    exact eight_le_frame _ _
  congr 1
  induction turns with
  | nil => rfl
  | cons turn turns ih =>
      cases turn with
      | none => exact ih
      | some message =>
          rw [List.map_cons, List.filterMap_cons, Option.map_some,
            Option.bind_some, checkedFrame, judge_checked]
          by_cases good : lengthOk xsn m message.1 = true ∧
              blockCheck message.1 = message.2
          · simp [good, ih]
          · have dropped : (lengthOk xsn m message.1 &&
                decide (blockCheck message.1 = message.2)) = false := by
              simpa using good
            simp [good, ih, dropped]

theorem ready_fresh : Receiver.fresh.Ready := ⟨rfl, by decide⟩

open Classical in
/-- Of messages with whatever check octets those are delivered whose length is
right and whose check octets are the remainder. -/
theorem line_accepts (xsn : Bool) (m : Nat) (f : Flags)
    (turns : List (Option (List UInt8 × BitVec 16))) :
    ((lineOctets f (turns.map (Option.map checkedFrame))).foldl
        (sdtRxOctet xsn m) .fresh).received =
      ((turns.filterMap id).filter fun message =>
        lengthOk xsn m message.1 = true ∧
          bitPoly (bitsOf message.2) = remainder message.1).map Prod.fst := by
  rw [received_checked f turns ready_fresh, show Receiver.fresh.received = [] from rfl,
    List.nil_append]
  congr 2
  funext message
  have agrees : bitPoly (bitsOf message.2) = remainder message.1 ↔
      blockCheck message.1 = message.2 := by
    rw [← toPoly_blockCheck]
    exact toPoly_injective.eq_iff.trans eq_comm
  simp [agrees]

theorem state_known (octets : List UInt8) {s : Receiver} (known : s.state < 14) :
    (octets.foldl (sdtRxOctet xsn m) s).state < 14 := by
  induction octets generalizing s with
  | nil => exact known
  | cons octet octets ih =>
      obtain ⟨state, below, -⟩ := octet_shows known octet.toBitVec
      refine ih ?_
      rw [sdtRxOctet, Receiver.entry_state, state]
      exact below

theorem Receiver.entry_flag (s : Receiver) {r : RxEntry}
    (flag : r.flag = true ∧ r.hunt = false ∧ r.idle = false)
    (none : r.bitString = []) : (s.entry xsn m r).mode = .sync := by
  have begun (s : Receiver) : s.beginFrame r = s := by simp [beginFrame, none]
  have fresh (s : Receiver) : (s.newFrame r).mode = .sync := by
    simp [newFrame, begun]
  cases mode : s.mode with
  | mof =>
      simp only [entry, mode, flag, if_true]
      split_ifs <;> exact fresh _
  | sync => simp [entry, mode, flag, begun]
  | hunt => simp [entry, mode, flag, fresh]

theorem ready_flags (s : Receiver) (known : s.state < 14) :
    ([0x7e, 0x7e].foldl (sdtRxOctet xsn m) s).Ready := by
  have flag : ∀ state < 14, (rxTableValue state 0x7e#8).state = 0 := by decide
  have first : (sdtRxOctet xsn m s 0x7e).state = 0 :=
    (Receiver.entry_state _ _).trans (flag s.state known)
  have second (s : Receiver) :
      (s.entry xsn m (rxTableValue 0 0x7e#8)).mode = .sync :=
    s.entry_flag (by decide) (by decide)
  rw [List.foldl_cons, List.foldl_cons, List.foldl_nil, sdtRxOctet, first]
  refine ⟨(Receiver.entry_state _ _).trans (flag 0 (by decide)), ?_⟩
  exact ne_of_eq_of_ne (second _) (by decide)

/-- Whatever octets come first, from two flags on nothing is lost or added. -/
theorem line_recovers (xsn : Bool) (m : Nat) (f : Flags) (noise : List UInt8)
    (turns : List (Option (List UInt8 × BitVec 16))) :
    ((noise ++ [0x7e, 0x7e] ++ lineOctets f (turns.map
        (Option.map checkedFrame))).foldl (sdtRxOctet xsn m) .fresh).received =
      ((noise ++ [0x7e, 0x7e]).foldl (sdtRxOctet xsn m) .fresh).received ++
        ((turns.filterMap id).filter fun message => lengthOk xsn m message.1 &&
          decide (blockCheck message.1 = message.2)).map Prod.fst := by
  rw [List.foldl_append]
  refine received_checked f turns ?_
  rw [List.foldl_append]
  exact ready_flags _ (state_known noise (by decide))

theorem lineOctets_sent (f : Flags) (turns : List (Option (List UInt8))) :
    octetsOf ((turns ++ [none, none]).flatMap (sdtTxTurn f)) =
      lineOctets f ((turns.map (Option.map fun message =>
        (message, blockCheck message))).map (Option.map checkedFrame)) := by
  have framing (turn : Option (List UInt8)) : sdtTxTurn f turn =
      framed f (turn.map fun message =>
        checkedFrame (message, blockCheck message)) := by
    cases turn with
    | none => rfl
    | some message => rw [sdtTxTurn, foldl_sdtTxBitstuff]; rfl
  rw [lineOctets, funext framing]
  simp [List.flatMap_map, Function.comp_def]

theorem received_sent (f : Flags) (turns : List (Option (List UInt8))) :
    ((octetsOf ((turns ++ [none, none]).flatMap (sdtTxTurn f))).foldl
        (sdtRxOctet xsn m) .fresh).received =
      (turns.filterMap id).filter (lengthOk xsn m) := by
  rw [lineOctets_sent, received_checked f _ ready_fresh,
    show Receiver.fresh.received = [] from rfl, List.nil_append]
  induction turns with
  | nil => rfl
  | cons turn turns ih =>
      cases turn with
      | none => exact ih
      | some message =>
          cases ok : lengthOk xsn m message <;>
            simpa [ok] using ih

theorem register_of_judged {bits : List Bool}
    (judged : judge xsn m bits ≠ none) :
    bits.foldl (serial 0x1021#16) 0x00ff#16 = 0#16 := by
  rw [judge] at judged
  split at judged
  case isFalse => exact absurd rfl judged
  case isTrue ok =>
    obtain ⟨whole, enough, -, check⟩ := ok
    have octets : lineBits (octetsOf (bits.take (bits.length - 16))) =
        bits.take (bits.length - 16) := by
      rw [lineBits_octetsOf, List.take_of_length_le (by rw [List.length_take]; omega)]
    have last : bitsOf (ofBits 16 (bits.drop (bits.length - 16))) =
        bits.drop (bits.length - 16) :=
      bitsOf_ofBits (by rw [List.length_drop]; omega)
    rw [blockCheck, foldl_bccUpdate, octets] at check
    conv => lhs; rw [← List.take_append_drop (bits.length - 16) bits]
    rw [List.foldl_append, check]
    conv => lhs; arg 3; rw [← last]
    rw [bitsOf, foldl_serial _ 16 _ _ fun i beyond =>
      BitVec.getLsbD_of_ge _ i beyond, BitVec.xor_self]
    decide

/-- Bits that come damaged within sixteen in a row are not delivered. -/
theorem burst_rejected (xsn : Bool) (m : Nat)
    {before bits bits' after : List Bool} {message : List UInt8}
    (judged : judge xsn m (before ++ bits ++ after) = some message)
    (length : bits.length = bits'.length) (short : bits.length ≤ 16)
    (damaged : bits ≠ bits') :
    judge xsn m (before ++ bits' ++ after) = none := by
  by_contra delivered
  have sent := register_of_judged (by rw [judged]; exact Option.some_ne_none _)
  have received := register_of_judged delivered
  exact damaged (foldl_serial_burst 0x1021#16 (by decide) 0x00ff#16 length short
    (sent.trans received.symm))

theorem burst_rejected_fisu :
    judge false 272 ([] ++ [true] ++ (checkedFrame ([0, 0, 0], 0xc6f3)).drop 1) = none :=
  @burst_rejected false 272 [] [false] [true] _ [0, 0, 0] (by decide +kernel)
    rfl (by decide) (by decide)

end OpenSS7.Sdt
