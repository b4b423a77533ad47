import Mathlib.Tactic.IntervalCases
import OpenSS7.Sdt.CheckSequence

/-!
Zero insertion by `tx_table` and zero deletion by `rx_table`, with a receiver
that takes the same line bit by bit.
-/

namespace OpenSS7.Sdt

open Crc

/-- `tx_table_valueN` for one bit: the state counts the ones sent in a row. -/
def txTableBit (tx : Nat × List Bool) (bit : Bool) : Nat × List Bool :=
  if bit then
    if tx.1 = 4 then (0, tx.2 ++ [true, false])
    else (tx.1 + 1, tx.2 ++ [true])
  else (0, tx.2 ++ [false])

def txTableValue (state : Nat) (octet : UInt8) : Nat × List Bool :=
  (bitsOf octet.toBitVec).foldl txTableBit (state, [])

/-- The state and the residue, with what has been drained of it. -/
def sdtTxBitstuff (tx : Nat × List Bool) (octet : UInt8) : Nat × List Bool :=
  let t := txTableValue tx.1 octet
  (t.1, tx.2 ++ t.2)

/-- `config.f` -/
inductive Flags where
  | one
  | shared
  | two
  | three
deriving DecidableEq

def flagBits : List Bool := bitsOf 0x7e#8

def Flags.opening : Flags → List Bool
  | .one => flagBits
  | .shared => bitsOf 0x3f7e#15
  | .two => bitsOf 0x7e7e#16
  | .three => bitsOf 0x7e7e7e#24

def Flags.count : Flags → Nat
  | .one => 1
  | .shared | .two => 2
  | .three => 3

/-- A turn of `sdt_tx_block`: an idle flag, or a message with its opening flags
and its check octets. -/
def sdtTxTurn (f : Flags) : Option (List UInt8) → List Bool
  | none => flagBits
  | some message =>
      f.opening ++ ((message ++ bccOctets (blockCheck message)).foldl
        sdtTxBitstuff (0, [])).2

def octetsOf (bits : List Bool) : List UInt8 :=
  (List.range (bits.length / 8)).map fun i =>
    .ofBitVec (ofBits 8 ((bits.drop (8 * i)).take 8))

structure RxEntry where
  state : Nat
  bitString : List Bool
  sync : Bool
  hunt : Bool
  flag : Bool
  idle : Bool

/-- The bits that a state of `rx_table` has seen and not put out: up to 7 those
of `0`, `01`, and so on, from 8 on those of `1`, `11`, and so on. -/
def heldBack (state : Nat) : List Bool :=
  if state = 0 then []
  else if state < 8 then false :: List.replicate (state - 1) true
  else List.replicate (state - 7) true

/-- `rx_table_valueN` for one bit. -/
def rxTableBit (r : RxEntry) (bit : Bool) : RxEntry :=
  match r.state with
  | 0 =>
      let r := if r.flag && !r.sync then { r with bitString := [], sync := true }
        else r
      { r with state := if bit then 8 else 1 }
  | 7 =>
      if bit then { r with sync := false, flag := false, hunt := true, state := 12 }
      else { r with
        sync := false, flag := true, hunt := false, idle := false, state := 0 }
  | 13 =>
      if bit then { r with
        hunt := true, sync := false, idle := true, flag := false, state := 12 }
      else { r with
        sync := false, hunt := false, idle := false, flag := true, state := 0 }
  | state =>
      if bit then { r with state := state + 1 }
      else { r with
        bitString := r.bitString ++ heldBack state
        state := if state = 6 ∨ state = 12 then 0 else 1 }

def rxTableValue (state : Nat) (octet : BitVec 8) : RxEntry :=
  (bitsOf octet).foldl rxTableBit ⟨state, [], false, false, false, false⟩

/-- What a receiver learns from a line that it takes bit by bit. -/
inductive LineEvent where
  | bit (value : Bool)
  | flag
  | abort
deriving DecidableEq

def serialBit (state : Nat) (bit : Bool) : Nat × List LineEvent :=
  match state with
  | 0 => (if bit then 8 else 1, [])
  | 7 | 13 => if bit then (12, [.abort]) else (0, [.flag])
  | state =>
      if bit then (state + 1, [])
      else (if state = 6 ∨ state = 12 then 0 else 1, (heldBack state).map .bit)

def serialBits (state : Nat) : List Bool → Nat × List LineEvent
  | [] => (state, [])
  | bit :: bits =>
      let first := serialBit state bit
      let rest := serialBits first.1 bits
      (rest.1, first.2 ++ rest.2)

theorem serialBits_append {state middle last : Nat} {xs ys : List Bool}
    {before after : List LineEvent} (first : serialBits state xs = (middle, before))
    (rest : serialBits middle ys = (last, after)) :
    serialBits state (xs ++ ys) = (last, before ++ after) := by
  induction xs generalizing state before with
  | nil =>
      obtain ⟨rfl, rfl⟩ := Prod.mk.inj first
      exact rest
  | cons x xs ih =>
      obtain ⟨rfl, rfl⟩ := Prod.mk.inj first
      rw [List.cons_append, serialBits, ih rfl, List.append_assoc]

theorem serialBits_both (state : Nat) (xs ys : List Bool) :
    serialBits state (xs ++ ys) =
      ((serialBits (serialBits state xs).1 ys).1,
        (serialBits state xs).2 ++ (serialBits (serialBits state xs).1 ys).2) :=
  serialBits_append rfl rfl

/-- The four shapes of what an octet brings: bits, a flag at its end after
fewer bits than an octet has, a flag and then bits, or two flags that share a
zero. -/
def RxEntry.Shows (r : RxEntry) (events : List LineEvent) : Bool :=
  !r.hunt && !r.idle && r.bitString.length < 16 &&
    match r.flag, r.sync with
    | false, sync => !sync && events == r.bitString.map .bit
    | true, true => events == .flag :: r.bitString.map .bit
    | true, false =>
        events == r.bitString.map .bit ++ [.flag] && r.bitString.length < 8 ||
          r.bitString == [] && events == [.flag, .flag]

theorem table_shows : ∀ state < 14, ∀ a b c d e f g h : Bool,
    let serial := serialBits state [a, b, c, d, e, f, g, h]
    let r := [a, b, c, d, e, f, g, h].foldl rxTableBit
      ⟨state, [], false, false, false, false⟩
    r.state = serial.1 ∧ serial.1 < 14 ∧
      (.abort ∉ serial.2 → r.Shows serial.2 = true) := by
  intro state known
  interval_cases state <;> decide +kernel

theorem octet_shows {state : Nat} (known : state < 14) (octet : BitVec 8) :
    (rxTableValue state octet).state = (serialBits state (bitsOf octet)).1 ∧
      (serialBits state (bitsOf octet)).1 < 14 ∧
      (.abort ∉ (serialBits state (bitsOf octet)).2 →
        (rxTableValue state octet).Shows (serialBits state (bitsOf octet)).2) :=
  table_shows state known _ _ _ _ _ _ _ _

/-- The count of ones in a row that `tx_table` is at when `rx_table` is at a
state. -/
def sentOnes (state : Nat) : Nat :=
  if state < 8 then state - 1 else state - 7

/-- The states between bits that are sent. -/
def Following (state : Nat) : Prop := state < 12 ∧ state ≠ 6 ∧ state ≠ 7

instance : DecidablePred Following := fun state =>
  inferInstanceAs (Decidable (state < 12 ∧ state ≠ 6 ∧ state ≠ 7))

theorem stuffed_bit : ∀ state < 12, Following state → ∀ bit : Bool,
    let tx := txTableBit (sentOnes state, []) bit
    let rx := serialBits state tx.2
    Following rx.1 ∧ sentOnes rx.1 = tx.1 ∧
      rx.2 ++ (heldBack rx.1).map .bit =
        (heldBack state).map .bit ++ [.bit bit] := by
  decide

theorem closing_flag : ∀ state < 12, Following state →
    serialBits state flagBits = (0, (heldBack state).map .bit ++ [.flag]) := by
  decide

theorem opening_flags (f : Flags) : ∃ more, f.opening = flagBits ++ more ∧
    serialBits 0 more = (0, List.replicate (f.count - 1) .flag) := by
  cases f with
  | one => exact ⟨[], by decide, by decide⟩
  | shared => exact ⟨Flags.shared.opening.drop 8, by decide, by decide⟩
  | two => exact ⟨flagBits, by decide, by decide⟩
  | three => exact ⟨flagBits ++ flagBits, by decide, by decide⟩

theorem foldl_txTableBit (bits : List Bool) (tx : Nat × List Bool) :
    bits.foldl txTableBit tx =
      ((bits.foldl txTableBit (tx.1, [])).1,
        tx.2 ++ (bits.foldl txTableBit (tx.1, [])).2) := by
  induction bits generalizing tx with
  | nil => simp
  | cons bit bits ih =>
      have first : txTableBit tx bit = ((txTableBit (tx.1, []) bit).1,
          tx.2 ++ (txTableBit (tx.1, []) bit).2) := by
        unfold txTableBit
        split_ifs <;> simp
      rw [List.foldl_cons, List.foldl_cons, ih, first,
        ih (txTableBit (tx.1, []) bit), List.append_assoc]

def stuff (bits : List Bool) : List Bool := (bits.foldl txTableBit (0, [])).2

theorem foldl_sdtTxBitstuff (octets : List UInt8) (tx : Nat × List Bool) :
    octets.foldl sdtTxBitstuff tx = (lineBits octets).foldl txTableBit tx := by
  induction octets generalizing tx with
  | nil => rfl
  | cons octet octets ih =>
      rw [List.foldl_cons, ih]
      unfold lineBits
      rw [List.flatMap_cons, List.foldl_append, foldl_txTableBit _ tx]
      rfl

theorem serialBits_stuffed (bits : List Bool) {state : Nat}
    (following : Following state) :
    let rx := serialBits state (bits.foldl txTableBit (sentOnes state, [])).2
    Following rx.1 ∧ rx.2 ++ (heldBack rx.1).map .bit =
      (heldBack state).map .bit ++ bits.map .bit := by
  induction bits generalizing state with
  | nil => exact ⟨following, by simp [serialBits]⟩
  | cons bit bits ih =>
      obtain ⟨next, ones, released⟩ :=
        stuffed_bit state following.1 following bit
      obtain ⟨last, rest⟩ := ih next
      rw [ones] at last rest
      rw [List.foldl_cons, foldl_txTableBit, serialBits_both]
      refine ⟨last, ?_⟩
      rw [List.append_assoc, rest, ← List.append_assoc, released,
        List.append_assoc]
      rfl

/-- A line of idle flags and of frames, each with its opening flags. -/
def framed (f : Flags) : Option (List Bool) → List Bool
  | none => flagBits
  | some bits => f.opening ++ stuff bits

/-- What a bit-serial receiver learns of a turn. -/
def turnEvents (f : Flags) : Option (List Bool) → List LineEvent
  | none => [.flag]
  | some bits => List.replicate f.count .flag ++ bits.map .bit

theorem serialBits_framed (f : Flags) (turns : List (Option (List Bool)))
    {state : Nat} (following : Following state) :
    serialBits state (turns.flatMap (framed f) ++ flagBits) =
      (0, (heldBack state).map .bit ++ turns.flatMap (turnEvents f) ++
        [.flag]) := by
  have idle : Following 0 := by decide
  have closed := closing_flag state following.1 following
  induction turns generalizing state with
  | nil => simpa using closed
  | cons turn turns ih =>
      cases turn with
      | none =>
          have all := serialBits_append closed
            (ih idle (closing_flag 0 idle.1 idle))
          simpa [framed, turnEvents, heldBack] using all
      | some bits =>
          obtain ⟨more, opening, others⟩ := opening_flags f
          obtain ⟨last, stuffed⟩ := serialBits_stuffed bits idle
          have all := serialBits_append closed (serialBits_append others
            (serialBits_append rfl (ih last (closing_flag _ last.1 last))))
          have count : List.replicate f.count LineEvent.flag =
              .flag :: List.replicate (f.count - 1) .flag := by
            cases f <;> rfl
          rw [List.flatMap_cons, framed, opening, stuff, List.flatMap_cons,
            turnEvents, count]
          simp only [List.append_assoc] at all ⊢
          refine all.trans ?_
          rw [← List.append_assoc (serialBits _ _).2, stuffed]
          simp [heldBack]

end OpenSS7.Sdt
