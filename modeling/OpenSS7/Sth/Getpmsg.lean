import OpenSS7.Sth.Read

/-!
What `strgetpmsg_fast` copies out of a message, and what it puts back.
-/

namespace OpenSS7.Sth

/-- A call of `getpmsg`, with the `maxlen` of its two buffers and after how many
copies to each of them one fails. -/
structure GetCall where
  flags : GetFlags
  band : Nat
  ctl : Int
  dat : Int
  ctlFaults : Option Nat
  datFaults : Option Nat
deriving DecidableEq

structure Part where
  copied : Option (List UInt8)
  left : List Block
  fault : Bool
deriving DecidableEq

/-- One of the two loops that copy out: `room` is what the buffer still has. -/
def copyPart : Option Nat → Nat → List Block → List UInt8 × List Block × Bool
  | _, _, [] => ([], [], false)
  | faults, room, b :: rest =>
      if faults = some 0 then ([], b :: rest, true)
      else
        let dlen := min b.data.length room
        if dlen < b.data.length then
          (b.data.take dlen, { b with data := b.data.drop dlen } :: rest, false)
        else
          let later := copyPart (faults.map (· - 1)) (room - dlen) rest
          (b.data ++ later.1, later.2)

def restore (flags : Block) (band : Nat) : List Block → List Block
  | [] => []
  | b :: rest =>
      { b with
        msgmark := flags.msgmark
        msgdelim := flags.msgdelim
        bBand := band } :: rest

/-- One part of the message is copied out; a negative `maxlen` leaves it. -/
def getPart (maxlen : Int) (faults : Option Nat) (band : Nat) :
    List Block → Part
  | [] => ⟨none, [], false⟩
  | flags :: rest =>
      if 0 ≤ maxlen then
        let out := copyPart faults maxlen.toNat (flags :: rest)
        ⟨some out.1, restore flags band out.2.1, out.2.2⟩
      else ⟨none, restore flags band (flags :: rest), false⟩

def Block.isControl (b : Block) : Bool := decide (b.dbType ≠ .mData)

def GetCall.parts (call : GetCall) (mp : Message) : Part × Part :=
  (getPart call.ctl call.ctlFaults mp.first.bBand
      (mp.blocks.takeWhile Block.isControl),
    getPart call.dat call.datFaults mp.first.bBand
      (mp.blocks.dropWhile Block.isControl))

/-- What `getpmsg` returns: `MORECTL` and `MOREDATA`. -/
def GetCall.retval (call : GetCall) (mp : Message) : Bool × Bool :=
  let (ctl, dat) := call.parts mp
  (decide (ctl.left ≠ []), decide (dat.left ≠ []))

def GetCall.rest (call : GetCall) (mp : Message) : Option Message :=
  let (ctl, dat) := call.parts mp
  Message.ofBlocks (ctl.left ++ dat.left)

def partStop : Option Nat → Nat → List Block → Option Block
  | _, _, [] => none
  | faults, room, b :: rest =>
      if faults = some 0 ∨ room < b.data.length then some b
      else partStop (faults.map (· - 1)) (room - b.data.length) rest

def getStop (maxlen : Int) (faults : Option Nat) (bs : List Block) :
    Option Block :=
  if 0 ≤ maxlen then partStop faults maxlen.toNat bs else bs.head?

def GetCall.stop (call : GetCall) (mp : Message) : Option Block :=
  (getStop call.ctl call.ctlFaults
    (mp.blocks.takeWhile Block.isControl)).or
    (getStop call.dat call.datFaults (mp.blocks.dropWhile Block.isControl))

theorem copyPart_left (faults : Option Nat) (room : Nat) (bs : List Block) :
    ((copyPart faults room bs).2.1.head?.map Block.dbType) =
      (partStop faults room bs).map Block.dbType := by
  induction bs generalizing faults room with
  | nil => rfl
  | cons b rest ih =>
      unfold copyPart partStop
      by_cases fault : faults = some 0
      · rw [if_pos fault, if_pos (.inl fault)]
        rfl
      · rw [if_neg fault]
        simp only
        by_cases short : room < b.data.length
        · rw [if_pos (by omega), if_pos (.inr short)]
          rfl
        · have whole : min b.data.length room = b.data.length := by omega
          rw [if_neg (by omega), if_neg (not_or.mpr ⟨fault, short⟩), whole]
          exact ih _ _

theorem restore_head (flags : Block) (band : Nat) (bs : List Block) :
    (restore flags band bs).head?.map Block.dbType =
      bs.head?.map Block.dbType := by
  cases bs <;> rfl

theorem getPart_left (maxlen : Int) (faults : Option Nat) (band : Nat)
    (bs : List Block) :
    (getPart maxlen faults band bs).left.head?.map Block.dbType =
      (getStop maxlen faults bs).map Block.dbType := by
  unfold getPart getStop
  by_cases buffer : 0 ≤ maxlen
  · rw [if_pos buffer]
    cases bs with
    | nil => rfl
    | cons b rest =>
        simp only [if_pos buffer]
        rw [restore_head]
        exact copyPart_left faults maxlen.toNat (b :: rest)
  · rw [if_neg buffer]
    cases bs with
    | nil => rfl
    | cons b rest => simp only [if_neg buffer, restore_head]

theorem ofBlocks_dbType (bs : List Block) :
    (Message.ofBlocks bs).map (fun mp => mp.first.dbType) =
      bs.head?.map Block.dbType := by
  cases bs <;> rfl

theorem GetCall.rest_dbType (call : GetCall) (mp : Message) :
    (call.rest mp).map (fun left => left.first.dbType) =
      (call.stop mp).map Block.dbType := by
  unfold GetCall.rest GetCall.stop GetCall.parts
  simp only
  rw [ofBlocks_dbType, List.head?_append, Option.map_or, Option.map_or,
    getPart_left, getPart_left]

end OpenSS7.Sth
