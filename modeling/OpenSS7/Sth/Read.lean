import OpenSS7.Sth.Message

/-!
The loop with which `strread_fast` gathers messages, and the copying out of
what it has gathered.
-/

namespace OpenSS7.Sth

inductive RMode where
  | rnorm
  | rmsgd
  | rmsgn
deriving DecidableEq

inductive RProt where
  | rprotnorm
  | rprotdat
  | rprotdis
deriving DecidableEq

/-- The read options of a stream head and its flag `STRDELIM`. -/
structure ReadOpt where
  mode : RMode
  prot : RProt
  strdelim : Bool
deriving DecidableEq

namespace ReadOpt

/-- `(sd_rdopt & (RMSGN | RMSGD)) != 0`. -/
def messages (opt : ReadOpt) : Bool := decide (opt.mode ≠ .rnorm)

/-- `(sd_rdopt & RPROTDIS) != 0`. -/
def protdis (opt : ReadOpt) : Bool := decide (opt.prot = .rprotdis)

/-- Zero tells `strgetq` that only M_DATA will be accepted. -/
def getFlags (opt : ReadOpt) : GetFlags :=
  if opt.prot = .rprotnorm then .zero else .msgAny

end ReadOpt

def Block.content (protdis : Bool) (b : Block) : List UInt8 :=
  if protdis ∧ b.dbType ≠ .mData then [] else b.data

def strmsgcount (protdis : Bool) (mp : Message) : Nat :=
  (mp.blocks.map fun b => (b.content protdis).length).sum

def strlinkmsg (first : Option Message) (mp : Message) : Message :=
  match first with
  | none => mp
  | some first =>
      { first :=
          { first.first with
            msgmark := first.first.msgmark || mp.first.msgmark
            msgdelim := first.first.msgdelim || mp.first.msgdelim }
        cont := first.cont ++ mp.blocks }

structure Reading where
  first : Option Message
  xferd : Nat
deriving DecidableEq

inductive Verdict where
  | again (r : Reading)
  | stop (r : Reading)
  | putBack (mp : Message) (r : Reading)
deriving DecidableEq

namespace Reading

def stopsAfter (opt : ReadOpt) (mp : Message) : Bool :=
  if mp.first.dbType = .mData then
    if mp.first.msgmark then true
    else if mp.first.msgdelim || !opt.strdelim then opt.messages
    else false
  else opt.messages

def link (r : Reading) (mp : Message) (count : Nat) : Reading :=
  { first := some (strlinkmsg r.first mp), xferd := r.xferd + count }

def take (r : Reading) (opt : ReadOpt) (nbytes : Nat) (mp : Message) :
    Verdict :=
  let count := strmsgcount opt.protdis mp
  let stop := stopsAfter opt mp
  if mp.first.dbType = .mData ∧ count = 0 ∧ stop = false ∧ r.xferd ≠ 0 then
    -- terminal end of file, put it back
    .putBack mp r
  else if stop ∨ (mp.first.dbType = .mData ∧ count = 0) ∨
      nbytes ≤ r.xferd + count then
    .stop (r.link mp count)
  else .again (r.link mp count)

end Reading

/-- What `strmcopyout` leaves: the octets copied out, the blocks that are left
on the list, and whether a copy failed. -/
structure Copyout where
  copied : List UInt8
  left : List Block
  fault : Bool
deriving DecidableEq

def Copyout.after (octets : List UInt8) (c : Copyout) : Copyout :=
  { c with copied := octets ++ c.copied }

/-- `strmcopyout` to a buffer with room for `room` octets. The blocks that are
not left are freed. `faults` tells after how many copies one fails. -/
def strmcopyout (protdis : Bool) (faults : Option Nat) :
    Nat → List Block → Copyout
  | _, [] => ⟨[], [], false⟩
  | room, b :: rest =>
      if b.data = [] then strmcopyout protdis faults room rest
      else if protdis ∧ b.dbType ≠ .mData then
        strmcopyout protdis faults room rest
      else
        let dlen := min b.data.length room
        if 0 < dlen then
          if faults = some 0 then ⟨[], b :: rest, true⟩
          else if dlen < b.data.length then
            ⟨b.data.take dlen, { b with data := b.data.drop dlen } :: rest,
              false⟩
          else
            (strmcopyout protdis (faults.map (· - 1)) (room - dlen) rest).after
              (b.data.take dlen)
        else strmcopyout protdis faults room rest

inductive ReadErr where
  | zero
  | eagain
  | ebadmsg
deriving DecidableEq

namespace Head

/-- What `strwaitgetq` does about an empty queue: it gives up, or waits for a
message to arrive. -/
def waits (opt : ReadOpt) (nodelay first : Bool) : Bool :=
  !(nodelay || (decide (opt.mode = .rnorm) && !first))

/-- The loop of `strread_fast`; `none` when it waits. -/
def gather (opt : ReadOpt) (nbytes : Nat) (nodelay : Bool) :
    Nat → Head → Bool → Reading → Option (Reading × ReadErr × Head)
  | 0, _, _, _ => none
  | fuel + 1, h, once, r =>
      match h.strgetq opt.getFlags 0 with
      | (.empty, h) =>
          if waits opt nodelay once then none else some (r, .eagain, h)
      | (.ebadmsg, h) => some (r, .ebadmsg, h)
      | (.msg mp, h) =>
          match r.take opt nbytes mp with
          | .again r => gather opt nbytes nodelay fuel h false r
          | .stop r => some (r, .zero, h)
          | .putBack mp r => some (r, .zero, h.strputbq mp)

/-- The second half of `strread_fast`: the octets read, whether there was a
fault, and the stream head with what was not read put back. -/
def finish (h : Head) (opt : ReadOpt) (faults : Option Nat) (nbytes : Nat)
    (r : Reading) : List UInt8 × Bool × Head :=
  match r.first with
  | none => ([], false, h)
  | some first =>
      let c := strmcopyout opt.protdis faults nbytes first.blocks
      match Message.ofBlocks c.left with
      | none => (c.copied, c.fault, h)
      | some left =>
          if c.copied ≠ [] ∧ c.fault = false ∧ opt.mode = .rmsgd then
            (c.copied, c.fault, h)
          else (c.copied, c.fault, h.strputbq left)

/-- `strread_fast` for a positive number of octets, without faults: what it
reads, the error it returns when that is nothing, and the stream head
afterwards. -/
def strread (h : Head) (opt : ReadOpt) (nbytes : Nat) (nodelay : Bool) :
    Option (List UInt8 × ReadErr × Head) :=
  match gather opt nbytes nodelay (h.q.length + 1) h true ⟨none, 0⟩ with
  | none => none
  | some (r, err, h) =>
      let (copied, _, h) := h.finish opt none nbytes r
      some (copied, err, h)

end Head

end OpenSS7.Sth
