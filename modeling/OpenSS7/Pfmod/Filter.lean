import OpenSS7.Pfmod.Load

/-!
Packet filters: the words of a filter, what `pfmod_validate_filter` asks of
them, and `pfmod_filter` one half turn at a time, with every access to the
filter and to the stack checked.
-/

namespace OpenSS7.Pfmod

abbrev Word := BitVec 16

abbrev pfMaxfilters : Nat := 2047

section Encoding

@[match_pattern] abbrev enfNop : Nat := 0
@[match_pattern] abbrev enfEq : Nat := 1
@[match_pattern] abbrev enfLt : Nat := 2
@[match_pattern] abbrev enfLe : Nat := 3
@[match_pattern] abbrev enfGt : Nat := 4
@[match_pattern] abbrev enfGe : Nat := 5
@[match_pattern] abbrev enfAnd : Nat := 6
@[match_pattern] abbrev enfOr : Nat := 7
@[match_pattern] abbrev enfXor : Nat := 8
@[match_pattern] abbrev enfCor : Nat := 9
@[match_pattern] abbrev enfCand : Nat := 10
@[match_pattern] abbrev enfCnor : Nat := 11
@[match_pattern] abbrev enfCnand : Nat := 12
@[match_pattern] abbrev enfNeq : Nat := 13
@[match_pattern] abbrev enfSl : Nat := 14
@[match_pattern] abbrev enfSr : Nat := 15
@[match_pattern] abbrev enfAdd : Nat := 16
@[match_pattern] abbrev enfSub : Nat := 17
@[match_pattern] abbrev enfMul : Nat := 18
@[match_pattern] abbrev enfDiv : Nat := 19
@[match_pattern] abbrev enfRem : Nat := 20
@[match_pattern] abbrev enfSwap : Nat := 21

@[match_pattern] abbrev enfNopush : Nat := 0
@[match_pattern] abbrev enfPushlit : Nat := 1
@[match_pattern] abbrev enfPushzero : Nat := 2
@[match_pattern] abbrev enfPushone : Nat := 3
@[match_pattern] abbrev enfPushffff : Nat := 4
@[match_pattern] abbrev enfPushff00 : Nat := 5
@[match_pattern] abbrev enfPush00ff : Nat := 6
@[match_pattern] abbrev enfLoadOffset : Nat := 7
@[match_pattern] abbrev enfBrtr : Nat := 8
@[match_pattern] abbrev enfBrfl : Nat := 9
@[match_pattern] abbrev enfPop : Nat := 10
@[match_pattern] abbrev enfPushlen : Nat := 11
@[match_pattern] abbrev enfPushoffset : Nat := 12
@[match_pattern] abbrev enfPopoffset : Nat := 13
@[match_pattern] abbrev enfDup : Nat := 14
@[match_pattern] abbrev enfSpare : Nat := 15
@[match_pattern] abbrev enfPushword : Nat := 16

/-- `PF_CMD`: the ten low bits of a word. -/
def pfCmd (x : Word) : Nat := x.toNat % 2 ^ 10

/-- `PF_OP(x) >> ENF_NBPA`: the six high bits of a word. -/
def pfOp (x : Word) : Nat := x.toNat / 2 ^ 10

/-- `1 << cmd` kept in `width` bits; the machine takes the count of a 32 bit
shift modulo 32. -/
def shiftedOne (width cmd : Nat) : BitVec width :=
  BitVec.ofNat width (2 ^ (cmd % 32))

def enfLiterals : BitVec 16 :=
  shiftedOne 16 enfPushlit ||| shiftedOne 16 enfLoadOffset |||
    shiftedOne 16 enfBrtr ||| shiftedOne 16 enfBrfl

def enfPoppers : BitVec 16 :=
  shiftedOne 16 enfPop ||| shiftedOne 16 enfPopoffset

def enfConsumers : BitVec 32 :=
  shiftedOne 32 enfCor ||| shiftedOne 32 enfCnor |||
    shiftedOne 32 enfCand ||| shiftedOne 32 enfCnand

def takesLiteral (cmd : Nat) : Bool := shiftedOne 16 cmd &&& enfLiterals != 0

def popsStack (cmd : Nat) : Bool := shiftedOne 16 cmd &&& enfPoppers != 0

def consumes (op : Nat) : Bool := shiftedOne 32 op &&& enfConsumers != 0

end Encoding

section Validator

/-- `++s >= PF_MAXFILTERS` -/
def raiseDepth (s : Nat) : Option Nat :=
  if s + 1 ≥ pfMaxfilters then none else some (s + 1)

/-- `--s <= 1` -/
def lowerDepth (s : Nat) : Option Nat :=
  if s - 1 ≤ 1 then none else some (s - 1)

/-- The first `switch` of `pfmod_validate_filter`, at word `i`. -/
def validateCommand (len : Nat) (o : Word) (i s : Nat) : Option Nat :=
  match pfCmd o with
  | enfNopush => some s
  | enfPushlit | enfLoadOffset =>
      if i + 1 ≥ pfMaxfilters ∨ i + 1 ≥ len then none else raiseDepth s
  | enfBrtr | enfBrfl =>
      if i + o.toNat ≥ pfMaxfilters ∨ i + o.toNat > len then none else some s
  | enfPopoffset | enfPop => lowerDepth s
  | enfSpare => none
  | _ => raiseDepth s

/-- The second `switch` of `pfmod_validate_filter`. -/
def validateOperator (o : Word) (s : Nat) : Option Nat :=
  if pfOp o = enfNop then some s
  else do
    let s ← lowerDepth s
    let s ← lowerDepth s
    match pfOp o with
    | enfCor | enfCand | enfCnor | enfCnand => some s
    | enfSwap => do
        let s ← raiseDepth s
        raiseDepth s
    | enfEq | enfLt | enfLe | enfGt | enfGe | enfAnd | enfOr | enfXor
    | enfSl | enfSr | enfAdd | enfSub | enfMul | enfDiv | enfRem =>
        raiseDepth s
    | _ => none

def literalFollows (o : Word) : Bool :=
  pfCmd o == enfPushlit || pfCmd o == enfLoadOffset

/-- The loop of `pfmod_validate_filter` for the words from `i` on. -/
def validateFrom (len : Nat) : List Word → Nat → Nat → Bool
  | [], _, _ => true
  | o :: rest, i, s =>
      match validateCommand len o i s >>= validateOperator o with
      | none => false
      | some s =>
          if literalFollows o then
            match rest with
            | [] => true
            | _ :: rest => validateFrom len rest (i + 2) s
          else validateFrom len rest (i + 1) s

def pfmodValidateFilter (f : List Word) : Bool :=
  if f.length > pfMaxfilters then false else validateFrom f.length f 0 1

end Validator

/-- The local variables of `pfmod_filter`; a slot of the stack is `none` until
the run writes it, and `o` is the word whose operator is still to be done. -/
structure Locals where
  pi : Nat
  si : Nat
  z : Word
  s : Nat → Option Word
  o : Option Word

inductive Fault
  | index
  | unwritten
  | divide
  | word
  deriving DecidableEq

inductive Stop
  | ret (verdict : Word)
  | fault (why : Fault)
  deriving DecidableEq

abbrev Halting := Except Stop

def accept {α : Type} : Halting α := .error (.ret 1)

def reject {α : Type} : Halting α := .error (.ret 0)

def fault {α : Type} (why : Fault) : Halting α := .error (.fault why)

/-- `p[i]` -/
def fetch (f : List Word) (i : Nat) : Halting Word :=
  match f[i]? with
  | some o => .ok o
  | none => fault .word

namespace Locals

def start : Locals :=
  { pi := 0, si := 1, z := 0, s := fun i => if i = 0 then some 1 else none,
    o := none }

/-- `s[i]` -/
def read (st : Locals) (i : Nat) : Halting Word :=
  if i < pfMaxfilters then
    match st.s i with
    | some v => .ok v
    | none => fault .unwritten
  else fault .index

/-- `s[si - 1]` -/
def belowTop (st : Locals) : Halting Word :=
  if st.si = 0 then fault .index else st.read (st.si - 1)

/-- `s[i] = v` -/
def write (st : Locals) (i : Nat) (v : Word) : Halting Locals :=
  if i < pfMaxfilters then
    .ok { st with s := fun k => if k = i then some v else st.s k }
  else fault .index

end Locals

def msgsize (mp : List Block) : Nat := (mp.map List.length).sum

section Interpreter

variable (f : List Word) (mp : List Block)

/-- `if (mask & ENF_LITERALS) if (++pi >= len) goto eof;` -/
def stepOver (cmd : Nat) (st : Locals) : Halting Locals :=
  if takesLiteral cmd then
    let pi := (st.pi + 1) % 2 ^ 16
    if pi ≥ f.length then reject else .ok { st with pi := pi }
  else .ok st

/-- A popper lowers the stack, every other command but `ENF_LOAD_OFFSET`
claims a slot. -/
def moveTop (cmd : Nat) (st : Locals) : Halting Locals :=
  if popsStack cmd then
    if st.si = 0 then reject else .ok { st with si := st.si - 1 }
  else if cmd ≠ enfLoadOffset then
    let si := (st.si + 1) % 2 ^ 16
    if si > f.length then reject else .ok { st with si := si }
  else .ok st

/-- `pi += p[pi] - 1` -/
def branch (st : Locals) : Halting Locals := do
  let operand ← fetch f st.pi
  .ok { st with pi := (st.pi + operand.toNat + (2 ^ 16 - 1)) % 2 ^ 16 }

def pushed (cmd : Nat) (st : Locals) : Halting Word :=
  if cmd > enfDup then
    match pfPack mp (BitVec.ofNat 16 cmd - BitVec.ofNat 16 enfPushword) with
    | none => reject
    | some v => .ok v
  else match cmd with
    | enfPushlit => fetch f st.pi
    | enfPushzero => .ok 0x0000
    | enfPushone => .ok 0x0001
    | enfPushffff => .ok 0xffff
    | enfPushff00 => .ok 0xff00
    | enfPush00ff => .ok 0x00ff
    | enfPushlen => .ok (BitVec.ofNat 16 (msgsize mp))
    | enfPushoffset => .ok st.z
    | enfDup => st.belowTop
    | _ => reject

def perform (cmd : Nat) (st : Locals) : Halting Locals :=
  match cmd with
  | enfLoadOffset => do
      let z ← fetch f st.pi
      .ok { st with z := z }
  | enfBrtr => do
      let v ← st.read st.si
      if v ≠ 0 then branch f st else .ok st
  | enfBrfl => do
      let v ← st.read st.si
      if v = 0 then branch f st else .ok st
  | enfPop => .ok st
  | enfPopoffset => do
      let z ← st.read (st.si + 1)
      .ok { st with z := z }
  | _ => do
      let v ← pushed f mp cmd st
      st.write st.si v

def command (o : Word) (st : Locals) : Halting Locals :=
  if pfCmd o = enfNopush then .ok st
  else do
    let st ← stepOver f (pfCmd o) st
    let st ← moveTop f (pfCmd o) st
    perform f mp (pfCmd o) st

def truth (c : Bool) : Word := if c then 1 else 0

def result (op : Nat) (v1 v2 : Word) : Halting Word :=
  match op with
  | enfEq => .ok (truth (v1 = v2))
  | enfNeq => .ok (truth (v1 ≠ v2))
  | enfLt => .ok (truth (v1 < v2))
  | enfLe => .ok (truth (v1 ≤ v2))
  | enfGt => .ok (truth (v1 > v2))
  | enfGe => .ok (truth (v1 ≥ v2))
  | enfAnd => .ok (v1 &&& v2)
  | enfOr => .ok (v1 ||| v2)
  | enfXor => .ok (v1 ^^^ v2)
  | enfSl => .ok (v1 <<< (v2.toNat % 32))
  | enfSr => .ok (v1 >>> (v2.toNat % 32))
  | enfAdd => .ok (v1 + v2)
  | enfSub => .ok (v1 - v2)
  | enfMul => .ok (v1 * v2)
  | enfDiv => if v2 = 0 then fault .divide else .ok (v1 / v2)
  | enfRem => if v2 = 0 then fault .divide else .ok (v1 % v2)
  | _ => reject

def settle (op : Nat) (v1 v2 : Word) : Halting Unit :=
  match op with
  | enfCor => if v1 = v2 then accept else .ok ()
  | enfCand => if v1 ≠ v2 then reject else .ok ()
  | enfCnor => if v1 ≠ v2 then reject else .ok ()
  | enfCnand => if v1 = v2 then accept else .ok ()
  | _ => .ok ()

def operate (op : Nat) (st : Locals) : Halting Locals :=
  if op = enfNop then .ok st
  else do
    let v1 ← st.belowTop
    let v2 ← st.read st.si
    if st.si < 2 then reject
    else if op = enfSwap then do
      let st ← st.write st.si v1
      st.write (st.si - 1) v2
    else if consumes op then do
      settle op v1 v2
      .ok { st with si := st.si - 2 }
    else do
      let v ← result op v1 v2
      { st with si := st.si - 1 }.write (st.si - 1) v

def step (st : Locals) : Halting Locals :=
  match st.o with
  | some o => do
      let st ← operate (pfOp o) st
      .ok { st with pi := (st.pi + 1) % 2 ^ 16, o := none }
  | none =>
      if st.pi < f.length then do
        let o ← fetch f st.pi
        let st ← command f mp o st
        .ok { st with o := some o }
      else do
        let v ← st.read st.si
        .error (.ret v)

def run : Nat → Locals → Halting Locals
  | 0, st => .ok st
  | n + 1, st => do
      let st ← step f mp st
      run n st

def pfmodFilter : Halting Locals :=
  run f mp (2 * f.length + 1) .start

end Interpreter

end OpenSS7.Pfmod
