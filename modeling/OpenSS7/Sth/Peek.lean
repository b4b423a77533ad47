import OpenSS7.Sth.Retrieving

/-!
I_PEEK, and the getmsg that it is to predict.
-/

namespace OpenSS7.Sth

inductive Queued where
  | msg (mp : Message)
  | sig (first : List UInt8) (cont : List Block)
  | passfp (first : List UInt8) (cont : List Block)

namespace Queued

def blocks : Queued → List (Bool × List UInt8)
  | msg mp => mp.blocks.map fun b => (!b.isControl, b.data)
  | sig first cont | passfp first cont =>
      (false, first) :: cont.map fun b => (!b.isControl, b.data)

def high : Queued → Bool
  | msg mp => mp.isPcproto
  | _ => false

def octets (data : Bool) (b : Queued) : List UInt8 :=
  ((b.blocks.filter fun b => b.1 == data).map Prod.snd).flatten

end Queued

structure Report where
  hipri : Bool
  ctl : Option (List UInt8)
  dat : Option (List UInt8)
deriving DecidableEq

structure Piece where
  room : Int
  copied : Option (List UInt8)

def Piece.add (p : Piece) (data : List UInt8) : Piece :=
  if data = [] ∨ p.room ≤ 0 then p
  else
    ⟨p.room - min (data.length : Int) p.room,
      some (p.copied.getD [] ++ data.take p.room.toNat)⟩

/-- The loop of `__str_i_peek`. -/
def peekBlocks (bs : List (Bool × List UInt8)) (ctl dat : Piece) :
    Piece × Piece :=
  bs.foldl (fun s b =>
    if b.1 then (s.1, s.2.add b.2) else (s.1.add b.2, s.2)) (ctl, dat)

def peekBuf (maxlen : Int) : Piece := ⟨if maxlen < 0 then -1 else maxlen, none⟩

/-- `__str_i_peek`, and the queue that it leaves. -/
def strIPeek (hipri : Bool) (ctl dat : Int) (q : List Queued) :
    Option Report × List Queued :=
  match q with
  | [] => (none, q)
  | b :: _ =>
      if hipri = false ∨ b.high = true then
        let out := peekBlocks b.blocks (peekBuf ctl) (peekBuf dat)
        (some ⟨b.high, out.1.copied, out.2.copied⟩, q)
      else (none, q)

/-- The message that `strgetq` comes to: it passes signals on their way, and
stops at an M_PASSFP. -/
def target : List Queued → Option Message
  | [] => none
  | .msg mp :: _ => some mp
  | .sig _ _ :: q => target q
  | .passfp _ _ :: _ => none

/-- What `getmsg` returns unless it would block or fail. -/
def getmsg (hipri : Bool) (ctl dat : Int) (q : List Queued) : Option Report :=
  let flags := if hipri then GetFlags.msgHipri else .msgAny
  match target q with
  | none => none
  | some mp =>
      if Head.accepts flags 0 mp then
        let out := GetCall.parts ⟨flags, 0, ctl, dat, none, none⟩ mp
        some ⟨mp.isPcproto, out.1.copied, out.2.copied⟩
      else none

def PartFits (maxlen : Int) (part : List Block) (os : List UInt8) : Prop :=
  maxlen < 0 ∨ (part = [] ∧ (maxlen = 0 ∨ os = [])) ∨
    (part ≠ [] ∧ 0 < maxlen ∧ os ≠ [] ∧
      os.take maxlen.toNat = (octets part).take maxlen.toNat)

def Predicted (hipri : Bool) (ctl dat : Int) : List Queued → Prop
  | [] => True
  | b :: q =>
      if hipri = true ∧ b.high = false then
        ∀ mp ∈ target (b :: q), mp.isPcproto = false
      else ∃ mp ∈ target (b :: q), mp.isPcproto = b.high ∧
        PartFits ctl mp.ctl (b.octets false) ∧
        PartFits dat mp.dat (b.octets true)

theorem copyPart_take (room : Nat) (bs : List Block) :
    (copyPart none room bs).1 = (octets bs).take room := by
  induction bs generalizing room with
  | nil => simp [copyPart, octets]
  | cons b rest ih =>
      unfold copyPart
      rw [if_neg (Option.some_ne_none 0).symm]
      simp only [octets, List.flatMap_cons, List.take_append]
      split
      case isTrue short =>
        have none : room - b.data.length = 0 := by omega
        rw [none, List.take_zero, List.append_nil,
          Nat.min_eq_right (by omega)]
      case isFalse =>
        have whole : min b.data.length room = b.data.length := by omega
        rw [whole, List.take_of_length_le (by omega)]
        exact congrArg (b.data ++ ·) (ih _)

theorem getPart_copied (maxlen : Int) (band : Nat) (bs : List Block) :
    (getPart maxlen none band bs).copied =
      if bs ≠ [] ∧ 0 ≤ maxlen then some ((octets bs).take maxlen.toNat)
      else none := by
  unfold getPart
  cases bs with
  | nil => rfl
  | cons b rest =>
      simp only [ne_eq, reduceCtorEq, not_false_eq_true, true_and]
      split
      · exact congrArg some (copyPart_take maxlen.toNat (b :: rest))
      · rfl

theorem fold_copied (ds : List (List UInt8)) (p : Piece) :
    (ds.foldl Piece.add p).copied =
      if 0 < p.room ∧ ds.flatten ≠ [] then
        some (p.copied.getD [] ++ ds.flatten.take p.room.toNat)
      else p.copied := by
  induction ds generalizing p with
  | nil => simp
  | cons d ds ih =>
      rw [List.foldl_cons, ih, Piece.add, List.flatten_cons]
      split
      case isTrue nothing =>
        rcases nothing with rfl | full
        · rw [List.nil_append]
        · rw [if_neg (by omega), if_neg (by omega)]
      case isFalse some =>
        obtain ⟨data, room⟩ := not_or.mp some
        have nonempty : d ++ ds.flatten ≠ [] := by simp [data]
        rw [if_pos (c := 0 < p.room ∧ _) ⟨not_le.mp room, nonempty⟩,
          List.take_append]
        simp only [Option.getD_some]
        have left : (p.room - min (d.length : Int) p.room).toNat =
            p.room.toNat - d.length := by omega
        rw [left, List.append_assoc]
        split
        case isTrue => rfl
        case isFalse full =>
          have none : ds.flatten.take (p.room.toNat - d.length) = [] := by
            rcases not_and_or.mp full with short | empty
            · rw [show p.room.toNat - d.length = 0 by omega, List.take_zero]
            · rw [not_not.mp empty, List.take_nil]
          rw [none, List.append_nil]

theorem peekBlocks_copied (bs : List (Bool × List UInt8)) (ctl dat : Piece) :
    peekBlocks bs ctl dat =
      (((bs.filter fun b => b.1 == false).map Prod.snd).foldl Piece.add ctl,
        ((bs.filter fun b => b.1 == true).map Prod.snd).foldl Piece.add dat) := by
  unfold peekBlocks
  induction bs generalizing ctl dat with
  | nil => rfl
  | cons b bs ih =>
      obtain ⟨data, octets⟩ := b
      rw [List.foldl_cons]
      cases data with
      | false => exact ih _ _
      | true => exact ih _ _

theorem partFits_iff (maxlen : Int) (band : Nat) (part : List Block)
    (ds : List (List UInt8)) :
    (ds.foldl Piece.add (peekBuf maxlen)).copied =
        (getPart maxlen none band part).copied ↔
      PartFits maxlen part ds.flatten := by
  rw [fold_copied, getPart_copied]
  unfold peekBuf PartFits
  by_cases negative : maxlen < 0
  · rw [if_pos negative, if_neg (by simp), if_neg (by omega)]
    exact iff_of_true rfl (.inl negative)
  rw [if_neg negative]
  by_cases present : part = []
  · rw [if_neg (c := part ≠ [] ∧ _) (fun h => h.1 present)]
    by_cases reads : 0 < maxlen ∧ ds.flatten ≠ []
    · rw [if_pos reads]
      refine iff_of_false nofun ?_
      rintro (low | ⟨-, zero | empty⟩ | ⟨some, -⟩)
      · exact negative low
      · omega
      · exact reads.2 empty
      · exact some present
    · rw [if_neg reads]
      refine iff_of_true rfl (.inr (.inl ⟨present, ?_⟩))
      rcases not_and_or.mp reads with low | empty
      · exact .inl (by omega)
      · exact .inr (not_not.mp empty)
  · rw [if_pos (c := part ≠ [] ∧ _) ⟨present, not_lt.mp negative⟩]
    by_cases reads : 0 < maxlen ∧ ds.flatten ≠ []
    · rw [if_pos reads, Option.getD_none, List.nil_append, Option.some.injEq]
      constructor
      · exact fun same => .inr (.inr ⟨present, reads.1, reads.2, same⟩)
      · rintro (low | ⟨none, -⟩ | ⟨-, -, -, same⟩)
        · exact absurd low negative
        · exact absurd none present
        · exact same
    · rw [if_neg reads]
      refine iff_of_false nofun ?_
      rintro (low | ⟨none, -⟩ | ⟨-, some, octets, -⟩)
      · exact negative low
      · exact present none
      · exact reads ⟨some, octets⟩

theorem accepts_iff (hipri : Bool) (mp : Message) :
    Head.accepts (if hipri then .msgHipri else .msgAny) 0 mp =
      (!hipri || mp.isPcproto) := by
  unfold Head.accepts Message.isPcproto
  cases hipri <;> cases mp.first.dbType <;> rfl

/-- A peek leaves the queue alone, and tells what getmsg would return exactly
where the first message tells it. -/
theorem peek_predicts_iff (hipri : Bool) (ctl dat : Int) (q : List Queued) :
    strIPeek hipri ctl dat q = (getmsg hipri ctl dat q, q) ↔
      Predicted hipri ctl dat q := by
  cases q with
  | nil => exact iff_of_true rfl True.intro
  | cons b q =>
      unfold strIPeek Predicted getmsg
      simp only [accepts_iff]
      by_cases quiet : hipri = true ∧ b.high = false
      · obtain ⟨rfl, low⟩ := quiet
        rw [if_neg (by simp [low])]
        cases target (b :: q) with
        | none => simp [low]
        | some mp => simp [low]
      · have reports : hipri = false ∨ b.high = true := by
          cases hipri <;> simp_all
        rw [if_pos reports, if_neg quiet, peekBlocks_copied]
        cases target (b :: q) with
        | none => simp
        | some mp =>
            simp only [Option.mem_def, Option.some.injEq, exists_eq_left']
            unfold Queued.octets
            rw [← partFits_iff ctl mp.first.bBand, ← partFits_iff dat
              mp.first.bBand]
            by_cases accepted : (!hipri || mp.isPcproto) = true
            · rw [if_pos accepted, Prod.mk.injEq, Option.some.injEq,
                Report.mk.injEq, and_iff_left rfl]
              exact and_congr_left' eq_comm
            · rw [if_neg accepted]
              refine iff_of_false nofun fun fits => accepted ?_
              rcases reports with rfl | high
              · rfl
              · rw [fits.1, high, Bool.or_true]

theorem peek_not_predicting :
    ¬ ∀ (hipri : Bool) (ctl dat : Int) (q : List Queued),
      strIPeek hipri ctl dat q = (getmsg hipri ctl dat q, q) := by
  intro claim
  have same := congrArg Prod.fst (claim false 4 4
    [.msg ⟨⟨.mProto, 0, false, false, []⟩, []⟩])
  revert same
  decide

end OpenSS7.Sth
