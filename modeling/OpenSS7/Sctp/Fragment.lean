import Mathlib.Algebra.Ring.Nat
import Mathlib.Data.List.Basic

/-!
User data in chains of message blocks, and how the head and the tail of a chain
are trimmed to cut a fragment from it.
-/

namespace OpenSS7.Sctp

/-- A message block: whether its type is `M_DATA`, and what lies between
`b_rptr` and `b_wptr`. -/
structure Block where
  data : Bool
  octets : List UInt8
deriving DecidableEq

namespace Block

def size (b : Block) : Nat := b.octets.length

def content (b : Block) : List UInt8 := if b.data then b.octets else []

def empty (b : Block) : Block := { b with octets := [] }

/-- `b_rptr += len` -/
def advance (b : Block) (len : Nat) : Block :=
  { b with octets := b.octets.drop len }

/-- `b_wptr = b_rptr + len` -/
def cut (b : Block) (len : Nat) : Block :=
  { b with octets := b.octets.take len }

end Block

def contents (chain : List Block) : List UInt8 := chain.flatMap Block.content

def msgdsize (chain : List Block) : Nat := (contents chain).length

def chainSize (chain : List Block) : Nat := (chain.map Block.size).sum

def trimhead : List Block → Nat → List Block × Nat
  | chain, 0 => (chain, 0)
  | [], len => ([], len)
  | b :: rest, len =>
      if b.data then
        if len < b.size then (b.advance len :: rest, 0)
        else
          let (rest, left) := trimhead rest (len - b.size)
          (b.empty :: rest, left)
      else
        let (rest, left) := trimhead rest len
        (b :: rest, left)

/-- The second loop of `trimtail`. -/
def emptied (chain : List Block) : List Block :=
  chain.map fun b => if b.data then b.empty else b

/-- The first loop of `trimtail` and, from where it ends, the second. -/
def trimtail : List Block → Nat → List Block × Nat
  | chain, 0 => (emptied chain, 0)
  | [], len => ([], len)
  | b :: rest, len =>
      if b.data then
        if len < b.size then (b.cut len :: emptied rest, 0)
        else
          -- a block in front of the cut is emptied as well
          let (rest, left) := trimtail rest (len - b.size)
          (b.empty :: rest, left)
      else
        let (rest, left) := trimtail rest len
        (b :: rest, left)

section Contents

variable {b : Block} {chain rest : List Block} {len : Nat}

theorem contents_cons (b : Block) (rest : List Block) :
    contents (b :: rest) = b.content ++ contents rest := rfl

theorem contents_append (first second : List Block) :
    contents (first ++ second) = contents first ++ contents second :=
  List.flatMap_append

theorem content_of_data (data : b.data = true) : b.content = b.octets :=
  if_pos data

theorem content_of_other (other : ¬b.data = true) : b.content = [] :=
  if_neg other

theorem content_empty (b : Block) : b.empty.content = [] := by
  unfold Block.content Block.empty
  split <;> rfl

theorem contents_emptied (chain : List Block) :
    contents (emptied chain) = [] := by
  induction chain with
  | nil => rfl
  | cons b rest ih =>
      unfold emptied at ih ⊢
      rw [List.map_cons, contents_cons, ih, List.append_nil]
      split
      next => exact content_empty b
      next other => exact content_of_other other

theorem trimhead_zero (chain : List Block) : trimhead chain 0 = (chain, 0) := by
  cases chain <;> rfl

theorem trimtail_zero (chain : List Block) :
    trimtail chain 0 = (emptied chain, 0) := by
  cases chain <;> rfl

theorem trimhead_spec (within : len ≤ msgdsize chain) :
    contents (trimhead chain len).1 = (contents chain).drop len ∧
      (trimhead chain len).2 = 0 := by
  induction chain generalizing len with
  | nil =>
      have none : len = 0 := Nat.le_zero.mp within
      rw [none, trimhead_zero]
      exact ⟨rfl, rfl⟩
  | cons b rest ih =>
      cases len with
      | zero => exact ⟨rfl, rfl⟩
      | succ n =>
          unfold msgdsize at within ih
          rw [contents_cons, List.length_append] at within
          rw [trimhead, contents_cons]
          · by_cases data : b.data = true
            · rw [content_of_data data] at within ⊢
              rw [if_pos data]
              by_cases inside : n + 1 < b.size
              · rw [if_pos inside]
                refine ⟨?_, rfl⟩
                dsimp only
                rw [contents_cons, content_of_data (b := b.advance _) data]
                exact (List.drop_append_of_le_length
                  (Nat.le_of_lt inside)).symm
              · rw [if_neg inside]
                unfold Block.size at inside ⊢
                obtain ⟨later, none⟩ := @ih (n + 1 - b.octets.length)
                  (by omega)
                have gone : b.octets.drop (n + 1) = [] :=
                  List.drop_eq_nil_of_le (by omega)
                refine ⟨?_, none⟩
                dsimp only
                rw [contents_cons, content_empty, List.nil_append, later,
                  List.drop_append, gone, List.nil_append]
            · rw [content_of_other data] at within ⊢
              rw [if_neg data]
              obtain ⟨later, none⟩ := @ih (n + 1)
                (by simpa using within)
              refine ⟨?_, none⟩
              dsimp only
              rw [contents_cons, content_of_other data, later]
              rfl
          · exact nofun

def Clears (len : Nat) : List Block → Prop
  | [] => False
  | b :: rest => if b.data ∧ 0 < b.size then len < b.size else Clears len rest

theorem trimtail_left (within : len ≤ msgdsize chain) :
    (trimtail chain len).2 = 0 := by
  induction chain generalizing len with
  | nil =>
      have none : len = 0 := Nat.le_zero.mp within
      rw [none, trimtail_zero]
  | cons b rest ih =>
      cases len with
      | zero => rfl
      | succ n =>
          unfold msgdsize at within ih
          rw [contents_cons, List.length_append] at within
          rw [trimtail]
          · by_cases data : b.data = true
            · rw [content_of_data data] at within
              rw [if_pos data]
              by_cases inside : n + 1 < b.size
              · rw [if_pos inside]
              · rw [if_neg inside]
                unfold Block.size
                exact ih (by omega)
            · rw [content_of_other data] at within
              rw [if_neg data]
              exact ih (by simpa using within)
          · exact nofun

theorem length_trimtail (chain : List Block) (len : Nat) :
    (contents (trimtail chain len).1).length ≤ len := by
  induction chain generalizing len with
  | nil =>
      cases len with
      | zero => exact Nat.le_refl 0
      | succ n => exact Nat.zero_le _
  | cons b rest ih =>
      cases len with
      | zero =>
          rw [trimtail_zero, contents_emptied]
          exact Nat.le_refl 0
      | succ n =>
          rw [trimtail]
          · by_cases data : b.data = true
            · rw [if_pos data]
              by_cases inside : n + 1 < b.size
              · rw [if_pos inside]
                dsimp only
                rw [contents_cons, contents_emptied, List.append_nil,
                  content_of_data (b := b.cut _) data]
                exact List.length_take_le _ _
              · rw [if_neg inside]
                dsimp only
                rw [contents_cons, content_empty, List.nil_append]
                exact Nat.le_trans (ih _) (Nat.sub_le _ _)
            · rw [if_neg data]
              dsimp only
              rw [contents_cons, content_of_other data, List.nil_append]
              exact ih _
          · exact nofun

theorem trimtail_of_clears (clears : Clears len chain) :
    contents (trimtail chain len).1 = (contents chain).take len := by
  induction chain with
  | nil => exact clears.elim
  | cons b rest ih =>
      cases len with
      | zero =>
          rw [trimtail_zero, contents_emptied]
          rfl
      | succ n =>
          unfold Clears at clears
          rw [trimtail, contents_cons]
          · by_cases data : b.data = true
            · rw [if_pos data, content_of_data data]
              by_cases inside : n + 1 < b.size
              · rw [if_pos inside]
                dsimp only
                rw [contents_cons, contents_emptied, List.append_nil,
                  content_of_data (b := b.cut _) data]
                exact (List.take_append_of_le_length
                  (Nat.le_of_lt inside)).symm
              · rw [if_neg inside]
                have none : b.octets = [] := by
                  by_contra some
                  rw [if_pos ⟨data, List.length_pos_of_ne_nil some⟩] at clears
                  exact inside clears
                rw [if_neg (by simp [Block.size, none])] at clears
                unfold Block.size
                dsimp only
                rw [contents_cons, content_empty, none]
                exact ih clears
            · rw [if_neg fun both => data both.1] at clears
              rw [if_neg data, content_of_other data]
              dsimp only
              rw [contents_cons, content_of_other data]
              exact ih clears
          · exact nofun

theorem contents_cut (within : len ≤ msgdsize chain)
    (clears : Clears len chain) :
    contents (trimtail chain len).1 ++ contents (trimhead chain len).1 =
      contents chain := by
  rw [trimtail_of_clears clears, (trimhead_spec within).1,
    List.take_append_drop]

theorem trimtail_of_not_clears (some : 0 < len)
    (clears : ¬Clears len chain) :
    (contents (trimtail chain len).1).length < len := by
  induction chain with
  | nil =>
      cases len with
      | zero => exact absurd some (Nat.lt_irrefl 0)
      | succ n => exact some
  | cons b rest ih =>
      cases len with
      | zero => exact absurd some (Nat.lt_irrefl 0)
      | succ n =>
          unfold Clears at clears
          rw [trimtail]
          · by_cases data : b.data = true
            · rw [if_pos data]
              by_cases filled : 0 < b.size
              · rw [if_pos ⟨data, filled⟩] at clears
                rw [if_neg clears]
                dsimp only
                rw [contents_cons, content_empty, List.nil_append]
                exact Nat.lt_of_le_of_lt (length_trimtail _ _)
                  (Nat.sub_lt some filled)
              · rw [if_neg fun both => filled both.2] at clears
                have zero : b.size = 0 := Nat.eq_zero_of_not_pos filled
                rw [zero, if_neg (Nat.not_lt_zero _)]
                dsimp only
                rw [contents_cons, content_empty, List.nil_append]
                exact ih clears
            · rw [if_neg fun both => data both.1] at clears
              rw [if_neg data]
              dsimp only
              rw [contents_cons, content_of_other data, List.nil_append]
              exact ih clears
          · exact nofun

end Contents

end OpenSS7.Sctp
