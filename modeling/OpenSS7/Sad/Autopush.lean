import Mathlib.Algebra.Order.Ring.Nat

namespace OpenSS7.Sad

def MAXAPUSH : Nat := 8

def FMNAMESZ : Nat := 8

inductive Errno where
  | einval | eexist | enosr | enodev | erange | enostr
  deriving DecidableEq

inductive SapCmd where
  | clear | one | range | all | clone
  | other (cmd : Int)
  deriving DecidableEq

structure Strapush where
  sapCmd : SapCmd
  sapMajor : Int
  sapMinor : Int
  sapLastminor : Int
  sapNpush : Nat
  sapList : List (List UInt8)
  sapModule : List UInt8
  deriving DecidableEq

structure Apinfo where
  apiSap : Strapush
  apiRefs : Nat
  deriving DecidableEq

def getmajor (ino : Int) : Int := ino / 2 ^ 16 % 2 ^ 16

def getminor (ino : Int) : Int := ino % 2 ^ 16

def makedevice (maj min : Int) : Int :=
  maj % 2 ^ 16 * 2 ^ 16 + min % 2 ^ 16

/-- A `long` given where a `minor_t` is expected. -/
def minorT (minor : Int) : Nat := (minor % 2 ^ 32).toNat

def Apinfo.covers (api : Apinfo) (minor : Nat) : Bool :=
  decide (api.apiSap.sapMinor ≤ minor ∧ minor ≤ api.apiSap.sapLastminor)

def autopushFind (apush : List Apinfo) (minor : Nat) : Option Apinfo :=
  match apush with
  | [] => none
  | api :: more =>
      if api.covers minor then some api else autopushFind more minor

/-- The walk of `__autopush_next`: `next` is `minor` until an entry above it
has been seen, and then begins the lowest one seen, `ani`. -/
def nextFrom (minor : Nat) :
    List Apinfo → Nat → Option Apinfo → Option Apinfo
  | [], _, ani => ani
  | api :: more, next, ani =>
      if api.covers minor then some api
      else if next = minor then
        if api.apiSap.sapMinor > minor then
          nextFrom minor more (minorT api.apiSap.sapMinor) (some api)
        else nextFrom minor more next ani
      else if api.apiSap.sapMinor > minor ∧ api.apiSap.sapMinor < next then
        nextFrom minor more (minorT api.apiSap.sapMinor) (some api)
      else nextFrom minor more next ani

def autopushNext (apush : List Apinfo) (minor : Nat) : Option Apinfo :=
  nextFrom minor apush minor none

def apAlloc (memory : Bool) (sap : Strapush) : Option Apinfo :=
  if memory then some ⟨sap, 1⟩ else none

def apGet (api : Apinfo) : Apinfo :=
  { api with apiRefs := api.apiRefs + 1 }

def apPut (api : Apinfo) : Option Apinfo :=
  if api.apiRefs - 1 = 0 then none
  else some { api with apiRefs := api.apiRefs - 1 }

def atEntry (found : Apinfo) (work : Apinfo → Option Apinfo) :
    List Apinfo → List Apinfo
  | [] => []
  | api :: more =>
      if api = found then (work api).toList ++ more
      else api :: atEntry found work more

def addTo (memory : Bool) (sap : Strapush) (apush : List Apinfo) :
    Except Errno (List Apinfo) :=
  match autopushFind apush (minorT sap.sapMinor) with
  | some _ => .error .eexist
  | none =>
      match apAlloc memory sap with
      | none => .error .enosr
      | some api => .ok (apush ++ [api])

def delFrom (sap : Strapush) (apush : List Apinfo) :
    Except Errno (List Apinfo) :=
  match autopushFind apush (minorT sap.sapMinor) with
  | none => .error .enodev
  | some api =>
      if sap.sapMinor ≠ api.apiSap.sapMinor then .error .erange
      else .ok (atEntry api apPut apush)

structure Registry (δ : Type) where
  sdevGet : Int → Option δ
  cdevFind : List UInt8 → Option δ
  dMajor : δ → Int

inductive Answer where
  | done
  | error (errno : Errno)
  | oops
  deriving DecidableEq

def unnamed (sap : Strapush) : Bool := sap.sapModule.headD 0 == 0

def strnlen (octets : List UInt8) (size : Nat) : Nat :=
  ((octets.take size).takeWhile (· != 0)).length

def ranged (sap : Strapush) : Except Errno Strapush :=
  match sap.sapCmd with
  | .one => .ok { sap with sapLastminor := sap.sapMinor }
  | .clone => .ok { sap with sapLastminor := sap.sapMinor }
  | .range =>
      if sap.sapLastminor ≤ sap.sapMinor then .error .erange else .ok sap
  | .all =>
      .ok { sap with
        sapMinor := 0, sapLastminor := getminor (makedevice 0 (-1)) }
  | .clear => .error .einval
  | .other _ => .error .einval

def badMajor (sap : Strapush) : Prop :=
  unnamed sap ∧ (sap.sapMajor = 0 ∨
    sap.sapMajor ≠ getmajor (makedevice sap.sapMajor 0))

def badMinor (sap : Strapush) : Prop :=
  sap.sapMinor ≠ getminor (makedevice 0 sap.sapMinor)

instance (sap : Strapush) : Decidable (badMajor sap) :=
  inferInstanceAs (Decidable (_ ∧ _))

instance (sap : Strapush) : Decidable (badMinor sap) :=
  inferInstanceAs (Decidable (_ ≠ _))

def wellNamed (name : List UInt8) : Bool :=
  strnlen name (FMNAMESZ + 1) != 0 &&
    strnlen name (FMNAMESZ + 1) != FMNAMESZ + 1

/-- The checks of `autopush_add` and the entry they leave. -/
def checked (sap : Strapush) : Except Errno Strapush := do
  let sap ← ranged sap
  if badMajor sap then throw .einval
  if badMinor sap then throw .einval
  if 1 > sap.sapNpush ∨ sap.sapNpush > MAXAPUSH then throw .einval
  if (List.range sap.sapNpush).all fun k => wellNamed (sap.sapList.getD k [])
  then return sap
  else throw .einval

variable {δ : Type} [DecidableEq δ]

abbrev Lists (δ : Type) := δ → List Apinfo

def Lists.settle (lists : Lists δ) (cdev : δ) :
    Except Errno (List Apinfo) → Answer × Lists δ
  | .error errno => (.error errno, lists)
  | .ok apush => (.done, Function.update lists cdev apush)

def autopushAdd (registry : Registry δ) (memory : Bool) (sap : Strapush)
    (lists : Lists δ) : Answer × Lists δ :=
  match checked sap with
  | .error errno => (.error errno, lists)
  | .ok sap =>
      if unnamed sap then
        match registry.sdevGet sap.sapMajor with
        | none => (.error .enostr, lists)
        | some cdev => lists.settle cdev (addTo memory sap (lists cdev))
      else
        match registry.cdevFind sap.sapModule with
        -- the major number is read from the device before it is looked at
        | none => (.oops, lists)
        | some cdev =>
            lists.settle cdev
              (addTo memory { sap with sapMajor := registry.dMajor cdev }
                (lists cdev))

def autopushDel (registry : Registry δ) (sap : Strapush)
    (lists : Lists δ) : Answer × Lists δ :=
  if badMajor sap then (.error .einval, lists)
  else if badMinor sap then (.error .einval, lists)
  else
    match if unnamed sap then registry.sdevGet sap.sapMajor
      else registry.cdevFind sap.sapModule with
    | none => (.error .enodev, lists)
    | some cdev => lists.settle cdev (delFrom sap (lists cdev))

/-- The answer to `SAD_LAP`: the entry is held only while it is copied. -/
def apushLst (apush : List Apinfo) (minor : Int) : Except Errno Apinfo :=
  if minor ≠ getminor (makedevice 0 minor) then .error .einval
  else
    match autopushNext apush (minorT minor) with
    | none => .error .enodev
    | some api => .ok api

/-- What is asked of the lists: the two requests that change their entries,
and the searches of `autopush_find` and `autopush_next`, which leave
references to what they find (the second one leaves two). -/
inductive Request (δ : Type) where
  | add (registry : Registry δ) (memory : Bool) (sap : Strapush)
  | del (registry : Registry δ) (sap : Strapush)
  | find (cdev : δ) (minor : Nat)
  | next (cdev : δ) (minor : Nat)

def Lists.held (lists : Lists δ) (cdev : δ) (found : Option Apinfo)
    (hold : Apinfo → Option Apinfo) : Lists δ :=
  match found with
  | none => lists
  | some api =>
      Function.update lists cdev (atEntry api hold (lists cdev))

def Lists.step (lists : Lists δ) : Request δ → Lists δ
  | .add registry memory sap => (autopushAdd registry memory sap lists).2
  | .del registry sap => (autopushDel registry sap lists).2
  | .find cdev minor =>
      lists.held cdev (autopushFind (lists cdev) minor)
        (fun api => some (apGet api))
  | .next cdev minor =>
      lists.held cdev (autopushNext (lists cdev) minor)
        (fun api => some (apGet (apGet api)))

end OpenSS7.Sad
