import Mathlib.Algebra.Order.Ring.Nat
import Mathlib.Data.List.Basic

/-!
Combined message and data blocks: how the STREAMS scheduler hands them out and
takes them back.
-/

namespace OpenSS7.Mblk

abbrev Addr := Int

/-- A routine that releases a buffer: `freeb_skb`, or one of a caller of
`esballoc`. -/
inductive FreeFunc where
  | freebSkb
  | caller (text : Nat)
deriving DecidableEq

structure FreeRtn where
  freeFunc : Option FreeFunc
  freeArg : Nat
deriving DecidableEq

inductive Resource where
  | kmem (base : Addr) (size : Nat)
  | routine (freeFunc : FreeFunc) (freeArg : Nat)
deriving DecidableEq

/-- `struct mdbblock`. A data block goes by the number of the `mdbblock` that
embeds it, as the message block does, and `databuf` is where its buffer is. -/
structure Mdbblock where
  bCont : Option Nat
  bRptr : Addr
  bWptr : Addr
  bDatap : Option Nat
  dbFrtnp : Option FreeRtn
  dbBase : Addr
  dbRef : Nat
  dbType : Nat
  dbSize : Nat
  databuf : Addr
deriving DecidableEq

inductive Event where
  | out (md : Nat)
  | back (md : Nat)
  | took (db : Option Nat) (resource : Resource)
  | gave (db : Option Nat) (resource : Resource)
deriving DecidableEq

/-- What the memory cache answers to one `kmem_cache_alloc`: nothing, an object
it has just constructed, or one that was given back to it. -/
inductive Grant where
  | refused
  | constructed (databuf : Addr)
  | cached (md : Nat)
deriving DecidableEq

structure Heap where
  made : Nat
  blk : Nat → Mdbblock
  freemblk : List Nat
  cache : List Nat
  grants : List Grant
  log : List Event

structure Config where
  fastbuf : Nat
  l1CacheBytes : Nat

def MData : Nat := 0

namespace Heap

def modify (h : Heap) (i : Nat) (f : Mdbblock → Mdbblock) : Heap :=
  { h with blk := Function.update h.blk i (f (h.blk i)) }

def note (h : Heap) (event : Event) : Heap :=
  { h with log := event :: h.log }

def mdbblockCtor (md : Nat) (databuf : Addr) (fastbuf : Nat) : Mdbblock :=
  { bCont := none, bRptr := databuf, bWptr := databuf, bDatap := some md,
    dbFrtnp := none, dbBase := databuf, dbRef := 1, dbType := MData,
    dbSize := fastbuf, databuf := databuf }

def mdbblockAllocSlow (h : Heap) (cfg : Config) : Option Nat × Heap :=
  match h.grants with
  | [] => (none, h)
  | .refused :: rest => (none, { h with grants := rest })
  | .constructed databuf :: rest =>
      let object := mdbblockCtor h.made databuf cfg.fastbuf
      (some h.made,
        { h with
          made := h.made + 1
          blk := Function.update h.blk h.made object
          grants := rest
          log := .out h.made :: h.log })
  | .cached md :: rest =>
      if md ∈ h.cache then
        (some md,
          { h with
            cache := h.cache.erase md
            grants := rest
            log := .out md :: h.log })
      else (none, { h with grants := rest })

def mdbblockAlloc (h : Heap) (cfg : Config) : Option Nat × Heap :=
  match h.freemblk with
  | md :: rest =>
      (some md, { h with freemblk := rest, log := .out md :: h.log })
  | [] => h.mdbblockAllocSlow cfg

def mdbblockFree (h : Heap) (mp : Nat) : Heap :=
  let h := h.modify mp fun md =>
    { md with
      bCont := none
      bDatap := some mp
      dbFrtnp := none
      dbRef := 1
      dbType := MData }
  { h with freemblk := mp :: h.freemblk, log := .back mp :: h.log }

def freeblocks (h : Heap) : Heap :=
  { h with freemblk := [], cache := h.freemblk ++ h.cache }

end Heap

end OpenSS7.Mblk
