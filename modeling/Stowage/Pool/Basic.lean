import Stowage.Container.Pipeline

/-!
Pools of connections to pipelines, as states.

A pool keeps one handle for each pipeline key, in order of the last acquisition. A handle that is no
longer held stays cached as idle; when there are more idle handles than allowed, those that were
acquired the longest ago are dropped. A handle is bound to the leader that it was opened for: when
the pipeline comes with another leader a new handle takes its place, and the old one is dropped, at
once if it is idle and else with its last release, up to which it is retired.
-/

namespace Stowage

/-- A handle: its number in order of opening, the pipeline and the client it was opened for and
with, and the number of holders. -/
structure Handle (κ : Type) where
  number : Nat
  pipeline : Pipeline
  client : κ
  holders : Nat
  deriving Repr

namespace Handle

variable {κ : Type}

/-- The key under which a handle is cached. -/
def key (h : Handle κ) : String := h.pipeline.key

/-- Whether nobody holds the handle. -/
def isIdle (h : Handle κ) : Bool := h.holders == 0

/-- The handle with one more holder. -/
def hold (h : Handle κ) : Handle κ := { h with holders := h.holders + 1 }

/-- The handle with one holder less. -/
def letGo (h : Handle κ) : Handle κ := { h with holders := h.holders - 1 }

end Handle

/-- The state of a pool: the cached handles, the one acquired the longest ago first; the retired
ones; all that it has dropped, as they were then; and how many handles there have been. -/
structure Pool (κ : Type) where
  cached : List (Handle κ) := []
  retired : List (Handle κ) := []
  dropped : List (Handle κ) := []
  opened : Nat := 0
  deriving Repr, Inhabited

namespace Pool

variable {κ : Type}

/-- The handle that is cached under a key. -/
def find? (pool : Pool κ) (key : String) : Option (Handle κ) :=
  pool.cached.find? fun h => h.key == key

/-- The cached handles but the one under a key. -/
def others (pool : Pool κ) (key : String) : List (Handle κ) :=
  pool.cached.filter fun h => h.key != key

/-- The handle that is cached for a pipeline, bound to the leader that the pipeline has. -/
def current? (pool : Pool κ) (pipeline : Pipeline) : Option (Handle κ) :=
  (pool.find? pipeline.key).filter fun h => h.pipeline.leader == pipeline.leader

/-- Give a cached handle to one more holder. -/
def reuse (pool : Pool κ) (h : Handle κ) : Handle κ × Pool κ :=
  (h.hold, { pool with cached := pool.others h.key ++ [h.hold] })

/-- Take a new handle in for a pipeline and give it to its first holder. A handle that is cached
under the key makes way. -/
def enrol (pool : Pool κ) (pipeline : Pipeline) (client : κ) : Handle κ × Pool κ :=
  let new : Handle κ := ⟨pool.opened, pipeline, client, 1⟩
  let old := (pool.find? pipeline.key).toList
  (new, {
    cached := pool.others pipeline.key ++ [new]
    retired := pool.retired ++ old.filter fun h => !h.isIdle
    dropped := pool.dropped ++ old.filter Handle.isIdle
    opened := pool.opened + 1 })

/-- The first `excess` idle handles of a list, and the others. -/
def takeIdle : Nat → List (Handle κ) → List (Handle κ) × List (Handle κ)
  | 0, hs => ([], hs)
  | _ + 1, [] => ([], [])
  | excess + 1, h :: r =>
    if h.isIdle then
      let (idle, rest) := takeIdle excess r
      (h :: idle, rest)
    else
      let (idle, rest) := takeIdle (excess + 1) r
      (idle, h :: rest)

/-- Drop idle handles until there are no more than `maxIdle`. The handles dropped come first in the
answer. -/
def evict (pool : Pool κ) (maxIdle : Nat) : List (Handle κ) × Pool κ :=
  let excess := (pool.cached.filter Handle.isIdle).length - maxIdle
  let (idle, rest) := takeIdle excess pool.cached
  (idle, { pool with cached := rest, dropped := pool.dropped ++ idle })

/-- Take back one holding of a retired handle; it is dropped with its last holder. -/
def releaseRetired (pool : Pool κ) (h : Handle κ) : List (Handle κ) × Pool κ :=
  let rest := pool.retired.filter fun r => r.number != h.number
  if h.letGo.isIdle then
    ([h.letGo], { pool with retired := rest, dropped := pool.dropped ++ [h.letGo] })
  else
    ([], { pool with
      retired := pool.retired.map fun r => if r.number == h.number then h.letGo else r })

/-- Take back one holding of a cached handle. -/
def releaseCached (pool : Pool κ) (maxIdle : Nat) (h : Handle κ) : List (Handle κ) × Pool κ :=
  evict { pool with
    cached := pool.cached.map fun r => if r.number == h.number then h.letGo else r } maxIdle

/-- Take back one holding of the handle with a number. The handles that are dropped come with the
state after it; nothing happens when the handle is not held or no longer here. -/
def release? (pool : Pool κ) (maxIdle number : Nat) : Option (List (Handle κ) × Pool κ) :=
  let isMeant (h : Handle κ) : Bool := h.number == number && !h.isIdle
  match pool.retired.find? isMeant, pool.cached.find? isMeant with
  | some h, _ => some (pool.releaseRetired h)
  | none, some h => some (pool.releaseCached maxIdle h)
  | none, none => none

/-- Drop all handles, held or not. -/
def clear (pool : Pool κ) : List (Handle κ) × Pool κ :=
  let all := pool.cached ++ pool.retired
  (all, { pool with cached := [], retired := [], dropped := pool.dropped ++ all })

/-- All handles that there have been. -/
def handles (pool : Pool κ) : List (Handle κ) := pool.cached ++ pool.retired ++ pool.dropped

end Pool

end Stowage
