import Stowage.Service.Operations

/-!
Rehearsed collaborators: they write every call into the journal, answer from a script, and fail
where they are told to.
-/

namespace Stowage.Service

/-- The script of a rehearsal: the record and the snapshot that are answered, which calls fail and
how; and how many trace identifiers have been given out and handles not yet released. -/
structure Rehearsal where
  record : ContainerRecord
  data : ContainerData
  failure? : Call → Option Failure := fun _ => none
  traces : Nat := 0
  outstanding : Int := 0

namespace Rehearsal

/-- Change the state of a rehearsal. -/
def update (f : Rehearsal → Rehearsal) : Flow Rehearsal Unit :=
  Flow.ofStep fun s => (.ok (), { s with world := f s.world })

/-- A part of the script. -/
def ask {α : Type} (f : Rehearsal → α) : Flow Rehearsal α :=
  Flow.ofStep fun s => (.ok (f s.world), s)

/-- A call: written down, and failing if the script says so. -/
def perform (call : Call) : Flow Rehearsal Unit := do
  match (← ask failure?) call with
  | none => Flow.record (.called call false)
  | some f => do
    Flow.record (.called call true)
    throw f

/-- A call that has an answer. -/
def answer {α : Type} (call : Call) (f : Rehearsal → α) : Flow Rehearsal α := do
  perform call
  ask f

/-- The pool of nodes that is answered: one healthy node, under the name that was asked for. -/
def nodes (name : String) : NodePool := ⟨name, [⟨"n1", .healthy⟩]⟩

/-- The next trace identifier. -/
def nextTrace : Flow Rehearsal String := do
  update fun r => { r with traces := r.traces + 1 }
  ask fun r => "trace-" ++ Decimal.naturalText r.traces

end Rehearsal

open Rehearsal in
/-- The collaborators of a rehearsal. A handle is the key of its pipeline. -/
def rehearsed : Collaborators Rehearsal String where
  allocate type factor owner := answer (.allocate type factor owner) record
  notify event := perform (.notify event)
  deleteRecord id := perform (.deleteRecord id)
  getRecord id := answer (.getRecord id) record
  listRecords start count := answer (.listRecords start count) fun r => [r.record]
  queryNodes states scope pool := answer (.queryNodes states scope pool) fun _ => nodes pool
  replicate type factor pool := answer (.replicate type factor pool) fun r => r.record.pipeline
  closePlacement := perform .closePlacement
  acquire pipeline id := do
    perform (.acquire pipeline.key id)
    update fun r => { r with outstanding := r.outstanding + 1 }
    pure pipeline.key
  release key := do
    update fun r => { r with outstanding := r.outstanding - 1 }
    perform (.release key)
  closePool := pure ()
  createPipeline _ name members := perform (.createPipeline name members)
  createData _ id trace := perform (.createData id trace)
  closeData _ id trace := perform (.closeData id trace)
  readData _ id trace := answer (.readData id trace) data
  deleteData _ id force trace := perform (.deleteData id force trace)
  newTrace := nextTrace

end Stowage.Service
