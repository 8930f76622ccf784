import Stowage.Session

/-!
The network as a rehearsed part of the world: the answers still to come, and which connections have
been opened and closed.

Answers are given in order; when none is left, requests are answered by an empty success.
-/

namespace Stowage.Http

/-- The network. -/
structure Network where
  answers : List Answer := []
  opened : Nat := 0
  closed : List Nat := []
  deriving Repr, Inhabited

namespace Network

variable {σ : Type}

/-- The answer to the next request, and the network after it. -/
def next (net : Network) : Answer × Network :=
  match net.answers with
  | [] => (.response .empty, net)
  | a :: r => (a, { net with answers := r })

/-- Open a connection; its number is returned. -/
def connect (slot : Slot σ Network) : Flow σ Nat := do
  let net ← Flow.look slot
  Flow.put slot { net with opened := net.opened + 1 }
  pure net.opened

/-- Close a connection, if it is open. -/
def disconnect (slot : Slot σ Network) (number : Nat) : Flow σ Unit := do
  let net ← Flow.look slot
  if net.closed.contains number then pure ()
  else do
    Flow.put slot { net with closed := number :: net.closed }
    Flow.record (.connectionClosed number)

/-- Send a request over its connection. -/
def send (slot : Slot σ Network) (request : Request) : Flow σ Answer := do
  let net ← Flow.look slot
  if net.closed.contains request.connection then
    throw (.fault .runtimeError
      (some (.text "Cannot send a request, as the client has been closed.")))
  else do
    let (answer, net) := net.next
    Flow.put slot net
    Flow.record (.request request)
    pure answer

end Network

end Stowage.Http
