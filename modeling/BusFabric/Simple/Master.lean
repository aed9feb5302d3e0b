import BusFabric.Simple.Link

set_option autoImplicit false

namespace BusFabric.Simple

structure Completion where
  request : Request
  response : Response
  cycle : Nat
  deriving DecidableEq

/-- The master's script and record. -/
structure Master where
  queue : List Request := []
  /-- The request that is being played. -/
  outstanding : Option Request := none
  completions : Array Completion := #[]
  deriving DecidableEq

namespace Master

def push (master : Master) (request : Request) : Master :=
  { master with queue := master.queue ++ [request] }

/-- Nothing is left to play and nothing is being played. -/
def isDone (master : Master) : Bool :=
  master.queue.isEmpty && master.outstanding.isNone

def observe (master : Master) (link : Link) (cycle : Nat) : Master × Link :=
  match link.response?, master.outstanding with
  | some response, some request =>
    ({ master with
        outstanding := none
        completions := master.completions.push ⟨request, response, cycle⟩ }, link.completed)
  | _, _ => (master, link.completed)

/-- Raises the next request, if none is outstanding and the link is free. -/
def raise (master : Master) (link : Link) : Master × Link :=
  match master.outstanding, master.queue with
  | none, request :: queue =>
    match link.issue? request with
    | some link => ({ master with outstanding := some request, queue }, link)
    | none => (master, link)
  | _, _ => (master, link)

def tick (master : Master) (link : Link) (cycle : Nat) : Master × Link :=
  let (master, link) := master.observe link cycle
  master.raise link

end Master

end BusFabric.Simple
