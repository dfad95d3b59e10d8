import JobScheduling.SharedQueue.Basic

/-!
# What a node does

An `Act σ α` is a piece of a node's work: it reads and changes the node and the shared
queue, and ends with a value, a refusal or a crash. Whatever was changed before a refusal
or a crash stays changed.
-/

set_option autoImplicit false

namespace JobScheduling

/-- A node together with the shared queue. -/
structure Site (σ : Type) where
  node : Node
  queue : σ

/-- A piece of a node's work. -/
abbrev Act (σ α : Type) := ExceptT Fault (StateM (Site σ)) α

namespace Act

variable {σ α : Type}

/-- Does the work. -/
def run (act : Act σ α) (site : Site σ) : Except Fault α × Site σ := act site

/-- The node as it is now. -/
def node : Act σ Node := fun site => (.ok site.node, site)

/-- Changes the node. -/
def change (f : Node → Node) : Act σ Unit := fun site =>
  (.ok (), { site with node := f site.node })

/-- Refuses to go on. -/
def refuse (error : Error) : Act σ α := fun site => (.error (.refused error), site)

/-- Makes a call on the shared queue. -/
def ask (service : SharedQueue σ) (call : Call σ α) : Act σ α := fun site =>
  let (answer, queue) := call site.queue
  (answer, { node := service.meanwhile queue site.node, queue })

/-- Does work whose refusal does not stop what follows. A crash does. -/
def attempt (act : Act σ α) : Act σ (Except Error α) := fun site =>
  match act site with
  | (.ok a, site) => (.ok (.ok a), site)
  | (.error (.refused e), site) => (.ok (.error e), site)
  | (.error (.crashed text), site) => (.error (.crashed text), site)

/-- Does work whose end does not matter. -/
def swallow (act : Act σ Unit) : Act σ Unit := fun site => (.ok (), (act site).2)

/-- Does work for each element of a list, one after the other. -/
def forEach {β : Type} (work : β → Act σ Unit) : List β → Act σ Unit
  | [] => pure ()
  | b :: rest => do
    work b
    forEach work rest

/-- Does work for each element of a list, one after the other, and lists what it gave. -/
def mapEach {β γ : Type} (work : β → Act σ γ) : List β → Act σ (List γ)
  | [] => pure []
  | b :: rest => do
    let c ← work b
    let cs ← mapEach work rest
    return c :: cs

end Act

end JobScheduling
