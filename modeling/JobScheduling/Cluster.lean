import JobScheduling.Node.Pass

/-!
# Clusters

A `Cluster` is a number of nodes on one shared queue, at one time. It moves in steps: a
request to a node, a pass, the end of some work, the stop or loss of a node, or a change
of the clock. A step is over when the workers of the node that it concerns have nothing
left to do. `Cluster.run` takes one step after the other.

A node that did not start, or was lost, leaves its place empty.

Every execution is logged when it begins. The log tells which of several executions of
jobs with one id began first.
-/

set_option autoImplicit false

namespace JobScheduling

/-- The beginning of an execution: the node, the number of the ticket there, and the job. -/
structure Start where
  node : Nat
  ticket : Nat
  job : Job
  deriving DecidableEq, Repr

/-- Nodes on one shared queue with states of type `σ`. -/
structure Cluster (σ : Type) where
  now : Nat
  queue : σ
  nodes : List (Option Node)
  /-- Every execution that began, oldest first. -/
  starts : List Start := []

/-- What surrounds a cluster. -/
structure World (σ : Type) where
  /-- The calls on the shared queue at a time by a node. -/
  service : (now node : Nat) → SharedQueue σ
  /-- How work ends that is still going on when its node is stopped. -/
  lastly : Job → WorkEnd
  /-- The order in which a pass visits the held jobs. -/
  scan : Registry.Scan := id

namespace Cluster

/-- A step of a cluster. -/
inductive Step
  | submit (node : Nat) (job : Job)
  | cancel (node : Nat) (id : String) (credential : Option String)
  | status (node : Nat) (id : String) (credential : Option String)
  | reconcile (node : Nat)
  /-- Ends work for the job of an id, on any node or on one: that of the ticket named, or
  else the longest running one. -/
  | release (node : Option Nat) (id : String) (how : WorkEnd) (named : Option Nat := none)
  /-- The node is stopped, and the work that is still going on is ended. -/
  | shutDown (node : Nat)
  /-- The node is stopped, and the work that is still going on goes on. -/
  | halt (node : Nat)
  /-- The node is lost. -/
  | drop (node : Nat)
  | setClock (now : Nat)

/-- What a step answers. -/
inductive Answer
  | unit
  | status (status : Status)
  | flag (b : Bool)
  | instant (now : Nat)
  | refused (error : Error)
  | crashed (text : String)
  | noNode
  deriving DecidableEq, Repr

/-- The answer of a piece of a node's work. -/
def Answer.of {α : Type} (f : α → Answer) : Except Fault α → Answer
  | .ok a => f a
  | .error (.refused e) => .refused e
  | .error (.crashed text) => .crashed text

variable {σ : Type}

/-- The node of a number. -/
def node? (k : Nat) (c : Cluster σ) : Option Node := (c.nodes[k]?).join

/-- What the workers of a node tell the shared queue when a job begins: unless the node
claimed the job there, that it runs. The queue may refuse, but not crash. -/
def hook (service : SharedQueue σ) (n : Node) : Pool.Hook σ := fun job queue =>
  if n.settings.clustered then (true, queue)
  else
    match service.start job.id queue with
    | (.error (.crashed _), queue) => (false, queue)
    | (_, queue) => (true, queue)

/-- Lets the workers of a node act until they have nothing left to do. -/
def settle (service : SharedQueue σ) (site : Site σ) : Site σ :=
  let (pool, queue) := site.node.pool.settle (hook service site.node) site.queue
  { node := { site.node with pool }, queue }

/-- The beginnings of executions on a node that its pool counts beyond the first `n`. -/
def newStarts (k : Nat) (n : Nat) (pool : Pool) : List Start :=
  (pool.begun.drop n).filterMap fun ticket =>
    (pool.tickets[ticket]?).map fun t => { node := k, ticket, job := t.job }

/-- The cluster after the shared queue has been called: what happened to the nodes in the
meantime. -/
def heed (world : World σ) (c : Cluster σ) : Cluster σ :=
  { c with nodes := c.nodes.mapIdx fun k n =>
      n.map ((world.service c.now k).meanwhile c.queue) }

/-- The cluster after a node did something, before its workers act. -/
def put (world : World σ) (k : Nat) (site : Site σ) (c : Cluster σ) : Cluster σ :=
  heed world { c with queue := site.queue, nodes := c.nodes.set k (some site.node) }

/-- The cluster after the workers of a node have acted. -/
def letWork (world : World σ) (k : Nat) (c : Cluster σ) : Cluster σ :=
  match c.node? k with
  | none => c
  | some n =>
    let site := settle (world.service c.now k) { node := n, queue := c.queue }
    let starts := c.starts ++ newStarts k n.pool.begun.length site.node.pool
    { c.put world k site with starts }

/-- Lets a node work. -/
def act {α : Type} (world : World σ) (k : Nat) (work : Act σ α) (c : Cluster σ) :
    Option (Except Fault α × Cluster σ) :=
  (c.node? k).map fun n =>
    let (result, site) := work.run { node := n, queue := c.queue }
    (result, (c.put world k site).letWork world k)

/-- The work for a request to a node, as a step. -/
def request {α : Type} (world : World σ) (k : Nat) (answer : α → Answer) (work : Act σ α)
    (c : Cluster σ) : Answer × Cluster σ :=
  match c.act world k work with
  | none => (.noNode, c)
  | some (result, c) => (.of answer result, c)

/-- The execution of a job with an id that still goes on and began first, of those on a node
and under a ticket when these are named. -/
def runningFor? (node : Option Nat) (id : String) (named : Option Nat) (c : Cluster σ) :
    Option Start :=
  c.starts.find? fun start =>
    start.job.id == id && node.all (· == start.node) && named.all (· == start.ticket) &&
      (c.node? start.node).any fun n => n.pool.busy.contains start.ticket

/-- Takes one step. -/
def step (world : World σ) (c : Cluster σ) : Step → Answer × Cluster σ
  | .submit k job => c.request world k (fun _ => .unit) (Node.submit (world.service c.now k) job)
  | .cancel k id credential =>
    c.request world k (fun _ => .unit) (Node.cancel (world.service c.now k) id credential)
  | .status k id credential =>
    c.request world k .status (Node.status (world.service c.now k) id credential)
  | .reconcile k =>
    c.request world k (fun _ => .unit)
      (Node.reconcile (world.service c.now k) world.scan c.now)
  | .release node id how named =>
    match c.runningFor? node id named with
    | none => (.flag false, c)
    | some start =>
      let ended (n : Node) : Node := { n with pool := n.pool.endWork start.ticket how }
      let (_, c) := c.request world start.node (fun _ => .unit) (Act.change ended)
      (.flag true, c)
  | .shutDown k => c.request world k (fun _ => .flag true) (Act.change (·.stop world.lastly))
  | .halt k => c.request world k (fun _ => .flag true) (Act.change (·.shutDown))
  | .drop k =>
    if k < c.nodes.length then (.unit, { c with nodes := c.nodes.set k none })
    else (.noNode, c)
  | .setClock now => (.instant now, { c with now })

/-- Takes steps one after the other, and lists what they answered. -/
def run (world : World σ) : List Step → Cluster σ → List Answer × Cluster σ
  | [], c => ([], c)
  | s :: rest, c =>
    let (answer, c) := c.step world s
    let (answers, c) := run world rest c
    (answer :: answers, c)

/-- One pass on every node, as timers would make them. -/
def tick (world : World σ) (c : Cluster σ) : Cluster σ :=
  (List.range c.nodes.length).foldl (fun c k => (c.step world (.reconcile k)).2) c

/-- Passes on every node until the cluster satisfies a test, at most so many. -/
def await (world : World σ) (test : Cluster σ → Bool) : Nat → Cluster σ → Cluster σ
  | 0, c => c
  | n + 1, c => if test c then c else await world test n (c.tick world)

end Cluster

end JobScheduling
