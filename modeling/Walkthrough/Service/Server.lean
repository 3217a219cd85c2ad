import Walkthrough.Service.Session

/-! # Many connections

A service answers any number of connections at once, each on its own, all with the same state and
the same files.  A step lets one of them read its next line, write the text of its next answer or
write the newline behind it; the connection that has answered a request for a shutdown then stops
the server, and with it all others, wherever they are.

* `Connection.step?` is what a connection does next, by itself;
* `Server.step?` lets one connection of a server go on, unless the server has stopped;
* `Server.Run` is a run with any schedule of the connections.  A connection that is opened later is
  one that the schedule leaves alone at first. -/

namespace Walkthrough

/-- Where a connection stands. -/
inductive Stage where
  /-- it reads its next line -/
  | reading
  /-- it writes the text of an answer, to a request for a shutdown or not -/
  | answering (r : Response) (shutdown : Bool)
  /-- it writes the newline behind an answer -/
  | closing (shutdown : Bool)
  /-- it reads and writes no more -/
  | ended (how : SessionEnd)

/-- A connection: what it has not read yet, what it has written, and where it stands. -/
structure Connection where
  unread : List UInt8
  written : List UInt8
  stage : Stage

/-- Where a connection stands after a line that leads to this. -/
def LineOutcome.stage : LineOutcome → Stage
  | silent => .reading
  | answer r => .answering r false
  | farewell r => .answering r true
  | broken => .ended .broken

namespace Connection

/-- A connection over which a stream comes in. -/
def opened (bytes : List UInt8) : Connection := ⟨bytes, [], .reading⟩

/-- The next step of a connection, unless it has ended. -/
def step? (s : Service) (files : Store) (c : Connection) : Option Connection :=
  match c.stage with
  | .reading =>
    match readLine? c.unread with
    | none => some { c with stage := .ended .exhausted }
    | some (line, rest) => some { c with unread := rest, stage := (s.line files line).stage }
  | .answering r shutdown =>
    some { c with written := c.written ++ Text.encode r.line.toList, stage := .closing shutdown }
  | .closing shutdown =>
    some { c with
      written := c.written ++ [newlineByte]
      stage := if shutdown then .ended .shutdown else .reading }
  | .ended _ => none

/-- Has the connection ended with a request for a shutdown? -/
def isStopping (c : Connection) : Bool :=
  match c.stage with
  | .ended .shutdown => true
  | _ => false

end Connection

/-- A server with its connections. -/
structure Server (ι : Type) where
  connections : ι → Connection
  stopped : Bool

namespace Server

variable {ι : Type} [DecidableEq ι]

/-- A server with a stream coming in over each connection. -/
def opened (streams : ι → List UInt8) : Server ι := ⟨fun i => .opened (streams i), false⟩

/-- The server with a connection in another state. -/
def update (σ : Server ι) (i : ι) (c : Connection) : Server ι :=
  { σ with connections := fun j => if j = i then c else σ.connections j }

/-- Lets a connection go on: it takes its next step, or stops the server. -/
def step? (s : Service) (files : Store) (σ : Server ι) (i : ι) : Option (Server ι) :=
  if σ.stopped then none
  else
    match (σ.connections i).step? s files with
    | some c => some (σ.update i c)
    | none => if (σ.connections i).isStopping then some { σ with stopped := true } else none

/-- A run: the connections go on one after the other as a schedule says. -/
inductive Run (s : Service) (files : Store) : Server ι → List ι → Server ι → Prop
  | refl (σ : Server ι) : Run s files σ [] σ
  | step {σ σ' σ'' : Server ι} {i : ι} {schedule : List ι} :
      σ.step? s files i = some σ' → Run s files σ' schedule σ'' →
      Run s files σ (i :: schedule) σ''

end Server

end Walkthrough
