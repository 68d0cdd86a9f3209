import ContractLint.Analysis.Analyzer

namespace ContractLint

abbrev Ticket := Nat

inductive Command where
  | analyze (ticket : Ticket) (task : Task)
  | shutdown
  deriving DecidableEq, Repr

structure Worker where
  queue : List Command := []
  connected : Bool := true
  cancelled : Bool := false
  stopped : Bool := false
  active : List (Ticket × Task) := []
  sent : List (Ticket × Outcome) := []
  tickets : Ticket := 0

namespace Worker

inductive Event where
  | submit (task : Task)
  | shutdown
  | disconnect
  | receive
  | finish (ticket : Ticket) (world : World)
  | abandon (ticket : Ticket)
  | stop

def send (w : Worker) (c : Command) : Worker :=
  { w with queue := w.queue ++ [c] }

def activate (w : Worker) (ticket : Ticket) (task : Task) : Worker :=
  { w with active := w.active ++ [(ticket, task)] }

def taskUnder? (w : Worker) (ticket : Ticket) : Option Task :=
  (w.active.find? fun e => e.1 = ticket).map (·.2)

def drop (w : Worker) (ticket : Ticket) : Worker :=
  { w with active := w.active.filter fun e => e.1 != ticket }

def isOpen (w : Worker) : Bool :=
  w.connected && !w.stopped

def receive? (w : Worker) : Option Worker :=
  if w.cancelled then none
  else
    match w.queue with
    | .analyze ticket task :: rest => some ({ w with queue := rest }.activate ticket task)
    | .shutdown :: rest => some { w with queue := rest, cancelled := true }
    | [] => if w.connected then none else some { w with cancelled := true }

def finish? (w : Worker) (ticket : Ticket) (world : World) : Option Worker :=
  (w.taskUnder? ticket).map fun task =>
    { w.drop ticket with sent := w.sent ++ [(ticket, task.outcome world)] }

def abandon? (w : Worker) (ticket : Ticket) : Option Worker :=
  if w.cancelled then (w.taskUnder? ticket).map fun _ => w.drop ticket else none

def step? (w : Worker) : Event → Option Worker
  | .submit task =>
      if w.isOpen then some { w.send (.analyze w.tickets task) with tickets := w.tickets + 1 }
      else none
  | .shutdown => if w.isOpen then some (w.send .shutdown) else none
  | .disconnect => if w.connected then some { w with connected := false } else none
  | .receive => w.receive?
  | .finish ticket world => w.finish? ticket world
  | .abandon ticket => w.abandon? ticket
  | .stop =>
      if w.cancelled && !w.stopped && w.active.isEmpty then some { w with stopped := true }
      else none

def run? (w : Worker) : List Event → Option Worker
  | [] => some w
  | e :: es => (w.step? e).bind (·.run? es)

end Worker

end ContractLint
