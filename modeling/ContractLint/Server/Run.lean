import ContractLint.Server.Basic

namespace ContractLint.Server

structure Run where
  server : Server
  world : World
  accepting : Bool := true
  pending : List Task := []
  unread : List Outcome := []
  sent : List Message := []

inductive Event where
  | request (id : RequestId) (method : String) (params : Json)
  | notification (method : String) (params : Json)
  | analyze (uri : Url)
  | finish (job : JobId)
  | publish (job : JobId)
  | abandon (job : JobId)
  | stopWorker
  | outside (world : World)

namespace Run

def outside (r : Run) : Outside where
  disk := r.world.disk
  accepting := r.accepting

def take (r : Run) (s : Step) : Run :=
  { r with
    server := s.server
    pending := r.pending ++ s.queued.toList
    sent := r.sent ++ s.sent }

def task? (r : Run) (job : JobId) : Option Task :=
  r.pending.find? fun t => t.job.id = job

def without (r : Run) (job : JobId) : Run :=
  { r with pending := r.pending.filter fun t => t.job.id != job }

def outcome? (r : Run) (job : JobId) : Option Outcome :=
  r.unread.find? fun o => o.job = job

def finish (r : Run) (task : Task) : Run :=
  { r.without task.job.id with
    world := (task.run r.world).world
    unread := r.unread ++ [task.outcome r.world] }

def publish (r : Run) (o : Outcome) : Run :=
  { r with
    unread := r.unread.filter fun p => p.job != o.job
    sent := r.sent ++ o.messages }

def step (r : Run) : Event → Run
  | .request id method params => r.take (r.server.request r.outside id method params)
  | .notification method params => r.take (r.server.notification r.outside method params)
  | .analyze uri => r.take (r.server.analyze r.outside uri).1
  | .finish job =>
      match r.task? job with
      | some task => r.finish task
      | none => r
  | .publish job =>
      match r.outcome? job with
      | some o => r.publish o
      | none => r
  | .abandon job => r.without job
  | .stopWorker => { r with accepting := false }
  | .outside world => { r with world }

def after (r : Run) (events : List Event) : Run :=
  events.foldl step r

theorem after_nil (r : Run) : r.after [] = r := rfl

theorem after_cons (r : Run) (e : Event) (es : List Event) :
    r.after (e :: es) = (r.step e).after es := rfl

theorem after_append (r : Run) (es fs : List Event) :
    r.after (es ++ fs) = (r.after es).after fs :=
  List.foldl_append

end Run

def begin (workspace : Workspace) (settings : Settings) (world : World) : Run where
  server := start workspace settings
  world := world

end ContractLint.Server
