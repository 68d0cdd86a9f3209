import ContractLint.Session.Handshake
import ContractLint.Session.Incoming

namespace ContractLint

inductive Session where
  | fresh
  | opening (params : Json)
  | serving (server : Server)
  | closing
  | ended (exitCode : Nat)

namespace Session

structure Turn where
  session : Session
  sent : List Message := []
  queued : Option Task := none

def failure : Nat := 1

def fail : Turn where
  session := .ended failure

def serve (params : Json) : Turn :=
  match Handshake.ofJson? params with
  | some h => { session := .serving h.server }
  | none => fail

def ofStep (s : Step) : Turn where
  session := .serving s.server
  sent := s.sent
  queued := s.queued

def receive (s : Session) (out : Outside) (m : Incoming) : Turn :=
  match s, m with
  | .fresh, .request id "initialize" params =>
      { session := .opening params, sent := [.reply id .capabilities] }
  | .fresh, .request .. => { session := .fresh }
  | .fresh, .notification "exit" _ => fail
  | .fresh, .notification .. => { session := .fresh }
  | .opening params, .notification "initialized" _ => serve params
  | .serving _, .request id "shutdown" _ => { session := .closing, sent := [.reply id .nothing] }
  | .serving server, .request id method params => ofStep (server.request out id method params)
  | .serving _, .notification "exit" _ => { session := .ended 0 }
  | .serving server, .notification method params => ofStep (server.notification out method params)
  | .serving server, .response => { session := .serving server }
  | .closing, .notification "exit" _ => { session := .ended 0 }
  | .ended code, _ => { session := .ended code }
  | _, _ => fail

def hear (s : Session) (out : Outside) : Option Incoming → Turn
  | some m => s.receive out m
  | none =>
      match s with
      | .ended code => { session := .ended code }
      | _ => fail

def exitCode : Session → Nat
  | .serving _ => 0
  | .ended code => code
  | _ => failure

end Session

end ContractLint
