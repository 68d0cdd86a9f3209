import ContractLint.Session.Basic

namespace ContractLint

def Server.asked? (s : Server) : Incoming → Option Url
  | .request _ method params =>
      if method = executeCommand then
        match Params.ExecuteCommand.ofJson params with
        | .ok c => if c.command = CommandName.analyze then (s.target c.arguments).toOption else none
        | .error _ => none
      else none
  | .notification method params =>
      match Notification.ofJson? method params with
      | some (.didSave p) => if s.settings.onSave then some p.uri else none
      | _ => none
  | .response => none

def Server.reads? (s : Server) (uri : Url) : Option Path :=
  if s.documents.isSolidity uri && (s.documents.get? uri).isNone then some uri.location else none

def Session.reads? (s : Session) (m : Incoming) : Option Path :=
  match s with
  | .serving server => (server.asked? m).bind server.reads?
  | _ => none

end ContractLint
