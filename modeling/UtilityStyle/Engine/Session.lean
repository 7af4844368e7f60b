import UtilityStyle.Engine.Basic

namespace UtilityStyle

structure Reports where
  errors : List String
  suggestions : List (String × Suggestions)
  deriving DecidableEq

namespace Reports

def empty : Reports := ⟨[], []⟩

def suggestionsOf? : Error → Option (String × Suggestions)
  | .unresolvable className suggestions =>
    if suggestions.isEmpty then none else some (className, suggestions)
  | _ => none

def add (reports : Reports) (error : Error) : Reports :=
  ⟨reports.errors ++ [error.message], reports.suggestions ++ (suggestionsOf? error).toList⟩

def addResult {α : Type} (reports : Reports) : Except Error α → Reports
  | .ok _ => reports
  | .error error => reports.add error

end Reports

inductive Command
  | list (classes : String)
  | token (raw : String)
  | classify (className : String)
  | setOptions (options : Options)
  | clear
  deriving DecidableEq

inductive Reply
  | style (result : Except Error Style)
  | route (route : Route)
  | done

structure Session where
  engine : Engine
  reports : Reports := .empty

namespace Session

def resolved (session : Session) (result : Except Error Style) : Reply × Session :=
  (.style result, { session with reports := session.reports.addResult result })

def run (session : Session) : Command → Reply × Session
  | .list classes => session.resolved (session.engine.resolveList classes)
  | .token raw => session.resolved (session.engine.resolve raw)
  | .classify className => (.route (.find session.engine.rules className), session)
  | .setOptions options => (.done, { session with engine := { session.engine with options } })
  | .clear => (.done, { session with reports := .empty })

end Session

inductive Event
  | resolved (raw : String) (style : Style)
  | suggestions (className : String) (count : Nat)
  | failed (message : String)
  deriving DecidableEq

namespace Engine

def resolvedEvents (engine : Engine) : List String → List Event
  | [] => []
  | raw :: rest =>
    match engine.keyedStyle raw with
    | .ok keyed => .resolved raw keyed.style :: resolvedEvents engine rest
    | .error _ => []

def failureEvents (error : Error) : List Event :=
  (Reports.suggestionsOf? error).toList.map (fun (name, found) => .suggestions name found.size) ++
    [.failed error.message]

def log (engine : Engine) (classes : String) : List Event :=
  let tokens := if engine.options.debug then engine.resolvedEvents (engine.ordered classes) else []
  match engine.resolveList classes with
  | .ok _ => tokens
  | .error error => tokens ++ failureEvents error

end Engine

end UtilityStyle
