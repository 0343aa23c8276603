import OneConnection.Capabilities
import OneConnection.Command.Basic

/-!
# Dispatch

The ways to run a command that reads, in the order in which they are tried. Native handlers come
first, in the order in which they were added, and the fallback is last.
-/

namespace OneConnection

inductive Handler
  /-- Runs through the driver's asynchronous call the commands that it accepts. -/
  | native (name : String) (accepts : Command → Bool)
  /-- Runs any command through the driver's blocking call. -/
  | fallback

namespace Handler

def nativeAny (name : String) : Handler := .native name fun _ => true

/-- Accepts the commands that were built for a family of drivers. -/
def forProvider (provider : String) : Handler := .native provider fun c => c.provider = some provider

def accepts : Handler → Command → Bool
  | .native _ accepts, c => accepts c
  | .fallback, _ => true

def name : Handler → String
  | .native name _ => name
  | .fallback => "sync-fallback"

def isNative : Handler → Bool
  | .native _ _ => true
  | .fallback => false

end Handler

structure Chain where
  handlers : List Handler := []

namespace Chain

def hasFallback (chain : Chain) : Bool := chain.handlers.any fun h => !h.isNative

/-- A native handler goes before the fallback, and a second fallback changes nothing. -/
def add (h : Handler) (chain : Chain) : Chain :=
  if h.isNative then
    ⟨chain.handlers.takeWhile Handler.isNative ++ h :: chain.handlers.dropWhile Handler.isNative⟩
  else if chain.hasFallback then chain
  else ⟨chain.handlers ++ [h]⟩

def standard (c : Capabilities) : Chain :=
  let start : Chain := {}
  (if c.nativeAsync then start.add (.nativeAny "native") else start).add .fallback

def select (chain : Chain) (c : Command) : Except Error Handler :=
  if !c.isWellFormed then .error (.invalidArgument "command has no SQL text")
  else
    match chain.handlers.find? (·.accepts c) with
    | some h => .ok h
    | none => .error (.unsupported
        "no reader handler accepts this command and no fallback is configured" (some c.sql))

end Chain

end OneConnection
