import UmlDiagrams.Calendar.Instant
import UmlDiagrams.Source
import UmlDiagrams.Stateful
/-!
# Sessions

A store and the picture that was last rendered from it. A rendering starts with a ticket, and its
answer may arrive at any later time. Only the answer to the latest ticket becomes the cached
picture, and only while the diagram it shows is neither cleared nor switched away from.
-/

namespace UmlDiagrams

inductive RenderFailure where
  | status (code : Nat)
  | emptyResponse
  | transport (reason : String)
  | process (reason : String)
  | io (reason : String)
deriving DecidableEq, Repr

def RenderFailure.message : RenderFailure → String
  | status code => "renderer answered with status " ++ toString code
  | emptyResponse => "renderer returned an empty response"
  | transport reason => "transport error: " ++ reason
  | process reason => "renderer process failed: " ++ reason
  | io reason => reason

inductive GenerateError where
  | emptySource
  | render (failure : RenderFailure)
  | stale (number : Nat)
deriving DecidableEq, Repr

def GenerateError.message : GenerateError → String
  | emptySource => "nothing to generate for the current diagram"
  | render failure => "failed to generate diagram: " ++ failure.message
  | stale number =>
    "generation #" ++ toString number ++ " was superseded before it completed"

/-- A rendered picture and the name of a file for it. -/
structure Rendered where
  content : ByteArray
  fileName : String

/-- What was sent to the renderer, and the state of affairs at that time. -/
structure Ticket where
  number : Nat
  kind : Kind
  epoch : Nat
  source : String
deriving DecidableEq, Repr

/-- Tickets up to `invalidated` were issued before a clearing or a switch of kind. -/
structure Session where
  store : Store := {}
  cached : Option Rendered := none
  cachedEpoch : Nat := 0
  latest : Nat := 0
  invalidated : Nat := 0

def outputFileName (kind : Kind) (now : Instant) : String :=
  kind.slug ++ "-diagram-" ++ now.stamp ++ ".svg"

namespace Session

/-- The cached picture, unless the store was cleared or switched to another kind since. -/
def output (s : Session) : Option Rendered :=
  if s.cachedEpoch = s.store.epoch then s.cached else none

/-- Drops the cached picture and invalidates all tickets. -/
def reset (s : Session) : Session :=
  { s with cached := none, invalidated := s.latest }

def setKind (s : Session) (kind : Kind) : Session :=
  reset { s with store := s.store.setKind kind }

def clear (s : Session) : Session :=
  reset { s with store := s.store.clear }

def issue : Stateful GenerateError Session Ticket := do
  let source := (← get).store.source
  if (Text.trim source).isEmpty then throw .emptySource
  modify fun s => { s with latest := s.latest + 1 }
  let s ← get
  return ⟨s.latest, s.store.kind, s.store.epoch, source⟩

def isStale (s : Session) (ticket : Ticket) : Bool :=
  ticket.number ≠ s.latest || ticket.number ≤ s.invalidated || ticket.epoch ≠ s.store.epoch

/-- Takes the renderer's answer to a ticket. -/
def finish (ticket : Ticket) (answer : Except RenderFailure ByteArray) (now : Instant) :
    Stateful GenerateError Session Rendered := do
  let content ← answer.mapError GenerateError.render
  if content.isEmpty then throw (.render .emptyResponse)
  if (← get).isStale ticket then throw (.stale ticket.number)
  let rendered := ⟨content, outputFileName ticket.kind now⟩
  modify fun s => { s with cached := some rendered, cachedEpoch := ticket.epoch }
  return rendered

/-- Starts a generation and takes the answer at once. A failure uses up the ticket. -/
def generate (render : String → Except RenderFailure ByteArray) (now : Instant) :
    Stateful GenerateError Session Rendered := do
  let ticket ← issue
  finish ticket (render ticket.source) now

end Session

end UmlDiagrams
