import UmlDiagrams.Session
import UmlDiagrams.Text.Lossy
/-!
# Renderers

A picture is drawn by a service or by a command of the machine. A command gets the source on its
standard input and writes the picture to its standard output.
-/

namespace UmlDiagrams

inductive Renderer where
  | service (url : String) (timeout : Option Nat)
  | command (name : String)
deriving DecidableEq, Repr

inductive ExitStatus where
  | code (n : Nat)
  | signal (n : Nat) (dumped : Bool)
deriving DecidableEq, Repr

namespace ExitStatus

def signalNames : List String :=
  ["SIGHUP", "SIGINT", "SIGQUIT", "SIGILL", "SIGTRAP", "SIGABRT", "SIGBUS", "SIGFPE", "SIGKILL",
    "SIGUSR1", "SIGSEGV", "SIGUSR2", "SIGPIPE", "SIGALRM", "SIGTERM", "SIGSTKFLT", "SIGCHLD",
    "SIGCONT", "SIGSTOP", "SIGTSTP", "SIGTTIN", "SIGTTOU", "SIGURG", "SIGXCPU", "SIGXFSZ",
    "SIGVTALRM", "SIGPROF", "SIGWINCH", "SIGIO", "SIGPWR", "SIGSYS"]

def signalName (n : Nat) : String :=
  match n with
  | 0 => ""
  | n + 1 => ((signalNames[n]?).map fun name => " (" ++ name ++ ")").getD ""

def text : ExitStatus → String
  | code n => "exit status: " ++ toString n
  | signal n dumped =>
    "signal: " ++ toString n ++ signalName n ++ if dumped then " (core dumped)" else ""

end ExitStatus

/-- What a process left behind. -/
structure ProcessResult where
  status : ExitStatus
  output : ByteArray
  errors : ByteArray
  /-- Why the process could not be given its input, if so. -/
  inputError : Option String := none

/-- The picture that a process drew. If it failed, what it reported, or else how it ended. -/
def ProcessResult.picture (r : ProcessResult) : Except RenderFailure ByteArray :=
  if r.status ≠ .code 0 then
    let report := Text.trim (Text.lossy r.errors)
    .error (.process (if report.isEmpty then "exited with " ++ r.status.text else report))
  else
    match r.inputError with
    | some reason => .error (.io reason)
    | none => if r.output.isEmpty then .error .emptyResponse else .ok r.output

/-- What answers for the renderers. -/
structure Renderers where
  service : (url : String) → (timeout : Option Nat) → (source : String) →
    Except RenderFailure ByteArray
  /-- Runs a command with its arguments and its input, or says why it does not start. -/
  process : (command : String) → (arguments : List String) → (input : String) →
    Except String ProcessResult

def commandArguments : List String :=
  ["-tsvg", "-pipe"]

def Renderers.render (r : Renderers) (renderer : Renderer) (source : String) :
    Except RenderFailure ByteArray :=
  match renderer with
  | .service url timeout => r.service url timeout source
  | .command name => do (← (r.process name commandArguments source).mapError .io).picture

end UmlDiagrams
