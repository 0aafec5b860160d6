import Tickler.Command.Arguments
import Tickler.Report
import Tickler.Settings.Store
import Tickler.Text.InputLine

/-!
# A run

A run reads its arguments, loads the settings, and then does one thing: it gives the
script that completes words in a shell, writes the default settings, shows today, or shows
one line rescheduled. The line is the one in the arguments, or else the first of the input,
which is not looked at otherwise. What the run has to say then goes to standard output.

Everything that a run depends on is given to it, and what it leaves is its answer and
the files. Only writing the default settings changes a file, and only that of the
settings; it may also make folders, which stay even if the file cannot be written then.
Standard output comes last: if it does not take the answer, the run fails, but what was
written stays.
-/

namespace Tickler

/-- What a run finds in its environment. -/
structure Environment where
  /-- The date that stands for today, unless the arguments give one. -/
  today : Option (List Char) := none
  /-- The path of the settings, unless the arguments give one. -/
  settings : Option (List Char) := none
  /-- The folder of the user. -/
  home : Option (List Char) := none
deriving DecidableEq

namespace Request

/-- The request with the date and the path that the environment gives in place of
those that the arguments leave out. What is given is not looked at otherwise. -/
def completed (request : Request) (environment : Environment) : Except UsageFault Request := do
  let dated ← match request.date, environment.today with
    | none, some value => request.set .date value
    | _, _ => .ok request
  match dated.settings, environment.settings with
  | none, some value => dated.set .settings value
  | _, _ => .ok dated

end Request

/-- The path of the settings of a user. Without a folder of the user's own they are
found where the run starts. -/
def Environment.settingsPath (environment : Environment) : List Char :=
  let folder := Path.inside (environment.home.getD []) ".bump".toList
  Path.inside folder "config.yaml".toList

/-- The path that the settings of a run are written to. -/
def Request.settingsPath (request : Request) (environment : Environment) : List Char :=
  request.settings.getD environment.settingsPath

/-- The settings of a user. -/
def Environment.loadSettings (environment : Environment) (files : Files) :
    Except Settings.Fault Settings :=
  Settings.load files environment.settingsPath

/-- The settings of a run: those at the path in the request, or else those of the user. -/
def Request.loadSettings (request : Request) (environment : Environment) (files : Files) :
    Except Settings.Fault Settings :=
  match request.settings with
  | some path => Settings.load files path
  | none => environment.loadSettings files

/-- Settings are loaded from the path that they are written to. -/
theorem Request.loadSettings_eq (request : Request) (environment : Environment) (files : Files) :
    request.loadSettings environment files =
      Settings.load files (request.settingsPath environment) := by
  simp only [loadSettings, settingsPath, Environment.loadSettings]
  cases request.settings <;> rfl

/-- What a run works with and does not decide. -/
structure Host where
  /-- The script that completes words in a shell. -/
  script : Shell → List Char
  /-- The number of bytes that a file has room for. Without a number it has room for all. -/
  room : Option Nat := none
  /-- What standard output says to a text that it does not take. -/
  refusal : List Char → Option (List Char) := fun _ => none

/-- Hand a text to standard output. -/
def Host.print (host : Host) (text : List Char) : Except Failure (List Char) :=
  match host.refusal text with
  | none => .ok text
  | some detail => .error (.output detail)

/-- The run needs a line of input. -/
def Request.readsInput (request : Request) : Bool :=
  request.completions.isNone && !request.writeDefaults && !request.today && request.line.isNone

/-- What a run shows: today, or the line rescheduled. -/
def Request.shown (request : Request) (settings : Settings) (input : List UInt8) (clock : Date) :
    Except Failure (List Char) :=
  let today := request.date.getD clock
  let style := request.style.getD settings.style
  if request.today then .ok (showToday today style)
  else do
    let line ← match request.line with
      | some line => .ok line
      | none => (takeLine input).1
    .ok (showLine line today (request.extraDays.getD 0) style)

/-- What is said when the default settings are written. -/
def writtenMessage (path : List Char) : List Char := "Wrote default config to ".toList ++ path

/-- What a run has to say and the files it leaves, once its settings are loaded. -/
def Request.perform (request : Request) (host : Host) (path : List Char) (settings : Settings)
    (input : List UInt8) (files : Files) (clock : Date) : Except Failure (List Char) × Files :=
  match request.completions with
  | some shell => (.ok (host.script shell), files)
  | none =>
      if request.writeDefaults then
        match Settings.save {} host.room files path with
        | .ok saved => (.ok (writtenMessage path), saved)
        | .error unsaved => (.error unsaved.failure, unsaved.left)
      else (request.shown settings input clock, files)

/-- Input that is not needed makes no difference. -/
theorem Request.perform_eq_of_not_readsInput (request : Request) (host : Host)
    (path : List Char) (settings : Settings) (input other : List UInt8) (files : Files)
    (clock : Date) (unread : request.readsInput = false) :
    request.perform host path settings input files clock =
      request.perform host path settings other files clock := by
  simp only [Request.readsInput] at unread
  simp only [Request.perform, Request.shown]
  cases completions : request.completions <;> cases writes : request.writeDefaults <;>
    cases today : request.today <;> cases line : request.line <;> simp_all

/-- Why a run gives no answer. -/
inductive RunFault where
  | usage (fault : UsageFault)
  | failure (failure : Failure)
deriving DecidableEq

/-- Whether a run gives an answer, and the request that it answers. -/
def requested (arguments : List (List Char)) (environment : Environment) :
    Except UsageFault Request := do
  (← Request.ofArguments arguments).completed environment

/-- The answer of a run, and the files it leaves. The clock gives the date that is
today unless another is given. -/
def run (host : Host) (arguments : List (List Char)) (environment : Environment)
    (input : List UInt8) (files : Files) (clock : Date) :
    Except RunFault (List Char) × Files :=
  match requested arguments environment with
  | .error fault => (.error (.usage fault), files)
  | .ok request =>
      match request.loadSettings environment files with
      | .error fault => (.error (.failure fault.failure), files)
      | .ok settings =>
          let path := request.settingsPath environment
          let (said, left) := request.perform host path settings input files clock
          ((said >>= host.print).mapError .failure, left)

end Tickler
