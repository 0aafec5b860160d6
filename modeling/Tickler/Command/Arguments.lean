import Tickler.ReferenceDate
import Tickler.Style

/-!
# Command-line arguments

An argument that begins with two dashes gives an option by its long name, with the
value, if any, behind an equals sign. One that begins with a single dash gives
options by their letters; the first letter that takes a value takes the rest of the
argument for it. An option without a value of its own takes the next argument,
unless that looks like an option itself; only the number of days may look like a
negative number. Two dashes alone make every later argument a line.

A value that stands in an argument of its own is looked at only when the next option
or line comes up, or at the end. So an unknown option is reported before a bad value
right in front of it.
-/

namespace Tickler

/-- Why arguments do not make a request. Asking for help or for the version is
answered in the same way, because no run follows. -/
inductive UsageFault where
  | help
  | version
  /-- An option that is not known, or a second line. -/
  | unknownArgument
  /-- A value that is missing, empty, or none of those listed. -/
  | invalidValue
  /-- A value that is no number or no date. -/
  | malformedValue
  /-- An option given twice. -/
  | repeated
  /-- A value for an option that takes none. -/
  | unneededValue
deriving DecidableEq, Repr

/-- The shells that completion is offered for. -/
inductive Shell where
  | bash
  | elvish
  | fish
  | powershell
  | zsh
deriving DecidableEq, Repr

/-- The name of a shell. -/
def Shell.name : Shell → List Char
  | bash => "bash".toList
  | elvish => "elvish".toList
  | fish => "fish".toList
  | powershell => "powershell".toList
  | zsh => "zsh".toList

/-- The shell with a name. -/
def Shell.ofName? (name : List Char) : Option Shell :=
  [bash, elvish, fish, powershell, zsh].find? fun shell => shell.name = name

/-- What a run is asked to do. -/
structure Request where
  /-- Show today and nothing else. -/
  today : Bool := false
  /-- The days to add on top. -/
  extraDays : Option Int := none
  /-- The date that stands for today. -/
  date : Option Date := none
  style : Option Style := none
  /-- The path of the settings. -/
  settings : Option (List Char) := none
  /-- Write the default settings and do nothing else. -/
  writeDefaults : Bool := false
  /-- The shell to complete words for. -/
  completions : Option Shell := none
  line : Option (List Char) := none
deriving DecidableEq

/-- Options that take no value. -/
inductive Switch where
  | today
  | writeDefaults
  | help
  | version
deriving DecidableEq, Repr

/-- Options that take a value. -/
inductive Parameter where
  | extraDays
  | date
  | style
  | settings
  | completions
deriving DecidableEq, Repr

/-- An option. -/
inductive Choice where
  | switch (switch : Switch)
  | parameter (parameter : Parameter)
deriving DecidableEq, Repr

namespace Choice

/-- The options by long name. -/
def longNames : List (List Char × Choice) := [
  ("today".toList, .switch .today),
  ("plus".toList, .parameter .extraDays),
  ("date".toList, .parameter .date),
  ("output".toList, .parameter .style),
  ("config".toList, .parameter .settings),
  ("write-default-config".toList, .switch .writeDefaults),
  ("completions".toList, .parameter .completions),
  ("help".toList, .switch .help),
  ("version".toList, .switch .version)]

/-- The options by letter. -/
def letters : List (Char × Choice) := [
  ('t', .switch .today),
  ('p', .parameter .extraDays),
  ('d', .parameter .date),
  ('o', .parameter .style),
  ('h', .switch .help),
  ('V', .switch .version)]

end Choice

/-- A signed 64-bit number: an optional sign and digits, and nothing else. -/
def wholeNumber? (text : List Char) : Option Int :=
  let (negative, digits) := match text with
    | '-' :: rest => (true, rest)
    | '+' :: rest => (false, rest)
    | _ => (false, text)
  if digits ≠ [] ∧ digits.all Char.isDigit then
    let number : Int := if negative then -Decimal.value digits else Decimal.value digits
    if Int64.minValue.toInt ≤ number ∧ number ≤ Int64.maxValue.toInt then some number else none
  else none

/-- A text looks like a number without its sign: digits, with at most one point and,
behind it, at most one `e`. Neither comes first, and the `e` does not come last. -/
def looksNumeric (text : List Char) : Bool :=
  let whole := text.takeWhile Char.isDigit
  let exponent? := fun
    | [] => true
    | 'e' :: power => !power.isEmpty && power.all Char.isDigit
    | _ => false
  match text.dropWhile Char.isDigit with
  | '.' :: rest => !whole.isEmpty && exponent? (rest.dropWhile Char.isDigit)
  | rest => (!whole.isEmpty && exponent? rest) || text.isEmpty

namespace Request

/-- The request with a switch turned on. Each may be turned on once. -/
def turnOn (request : Request) : Switch → Except UsageFault Request
  | .today => if request.today then .error .repeated else .ok { request with today := true }
  | .writeDefaults =>
      if request.writeDefaults then .error .repeated else .ok { request with writeDefaults := true }
  | .help => .error .help
  | .version => .error .version

/-- A value, or the fault if there is none. -/
def orFault {α : Type} (fault : UsageFault) : Option α → Except UsageFault α
  | some value => .ok value
  | none => .error fault

/-- The date that a value gives. -/
def dateOf (value : List Char) : Except UsageFault Date :=
  (referenceDate value).mapError fun _ => .malformedValue

/-- The path that a value gives. No path is empty. -/
def pathOf (value : List Char) : Except UsageFault (List Char) :=
  if value = [] then .error .invalidValue else .ok value

/-- The option has a value already. -/
def has (request : Request) : Parameter → Bool
  | .extraDays => request.extraDays.isSome
  | .date => request.date.isSome
  | .style => request.style.isSome
  | .settings => request.settings.isSome
  | .completions => request.completions.isSome

/-- The request with an option set. Each may be set once, and a second time is a
fault even if its value is bad too. -/
def set (request : Request) (parameter : Parameter) (value : List Char) :
    Except UsageFault Request :=
  if request.has parameter then .error .repeated
  else match parameter with
    | .extraDays => do
        let days ← orFault .malformedValue (wholeNumber? value)
        .ok { request with extraDays := some days }
    | .date => do
        let date ← dateOf value
        .ok { request with date := some date }
    | .style => do
        let style ← orFault .invalidValue (Style.ofName? value)
        .ok { request with style := some style }
    | .settings => do
        let path ← pathOf value
        .ok { request with settings := some path }
    | .completions => do
        let shell ← orFault .invalidValue (Shell.ofName? value)
        .ok { request with completions := some shell }

end Request

/-- An option whose value, if it has one yet, has not been looked at. -/
structure Pending where
  parameter : Parameter
  value : Option (List Char)
deriving DecidableEq

/-- The state between two arguments. -/
structure Parsing where
  request : Request := {}
  pending : Option Pending := none

namespace Parsing

/-- Look at the pending value. -/
def settled (parsing : Parsing) : Except UsageFault Request :=
  match parsing.pending with
  | none => .ok parsing.request
  | some ⟨_, none⟩ => .error .invalidValue
  | some ⟨parameter, some value⟩ => parsing.request.set parameter value

/-- Options given by letters. -/
def letters (parsing : Parsing) : List Char → Except UsageFault Parsing
  | [] => .ok parsing
  | letter :: rest =>
      match Choice.letters.lookup letter, rest with
      | none, _ => .error .unknownArgument
      | some (.switch switch), _ => do
          let request ← (← parsing.settled).turnOn switch
          letters { request } rest
      | some (.parameter parameter), [] => do
          .ok { request := ← parsing.settled, pending := some ⟨parameter, none⟩ }
      | some (.parameter parameter), '=' :: value => do
          .ok { request := ← (← parsing.settled).set parameter value }
      | some (.parameter parameter), value => do
          .ok { request := ← (← parsing.settled).set parameter value }

/-- The value behind the first equals sign, if there is one. -/
def attachedValue (text : List Char) : Option (List Char) :=
  match text.dropWhile (· != '=') with
  | [] => none
  | _ :: value => some value

/-- An option given by its long name. -/
def longName (parsing : Parsing) (text : List Char) : Except UsageFault Parsing :=
  match Choice.longNames.lookup (text.takeWhile (· != '=')), attachedValue text with
  | none, _ => .error .unknownArgument
  | some (.switch _), some _ => .error .unneededValue
  | some (.switch switch), none => do
      .ok { request := ← (← parsing.settled).turnOn switch }
  | some (.parameter parameter), some value => do
      .ok { request := ← (← parsing.settled).set parameter value }
  | some (.parameter parameter), none => do
      .ok { request := ← parsing.settled, pending := some ⟨parameter, none⟩ }

/-- A line. There is at most one. -/
def line (parsing : Parsing) (text : List Char) : Except UsageFault Parsing :=
  if parsing.request.line.isSome then .error .unknownArgument
  else do
    let request ← parsing.settled
    .ok { request := { request with line := some text } }

/-- An argument that gives no option by name or letter: the value that is waited for,
or a line. -/
def word (parsing : Parsing) (text : List Char) : Except UsageFault Parsing :=
  match parsing.pending with
  | some ⟨parameter, none⟩ => .ok { parsing with pending := some ⟨parameter, some text⟩ }
  | _ => parsing.line text

/-- The days to add are waited for, and the letters make a number. -/
def awaitsNumber (parsing : Parsing) (letters : List Char) : Bool :=
  parsing.pending == some ⟨.extraDays, none⟩ && looksNumeric letters

/-- Read the remaining arguments. -/
def arguments (parsing : Parsing) : List (List Char) → Except UsageFault Parsing
  | [] => .ok parsing
  | ['-', '-'] :: lines => lines.foldlM line parsing
  | ('-' :: '-' :: text) :: rest => do arguments (← parsing.longName text) rest
  | ('-' :: letter :: more) :: rest => do
      if parsing.awaitsNumber (letter :: more) then
        arguments (← parsing.word ('-' :: letter :: more)) rest
      else arguments (← parsing.letters (letter :: more)) rest
  | text :: rest => do arguments (← parsing.word text) rest

end Parsing

/-- The request that arguments make. -/
def Request.ofArguments (arguments : List (List Char)) : Except UsageFault Request := do
  (← Parsing.arguments {} arguments).settled

end Tickler
