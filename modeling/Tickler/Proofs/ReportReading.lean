import Tickler.Report
import Tickler.Proofs.JsonReading

/-!
# Reading reports back

A report about a line loses nothing. Its text is a JSON text of one object, and from that
object everything is recovered that the report was made from: the line, today, the extra
days, the plain text, and the date and the note if there are any. The keys of an object do
not repeat, so that what stands under a key does not hang on which member a reader prefers.

The readers follow the data: one for each kind of part, put together as the parts are.
-/

namespace Tickler

namespace Json

variable {α : Type}

/-- The keys of an object. No other value has any. -/
def keys : Json → List (List Char)
  | .object members => members.map Prod.fst
  | _ => []

/-- The value under a key, if it stands there once. -/
def member? (key : List Char) : Json → Option Json
  | .object members =>
      match members.filter (fun member => member.1 = key) with
      | [(_, value)] => some value
      | _ => none
  | _ => none

/-- What is read from the value under a key. -/
def part? (value : Json) (key : List Char) (read? : Json → Option α) : Option α :=
  (value.member? key).bind read?

/-- A text. -/
def text? : Json → Option (List Char)
  | .text characters => some characters
  | _ => none

/-- An integer. -/
def integer? : Json → Option Int
  | .integer number => some number
  | _ => none

/-- A natural number. -/
def natural? : Json → Option Nat
  | .integer (.ofNat number) => some number
  | _ => none

/-- A part that may be absent, which is shown as null. -/
def optional? (read? : Json → Option α) : Json → Option (Option α)
  | .null => some none
  | value => (read? value).map some

/-- The choice that is shown as a text. -/
def choice? (shown : α → Json) (choices : List α) (value : Json) : Option α := do
  let letters ← value.text?
  choices.find? fun choice => (shown choice).text? = some letters

/-- A reader recovers every part of a kind from how it is shown, and reads none from null. -/
structure Recovers (read? : Json → Option α) (shown : α → Json) : Prop where
  back : ∀ part, read? (shown part) = some part
  absent : read? .null = none

/-- With each part that may be absent its absence is recovered as well. -/
theorem Recovers.optional {read? : Json → Option α} {shown : α → Json}
    (recovers : Recovers read? shown) (part : Option α) :
    optional? read? (.optional shown part) = some part := by
  cases part with
  | none => rfl
  | some part =>
    have back := recovers.back part
    cases value : shown part with
    | null =>
      rw [value, recovers.absent] at back
      cases back
    | _ =>
      rw [value] at back
      simp only [optional?, Json.optional, value, back, Option.map_some]

/-- Natural numbers are recovered. -/
theorem recovers_natural : Recovers natural? Json.natural := ⟨fun _ => rfl, rfl⟩

end Json

/-- The weekday that a name stands for. -/
def Weekday.ofJson? : Json → Option Weekday :=
  Json.choice? Weekday.json [monday, tuesday, wednesday, thursday, friday, saturday, sunday]

/-- The sign that a name stands for. -/
def Sign.ofJson? : Json → Option Sign := Json.choice? Sign.json [plus, minus]

/-- The period that a name stands for. -/
def Period.ofJson? : Json → Option Period := Json.choice? Period.json [day, week, month, year]

/-- The window that a name stands for. -/
def Window.ofJson? : Json → Option Window := Json.choice? Window.json [month, year]

/-- The pattern with the given parts. -/
def DatePattern.ofJson? (value : Json) : Option DatePattern := do
  let year ← value.part? "year".toList (Json.optional? Json.natural?)
  let month ← value.part? "month".toList (Json.optional? Json.natural?)
  let day ← value.part? "day".toList (Json.optional? Json.natural?)
  let weekday ← value.part? "weekday".toList (Json.optional? Weekday.ofJson?)
  some { year, month, day, weekday }

/-- The offset with the given parts. -/
def Offset.ofJson? (value : Json) : Option Offset := do
  let sign ← value.part? "sign".toList Sign.ofJson?
  let amount ← value.part? "amount".toList (Json.optional? Json.natural?)
  let period ← value.part? "unit".toList (Json.optional? Period.ofJson?)
  some { sign, amount, period }

/-- The recurrence of a kind with the given parts. -/
def Recurrence.ofJson? (value : Json) : Option Recurrence := do
  let kind ← value.part? "type".toList Json.text?
  if kind = "fixed_advance".toList then (Offset.ofJson? value).map .fromToday
  else if kind = "jump_forward".toList then (Offset.ofJson? value).map .fromDate
  else if kind = "nth_weekday".toList then do
    let window ← value.part? "window".toList Window.ofJson?
    let ordinal ← value.part? "ordinal".toList Json.integer?
    let weekday ← value.part? "weekday".toList Weekday.ofJson?
    some (.onWeekday window ordinal weekday)
  else none

/-- The note with the given parts. -/
def Note.ofJson? (value : Json) : Option Note := do
  let date ← value.part? "date".toList DatePattern.ofJson?
  let offset ← value.part? "offset".toList (Json.optional? Offset.ofJson?)
  let recurrence ← value.part? "repeat".toList (Json.optional? Recurrence.ofJson?)
  let description ← value.part? "description".toList Json.text?
  some { date, offset, recurrence, description }

/-! ## Parts are recovered -/

/-- Weekdays are recovered. -/
theorem Weekday.recovers : Json.Recovers ofJson? json :=
  ⟨fun weekday => by cases weekday <;> rfl, rfl⟩

/-- Signs are recovered. -/
theorem Sign.recovers : Json.Recovers ofJson? json := ⟨fun sign => by cases sign <;> rfl, rfl⟩

/-- Periods are recovered. -/
theorem Period.recovers : Json.Recovers ofJson? json :=
  ⟨fun period => by cases period <;> rfl, rfl⟩

/-- Windows are recovered. -/
theorem Window.recovers : Json.Recovers ofJson? json :=
  ⟨fun window => by cases window <;> rfl, rfl⟩

/-- Patterns are recovered. -/
theorem DatePattern.ofJson?_json (pattern : DatePattern) : ofJson? pattern.json = some pattern := by
  have year : pattern.json.part? "year".toList (Json.optional? Json.natural?) =
    some pattern.year := Json.recovers_natural.optional pattern.year
  have month : pattern.json.part? "month".toList (Json.optional? Json.natural?) =
    some pattern.month := Json.recovers_natural.optional pattern.month
  have day : pattern.json.part? "day".toList (Json.optional? Json.natural?) =
    some pattern.day := Json.recovers_natural.optional pattern.day
  have weekday : pattern.json.part? "weekday".toList (Json.optional? Weekday.ofJson?) =
    some pattern.weekday := Weekday.recovers.optional pattern.weekday
  rw [ofJson?, year, month, day, weekday]
  rfl

/-- An offset is recovered from any value that has its parts. -/
theorem Offset.ofJson?_of_parts {value : Json} {offset : Offset}
    (sign : value.member? "sign".toList = some offset.sign.json)
    (amount : value.member? "amount".toList = some (.optional .natural offset.amount))
    (period : value.member? "unit".toList = some (.optional Period.json offset.period)) :
    ofJson? value = some offset := by
  simp only [ofJson?, Json.part?, sign, amount, period, Option.bind_some, Option.bind_eq_bind,
    Sign.recovers.back, Json.recovers_natural.optional, Period.recovers.optional]

/-- Offsets are recovered. -/
theorem Offset.recovers : Json.Recovers ofJson? json :=
  ⟨fun _ => ofJson?_of_parts rfl rfl rfl, rfl⟩

/-- Recurrences are recovered, each with its kind. -/
theorem Recurrence.recovers : Json.Recovers ofJson? json where
  back recurrence := by
    cases recurrence with
    | fromToday step =>
      have kind : (fromToday step).json.part? "type".toList Json.text? =
        some "fixed_advance".toList := rfl
      have recovered : Offset.ofJson? (fromToday step).json = some step :=
        Offset.ofJson?_of_parts rfl rfl rfl
      rw [ofJson?, kind, recovered]
      rfl
    | fromDate step =>
      have kind : (fromDate step).json.part? "type".toList Json.text? =
        some "jump_forward".toList := rfl
      have recovered : Offset.ofJson? (fromDate step).json = some step :=
        Offset.ofJson?_of_parts rfl rfl rfl
      rw [ofJson?, kind, recovered]
      rfl
    | onWeekday window ordinal weekday =>
      have kind : (onWeekday window ordinal weekday).json.part? "type".toList Json.text? =
        some "nth_weekday".toList := rfl
      have ofWindow : (onWeekday window ordinal weekday).json.part? "window".toList
        Window.ofJson? = some window := Window.recovers.back window
      have ofOrdinal : (onWeekday window ordinal weekday).json.part? "ordinal".toList
        Json.integer? = some ordinal := rfl
      have ofWeekday : (onWeekday window ordinal weekday).json.part? "weekday".toList
        Weekday.ofJson? = some weekday := Weekday.recovers.back weekday
      rw [ofJson?, kind, ofWindow, ofOrdinal, ofWeekday]
      rfl
  absent := rfl

/-- Notes are recovered. -/
theorem Note.ofJson?_json (note : Note) : ofJson? note.json = some note := by
  have date : note.json.part? "date".toList DatePattern.ofJson? = some note.date :=
    note.date.ofJson?_json
  have offset : note.json.part? "offset".toList (Json.optional? Offset.ofJson?) =
    some note.offset := Offset.recovers.optional note.offset
  have recurrence : note.json.part? "repeat".toList (Json.optional? Recurrence.ofJson?) =
    some note.recurrence := Recurrence.recovers.optional note.recurrence
  have description : note.json.part? "description".toList Json.text? =
    some note.description := rfl
  rw [ofJson?, date, offset, recurrence, description]
  rfl

/-! ## Reports about lines -/

/-- A report about a line loses nothing and agrees with the plain text. It is a JSON text of
one object and of no other value, and a reader finds in that object the line, today, the
extra days and the plain text. If the line can be rescheduled it finds the date and the note
as well, and no error; if not, it finds the plain text once more as the error, and neither
date nor note. -/
theorem showLine_json_lossless (line : List Char) (today : Date) (extraDays : Int) :
    ∃ report : Json,
      (∀ value, Json.Spelled (showLine line today extraDays .json) value ↔ value = report) ∧
      Json.read? (showLine line today extraDays .json) = some report ∧
      (∃ members, report = .object members) ∧ report.keys.Nodup ∧
      report.part? "input".toList Json.text? = some line ∧
      report.part? "today".toList Json.text? = some today.iso ∧
      report.part? "plus".toList Json.integer? = some extraDays ∧
      report.part? "result".toList Json.text? = some (showLine line today extraDays .plain) ∧
      (∀ rescheduled, reschedule line today extraDays = .ok rescheduled →
        report.part? "date".toList Json.text? = some rescheduled.date.iso ∧
        report.part? "fields".toList Note.ofJson? = some rescheduled.note ∧
        "error".toList ∉ report.keys) ∧
      (∀ failure, reschedule line today extraDays = .error failure →
        report.part? "error".toList Json.text? = some (showLine line today extraDays .plain) ∧
        "date".toList ∉ report.keys ∧ "fields".toList ∉ report.keys) := by
  refine ⟨attemptJson line today extraDays (reschedule line today extraDays),
    Json.spelled_document_iff _, Json.read?_of_spelled (Json.spelled_document _), ?_⟩
  simp only [showLine, rescheduledLine]
  -- With the outcome known, each key is looked up in a list of keys that are all written out.
  cases reschedule line today extraDays with
  | ok rescheduled =>
    have keys : (attemptJson line today extraDays (.ok rescheduled)).keys =
        ["date".toList, "fields".toList, "input".toList, "plus".toList, "result".toList,
          "today".toList] := rfl
    have recovered : (attemptJson line today extraDays (.ok rescheduled)).part? "fields".toList
        Note.ofJson? = some rescheduled.note := rescheduled.note.ofJson?_json
    rw [keys]
    refine ⟨⟨_, rfl⟩, by decide +kernel, rfl, rfl, rfl, rfl, ?succeeded, ?failed⟩
    case succeeded =>
      intro other done
      obtain rfl := Except.ok.inj done
      exact ⟨rfl, recovered, by decide +kernel⟩
    case failed =>
      intro failure refused
      cases refused
  | error failure =>
    have keys : (attemptJson line today extraDays (.error failure)).keys =
        ["error".toList, "input".toList, "plus".toList, "result".toList, "today".toList] := rfl
    rw [keys]
    refine ⟨⟨_, rfl⟩, by decide +kernel, rfl, rfl, rfl, rfl, ?succeeded, ?failed⟩
    case succeeded =>
      intro rescheduled done
      cases done
    case failed =>
      intro other refused
      exact ⟨rfl, by decide +kernel, by decide +kernel⟩

end Tickler
