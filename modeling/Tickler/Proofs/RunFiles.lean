import Tickler.Command.Run
import Tickler.Proofs.SavedSettings

/-!
# What a run leaves

A run that does not get to write the default settings leaves the files and folders as they
are, whatever its answer is. Not to be asked for it is one reason, and to be asked for the
words of a shell as well another; a third is that the settings that are there cannot be read,
for they are read first.

A run that gets to write them may make folders on the way to their file, and that file is the
only one that is not what it was. What is in it depends on how far the run gets. It may fail
before the file is opened, or when the file has taken a part of the text. If it fails because
standard output does not take the message, then the file is complete, just as after a success,
and later runs with the same path load the defaults from it.

The path is told here by what was given, in the order in which it counts: the arguments, the
environment, and the folder of the user.
-/

namespace Tickler

namespace Request

/-- The request is one to write the default settings. To offer words for completion comes
first. -/
def writesSettings (request : Request) : Bool :=
  request.completions.isNone && request.writeDefaults

/-- A request is one to write the settings if it is asked to and is not to offer words. -/
theorem writesSettings_iff (request : Request) :
    request.writesSettings = true ↔ request.completions = none ∧ request.writeDefaults = true := by
  simp [writesSettings]

/-- Setting the date changes the date only. -/
theorem set_date_eq_ok {request dated : Request} {value : List Char}
    (done : request.set .date value = .ok dated) :
    ∃ date, dated = { request with date := some date } := by
  simp only [set] at done
  split at done
  · cases done
  · obtain ⟨date, _, dated⟩ := (Attempt.bind_eq_ok_iff _ _ _).mp done
    exact ⟨date, (Except.ok.inj dated).symm⟩

/-- Setting the path of the settings changes that path only, and to the value given. -/
theorem set_settings_eq_ok {request placed : Request} {value : List Char}
    (done : request.set .settings value = .ok placed) :
    placed = { request with settings := some value } := by
  simp only [set] at done
  split at done
  · cases done
  · obtain ⟨path, found, placed⟩ := (Attempt.bind_eq_ok_iff _ _ _).mp done
    simp only [pathOf] at found
    split at found
    · cases found
    · cases found
      exact (Except.ok.inj placed).symm

/-- A path that the environment gives comes in where the arguments give none. -/
theorem placed_eq_ok {request placed : Request} {found : Option (List Char)}
    (done : (match request.settings, found with
      | none, some value => request.set .settings value
      | _, _ => .ok request) = .ok placed) :
    placed = { request with settings := request.settings.or found } := by
  cases given : request.settings with
  | some path =>
    rw [given] at done
    rw [← Except.ok.inj done, Option.some_or, ← given]
  | none =>
    rw [given] at done
    rw [Option.none_or]
    cases found with
    | some value => exact set_settings_eq_ok done
    | none => rw [← Except.ok.inj done, ← given]

/-- What the environment adds to a request is a date, and a path of the settings where the
arguments give none. -/
theorem completed_eq_ok {request filled : Request} {environment : Environment}
    (done : request.completed environment = .ok filled) :
    ∃ date, filled = { request with
      date := date
      settings := request.settings.or environment.settings } := by
  simp only [Request.completed] at done
  split at done
  · obtain ⟨dated, datedDone, placed⟩ := (Attempt.bind_eq_ok_iff _ _ _).mp done
    obtain ⟨date, rfl⟩ := set_date_eq_ok datedDone
    exact ⟨some date, placed_eq_ok placed⟩
  · obtain ⟨dated, datedDone, placed⟩ := (Attempt.bind_eq_ok_iff _ _ _).mp done
    cases datedDone
    exact ⟨request.date, placed_eq_ok placed⟩

end Request

/-- The path of the settings that arguments and environment lead to: the one in the
arguments, or else the one in the environment, or else that in the folder of the user or,
if no such folder is known, in the one that the run starts in. -/
def effectiveSettingsPath (given : Request) (environment : Environment) : List Char :=
  match given.settings, environment.settings, environment.home with
  | some path, _, _ => path
  | none, some path, _ => path
  | none, none, some home => Path.inside home ".bump/config.yaml".toList
  | none, none, none => ".bump/config.yaml".toList

/-- What is inside a folder inside another one is inside the outer one. -/
theorem Path.inside_inside {name : List Char} (nonempty : name ≠ [])
    (ends : name.getLast? ≠ some '/') (outer inner : List Char) :
    inside (inside outer name) inner = inside outer (name ++ '/' :: inner) := by
  have lastFound := List.getLast?_eq_some_getLast nonempty
  have noSlash : name.getLast nonempty ≠ '/' := fun same => ends (same ▸ lastFound)
  simp only [inside]
  split
  · rw [if_neg (by simp [nonempty, lastFound, noSlash]), List.append_assoc]
  · rw [if_neg (by simp [List.getLast?_cons, lastFound, noSlash]), List.append_assoc,
      List.cons_append]

/-- The settings of a user stand in a folder of their own. -/
theorem Environment.settingsPath_eq (environment : Environment) :
    environment.settingsPath =
      match environment.home with
      | some home => Path.inside home ".bump/config.yaml".toList
      | none => ".bump/config.yaml".toList := by
  simp only [settingsPath]
  cases environment.home with
  | none => rfl
  | some home => exact Path.inside_inside (by decide) (by decide) home "config.yaml".toList

/-- A completed request has the path that arguments and environment lead to. -/
theorem Request.settingsPath_of_completed {given request : Request} {environment : Environment}
    (done : given.completed environment = .ok request) :
    request.settingsPath environment = effectiveSettingsPath given environment := by
  obtain ⟨date, rfl⟩ := completed_eq_ok done
  simp only [settingsPath, effectiveSettingsPath, Environment.settingsPath_eq]
  cases given.settings <;> cases environment.settings <;> cases environment.home <;> rfl

/-- A completed request is one to write the settings if the arguments make it one. -/
theorem Request.writesSettings_of_completed {given request : Request} {environment : Environment}
    (done : given.completed environment = .ok request) :
    request.writesSettings = given.writesSettings := by
  obtain ⟨date, rfl⟩ := completed_eq_ok done
  rfl

/-- A request that is not to write the settings changes nothing. -/
theorem Request.perform_of_not_writesSettings {request : Request}
    (idle : request.writesSettings = false) (host : Host) (path : List Char)
    (settings : Settings) (input : List UInt8) (files : Files) (clock : Date) :
    (request.perform host path settings input files clock).2 = files := by
  simp only [perform]
  cases offered : request.completions with
  | some shell => rfl
  | none =>
    have notWritten : request.writeDefaults = false := by simpa [writesSettings, offered] using idle
    simp [notWritten]

/-- A request to write the settings leaves what saving the defaults leaves. -/
theorem Request.perform_of_writesSettings {request : Request}
    (writes : request.writesSettings = true) (host : Host) (path : List Char)
    (settings : Settings) (input : List UInt8) (files : Files) (clock : Date) :
    request.perform host path settings input files clock =
      match Settings.save {} host.room files path with
      | .ok saved => (.ok (writtenMessage path), saved)
      | .error unsaved => (.error unsaved.failure, unsaved.left) := by
  obtain ⟨noCompletion, written⟩ := request.writesSettings_iff.mp writes
  cases outcome : Settings.save {} host.room files path <;>
    simp only [perform, noCompletion, written, if_true, outcome]

/-- The run gets to write the default settings, and writes them to this path: arguments and
environment make a request to write them, and those that are there can be read. -/
inductive GetsToWrite (arguments : List (List Char)) (environment : Environment)
    (files : Files) : List Char → Prop
  | intro {given request : Request} {settings : Settings}
      (parsed : Request.ofArguments arguments = .ok given)
      (completed : given.completed environment = .ok request)
      (writes : given.writesSettings = true)
      (loaded : Settings.load files (effectiveSettingsPath given environment) = .ok settings) :
      GetsToWrite arguments environment files (effectiveSettingsPath given environment)

section Run

variable {arguments : List (List Char)} {environment : Environment} {files : Files}

/-- A run that does not get to write the settings changes nothing. -/
theorem run_of_not_getsToWrite (never : ∀ path, ¬ GetsToWrite arguments environment files path)
    (host : Host) (input : List UInt8) (clock : Date) :
    (run host arguments environment input files clock).2 = files := by
  simp only [run]
  split
  · rfl
  · rename_i request asked
    obtain ⟨given, parsed, completed⟩ := (Attempt.bind_eq_ok_iff _ _ _).mp asked
    split
    · rfl
    · rename_i settings loaded
      rw [Request.loadSettings_eq, Request.settingsPath_of_completed completed] at loaded
      cases wish : request.writesSettings with
      | false => exact Request.perform_of_not_writesSettings wish _ _ _ _ _ _
      | true =>
        rw [Request.writesSettings_of_completed completed] at wish
        exact absurd (.intro parsed completed wish loaded) (never _)

/-- A run that gets to write the settings saves the defaults, and then says so. -/
theorem run_of_getsToWrite {path : List Char}
    (gets : GetsToWrite arguments environment files path) (host : Host) (input : List UInt8)
    (clock : Date) :
    run host arguments environment input files clock =
      match Settings.save {} host.room files path with
      | .ok saved => ((host.print (writtenMessage path)).mapError .failure, saved)
      | .error unsaved => (.error (.failure unsaved.failure), unsaved.left) := by
  obtain ⟨parsed, completed, writes, loaded⟩ := gets
  have asked : requested arguments environment = .ok _ :=
    (Attempt.bind_eq_ok_iff _ _ _).mpr ⟨_, parsed, completed⟩
  rw [← Request.writesSettings_of_completed completed] at writes
  rw [← Request.settingsPath_of_completed completed, ← Request.loadSettings_eq] at loaded
  rw [run, asked, ← Request.settingsPath_of_completed completed]
  simp only [loaded, Request.perform_of_writesSettings writes]
  cases Settings.save {} host.room files _ <;> rfl

/-- A run that does not get to write the default settings leaves the files and folders as they
are, whatever its answer is. One that gets to write them changes their file only, apart from
folders on the way to it that are made where nothing stood, and ends in one of three ways. It
may fail without a change to the file; it may fail with as much of the text in the file as
there is room for; or the file has all of the text, and then the run succeeds if standard
output takes its message, and later runs with the same path load the defaults in any case. -/
theorem run_touches_settings_only {host : Host} {input : List UInt8} {left : Files}
    {clock : Date} {answer : Except RunFault (List Char)}
    (ran : run host arguments environment input files clock = (answer, left)) :
    ((∀ path, ¬ GetsToWrite arguments environment files path) → left = files) ∧
      ∀ path, GetsToWrite arguments environment files path →
        (∃ detail, answer = .error (.failure (.settings detail)) ∧
          (files.AddsFolders (Path.OnWay path) left ∨
            ∃ bytes, host.room = some bytes ∧
              bytes < (Utf8.encode (Settings.text {})).length ∧
              files.Writes (Path.OnWay path) left path
                (.ofBytes ((Utf8.encode (Settings.text {})).take bytes)))) ∨
        (answer = (host.print (writtenMessage path)).mapError .failure ∧
          files.Writes (Path.OnWay path) left path (.text (Settings.text {})) ∧
          ∀ laterArguments laterEnvironment laterGiven later,
            Request.ofArguments laterArguments = .ok laterGiven →
            laterGiven.completed laterEnvironment = .ok later →
            effectiveSettingsPath laterGiven laterEnvironment = path →
            later.loadSettings laterEnvironment left = .ok {}) := by
  constructor
  · intro never
    have same := run_of_not_getsToWrite never host input clock
    rw [ran] at same
    exact same
  · intro path gets
    rw [run_of_getsToWrite gets] at ran
    split at ran
    · rename_i saved outcome
      obtain ⟨rfl, rfl⟩ := Prod.mk.inj ran
      obtain ⟨writes, loaded⟩ := Settings.writes_of_save outcome
      refine .inr ⟨rfl, writes, ?_⟩
      intro laterArguments laterEnvironment laterGiven later _ laterCompleted samePath
      rw [Request.loadSettings_eq, Request.settingsPath_of_completed laterCompleted, samePath]
      exact loaded
    · rename_i unsaved outcome
      obtain ⟨rfl, rfl⟩ := Prod.mk.inj ran
      exact .inl ⟨unsaved.fault.detail, rfl, Settings.left_of_save_error outcome⟩

end Run

/-- The default settings of a user who has none yet are written to a new folder in that of the
user. Another file stays what it is, and a later run that names the path loads the defaults. -/
theorem run_touches_settings_only_first_time :
    let host : Host := { script := fun _ => [] }
    let arguments := ["--write-default-config".toList]
    let environment : Environment := { home := some "me".toList }
    let path := "me/.bump/config.yaml".toList
    let todo : Location × Entry := (["todo".toList], .text "4 call".toList)
    let left : Files := ⟨[(["me".toList, ".bump".toList, "config.yaml".toList],
        .text (Settings.text {})), todo, (["me".toList], .folder),
      (["me".toList, ".bump".toList], .folder)]⟩
    let later : Request := { settings := some path }
    run host arguments environment [] ⟨[todo]⟩ Date.first = (.ok (writtenMessage path), left) ∧
      GetsToWrite arguments environment ⟨[todo]⟩ path ∧
      Files.Writes (Path.OnWay path) ⟨[todo]⟩ left path (.text (Settings.text {})) ∧
      later.loadSettings {} left = .ok {} := by
  intro host arguments environment path todo left later
  have ran : run host arguments environment [] ⟨[todo]⟩ Date.first =
      (.ok (writtenMessage path), left) := by decide +kernel
  have parsed : Request.ofArguments arguments = .ok { writeDefaults := true } := by decide +kernel
  have leads : effectiveSettingsPath { writeDefaults := true } environment = path := by
    decide +kernel
  have loaded : Settings.load ⟨[todo]⟩ path = .ok {} := by decide +kernel
  have gets : GetsToWrite arguments environment ⟨[todo]⟩ path :=
    leads ▸ .intro parsed rfl rfl (leads ▸ loaded)
  have laterParsed : Request.ofArguments ["--config=me/.bump/config.yaml".toList] = .ok later := by
    decide +kernel
  rcases (run_touches_settings_only ran).2 path gets with ⟨_, failed, _⟩ | ⟨_, writes, loads⟩
  · cases failed
  · exact ⟨ran, gets, writes, loads _ {} later later laterParsed rfl rfl⟩

/-- A failure need not leave the files as they are, and a success need not change one place
only. If standard output refuses the message, the settings are written all the same. If a file
has room for eight bytes, then those are what is left of the settings that it held. And where
the folder of the settings is missing, it is made along with the file. -/
theorem run_not_all_or_one :
    let plain : Host := { script := fun _ => [] }
    let refusing : Host := { plain with refusal := fun _ => some "refused".toList }
    let narrow : Host := { plain with room := some 8 }
    let arguments := ["--write-default-config".toList, "--config=c.yaml".toList]
    let defaults : Entry := .text (Settings.text {})
    let held : Files := ⟨[(["c.yaml".toList], .text "general: \x7b\x7d".toList)]⟩
    run refusing arguments {} [] ⟨[]⟩ Date.first =
        (.error (.failure (.output "refused".toList)), ⟨[(["c.yaml".toList], defaults)]⟩) ∧
      run narrow arguments {} [] held Date.first =
        (.error (.failure (Settings.Fault.cutShort "c.yaml".toList).failure),
          ⟨[(["c.yaml".toList], .text "general:".toList)]⟩) ∧
      run plain ["--write-default-config".toList] { home := some "h".toList } [] ⟨[]⟩ Date.first =
        (.ok "Wrote default config to h/.bump/config.yaml".toList,
          ⟨[(["h".toList, ".bump".toList, "config.yaml".toList], defaults),
            (["h".toList], .folder), (["h".toList, ".bump".toList], .folder)]⟩) := by
  decide +kernel

end Tickler
