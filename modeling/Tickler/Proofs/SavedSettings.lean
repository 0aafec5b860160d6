import Tickler.Settings.Store

/-!
# What saving leaves

Saving makes folders and writes one file. A folder is made only where nothing stood, and only
on the way to the folder of the file. The file is opened before it takes its text, so an
attempt to save ends in one of three ways: the file is not opened, and nothing but folders is
new; the file has taken a part of the text; or it holds all of it. Nothing else changes, and a
file that holds all of the text gives the settings back.

What stands at a location depends on the entries below it as well, because there is a folder
wherever an entry stands below. An entry that comes to stand inside a folder therefore changes
nothing at the locations around it, and each location that saving comes to is inside one.
-/

namespace Tickler

namespace Path

/-- The locations that segments lead through, the first one and the last included. -/
inductive Passes : Location → List (List Char) → Location → Prop
  | here (here : Location) (segments : List (List Char)) : Passes here segments here
  | further {here location : Location} {segment : List Char} {rest : List (List Char)}
      (passes : Passes (step here segment) rest location) :
      Passes here (segment :: rest) location

/-- The locations on the way to the folder of a path, and that folder itself. -/
def OnWay (path : List Char) (location : Location) : Prop :=
  Passes (origin (folder path)) (segments (folder path)) location

/-- All locations around a location are passable. -/
def Enclosed (passable : Location → Bool) (location : Location) : Prop :=
  ∀ outer, outer <+: location → outer ≠ location → passable outer = true

section Steps

variable {passable : Location → Bool} {here location : Location}
  (given : ∀ location, Files.isGiven location = true → passable location = true)

include given

/-- A path begins at a location that is enclosed by given ones. -/
theorem enclosed_origin (path : List Char) : Enclosed passable (origin path) := by
  intro outer inFront other
  apply given
  simp only [origin] at inFront other
  split at inFront
  · rename_i rooted
    rw [if_pos rooted] at other
    rcases List.prefix_cons_iff.mp inFront with rfl | ⟨rest, rfl, ends⟩
    · rfl
    · rw [List.prefix_nil.mp ends] at other
      exact absurd rfl other
  · rw [List.prefix_nil.mp inFront]
    rfl

/-- The location around an enclosed one is enclosed. Around the folder that a run starts in, and
around those outside, every location is given. -/
theorem Enclosed.outside (enclosed : Enclosed passable here) :
    Enclosed passable (outside here) := by
  simp only [Path.outside]
  split
  · exact enclosed
  · split
    · rename_i upward
      intro outer inFront other
      have inHere := (List.prefix_concat_iff.mp inFront).resolve_left other
      have outerUpward : outer.all isUpward = true :=
        List.all_eq_true.mpr fun part member =>
          List.all_eq_true.mp upward part (inHere.subset member)
      exact given outer (by simp [Files.isGiven, outerUpward])
    · rename_i notUpward
      intro outer inFront _
      have nonempty : here ≠ [] := by
        rintro rfl
        exact notUpward rfl
      refine enclosed outer (inFront.trans (List.dropLast_prefix here)) ?_
      rintro rfl
      have shorter := inFront.length_le
      rw [List.length_dropLast] at shorter
      have long := List.length_pos_iff.mpr nonempty
      omega

/-- A step from a passable location leads to one that is enclosed again. -/
theorem Enclosed.step (enclosed : Enclosed passable here) (passed : passable here = true)
    (segment : List Char) : Enclosed passable (step here segment) := by
  simp only [Path.step]
  split
  · exact enclosed
  · split
    · exact enclosed.outside given
    · intro outer inFront other
      have inHere := (List.prefix_concat_iff.mp inFront).resolve_left other
      by_cases same : outer = here
      · exact same ▸ passed
      · exact enclosed outer inHere same

/-- A path that can be followed leads to an enclosed location. -/
theorem enclosed_of_follow {segments : List (List Char)} (enclosed : Enclosed passable here)
    (followed : follow passable here segments = some location) : Enclosed passable location := by
  induction segments generalizing here with
  | nil => exact Option.some.inj followed ▸ enclosed
  | cons segment rest inductionHypothesis =>
    simp only [follow] at followed
    split at followed
    · rename_i passed
      exact inductionHypothesis (enclosed.step given passed.1 segment) followed
    · cases followed

end Steps

end Path

namespace Files

/-! ## What stands where -/

/-- There is a folder where one is given, where one has an entry, and around every entry. -/
theorem isFolder_iff (files : Files) (location : Location) :
    files.isFolder location = true ↔
      isGiven location = true ∨ files.get? location = some .folder ∨
        ∃ entry ∈ files.entries, location <+: entry.1 ∧ location ≠ entry.1 := by
  simp [isFolder, or_assoc]

/-- A given folder is a folder. -/
theorem isFolder_of_isGiven (files : Files) (location : Location)
    (given : isGiven location = true) : files.isFolder location = true :=
  (files.isFolder_iff location).mpr (.inl given)

/-- Where there is neither a file nor a folder, nothing has an entry. -/
theorem get?_eq_none {files : Files} {location : Location}
    (free : files.isFile location = false) (fresh : files.isFolder location = false) :
    files.get? location = none := by
  cases found : files.get? location with
  | none => rfl
  | some entry =>
    cases entry with
    | folder => simp [isFolder, found] at fresh
    | _ => simp [isFile, found] at free

section Making

variable {files : Files} {location : Location} (free : files.isFile location = false)

include free

/-- A new folder gives its location an entry, and no other one. -/
theorem get?_makeFolder (fresh : files.isFolder location = false) (other : Location) :
    (files.makeFolder location).get? other =
      if other = location then some .folder else files.get? other := by
  have absent := get?_eq_none free fresh
  rw [makeFolder, if_neg (by simp [fresh])]
  rw [get?] at absent ⊢
  rw [List.lookup_append]
  by_cases same : other = location
  · subst same
    rw [absent, if_pos rfl, Option.none_or, List.lookup_cons, beq_self_eq_true]
  · have apart : (other == location) = false := by simpa using same
    rw [if_neg same, List.lookup_cons, apart, List.lookup_nil, Option.or_none, get?]

variable (enclosed : Path.Enclosed files.isFolder location)

include enclosed

/-- A location that folders enclose is the one folder that is new when one is made there. -/
theorem isFolder_makeFolder (other : Location) :
    (files.makeFolder location).isFolder other = true ↔
      files.isFolder other = true ∨ other = location := by
  cases fresh : files.isFolder location with
  | true =>
    rw [makeFolder, if_pos fresh]
    refine ⟨.inl, ?_⟩
    rintro (folder | rfl)
    · exact folder
    · exact fresh
  | false =>
    have added : (files.makeFolder location).entries = files.entries ++ [(location, .folder)] := by
      rw [makeFolder, if_neg (by simp [fresh])]
    rw [isFolder_iff, isFolder_iff, get?_makeFolder free fresh, added]
    constructor
    · rintro (given | own | ⟨entry, member, below⟩)
      · exact .inl (.inl given)
      · split at own
        · rename_i same
          exact .inr same
        · exact .inl (.inr (.inl own))
      · rcases List.mem_append.mp member with kept | new
        · exact .inl (.inr (.inr ⟨entry, kept, below⟩))
        · rw [List.mem_singleton.mp new] at below
          exact .inl ((isFolder_iff _ _).mp (enclosed other below.1 below.2))
    · rintro ((given | own | ⟨entry, member, below⟩) | same)
      · exact .inl given
      · refine .inr (.inl ?_)
        rw [own, ite_self]
      · exact .inr (.inr ⟨entry, List.mem_append_left _ member, below⟩)
      · exact .inr (.inl (if_pos same))

/-- A new folder changes what stands at its location and nowhere else. -/
theorem standing?_makeFolder (other : Location) :
    (files.makeFolder location).standing? other =
      if other = location then some .folder else files.standing? other := by
  have folders := isFolder_makeFolder free enclosed other
  simp only [standing?]
  by_cases same : other = location
  · rw [if_pos same, if_pos (folders.mpr (.inr same))]
  · rw [if_neg same]
    have kept : (files.makeFolder location).isFolder other = files.isFolder other := by
      rw [Bool.eq_iff_iff, folders]
      exact or_iff_left same
    rw [kept]
    cases fresh : files.isFolder location with
    | true => rw [makeFolder, if_pos fresh]
    | false => rw [get?_makeFolder free fresh, if_neg same]

end Making

section Putting

variable {files : Files} {place : Location} (free : files.isFolder place = false)
  (enclosed : Path.Enclosed files.isFolder place) {entry : Entry} (file : entry ≠ .folder)

include free enclosed file

/-- A file that comes to stand where folders enclose it, and where there is none, leaves the
folders what they are. -/
theorem isFolder_put : (files.put place entry).isFolder = files.isFolder := by
  funext other
  rw [Bool.eq_iff_iff, isFolder_iff, isFolder_iff, get?_put]
  simp only [put, List.mem_cons, List.mem_filter, bne_iff_ne]
  constructor
  · rintro (given | own | ⟨standing, rfl | ⟨member, _⟩, below⟩)
    · exact .inl given
    · split at own
      · exact absurd (Option.some.inj own) file
      · exact .inr (.inl own)
    · exact (isFolder_iff _ _).mp (enclosed other below.1 below.2)
    · exact .inr (.inr ⟨standing, member, below⟩)
  · rintro (given | own | ⟨standing, member, below⟩)
    · exact .inl given
    · have apart : other ≠ place := by
        rintro rfl
        rw [(isFolder_iff files other).mpr (.inr (.inl own))] at free
        cases free
      exact .inr (.inl ((if_neg apart).trans own))
    · by_cases same : standing.1 = place
      · exact .inr (.inr ⟨(place, entry), .inl rfl, same ▸ below⟩)
      · exact .inr (.inr ⟨standing, .inr ⟨member, same⟩, below⟩)

/-- The file changes what stands at its place and nowhere else. -/
theorem standing?_put (other : Location) :
    (files.put place entry).standing? other =
      if other = place then some entry else files.standing? other := by
  simp only [standing?, isFolder_put free enclosed file, get?_put]
  by_cases same : other = place
  · subst same
    simp [free]
  · simp only [if_neg same]

end Putting

/-! ## What is new -/

/-- A location has what it had, unless it had nothing, is among some places, and has a folder
now. -/
def SameOrNewFolder (places : Location → Prop) (files left : Files) (location : Location) : Prop :=
  left.standing? location = files.standing? location ∨
    places location ∧ files.standing? location = none ∧ left.standing? location = some .folder

/-- Nothing but folders is new, and those are at some places where nothing stood. -/
def AddsFolders (places : Location → Prop) (files left : Files) : Prop :=
  ∀ location, SameOrNewFolder places files left location

/-- The file that a path leads to is what was written there. Nothing else is new but folders
at some places where nothing stood. -/
def Writes (places : Location → Prop) (files left : Files) (path : List Char) (entry : Entry) :
    Prop :=
  ∃ place, Path.followed? left.isFolder path = some place ∧ left.standing? place = some entry ∧
    ∀ location, location ≠ place → SameOrNewFolder places files left location

section Adding

variable {places : Location → Prop} {files made left : Files}

/-- Nothing is new where nothing happens. -/
theorem AddsFolders.refl : AddsFolders places files files := fun _ => .inl rfl

/-- Folders may be added at more places. -/
theorem AddsFolders.mono {more : Location → Prop} (adds : AddsFolders places files left)
    (wider : ∀ location, places location → more location) : AddsFolders more files left :=
  fun location => (adds location).imp_right fun new => ⟨wider location new.1, new.2⟩

/-- A location may have had its folder from an earlier turn. What is new in a later one was
not there in the earlier one. -/
theorem SameOrNewFolder.after {location : Location} (adds : AddsFolders places files made)
    (later : SameOrNewFolder places made left location) :
    SameOrNewFolder places files left location := by
  rcases later with kept | ⟨inside, absent, isFolder⟩
  · rw [SameOrNewFolder, kept]
    exact adds location
  · rcases adds location with same | ⟨_, _, already⟩
    · exact .inr ⟨inside, same ▸ absent, isFolder⟩
    · rw [already] at absent
      cases absent

/-- Folders may be added in two turns. -/
theorem AddsFolders.trans (first : AddsFolders places files made)
    (second : AddsFolders places made left) : AddsFolders places files left :=
  fun location => (second location).after first

/-- Folders may be added before a file is written. -/
theorem Writes.after {path : List Char} {entry : Entry} (adds : AddsFolders places files made)
    (writes : Writes places made left path entry) : Writes places files left path entry := by
  obtain ⟨place, leads, standing, others⟩ := writes
  exact ⟨place, leads, standing, fun location apart => (others location apart).after adds⟩

/-- A folder is new only where nothing stood. -/
theorem addsFolders_makeFolder {here : Location} (free : files.isFile here = false)
    (enclosed : Path.Enclosed files.isFolder here) (inside : places here) :
    AddsFolders places files (files.makeFolder here) := by
  intro location
  have standing := standing?_makeFolder free enclosed location
  by_cases same : location = here
  · subst same
    rw [if_pos rfl] at standing
    cases fresh : files.isFolder location with
    | true => exact .inl (by rw [makeFolder, if_pos fresh])
    | false =>
      refine .inr ⟨inside, ?_, standing⟩
      rw [standing?, if_neg (by simp [fresh]), get?_eq_none free fresh]
  · exact .inl (standing.trans (if_neg same))

/-- Folders are made at locations that the segments lead through, and each of those is inside
the folders made before. -/
theorem addsFolders_makeFolders {here : Location} {segments : List (List Char)}
    (enclosed : Path.Enclosed files.isFolder here) :
    AddsFolders (Path.Passes here segments) files (files.makeFolders here segments).2 := by
  induction segments generalizing files here with
  | nil =>
    simp only [makeFolders]
    split
    · exact .refl
    · rename_i free
      exact addsFolders_makeFolder (by simpa using free) enclosed (.here here [])
  | cons segment rest inductionHypothesis =>
    simp only [makeFolders]
    split
    · exact .refl
    · rename_i notFile
      have free : files.isFile here = false := by simpa using notFile
      have first := addsFolders_makeFolder free enclosed (Path.Passes.here here (segment :: rest))
      split
      · have folders := isFolder_makeFolder free enclosed
        have passed : (files.makeFolder here).isFolder here = true := (folders here).mpr (.inr rfl)
        have around : Path.Enclosed (files.makeFolder here).isFolder here :=
          fun outer inFront other => (folders outer).mpr (.inl (enclosed outer inFront other))
        have further := around.step (isFolder_of_isGiven _) passed segment
        exact first.trans ((inductionHypothesis further).mono fun _ => .further)
      · exact first

/-- The folders of a path are made at the locations that it leads through. -/
theorem addsFolders_makePath (path : List Char) :
    AddsFolders (Path.Passes (Path.origin path) (Path.segments path)) files
      (files.makePath path).2 := by
  simp only [makePath]
  split
  · exact addsFolders_makeFolders (Path.enclosed_origin files.isFolder_of_isGiven path)
  · exact .refl

end Adding

/-! ## What is written -/

/-- Bytes make a file, be they a text or not. -/
theorem ofBytes_ne_folder (bytes : List UInt8) : Entry.ofBytes bytes ≠ .folder := by
  simp only [Entry.ofBytes]
  split <;> nofun

/-- A text is found in the file of its bytes. -/
theorem ofBytes_encode (contents : List Char) :
    Entry.ofBytes (Utf8.encode contents) = .text contents := by
  simp only [Entry.ofBytes, Utf8.decode?_encode]

section Writing

variable {places : Location → Prop} {files left : Files} {room : Option Nat}
  {path contents : List Char}

/-- The file that a path names for writing is where the path leads to. Folders enclose it, and
it is none. -/
theorem writable?_eq_some {place : Location} (found : files.writable? path = some place) :
    Path.followed? files.isFolder path = some place ∧ files.isFolder place = false ∧
      Path.Enclosed files.isFolder place := by
  simp only [writable?] at found
  split at found
  · rename_i location followed
    split at found
    · rename_i fits
      obtain rfl : location = place := Option.some.inj found
      refine ⟨followed, by simpa using fits.2, ?_⟩
      simp only [Path.followed?] at followed
      split at followed
      · have began := Path.enclosed_origin files.isFolder_of_isGiven path
        exact Path.enclosed_of_follow files.isFolder_of_isGiven began followed
      · cases followed
    · cases found
  · cases found

/-- To open a file and then to let it take bytes changes what stands there and nowhere else, and
the path still leads there. -/
theorem writes_of_writable {place : Location} (found : files.writable? path = some place)
    (bytes : List UInt8) :
    Writes places files ((files.put place (.text [])).put place (.ofBytes bytes)) path
      (.ofBytes bytes) := by
  obtain ⟨followed, free, enclosed⟩ := writable?_eq_some found
  have emptyFile : Entry.text [] ≠ .folder := nofun
  have opened := isFolder_put free enclosed emptyFile
  have file := ofBytes_ne_folder bytes
  rw [← opened] at followed free
  have taken := isFolder_put free (opened ▸ enclosed) file
  have standing := standing?_put free (opened ▸ enclosed) file
  refine ⟨place, taken ▸ followed, (standing place).trans (if_pos rfl), ?_⟩
  intro other apart
  refine .inl ?_
  rw [standing other, if_neg apart, standing?_put (opened ▸ free) enclosed emptyFile,
    if_neg apart]

/-- A text that is written to the end stands in the file. -/
theorem writes_of_done (written : files.write room path contents = .done left) :
    Writes places files left path (.text contents) := by
  simp only [write] at written
  split at written
  · cases written
  · rename_i place found
    split at written
    · rename_i whole
      cases written
      rw [whole, ← ofBytes_encode contents]
      exact writes_of_writable found _
    · cases written

/-- A text is cut short only where there is no room for all of it. The file has then taken as
many of its bytes as it has room for. -/
theorem writes_of_cutShort (written : files.write room path contents = .cutShort left) :
    ∃ bytes, room = some bytes ∧ bytes < (Utf8.encode contents).length ∧
      Writes places files left path (.ofBytes ((Utf8.encode contents).take bytes)) := by
  simp only [write] at written
  split at written
  · cases written
  · rename_i place found
    split at written
    · cases written
    · rename_i part
      cases written
      cases room with
      | none => simp [fitting] at part
      | some bytes =>
        have short : bytes < (Utf8.encode contents).length :=
          Nat.lt_of_not_le fun fits => part (List.take_of_length_le fits)
        exact ⟨bytes, rfl, short, writes_of_writable found _⟩

/-- What was written is found at its path. -/
theorem Writes.at? {entry : Entry} (writes : Writes places files left path entry) :
    left.at? path = some entry := by
  obtain ⟨place, leads, standing, _⟩ := writes
  simp only [Files.at?, leads, standing]

end Writing

end Files

namespace Settings

/-- Folders come to be on the way to the folder of a path, whether all can be made or not. -/
theorem addsFolders_makeFolder (files : Files) (path : List Char) :
    (∀ made, makeFolder files path = .ok made → Files.AddsFolders (Path.OnWay path) files made) ∧
      ∀ unsaved, makeFolder files path = .error unsaved →
        Files.AddsFolders (Path.OnWay path) files unsaved.left := by
  have adds := files.addsFolders_makePath (Path.folder path)
  simp only [makeFolder]
  split
  · refine ⟨?_, nofun⟩
    rintro made ⟨⟩
    exact .refl
  · split
    · rename_i made outcome
      rw [outcome] at adds
      refine ⟨?_, nofun⟩
      rintro _ ⟨⟩
      exact adds
    · rename_i left outcome
      rw [outcome] at adds
      refine ⟨nofun, ?_⟩
      rintro _ ⟨⟩
      exact adds

variable {settings : Settings} {room : Option Nat} {files : Files} {path : List Char}

/-- Settings that are saved stand in the file of their path, and are loaded from it again. -/
theorem writes_of_save {left : Files} (saved : save settings room files path = .ok left) :
    Files.Writes (Path.OnWay path) files left path (.text settings.text) ∧
      load left path = .ok settings := by
  obtain ⟨made, done, written⟩ := (Attempt.bind_eq_ok_iff _ _ _).mp saved
  have adds := (addsFolders_makeFolder files path).1 made done
  split at written
  · rename_i result wrote
    cases written
    have writes := (Files.writes_of_done wrote).after adds
    refine ⟨writes, ?_⟩
    simp only [load, writes.at?, ofText_text]
    rfl
  · cases written
  · cases written

/-- If settings are not saved, then nothing but folders is new, or there is no room for all of
their text and the file of their path has taken the front part that there is room for. -/
theorem left_of_save_error {unsaved : Unsaved}
    (refused : save settings room files path = .error unsaved) :
    Files.AddsFolders (Path.OnWay path) files unsaved.left ∨
      ∃ bytes, room = some bytes ∧ bytes < (Utf8.encode settings.text).length ∧
        Files.Writes (Path.OnWay path) files unsaved.left path
          (.ofBytes ((Utf8.encode settings.text).take bytes)) := by
  obtain ⟨whenMade, whenNotMade⟩ := addsFolders_makeFolder files path
  rcases (Attempt.bind_eq_error_iff _ _ _).mp refused with notMade | ⟨made, done, unwritten⟩
  · exact .inl (whenNotMade unsaved notMade)
  · have adds := whenMade made done
    split at unwritten
    · cases unwritten
    · rename_i left wrote
      cases unwritten
      obtain ⟨bytes, limited, short, writes⟩ := Files.writes_of_cutShort wrote
      exact .inr ⟨bytes, limited, short, writes.after adds⟩
    · cases unwritten
      exact .inl adds

end Settings

end Tickler
