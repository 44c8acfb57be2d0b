import QueryConditions.Proofs.Files.Reading

/-!
What making the directories of a path does to a file tree. The names of a path lead from place
to place; where there was nothing on the way there may be a directory now, and that is all that
has changed. A file in a directory is at the place below it.
-/

namespace QueryConditions

section Names

variable {s directory file : Text} {path : Path}

theorem splitAt_eq_splitOn (separator : Char) (s : Text) :
    splitAt separator s = s.splitOn separator := by
  induction s with
  | nil => rfl
  | cons c rest ih =>
      have some_part : rest.splitOn separator ≠ [] := List.splitOn_ne_nil separator rest
      have unfolded : (c :: rest).splitOn separator =
          if c = separator then [] :: rest.splitOn separator
          else (rest.splitOn separator).modifyHead (c :: ·) := by
        simp only [List.splitOn, List.splitOnP_cons_eq_if_modifyHead, beq_iff_eq]
      rw [splitAt, ih, unfolded]
      split
      · rfl
      · cases parts : rest.splitOn separator with
        | nil => contradiction
        | cons part parts => rfl

structure IsFileName (name : Text) : Prop where
  no_slash : '/' ∉ name
  not_nil : name ≠ []
  not_here : name ≠ Path.here
  not_up : name ≠ Path.up

/-- An ending of three characters or more makes a name of any text without a slash. -/
theorem isFileName_append {name ending : Text} (no_slash : '/' ∉ name) (no_slash' : '/' ∉ ending)
    (long : 2 < ending.length) : IsFileName (name ++ ending) := by
  have longer : 2 < (name ++ ending).length := by
    rw [List.length_append]
    omega
  exact ⟨by simp [no_slash, no_slash'], by rintro same; simp [same] at longer,
    by rintro same; simp [same, Path.here] at longer,
    by rintro same; simp [same, Path.up] at longer⟩

namespace Path

def partsOf (s : Text) : List Text := (splitAt '/' s).filter (!·.isEmpty)

def namesOf (s : Text) : List Text := (partsOf s).filter (· != here)

def startOf (s : Text) : Location := if s.head? = some '/' then .ofNames .root [] else .here

theorem ofText_eq_ok (parsed : ofText s = .ok path) :
    path.names = namesOf s ∧ path.start = startOf s := by
  simp only [ofText] at parsed
  split at parsed
  · contradiction
  split at parsed
  · contradiction
  split at parsed
  · contradiction
  cases parsed
  exact ⟨rfl, by simp [start, startOf]⟩

theorem partsOf_join (named : IsFileName file) :
    partsOf (join directory file) = partsOf directory ++ [file] := by
  have single : splitAt '/' file = [file] := by
    rw [splitAt_eq_splitOn, List.splitOn_eq_singleton named.no_slash]
  have below (outer : Text) :
      partsOf (outer ++ '/' :: file) = partsOf outer ++ [file] := by
    rw [partsOf, splitAt_eq_splitOn, List.splitOn_append_cons_self, ← splitAt_eq_splitOn,
      ← splitAt_eq_splitOn, single, List.filter_append]
    simp [partsOf, named.not_nil]
  rw [join]
  split
  · next closed =>
      rcases List.eq_nil_or_concat directory with rfl | ⟨outer, last, rfl⟩
      · simp [partsOf, single, splitAt, named.not_nil]
      · obtain rfl : last = '/' := by simpa using closed
        have outer_eq : partsOf (outer ++ ['/']) = partsOf outer := by
          rw [partsOf, splitAt_eq_splitOn, List.splitOn_append_cons_self, List.filter_append,
            ← splitAt_eq_splitOn]
          simp [partsOf]
        rw [List.concat_eq_append, outer_eq, List.append_assoc, List.singleton_append, below]
  · exact below directory

theorem namesOf_join (named : IsFileName file) :
    namesOf (join directory file) = namesOf directory ++ [file] := by
  rw [namesOf, partsOf_join named, List.filter_append]
  simp [namesOf, named.not_here]

theorem startOf_join (named : IsFileName file) :
    startOf (join directory file) = startOf directory := by
  have first : file.head? ≠ some '/' := fun slash => named.no_slash (List.mem_of_head? slash)
  cases directory with
  | nil => simp [join, startOf, first]
  | cons c rest =>
      rw [join]
      split <;> simp [startOf]

end Path

end Names

namespace Location

variable {start : Location} {name : Text}

def below (directory : Location) (name : Text) : Location :=
  ofNames directory.origin (name :: directory.names)

theorem step_eq_below (named : IsFileName name) : start.step name = start.below name := by
  rw [step, if_neg named.not_up]
  rfl

theorem below_injective : Function.Injective start.below := by
  intro first second same
  have names := congrArg Location.names same
  exact (List.cons.inj names).1

def along (start : Location) : List Text → List Location
  | [] => []
  | name :: rest => start.step name :: along (start.step name) rest

end Location

namespace Path

def placesOf (s : Text) : List Location := (startOf s).along (namesOf s)

def placeOf (s : Text) : Location := (namesOf s).foldl Location.step (startOf s)

end Path

namespace FileTree

variable {tree made before middle after : FileTree} {location start place : Location}
  {places : List Location} {names : List Text} {entry : Entry}

/-- At this place nothing has changed, unless it is one of those where a directory was missing
and there is one now. -/
def MadeAt (places : List Location) (before after : FileTree) (place : Location) : Prop :=
  after.find? place = before.find? place ∨
    place ∈ places ∧ before.find? place = none ∧ after.find? place = some .directory

theorem MadeAt.keeps (changed : MadeAt places before after place)
    (found : before.find? place = some entry) : after.find? place = some entry := by
  rcases changed with same | ⟨_, missing, _⟩
  · rw [same, found]
  · rw [missing] at found
    contradiction

theorem MadeAt.trans (first : MadeAt places before middle place)
    (second : MadeAt places middle after place) : MadeAt places before after place := by
  rcases second with same | ⟨member, missing, directory⟩
  · rcases first with same' | ⟨member, missing, directory⟩
    · exact .inl (same.trans same')
    · exact .inr ⟨member, missing, same.trans directory⟩
  · rcases first with same' | ⟨_, _, directory'⟩
    · exact .inr ⟨member, same'.symm.trans missing, directory⟩
    · rw [missing] at directory'
      contradiction

theorem MadeAt.cons (changed : MadeAt places before after place) :
    MadeAt (location :: places) before after place := by
  rcases changed with same | ⟨member, missing, directory⟩
  · exact .inl same
  · exact .inr ⟨List.mem_cons_of_mem location member, missing, directory⟩

theorem madeAt_put (missing : tree.find? location = none) (member : location ∈ places) :
    MadeAt places tree (tree.put location .directory) place := by
  have free : tree.find? location ≠ some .directory := by simp [missing]
  by_cases same : place = location
  · subst same
    exact .inr ⟨member, missing, find?_put_self free⟩
  · exact .inl (find?_put_of_ne free same)

theorem makeDirsFrom_madeAt (ending : Ending) (early : Bool) (tree : FileTree) (start : Location)
    (names : List Text) (place : Location) :
    MadeAt (start.along names) tree (tree.makeDirsFrom ending early start names).1 place := by
  induction names generalizing early tree start with
  | nil => exact .inl rfl
  | cons name rest ih =>
      rw [makeDirsFrom]
      split
      · exact .inl rfl
      · exact (ih early tree (start.step name)).cons
      · exact .inl rfl
      · next looked =>
          split
          · exact .inl rfl
          · have first : MadeAt (start.along (name :: rest)) tree _ place :=
              madeAt_put (look_eq_ok looked) List.mem_cons_self
            exact first.trans (ih true (tree.put (start.step name) .directory) _).cons

/-- The first directory is there before the others are made. -/
theorem makeDirsFrom_cons_eq_ok {ending : Ending} {early : Bool} {name : Text}
    (done : tree.makeDirsFrom ending early start (name :: names) = (made, .ok ())) :
    ∃ early, ∃ middle : FileTree, middle.find? (start.step name) = some .directory ∧
      middle.makeDirsFrom ending early (start.step name) names = (made, .ok ()) := by
  rw [makeDirsFrom] at done
  split at done
  · cases done
  · next looked => exact ⟨early, tree, look_eq_ok looked, done⟩
  · cases done
  · next looked =>
      split at done
      · cases done
      · have free : tree.find? (start.step name) ≠ some .directory := by simp [look_eq_ok looked]
        exact ⟨true, tree.put (start.step name) .directory, find?_put_self free, done⟩

theorem makeDirsFrom_eq_ok {ending : Ending} {early : Bool}
    (done : tree.makeDirsFrom ending early start names = (made, .ok ())) :
    ∀ place ∈ start.along names, made.find? place = some .directory := by
  induction names generalizing early tree start with
  | nil => simp [Location.along]
  | cons name rest ih =>
      obtain ⟨early, middle, directory, later⟩ := makeDirsFrom_cons_eq_ok done
      have changed :=
        makeDirsFrom_madeAt ending early middle (start.step name) rest (start.step name)
      rw [later] at changed
      exact List.forall_mem_cons.2 ⟨changed.keeps directory, ih later⟩

theorem makeDirs_madeAt (tree : FileTree) (path : Text) (place : Location) :
    MadeAt (Path.placesOf path) tree (tree.makeDirs path).1 place := by
  rw [makeDirs]
  split
  · exact .inl rfl
  · split
    · exact .inl rfl
    · next parts parsed =>
        obtain ⟨names, start⟩ := Path.ofText_eq_ok parsed
        rw [Path.placesOf, ← names, ← start]
        exact makeDirsFrom_madeAt parts.ending false tree parts.start parts.names place

theorem makeDirs_eq_ok {path : Text} (done : tree.makeDirs path = (made, .ok ())) :
    ∀ place ∈ Path.placesOf path, made.find? place = some .directory := by
  rw [makeDirs] at done
  split at done
  · next nothing =>
      rw [List.isEmpty_iff.1 nothing]
      exact List.forall_mem_nil _
  · split at done
    · cases done
    · next parts parsed =>
        obtain ⟨names, start⟩ := Path.ofText_eq_ok parsed
        rw [Path.placesOf, ← names, ← start]
        exact makeDirsFrom_eq_ok done

theorem enter_eq_ok (entered : tree.enter start names = .ok place) :
    place = names.foldl Location.step start := by
  induction names generalizing start with
  | nil => exact (Except.ok.inj entered).symm
  | cons name rest ih =>
      simp only [enter, bind, Except.bind] at entered
      split at entered
      · contradiction
      · split at entered
        · contradiction
        · contradiction
        · exact ih entered

theorem locate_join {directory file : Text} {path : Path} (named : IsFileName file)
    (parsed : Path.ofText (Path.join directory file) = .ok path)
    (located : tree.locate path = .ok place) :
    place = (Path.placeOf directory).below file := by
  obtain ⟨names, start⟩ := Path.ofText_eq_ok parsed
  rw [Path.namesOf_join named] at names
  rw [Path.startOf_join named] at start
  simp only [locate, names, List.getLast?_append, List.getLast?_singleton, Option.some_or,
    List.dropLast_concat, start] at located
  cases entered : tree.enter (Path.startOf directory) (Path.namesOf directory) with
  | error error => simp [entered, Except.map] at located
  | ok outer =>
      rw [entered] at located
      have stepped : outer.step file = place := Except.ok.inj located
      rw [← stepped, Location.step_eq_below named, enter_eq_ok entered]
      rfl

/-- By this path a text was written to this place, which is no directory's. -/
structure IsWritten (before after : FileTree) (path text : Text) (place : Location) : Prop where
  free : before.find? place ≠ some .directory
  eq_put : after = before.put place (.file (.text text))
  read_eq : after.read path = .ok text
  located : ∃ parts, Path.ofText path = .ok parts ∧ after.locate parts = .ok place

theorem isWritten_join {directory file text : Text} {written : FileTree} (named : IsFileName file)
    (done : tree.write (Path.join directory file) text = (written, .ok ())) :
    IsWritten tree written (Path.join directory file) text
      ((Path.placeOf directory).below file) := by
  obtain ⟨path, place, parsed, located, free, read, rfl⟩ := write_eq_put done
  obtain rfl := locate_join named parsed located
  exact ⟨free, rfl, read, path, parsed, locate_put (inside_of_find? free) free located⟩

namespace IsWritten

variable {path text path' text' : Text} {place' other : Location}

theorem find?_self (written : IsWritten before after path text place) :
    after.find? place = some (.file (.text text)) := by
  rw [written.eq_put, find?_put_self written.free]

theorem find?_of_ne (written : IsWritten before after path text place) (apart : other ≠ place) :
    after.find? other = before.find? other := by
  rw [written.eq_put, find?_put_of_ne written.free apart]

theorem directory (written : IsWritten before after path text place)
    (directory : before.find? other = some .directory) : after.find? other = some .directory := by
  have apart : other ≠ place := by
    rintro rfl
    exact written.free directory
  rw [written.find?_of_ne apart, directory]

theorem read_later (written : IsWritten before middle path text place)
    (later : IsWritten middle after path' text' place') (apart : place ≠ place') :
    after.read path = .ok text := by
  obtain ⟨parts, parsed, located⟩ := written.located
  rw [later.eq_put, read_put_of_ne later.free parsed located apart.symm, written.read_eq]

theorem madeAt (written : IsWritten middle after path text place) (apart : other ≠ place)
    (changed : MadeAt places before middle other) : MadeAt places before after other := by
  rwa [MadeAt, written.find?_of_ne apart]

end IsWritten

end FileTree

end QueryConditions
