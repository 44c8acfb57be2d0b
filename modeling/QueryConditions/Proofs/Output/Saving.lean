import QueryConditions.Output.Artifacts
import QueryConditions.Proofs.Files.Directories
import QueryConditions.Proofs.Text.Trim

/-!
What saving conditions and a report does to a file tree. The name of the two files cannot lead
out of the directory; where it is accepted, saving ends with the first thing that fails, and
until then only missing directories, the conditions and then the report have come to the tree.
-/

namespace QueryConditions.Artifacts

variable {tree made written after : FileTree} {directory name path text : Text}
  {sources : List Source} {error : FileError}

/-- Something in a name is no blank, and nothing in it leads elsewhere. -/
def StaysInside (name : Text) : Prop :=
  (∃ c ∈ name, isBlank c = false) ∧ '/' ∉ name ∧ '\\' ∉ name ∧ name ≠ Path.up

instance : Decidable (StaysInside name) :=
  decidable_of_iff
    (name.any (!isBlank ·) = true ∧ '/' ∉ name ∧ '\\' ∉ name ∧ name ≠ Path.up)
    (by simp [StaysInside])

/-- With the other tests passed, a name has no slash and is its own only part. -/
theorem checkName_eq_none_iff : checkName name = none ↔ StaysInside name := by
  have single (whole : '/' ∉ name) :
      (splitAt '/' name).contains Path.up = true ↔ name = Path.up := by
    rw [splitAt_eq_splitOn, List.splitOn_eq_singleton whole]
    simp [eq_comm]
  rw [checkName]
  constructor
  · intro accepted
    split at accepted
    · contradiction
    split at accepted
    · contradiction
    split at accepted
    · contradiction
    split at accepted
    · contradiction
    next solid _ up separators =>
      obtain ⟨slash, back⟩ : '/' ∉ name ∧ '\\' ∉ name := by simpa using separators
      rw [List.isEmpty_iff, trim_eq_nil_iff] at solid
      exact ⟨by simpa using solid, slash, back, fun same => up ((single slash).2 same)⟩
  · rintro ⟨solid, slash, back, up⟩
    have shown : ¬(Text.trim name).isEmpty = true := by
      rw [List.isEmpty_iff, trim_eq_nil_iff]
      simpa using solid
    have relative : name.head? ≠ some '/' := fun first => slash (List.mem_of_head? first)
    rw [if_neg shown, if_neg relative, if_neg (up ∘ (single slash).1), if_neg]
    simp [slash, back]

theorem run_writeFile_of_ok (done : tree.write path text = (written, .ok ())) :
    (writeFile (m := StateM FileTree) path text).run tree = (.ok (), written) := by
  rw [writeFile, run_bind, run_write, done]
  rfl

theorem run_writeFile_of_error (failed : tree.write path text = (tree, .error error)) :
    (writeFile (m := StateM FileTree) path text).run tree =
      (.error (.file path error), tree) := by
  rw [writeFile, run_bind, run_write, failed]
  rfl

/-- How saving ends that takes this text for the conditions and this for the report. -/
inductive Ends (tree : FileTree) (directory name conditions report : Text) :
    Except Failure Unit → FileTree → Prop
  | undone {made : FileTree} {error : FileError}
      (failed : tree.makeDirs directory = (made, .error error)) :
      Ends tree directory name conditions report (.error (.directory error)) made
  | unstated {made : FileTree} {error : FileError}
      (done : tree.makeDirs directory = (made, .ok ()))
      (failed : made.write (conditionsPath directory name) conditions = (made, .error error)) :
      Ends tree directory name conditions report
        (.error (.file (conditionsPath directory name) error)) made
  | unreported {made stated : FileTree} {error : FileError}
      (done : tree.makeDirs directory = (made, .ok ()))
      (wrote : made.write (conditionsPath directory name) conditions = (stated, .ok ()))
      (failed : stated.write (reportPath directory name) report = (stated, .error error)) :
      Ends tree directory name conditions report
        (.error (.file (reportPath directory name) error)) stated
  | saved {made stated reported : FileTree}
      (done : tree.makeDirs directory = (made, .ok ()))
      (wrote : made.write (conditionsPath directory name) conditions = (stated, .ok ()))
      (wrote' : stated.write (reportPath directory name) report = (reported, .ok ())) :
      Ends tree directory name conditions report (.ok ()) reported

theorem save_of_refused {refused : NameError} (checked : checkName name = some refused) :
    (save (m := StateM FileTree) directory name sources).run tree =
      (.error (.name refused), tree) := by
  rw [save, checked]
  rfl

theorem ends_save (checked : checkName name = none) :
    let run := (save (m := StateM FileTree) directory name sources).run tree
    Ends tree directory name (Document.renderSources sources .json) (Report.render sources)
      run.1 run.2 := by
  generalize rendered : Document.renderSources sources .json = conditions
  generalize reported : Report.render sources = report
  rw [save, checked]
  simp only [run_bind, run_makeDirs, rendered, reported]
  rcases done : tree.makeDirs directory with ⟨made, _ | _⟩
  · exact .undone done
  · simp only [run_bind]
    rcases wrote : made.write (conditionsPath directory name) conditions with ⟨stated, error | _⟩
    · obtain rfl := FileTree.write_eq_error wrote
      rw [run_writeFile_of_error wrote]
      exact .unstated done wrote
    · rw [run_writeFile_of_ok wrote]
      rcases wrote' : stated.write (reportPath directory name) report with ⟨after, error | _⟩
      · obtain rfl := FileTree.write_eq_error wrote'
        simp only [run_writeFile_of_error wrote']
        exact .unreported done wrote wrote'
      · simp only [run_writeFile_of_ok wrote']
        exact .saved done wrote wrote'

def conditionsPlace (directory name : Text) : Location :=
  (Path.placeOf directory).below (name ++ "_conditions.json".toList)

def reportPlace (directory name : Text) : Location :=
  (Path.placeOf directory).below (name ++ "_report.md".toList)

theorem conditionsPlace_ne_reportPlace (directory name : Text) :
    conditionsPlace directory name ≠ reportPlace directory name := by
  intro same
  have endings := List.append_cancel_left (Location.below_injective same)
  contradiction

section Ends

variable {conditions report : Text} {result : Except Failure Unit} {failure : Failure}

theorem isWritten_conditions (slash : '/' ∉ name)
    (wrote : made.write (conditionsPath directory name) text = (written, .ok ())) :
    made.IsWritten written (conditionsPath directory name) text (conditionsPlace directory name) :=
  FileTree.isWritten_join (isFileName_append slash (by decide) (by decide)) wrote

theorem isWritten_report (slash : '/' ∉ name)
    (wrote : made.write (reportPath directory name) text = (written, .ok ())) :
    made.IsWritten written (reportPath directory name) text (reportPlace directory name) :=
  FileTree.isWritten_join (isFileName_append slash (by decide) (by decide)) wrote

theorem madeAt_of_makeDirs {outcome : Except FileError Unit}
    (done : tree.makeDirs directory = (made, outcome)) (location : Location) :
    FileTree.MadeAt (Path.placesOf directory) tree made location := by
  have changed := FileTree.makeDirs_madeAt tree directory location
  rwa [done] at changed

/-- Elsewhere there is nothing new but directories. -/
theorem Ends.elsewhere (ended : Ends tree directory name conditions report result after)
    (slash : '/' ∉ name) {location : Location} (apart : location ≠ conditionsPlace directory name)
    (apart' : location ≠ reportPlace directory name) :
    FileTree.MadeAt (Path.placesOf directory) tree after location := by
  cases ended with
  | undone failed => exact madeAt_of_makeDirs failed location
  | unstated done _ => exact madeAt_of_makeDirs done location
  | unreported done wrote _ =>
      exact (isWritten_conditions slash wrote).madeAt apart (madeAt_of_makeDirs done location)
  | saved done wrote wrote' =>
      have stated := (isWritten_conditions slash wrote).madeAt apart
        (madeAt_of_makeDirs done location)
      exact (isWritten_report slash wrote').madeAt apart' stated

theorem Ends.of_ok (ended : Ends tree directory name conditions report (.ok ()) after)
    (slash : '/' ∉ name) :
    after.find? (conditionsPlace directory name) = some (.file (.text conditions)) ∧
    after.find? (reportPlace directory name) = some (.file (.text report)) ∧
    after.read (conditionsPath directory name) = .ok conditions ∧
    after.read (reportPath directory name) = .ok report ∧
    ∀ place ∈ Path.placesOf directory, after.find? place = some .directory := by
  cases ended with
  | saved done wrote wrote' =>
      have apart := conditionsPlace_ne_reportPlace directory name
      have stated := isWritten_conditions slash wrote
      have reported := isWritten_report slash wrote'
      refine ⟨?_, reported.find?_self, stated.read_later reported apart, reported.read_eq, ?_⟩
      · rw [reported.find?_of_ne apart, stated.find?_self]
      · intro place member
        exact reported.directory (stated.directory (FileTree.makeDirs_eq_ok done place member))

/-- On a failure there is no new report, and conditions only if the report was the failure. -/
theorem Ends.of_error
    (ended : Ends tree directory name conditions report (.error failure) after)
    (slash : '/' ∉ name) :
    FileTree.MadeAt (Path.placesOf directory) tree after (reportPlace directory name) ∧
    (FileTree.MadeAt (Path.placesOf directory) tree after (conditionsPlace directory name) ∨
      (∃ error, failure = .file (reportPath directory name) error) ∧
      after.find? (conditionsPlace directory name) = some (.file (.text conditions))) := by
  cases ended with
  | undone failed =>
      exact ⟨madeAt_of_makeDirs failed _, .inl (madeAt_of_makeDirs failed _)⟩
  | unstated done _ => exact ⟨madeAt_of_makeDirs done _, .inl (madeAt_of_makeDirs done _)⟩
  | unreported done wrote _ =>
      have apart := (conditionsPlace_ne_reportPlace directory name).symm
      have stated := isWritten_conditions slash wrote
      exact ⟨stated.madeAt apart (madeAt_of_makeDirs done _),
        .inr ⟨⟨_, rfl⟩, stated.find?_self⟩⟩

/-- A file keeps its content unless it has the conditions' place, or the report's and nothing
failed. -/
theorem Ends.keeps (ended : Ends tree directory name conditions report result after)
    (slash : '/' ∉ name) {location : Location} {content : Content}
    (apart : location ≠ conditionsPlace directory name)
    (failed : location = reportPlace directory name → result ≠ .ok ())
    (found : tree.find? location = some (.file content)) :
    after.find? location = some (.file content) := by
  by_cases same : location = reportPlace directory name
  · cases result with
    | ok done => exact absurd rfl (failed same)
    | error failure =>
        subst same
        exact (ended.of_error slash).1.keeps found
  · exact (ended.elsewhere slash apart same).keeps found

end Ends

theorem save_of_outside (outside : ¬StaysInside name) : ∃ refused,
    (save (m := StateM FileTree) directory name sources).run tree =
      (.error (.name refused), tree) := by
  cases checked : checkName name with
  | none => exact absurd (checkName_eq_none_iff.1 checked) outside
  | some refused => exact ⟨refused, save_of_refused checked⟩

/-- Saving refuses just the names that could lead elsewhere, before anything is made. Under any
other, whatever fails, there are new directories along the path at most, and the two files in the
last of them. -/
theorem save_stays_inside (tree : FileTree) (directory name : Text) (sources : List Source) :
    let run := (save (m := StateM FileTree) directory name sources).run tree
    let conditions := conditionsPlace directory name
    let report := reportPlace directory name
    let conditionsEntry := Entry.file (.text (Document.renderSources sources .json))
    let reportEntry := Entry.file (.text (Report.render sources))
    ((∃ refused, run.1 = .error (.name refused)) ↔ ¬StaysInside name) ∧
    (¬StaysInside name → run.2 = tree) ∧
    (StaysInside name →
      (∀ location, location ≠ conditions → location ≠ report →
        FileTree.MadeAt (Path.placesOf directory) tree run.2 location) ∧
      (∀ location content, location ≠ conditions → (location = report → run.1 ≠ .ok ()) →
        tree.find? location = some (.file content) →
        run.2.find? location = some (.file content)) ∧
      (run.1 = .ok () →
        run.2.find? conditions = some conditionsEntry ∧
        run.2.find? report = some reportEntry ∧
        run.2.read (conditionsPath directory name) =
          .ok (Document.renderSources sources .json) ∧
        run.2.read (reportPath directory name) = .ok (Report.render sources) ∧
        ∀ place ∈ Path.placesOf directory, run.2.find? place = some .directory) ∧
      (∀ failure, run.1 = .error failure →
        FileTree.MadeAt (Path.placesOf directory) tree run.2 report ∧
        (FileTree.MadeAt (Path.placesOf directory) tree run.2 conditions ∨
          (∃ error, failure = .file (reportPath directory name) error) ∧
          run.2.find? conditions = some conditionsEntry))) := by
  intro run conditions report conditionsEntry reportEntry
  refine ⟨⟨?_, ?_⟩, ?_, ?_⟩
  -- None of the ways to end with such a name blames the name.
  · rintro ⟨refused, result⟩ inside
    have ended : Ends tree directory name _ _ run.1 run.2 :=
      ends_save (checkName_eq_none_iff.2 inside)
    rw [result] at ended
    cases ended
  · intro outside
    obtain ⟨refused, run_eq⟩ := @save_of_outside tree directory name sources outside
    exact ⟨refused, congrArg Prod.fst run_eq⟩
  · intro outside
    obtain ⟨refused, run_eq⟩ := @save_of_outside tree directory name sources outside
    exact congrArg Prod.snd run_eq
  · intro inside
    have slash : '/' ∉ name := inside.2.1
    have ended : Ends tree directory name _ _ run.1 run.2 :=
      ends_save (checkName_eq_none_iff.2 inside)
    refine ⟨fun location => ended.elsewhere slash,
      fun location content apart failed => ended.keeps slash apart failed, ?_, ?_⟩
    · intro result
      rw [result] at ended
      exact ended.of_ok slash
    · intro failure result
      rw [result] at ended
      exact ended.of_error slash

/-- A name that is refused, one that goes well in a new directory, and the same where the report's
place is taken by a directory. -/
theorem save_stays_inside_around_directory :
    let tree := FileTree.empty.plant "out/all_report.md".toList .directory
    let run (directory name : String) :=
      (save (m := StateM FileTree) directory.toList name.toList []).run tree
    (¬StaysInside "..".toList ∧ (run "out" "..").2 = tree) ∧
    (StaysInside "all".toList ∧ (run "a/../new" "all").1 = .ok () ∧
      (run "a/../new" "all").2.read "a/../new/all_conditions.json".toList =
        .ok "\x7b\x7d".toList) ∧
    ((run "out" "all").1 = .error (.file "out/all_report.md".toList .isDirectory) ∧
      (run "out" "all").2.find? (reportPlace "out".toList "all".toList) =
        some .directory) := by
  intro tree run
  have outside : ¬StaysInside "..".toList := by decide
  have inside : StaysInside "all".toList := by decide
  have saved : (run "a/../new" "all").1 = .ok () := by decide +kernel
  have failed :
      (run "out" "all").1 = .error (.file "out/all_report.md".toList .isDirectory) := by
    decide +kernel
  have there : tree.find? (reportPlace "out".toList "all".toList) = some .directory := by
    decide +kernel
  obtain ⟨_, _, later, _⟩ :=
    (save_stays_inside tree "a/../new".toList "all".toList []).2.2 inside
  obtain ⟨_, _, _, report⟩ := (save_stays_inside tree "out".toList "all".toList []).2.2 inside
  exact ⟨⟨outside, (save_stays_inside tree "out".toList "..".toList []).2.1 outside⟩,
    ⟨inside, saved, (later saved).2.2.1⟩, failed, (report _ failed).1.keeps there⟩

end QueryConditions.Artifacts
