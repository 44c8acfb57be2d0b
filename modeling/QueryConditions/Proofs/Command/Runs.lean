import QueryConditions.Command.Run
import QueryConditions.Proofs.Json.Documents
import QueryConditions.Proofs.Output.Saving

/-!
What a command line does to a file tree and what it says. Both commands read all their files
before anything else, and the first that cannot be read ends them.
-/

namespace QueryConditions

variable {tree : FileTree} {arguments : List Text} {failure : ReadFailure} {texts : List Text}

theorem runOn_of_accepted {command : Command} (accepted : Command.parse? arguments = some command) :
    runOn tree arguments = (command.run (m := StateM FileTree)).run tree := by
  rw [runOn, runArguments, accepted]
  rfl

section Extract

variable {command : ExtractCommand}

namespace ExtractCommand

theorem extractFiles_append {before : List Text} (after : List Text)
    (read : before.map tree.read = texts.map .ok) :
    (command.extractFiles (m := StateM FileTree) (before ++ after)).run tree =
      let later := (command.extractFiles (m := StateM FileTree) after).run tree
      (⟨List.zipWith Source.ofSql before texts ++ later.1.sources,
        texts.flatMap command.logOf ++ later.1.log, later.1.failure?⟩, later.2) := by
  induction before generalizing texts with
  | nil =>
      obtain rfl := List.map_eq_nil_iff.1 read.symm
      rfl
  | cons path before ih =>
      cases texts with
      | nil => simp at read
      | cons text texts =>
          obtain ⟨first, later⟩ := List.cons.inj read
          rw [List.cons_append, extractFiles, run_bind, run_read, first]
          simp only
          rw [run_bind, ih later, List.flatMap_cons, List.append_assoc]
          rfl

theorem extractFiles_of_texts {files : List Text} (read : files.map tree.read = texts.map .ok) :
    (command.extractFiles (m := StateM FileTree) files).run tree =
      (⟨List.zipWith Source.ofSql files texts, texts.flatMap command.logOf, none⟩, tree) := by
  have whole := @extractFiles_append tree texts command files [] read
  have none_left : (command.extractFiles (m := StateM FileTree) []).run tree =
      (⟨[], [], none⟩, tree) := rfl
  simpa only [List.append_nil, none_left] using whole

/-- Before the run ends with a file that cannot be read it has extracted from those before it. -/
theorem run_of_unreadable (unread : tree.unreadable? command.files = some failure) :
    (command.run (m := StateM FileTree)).run tree =
      (⟨2, [], (tree.textsRead command.files).flatMap command.logOf, line failure.message⟩,
        tree) := by
  rcases FileTree.split_of_unreadable unread with ⟨before, after, files, read, failed⟩
  have stopped : (command.extractFiles (m := StateM FileTree) (failure.path :: after)).run tree =
      (⟨[], [], some failure⟩, tree) := by
    rw [extractFiles, run_bind, run_read, failed]
    rfl
  have extracted := @extractFiles_append tree _ command before (failure.path :: after) read
  rw [← files, stopped] at extracted
  rw [run, run_bind, extracted]
  simp only [List.append_nil]
  rfl

def sources (command : ExtractCommand) (texts : List Text) : List Source :=
  List.zipWith Source.ofSql command.files texts ++
    command.query?.toList.map (Source.ofSql inlineLabel)

def log (command : ExtractCommand) (texts : List Text) : List Event :=
  (texts ++ command.query?.toList).flatMap command.logOf

def printed (command : ExtractCommand) (sources : List Source) : Text :=
  line (Text.trimEnd (Document.renderSources sources command.format))

/-- What comes of writing the sources, where there is a directory for them, and the tree then. -/
def saved (command : ExtractCommand) (sources : List Source) (tree : FileTree) :
    Except Artifacts.Failure Unit × FileTree :=
  match command.directory? with
  | none => (.ok (), tree)
  | some directory =>
      (Artifacts.save (m := StateM FileTree) directory command.name sources).run tree

def exitCode : Except Artifacts.Failure Unit → Nat
  | .ok () => 0
  | .error _ => 2

theorem exitCode_eq_zero_iff {result : Except Artifacts.Failure Unit} :
    exitCode result = 0 ↔ result = .ok () := by
  cases result <;> simp [exitCode]

theorem exitCode_cases (result : Except Artifacts.Failure Unit) :
    exitCode result = 0 ∨ exitCode result = 2 := by
  cases result <;> simp [exitCode]

def complaint : Except Artifacts.Failure Unit → Text
  | .ok () => []
  | .error failure => line (saveMessage failure)

theorem run_of_texts (read : command.files.map tree.read = texts.map .ok) :
    let sources := command.sources texts
    let result := command.saved sources tree
    (command.run (m := StateM FileTree)).run tree =
      (⟨exitCode result.1, command.printed sources, command.log texts,
        command.notes sources ++ complaint result.1⟩, result.2) := by
  intro sources result
  rw [run, run_bind, extractFiles_of_texts read]
  simp only [← List.flatMap_append]
  cases directory : command.directory? with
  | none =>
      have kept : result = (.ok (), tree) := by simp only [result, saved, directory]
      rw [kept, complaint, List.append_nil]
      rfl
  | some path =>
      have written : (Artifacts.save (m := StateM FileTree) path command.name sources).run tree =
          result := by simp only [result, saved, directory]
      simp only
      rw [run_bind, ← ExtractCommand.sources, written]
      obtain ⟨_ | _, after⟩ := result
      · rfl
      · rw [complaint, List.append_nil]
        rfl

/-- Telling of a run in detail changes nothing else of it. -/
theorem run_verbose (command : ExtractCommand) (verbose : Bool) (tree : FileTree) :
    let told := ({ command with verbose }.run (m := StateM FileTree)).run tree
    let plain := (command.run (m := StateM FileTree)).run tree
    told.1.code = plain.1.code ∧ told.1.stdout = plain.1.stdout ∧ told.2 = plain.2 := by
  intro told plain
  cases unread : tree.unreadable? command.files with
  | some failure =>
      have told_eq : told = _ := @run_of_unreadable tree failure { command with verbose } unread
      have plain_eq : plain = _ := run_of_unreadable unread
      rw [told_eq, plain_eq]
      exact ⟨rfl, rfl, rfl⟩
  | none =>
      obtain ⟨texts, read⟩ := FileTree.texts_of_readable unread
      have told_eq : told = _ := @run_of_texts tree texts { command with verbose } read
      have plain_eq : plain = _ := run_of_texts read
      rw [told_eq, plain_eq]
      exact ⟨rfl, rfl, rfl⟩

end ExtractCommand

theorem extract?_verbose (accepted : Command.extract? false arguments = some (.extract command)) :
    Command.extract? true arguments = some (.extract { command with verbose := true }) := by
  simp only [Command.extract?, Option.bind_eq_bind, Option.bind_eq_some_iff, Option.pure_def]
    at accepted ⊢
  obtain ⟨sorted, sort, format, known, accepted⟩ := accepted
  refine ⟨sorted, sort, format, known, ?_⟩
  split at accepted
  · next valid =>
    simp only [Option.some.injEq, Command.extract.injEq] at accepted
    subst accepted
    rw [if_pos valid]
    rfl
  · contradiction

theorem parse?_verbose (quiet : arguments.head? ≠ some "--verbose".toList)
    (accepted : Command.parse? arguments = some (.extract command)) :
    Command.parse? ("--verbose".toList :: arguments) =
      some (.extract { command with verbose := true }) := by
  rw [Command.parse?, if_pos rfl]
  cases arguments with
  | nil => simp [Command.parse?] at accepted
  | cons name rest =>
      have other : name ≠ "--verbose".toList := fun same => quiet (same ▸ rfl)
      rw [Command.parse?, if_neg other] at accepted
      simp only [Command.named?] at accepted ⊢
      split at accepted
      · next named =>
        rw [if_pos named]
        exact extract?_verbose accepted
      · split at accepted
        · simp only [Command.merge?, Option.bind_eq_bind, Option.bind_eq_some_iff] at accepted
          obtain ⟨sorted, _, accepted⟩ := accepted
          split at accepted <;> simp at accepted
        · contradiction

end Extract

section Merge

variable {command : MergeCommand}

namespace MergeCommand

theorem run_of_unreadable (unread : tree.unreadable? command.files = some failure) :
    (command.run (m := StateM FileTree)).run tree =
      (⟨2, [], [], line failure.message⟩, tree) := by
  rw [run, run_bind, readAll_of_unreadable unread]
  rfl

def complaints (texts : List Text) : Text :=
  (Json.combine texts).errors.flatMap fun error => line (Json.inputMessage error)

def log (command : MergeCommand) (texts : List Text) : List Event :=
  if command.verbose then (Json.combine texts).errors.map .skipped else []

def exitCode (texts : List Text) : Nat := if (Json.combine texts).isClean then 0 else 1

def document (texts : List Text) : Text := line (Json.combine texts).value.pretty

theorem run_printing (read : command.files.map tree.read = texts.map .ok)
    (printed : command.output? = none) :
    (command.run (m := StateM FileTree)).run tree =
      (⟨exitCode texts, document texts, command.log texts, complaints texts⟩, tree) := by
  rw [run, run_bind, readAll_of_texts read]
  simp only [printed]
  rfl

theorem run_writing (read : command.files.map tree.read = texts.map .ok) {path : Text}
    (output : command.output? = some path) {written : FileTree}
    (done : tree.write path (document texts) = (written, .ok ())) :
    (command.run (m := StateM FileTree)).run tree =
      (⟨exitCode texts, [], command.log texts, complaints texts⟩, written) := by
  rw [run, run_bind, readAll_of_texts read]
  simp only [output]
  have wrote := Artifacts.run_writeFile_of_ok done
  rw [document] at wrote
  rw [run_bind, wrote]
  rfl

theorem run_failing (read : command.files.map tree.read = texts.map .ok) {path : Text}
    (output : command.output? = some path) {error : FileError}
    (failed : tree.write path (document texts) = (tree, .error error)) :
    (command.run (m := StateM FileTree)).run tree =
      (⟨2, [], command.log texts,
        complaints texts ++ line (Artifacts.Failure.file path error).message⟩, tree) := by
  rw [run, run_bind, readAll_of_texts read]
  simp only [output]
  have wrote := Artifacts.run_writeFile_of_error failed
  rw [document] at wrote
  rw [run_bind, wrote]
  rfl

/-- However the run ends, nothing is written to stderr before the messages but the log. -/
theorem told_of_texts (read : command.files.map tree.read = texts.map .ok) :
    let outcome := ((command.run (m := StateM FileTree)).run tree).1
    outcome.log = command.log texts ∧ complaints texts <+: outcome.stderr := by
  cases output : command.output? with
  | none =>
      rw [run_printing read output]
      exact ⟨rfl, List.prefix_rfl⟩
  | some path =>
      cases wrote : tree.write path (document texts) with
      | mk written result =>
          cases result with
          | error error =>
              obtain rfl := FileTree.write_eq_error wrote
              rw [run_failing read output wrote]
              exact ⟨rfl, List.prefix_append _ _⟩
          | ok =>
              rw [run_writing read output wrote]
              exact ⟨rfl, List.prefix_rfl⟩

end MergeCommand

/-- The first lines of stderr are one for each error in order, of the log if there is one. -/
theorem errorOutput_begins {outcome : Outcome} {errors : List Json.ReadError} {verbose : Bool}
    (logged : outcome.log = if verbose then errors.map .skipped else [])
    (told : errors.flatMap (fun error => line (Json.inputMessage error)) <+: outcome.stderr)
    (logLine : Nat → Event → Text) :
    (errors.zipIdx.flatMap fun (error, index) =>
      if verbose then logLine index (.skipped error) else line (Json.inputMessage error)) <+:
        outcome.errorOutput logLine := by
  rw [Outcome.errorOutput, logged]
  cases verbose with
  | true =>
      simp only [if_true, List.zipIdx_map, List.flatMap_map]
      exact List.prefix_append _ _
  | false =>
      have plain : (errors.zipIdx.flatMap fun (error, _) => line (Json.inputMessage error)) =
          errors.flatMap fun error => line (Json.inputMessage error) := by
        conv_rhs => rw [← List.zipIdx_map_fst 0 errors, List.flatMap_map]
      simp only [Bool.false_eq_true, if_false, plain]
      exact told

/-- A run that merges either ends with the first file that cannot be read, or lays all that
parse over each other, as they were before it, and writes the result to one place. First on
stderr is a line for each file that does not parse: the message or, in a verbose run, the line
of the log, and then the messages. -/
theorem merging_reads_first (accepted : Command.parse? arguments = some (.merge command)) :
    (∀ failure, tree.unreadable? command.files = some failure →
      runOn tree arguments = (⟨2, [], [], line failure.message⟩, tree)) ∧
    (tree.unreadable? command.files = none →
      ∃ texts : List Text, command.files.map tree.read = texts.map .ok ∧
        let merged := (texts.filterMap fun text => (Json.parse text).toOption).foldl Json.merge
          (.object [])
        let document := line merged.pretty
        let errors := texts.filterMap Json.readError?
        let log : List Event := if command.verbose then errors.map .skipped else []
        let messages := errors.flatMap fun error => line (Json.inputMessage error)
        let code := if errors.isEmpty then 0 else 1
        (∀ error ∈ errors, '\n' ∉ Json.inputMessage error) ∧
        (∀ logLine : Nat → Event → Text,
          (errors.zipIdx.flatMap fun (error, index) =>
            if command.verbose then logLine index (.skipped error)
            else line (Json.inputMessage error)) <+:
              (runOn tree arguments).1.errorOutput logLine) ∧
        (command.output? = none →
          runOn tree arguments = (⟨code, document, log, messages⟩, tree)) ∧
        ∀ path ∈ command.output?,
          (∃ error, tree.write path document = (tree, .error error) ∧
            runOn tree arguments =
              (⟨2, [], log, messages ++ line (Artifacts.Failure.file path error).message⟩,
                tree)) ∨
          ∃ written, tree.write path document = (written, .ok ()) ∧
            runOn tree arguments = (⟨code, [], log, messages⟩, written) ∧
            written.read path = .ok document ∧
            ∃ location, written.find? location = some (.file (.text document)) ∧
              ∀ other, other ≠ location → written.find? other = tree.find? other) := by
  have ran : runOn tree arguments = (command.run (m := StateM FileTree)).run tree :=
    runOn_of_accepted accepted
  rw [ran]
  refine ⟨fun failure unread => MergeCommand.run_of_unreadable unread, fun readable => ?_⟩
  obtain ⟨texts, read⟩ := FileTree.texts_of_readable readable
  refine ⟨texts, read, ?_⟩
  intro merged document errors log messages code
  -- The statement spells out what the run takes from the combined documents.
  have combined : Json.combine texts = ⟨merged, errors⟩ := Json.combine_eq texts
  have document_eq : MergeCommand.document texts = document := by
    rw [MergeCommand.document, combined]
  have log_eq : command.log texts = log := by
    rw [MergeCommand.log, combined]
  have messages_eq : MergeCommand.complaints texts = messages := by
    rw [MergeCommand.complaints, combined]
  have code_eq : MergeCommand.exitCode texts = code := by
    rw [MergeCommand.exitCode, combined]
    rfl
  refine ⟨?_, ?_, ?_, ?_⟩
  · intro error member
    obtain ⟨text, _, wrong⟩ := List.mem_filterMap.1 member
    exact Json.newline_not_mem_inputMessage (Json.readError?_eq_some_iff.1 wrong)
  · rcases MergeCommand.told_of_texts read with ⟨logged, told⟩
    rw [messages_eq] at told
    exact errorOutput_begins (logged.trans log_eq) told
  · intro printed
    rw [MergeCommand.run_printing read printed, document_eq, log_eq, messages_eq, code_eq]
  · intro path output
    cases wrote : tree.write path document with
    | mk written result =>
        cases result with
        | error error =>
            obtain rfl := FileTree.write_eq_error wrote
            refine .inl ⟨error, rfl, ?_⟩
            rw [MergeCommand.run_failing read output (document_eq ▸ wrote), log_eq, messages_eq]
        | ok =>
            refine .inr ⟨written, rfl, ?_, FileTree.write_eq_ok wrote⟩
            rw [MergeCommand.run_writing read output (document_eq ▸ wrote), log_eq, messages_eq,
              code_eq]

theorem merging_reads_first_in_place :
    let tree := (FileTree.empty.plant "a.json".toList (.file (.text "[7".toList))).plant
      "b.json".toList (.file (.text "\x7b\"k\": []\x7d".toList))
    let arguments := ["merge", "--verbose", "b.json", "a.json", "--output=b.json"].map
      String.toList
    let error : Json.ReadError := ⟨.endOfList, ⟨1, 2⟩⟩
    (Command.parse? arguments = some (.merge ⟨["b.json".toList, "a.json".toList],
        some "b.json".toList, true⟩) ∧
      tree.unreadable? ["b.json".toList, "a.json".toList] = none) ∧
    (runOn tree arguments).1 =
      ⟨1, [], [.skipped error], line (Json.inputMessage error)⟩ ∧
    (runOn tree arguments).2.read "a.json".toList = .ok "[7".toList := by
  intro tree arguments error
  have accepted : Command.parse? arguments = some (.merge ⟨["b.json".toList, "a.json".toList],
      some "b.json".toList, true⟩) := by decide +kernel
  have readable : tree.unreadable? ["b.json".toList, "a.json".toList] = none := by decide +kernel
  obtain ⟨texts, read, _, _, _, wrote⟩ :=
    (@merging_reads_first tree arguments _ accepted).2 readable
  have known : ["b.json".toList, "a.json".toList].map tree.read =
      ["\x7b\"k\": []\x7d".toList, "[7".toList].map .ok := by decide +kernel
  obtain rfl := List.map_injective_iff.2 (fun _ _ => Except.ok.inj) (known.symm.trans read)
  have errors : ["\x7b\"k\": []\x7d".toList, "[7".toList].filterMap Json.readError? = [error] := by
    decide +kernel
  rw [errors] at wrote
  obtain ⟨_, failed, _⟩ | ⟨written, done, ran, _⟩ := wrote _ rfl
  · cases congrArg Prod.snd failed
  · rw [ran]
    refine ⟨⟨accepted, readable⟩, ?_, ?_⟩
    · simp
    · obtain rfl : _ = written := congrArg Prod.fst done
      decide +kernel

end Merge

end QueryConditions
