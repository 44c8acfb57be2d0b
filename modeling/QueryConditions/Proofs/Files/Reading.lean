import QueryConditions.Files.Access

/-!
Reading and writing on a file tree. Reading several files stops at the first that cannot be
read and changes nothing. A file that has been written is read back as it was written, and
nothing else has changed; where writing fails, nothing has.
-/

namespace QueryConditions

section Runs

variable {σ α β : Type}

theorem run_bind (first : StateM σ α) (next : α → StateM σ β) (state : σ) :
    (first >>= next).run state = (next (first.run state).1).run (first.run state).2 := rfl

theorem run_read (tree : FileTree) (path : Text) :
    (Files.read (m := StateM FileTree) path).run tree = (tree.read path, tree) := rfl

theorem run_write (tree : FileTree) (path text : Text) :
    (Files.write (m := StateM FileTree) path text).run tree =
      ((tree.write path text).2, (tree.write path text).1) := rfl

theorem run_makeDirs (tree : FileTree) (path : Text) :
    (Files.makeDirs (m := StateM FileTree) path).run tree =
      ((tree.makeDirs path).2, (tree.makeDirs path).1) := rfl

end Runs

namespace FileTree

def unreadable? (tree : FileTree) (paths : List Text) : Option ReadFailure :=
  paths.findSome? fun path =>
    match tree.read path with
    | .ok _ => none
    | .error error => some ⟨path, error⟩

def textsRead (tree : FileTree) : List Text → List Text
  | [] => []
  | path :: rest =>
      match tree.read path with
      | .ok text => text :: tree.textsRead rest
      | .error _ => []

variable {tree : FileTree} {path text : Text} {paths rest : List Text} {error : FileError}

theorem unreadable?_cons_of_ok (read : tree.read path = .ok text) :
    tree.unreadable? (path :: rest) = tree.unreadable? rest := by
  rw [unreadable?, List.findSome?_cons, read]
  rfl

theorem unreadable?_cons_of_error (unread : tree.read path = .error error) :
    tree.unreadable? (path :: rest) = some ⟨path, error⟩ := by
  rw [unreadable?, List.findSome?_cons, unread]

theorem texts_of_readable (readable : tree.unreadable? paths = none) :
    ∃ texts : List Text, paths.map tree.read = texts.map .ok := by
  induction paths with
  | nil => exact ⟨[], rfl⟩
  | cons path rest ih =>
      cases read : tree.read path with
      | error error => simp [unreadable?_cons_of_error read] at readable
      | ok text =>
          rw [unreadable?_cons_of_ok read] at readable
          obtain ⟨texts, texts_eq⟩ := ih readable
          exact ⟨text :: texts, by simp [read, texts_eq]⟩

theorem split_of_unreadable {failure : ReadFailure}
    (unread : tree.unreadable? paths = some failure) :
    ∃ before after : List Text, paths = before ++ failure.path :: after ∧
      before.map tree.read = (tree.textsRead paths).map .ok ∧
        tree.read failure.path = .error failure.error := by
  induction paths with
  | nil => simp [unreadable?] at unread
  | cons path rest ih =>
      cases read : tree.read path with
      | error error =>
          rw [unreadable?_cons_of_error read] at unread
          cases unread
          exact ⟨[], rest, rfl, by simp [textsRead, read], read⟩
      | ok text =>
          rw [unreadable?_cons_of_ok read] at unread
          rcases ih unread with ⟨before, after, rfl, texts_eq, failed⟩
          exact ⟨path :: before, after, rfl, by simp [textsRead, read, texts_eq], failed⟩

end FileTree

section ReadAll

variable {tree : FileTree} {path text : Text} {paths rest texts : List Text} {error : FileError}

theorem readAll_cons_of_error (unread : tree.read path = .error error) :
    (readAll (m := StateM FileTree) (path :: rest)).run tree = (.error ⟨path, error⟩, tree) := by
  rw [readAll, run_bind, run_read, unread]
  rfl

theorem readAll_cons_of_ok (read : tree.read path = .ok text) :
    (readAll (m := StateM FileTree) (path :: rest)).run tree =
      (((readAll (m := StateM FileTree) rest).run tree).1.map (text :: ·),
        ((readAll (m := StateM FileTree) rest).run tree).2) := by
  rw [readAll, run_bind, run_read, read]
  simp only
  rw [run_bind]
  cases (readAll (m := StateM FileTree) rest).run tree with
  | mk result after => cases result <;> rfl

theorem readAll_of_unreadable {failure : ReadFailure}
    (unread : tree.unreadable? paths = some failure) :
    (readAll (m := StateM FileTree) paths).run tree = (.error failure, tree) := by
  induction paths with
  | nil => simp [FileTree.unreadable?] at unread
  | cons path rest ih =>
      cases read : tree.read path with
      | error error =>
          rw [FileTree.unreadable?_cons_of_error read, Option.some.injEq] at unread
          rw [readAll_cons_of_error read, unread]
      | ok text =>
          rw [FileTree.unreadable?_cons_of_ok read] at unread
          rw [readAll_cons_of_ok read, ih unread]
          rfl

theorem readAll_of_texts (texts_eq : paths.map tree.read = texts.map .ok) :
    (readAll (m := StateM FileTree) paths).run tree = (.ok texts, tree) := by
  induction paths generalizing texts with
  | nil =>
      obtain rfl := List.map_eq_nil_iff.1 texts_eq.symm
      rfl
  | cons path rest ih =>
      cases texts with
      | nil => simp at texts_eq
      | cons text texts =>
          obtain ⟨read, later⟩ := List.cons.inj texts_eq
          rw [readAll_cons_of_ok read, ih later]
          rfl

end ReadAll

namespace FileTree

variable {tree written : FileTree} {location start place other : Location} {entry : Entry}
  {path text : Text} {names : List Text}

theorem look_eq_ok {found : Option Entry} (looked : tree.look location = .ok found) :
    tree.find? location = found := by
  rw [look] at looked
  split at looked
  · contradiction
  · exact Except.ok.inj looked

theorem look_put_of_ne (inside : location.names ≠ []) (apart : location ≠ other) :
    (tree.put location entry).look other = tree.look other := by
  rw [look, look, find?_put _ _ _ _ inside, if_neg apart]

theorem look_put_self {found : Option Entry} (inside : location.names ≠ [])
    (looked : tree.look location = .ok found) :
    (tree.put location entry).look location = .ok (some entry) := by
  rw [look] at looked ⊢
  split at looked
  · contradiction
  · next short => rw [if_neg short, find?_put _ _ _ _ inside, if_pos rfl]

/-- What is no directory is on no way through directories. -/
theorem enter_put (inside : location.names ≠ []) (file : tree.find? location ≠ some .directory)
    (entered : tree.enter start names = .ok place) :
    (tree.put location entry).enter start names = .ok place := by
  induction names generalizing start with
  | nil => exact entered
  | cons name rest ih =>
      simp only [enter, bind, Except.bind] at entered ⊢
      split at entered
      · contradiction
      · next found looked =>
          obtain _ | _ | _ := found
          · contradiction
          · have apart : location ≠ start.step name := by
              rintro rfl
              exact file (look_eq_ok looked)
            rw [look_put_of_ne inside apart, looked]
            exact ih entered
          · contradiction

theorem locate_put {path : Path} (inside : location.names ≠ [])
    (file : tree.find? location ≠ some .directory) (located : tree.locate path = .ok place) :
    (tree.put location entry).locate path = .ok place := by
  unfold locate at located ⊢
  split at located
  · exact located
  · next last _ =>
      cases entered : tree.enter path.start path.names.dropLast with
      | error error => simp [entered, Except.map] at located
      | ok directory =>
          rw [enter_put inside file entered]
          rwa [entered] at located

/-- Where writing succeeds, the path names a place that is no directory. -/
theorem writeAt_eq_ok {path : Path} (done : tree.writeAt path text = .ok written) :
    ∃ location found, tree.locate path = .ok location ∧ tree.look location = .ok found ∧
      found ≠ some .directory ∧ path.ending = .plain ∧
      written = tree.put location (.file (.text text)) := by
  unfold writeAt at done
  cases located : tree.locate path with
  | error error => simp [located, bind, Except.bind] at done
  | ok location =>
      cases ending : path.ending with
      | slash => simp [located, ending, bind, Except.bind] at done
      | plain =>
          cases looked : tree.look location with
          | error error => simp [located, ending, looked, bind, Except.bind] at done
          | ok found =>
              simp only [located, ending, looked, bind, Except.bind] at done
              obtain _ | _ | _ := found <;> simp_all
      | dot =>
          cases looked : tree.look location with
          | error error => simp [located, ending, looked, bind, Except.bind] at done
          | ok found =>
              simp only [located, ending, looked, bind, Except.bind] at done
              obtain _ | _ | _ := found <;> simp at done

theorem inside_of_find? (file : tree.find? location ≠ some .directory) : location.names ≠ [] := by
  intro outermost
  simp [find?, outermost] at file

theorem find?_put_self (file : tree.find? location ≠ some .directory) :
    (tree.put location entry).find? location = some entry := by
  rw [find?_put _ _ _ _ (inside_of_find? file), if_pos rfl]

theorem find?_put_of_ne (file : tree.find? location ≠ some .directory)
    (apart : other ≠ location) : (tree.put location entry).find? other = tree.find? other := by
  rw [find?_put _ _ _ _ (inside_of_find? file), if_neg apart.symm]

/-- Where writing succeeds, the file is at the place that the path names. -/
theorem write_eq_put (done : tree.write path text = (written, .ok ())) :
    ∃ parts location, Path.ofText path = .ok parts ∧ tree.locate parts = .ok location ∧
      tree.find? location ≠ some .directory ∧ written.read path = .ok text ∧
      written = tree.put location (.file (.text text)) := by
  unfold write at done
  cases parsed : Path.ofText path with
  | error error => simp [parsed, bind, Except.bind] at done
  | ok parts =>
      cases wrote : tree.writeAt parts text with
      | error error => simp [parsed, wrote, bind, Except.bind] at done
      | ok after =>
          obtain rfl : after = written := by
            simpa [parsed, wrote, bind, Except.bind] using done
          obtain ⟨location, found, located, looked, file, plain, rfl⟩ := writeAt_eq_ok wrote
          have place := look_eq_ok looked
          have inside := inside_of_find? (place ▸ file)
          refine ⟨parts, location, rfl, located, place ▸ file, ?_, rfl⟩
          simp only [read, parsed, readAt, locate_put inside (place ▸ file) located,
            look_put_self inside looked, plain, bind, Except.bind, ne_eq, not_true_eq_false,
            ↓reduceIte]

/-- A file that has been written is read as it was written, and no other place has changed. -/
theorem write_eq_ok (done : tree.write path text = (written, .ok ())) :
    written.read path = .ok text ∧
    ∃ location, written.find? location = some (.file (.text text)) ∧
      ∀ other, other ≠ location → written.find? other = tree.find? other := by
  obtain ⟨_, location, _, _, file, read, rfl⟩ := write_eq_put done
  exact ⟨read, location, find?_put_self file, fun other apart => find?_put_of_ne file apart⟩

/-- A file elsewhere is still read as it was. -/
theorem read_put_of_ne {parts : Path} (file : tree.find? location ≠ some .directory)
    (parsed : Path.ofText path = .ok parts) (located : tree.locate parts = .ok place)
    (apart : location ≠ place) : (tree.put location entry).read path = tree.read path := by
  have inside := inside_of_find? file
  simp only [read, parsed, readAt, located, locate_put inside file located,
    look_put_of_ne inside apart, bind, Except.bind]

/-- Where writing fails nothing has changed. -/
theorem write_eq_error {error : FileError}
    (failed : tree.write path text = (written, .error error)) : written = tree := by
  unfold write at failed
  split at failed
  · simp at failed
  · exact (Prod.mk.inj failed).1.symm

end FileTree

end QueryConditions
