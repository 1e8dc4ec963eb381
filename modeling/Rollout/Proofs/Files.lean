import Rollout.Files

/-!
# Laws of file trees

A change at one path leaves every other path alone.  Opening a path for writing empties the file
there, or creates one, and leaves a device as it is; what is written then is the whole content of
the file.
-/

namespace Rollout.FileTree

variable {tree opened written : FileTree} {path other : Path}

theorem find?_insert_self (proper : path.names ≠ []) (tree : FileTree) (item : FileItem) :
    (tree.insert path item).find? path = some item := by
  simp only [find?, List.isEmpty_iff, proper, if_false, insert]
  induction tree.items with
  | nil => simp [put]
  | cons entry rest ih =>
      by_cases here : entry.1 = path
      · simp [put, here]
      · simp [put, here, ih]

theorem find?_insert_of_ne (apart : other ≠ path) (tree : FileTree) (item : FileItem) :
    (tree.insert path item).find? other = tree.find? other := by
  have still : ∀ items : List (Path × FileItem),
      (put path item items).find? (fun entry => entry.1 == other) =
        items.find? fun entry => entry.1 == other := by
    intro items
    induction items with
    | nil => simp [put, apart.symm]
    | cons entry rest ih =>
        by_cases here : entry.1 = path
        · simp [put, here, apart.symm]
        · simp [put, here, List.find?_cons, ih]
  simp only [find?, insert, still]

/-- What opening a path for writing makes of a tree. -/
inductive Opens (tree : FileTree) (path : Path) : FileTree → Prop
  /-- A file becomes empty, and where there is none, an empty one is created. -/
  | file (proper : path.names ≠ [])
      (place : tree.find? path = none ∨ ∃ content, tree.find? path = some (.file content)) :
      Opens tree path (tree.insert path (.file ""))
  /-- A device stays as it is. -/
  | device (place : tree.find? path = some .discard ∨ tree.find? path = some .full) :
      Opens tree path tree

theorem opens_of_openForWriting (success : tree.openForWriting path = .ok opened) :
    Opens tree path opened := by
  have proper : tree.find? path ≠ some .directory → path.names ≠ [] := by
    intro other root
    simp [find?, root] at other
  rw [openForWriting] at success
  split at success
  · contradiction
  · cases place : tree.find? path with
    | none =>
        rw [place] at success
        obtain rfl := Except.ok.inj success
        exact .file (proper (by simp [place])) (.inl place)
    | some item =>
        rw [place] at success
        cases item with
        | directory => contradiction
        | file content =>
            obtain rfl := Except.ok.inj success
            exact .file (proper (by simp [place])) (.inr ⟨content, place⟩)
        | discard =>
            obtain rfl := Except.ok.inj success
            exact .device (.inl place)
        | full =>
            obtain rfl := Except.ok.inj success
            exact .device (.inr place)

/-- A text that has been written to an opened path is the content of the file there, unless there
is a device. -/
theorem Opens.find?_of_write {content : String} (opens : Opens tree path opened)
    (success : opened.write? path content = some written) :
    written.find? path = some (.file content) ∨ tree.find? path = some .discard ∨
      tree.find? path = some .full := by
  cases opens with
  | device place => exact .inr place
  | file proper place =>
      rw [write?, find?_insert_self proper] at success
      exact .inl (Option.some.inj success ▸ find?_insert_self proper _ _)

theorem write?_of_full {content : String} (place : tree.find? path = some .full)
    (nonempty : content ≠ "") : tree.write? path content = none := by
  rw [write?, place]
  exact if_neg nonempty

/-- Every text can be written to an opened path unless there is a device that takes nothing. -/
theorem Opens.writable_iff (opens : Opens tree path opened) :
    (∀ content, (opened.write? path content).isSome = true) ↔ tree.find? path ≠ some .full := by
  cases opens with
  | device place =>
      obtain discard | full := place
      · exact iff_of_true (fun content => by rw [write?, discard]; rfl) (by simp [discard])
      · refine iff_of_false (fun writable => ?_) (by simp [full])
        have refused : tree.write? path "x" = none := write?_of_full full (by decide)
        have accepted := writable "x"
        rw [refused] at accepted
        contradiction
  | file proper place =>
      refine iff_of_true (fun content => ?_) fun full => ?_
      · rw [write?, find?_insert_self proper]
        rfl
      · rw [full] at place
        simp at place

end Rollout.FileTree
