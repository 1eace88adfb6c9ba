import OnDemandTls.Store.Opened

namespace OnDemandTls

/-!
# What operations leave in a file tree

A way through a tree is found again in any tree that keeps what stands along it.
So a store file that could be replaced is read back as the text that was
written (`FileTree.readText_replaceStore`), also after directories were made.
-/

namespace FileTree

variable {tree other : FileTree} {node : FileNode}

/-! ## Ways -/

theorem length_join_append
    {names rest : List String}
    (notTop : names ≠ [])
    (further : rest ≠ []) :
    (join names).length < (join (names ++ rest)).length := by
  have slash : "/".length = 1 := rfl
  simp only [join, String.intercalate_append_of_ne_nil notTop further, String.length_append, slash]
  omega

/-- A way is found in every tree in which the directories along it, and what it
leads to, stand as before. -/
theorem find_go_of_kept
    {names above : List String}
    (found : find.go tree names above = .ok node)
    (kept : ∀ way here, way ≠ [] → way <+: names →
      tree.nodes.get? (join (above ++ way)) = some here → here = .directory ∨ here = node →
      other.nodes.get? (join (above ++ way)) = some here) :
    find.go other names above = .ok node := by
  induction names generalizing above with
  | nil => exact found
  | cons name rest inductionHypothesis =>
      have keptHere := kept [name]
      unfold find.go at found ⊢
      simp only at found ⊢
      cases stands : tree.nodes.get? (join (above ++ [name])) with
      | none => simp [stands] at found
      | some here =>
          cases rest with
          | nil =>
              simp only [stands, Except.ok.injEq] at found
              subst found
              rw [keptHere here (by simp) (by simp) stands (Or.inr rfl)]
          | cons next rest =>
              cases here with
              | file content mode => simp [stands] at found
              | brokenLink => simp [stands] at found
              | directory =>
                  simp only [stands] at found
                  rw [keptHere .directory (by simp) (by simp) stands (Or.inl rfl)]
                  refine inductionHypothesis found fun way here notTop along => ?_
                  have longer := kept (name :: way) here (by simp) (by simpa using along)
                  simpa using longer

/-- What stands in a directory is found behind it. -/
theorem find_go_concat
    {names above : List String}
    {last : String}
    (way : find.go tree names above = .ok .directory)
    (stands : tree.nodes.get? (join (above ++ names ++ [last])) = some node) :
    find.go tree (names ++ [last]) above = .ok node := by
  induction names generalizing above with
  | nil =>
      simp only [List.append_nil] at stands
      simp [find.go, stands]
  | cons name rest inductionHypothesis =>
      unfold find.go at way
      simp only at way
      cases here : tree.nodes.get? (join (above ++ [name])) with
      | none => simp [here] at way
      | some first =>
          have isDirectory : first = .directory := by
            cases first <;> cases rest <;> simp_all
          subst isDirectory
          have further : find.go tree rest (above ++ [name]) = .ok .directory := by
            cases rest with
            | nil => rfl
            | cons next rest => simpa [here] using way
          have behind := inductionHypothesis further (by simpa using stands)
          obtain ⟨next, more, shape⟩ :=
            List.exists_cons_of_ne_nil (show rest ++ [last] ≠ [] by simp)
          rw [shape] at behind
          rw [List.cons_append, shape]
          unfold find.go
          simp only [here]
          exact behind

/-- What is found at the end of a way stands there. -/
theorem get?_of_find_go
    {names above : List String}
    (found : find.go tree names above = .ok node)
    (notTop : names ≠ []) :
    tree.nodes.get? (join (above ++ names)) = some node := by
  induction names generalizing above with
  | nil => exact absurd rfl notTop
  | cons name rest inductionHypothesis =>
      unfold find.go at found
      simp only at found
      cases stands : tree.nodes.get? (join (above ++ [name])) with
      | none => simp [stands] at found
      | some here =>
          cases rest with
          | nil =>
              simp only [stands, Except.ok.injEq] at found
              rw [stands, found]
          | cons next rest =>
              cases here with
              | file content mode => simp [stands] at found
              | brokenLink => simp [stands] at found
              | directory =>
                  simp only [stands] at found
                  simpa using inductionHypothesis found (by simp)

/-! ## Placing and removing -/

/-- A node does not bar the way to itself. -/
theorem find_dropLast_place
    {names : List String}
    (way : tree.find names.dropLast = .ok .directory)
    (node : FileNode) :
    (tree.place names node).find names.dropLast = .ok .directory := by
  refine find_go_of_kept way fun part here notTop along stands _ => ?_
  obtain ⟨rest, split⟩ := along.trans (List.dropLast_prefix names)
  have further : rest ≠ [] := by
    rintro rfl
    have length := congrArg List.length split
    have shorter := along.length_le
    have nonempty := List.length_pos_iff.mpr notTop
    simp only [List.append_nil, List.length_dropLast] at length shorter
    omega
  have differs : join part ≠ join names := by
    intro same
    have longer := length_join_append notTop further
    rw [split, same] at longer
    exact Nat.lt_irrefl _ longer
  simpa [place, differs] using stands

theorem find_place
    {names : List String}
    (notTop : names ≠ [])
    (way : tree.find names.dropLast = .ok .directory)
    (node : FileNode) :
    (tree.place names node).find names = .ok node := by
  have split := List.dropLast_concat_getLast notTop
  have stands : (tree.place names node).nodes.get? (join names) = some node := by simp [place]
  have found :
      find.go (tree.place names node) (names.dropLast ++ [names.getLast notTop]) [] = .ok node :=
    find_go_concat (find_dropLast_place way node) (by simpa [split] using stands)
  rwa [split] at found

/-- Taking a file away bars no way to a directory. -/
theorem find_remove
    {names : List String}
    {path : String}
    {content : ByteArray}
    {mode : Nat}
    (way : tree.find names = .ok .directory)
    (isFile : tree.find (tree.locate path) = .ok (.file content mode)) :
    (tree.remove path).find names = .ok .directory := by
  have notTop : tree.locate path ≠ [] := by
    intro top
    rw [top] at isFile
    cases isFile
  have stands := get?_of_find_go isFile notTop
  refine find_go_of_kept way fun part here _ _ before kind => ?_
  have differs : join part ≠ join (tree.locate path) := by
    intro same
    simp only [List.nil_append] at stands before
    rw [same, stands] at before
    rcases kind with rfl | rfl <;> cases before
  simpa [remove, differs] using before

theorem of_mayWrite
    {path : String}
    (may : tree.mayWrite path = .ok ()) :
    path ≠ "" ∧ tree.locate path ≠ [] ∧
      tree.find (tree.locate path).dropLast = .ok .directory := by
  unfold mayWrite at may
  by_cases blank : path = ""
  · simp [blank] at may
  · rw [if_neg blank] at may
    split at may
    all_goals try cases may
    rename_i way
    refine ⟨blank, ?_, way⟩
    intro top
    rw [top] at may
    cases may

/-! ## Store files -/

theorem find_of_write
    {path content : String}
    (written : tree.write path content = .ok other) :
    other.workingDirectory = tree.workingDirectory ∧
      other.find (tree.locate path).dropLast = .ok .directory ∧
      ∃ mode, other.find (tree.locate path) = .ok (.file content.toUTF8 mode) := by
  unfold write at written
  cases may : tree.mayWrite path with
  | error error => simp [may, bind, Except.bind] at written
  | ok done =>
      obtain ⟨-, notTop, way⟩ := of_mayWrite may
      simp only [may, bind, Except.bind, pure, Except.pure, Except.ok.injEq] at written
      subst written
      exact ⟨rfl, find_dropLast_place way _, _, find_place notTop way _⟩

theorem find_of_setMode
    {path : String}
    {content : ByteArray}
    {mode : Nat}
    (way : tree.find (tree.locate path).dropLast = .ok .directory)
    (isFile : tree.find (tree.locate path) = .ok (.file content mode))
    (next : Nat) :
    (tree.setMode path next).workingDirectory = tree.workingDirectory ∧
      (tree.setMode path next).find (tree.locate path) = .ok (.file content next) := by
  have notTop : tree.locate path ≠ [] := by
    intro top
    rw [top] at isFile
    cases isFile
  have same : tree.setMode path next = tree.place (tree.locate path) (.file content next) := by
    simp only [setMode, isFile]
  rw [same]
  exact ⟨rfl, find_place notTop way _⟩

theorem find_of_rename
    {source target : String}
    {content : ByteArray}
    {mode : Nat}
    (isFile : tree.find (tree.locate source) = .ok (.file content mode))
    (renamed : tree.rename source target = .ok other) :
    target ≠ "" ∧ other.workingDirectory = tree.workingDirectory ∧
      other.find (tree.locate target).dropLast = .ok .directory ∧
      other.find (tree.locate target) = .ok (.file content mode) := by
  unfold rename at renamed
  cases may : tree.mayWrite target with
  | error error => simp [may, bind, Except.bind] at renamed
  | ok done =>
      obtain ⟨named, notTop, way⟩ := of_mayWrite may
      simp only [may, isFile, bind, Except.bind, pure, Except.pure, Except.ok.injEq] at renamed
      subst renamed
      have stillThere := find_remove way isFile
      exact ⟨named, rfl, find_dropLast_place stillThere _, find_place notTop stillThere _⟩

/-- A text that was put in the place of a store file stands there, in a directory. -/
theorem find_replaceStore
    {path text : String}
    (replaced : tree.replaceStore path text = (.ok (), other)) :
    path ≠ "" ∧ other.find (other.locate path).dropLast = .ok .directory ∧
      other.find (other.locate path) = .ok (.file text.toUTF8 privateMode) := by
  unfold replaceStore at replaced
  cases attempt : tree.write (temporaryPath path) text with
  | error error => simp [attempt] at replaced
  | ok written =>
      obtain ⟨sameDirectory, way, mode, isFile⟩ := find_of_write attempt
      have sameNames : written.locate (temporaryPath path) = tree.locate (temporaryPath path) := by
        simp only [locate, sameDirectory]
      rw [← sameNames] at way isFile
      obtain ⟨stillThere, isPrivate⟩ := find_of_setMode way isFile privateMode
      simp only [attempt] at replaced
      cases moved : (written.setMode (temporaryPath path) privateMode).rename
          (temporaryPath path) path with
      | error error => simp [moved] at replaced
      | ok left =>
          simp only [moved, Prod.mk.injEq, true_and] at replaced
          subst replaced
          have sameSource :
              (written.setMode (temporaryPath path) privateMode).locate (temporaryPath path) =
                written.locate (temporaryPath path) := by
            simp only [locate, stillThere]
          rw [← sameSource] at isPrivate
          obtain ⟨named, kept, above, found⟩ := find_of_rename isPrivate moved
          have sameTarget :
              left.locate path =
                (written.setMode (temporaryPath path) privateMode).locate path := by
            simp only [locate, kept]
          rw [sameTarget]
          exact ⟨named, above, found⟩

theorem fromUTF8?_toUTF8 (text : String) : String.fromUTF8? text.toUTF8 = some text := by
  unfold String.fromUTF8?
  rw [dif_pos (show text.toUTF8.IsValidUTF8 from text.isValidUTF8)]
  rfl

theorem readText_of_find
    {path text : String}
    {mode : Nat}
    (named : path ≠ "")
    (noDirectory : path.endsWith "/" = false)
    (found : tree.find (tree.locate path) = .ok (.file text.toUTF8 mode)) :
    tree.readText path = .ok text := by
  simp only [readText, readBytes, if_neg named, found, noDirectory, Bool.false_eq_true, if_false,
    fromUTF8?_toUTF8]

/-- Making directories changes nothing that is there. -/
theorem get?_of_makeDirectories_go
    {names above : List String}
    (made : makeDirectories.go tree names above = .ok other) :
    other.workingDirectory = tree.workingDirectory ∧
      ∀ key here, tree.nodes.get? key = some here → other.nodes.get? key = some here := by
  induction names generalizing tree above with
  | nil =>
      cases made
      exact ⟨rfl, fun _ _ stands => stands⟩
  | cons name rest inductionHypothesis =>
      unfold makeDirectories.go at made
      simp only at made
      cases stands : tree.nodes.get? (join (above ++ [name])) with
      | none =>
          simp only [stands] at made
          obtain ⟨same, kept⟩ := inductionHypothesis made
          refine ⟨same, fun key here before => kept key here ?_⟩
          have differs : key ≠ join (above ++ [name]) := by
            rintro rfl
            rw [stands] at before
            cases before
          simpa [place, differs] using before
      | some node =>
          cases node with
          | directory =>
              simp only [stands] at made
              exact inductionHypothesis made
          | file content mode => cases rest <;> simp [stands] at made
          | brokenLink => simp [stands] at made

/-- Where there is a directory, none has to be made. -/
theorem makeDirectories_go_of_find
    {names above : List String}
    (found : find.go tree names above = .ok .directory) :
    makeDirectories.go tree names above = .ok tree := by
  induction names generalizing above with
  | nil => rfl
  | cons name rest inductionHypothesis =>
      unfold find.go at found
      unfold makeDirectories.go
      simp only at found ⊢
      cases stands : tree.nodes.get? (join (above ++ [name])) with
      | none => simp [stands] at found
      | some here =>
          cases rest with
          | nil =>
              simp only [stands, Except.ok.injEq] at found
              subst found
              rfl
          | cons next rest =>
              cases here with
              | file content mode => simp [stands] at found
              | brokenLink => simp [stands] at found
              | directory =>
                  simp only [stands] at found
                  exact inductionHypothesis found

/-- A store file that was replaced is read back as the text that was written,
whatever directories are made in between. -/
theorem readText_replaceStore
    {path text directories : String}
    {written made : FileTree}
    (noDirectory : path.endsWith "/" = false)
    (replaced : tree.replaceStore path text = (.ok (), written))
    (prepared : written.makeDirectories directories = .ok made) :
    made.readText path = .ok text := by
  obtain ⟨named, -, found⟩ := find_replaceStore replaced
  obtain ⟨sameDirectory, kept⟩ := get?_of_makeDirectories_go prepared
  have sameNames : made.locate path = written.locate path := by simp only [locate, sameDirectory]
  have stillThere : made.find (made.locate path) = .ok (.file text.toUTF8 privateMode) := by
    rw [sameNames]
    exact find_go_of_kept found fun way here _ _ stands _ => kept _ here stands
  exact readText_of_find named noDirectory stillThere

end FileTree

end OnDemandTls
