import Questionnaire.Proofs.KeyMap
import Questionnaire.Proofs.Store.FileTree

/-!
# Writing one key of a folder

A write to a folder that is there either puts the whole text under its key or leaves what is found
there, and in both cases every other key keeps its text. It changes nothing but the file and the
staging file of its key, and no other key has its file at one of these places.
-/

namespace Questionnaire

/-! ## Runs of accesses -/

namespace FileAction

variable {α β : Type}

/-- Runs an access on a tree, and gives the outcome and the tree afterwards. -/
def perform (action : FileAction α) (tree : FileTree) : Except FileFailure α × FileTree :=
  action.run.run tree

theorem perform_bind (action : FileAction α) (next : α → FileAction β) (tree : FileTree) :
    perform (action >>= next) tree =
      match perform action tree with
      | (.ok value, tree) => perform (next value) tree
      | (.error failure, tree) => (.error failure, tree) := by
  simp only [perform, ExceptT.run, StateT.run, bind, ExceptT.bind, ExceptT.mk, StateT.bind]
  rcases action tree with ⟨outcome, tree⟩
  cases outcome <;> rfl

theorem perform_tryCatch (action : FileAction α) (handle : FileFailure → FileAction α)
    (tree : FileTree) :
    perform (tryCatch action handle) tree =
      match perform action tree with
      | (.ok value, tree) => (.ok value, tree)
      | (.error failure, tree) => perform (handle failure) tree := by
  simp only [perform, ExceptT.run, StateT.run, tryCatch, tryCatchThe, MonadExceptOf.tryCatch,
    ExceptT.tryCatch, ExceptT.mk, bind, StateT.bind]
  rcases action tree with ⟨outcome, tree⟩
  cases outcome <;> rfl

theorem perform_follow (names : List String) (tree : FileTree) :
    perform (follow names) tree = (tree.follow names, tree) := rfl

theorem perform_get (tree : FileTree) : perform get tree = (.ok tree, tree) := rfl

theorem perform_throw (failure : FileFailure) (tree : FileTree) :
    perform (throw failure : FileAction α) tree = (.error failure, tree) := rfl

end FileAction

/-! ## Folders that are there are not made -/

namespace FileTree

variable {tree before between after : FileTree} {place : Place} {folder : String}

/-- Without the empty names at its end, a path to a folder leads to a folder. -/
theorem exists_walk_dropLastWhile {names : List String} (walked : tree.walk names = .ok place)
    (isFolder : tree.entryAt? place = some .folder) :
    ∃ start, tree.walk (dropLastWhile String.isEmpty names) = .ok start ∧
      tree.entryAt? start = some .folder := by
  have reversed (rest : List String) (walked : tree.walk rest.reverse = .ok place) :
      ∃ start, tree.walk (rest.dropWhile String.isEmpty).reverse = .ok start ∧
        tree.entryAt? start = some .folder := by
    induction rest with
    | nil => exact ⟨place, walked, isFolder⟩
    | cons last rest inductionHypothesis =>
      cases isEmpty : last.isEmpty with
      | false =>
        rw [List.dropWhile_cons_of_neg (Bool.eq_false_iff.1 isEmpty)]
        exact ⟨place, walked, isFolder⟩
      | true =>
        rw [List.dropWhile_cons_of_pos isEmpty]
        by_cases atStart : rest = []
        · subst atStart
          exact ⟨[], rfl, rfl⟩
        · have inner : rest.reverse ≠ [] := List.reverse_ne_nil_iff.2 atStart
          rw [String.isEmpty_iff.1 isEmpty, List.reverse_cons] at walked
          exact inductionHypothesis ((walk_concat_stays (.inl inner) rfl).1 walked).1
  rw [dropLastWhile]
  exact reversed names.reverse (by rwa [List.reverse_reverse])

/-- Without the empty names at its end, the path of a folder that is there leads to a folder. -/
theorem HasFolder.exists_walk (there : tree.HasFolder folder place) :
    ∃ start, tree.walk (dropLastWhile String.isEmpty (pathNames folder)) = .ok start ∧
      tree.entryAt? start = some .folder := by
  obtain ⟨above, folderNames, names⟩ := exists_pathNames_pathIn folder
  obtain ⟨walked, isFolder⟩ := (hasFolder_iff (names "." (by decide))).1 there
  have sameStart : dropLastWhile String.isEmpty (pathNames folder) =
      dropLastWhile String.isEmpty above := by
    rcases folderNames with same | same
    · rw [same]
    · rw [same, dropLastWhile, List.reverse_append]
      rfl
  rw [sameStart]
  exact exists_walk_dropLastWhile walked isFolder

/-- Making a folder that is there fails, and not because a folder above it is missing. -/
theorem HasFolder.makeFolder (there : tree.HasFolder folder place) :
    ∃ failure, failure ≠ .notFound ∧
      (FileAction.makeFolder (pathNames folder)).perform tree = (.error failure, tree) := by
  obtain ⟨start, startWalked, isStart⟩ := there.exists_walk
  unfold FileAction.makeFolder
  by_cases long : (!fitsPathLimit (pathNames folder)) = true
  · rw [if_pos long]
    exact ⟨.nameTooLong, by decide, rfl⟩
  rw [if_neg long]
  by_cases startLong :
      (!fitsPathLimit (dropLastWhile String.isEmpty (pathNames folder))) = true
  · have leads : tree.follow (dropLastWhile String.isEmpty (pathNames folder)) =
        .error .nameTooLong := if_pos startLong
    refine ⟨.nameTooLong, by decide, ?_⟩
    simp only [FileAction.perform_bind, FileAction.perform_follow, leads]
  · have leads : tree.follow (dropLastWhile String.isEmpty (pathNames folder)) = .ok start :=
      (if_neg startLong).trans startWalked
    refine ⟨.alreadyThere, by decide, ?_⟩
    simp only [FileAction.perform_bind, FileAction.perform_follow, leads,
      FileAction.perform_get, isStart, Option.isSome_some, if_true, FileAction.perform_throw]

/-- Asking for a folder that is there makes nothing and misses no folder above it. -/
theorem HasFolder.ensureFolder (there : tree.HasFolder folder place) :
    ∃ outcome, outcome ≠ .error .notFound ∧
      (FileAction.ensureFolder (pathNames folder)).perform tree = (outcome, tree) := by
  obtain ⟨failure, present, unmade⟩ := there.makeFolder
  simp only [FileAction.ensureFolder, FileAction.perform_tryCatch, unmade,
    FileAction.perform_bind, FileAction.perform_get]
  by_cases isThere : tree.isFolder (pathNames folder) = true
  · rw [if_pos isThere]
    exact ⟨.ok (), by simp, rfl⟩
  · rw [if_neg isThere]
    exact ⟨.error failure, fun same => present (Except.error.inj same), rfl⟩

/-- A folder that is there is not made. -/
theorem HasFolder.ensureFolders (there : tree.HasFolder folder place) :
    ∃ outcome, (FileAction.ensureFolders (pathNames folder)).perform tree = (outcome, tree) := by
  obtain ⟨outcome, present, ensured⟩ := there.ensureFolder
  rw [FileAction.ensureFolders]
  split
  · exact ⟨.ok (), rfl⟩
  · rw [FileAction.perform_tryCatch, ensured]
    cases outcome with
    | ok value => exact ⟨.ok value, rfl⟩
    | error reason =>
      have isPresent : reason ≠ .notFound := fun same => present (congrArg Except.error same)
      simp only [FileAction.perform_bind, if_pos isPresent, FileAction.perform_throw]
      exact ⟨.error reason, rfl⟩

/-! ## Changes -/

/-- A change that keeps the folders of a tree and everything that is not at one of the places. -/
structure ChangesAt (places : List Place) (before after : FileTree) : Prop where
  /-- The folders are kept. -/
  folders : KeepsFolders before after
  /-- Elsewhere nothing changes. -/
  others : ∀ place, (∀ changed ∈ places, place.text ≠ changed.text) →
    after.entryAt? place = before.entryAt? place

theorem ChangesAt.refl (places : List Place) (tree : FileTree) : ChangesAt places tree tree :=
  ⟨fun _ isFolder => isFolder, fun _ _ => rfl⟩

theorem ChangesAt.mono {fewer more : List Place} (changes : ChangesAt fewer before after)
    (inside : fewer ⊆ more) : ChangesAt more before after :=
  ⟨changes.folders, fun place apart =>
    changes.others place fun changed mem => apart changed (inside mem)⟩

theorem ChangesAt.trans {first second : List Place} (earlier : ChangesAt first before between)
    (later : ChangesAt second between after) : ChangesAt (first ++ second) before after where
  folders := fun place isFolder => later.folders place (earlier.folders place isFolder)
  others := by
    intro place apart
    obtain ⟨apartFirst, apartSecond⟩ := List.forall_mem_append.1 apart
    exact (later.others place apartSecond).trans (earlier.others place apartFirst)

/-- A change of the entries at one place, where there is no folder. -/
theorem changesAt_of_entries {entry : Option FileEntry}
    (noFolder : before.entryAt? place ≠ some .folder)
    (entries : ∀ text, after.entries.get? text =
      if text = place.text then entry else before.entries.get? text) :
    ChangesAt [place] before after where
  folders := by
    intro other isFolder
    rw [entryAt?] at isFolder noFolder ⊢
    split at isFolder
    · rename_i above
      rw [if_pos above]
    · rename_i inside
      split at noFolder
      · exact absurd rfl noFolder
      · have differs : other.text ≠ place.text := by
          intro same
          rw [same] at isFolder
          exact noFolder isFolder
        rw [if_neg inside, entries, if_neg differs, isFolder]
  others := by
    intro other apart
    rw [entryAt?, entryAt?, entries, if_neg (apart place List.mem_cons_self)]

theorem changesAt_put (entry : FileEntry) (noFolder : tree.entryAt? place ≠ some .folder) :
    ChangesAt [place] tree (tree.put place entry) :=
  changesAt_of_entries noFolder fun _ => KeyMap.get?_insert _ _ _ _

theorem changesAt_remove (noFolder : tree.entryAt? place ≠ some .folder) :
    ChangesAt [place] tree (tree.remove place) :=
  changesAt_of_entries noFolder fun _ => KeyMap.get?_erase _ _ _

/-- What was put at a place is there, if no folder was. -/
theorem entryAt?_put (entry : FileEntry) (noFolder : tree.entryAt? place ≠ some .folder) :
    (tree.put place entry).entryAt? place = some entry := by
  rw [entryAt?] at noFolder ⊢
  split at noFolder
  · exact absurd rfl noFolder
  · rename_i inside
    rw [if_neg inside]
    exact (KeyMap.get?_insert _ _ _ _).trans (if_pos rfl)

end FileTree

namespace FileAction

theorem perform_write (names : List String) (text : String) (tree : FileTree) :
    perform (write names text) tree =
      match tree.follow names with
      | .error failure => (.error failure, tree)
      | .ok place =>
        if tree.entryAt? place = some .folder then (.error .isFolder, tree)
        else (.ok (), tree.put place (.file text)) := by
  simp only [write, perform_bind, perform_follow]
  cases tree.follow names with
  | error failure => rfl
  | ok place =>
    simp only [perform_get]
    split
    · rfl
    · rfl

theorem perform_move {source target : List String} {tree : FileTree} {sourcePlace : Place}
    {text : String} (leads : tree.follow source = .ok sourcePlace)
    (isFile : tree.entryAt? sourcePlace = some (.file text)) :
    perform (move source target) tree =
      match tree.follow target with
      | .error failure => (.error failure, tree)
      | .ok targetPlace =>
        if tree.entryAt? targetPlace = some .folder then (.error .isFolder, tree)
        else (.ok (), (tree.remove sourcePlace).put targetPlace (.file text)) := by
  simp only [move, perform_bind, perform_follow, leads]
  cases tree.follow target with
  | error failure => rfl
  | ok targetPlace =>
    simp only [perform_get, isFile]
    rcases tree.entryAt? targetPlace with _ | (_ | _)
    · rfl
    · rfl
    · rfl

end FileAction

namespace FileTree

variable {tree before after : FileTree} {place : Place} {folder : String}

theorem read_of_follow {names : List String} {reached : Place}
    (leads : tree.follow names = .ok reached) :
    tree.read names =
      match tree.entryAt? reached with
      | some (.file text) => .ok text
      | some .folder => .error .isFolder
      | none => .error .notFound := by
  rw [read, leads]
  rfl

/-- What is read under a key of a folder that is there depends on the place of its file alone. -/
theorem HasFolder.readKey_congr {key : String} (there : before.HasFolder folder place)
    (keeps : KeepsFolders before after)
    (same : after.entryAt? (place.step (fileName key)) =
      before.entryAt? (place.step (fileName key))) :
    after.readKey folder key = before.readKey folder key := by
  have isStep := isStep_fileName key
  have sameFollow := there.follow_congr keeps isStep
  have sameRead : after.read (pathNames (pathIn folder (fileName key))) =
      before.read (pathNames (pathIn folder (fileName key))) := by
    cases leads : before.follow (pathNames (pathIn folder (fileName key))) with
    | error failure =>
      rw [read, read, sameFollow, leads]
      rfl
    | ok reached =>
      obtain rfl := there.eq_of_follow isStep leads
      rw [read_of_follow (sameFollow.trans leads), read_of_follow leads, same]
  unfold readKey
  rw [sameRead]

theorem readKey_of_file {key text : String} {reached : Place}
    (leads : tree.follow (pathNames (pathIn folder (fileName key))) = .ok reached)
    (isFile : tree.entryAt? reached = some (.file text)) :
    tree.readKey folder key = .ok (some text) := by
  have isRead : tree.read (pathNames (pathIn folder (fileName key))) = .ok text := by
    rw [read_of_follow leads, isFile]
  unfold readKey
  rw [isRead]

/-- A staging file that takes the place of the file of its key is found under the key, and nothing
else has changed since it was written. -/
theorem HasFolder.readKey_move {key text : String} (there : tree.HasFolder folder place)
    (leads : tree.follow (pathNames (pathIn folder (fileName key))) =
      .ok (place.step (fileName key)))
    (staged : ChangesAt [place.step (stagingName key)] tree before)
    (isStaged : before.entryAt? (place.step (stagingName key)) = some (.file text))
    (noFolder : before.entryAt? (place.step (fileName key)) ≠ some .folder) :
    let after := (before.remove (place.step (stagingName key))).put (place.step (fileName key))
      (.file text)
    after.readKey folder key = .ok (some text) ∧
      ChangesAt [place.step (stagingName key), place.step (fileName key)] tree after := by
  intro after
  have stagingNoFolder : before.entryAt? (place.step (stagingName key)) ≠ some .folder := by
    rw [isStaged]
    nofun
  have removed := changesAt_remove stagingNoFolder
  have apart : (place.step (fileName key)).text ≠ (place.step (stagingName key)).text :=
    place.text_step_ne (stagingName_ne_fileName key key).symm
  have stillNoFolder : (before.remove (place.step (stagingName key))).entryAt?
      (place.step (fileName key)) ≠ some .folder := by
    rwa [removed.others _ (List.forall_mem_singleton.2 apart)]
  have moved := changesAt_put (.file text) stillNoFolder
  have changes : ChangesAt [place.step (stagingName key), place.step (fileName key)] tree after :=
    (staged.trans (removed.trans moved)).mono (by simp)
  have stillLeads := (there.follow_congr changes.folders (isStep_fileName key)).trans leads
  exact ⟨readKey_of_file stillLeads (entryAt?_put (.file text) stillNoFolder), changes⟩

/-- A write to a folder that is there keeps the folders. If it succeeds, the text is found under the
key and nothing else has changed but the staging file; if it fails, nothing but the staging file has
changed. -/
theorem HasFolder.writeKey (there : tree.HasFolder folder place) (key text : String) :
    ∃ outcome after, (FileAction.writeKey folder key text).perform tree = (outcome, after) ∧
      (outcome = .ok () ∧ after.readKey folder key = .ok (some text) ∧
          ChangesAt [place.step (stagingName key), place.step (fileName key)] tree after ∨
        (∃ failure, outcome = .error failure) ∧
          ChangesAt [place.step (stagingName key)] tree after) := by
  have unchanged := ChangesAt.refl [place.step (stagingName key)] tree
  obtain ⟨ensured, ensures⟩ := there.ensureFolders
  simp only [FileAction.writeKey, FileAction.perform_bind, ensures]
  cases ensured with
  | error failure => exact ⟨_, _, rfl, .inr ⟨⟨failure, rfl⟩, unchanged⟩⟩
  | ok _ =>
    simp only [FileAction.perform_write]
    cases stagingLeads : tree.follow (pathNames (pathIn folder (stagingName key))) with
    | error failure => exact ⟨_, _, rfl, .inr ⟨⟨failure, rfl⟩, unchanged⟩⟩
    | ok staging =>
      obtain rfl := there.eq_of_follow (isStep_stagingName key) stagingLeads
      by_cases occupied : tree.entryAt? (place.step (stagingName key)) = some .folder
      · simp only [if_pos occupied]
        exact ⟨_, _, rfl, .inr ⟨⟨_, rfl⟩, unchanged⟩⟩
      · have staged := changesAt_put (.file text) occupied
        have isStaged := entryAt?_put (.file text) occupied
        have stagedLeads :=
          (there.follow_congr staged.folders (isStep_stagingName key)).trans stagingLeads
        simp only [if_neg occupied, FileAction.perform_move stagedLeads isStaged,
          there.follow_congr staged.folders (isStep_fileName key)]
        generalize tree.put (place.step (stagingName key)) (.file text) = stagedTree at *
        cases leads : tree.follow (pathNames (pathIn folder (fileName key))) with
        | error failure => exact ⟨_, _, rfl, .inr ⟨⟨failure, rfl⟩, staged⟩⟩
        | ok target =>
          obtain rfl := there.eq_of_follow (isStep_fileName key) leads
          by_cases targetOccupied : stagedTree.entryAt? (place.step (fileName key)) = some .folder
          · simp only [if_pos targetOccupied]
            exact ⟨_, _, rfl, .inr ⟨⟨_, rfl⟩, staged⟩⟩
          · simp only [if_neg targetOccupied]
            exact ⟨_, _, rfl, .inl ⟨rfl, there.readKey_move leads staged isStaged targetOccupied⟩⟩

/-- A write to a folder that is there is all or nothing, and no other key sees it. -/
theorem HasFolder.readKey_writeKey (there : tree.HasFolder folder place) (key text : String) :
    ∃ outcome after, (FileAction.writeKey folder key text).perform tree = (outcome, after) ∧
      after.HasFolder folder place ∧
      (∀ other, other ≠ key → after.readKey folder other = tree.readKey folder other) ∧
      (outcome = .ok () ∧ after.readKey folder key = .ok (some text) ∨
        (∃ failure, outcome = .error failure) ∧
          after.readKey folder key = tree.readKey folder key) := by
  obtain ⟨outcome, after, written, effect⟩ := there.writeKey key text
  have ofStaging (other : String) :
      (place.step (fileName other)).text ≠ (place.step (stagingName key)).text :=
    place.text_step_ne (stagingName_ne_fileName key other).symm
  have ofFile {other : String} (differs : other ≠ key) :
      (place.step (fileName other)).text ≠ (place.step (fileName key)).text :=
    place.text_step_ne (fileName_injective.ne differs)
  refine ⟨outcome, after, written, ?_⟩
  rcases effect with ⟨succeeded, found, changes⟩ | ⟨failed, changes⟩
  · refine ⟨there.of_keepsFolders changes.folders, fun other differs => ?_,
      .inl ⟨succeeded, found⟩⟩
    refine there.readKey_congr changes.folders (changes.others _ ?_)
    exact List.forall_mem_cons.2 ⟨ofStaging other, List.forall_mem_singleton.2 (ofFile differs)⟩
  · have keeps (other : String) : after.readKey folder other = tree.readKey folder other :=
      there.readKey_congr changes.folders
        (changes.others _ (List.forall_mem_singleton.2 (ofStaging other)))
    exact ⟨there.of_keepsFolders changes.folders, fun other _ => keeps other,
      .inr ⟨failed, keeps key⟩⟩

/-- Writes one text after the other, each under its key, whether or not they succeed. -/
def writeKeys (tree : FileTree) (folder : String) (writes : List (String × String)) : FileTree :=
  writes.foldl
    (fun tree write => ((FileAction.writeKey folder write.1 write.2).perform tree).2) tree

/-- Whatever is written under other keys, a key keeps what is read under it. -/
theorem HasFolder.readKey_writeKeys (there : tree.HasFolder folder place) {key : String}
    {writes : List (String × String)} (others : ∀ write ∈ writes, write.1 ≠ key) :
    (tree.writeKeys folder writes).readKey folder key = tree.readKey folder key := by
  induction writes generalizing tree with
  | nil => rfl
  | cons write rest inductionHypothesis =>
    obtain ⟨differs, restDiffers⟩ := List.forall_mem_cons.1 others
    obtain ⟨outcome, after, written, stillThere, keeps, _⟩ :=
      there.readKey_writeKey write.1 write.2
    have first : tree.writeKeys folder (write :: rest) = after.writeKeys folder rest := by
      rw [writeKeys, List.foldl_cons, written, writeKeys]
    rw [first, inductionHypothesis stillThere restDiffers, keeps key differs.symm]

end FileTree

end Questionnaire
