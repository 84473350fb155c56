import Questionnaire.Proofs.Store.FileName
import Questionnaire.Store.KeyFolder

/-!
# Names lead to places

A path goes by the names of its folder and then by its last name. Different names that are one step
lead from one folder to places with different texts. A change that keeps the folders of a tree does
not change where a path leads that has led somewhere.
-/

namespace Questionnaire

/-! ## Names on a path -/

/-- The path of a file in a folder goes by the names of the folder, less an empty one at the end,
and then by that of the file. -/
theorem exists_pathNames_pathIn (folder : String) :
    ∃ above, (pathNames folder = above ∨ pathNames folder = above ++ [""]) ∧
      ∀ name, '/' ∉ name.toList → pathNames (pathIn folder name) = above ++ [name] := by
  have afterSlash (chars : List Char) {last : List Char} (single : '/' ∉ last) :
      ((chars ++ '/' :: last).splitOn '/').map String.ofList =
        (chars.splitOn '/').map String.ofList ++ [String.ofList last] := by
    rw [List.splitOn_append_cons_self, List.splitOn_eq_singleton single, List.map_append,
      List.map_singleton]
  cases isLast : folder.toList.getLast? with
  | none =>
    have noFolder : folder.toList = [] := List.getLast?_eq_none_iff.1 isLast
    refine ⟨[], .inr ?_, fun name single => ?_⟩
    · rw [pathNames, noFolder]
      rfl
    · rw [pathIn, isLast, pathNames, String.toList_append, noFolder, List.nil_append,
        List.splitOn_eq_singleton single, List.map_singleton, String.ofList_toList, List.nil_append]
  | some char =>
    by_cases isSlash : char = '/'
    · subst isSlash
      obtain ⟨before, ofFolder⟩ := List.getLast?_eq_some_iff.1 isLast
      refine ⟨(before.splitOn '/').map String.ofList, .inr ?_, fun name single => ?_⟩
      · rw [pathNames, ofFolder]
        exact afterSlash before List.not_mem_nil
      · have path : pathIn folder name = folder ++ name := by
          rw [pathIn, isLast]
          rfl
        rw [path, pathNames, String.toList_append, ofFolder, List.append_assoc]
        exact (afterSlash before single).trans (by rw [String.ofList_toList])
    · refine ⟨pathNames folder, .inl rfl, fun name single => ?_⟩
      have path : pathIn folder name = folder ++ "/" ++ name := by
        rw [pathIn, isLast]
        split
        · contradiction
        · rename_i sameChar
          exact absurd (Option.some.inj sameChar) isSlash
        · rfl
      rw [path, pathNames, String.toList_append, String.toList_append, List.append_assoc]
      exact (afterSlash folder.toList single).trans (by rw [String.ofList_toList, pathNames])

/-! ## Steps -/

namespace Place

variable {place : Place} {name left right : String}

/-- The place to which a step leads. -/
def step (place : Place) (name : String) : Place :=
  if name = ".." then place.above else place ++ [name]

theorem text_concat (inside : place ≠ []) (name : String) :
    text (place ++ [name]) = place.text ++ "/" ++ name := by
  rw [text, String.intercalate_append_of_ne_nil inside (List.cons_ne_nil _ _),
    String.intercalate_singleton]
  rfl

/-- In one place, names can be told from texts. -/
theorem text_concat_inj (same : text (place ++ [left]) = text (place ++ [right])) :
    left = right := by
  by_cases atStart : place = []
  · subst atStart
    exact same
  · rw [text_concat atStart, text_concat atStart] at same
    have sameChars := congrArg String.toList same
    simp only [String.toList_append] at sameChars
    exact String.toList_inj.1 (List.append_cancel_left sameChars)

theorem length_text_lt (place : Place) (first name : String) :
    place.text.length < (text (place ++ [first] ++ [name])).length := by
  have slash : "/".length = 1 := rfl
  have inside : place ++ [first] ≠ [] := List.concat_ne_nil _ _
  rw [text_concat inside, String.length_append, String.length_append]
  by_cases atStart : place = []
  · subst atStart
    have empty : (text []).length = 0 := rfl
    omega
  · rw [text_concat atStart, String.length_append, String.length_append]
    omega

/-- The folder above and a place in the folder have different texts. -/
theorem text_above_ne (place : Place) (inside : name ≠ "..") :
    place.above.text ≠ text (place ++ [name]) := by
  rw [above]
  split
  · rename_i atRoot
    subst atRoot
    intro same
    have sameLength := congrArg String.length same
    rw [text_concat (List.cons_ne_nil _ _), String.length_append, String.length_append]
      at sameLength
    have root : (text ["/"]).length = 1 := rfl
    have slash : "/".length = 1 := rfl
    omega
  · split
    · rename_i allAbove
      have isAbove : place = List.replicate place.length ".." :=
        List.eq_replicate_of_mem fun other inside => by
          simpa using List.all_eq_true.1 allAbove other inside
      have turned : ".." :: place = place ++ [".."] := by
        rw [isAbove, ← List.replicate_succ, List.replicate_succ']
      rw [turned]
      exact fun same => inside (text_concat_inj same).symm
    · rename_i someInside
      have nonempty : place ≠ [] := by
        rintro rfl
        exact someInside rfl
      intro same
      have shorter := length_text_lt place.dropLast (place.getLast nonempty) name
      rw [List.dropLast_concat_getLast, same] at shorter
      exact Nat.lt_irrefl _ shorter

/-- Different steps lead to places with different texts. -/
theorem text_step_ne (place : Place) (distinct : left ≠ right) :
    (place.step left).text ≠ (place.step right).text := by
  rw [step, step]
  by_cases leftAbove : left = ".."
  · have rightInside : right ≠ ".." := fun rightAbove => distinct (leftAbove.trans rightAbove.symm)
    rw [if_pos leftAbove, if_neg rightInside]
    exact text_above_ne place rightInside
  · rw [if_neg leftAbove]
    by_cases rightAbove : right = ".."
    · rw [if_pos rightAbove]
      exact (text_above_ne place leftAbove).symm
    · rw [if_neg rightAbove]
      exact fun same => distinct (text_concat_inj same)

end Place

theorem IsStep.ne_empty {name : String} (isStep : IsStep name) : name ≠ "" := by
  rintro rfl
  exact absurd isStep.leads (by decide)

namespace FileTree

variable {tree before after : FileTree} {place entered : Place} {name : String}

/-- What a step from a folder gives. -/
theorem enter_of_folder (isFolder : tree.entryAt? place = some .folder) (isStep : IsStep name) :
    tree.enter place name =
      if name ≠ ".." ∧ nameLimit < name.utf8ByteSize then .error .nameTooLong
      else .ok (place.step name) := by
  have leads : ¬ staysInFolder name = true := Bool.eq_false_iff.1 isStep.leads
  simp only [enter, isFolder, if_neg leads]
  by_cases isAbove : name = ".."
  · simp [Place.step, isAbove]
  · simp [Place.step, isAbove]

/-- A step is made from a folder. -/
theorem isFolder_of_enter (enters : tree.enter place name = .ok entered) :
    tree.entryAt? place = some .folder := by
  rw [enter] at enters
  split at enters
  · contradiction
  · contradiction
  · assumption

/-- The place to which names lead, however long they are. -/
def walk (tree : FileTree) (names : List String) : Except FileFailure Place :=
  match names with
  | "" :: rest => rest.foldlM tree.enter ["/"]
  | names => names.foldlM tree.enter []

theorem follow_eq (tree : FileTree) (names : List String) :
    tree.follow names =
      if !fitsPathLimit names then .error .nameTooLong else tree.walk names := rfl

/-- A path whose first name is not empty starts in the working folder. -/
theorem walk_of_ne (tree : FileTree) {first : String} (notRoot : first ≠ "") (rest : List String) :
    tree.walk (first :: rest) = (first :: rest).foldlM tree.enter [] := by
  rw [walk]
  intro _ atRoot
  exact notRoot (List.cons.inj atRoot).1

/-- Names lead to where the last of them leads from the place of the names before. -/
theorem walk_concat (tree : FileTree) {above : List String} (inner : above ≠ [] ∨ name ≠ "") :
    tree.walk (above ++ [name]) = (tree.walk above).bind fun place => tree.enter place name := by
  have lastStep (names : List String) (start : Place) :
      (names ++ [name]).foldlM tree.enter start =
        (names.foldlM tree.enter start).bind fun place => tree.enter place name := by
    rw [List.foldlM_append]
    refine bind_congr fun place => ?_
    rw [List.foldlM_cons]
    exact bind_pure _
  cases above with
  | nil =>
    rw [List.nil_append, walk_of_ne tree (inner.resolve_left (· rfl))]
    exact lastStep [] []
  | cons first rest =>
    by_cases atRoot : first = ""
    · subst atRoot
      exact lastStep rest ["/"]
    · rw [walk_of_ne tree atRoot, List.cons_append, walk_of_ne tree atRoot]
      exact lastStep (first :: rest) []

/-- The last step of a path starts where the names before it lead. -/
theorem exists_step_of_follow {above : List String} (isStep : IsStep name)
    (leads : tree.follow (above ++ [name]) = .ok entered) :
    ∃ place, tree.walk above = .ok place ∧ entered = place.step name := by
  rw [follow_eq] at leads
  split at leads
  · contradiction
  · rw [walk_concat tree (.inr isStep.ne_empty)] at leads
    cases walked : tree.walk above with
    | error failure => rw [walked] at leads; contradiction
    | ok place =>
      rw [walked] at leads
      have enters : tree.enter place name = .ok entered := leads
      rw [enter_of_folder (isFolder_of_enter enters) isStep] at enters
      split at enters
      · contradiction
      · exact ⟨place, rfl, (Except.ok.inj enters).symm⟩

/-- A name that stays in its folder only asks whether it is one. -/
theorem walk_concat_stays {above : List String} (inner : above ≠ [] ∨ name ≠ "")
    (stays : staysInFolder name = true) :
    tree.walk (above ++ [name]) = .ok place ↔
      tree.walk above = .ok place ∧ tree.entryAt? place = some .folder := by
  have enter_eq (start : Place) (isFolder : tree.entryAt? start = some .folder) :
      tree.enter start name = .ok start := by
    simp only [enter, isFolder, if_pos stays]
  rw [walk_concat tree inner]
  constructor
  · intro leads
    cases walked : tree.walk above with
    | error failure => rw [walked] at leads; contradiction
    | ok start =>
      rw [walked] at leads
      have isFolder := isFolder_of_enter leads
      obtain rfl : start = place := Except.ok.inj ((enter_eq start isFolder).symm.trans leads)
      exact ⟨rfl, isFolder⟩
  · rintro ⟨walked, isFolder⟩
    rw [walked]
    exact enter_eq place isFolder

/-! ## Folders that are there -/

/-- The folder is there, at a place. -/
def HasFolder (tree : FileTree) (folder : String) (place : Place) : Prop :=
  tree.walk (pathNames (pathIn folder ".")) = .ok place

/-- The working folder is always there. -/
example (tree : FileTree) : tree.HasFolder "." [] := by
  rfl

theorem hasFolder_iff {folder : String} {above : List String}
    (names : pathNames (pathIn folder ".") = above ++ ["."]) :
    tree.HasFolder folder place ↔
      tree.walk above = .ok place ∧ tree.entryAt? place = some .folder := by
  rw [HasFolder, names]
  exact walk_concat_stays (.inr (by decide)) rfl

/-- Where a step from a folder that is there leads does not depend on the rest of the tree. -/
theorem HasFolder.follow {folder : String} (there : tree.HasFolder folder place)
    (isStep : IsStep name) :
    tree.follow (pathNames (pathIn folder name)) =
      if !fitsPathLimit (pathNames (pathIn folder name)) ∨
          name ≠ ".." ∧ nameLimit < name.utf8ByteSize then .error .nameTooLong
      else .ok (place.step name) := by
  obtain ⟨above, -, names⟩ := exists_pathNames_pathIn folder
  obtain ⟨walked, isFolder⟩ := (hasFolder_iff (names "." (by decide))).1 there
  have entered : (Except.ok place).bind (fun start => tree.enter start name) =
      tree.enter place name := rfl
  rw [follow_eq, names name isStep.single, walk_concat tree (.inr isStep.ne_empty), walked,
    entered, enter_of_folder isFolder isStep]
  by_cases long : (!fitsPathLimit (above ++ [name])) = true
  · rw [if_pos long, if_pos (.inl long)]
  · rw [if_neg long]
    simp only [long, Bool.false_eq_true, false_or]

theorem HasFolder.eq_of_follow {folder : String} (there : tree.HasFolder folder place)
    (isStep : IsStep name) (leads : tree.follow (pathNames (pathIn folder name)) = .ok entered) :
    entered = place.step name := by
  rw [there.follow isStep] at leads
  split at leads
  · contradiction
  · exact (Except.ok.inj leads).symm

/-- A change that keeps all folders. -/
def KeepsFolders (before after : FileTree) : Prop :=
  ∀ place, before.entryAt? place = some .folder → after.entryAt? place = some .folder

theorem KeepsFolders.enter (keeps : KeepsFolders before after)
    (enters : before.enter place name = .ok entered) : after.enter place name = .ok entered := by
  have isFolder := isFolder_of_enter enters
  have stillFolder := keeps place isFolder
  simp only [FileTree.enter, isFolder] at enters
  simp only [FileTree.enter, stillFolder]
  exact enters

theorem KeepsFolders.walk (keeps : KeepsFolders before after) {names : List String}
    (leads : before.walk names = .ok place) : after.walk names = .ok place := by
  have steps (names : List String) (start : Place)
      (leads : names.foldlM before.enter start = .ok place) :
      names.foldlM after.enter start = .ok place := by
    induction names generalizing start with
    | nil => exact leads
    | cons name rest inductionHypothesis =>
      rw [List.foldlM_cons] at leads ⊢
      cases first : before.enter start name with
      | error failure => rw [first] at leads; contradiction
      | ok next =>
        rw [first] at leads
        rw [keeps.enter first]
        exact inductionHypothesis next leads
  unfold FileTree.walk at leads ⊢
  split at leads
  · exact steps _ _ leads
  · exact steps _ _ leads

/-- A folder that is there stays at its place. -/
theorem HasFolder.of_keepsFolders {folder : String} (there : before.HasFolder folder place)
    (keeps : KeepsFolders before after) : after.HasFolder folder place :=
  keeps.walk there

theorem HasFolder.follow_congr {folder : String} (there : before.HasFolder folder place)
    (keeps : KeepsFolders before after) (isStep : IsStep name) :
    after.follow (pathNames (pathIn folder name)) =
      before.follow (pathNames (pathIn folder name)) :=
  ((there.of_keepsFolders keeps).follow isStep).trans (there.follow isStep).symm

end FileTree

end Questionnaire
