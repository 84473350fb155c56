import Mathlib.Data.List.Induction
import Mathlib.Data.List.Nodup
import Questionnaire.Response.Files

/-!
# Files by their ids

An addition keeps of each id the first file, whether that was there before or comes in, and no file
without an id. So one addition after another is the addition of all their files, and the same files
may be added again. A move takes the files with an id out of one answer and leaves one file with
that id in the other. The files with other ids stay, except those of the target that any addition
drops.
-/

namespace Questionnaire

variable {files more : List UploadedFile} {file : UploadedFile}

/-- Whether a file that follows others is dropped: it has no id, or one of them has its id. -/
def isDropped (files : List UploadedFile) (file : UploadedFile) : Bool :=
  file.id.isEmpty || files.any fun earlier => earlier.id == file.id

theorem isDropped_iff :
    isDropped files file = true ↔ file.id = "" ∨ ∃ earlier ∈ files, earlier.id = file.id := by
  simp only [isDropped, Bool.or_eq_true, String.isEmpty_iff, List.any_eq_true, beq_iff_eq]

theorem isDropped_append : isDropped (files ++ more) file = true ↔
    isDropped files file = true ∨ ∃ earlier ∈ more, earlier.id = file.id := by
  simp only [isDropped_iff, List.mem_append, or_and_right, exists_or, or_assoc]

/-! ## First files -/

/-- The files that have an id which no file before them has, in order. -/
def firstFiles (files : List UploadedFile) : List UploadedFile :=
  (files.zipIdx.filter fun entry => !isDropped (files.take entry.2) entry.1).map Prod.fst

theorem firstFiles_concat (files : List UploadedFile) (file : UploadedFile) :
    firstFiles (files ++ [file]) =
      if isDropped files file then firstFiles files else firstFiles files ++ [file] := by
  have before : (files.zipIdx.filter fun entry =>
        !isDropped ((files ++ [file]).take entry.2) entry.1) =
      files.zipIdx.filter fun entry => !isDropped (files.take entry.2) entry.1 := by
    refine List.filter_congr fun entry inside => ?_
    have bound : entry.2 < files.length := List.snd_lt_of_mem_zipIdx inside
    rw [List.take_append_of_le_length (Nat.le_of_lt bound)]
  have atEnd : [file].zipIdx files.length = [(file, files.length)] := rfl
  rw [firstFiles, List.zipIdx_append, Nat.zero_add, atEnd, List.filter_append, before,
    List.filter_cons, List.filter_nil, List.take_left, List.map_append, ← firstFiles]
  cases isDropped files file with
  | true => exact List.append_nil _
  | false => rfl

theorem of_mem_firstFiles (inside : file ∈ firstFiles files) : file ∈ files ∧ file.id ≠ "" := by
  obtain ⟨entry, kept, rfl⟩ := List.mem_map.1 inside
  obtain ⟨member, notDropped⟩ := List.mem_filter.1 kept
  refine ⟨List.fst_mem_of_mem_zipIdx member, fun empty => ?_⟩
  rw [isDropped_iff.2 (.inl empty)] at notDropped
  contradiction

theorem nodup_ids_firstFiles (files : List UploadedFile) :
    ((firstFiles files).map UploadedFile.id).Nodup := by
  induction files using List.reverseRecOn with
  | nil => exact List.nodup_nil
  | append_singleton files file inductionHypothesis =>
    rw [firstFiles_concat]
    split
    · exact inductionHypothesis
    · rename_i kept
      have isNew : file.id ∉ (firstFiles files).map UploadedFile.id := by
        intro used
        obtain ⟨earlier, inside, same⟩ := List.mem_map.1 used
        exact kept (isDropped_iff.2 (.inr ⟨earlier, (of_mem_firstFiles inside).1, same⟩))
      rw [List.map_append, List.map_singleton, ← List.concat_eq_append]
      exact List.Nodup.concat isNew inductionHypothesis

/-- Files with ids of their own are all first files. -/
theorem firstFiles_of_distinct (named : ∀ file ∈ files, file.id ≠ "")
    (distinct : (files.map UploadedFile.id).Nodup) : firstFiles files = files := by
  induction files using List.reverseRecOn with
  | nil => rfl
  | append_singleton files file inductionHypothesis =>
    obtain ⟨earlierNamed, lastNamed⟩ := List.forall_mem_append.1 named
    rw [List.map_append, List.map_singleton, ← List.concat_eq_append, List.nodup_concat] at distinct
    have kept : ¬ isDropped files file = true := by
      rw [isDropped_iff]
      rintro (empty | ⟨earlier, inside, same⟩)
      · exact lastNamed file List.mem_cons_self empty
      · exact distinct.1 (List.mem_map.2 ⟨earlier, inside, same⟩)
    rw [firstFiles_concat, if_neg kept, inductionHypothesis earlierNamed distinct.2]

/-- A file is dropped after the first files exactly where it is dropped after all of them. -/
theorem isDropped_firstFiles (files : List UploadedFile) (file : UploadedFile) :
    isDropped (firstFiles files) file = isDropped files file := by
  induction files using List.reverseRecOn with
  | nil => rfl
  | append_singleton files last inductionHypothesis =>
    rw [firstFiles_concat, Bool.eq_iff_iff, isDropped_append]
    split
    · rename_i lastDropped
      rw [inductionHypothesis]
      refine ⟨.inl, ?_⟩
      rintro (dropped | ⟨_, isLast, same⟩)
      · exact dropped
      · -- The last file is dropped itself, for the same id.
        obtain rfl := List.mem_singleton.1 isLast
        rw [isDropped_iff] at lastDropped ⊢
        rwa [same] at lastDropped
    · rw [isDropped_append, inductionHypothesis]

/-- Files that are taken over one by one are the first files. -/
theorem foldl_keepNew (files : List UploadedFile) : files.foldl keepNew [] = firstFiles files := by
  induction files using List.reverseRecOn with
  | nil => rfl
  | append_singleton files file inductionHypothesis =>
    rw [List.foldl_append, List.foldl_cons, List.foldl_nil, inductionHypothesis, firstFiles_concat,
      ← isDropped_firstFiles]
    rfl

/-- The first files may be taken before others follow. -/
theorem firstFiles_append_left (files more : List UploadedFile) :
    firstFiles (firstFiles files ++ more) = firstFiles (files ++ more) := by
  have again : firstFiles (firstFiles files) = firstFiles files :=
    firstFiles_of_distinct (fun _ inside => (of_mem_firstFiles inside).2)
      (nodup_ids_firstFiles files)
  rw [← foldl_keepNew, List.foldl_append, foldl_keepNew, again, ← foldl_keepNew,
    ← List.foldl_append, foldl_keepNew]

/-- Files that are dropped after others leave the first files as they are. -/
theorem firstFiles_append_of_dropped (dropped : ∀ file ∈ more, isDropped files file = true) :
    firstFiles (files ++ more) = firstFiles files := by
  induction more using List.reverseRecOn with
  | nil => rw [List.append_nil]
  | append_singleton more file inductionHypothesis =>
    obtain ⟨earlier, last⟩ := List.forall_mem_append.1 dropped
    have lastDropped : isDropped (files ++ more) file = true :=
      isDropped_append.2 (.inl (last file List.mem_cons_self))
    rw [← List.append_assoc, firstFiles_concat, if_pos lastDropped, inductionHypothesis earlier]

/-- Of several files with one id, the first stays. -/
theorem firstFiles_cons_of_same (named : file.id ≠ "") (same : ∀ other ∈ more, other.id = file.id) :
    firstFiles (file :: more) = [file] := by
  have dropped : ∀ other ∈ more, isDropped [file] other = true := fun other inside =>
    isDropped_iff.2 (.inr ⟨file, List.mem_cons_self, (same other inside).symm⟩)
  have alone : firstFiles [file] = [file] :=
    firstFiles_of_distinct (by simpa using named) (List.nodup_singleton _)
  exact (firstFiles_append_of_dropped dropped).trans alone

/-- Which of the files with some ids are first does not depend on the files with other ids. -/
theorem filter_firstFiles {test : UploadedFile → Bool}
    (byId : ∀ {file other : UploadedFile}, file.id = other.id → test file = test other)
    (files : List UploadedFile) :
    (firstFiles files).filter test = firstFiles (files.filter test) := by
  induction files using List.reverseRecOn with
  | nil => rfl
  | append_singleton files file inductionHypothesis =>
    rw [List.filter_append, firstFiles_concat, apply_ite (List.filter test), List.filter_append,
      inductionHypothesis, List.filter_cons, List.filter_nil]
    cases passes : test file with
    | true =>
      have sameDropped : isDropped (files.filter test) file = isDropped files file := by
        rw [Bool.eq_iff_iff, isDropped_iff, isDropped_iff]
        refine or_congr_right (exists_congr fun earlier => ?_)
        rw [List.mem_filter, and_assoc]
        exact and_congr_right fun _ => and_iff_right_of_imp fun same => (byId same).trans passes
      rw [if_pos rfl, firstFiles_concat, sameDropped]
    | false => rw [if_neg Bool.false_ne_true, List.append_nil, List.append_nil, ite_self]

/-! ## Additions and removals -/

theorem appendFiles_eq (answer : Option Answer) (incoming : List UploadedFile) :
    appendFiles answer incoming = .files (firstFiles (filesOf answer ++ incoming)) :=
  congrArg Answer.files (foldl_keepNew _)

/-- Adding files keeps exactly the first files, those of the answer before those that come in. They
have distinct ids, further additions may be made at once, and the same files may be added again. -/
theorem appendFiles_isIdempotentAction (answer : Option Answer)
    (incoming more : List UploadedFile) :
    (∀ file ∈ filesOf (some (appendFiles answer incoming)), file.id ≠ "") ∧
      ((filesOf (some (appendFiles answer incoming))).map UploadedFile.id).Nodup ∧
      appendFiles answer incoming = .files (firstFiles (filesOf answer ++ incoming)) ∧
      appendFiles (some (appendFiles answer incoming)) more =
        appendFiles answer (incoming ++ more) ∧
      appendFiles (some (appendFiles answer incoming)) incoming = appendFiles answer incoming := by
  have appended (added : List UploadedFile) :
      appendFiles (some (appendFiles answer incoming)) added =
        .files (firstFiles (filesOf answer ++ incoming ++ added)) := by
    rw [appendFiles_eq, appendFiles_eq answer]
    exact congrArg Answer.files (firstFiles_append_left _ added)
  refine ⟨?_, ?_, appendFiles_eq answer incoming, ?_, ?_⟩
  · rw [appendFiles_eq]
    exact fun _ inside => (of_mem_firstFiles inside).2
  · rw [appendFiles_eq]
    exact nodup_ids_firstFiles _
  · rw [appended, appendFiles_eq, List.append_assoc]
  · -- Each of the files is there already, unless it has no id.
    rw [appended, appendFiles_eq]
    refine congrArg Answer.files (firstFiles_append_of_dropped fun file inside => ?_)
    exact isDropped_append.2 (.inr ⟨file, inside, rfl⟩)

/-- A removal takes away the files with its ids, but no file without an id. -/
theorem filesOf_removeFiles (answer : Option Answer) (ids : List String) :
    filesOf (removeFiles answer ids) =
      (filesOf answer).filter fun file => file.id.isEmpty || !ids.contains file.id := by
  have sameTest (file : UploadedFile) :
      (!(ids.filter fun id => !id.isEmpty).contains file.id) =
        (file.id.isEmpty || !ids.contains file.id) := by
    rw [Bool.eq_iff_iff]
    by_cases empty : file.id = "" <;> simp [empty]
  unfold removeFiles
  simp only [sameTest]
  split
  · rename_i idle
    refine (List.filter_eq_self.2 fun file inside => ?_).symm
    rcases Bool.or_eq_true_iff.1 idle with noFiles | noIds
    · rw [List.isEmpty_iff.1 noFiles] at inside
      exact absurd inside List.not_mem_nil
    · rw [← sameTest, List.isEmpty_iff.1 noIds]
      rfl
  · split
    · rename_i noneLeft
      exact noneLeft.symm
    · rfl

/-! ## Moves -/

/-- The files of an answer with an id. -/
def filesWith (answer : Option Answer) (id : String) : List UploadedFile :=
  (filesOf answer).filter fun file => file.id == id

/-- The files of an answer with other ids. -/
def filesWithout (answer : Option Answer) (id : String) : List UploadedFile :=
  (filesOf answer).filter fun file => file.id != id

/-- A move of an id takes a file of the source that has it, leaves none there and one in the target,
and keeps all other files of both; or it changes neither. -/
def FileMove.Conserves (move : FileMove) (source target : Option Answer) (id : String) : Prop :=
  (∀ file ∈ move.moved, (file ∈ filesOf source ∧ file.id = id) ∧
    (filesWith move.source id = [] ∧ (filesWith move.target id).length = 1) ∧
    filesWithout move.source id = filesWithout source id ∧
    filesWithout move.target id = filesWithout target id) ∧
  (move.moved = none → move.source = source ∧ move.target = target)

instance (move : FileMove) (source target : Option Answer) (id : String) :
    Decidable (move.Conserves source target id) :=
  inferInstanceAs (Decidable ((∀ file ∈ move.moved, _ ∧ _ ∧ _ ∧ _) ∧ (_ → _)))

theorem filesWithout_removeFiles (answer : Option Answer) (id : String) :
    filesWithout (removeFiles answer [id]) id = filesWithout answer id := by
  rw [filesWithout, filesOf_removeFiles, List.filter_filter]
  refine List.filter_congr fun file _ => ?_
  by_cases same : file.id = id
  · rw [bne_eq_false_iff_eq.2 same, Bool.false_and]
  · simp [same]

theorem filesWith_removeFiles (answer : Option Answer) {id : String} (named : id ≠ "") :
    filesWith (removeFiles answer [id]) id = [] := by
  rw [filesWith, filesOf_removeFiles, List.filter_filter, List.filter_eq_nil_iff]
  rintro file _ both
  obtain ⟨same, kept⟩ := Bool.and_eq_true_iff.1 both
  rw [eq_of_beq same] at kept
  simp [named] at kept

theorem filesWithout_appendFiles (answer : Option Answer) (file : UploadedFile) :
    filesWithout (some (appendFiles answer [file])) file.id =
      firstFiles (filesWithout answer file.id) := by
  rw [appendFiles_eq, filesWithout]
  refine (filter_firstFiles (fun same => by rw [same]) _).trans ?_
  rw [List.filter_append, List.filter_cons_of_neg (by simp), List.filter_nil, List.append_nil,
    ← filesWithout]

/-- Of the files with the id of an added file, the first one stays. -/
theorem filesWith_appendFiles (answer : Option Answer) (named : file.id ≠ "") :
    filesWith (some (appendFiles answer [file])) file.id =
      [(filesWith answer file.id).head?.getD file] := by
  have own : filesWith (some (appendFiles answer [file])) file.id =
      firstFiles (filesWith answer file.id ++ [file]) := by
    rw [appendFiles_eq, filesWith]
    refine (filter_firstFiles (fun same => by rw [same]) _).trans ?_
    rw [List.filter_append, List.filter_cons_of_pos (by simp), List.filter_nil, ← filesWith]
  rw [own]
  cases found : filesWith answer file.id with
  | nil => exact firstFiles_cons_of_same named (fun _ inside => absurd inside List.not_mem_nil)
  | cons first rest =>
    have sameId : ∀ other ∈ first :: rest ++ [file], other.id = file.id := by
      intro other inside
      rcases List.mem_append.1 inside with earlier | isLast
      · rw [← found] at earlier
        exact eq_of_beq (List.mem_filter.1 earlier).2
      · rw [List.mem_singleton.1 isLast]
    obtain ⟨firstId, restIds⟩ := List.forall_mem_cons.1 sameId
    refine firstFiles_cons_of_same (firstId ▸ named) fun other inside => ?_
    rw [firstId, restIds other inside]

theorem moveFile_of_found {source : Option Answer} {id : String}
    (found : (filesOf source).find? (fun file => file.id == id) = some file)
    (target : Option Answer) :
    moveFile source target id =
      { source := removeFiles source [id]
        target := some (appendFiles target [file])
        moved := some file } := by
  rw [moveFile, found]

/-- What is moved is a file of the source with the id. The files with other ids stay, except those
of the target that an addition drops. A move of nothing changes nothing. If the id is not empty, the
first file of the source that has it is moved; afterwards no file there has it, and one of the
target, which is the first that was there, else the file moved; where the other files of the target
have distinct ids, nothing is lost. -/
theorem moveFile_conserves (source target : Option Answer) (id : String) :
    let move := moveFile source target id
    (∀ file ∈ move.moved, (file ∈ filesOf source ∧ file.id = id) ∧
        filesWithout move.source id = filesWithout source id ∧
        filesWithout move.target id = firstFiles (filesWithout target id) ∧
        (id ≠ "" → filesWith move.source id = [] ∧
          filesWith move.target id = [(filesWith target id).head?.getD file])) ∧
      (move.moved = none → move.source = source ∧ move.target = target) ∧
      (id ≠ "" → move.moved = (filesWith source id).head? ∧
        ((∀ file ∈ filesWithout target id, file.id ≠ "") →
          ((filesWithout target id).map UploadedFile.id).Nodup →
          move.Conserves source target id)) := by
  intro move
  have first : (filesWith source id).head? = (filesOf source).find? fun file => file.id == id :=
    List.head?_filter ..
  cases found : (filesOf source).find? fun file => file.id == id with
  | none =>
    rw [found] at first
    have idle : move = { source, target, moved := none } := by
      simp only [move, moveFile, found]
    rw [idle]
    exact ⟨nofun, fun _ => ⟨rfl, rfl⟩, fun _ =>
      ⟨first.symm, fun _ _ => ⟨nofun, fun _ => ⟨rfl, rfl⟩⟩⟩⟩
  | some file =>
    have inside : file ∈ filesOf source := List.mem_of_find?_eq_some found
    have moves : move = _ := moveFile_of_found found target
    rw [found] at first
    obtain rfl : file.id = id := by simpa using List.find?_some found
    have sourceKept := filesWithout_removeFiles source file.id
    have targetKept := filesWithout_appendFiles target file
    rw [moves]
    refine ⟨?_, nofun, fun named => ⟨first.symm, fun othersNamed distinct => ⟨?_, nofun⟩⟩⟩
    · rintro _ ⟨⟩
      exact ⟨⟨inside, rfl⟩, sourceKept, targetKept, fun named =>
        ⟨filesWith_removeFiles source named, filesWith_appendFiles target named⟩⟩
    · rintro _ ⟨⟩
      rw [firstFiles_of_distinct othersNamed distinct] at targetKept
      have single := congrArg List.length (filesWith_appendFiles target named)
      exact ⟨⟨inside, rfl⟩, ⟨filesWith_removeFiles source named, single⟩, sourceKept, targetKept⟩

/-- The first of two files with an id is moved, and both go. In the target, which has neither files
without an id nor repeated ones, it comes to the end. -/
theorem moveFile_conserves_twice :
    let file (id name : String) : UploadedFile := { id, name }
    let source := some (Answer.files [file "" "a", file "f" "b", file "g" "c", file "f" "d"])
    let target := some (Answer.files [file "g" "e", file "h" "i"])
    let move := moveFile source target "f"
    file "f" "b" ∈ move.moved ∧ "f" ≠ "" ∧ (∀ other ∈ filesWithout target "f", other.id ≠ "") ∧
      ((filesWithout target "f").map UploadedFile.id).Nodup ∧
      filesWithout move.source "f" = [file "" "a", file "g" "c"] ∧
      filesWith move.target "f" = [file "f" "b"] ∧ move.Conserves source target "f" := by
  intro file source target move
  have moved : file "f" "b" ∈ move.moved := by decide +kernel
  have named : ∀ other ∈ filesWithout target "f", other.id ≠ "" := by decide +kernel
  have distinct : ((filesWithout target "f").map UploadedFile.id).Nodup := by decide +kernel
  have hasId : "f" ≠ "" := by decide
  obtain ⟨whenMoved, _, whenNamed⟩ := moveFile_conserves source target "f"
  obtain ⟨_, sourceKept, _, owned⟩ := whenMoved _ moved
  exact ⟨moved, hasId, named, distinct, sourceKept.trans (by decide +kernel),
    (owned hasId).2.trans (by decide +kernel), (whenNamed hasId).2 named distinct⟩

/-- Of two files of the target with one id, the second is lost when another file comes in. -/
theorem not_conserves_repeated :
    let file (id name : String) : UploadedFile := { id, name }
    let source := some (Answer.files [file "f" "a"])
    let target := some (Answer.files [file "x" "b", file "x" "c"])
    let move := moveFile source target "f"
    move.moved = some (file "f" "a") ∧
      move.target = some (.files [file "x" "b", file "f" "a"]) ∧
      ¬ move.Conserves source target "f" := by
  decide +kernel

end Questionnaire
