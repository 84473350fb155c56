import Questionnaire.Proofs.Store.KeyFolder
import Questionnaire.Store.Config

/-!
# Scopes keep stores apart

Stores over one folder share no file if their scopes differ. The scope and the colon stand in front
of keys of one length, so different scopes give different full keys; different keys have different
names in the folder; and different names lead to different places, wherever the folder is.
-/

namespace Questionnaire

/-! ## Paths apart -/

/-- Paths that differ and do not lead to the same file, wherever they lead. -/
structure ArePathsApart (left right : String) : Prop where
  /-- The paths go by different names. -/
  names : pathNames left ≠ pathNames right
  /-- In no tree do they lead to one place. -/
  places (tree : FileTree) {leftPlace rightPlace : Place} :
    tree.follow (pathNames left) = .ok leftPlace →
      tree.follow (pathNames right) = .ok rightPlace → leftPlace.text ≠ rightPlace.text

theorem ArePathsApart.symm {left right : String} (apart : ArePathsApart left right) :
    ArePathsApart right left where
  names := apart.names.symm
  places tree _ _ leftLeads rightLeads := (apart.places tree rightLeads leftLeads).symm

/-- Different names in one folder give paths apart. -/
theorem arePathsApart_pathIn (folder : String) {left right : String} (leftStep : IsStep left)
    (rightStep : IsStep right) (distinct : left ≠ right) :
    ArePathsApart (pathIn folder left) (pathIn folder right) := by
  obtain ⟨above, -, names⟩ := exists_pathNames_pathIn folder
  have leftNames := names left leftStep.single
  have rightNames := names right rightStep.single
  constructor
  · rw [leftNames, rightNames]
    intro same
    exact distinct (List.singleton_inj.1 (List.append_cancel_left same))
  · intro tree leftPlace rightPlace leftLeads rightLeads
    rw [leftNames] at leftLeads
    rw [rightNames] at rightLeads
    obtain ⟨start, walked, rfl⟩ := FileTree.exists_step_of_follow leftStep leftLeads
    obtain ⟨_, walkedAgain, rfl⟩ := FileTree.exists_step_of_follow rightStep rightLeads
    obtain rfl := Except.ok.inj (walked.symm.trans walkedAgain)
    exact start.text_step_ne distinct

/-! ## Scopes -/

/-- The characters that a scope puts in front of a key. -/
def scopeChars (scope : String) : List Char :=
  if scope.isEmpty then [] else scope.toList ++ [':']

theorem toList_scopedKey (scope key : String) :
    (scopedKey scope key).toList = scopeChars scope ++ key.toList := by
  rw [scopedKey, scopeChars]
  split
  · rfl
  · rw [String.toList_append, String.toList_append]
    rfl

theorem scopeChars_injective : Function.Injective scopeChars := by
  intro left right same
  rw [scopeChars, scopeChars] at same
  split at same <;> split at same
  · rename_i leftEmpty rightEmpty
    rw [String.isEmpty_iff.1 leftEmpty, String.isEmpty_iff.1 rightEmpty]
  · exact absurd same.symm (List.concat_ne_nil _ _)
  · exact absurd same (List.concat_ne_nil _ _)
  · exact String.toList_inj.1 (List.append_cancel_right same)

/-- The scope can be told from a full key, among keys of one length. -/
theorem scope_eq_of_scopedKey_eq {leftScope rightScope leftKey rightKey : String}
    (sameLength : leftKey.toList.length = rightKey.toList.length)
    (same : scopedKey leftScope leftKey = scopedKey rightScope rightKey) :
    leftScope = rightScope := by
  have sameChars := congrArg String.toList same
  rw [toList_scopedKey, toList_scopedKey] at sameChars
  exact scopeChars_injective (List.append_inj_left' sameChars sameLength)

namespace StoreConfig

/-- A store of a scope, with the keys of a store that is not told others. -/
def ofScope (scope : String) (seedOnEmpty : Bool) : StoreConfig := { scope, seedOnEmpty }

/-- The full keys that a store reads or writes. -/
def places (config : StoreConfig) : List String :=
  [config.documentPlace, config.firstSchemaPlace]

/-- The paths that a store over a folder reads or writes: for each key, that of the file and that of
the staging file. -/
def filePaths (folder : String) (config : StoreConfig) : List String :=
  config.places.flatMap fun key => [pathIn folder (fileName key), pathIn folder (stagingName key)]

/-- Both keys of a store that is not told others are as long. -/
theorem exists_of_mem_places {scope key : String} {seedOnEmpty : Bool}
    (isPlace : key ∈ (ofScope scope seedOnEmpty).places) :
    ∃ unscoped, unscoped.toList.length = 17 ∧ key = scopedKey scope unscoped := by
  rcases List.mem_cons.1 isPlace with rfl | isSecond
  · exact ⟨"questionnaires:v3", rfl, rfl⟩
  · rw [List.mem_singleton.1 isSecond]
    exact ⟨"questionnaires:v1", rfl, rfl⟩

/-- The keys of a store are not empty. -/
theorem ne_empty_of_mem_places {scope key : String} {seedOnEmpty : Bool}
    (isPlace : key ∈ (ofScope scope seedOnEmpty).places) : key ≠ "" := by
  rintro rfl
  obtain ⟨unscoped, isLong, isEmpty⟩ := exists_of_mem_places isPlace
  have sameLength := congrArg (fun text : String => text.toList.length) isEmpty
  simp only [toList_scopedKey, List.length_append, String.toList_empty, List.length_nil]
    at sameLength
  omega

/-- Stores of different scopes have no key in common. -/
theorem ne_of_mem_places {leftScope rightScope leftKey rightKey : String}
    {leftSeeds rightSeeds : Bool} (distinct : leftScope ≠ rightScope)
    (isLeft : leftKey ∈ (ofScope leftScope leftSeeds).places)
    (isRight : rightKey ∈ (ofScope rightScope rightSeeds).places) : leftKey ≠ rightKey := by
  obtain ⟨leftUnscoped, leftLength, rfl⟩ := exists_of_mem_places isLeft
  obtain ⟨rightUnscoped, rightLength, rfl⟩ := exists_of_mem_places isRight
  intro same
  exact distinct (scope_eq_of_scopedKey_eq (leftLength.trans rightLength.symm) same)

theorem exists_of_mem_filePaths {folder path : String} {config : StoreConfig}
    (isPath : path ∈ config.filePaths folder) :
    ∃ key ∈ config.places,
      path = pathIn folder (fileName key) ∨ path = pathIn folder (stagingName key) := by
  obtain ⟨key, isPlace, ofKey⟩ := List.mem_flatMap.1 isPath
  refine ⟨key, isPlace, ?_⟩
  rcases List.mem_cons.1 ofKey with isFile | isStaging
  · exact .inl isFile
  · exact .inr (List.mem_singleton.1 isStaging)

end StoreConfig

/-- Whatever stores of another scope write to a folder that is there, a store reads what it has read
before. -/
theorem FileTree.HasFolder.readKey_otherScope {tree : FileTree} {folder : String} {place : Place}
    (there : tree.HasFolder folder place) {leftScope rightScope key : String}
    {leftSeeds rightSeeds : Bool} (distinct : leftScope ≠ rightScope)
    {writes : List (String × String)}
    (areLeft : ∀ write ∈ writes, write.1 ∈ (StoreConfig.ofScope leftScope leftSeeds).places)
    (isRight : key ∈ (StoreConfig.ofScope rightScope rightSeeds).places) :
    (tree.writeKeys folder writes).readKey folder key = tree.readKey folder key :=
  there.readKey_writeKeys fun write inside =>
    StoreConfig.ne_of_mem_places distinct (areLeft write inside) isRight

/-- The files of distinct keys in one folder are apart. -/
theorem arePathsApart_files (folder : String) {key other : String} (distinct : key ≠ other) :
    ArePathsApart (pathIn folder (fileName key)) (pathIn folder (fileName other)) :=
  arePathsApart_pathIn folder (isStep_fileName key) (isStep_fileName other)
    (fileName_injective.ne distinct)

/-- The staging file of a key is apart from the file of any key. -/
theorem arePathsApart_staging (folder key other : String) :
    ArePathsApart (pathIn folder (stagingName key)) (pathIn folder (fileName other)) :=
  arePathsApart_pathIn folder (isStep_stagingName key) (isStep_fileName other)
    (stagingName_ne_fileName key other)

/-- Stores over one folder are isolated by their scopes. No path that one of them reads or writes
leads where a path of the other leads, if their scopes differ, whatever characters these have. And
for keys of any form, distinct keys have distinct files, and no staging file is in the place of a
file. -/
theorem filePaths_isolated (folder : String) :
    (∀ {leftScope rightScope : String} (leftSeeds rightSeeds : Bool), leftScope ≠ rightScope →
      ∀ leftPath ∈ (StoreConfig.ofScope leftScope leftSeeds).filePaths folder,
        ∀ rightPath ∈ (StoreConfig.ofScope rightScope rightSeeds).filePaths folder,
          ArePathsApart leftPath rightPath) ∧
      (∀ {key other : String}, key ≠ other →
        ArePathsApart (pathIn folder (fileName key)) (pathIn folder (fileName other))) ∧
        ∀ key other,
          ArePathsApart (pathIn folder (stagingName key)) (pathIn folder (fileName other)) := by
  refine ⟨?_, arePathsApart_files folder, arePathsApart_staging folder⟩
  intro leftScope rightScope leftSeeds rightSeeds distinct leftPath isLeft rightPath isRight
  obtain ⟨leftKey, leftPlace, ofLeft⟩ := StoreConfig.exists_of_mem_filePaths isLeft
  obtain ⟨rightKey, rightPlace, ofRight⟩ := StoreConfig.exists_of_mem_filePaths isRight
  have keys := StoreConfig.ne_of_mem_places distinct leftPlace rightPlace
  rcases ofLeft with rfl | rfl <;> rcases ofRight with rfl | rfl
  · exact arePathsApart_files folder keys
  · exact (arePathsApart_staging folder rightKey leftKey).symm
  · exact arePathsApart_staging folder leftKey rightKey
  · refine arePathsApart_pathIn folder (isStep_stagingName leftKey) (isStep_stagingName rightKey) ?_
    have leftNonempty := StoreConfig.ne_empty_of_mem_places leftPlace
    have rightNonempty := StoreConfig.ne_empty_of_mem_places rightPlace
    exact fun same => keys (stagingName_inj leftNonempty rightNonempty same)

/-- A colon in a scope and the digits that stand for it in a file name are told apart. -/
theorem filePaths_isolated_colon :
    "a:b" ≠ "a_3Ab" ∧
      ArePathsApart "data/a_3Ab_3Aquestionnaires_3Av3.json.tmp"
        "data/a_5F3Ab_3Aquestionnaires_3Av3.json" := by
  have distinct : "a:b" ≠ "a_3Ab" := by decide
  have apart := (filePaths_isolated "data").1 true true distinct
  refine ⟨distinct, apart _ ?_ _ ?_⟩
  · decide
  · decide

end Questionnaire
