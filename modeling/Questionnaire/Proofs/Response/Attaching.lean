import Questionnaire.Proofs.Response.Files
import Questionnaire.Proofs.Response.FiniteMap

/-!
# Attaching files

Attaching files puts an answer of files in place of whatever a node holds, an answer of another
shape or a skip included. So the node counts as answered afterwards exactly if some file has an id,
be it one that the answer had or one that is attached. Without such a file, a node that was answered
is so no more.
-/

namespace Questionnaire

open ResponseTable

/-- No file is kept exactly where none has an id. -/
theorem firstFiles_eq_nil_iff {files : List UploadedFile} :
    firstFiles files = [] ↔ ∀ file ∈ files, file.id = "" := by
  constructor
  · intro nothing file inside
    have dropped : isDropped files file = true := isDropped_iff.2 (.inr ⟨file, inside, rfl⟩)
    rw [← isDropped_firstFiles, nothing, isDropped_iff] at dropped
    exact dropped.resolve_right fun ⟨_, absent, _⟩ => List.not_mem_nil absent
  · intro nameless
    refine List.eq_nil_iff_forall_not_mem.2 fun file kept => ?_
    obtain ⟨inside, named⟩ := of_mem_firstFiles kept
    exact named (nameless file inside)

theorem isMeaningful_appendFiles_iff (answer : Option Answer) (files : List UploadedFile) :
    (appendFiles answer files).isMeaningful = true ↔
      ∃ file ∈ filesOf answer ++ files, file.id ≠ "" := by
  rw [appendFiles_eq, Answer.isMeaningful, Bool.not_eq_true', List.isEmpty_eq_false_iff, ne_eq,
    firstFiles_eq_nil_iff]
  simp only [not_forall, exists_prop]

namespace Session

/-- Whether a node of an assignment counts as answered: it has an answer that says something, or was
skipped. -/
def isAnswered (session : Session) (assignmentId nodeId : String) : Bool :=
  (find? session.state.responses assignmentId nodeId).any Response.isComplete

/-- The session after files were attached to a node, or refused. -/
def attaching (session : Session) (assignmentId nodeId : String) (files : List UploadedFile) :
    Session :=
  ((Action.attachFiles assignmentId nodeId files).perform session).2

/-- Attaching the files leaves the node answered if it was. -/
def KeepsAnswered (session : Session) (assignmentId nodeId : String)
    (files : List UploadedFile) : Prop :=
  session.isAnswered assignmentId nodeId = true →
    (session.attaching assignmentId nodeId files).isAnswered assignmentId nodeId = true

variable {session : Session} {assignmentId : String}

/-- Attaching files to a node of an assignment that is there succeeds and leaves an answer of files
in place of whatever there was. -/
theorem perform_attachFiles (issued : session.state.hasAssignment assignmentId = true)
    (nodeId : String) (files : List UploadedFile) :
    ((Action.attachFiles assignmentId nodeId files).perform session).1 = .ok () ∧
      find? (session.attaching assignmentId nodeId files).state.responses assignmentId nodeId =
        some (.answered assignmentId nodeId
          (appendFiles (answer? session.state.responses assignmentId nodeId) files)
          session.services.now) := by
  obtain ⟨assignment, found⟩ := Option.isSome_iff_exists.1 issued
  rw [attaching, Action.attachFiles, Action.perform_modifyAnswer, found]
  refine ⟨rfl, (find?_eq_lookup_toMap _ _ _).trans ?_⟩
  refine (congrArg (fun map : ResponseMap => Option.map _ (map.lookup _))
    (toMap_putAnswer_some _ _ _ _ _)).trans ?_
  rw [Finmap.lookup_insert]
  rfl

/-- Attaching leaves the keys of the responses distinct. -/
theorem hasDistinctKeys_attaching (distinct : HasDistinctKeys session.state.responses)
    (assignmentId nodeId : String) (files : List UploadedFile) :
    HasDistinctKeys (session.attaching assignmentId nodeId files).state.responses :=
  ((ResponseOperation.attachFiles assignmentId nodeId files).perform_refines session).2 distinct

theorem isAnswered_attaching_iff (issued : session.state.hasAssignment assignmentId = true)
    (nodeId : String) (files : List UploadedFile) :
    (session.attaching assignmentId nodeId files).isAnswered assignmentId nodeId = true ↔
      ∃ file ∈ filesOf (answer? session.state.responses assignmentId nodeId) ++ files,
        file.id ≠ "" := by
  rw [← isMeaningful_appendFiles_iff, isAnswered, (perform_attachFiles issued nodeId files).2]
  rfl

/-- In a state with at most one response for each key, files are attached to every node of an
assignment that is there, and the store and the evaluators then agree on whether the node is
answered. A node that was answered stays so exactly if one of the files has an id, those of its
answer and those attached taken together; it stays so whatever is attached exactly if one of its
answer's own files has an id. -/
theorem keepsAnswered_iff (distinct : HasDistinctKeys session.state.responses)
    (issued : session.state.hasAssignment assignmentId = true) (nodeId : String) :
    (∀ files,
      ((Action.attachFiles assignmentId nodeId files).perform session).1 = .ok () ∧
        (ResponseIndex.ofAssignment (session.attaching assignmentId nodeId files).state.responses
            assignmentId).completes nodeId =
          (session.attaching assignmentId nodeId files).isAnswered assignmentId nodeId ∧
        (session.KeepsAnswered assignmentId nodeId files ↔
          (session.isAnswered assignmentId nodeId = true →
            ∃ file ∈ filesOf (answer? session.state.responses assignmentId nodeId) ++ files,
              file.id ≠ ""))) ∧
      ((∀ files, session.KeepsAnswered assignmentId nodeId files) ↔
        (session.isAnswered assignmentId nodeId = true →
          ∃ file ∈ filesOf (answer? session.state.responses assignmentId nodeId),
            file.id ≠ "")) := by
  have keeps (files : List UploadedFile) : session.KeepsAnswered assignmentId nodeId files ↔
      (session.isAnswered assignmentId nodeId = true →
        ∃ file ∈ filesOf (answer? session.state.responses assignmentId nodeId) ++ files,
          file.id ≠ "") :=
    imp_congr_right fun _ => isAnswered_attaching_iff issued nodeId files
  refine ⟨fun files => ⟨(perform_attachFiles issued nodeId files).1, ?_, keeps files⟩, ?_⟩
  · have after := hasDistinctKeys_attaching distinct assignmentId nodeId files
    rw [ResponseIndex.completes, after.get?_ofAssignment, isAnswered]
  · constructor
    · intro always
      -- What is kept when nothing is attached is the answer's own.
      have own := (keeps []).1 (always [])
      rwa [List.append_nil] at own
    · intro own files
      refine (keeps files).2 fun answered => ?_
      obtain ⟨file, inside, named⟩ := own answered
      exact ⟨file, List.mem_append_left _ inside, named⟩

/-- Two files come to a text, one of them without an id. The text goes, and the node stays
answered. -/
theorem keepsAnswered_iff_text :
    let session : Session :=
      { state :=
          { assignments := [.issue "a" "t" 1 "A" .epoch]
            responses := [.answered "a" "q" (.text "Smith") .epoch] }
        services := { now := .epoch } }
    let files : List UploadedFile := [{ id := "", name := "scan" }, { id := "f", name := "deed" }]
    HasDistinctKeys session.state.responses ∧ session.state.hasAssignment "a" = true ∧
      session.isAnswered "a" "q" = true ∧ session.KeepsAnswered "a" "q" files ∧
      answer? (session.attaching "a" "q" files).state.responses "a" "q" =
        some (.files [{ id := "f", name := "deed" }]) ∧
      ¬ ∀ files, session.KeepsAnswered "a" "q" files := by
  intro session files
  have distinct : HasDistinctKeys session.state.responses := by decide
  have issued : session.state.hasAssignment "a" = true := by decide +kernel
  have answered : session.isAnswered "a" "q" = true := by decide +kernel
  obtain ⟨each, all⟩ := keepsAnswered_iff distinct issued "q"
  refine ⟨distinct, issued, answered, (each files).2.2.2 fun _ => ?_, by decide +kernel, ?_⟩
  · exact ⟨{ id := "f", name := "deed" }, by decide +kernel, by decide⟩
  · rw [all]
    intro own
    obtain ⟨file, inside, _⟩ := own answered
    exact absurd inside List.not_mem_nil

/-- Attaching no file to a skipped node undoes the skip, and attaching a file without an id to a
node with a text drops the text. Neither node is answered then. -/
theorem not_keepsAnswered_nothing :
    let skip : Skip := { reason := "lost", actor := .client, moment := .epoch }
    let session : Session :=
      { state :=
          { assignments := [.issue "a" "t" 1 "A" .epoch]
            responses := [.skipped "a" "q" skip .epoch, .answered "a" "r" (.text "Smith") .epoch] }
        services := { now := .epoch } }
    HasDistinctKeys session.state.responses ∧
      ((Action.attachFiles "a" "q" []).perform session).1 = .ok () ∧
      find? (session.attaching "a" "q" []).state.responses "a" "q" =
        some (.answered "a" "q" (.files []) .epoch) ∧
      ¬ session.KeepsAnswered "a" "q" [] ∧
      ¬ session.KeepsAnswered "a" "r" [{ id := "", name := "scan" }] := by
  intro skip session
  have distinct : HasDistinctKeys session.state.responses := by decide
  refine ⟨distinct, by rfl, by decide +kernel, fun keeps => ?_, fun keeps => ?_⟩
  · exact absurd (keeps (by decide +kernel)) (by decide +kernel)
  · exact absurd (keeps (by decide +kernel)) (by decide +kernel)

end Session

end Questionnaire
