import Questionnaire.Seed.Intake
import Questionnaire.State.Basic

/-!
# What a store starts with

A new store holds three templates, all published: the guided intake, a follow-up questionnaire and a
request to clarify documents. The intake and the follow-up are issued at once.
-/

namespace Questionnaire

/-- The id of the follow-up questionnaire. -/
def followupTemplateId : String := "template-ch7-followup"

/-- The id of the request to clarify documents. -/
def clarificationTemplateId : String := "template-doc-clarification"

/-- The graph of the follow-up questionnaire. -/
def followupGraph : Graph where
  nodes :=
    [{ Node.ofKind .start "s" with position := some (.ofNats 40 80) },
      { Node.ofKind .question "q1" with
        title := "Have any assets changed in the last 30 days?"
        inputType := some .yesNo
        labels := [.assets, .scheduleAB]
        blocksWorkflow := true
        position := some (.ofNats 240 80) },
      { Node.ofKind .question "q2" with
        title := "Describe the change and estimated value impact."
        inputType := some .textarea
        labels := [.assets, .exemptions]
        blocksWorkflow := true
        position := some (.ofNats 460 20) },
      { Node.ofKind .finish "end" with position := some (.ofNats 680 80) }]
  edges :=
    [{ id := "e1", source := "s", target := "q1" },
      { id := "e2", source := "q1", target := "q2", condition := .yes },
      { id := "e3", source := "q1", target := "end", condition := .no },
      { id := "e4", source := "q2", target := "end" }]

/-- The graph of the request to clarify documents. -/
def clarificationGraph : Graph where
  nodes :=
    [{ Node.ofKind .start "s" with position := some (.ofNats 40 90) },
      { Node.ofKind .docRequest "doc" with
        title := "Upload replacement document file"
        labels := [.documents]
        blocksWorkflow := true
        fileRules := some { minFiles := some 1 }
        position := some (.ofNats 260 90) },
      { Node.ofKind .question "note" with
        title := "If unavailable, explain what you can provide instead."
        inputType := some .textarea
        labels := [.documents, .other]
        blocksWorkflow := true
        position := some (.ofNats 500 90) },
      { Node.ofKind .finish "e" with position := some (.ofNats 720 90) }]
  edges :=
    [{ id := "a", source := "s", target := "doc" },
      { id := "b", source := "doc", target := "note" },
      { id := "c", source := "note", target := "e" }]

/-- A template that comes with the product, published as its first version. -/
def shippedTemplate (id title description : String) (graph : Graph) (now : Timestamp) : Template :=
  let version := TemplateVersion.published 1 graph .system now none
  { Template.ofVersion id title .custom .system version now with description }

/-- The templates that a store starts with. -/
def seedTemplates (catalog : Catalog) (now : Timestamp) : List Template :=
  [intakeTemplate catalog now,
    shippedTemplate followupTemplateId "Ch7 Follow-up"
      "Attorney follow-up questionnaire for remaining filing blockers." followupGraph now,
    shippedTemplate clarificationTemplateId "Document Clarification"
      "Structured clarification flow for insufficient uploads." clarificationGraph now]

/-- The active version of a template, issued under its own title. -/
def Template.issue (template : Template) (assignmentId : String) (now : Timestamp) : Assignment :=
  .issue assignmentId template.id template.activeVersion template.title now

/-- The assignments of the intake and of the follow-up, as far as these templates are there; the
follow-up is due in three days. -/
def seedAssignments (templates : List Template) (now : Timestamp) : List Assignment :=
  let issue (templateId assignmentId : String) :=
    (templates.find? fun template => template.id == templateId).map fun template =>
      template.issue assignmentId now
  let due := (now.dateAfter 3).render
  (issue intakeTemplateId "assign-intake-1").toList ++
    ((issue followupTemplateId "assign-followup-1").map fun assignment =>
      { assignment with dueAt := some due }).toList

/-- The state that a store starts with. -/
def seedState (catalog : Catalog) (now : Timestamp) : State :=
  let templates := seedTemplates catalog now
  { templates, assignments := seedAssignments templates now }

end Questionnaire
