import Questionnaire.Proofs.FirstMatch
import Questionnaire.Proofs.Graph.Visibility
import Questionnaire.Seed.Intake

/-!
# The intake is gated like the form

The guided intake is a chain, so its nodes are seen exactly when the gates of the form let them
through. A header stands for the gate of its step, and the node of a field for the gates of its step
and of the field itself. Node ids have no say in this and may coincide; only the ids of steps, and
those of the fields within a step, have to be distinct.
-/

namespace Questionnaire

section

variable {view : View} {node : Node} {step : FormStep} {field : FormField}

/-- A node that stands for a step is let through by the gate of the step. -/
theorem View.passesGates_step (standsFor : node.formStepId = some step.id)
    (noField : node.formFieldId = none) (found : Catalog.step? view.catalog step.id = some step) :
    view.passesGates node = step.isShown view.answers := by
  rw [passesGates, standsFor, noField, Option.bind_some, found]
  exact Bool.and_true _

/-- A node that stands for a field of a step is let through by the gates of both. -/
theorem View.passesGates_field (standsFor : node.formStepId = some step.id)
    (ofField : node.formFieldId = some field.id)
    (found : Catalog.step? view.catalog step.id = some step)
    (foundField : step.field? field.id = some field) :
    view.passesGates node = (step.isShown view.answers && field.isShown view.answers) := by
  rw [passesGates, standsFor, ofField, Option.bind_some, found]
  simp only [Option.bind_some, foundField, Option.all_some]

end

namespace Catalog

variable {catalog : Catalog} {step : FormStep} {field : FormField} {stepPlace fieldPlace : Nat}

theorem mem_formNodes_of_mem_toNodes {node : Node} (placed : catalog[stepPlace]? = some step)
    (inside : node ∈ step.toNodes stepPlace) : node ∈ catalog.formNodes :=
  List.mem_flatMap.2 ⟨(step, stepPlace), List.mem_zipIdx_iff_getElem?.2 placed, inside⟩

theorem mem_toNodes_of_field (placed : step.fields[fieldPlace]? = some field) :
    field.toNode step stepPlace fieldPlace ∈ step.toNodes stepPlace := by
  have isPlace : (field, fieldPlace) ∈ step.fields.zipIdx := List.mem_zipIdx_iff_getElem?.2 placed
  exact List.mem_cons_of_mem _ (List.mem_map.2 ⟨(field, fieldPlace), isPlace, rfl⟩)

theorem clientVisible_toNode (step : FormStep) (stepPlace : Nat) (field : FormField)
    (fieldPlace : Nat) : (field.toNode step stepPlace fieldPlace).clientVisible = true := by
  rw [FormField.toNode]
  cases field.isUpload <;> rfl

/-- In the guided intake of a catalog without repeated step ids, and without repeated field ids in a
step, the header of a step is seen if and only if the step is shown, the node of a field if and only
if its step and the field are shown, and start and end are never seen. -/
theorem isVisible_intakeGraph (distinctSteps : (catalog.map FormStep.id).Nodup)
    (distinctFields : ∀ step ∈ catalog, (step.fields.map FormField.id).Nodup)
    (responses : ResponseIndex) :
    let graph := catalog.intakeGraph
    let view := View.ofResponses graph responses catalog
    let answers := FormAnswers.ofResponses graph responses
    (∀ (step : FormStep) (stepPlace : Nat), catalog[stepPlace]? = some step →
        (step.toHeader stepPlace ∈ graph.nodes ∧
          view.isVisible (step.toHeader stepPlace) = step.isShown answers) ∧
        ∀ (field : FormField) (fieldPlace : Nat), step.fields[fieldPlace]? = some field →
          field.toNode step stepPlace fieldPlace ∈ graph.nodes ∧
            view.isVisible (field.toNode step stepPlace fieldPlace) =
              (step.isShown answers && field.isShown answers)) ∧
      ∃ start finish, graph.nodes = start :: (catalog.formNodes ++ [finish]) ∧
        (start.kind = .start ∧ view.isVisible start = false) ∧
        (finish.kind = .finish ∧ view.isVisible finish = false) := by
  intro graph view answers
  have gated (node : Node) : view.isVisible node = (node.clientVisible && view.passesGates node) :=
    View.isVisible_of_chain rfl node
  have isNode {node : Node} (inside : node ∈ catalog.formNodes) : node ∈ graph.nodes :=
    List.mem_cons_of_mem _ (List.mem_append_left _ inside)
  refine ⟨fun step stepPlace placed => ?_, _, _, rfl, ⟨rfl, gated _⟩, rfl, gated _⟩
  have isStep := List.mem_of_getElem? placed
  have found : Catalog.step? catalog step.id = some step := find?_of_distinct distinctSteps isStep
  refine ⟨⟨isNode (mem_formNodes_of_mem_toNodes placed List.mem_cons_self), ?_⟩,
    fun field fieldPlace placedField => ?_⟩
  · rw [gated, View.passesGates_step rfl rfl found]
    exact Bool.true_and _
  · have foundField : step.field? field.id = some field :=
      find?_of_distinct (distinctFields step isStep) (List.mem_of_getElem? placedField)
    refine ⟨isNode (mem_formNodes_of_mem_toNodes placed (mem_toNodes_of_field placedField)), ?_⟩
    rw [gated, clientVisible_toNode, Bool.true_and]
    exact View.passesGates_field rfl rfl found foundField

/-- Two steps whose headers get one node id, of which the second is for joint filings only. After a
no, the first step is seen with its field, and the second is hidden with a field that is shown. -/
theorem isVisible_intakeGraph_joint :
    let joint : FormField := { id := "joint", kind := .radio, label := "Joint?*" }
    let name : FormField :=
      { id := "name"
        kind := .text
        label := "Name"
        isShown := fun answers => (answers.get? "joint").isSome }
    let filing : FormStep := { id := "set up", title := "Filing", fields := [joint] }
    let spouse : FormStep :=
      { id := "set-up"
        title := "Spouse"
        fields := [name]
        isShown := fun answers => answers.get? "joint" == some (.text "Yes") }
    let catalog : Catalog := [filing, spouse]
    let responses : ResponseIndex := .ofList [.answered "a" "node-joint" (.bool false) .epoch]
    let view := View.ofResponses catalog.intakeGraph responses catalog
    (catalog.map FormStep.id).Nodup ∧ (∀ step ∈ catalog, (step.fields.map FormField.id).Nodup) ∧
      (filing.toHeader 0).id = (spouse.toHeader 1).id ∧
      view.isVisible (filing.toHeader 0) = true ∧ view.isVisible (spouse.toHeader 1) = false ∧
      view.isVisible (joint.toNode filing 0 0) = true ∧
      view.isVisible (name.toNode spouse 1 0) = false ∧
      name.isShown (FormAnswers.ofResponses catalog.intakeGraph responses) = true := by
  intro joint name filing spouse catalog responses view
  have distinctSteps : (catalog.map FormStep.id).Nodup := by decide
  have distinctFields : ∀ step ∈ catalog, (step.fields.map FormField.id).Nodup := by
    rintro step inside
    rcases List.mem_pair.1 inside with rfl | rfl <;> decide
  obtain ⟨steps, _⟩ := isVisible_intakeGraph distinctSteps distinctFields responses
  have answered : FormAnswers.ofResponses catalog.intakeGraph responses =
      KeyMap.ofList [("joint", .text "No")] := by decide +kernel
  obtain ⟨⟨_, firstHeader⟩, firstFields⟩ := steps filing 0 rfl
  obtain ⟨⟨_, secondHeader⟩, secondFields⟩ := steps spouse 1 rfl
  obtain ⟨_, firstField⟩ := firstFields joint 0 rfl
  obtain ⟨_, secondField⟩ := secondFields name 0 rfl
  rw [answered] at firstHeader secondHeader firstField secondField ⊢
  exact ⟨distinctSteps, distinctFields, by decide +kernel, firstHeader,
    secondHeader.trans (by decide +kernel), firstField,
    secondField.trans (by decide +kernel), by decide +kernel⟩

end Catalog

end Questionnaire
