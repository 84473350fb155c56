import Questionnaire.Proofs.Graph.Visibility
import Questionnaire.Proofs.Graph.Walks

/-!
# Responses act locally

What a client answers at a node opens or closes the nodes that edges lead to from there, and nothing
else, unless the node stands for a field of the form, which every gate may read. So with another
response to such a node, or none, the gates see the same answers, all nodes but these are seen
alike, and every other node leads on as before.
-/

namespace Questionnaire

/-- Responses that agree at an id lead on from it alike. -/
theorem ResponseIndex.AgreeAt.nextNodeIds {left right : ResponseIndex} {source : String}
    (agree : left.AgreeAt right source) (edges : List Edge) :
    nextNodeIds edges left source = nextNodeIds edges right source := by
  have sameEdges : (edges.filter fun edge => edge.source == source && edge.fires left) =
      edges.filter fun edge => edge.source == source && edge.fires right := by
    refine List.filter_congr fun edge _ => ?_
    by_cases leaves : edge.source = source
    · subst leaves
      rw [agree.fires]
    · rw [beq_eq_false_iff_ne.2 leaves, Bool.false_and, Bool.false_and]
  rw [Questionnaire.nextNodeIds, Questionnaire.nextNodeIds, sameEdges]

namespace ResponseIndex

/-- Two indexes hold the same of every node but one. -/
def AgreeExceptAt (left right : ResponseIndex) (nodeId : String) : Prop :=
  ∀ other, other ≠ nodeId → left.AgreeAt right other

variable {left right : ResponseIndex} {nodeId : String} {graph : Graph}

/-- Where no node with the id stands for a field, the answers of the form are the same. -/
theorem AgreeExceptAt.formAnswers (agree : left.AgreeExceptAt right nodeId)
    (unmapped : ∀ node ∈ graph.nodes, node.id = nodeId → node.formFieldId = none) :
    FormAnswers.ofResponses graph left = FormAnswers.ofResponses graph right := by
  refine formAnswers_of_agreeAt fun node inside standsForField => agree node.id ?_
  intro same
  rw [unmapped node inside same] at standsForField
  contradiction

end ResponseIndex

/-- A write to a table changes what an assignment's index holds of the node written to only. -/
theorem ResponseTable.agreeExceptAt_put (response : Response) (table : ResponseTable)
    (assignmentId : String) :
    (ResponseIndex.ofAssignment (put response table) assignmentId).AgreeExceptAt
      (ResponseIndex.ofAssignment table assignmentId) response.nodeId := by
  intro other apart
  have otherKey : response.key ≠ (assignmentId, other) := fun same => apart (Prod.mk.inj same).2.symm
  rw [ResponseIndex.AgreeAt, get?_ofAssignment, get?_ofAssignment, ofKey_put_of_ne table otherKey]

variable {graph : Graph} {nodeId : String} {left right : ResponseIndex}

/-- Suppose that no node with an id stands for a field of the form. Then of two indexes of responses
that hold the same of every other node, whatever the gates are, the answers that the gates see are
the same, a node that no edge leads to from the id is seen under both or neither, and every other
id leads on to the same nodes. -/
theorem View.isVisible_actsLocally
    (unmapped : ∀ node ∈ graph.nodes, node.id = nodeId → node.formFieldId = none)
    (agree : left.AgreeExceptAt right nodeId) (catalog : Catalog) :
    let leftView := View.ofResponses graph left catalog
    let rightView := View.ofResponses graph right catalog
    (∀ node, ¬ graph.Follows nodeId node.id →
        leftView.isVisible node = rightView.isVisible node) ∧
      (∀ edges source, source ≠ nodeId →
        nextNodeIds edges left source = nextNodeIds edges right source) ∧
      leftView.answers = rightView.answers := by
  intro leftView rightView
  have sameAnswers : leftView.answers = rightView.answers := agree.formAnswers unmapped
  refine ⟨fun node away => ?_, fun edges source apart => ?_, sameAnswers⟩
  · refine isVisible_of_agreeAt rfl rfl sameAnswers fun edge incoming => agree edge.source ?_
    intro fromId
    obtain ⟨inside, leads⟩ := List.mem_filter.1 incoming
    exact away ⟨edge, inside, fromId, eq_of_beq leads⟩
  · exact (agree source apart).nextNodeIds edges

/-- A yes to a decision reveals the question behind it. A question behind another decision, on a
step that is shown after a yes to that one, is seen as before. -/
theorem View.isVisible_actsLocally_revealed :
    let decision : Node := .ofKind .decision "d"
    let question : Node := .ofKind .question "q"
    let joint : Node := { Node.ofKind .decision "j" with formFieldId := some "joint" }
    let spouse : Node := { Node.ofKind .question "s" with formStepId := some "spouse" }
    let reveals (source target : String) : Edge :=
      { id := source ++ target, source, target, condition := .yes }
    let graph : Graph :=
      { nodes := [decision, question, joint, spouse], edges := [reveals "d" "q", reveals "j" "s"] }
    let step : FormStep :=
      { id := "spouse"
        title := "Spouse"
        isShown := fun answers => answers.get? "joint" == some (.text "Yes") }
    let before : ResponseTable := [.answered "a" "j" (.bool true) .epoch]
    let after := ResponseTable.put (.answered "a" "d" (.bool true) .epoch) before
    let view (table : ResponseTable) := View.ofResponses graph (.ofAssignment table "a") [step]
    (∀ node ∈ graph.nodes, node.id = "d" → node.formFieldId = none) ∧
      (ResponseIndex.ofAssignment after "a").AgreeExceptAt (.ofAssignment before "a") "d" ∧
      (view after).isVisible question = true ∧ (view before).isVisible question = false ∧
      ¬ graph.Follows "d" "s" ∧ (view after).isVisible spouse = (view before).isVisible spouse ∧
      (view before).isVisible spouse = true ∧
      nextNodeIds graph.edges (.ofAssignment after "a") "j" =
        nextNodeIds graph.edges (.ofAssignment before "a") "j" ∧
      (view after).answers = (view before).answers := by
  intro decision question joint spouse reveals graph step before after view
  have unmapped : ∀ node ∈ graph.nodes, node.id = "d" → node.formFieldId = none := by decide
  have agree := ResponseTable.agreeExceptAt_put (.answered "a" "d" (.bool true) .epoch) before "a"
  have away : ¬ graph.Follows "d" "s" := by
    rintro ⟨edge, inside, leaves, leads⟩
    rcases List.mem_pair.1 inside with rfl | rfl
    · exact absurd leads (by decide)
    · exact absurd leaves (by decide)
  obtain ⟨seen, next, answers⟩ := isVisible_actsLocally unmapped agree [step]
  exact ⟨unmapped, agree, by decide +kernel, by decide +kernel, away, seen spouse away,
    by decide +kernel, next graph.edges "j" (by decide), answers⟩

end Questionnaire
