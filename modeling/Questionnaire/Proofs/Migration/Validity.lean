import Questionnaire.Proofs.Graph.Chain
import Questionnaire.Proofs.Migration.Ids

/-!
# Validity of converted templates

A converted template is published as it is made, without a check. Its graph is a chain of sound
nodes, so it is valid exactly when no two questions of the flat template have one id. Nothing in the
reading of a document of the first schema rules that out.
-/

namespace Questionnaire

theorem FlatQuestion.id_toNode (question : FlatQuestion) :
    question.toNode.id = "node-" ++ question.id := by
  rw [toNode]
  cases question.kind <;> rfl

/-- The node of a flat question has a label and, where it is a question, an input type. -/
theorem FlatQuestion.nodeDefects_toNode (question : FlatQuestion) :
    Graph.nodeDefects question.toNode = [] := by
  rw [toNode]
  cases question.kind <;> rfl

namespace FlatTemplate

/-- Only two questions can come out as nodes with one id. -/
theorem nodup_ids_toGraph_iff (flat : FlatTemplate) :
    (flat.toGraph.nodes.map Node.id).Nodup ↔ (flat.questions.map FlatQuestion.id).Nodup := by
  have ids : flat.toGraph.nodes.map Node.id = "start" :: (flatSectionId ::
      (flat.questions.map fun question => "node-" ++ question.id) ++ ["end"]) := by
    have named : Node.id ∘ FlatQuestion.toNode = fun question => "node-" ++ question.id :=
      funext FlatQuestion.id_toNode
    simp only [toGraph, Graph.chain, List.map_append, List.map_map, named]
    rfl
  have apart {id : String} (other : ∀ text : String, "node-" ++ text ≠ id) :
      id ∉ flat.questions.map fun question => "node-" ++ question.id := by
    intro inside
    obtain ⟨question, _, same⟩ := List.mem_map.1 inside
    exact other question.id same
  have startNew : "start" ∉ flat.questions.map fun question => "node-" ++ question.id :=
    apart (append_ne_of_begins_apart (by decide))
  have sectionNew : flatSectionId ∉ flat.questions.map fun question => "node-" ++ question.id :=
    apart (append_ne_of_begins_apart (by decide))
  have finishNew : "end" ∉ flat.questions.map fun question => "node-" ++ question.id :=
    apart (append_ne_of_begins_apart (by decide))
  rw [ids, nodup_between_iff (by decide)
    (List.not_mem_cons_of_ne_of_not_mem (by decide) startNew)
    (List.not_mem_cons_of_ne_of_not_mem (by decide) finishNew), List.nodup_cons,
    nodup_map_append_iff]
  exact and_iff_right sectionNew

theorem check_toGraph_isValid_iff (flat : FlatTemplate) (limit : Nat) :
    (flat.toGraph.check limit).isValid = true ↔ (flat.questions.map FlatQuestion.id).Nodup := by
  rw [← nodup_ids_toGraph_iff]
  refine Graph.check_chain_isValid_iff rfl rfl (List.forall_mem_cons.2 ⟨rfl, ?_⟩) limit
  intro node inside
  obtain ⟨question, _, rfl⟩ := List.mem_map.1 inside
  exact question.nodeDefects_toNode

end FlatTemplate

/-- Each flat template is converted, in order, to one whose active version is published with its
graph. -/
theorem forall₂_convertTemplates (now : Timestamp) (taken : List String)
    (flats : List FlatTemplate) :
    List.Forall₂ (fun flat template => ∃ version, template.active? = some version ∧
      version.isPublished = true ∧ version.graph = flat.toGraph) flats
      (convertTemplates now taken flats) := by
  induction flats generalizing taken with
  | nil => exact .nil
  | cons flat rest inductionHypothesis =>
    exact .cons ⟨_, Template.active?_of_singleton rfl rfl, rfl, rfl⟩ (inductionHypothesis _)

/-- A document of the first schema adds one template for each of its named flat templates, in order.
Each has an active version that is published, and the graph of that version is valid exactly when no
two questions of the flat template have one id. -/
theorem isValid_migrate_iff (catalog : Catalog) (document : Json) (seeded : Bool) (now : Timestamp)
    (limit : Nat) :
    ∃ converted,
      (migrate catalog (some document) seeded now).templates =
        (migrate catalog none seeded now).templates ++ converted ∧
      List.Forall₂ (fun flat template => ∃ version, template.active? = some version ∧
        version.isPublished = true ∧ ((version.graph.check limit).isValid = true ↔
          (flat.questions.map FlatQuestion.id).Nodup))
        ((flatTemplates document).filter FlatTemplate.isNamed) converted := by
  refine ⟨_, rfl, (forall₂_convertTemplates now _ _).imp ?_⟩
  rintro flat template ⟨version, active, published, graph⟩
  exact ⟨version, active, published, graph ▸ flat.check_toGraph_isValid_iff limit⟩

/-- A template in which a question comes twice is published with a cycle. -/
theorem not_isValid_migrate_repeated :
    let question : Json :=
      .object [("id", .text "q"), ("kind", .text "text"), ("label", .text "Name")]
    let document : Json := .object [("templates", .list [.object
      [("id", .text "t"), ("title", .text "Old intake"), ("questions", .list [question, question])]])]
    ∃ template version, (migrate [] (some document) false .epoch).templates = [template] ∧
      template.active? = some version ∧ version.isPublished = true ∧
      (version.graph.check defaultNodeLimit).defects = [.cycle "node-q"] := by
  exact ⟨_, _, rfl, rfl, rfl, by decide +kernel⟩

end Questionnaire
