import Questionnaire.Assignment.Coverage
import Questionnaire.Document.Template
import Questionnaire.Graph.Validity

/-!
# Reports in documents

How the outcome of a check, the progress of an assignment and the coverage of labels are written as
JSON.
-/

namespace Questionnaire

open Json (member ofMembers)

/-- The record of a defect, by its code. -/
def Defect.toJson : Defect → Json
  | missingStart => ofMembers [member "code" (.text "missing_start")]
  | missingEnd => ofMembers [member "code" (.text "missing_end")]
  | unknownSource edgeId =>
    ofMembers [member "code" (.text "unknown_edge_source"), member "edge_id" (.text edgeId)]
  | unknownTarget edgeId =>
    ofMembers [member "code" (.text "unknown_edge_target"), member "edge_id" (.text edgeId)]
  | cycle nodeId =>
    ofMembers [member "code" (.text "cycle_detected"), member "node_id" (.text nodeId)]
  | missingLabel nodeId title =>
    ofMembers
      [member "code" (.text "missing_label"), member "node_id" (.text nodeId),
        member "title" (.text title)]
  | missingInputType nodeId title =>
    ofMembers
      [member "code" (.text "missing_input_type"), member "node_id" (.text nodeId),
        member "title" (.text title)]

/-- The record of an advice, by its code. -/
def Advice.toJson : Advice → Json
  | severalOutgoing nodeId title =>
    ofMembers
      [member "code" (.text "multiple_outgoing"), member "node_id" (.text nodeId),
        member "title" (.text title)]
  | incompleteDecision nodeId title =>
    ofMembers
      [member "code" (.text "incomplete_decision"), member "node_id" (.text nodeId),
        member "title" (.text title)]
  | oversized count limit =>
    ofMembers
      [member "code" (.text "oversized_graph"), member "count" (.ofCount count),
        member "limit" (.ofCount limit)]
  | unsectioned count =>
    ofMembers [member "code" (.text "unsectioned_nodes"), member "count" (.ofCount count)]

/-- The record of a report. -/
def ValidityReport.toJson (report : ValidityReport) : Json :=
  ofMembers
    [member "errors" (.list (report.defects.map Defect.toJson)),
      member "warnings" (.list (report.advice.map Advice.toJson))]

/-- The record of the progress of an assignment. -/
def Progress.toJson (progress : Progress) : Json :=
  ofMembers
    [member "total" (.ofCount progress.total),
      member "completed" (.ofCount progress.completed),
      member "percent" (.ofCount progress.percent.toNat),
      member "stage" progress.stage.toJson]

/-- The record of the coverage of a label. -/
def LabelCoverage.toJson (coverage : LabelCoverage) : Json :=
  ofMembers
    [member "label" coverage.label.toJson,
      member "covered" (.bool coverage.covered),
      member "missingCount" (.ofCount coverage.missing),
      member "blockingCount" (.ofCount coverage.blocking)]

end Questionnaire
