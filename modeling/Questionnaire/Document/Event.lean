import Questionnaire.Document.Template
import Questionnaire.State.Action

/-!
# Events in documents

How an event is written as JSON for those who record it.
-/

namespace Questionnaire

open Json (member ofMembers)

namespace Event

/-- The name of the kind of event. -/
def name : Event → String
  | templateCreated _ => "template_created"
  | templatePublished _ _ => "template_published"
  | assignmentCreated _ _ _ => "assignment_created"
  | stageChanged _ _ _ => "stage_changed"
  | stateMigrated _ _ => "state_migrated"

/-- The record of an event, which names its kind. -/
def toJson (event : Event) : Json :=
  ofMembers <| member "event" (.text event.name) ::
    match event with
    | templateCreated templateId => [member "template_id" (.text templateId)]
    | templatePublished templateId version =>
      [member "template_id" (.text templateId), member "version" (.ofUInt32 version)]
    | assignmentCreated assignmentId templateId templateVersion =>
      [member "assignment_id" (.text assignmentId), member "template_id" (.text templateId),
        member "template_version" (.ofUInt32 templateVersion)]
    | stageChanged assignmentId previous next =>
      [member "assignment_id" (.text assignmentId), member "from" previous.toJson,
        member "to" next.toJson]
    | stateMigrated archivedV1 templates =>
      [member "archived_legacy" (.bool archivedV1), member "templates" (.ofCount templates)]

end Event

end Questionnaire
