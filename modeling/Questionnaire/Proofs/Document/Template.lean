import Questionnaire.Document.Template
import Questionnaire.Proofs.Document.Graph
import Questionnaire.Proofs.Time.RoundTrip

/-!
# Templates and assignments are read back

Whatever is written of a template or an assignment is read back as it was, at every moment that a
date can be given for.
-/

namespace Questionnaire

open Json

theorem Timestamp.readsBack (moment : Timestamp) :
    ReadsBack Timestamp.ofJson? moment.toJson moment :=
  ⟨_, rfl, parse?_render moment⟩

theorem TemplateKind.readsBack (kind : TemplateKind) :
    ReadsBack TemplateKind.ofJson? kind.toJson kind :=
  readsBack_oneOf (by cases kind <;> rfl)

theorem Creator.readsBack (creator : Creator) :
    ReadsBack Creator.ofJson? creator.toJson creator :=
  readsBack_oneOf (by cases creator <;> rfl)

theorem Publisher.readsBack (publisher : Publisher) :
    ReadsBack Publisher.ofJson? publisher.toJson publisher :=
  readsBack_oneOf (by cases publisher <;> rfl)

theorem Stage.readsBack (stage : Stage) : ReadsBack Stage.ofJson? stage.toJson stage :=
  readsBack_oneOf (by cases stage <;> rfl)

@[simp] theorem Timestamp.readable (moment : Timestamp) : moment.toJson.Readable :=
  moment.readsBack.readable

@[simp] theorem TemplateKind.readable (kind : TemplateKind) : kind.toJson.Readable :=
  kind.readsBack.readable

@[simp] theorem Creator.readable (creator : Creator) : creator.toJson.Readable :=
  creator.readsBack.readable

@[simp] theorem Publisher.readable (publisher : Publisher) : publisher.toJson.Readable :=
  publisher.readsBack.readable

@[simp] theorem Stage.readable (stage : Stage) : stage.toJson.Readable :=
  stage.readsBack.readable

theorem TemplateVersion.readsBack (version : TemplateVersion) :
    ReadsBack TemplateVersion.ofJson? version.toJson version := by
  refine readsBack_record (by simp [AreNamed]) (by decide) (by simp) fun fields holds => ?_
  obtain ⟨number, graph, publishedAt, publishedBy, notes, _⟩ := holds
  simp only [number.required (readsBack_uint32 _), graph.required (Graph.readsBack _),
    publishedAt.optional fun inner => ⟨Timestamp.readsBack inner, text_ne_null _⟩,
    publishedBy.optional fun inner => ⟨Publisher.readsBack inner, text_ne_null _⟩,
    notes.optional fun inner => ⟨readsBack_text inner, text_ne_null inner⟩]
  rfl

@[simp] theorem TemplateVersion.readable (version : TemplateVersion) : version.toJson.Readable :=
  version.readsBack.readable

/-- A template is read back as it was. -/
theorem Template.readsBack (template : Template) :
    ReadsBack Template.ofJson? template.toJson template := by
  refine readsBack_record (by simp [AreNamed, Template.fieldNames]) (by decide) (by simp)
    fun fields holds => ?_
  obtain ⟨id, title, description, scope, kind, isDefault, createdBy, createdAt, updatedAt,
    activeVersion, versions, archived, _⟩ := holds
  simp only [id.required (readsBack_text _), title.required (readsBack_text _),
    description.withDefault "" (readsBack_text _), scope.withDefault "firm" (readsBack_text _),
    kind.required (TemplateKind.readsBack _), isDefault.withDefault false (readsBack_bool _),
    createdBy.required (Creator.readsBack _), createdAt.required (Timestamp.readsBack _),
    updatedAt.required (Timestamp.readsBack _), activeVersion.required (readsBack_uint32 _),
    versions.required (readsBack_list fun version _ => TemplateVersion.readsBack version),
    archived.flag]
  rfl

@[simp] theorem Template.readable (template : Template) : template.toJson.Readable :=
  template.readsBack.readable

/-- An assignment is read back as it was. -/
theorem Assignment.readsBack (assignment : Assignment) :
    ReadsBack Assignment.ofJson? assignment.toJson assignment := by
  refine readsBack_record (by simp [AreNamed, Assignment.fieldNames]) (by decide) (by simp)
    fun fields holds => ?_
  obtain ⟨id, templateId, templateVersion, title, assignedAt, dueAt, recordedStage, archived, _⟩ :=
    holds
  simp only [id.required (readsBack_text _), templateId.required (readsBack_text _),
    templateVersion.required (readsBack_uint32 _), title.required (readsBack_text _),
    assignedAt.required (Timestamp.readsBack _),
    dueAt.optional fun inner => ⟨readsBack_text inner, text_ne_null inner⟩,
    recordedStage.optional fun inner => ⟨Stage.readsBack inner, text_ne_null _⟩, archived.flag]
  rfl

@[simp] theorem Assignment.readable (assignment : Assignment) : assignment.toJson.Readable :=
  assignment.readsBack.readable

/-! ## Printable templates and assignments -/

variable {levels : Nat}

@[simp] theorem Timestamp.isPrintable (moment : Timestamp) : IsPrintable levels moment.toJson :=
  .text levels _

@[simp] theorem TemplateKind.isPrintable (kind : TemplateKind) : IsPrintable levels kind.toJson :=
  .text levels _

@[simp] theorem Creator.isPrintable (creator : Creator) : IsPrintable levels creator.toJson :=
  .text levels _

@[simp] theorem Publisher.isPrintable (publisher : Publisher) :
    IsPrintable levels publisher.toJson :=
  .text levels _

@[simp] theorem Stage.isPrintable (stage : Stage) : IsPrintable levels stage.toJson :=
  .text levels _

theorem TemplateVersion.isPrintable {version : TemplateVersion}
    (exact : ∀ number ∈ version.graph.numbers, number.IsReadBack) :
    IsPrintable (levels + 6) version.toJson := by
  have graph : IsPrintable (levels + 5) version.graph.toJson := Graph.isPrintable exact
  exact isPrintable_record (by simp [graph])

/-- The binary64 numbers in the graphs of the template. -/
def Template.numbers (template : Template) : List Binary64 :=
  template.versions.flatMap fun version => version.graph.numbers

/-- A template is printable if its binary64 numbers are read back. -/
theorem Template.isPrintable {template : Template}
    (exact : ∀ number ∈ template.numbers, number.IsReadBack) :
    IsPrintable (levels + 8) template.toJson := by
  have versions : ∀ version ∈ template.versions, IsPrintable (levels + 6) version.toJson :=
    fun version inside => TemplateVersion.isPrintable fun number isNumber =>
      exact number (List.mem_flatMap.2 ⟨version, inside, isNumber⟩)
  exact isPrintable_record (by simp [isPrintable_list_map versions])

@[simp] theorem Assignment.isPrintable (assignment : Assignment) :
    IsPrintable (levels + 1) assignment.toJson :=
  isPrintable_record (by simp)

end Questionnaire
