import Questionnaire.Document.Node
import Questionnaire.Proofs.Json.Printing

/-!
# Graphs are read back

Whatever is written of a graph is read back as it was. A reader never sees the text itself but what
the text stands for, in which members are ordered by name.
-/

namespace Questionnaire

open Json

theorem Label.readsBack (label : Label) : ReadsBack Label.ofJson? label.toJson label :=
  readsBack_oneOf (by cases label <;> rfl)

theorem InputType.readsBack (inputType : InputType) :
    ReadsBack InputType.ofJson? inputType.toJson inputType :=
  readsBack_oneOf (by cases inputType <;> rfl)

theorem NodeKind.readsBack (kind : NodeKind) : ReadsBack NodeKind.ofJson? kind.toJson kind :=
  readsBack_oneOf (by cases kind <;> rfl)

@[simp] theorem Label.readable (label : Label) : label.toJson.Readable :=
  label.readsBack.readable

@[simp] theorem InputType.readable (inputType : InputType) : inputType.toJson.Readable :=
  inputType.readsBack.readable

@[simp] theorem NodeKind.readable (kind : NodeKind) : kind.toJson.Readable :=
  kind.readsBack.readable

theorem Choice.readsBack (choice : Choice) : ReadsBack Choice.ofJson? choice.toJson choice := by
  refine readsBack_record (by simp [AreNamed]) (by decide) (by simp) fun fields holds => ?_
  obtain ⟨id, label, _⟩ := holds
  simp only [id.required (readsBack_text _), label.required (readsBack_text _)]
  rfl

@[simp] theorem Choice.readable (choice : Choice) : choice.toJson.Readable :=
  choice.readsBack.readable

theorem FileRules.readsBack (rules : FileRules) :
    ReadsBack FileRules.ofJson? rules.toJson rules := by
  refine readsBack_record (by simp [AreNamed]) (by decide) (by simp) fun fields holds => ?_
  obtain ⟨minFiles, allowedMime, maxSizeMb, _⟩ := holds
  simp only [minFiles.optional fun inner => ⟨readsBack_uint32 inner, ofUInt32_ne_null inner⟩,
    allowedMime.items fun item _ => readsBack_text item,
    maxSizeMb.optional fun inner => ⟨readsBack_binary64 inner, ofBinary64_ne_null inner⟩]
  rfl

@[simp] theorem FileRules.readable (rules : FileRules) : rules.toJson.Readable :=
  rules.readsBack.readable

theorem CanvasPosition.readsBack (position : CanvasPosition) :
    ReadsBack CanvasPosition.ofJson? position.toJson position := by
  refine readsBack_record (by simp [AreNamed]) (by decide) (by simp) fun fields holds => ?_
  obtain ⟨x, y, _⟩ := holds
  simp only [x.required (readsBack_binary64 _), y.required (readsBack_binary64 _)]
  rfl

@[simp] theorem CanvasPosition.readable (position : CanvasPosition) : position.toJson.Readable :=
  position.readsBack.readable

theorem Node.readsBack (node : Node) : ReadsBack Node.ofJson? node.toJson node := by
  refine readsBack_record (by simp [AreNamed, Node.fieldNames]) (by decide) (by simp)
    fun fields holds => ?_
  obtain ⟨id, kind, title, helpText, whyWeAsk, placeholder, clientVisible, labels, customTags,
    inputType, required, blocksWorkflow, options, rows, columns, fileRules, sectionId, order,
    sectionOrder, formStepId, formFieldId, position, _⟩ := holds
  simp only [id.required (readsBack_text _), kind.required (NodeKind.readsBack _),
    title.withDefault "" (readsBack_text _),
    helpText.optional fun inner => ⟨readsBack_text inner, text_ne_null inner⟩,
    whyWeAsk.optional fun inner => ⟨readsBack_text inner, text_ne_null inner⟩,
    placeholder.optional fun inner => ⟨readsBack_text inner, text_ne_null inner⟩,
    clientVisible.withDefault false (readsBack_bool _),
    labels.withDefault [] (readsBack_list fun label _ => Label.readsBack label),
    customTags.items fun item _ => readsBack_text item,
    inputType.optional fun inner => ⟨InputType.readsBack inner, text_ne_null _⟩,
    required.withDefault false (readsBack_bool _),
    blocksWorkflow.withDefault false (readsBack_bool _),
    options.items fun choice _ => Choice.readsBack choice,
    rows.items fun choice _ => Choice.readsBack choice,
    columns.items fun choice _ => Choice.readsBack choice,
    fileRules.optional fun inner => ⟨FileRules.readsBack inner, ofMembers_ne_null _⟩,
    sectionId.optional fun inner => ⟨readsBack_text inner, text_ne_null inner⟩,
    order.optional fun inner => ⟨readsBack_uint32 inner, ofUInt32_ne_null inner⟩,
    sectionOrder.optional fun inner => ⟨readsBack_uint32 inner, ofUInt32_ne_null inner⟩,
    formStepId.optional fun inner => ⟨readsBack_text inner, text_ne_null inner⟩,
    formFieldId.optional fun inner => ⟨readsBack_text inner, text_ne_null inner⟩,
    position.optional fun inner => ⟨CanvasPosition.readsBack inner, ofMembers_ne_null _⟩]
  rfl

@[simp] theorem Node.readable (node : Node) : node.toJson.Readable :=
  node.readsBack.readable

/-- A condition that asks for an option stands for a record with the option in front. -/
theorem EdgeCondition.canonical?_asking (name option : String) :
    canonical? (ofMembers
        [member "type" (.text name), memberIfSome "optionId" Json.text (some option)]) =
      some (.object [("optionId", .text option), ("type", .text name)]) := by
  have less : "optionId" < "type" := by decide
  have sorted : (KeyMap.ofList [("type", Json.text name), ("optionId", .text option)]).entries =
      [("optionId", .text option), ("type", .text name)] := by
    simp only [KeyMap.ofList, List.foldl_cons, List.foldl_nil, KeyMap.insert, KeyMap.empty,
      KeyMap.insertEntry, if_pos less]
  exact congrArg (fun members => some (Json.object members)) sorted

theorem EdgeCondition.ofJson?_asking {name option : String} {condition : EdgeCondition}
    (named : ofName? name (some (some option)) = some condition) :
    ofJson? (.object [("optionId", .text option), ("type", .text name)]) = some condition := by
  have isValue : canonical? (.object [("optionId", .text option), ("type", .text name)]) = _ :=
    isValue_of_canonical? _ _ (canonical?_asking name option)
  rw [ofJson?, isValue]
  exact named

theorem EdgeCondition.readsBack (condition : EdgeCondition) :
    ReadsBack EdgeCondition.ofJson? condition.toJson condition := by
  cases condition with
  | always | yes | no | answered => exact ⟨_, rfl, rfl⟩
  | choiceEquals option | choiceContains option =>
    cases option with
    | none => exact ⟨_, rfl, rfl⟩
    | some option => exact ⟨_, canonical?_asking _ option, ofJson?_asking rfl⟩

@[simp] theorem EdgeCondition.readable (condition : EdgeCondition) : condition.toJson.Readable :=
  condition.readsBack.readable

theorem Edge.readsBack (edge : Edge) : ReadsBack Edge.ofJson? edge.toJson edge := by
  refine readsBack_record (by simp [AreNamed]) (by decide) (by simp) fun fields holds => ?_
  obtain ⟨id, source, target, condition, _⟩ := holds
  simp only [id.required (readsBack_text _), source.required (readsBack_text _),
    target.required (readsBack_text _),
    condition.withDefault .always (EdgeCondition.readsBack _)]
  rfl

@[simp] theorem Edge.readable (edge : Edge) : edge.toJson.Readable :=
  edge.readsBack.readable

/-- A graph is read back as it was. -/
theorem Graph.readsBack (graph : Graph) : ReadsBack Graph.ofJson? graph.toJson graph := by
  refine readsBack_record (by simp [AreNamed]) (by decide) (by simp) fun fields holds => ?_
  obtain ⟨nodes, edges, _⟩ := holds
  simp only [nodes.withDefault [] (readsBack_list fun node _ => Node.readsBack node),
    edges.withDefault [] (readsBack_list fun edge _ => Edge.readsBack edge)]
  rfl

@[simp] theorem Graph.readable (graph : Graph) : graph.toJson.Readable :=
  graph.readsBack.readable

/-! ## Printable graphs -/

variable {levels : Nat}

@[simp] theorem Label.isPrintable (label : Label) : IsPrintable levels label.toJson :=
  .text levels _

@[simp] theorem InputType.isPrintable (inputType : InputType) :
    IsPrintable levels inputType.toJson :=
  .text levels _

@[simp] theorem NodeKind.isPrintable (kind : NodeKind) : IsPrintable levels kind.toJson :=
  .text levels _

@[simp] theorem Choice.isPrintable (choice : Choice) : IsPrintable (levels + 1) choice.toJson :=
  isPrintable_record (by simp)

/-- The binary64 numbers in the rules. -/
def FileRules.numbers (rules : FileRules) : List Binary64 :=
  rules.maxSizeMb.toList

theorem FileRules.isPrintable {rules : FileRules}
    (exact : ∀ number ∈ rules.numbers, number.IsReadBack) :
    IsPrintable (levels + 2) rules.toJson := by
  have size : ∀ inner, rules.maxSizeMb = some inner → IsPrintable (levels + 1) (ofBinary64 inner) :=
    fun inner is => isPrintable_ofBinary64 (exact inner (Option.mem_toList.2 is))
  exact isPrintable_record (by simpa using size)

/-- The binary64 numbers in the position. -/
def CanvasPosition.numbers (position : CanvasPosition) : List Binary64 :=
  [position.x, position.y]

theorem CanvasPosition.isPrintable {position : CanvasPosition}
    (exact : ∀ number ∈ position.numbers, number.IsReadBack) :
    IsPrintable (levels + 1) position.toJson := by
  have each : position.x.IsReadBack ∧ position.y.IsReadBack := by simpa [numbers] using exact
  exact isPrintable_record (by simp [isPrintable_ofBinary64, each])

/-- The binary64 numbers in the node. -/
def Node.numbers (node : Node) : List Binary64 :=
  node.fileRules.toList.flatMap FileRules.numbers ++
    node.position.toList.flatMap CanvasPosition.numbers

theorem Node.isPrintable {node : Node} (exact : ∀ number ∈ node.numbers, number.IsReadBack) :
    IsPrintable (levels + 3) node.toJson := by
  obtain ⟨rulesExact, positionExact⟩ := List.forall_mem_append.1 exact
  have rules : ∀ inner, node.fileRules = some inner → IsPrintable (levels + 2) inner.toJson := by
    intro inner is
    rw [is, Option.toList_some, List.flatMap_singleton] at rulesExact
    exact FileRules.isPrintable rulesExact
  have position : ∀ inner, node.position = some inner →
      IsPrintable (levels + 2) inner.toJson := by
    intro inner is
    rw [is, Option.toList_some, List.flatMap_singleton] at positionExact
    exact CanvasPosition.isPrintable positionExact
  exact isPrintable_record (by simpa using ⟨rules, position⟩)

@[simp] theorem EdgeCondition.isPrintable (condition : EdgeCondition) :
    IsPrintable (levels + 1) condition.toJson :=
  isPrintable_record (by simp)

@[simp] theorem Edge.isPrintable (edge : Edge) : IsPrintable (levels + 2) edge.toJson :=
  isPrintable_record (by simp)

/-- The binary64 numbers in the graph. -/
def Graph.numbers (graph : Graph) : List Binary64 :=
  graph.nodes.flatMap Node.numbers

/-- A graph is printable if its binary64 numbers are read back. -/
theorem Graph.isPrintable {graph : Graph} (exact : ∀ number ∈ graph.numbers, number.IsReadBack) :
    IsPrintable (levels + 5) graph.toJson := by
  have nodes : ∀ node ∈ graph.nodes, IsPrintable (levels + 3) node.toJson := fun node inside =>
    Node.isPrintable fun number isNumber =>
      exact number (List.mem_flatMap.2 ⟨node, inside, isNumber⟩)
  exact isPrintable_record (by simp [isPrintable_list_map nodes])

end Questionnaire
