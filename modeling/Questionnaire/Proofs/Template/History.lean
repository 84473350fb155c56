import Mathlib.Algebra.Group.Nat.Defs
import Questionnaire.Proofs.FirstMatch
import Questionnaire.Template.Basic

/-!
# Append-only histories

A history changes by edits, publications and activations. No such step removes an entry, moves one
or changes its number or its record of publication. The graph of a published entry stays for ever,
and the graph of a draft is only replaced by an edit made while the active number resolves to it.
This holds of every template, whatever its numbers and its active number.

A history that starts with strictly increasing numbers and a resolving active number keeps both: a
new entry is numbered past all others, or else the program stops. There is a next number as long as
the numbers of 32 bits last.
-/

namespace Questionnaire

/-- A step in the life of a history. -/
inductive HistoryStep where
  /-- The active version is given a new graph. -/
  | edit (graph : Graph) (now : Timestamp)
  /-- The active graph is published. -/
  | publish (publisher : Publisher) (notes : Option String) (now : Timestamp)
  /-- Another version is made active. -/
  | activate (number : UInt32)

namespace HistoryStep

/-- What a step reports, which is the number of a new entry, and the template after it; no result if
the program stops. -/
def outcome? (template : Template) : HistoryStep → Option (Option UInt32 × Template)
  | edit graph now =>
    (template.editGraph? graph now).map fun
      | (.bumped _ next, edited) => (some next, edited)
      | (.inPlace _, edited) | (.unresolved _, edited) => (none, edited)
  | publish publisher notes now => template.publish? publisher notes now
  | activate number => some (none, (template.activate number).2)

/-- The template after a step; one at which the program stops leaves it as it was. -/
def apply (template : Template) (step : HistoryStep) : Template :=
  ((step.outcome? template).map Prod.snd).getD template

/-- The number that a step reports for a new entry. -/
def newNumber? (template : Template) (step : HistoryStep) : Option UInt32 :=
  (step.outcome? template).bind Prod.fst

/-- Whether the step takes a new number, for a draft in place of a published version or for a
publication. -/
def needsNumber (template : Template) : HistoryStep → Bool
  | edit _ _ => template.active?.any TemplateVersion.isPublished
  | publish _ _ _ => template.active?.isSome
  | activate _ => false

/-- The graph of a new entry: the one that an edit brings, or the active one. -/
def newGraph? (template : Template) : HistoryStep → Option Graph
  | edit graph _ => some graph
  | publish _ _ _ => template.activeGraph?
  | activate _ => none

end HistoryStep

namespace TemplateVersion

/-- What an entry of a history is bound to keep. -/
structure Continues (later earlier : TemplateVersion) : Prop where
  number : later.number = earlier.number
  publishedAt : later.publishedAt = earlier.publishedAt
  publishedBy : later.publishedBy = earlier.publishedBy
  notes : later.notes = earlier.notes
  /-- Only the graph of a draft may change. -/
  graph : earlier.isPublished = true → later.graph = earlier.graph

theorem Continues.refl (version : TemplateVersion) : version.Continues version :=
  ⟨rfl, rfl, rfl, rfl, fun _ => rfl⟩

theorem Continues.isPublished {later earlier : TemplateVersion}
    (continues : later.Continues earlier) : later.isPublished = earlier.isPublished := by
  simp only [TemplateVersion.isPublished, continues.publishedAt]

theorem Continues.trans {last later earlier : TemplateVersion}
    (second : last.Continues later) (first : later.Continues earlier) : last.Continues earlier where
  number := second.number.trans first.number
  publishedAt := second.publishedAt.trans first.publishedAt
  publishedBy := second.publishedBy.trans first.publishedBy
  notes := second.notes.trans first.notes
  graph published := by
    have laterPublished : later.isPublished = true := first.isPublished.trans published
    exact (second.graph laterPublished).trans (first.graph published)

/-- A draft with a new graph keeps everything else. -/
theorem Continues.ofDraft {version : TemplateVersion} (draft : version.isPublished = false)
    (graph : Graph) : ({ version with graph } : TemplateVersion).Continues version where
  number := rfl
  publishedAt := rfl
  publishedBy := rfl
  notes := rfl
  graph published := by rw [draft] at published; contradiction

end TemplateVersion

namespace Template

/-- The template after a list of steps. -/
def run (template : Template) (steps : List HistoryStep) : Template :=
  steps.foldl HistoryStep.apply template

/-- The place of the entry that the active number resolves to, the first with this number. -/
def activePlace? (template : Template) : Option Nat :=
  template.versions.findIdx? fun version => version.number == template.activeVersion

@[simp] theorem run_nil (template : Template) : template.run [] = template := rfl

@[simp] theorem run_cons (template : Template) (step : HistoryStep) (steps : List HistoryStep) :
    template.run (step :: steps) = (step.apply template).run steps := rfl

end Template

/-- All that a step can do to a history. -/
inductive HistoryStep.Effect (template : Template) (step : HistoryStep) : Prop where
  /-- The entries stay, and the active number is one that resolves or stays. -/
  | kept (versions : (step.apply template).versions = template.versions)
      (active : (step.apply template).activeVersion = template.activeVersion ∨
        (template.version? (step.apply template).activeVersion).isSome)
      (unreported : step.newNumber? template = none)
  /-- The draft that the active number resolves to has the graph of an edit. -/
  | replaced (graph : Graph) (now : Timestamp) (draft : TemplateVersion)
      (isEdit : step = .edit graph now) (found : template.active? = some draft)
      (unpublished : draft.isPublished = false)
      (versions : (step.apply template).versions =
        modifyFirst (fun version => version.number == template.activeVersion)
          (fun version => { version with graph }) template.versions)
      (active : (step.apply template).activeVersion = template.activeVersion)
      (unreported : step.newNumber? template = none)
  /-- An entry with the next number is appended, reported and made active. It has the graph that is
  edited in or published, and is published by a publication only. -/
  | appended (version : TemplateVersion) (numbered : template.nextNumber? = some version.number)
      (versions : (step.apply template).versions = template.versions ++ [version])
      (active : (step.apply template).activeVersion = version.number)
      (reported : step.newNumber? template = some version.number)
      (graph : step.newGraph? template = some version.graph)
      (published : version.isPublished = true →
        ∃ publisher notes now, step = .publish publisher notes now)

namespace HistoryStep.Effect

variable {template : Template} {step : HistoryStep}

/-- A step that leaves the template as it is, or at which the program stops, keeps the entries. -/
theorem of_unchanged (unreported : step.newNumber? template = none)
    (unchanged : step.apply template = template) : step.Effect template :=
  .kept (by rw [unchanged]) (.inl (by rw [unchanged])) unreported

/-- A step that appends an entry and reports its number. -/
theorem of_appended (version : TemplateVersion) {now : Timestamp}
    (outcome : step.outcome? template = some (some version.number, template.append version now))
    (numbered : template.nextNumber? = some version.number)
    (graph : step.newGraph? template = some version.graph)
    (published : version.isPublished = true →
      ∃ publisher notes now, step = .publish publisher notes now) : step.Effect template := by
  have after : step.apply template = template.append version now := by
    rw [apply, outcome, Option.map_some, Option.getD_some]
  have reported : step.newNumber? template = some version.number := by
    rw [newNumber?, outcome, Option.bind_some]
  exact .appended version numbered (by rw [after, Template.append]) (by rw [after, Template.append])
    reported graph published

end HistoryStep.Effect

/-- Every step has one of the effects. -/
theorem HistoryStep.effect (template : Template) (step : HistoryStep) : step.Effect template := by
  cases step with
  | edit graph now =>
    cases found : template.active? with
    | none =>
      have outcome : (edit graph now).outcome? template = some (none, template) := by
        simp only [outcome?, Template.editGraph?, found, Option.map_some]
      exact .of_unchanged (by simp [newNumber?, outcome]) (by simp [apply, outcome])
    | some current =>
      by_cases published : current.isPublished = true
      · cases next : template.nextNumber? with
        | none =>
          have outcome : (edit graph now).outcome? template = none := by
            simp only [outcome?, Template.editGraph?, found, published, if_true, next,
              Option.map_none]
          exact .of_unchanged (by simp [newNumber?, outcome]) (by simp [apply, outcome])
        | some number =>
          have outcome : (edit graph now).outcome? template =
              some (some number, template.append (.draft number graph) now) := by
            simp only [outcome?, Template.editGraph?, found, published, if_true, next,
              Option.map_some]
          exact .of_appended (.draft number graph) outcome next rfl
            fun draft => absurd draft Bool.false_ne_true
      · have outcome : (edit graph now).outcome? template =
            some (none, { template with
              versions :=
                modifyFirst (fun version => version.number == template.activeVersion)
                  (fun version => { version with graph }) template.versions
              updatedAt := now }) := by
          simp only [outcome?, Template.editGraph?, found, published, Bool.false_eq_true, if_false,
            Option.map_some]
        exact .replaced graph now current rfl found (by simpa using published)
          (by simp [apply, outcome]) (by simp [apply, outcome]) (by simp [newNumber?, outcome])
  | publish publisher notes now =>
    cases found : template.activeGraph? with
    | none =>
      have outcome : (publish publisher notes now).outcome? template = some (none, template) := by
        simp only [outcome?, Template.publish?, found]
      exact .of_unchanged (by simp [newNumber?, outcome]) (by simp [apply, outcome])
    | some graph =>
      cases next : template.nextNumber? with
      | none =>
        have outcome : (publish publisher notes now).outcome? template = none := by
          simp only [outcome?, Template.publish?, found, next, Option.map_none]
        exact .of_unchanged (by simp [newNumber?, outcome]) (by simp [apply, outcome])
      | some number =>
        have outcome : (publish publisher notes now).outcome? template = some (some number,
            template.append (.published number graph publisher now notes) now) := by
          simp only [outcome?, Template.publish?, found, next, Option.map_some]
        exact .of_appended (.published number graph publisher now notes) outcome next found
          fun _ => ⟨publisher, notes, now, rfl⟩
  | activate number =>
    by_cases found : (template.version? number).isSome = true
    · exact .kept (by simp [apply, outcome?, Template.activate, found])
        (.inr (by simp [apply, outcome?, Template.activate, found])) rfl
    · exact .kept (by simp [apply, outcome?, Template.activate, found])
        (.inl (by simp [apply, outcome?, Template.activate, found])) rfl

/-- An edit that is made leaves the edited template. -/
theorem HistoryStep.apply_edit {template edited : Template} {graph : Graph} {now : Timestamp}
    {edit : GraphEdit} (made : template.editGraph? graph now = some (edit, edited)) :
    (HistoryStep.edit graph now).apply template = edited := by
  rw [apply, outcome?, made]
  cases edit <;> rfl

/-- A publication under the next number appends a published copy of the active graph. -/
theorem HistoryStep.apply_publish {template : Template} {graph : Graph} {number : UInt32}
    (found : template.activeGraph? = some graph) (next : template.nextNumber? = some number)
    (publisher : Publisher) (notes : Option String) (now : Timestamp) :
    (HistoryStep.publish publisher notes now).apply template =
      template.append (.published number graph publisher now notes) now := by
  simp only [apply, outcome?, Template.publish?, found, next, Option.map_some, Option.getD_some]

/-- An activation of a version that is there makes its number active. -/
theorem HistoryStep.apply_activate {template : Template} {number : UInt32}
    (found : (template.version? number).isSome = true) :
    (HistoryStep.activate number).apply template = { template with activeVersion := number } := by
  simp only [apply, outcome?, Template.activate, found, if_true, Option.map_some, Option.getD_some]

/-- An edit that is made keeps the id of the template. -/
theorem Template.id_of_editGraph? {template edited : Template} {graph : Graph} {now : Timestamp}
    {edit : GraphEdit} (made : template.editGraph? graph now = some (edit, edited)) :
    edited.id = template.id := by
  rw [editGraph?] at made
  split at made
  · obtain ⟨-, rfl⟩ := Prod.mk.inj (Option.some.inj made)
    rfl
  · split at made
    · obtain ⟨number, -, appended⟩ := Option.map_eq_some_iff.1 made
      obtain ⟨-, rfl⟩ := Prod.mk.inj appended
      rfl
    · obtain ⟨-, rfl⟩ := Prod.mk.inj (Option.some.inj made)
      rfl

/-- A step that takes a new number reports the next one, if there is one. -/
theorem HistoryStep.newNumber?_eq (step : HistoryStep) (template : Template) :
    step.newNumber? template =
      if step.needsNumber template then template.nextNumber? else none := by
  cases step with
  | edit graph now =>
    cases found : template.active? with
    | none => simp [newNumber?, outcome?, needsNumber, Template.editGraph?, found]
    | some current =>
      by_cases published : current.isPublished = true <;> cases next : template.nextNumber? <;>
        simp [newNumber?, outcome?, needsNumber, Template.editGraph?, found, published, next]
  | publish publisher notes now =>
    cases found : template.active? with
    | none =>
      simp [newNumber?, outcome?, needsNumber, Template.publish?, Template.activeGraph?, found]
    | some current =>
      cases next : template.nextNumber? <;>
        simp [newNumber?, outcome?, needsNumber, Template.publish?, Template.activeGraph?, found,
          next]
  | activate number => rfl

/-- The program stops at a step exactly if it takes a new number and there is no next one. -/
theorem HistoryStep.outcome?_eq_none_iff (step : HistoryStep) (template : Template) :
    step.outcome? template = none ↔
      step.needsNumber template = true ∧ template.nextNumber? = none := by
  cases step with
  | edit graph now =>
    cases found : template.active? with
    | none => simp [outcome?, needsNumber, Template.editGraph?, found]
    | some current =>
      by_cases published : current.isPublished = true <;>
        simp [outcome?, needsNumber, Template.editGraph?, found, published]
  | publish publisher notes now =>
    cases found : template.active? with
    | none => simp [outcome?, needsNumber, Template.publish?, Template.activeGraph?, found]
    | some current => simp [outcome?, needsNumber, Template.publish?, Template.activeGraph?, found]
  | activate number => simp [outcome?, needsNumber]

/-- One step keeps what an entry is bound to keep, and another graph comes from an edit of the very
entry that is active. -/
theorem HistoryStep.getElem?_apply {template : Template} {index : Nat} {version : TemplateVersion}
    (step : HistoryStep) (found : template.versions[index]? = some version) :
    ∃ later, (step.apply template).versions[index]? = some later ∧ later.Continues version ∧
      (later.graph = version.graph ∨ ∃ graph now, step = .edit graph now ∧
        template.activePlace? = some index ∧ later.graph = graph) := by
  cases step.effect template with
  | kept versions _ _ =>
    exact ⟨version, by rw [versions, found], .refl version, .inl rfl⟩
  | appended added _ versions =>
    refine ⟨version, ?_, .refl version, .inl rfl⟩
    have inside : index < template.versions.length := (List.getElem?_eq_some_iff.1 found).1
    rw [versions, List.getElem?_append_left inside, found]
  | replaced graph now draft isEdit active unpublished versions _ _ =>
    by_cases here : template.activePlace? = some index
    · have same : version = draft := by
        have resolved : template.active? = template.versions[index]? := by
          rw [Template.active?, Template.version?, List.find?_eq_bind_findIdx?_getElem?]
          simp only [Template.activePlace?] at here
          rw [here, Option.bind_some]
        rw [active, found] at resolved
        exact (Option.some.inj resolved).symm
      subst same
      refine ⟨{ version with graph }, ?_, .ofDraft unpublished graph,
        .inr ⟨graph, now, isEdit, here, rfl⟩⟩
      simp only [Template.activePlace?] at here
      rw [versions, getElem?_modifyFirst, if_pos here, found, Option.map_some]
    · refine ⟨version, ?_, .refl version, .inl rfl⟩
      simp only [Template.activePlace?] at here
      rw [versions, getElem?_modifyFirst, if_neg here, found]

namespace Template

/-- A run of steps keeps what an entry is bound to keep, and another graph comes from an edit, the
last one that was made while the entry was active. -/
theorem getElem?_run {template : Template} {index : Nat} {version : TemplateVersion}
    (steps : List HistoryStep) (found : template.versions[index]? = some version) :
    ∃ later, (template.run steps).versions[index]? = some later ∧ later.Continues version ∧
      (later.graph = version.graph ∨ ∃ before graph now after,
        steps = before ++ .edit graph now :: after ∧
          (template.run before).activePlace? = some index ∧ later.graph = graph) := by
  induction steps generalizing template version with
  | nil => exact ⟨version, found, .refl version, .inl rfl⟩
  | cons step steps inductionHypothesis =>
    obtain ⟨next, nextFound, nextContinues, nextGraph⟩ := step.getElem?_apply found
    obtain ⟨last, lastFound, lastContinues, lastGraph⟩ := inductionHypothesis nextFound
    refine ⟨last, lastFound, lastContinues.trans nextContinues, ?_⟩
    rcases lastGraph with same | ⟨before, graph, now, after, split, active, edited⟩
    · rcases nextGraph with same' | ⟨graph, now, isEdit, active, edited⟩
      · exact .inl (same.trans same')
      · exact .inr ⟨[], graph, now, steps, by rw [isEdit]; rfl, active, same.trans edited⟩
    · exact .inr ⟨step :: before, graph, now, after, by rw [split]; rfl, active, edited⟩

/-- The numbers of a history that was never tampered with. -/
structure WellNumbered (template : Template) : Prop where
  nonempty : template.versions ≠ []
  increasing : template.versions.Pairwise fun earlier later => earlier.number < later.number
  resolves : template.active?.isSome = true

/-- No number of a history is the last one of 32 bits. -/
def HasRoom (template : Template) : Prop :=
  ∀ version ∈ template.versions, version.number.toNat < 2 ^ 32 - 1

instance (template : Template) : Decidable template.HasRoom :=
  inferInstanceAs (Decidable (∀ version ∈ template.versions, version.number.toNat < 2 ^ 32 - 1))

theorem foldl_max_le_iff (versions : List TemplateVersion) (start : UInt32) (bound : Nat) :
    (versions.foldl (fun highest version => max highest version.number) start).toNat ≤ bound ↔
      start.toNat ≤ bound ∧ ∀ version ∈ versions, version.number.toNat ≤ bound := by
  induction versions generalizing start with
  | nil => simp
  | cons first rest inductionHypothesis =>
    have highest : (max start first.number).toNat = max start.toNat first.number.toNat := by
      change (if start ≤ first.number then first.number else start).toNat = _
      simp only [UInt32.le_iff_toNat_le]
      split <;> omega
    simp only [List.foldl_cons, inductionHypothesis, highest, List.forall_mem_cons, Nat.max_le,
      and_assoc]

/-- The latest number is the least bound of all numbers. -/
theorem latestNumber_le_iff (template : Template) (bound : Nat) :
    template.latestNumber.toNat ≤ bound ↔
      ∀ version ∈ template.versions, version.number.toNat ≤ bound := by
  rw [latestNumber, foldl_max_le_iff]
  exact and_iff_right (Nat.zero_le bound)

/-- The next number is one past the latest, in natural numbers. -/
theorem nextNumber?_eq_some_iff {template : Template} {number : UInt32} :
    template.nextNumber? = some number ↔ number.toNat = template.latestNumber.toNat + 1 := by
  have sum : (template.latestNumber + 1).toNat =
      (template.latestNumber.toNat + 1) % UInt32.size := UInt32.toNat_add _ 1
  rw [nextNumber?]
  split
  · rename_i inside
    rw [Nat.mod_eq_of_lt inside] at sum
    rw [Option.some_inj, ← UInt32.toNat_inj, sum, eq_comm]
  · rename_i outside
    exact iff_of_false (by simp) fun next => outside (next ▸ number.toNat_lt_size)

/-- There is a next number while there is room. -/
theorem hasRoom_iff {template : Template} :
    template.HasRoom ↔ ∃ number, template.nextNumber? = some number := by
  have below : template.HasRoom ↔ template.latestNumber.toNat ≤ 2 ^ 32 - 2 := by
    rw [latestNumber_le_iff]
    exact forall₂_congr fun version _ => by omega
  rw [below, nextNumber?, UInt32.size]
  constructor
  · intro bounded
    exact ⟨_, if_pos (by omega)⟩
  · rintro ⟨number, next⟩
    split at next
    · omega
    · contradiction

/-- The next number is past every number of the history. -/
theorem lt_of_nextNumber? {template : Template} {number : UInt32}
    (next : template.nextNumber? = some number) {version : TemplateVersion}
    (member : version ∈ template.versions) : version.number < number := by
  have highest : version.number.toNat ≤ template.latestNumber.toNat :=
    (template.latestNumber_le_iff _).1 (Nat.le_refl _) version member
  rw [UInt32.lt_iff_toNat_lt, nextNumber?_eq_some_iff.1 next]
  exact Nat.lt_succ_of_le highest

/-- An entry with the next number is found under it. -/
theorem version?_append_of_lt {template : Template} {version : TemplateVersion}
    (past : ∀ other ∈ template.versions, other.number < version.number) (next : Template)
    (versions : next.versions = template.versions ++ [version]) :
    next.version? version.number = some version := by
  have unmatched : template.versions.find? (fun other => other.number == version.number) = none := by
    rw [List.find?_eq_none]
    intro other member matched
    have less := past other member
    rw [eq_of_beq matched] at less
    exact UInt32.lt_irrefl _ less
  simp [version?, versions, List.find?_append, unmatched]

/-- An edit in place keeps every look-up, up to the graph of the active entry. -/
theorem version?_replaced {template next : Template} {graph : Graph} (number : UInt32)
    (versions : next.versions =
      modifyFirst (fun version => version.number == template.activeVersion)
        (fun version => { version with graph }) template.versions) :
    next.version? number =
      if number == template.activeVersion then
        template.active?.map fun version => { version with graph }
      else template.version? number := by
  rw [version?, versions, find?_modifyFirst TemplateVersion.number template.activeVersion number]
  · rfl
  · intro version same
    exact same

/-- A step keeps what an entry found under a number is bound to keep, and another graph under this
number comes from an edit made while a draft is found under it and active. -/
theorem version?_apply {template : Template} {number : UInt32} {version : TemplateVersion}
    (step : HistoryStep) (found : template.version? number = some version) :
    ∃ later, (step.apply template).version? number = some later ∧ later.Continues version ∧
      (later.graph = version.graph ∨ ∃ graph now, step = .edit graph now ∧
        template.activeVersion = number ∧ version.isPublished = false ∧ later.graph = graph) := by
  cases step.effect template with
  | kept versions _ _ =>
    exact ⟨version, by rw [version?, versions, ← version?, found], .refl version, .inl rfl⟩
  | appended added _ versions =>
    refine ⟨version, ?_, .refl version, .inl rfl⟩
    rw [version?] at found
    rw [version?, versions, List.find?_append, found, Option.some_or]
  | replaced graph now draft isEdit active unpublished versions _ _ =>
    by_cases here : number = template.activeVersion
    · subst here
      have same : version = draft := Option.some.inj (found.symm.trans active)
      subst same
      refine ⟨{ version with graph }, ?_, .ofDraft unpublished graph,
        .inr ⟨graph, now, isEdit, rfl, unpublished, rfl⟩⟩
      rw [version?_replaced _ versions, if_pos (beq_self_eq_true _), active, Option.map_some]
    · refine ⟨version, ?_, .refl version, .inl rfl⟩
      rw [version?_replaced _ versions, if_neg (fun same => here (eq_of_beq same)), found]

theorem pairwise_modifyFirst_number {versions : List TemplateVersion}
    {test : TemplateVersion → Bool} {graph : Graph}
    (increasing : versions.Pairwise fun earlier later => earlier.number < later.number) :
    (modifyFirst test (fun version => { version with graph }) versions).Pairwise
      fun earlier later => earlier.number < later.number := by
  have numbers : (modifyFirst test (fun version => { version with graph }) versions).map
      TemplateVersion.number = versions.map TemplateVersion.number :=
    map_modifyFirst TemplateVersion.number fun _ _ => rfl
  rw [← List.pairwise_map (f := TemplateVersion.number) (R := (· < ·))] at increasing ⊢
  rwa [numbers]

/-- A step keeps the numbers of a history in order. -/
theorem WellNumbered.apply {template : Template} (wellNumbered : template.WellNumbered)
    (step : HistoryStep) : (step.apply template).WellNumbered := by
  cases step.effect template with
  | kept versions active _ =>
    refine ⟨by rw [versions]; exact wellNumbered.nonempty,
      by rw [versions]; exact wellNumbered.increasing, ?_⟩
    have same (number : UInt32) :
        (step.apply template).version? number = template.version? number := by
      rw [version?, version?, versions]
    rw [active?, same]
    rcases active with stays | found
    · rw [stays]
      exact wellNumbered.resolves
    · exact found
  | replaced graph now draft _ found _ versions active _ =>
    refine ⟨?_, by rw [versions]; exact pairwise_modifyFirst_number wellNumbered.increasing, ?_⟩
    · intro empty
      have length := congrArg List.length versions
      rw [empty, length_modifyFirst] at length
      exact wellNumbered.nonempty (List.eq_nil_of_length_eq_zero length.symm)
    · rw [active?, active, version?_replaced _ versions, if_pos (beq_self_eq_true _), found]
      rfl
  | appended version numbered versions active =>
    have past : ∀ other ∈ template.versions, other.number < version.number :=
      fun _ member => lt_of_nextNumber? numbered member
    refine ⟨by simp [versions], ?_, ?_⟩
    · rw [versions, List.pairwise_append]
      refine ⟨wellNumbered.increasing, List.pairwise_singleton _ _, ?_⟩
      intro earlier member later new
      rw [List.mem_singleton.1 new]
      exact past earlier member
    · rw [active?, active, version?_append_of_lt past _ versions]
      rfl

/-- A run keeps the numbers of a history in order. -/
theorem WellNumbered.run {template : Template} (wellNumbered : template.WellNumbered)
    (steps : List HistoryStep) : (template.run steps).WellNumbered := by
  induction steps generalizing template with
  | nil => exact wellNumbered
  | cons step steps inductionHypothesis => exact inductionHypothesis (wellNumbered.apply step)

/-- A number that a step reports is the one of the entry that it appended, which is active
afterwards; a step that reports none appends nothing. -/
theorem entry_of_newNumber? (template : Template) (step : HistoryStep) :
    match step.newNumber? template with
    | some number => ∃ version, (step.apply template).versions = template.versions ++ [version] ∧
        version.number = number ∧ (step.apply template).active? = some version
    | none => (step.apply template).versions.length = template.versions.length := by
  cases step.effect template with
  | kept versions _ unreported => simp [unreported, versions]
  | replaced graph now draft _ _ _ versions _ unreported => simp [unreported, versions]
  | appended version numbered versions active reported =>
    rw [reported]
    have past : ∀ other ∈ template.versions, other.number < version.number :=
      fun _ member => lt_of_nextNumber? numbered member
    exact ⟨version, versions, rfl, by rw [active?, active, version?_append_of_lt past _ versions]⟩

/-- While there is room, a publication of a history with a resolving active number reports a
number. -/
theorem WellNumbered.exists_newNumber? {template : Template} (wellNumbered : template.WellNumbered)
    (room : template.HasRoom) (publisher : Publisher) (notes : Option String) (now : Timestamp) :
    ∃ number, (HistoryStep.publish publisher notes now).newNumber? template = some number := by
  rw [HistoryStep.newNumber?_eq, HistoryStep.needsNumber, if_pos wellNumbered.resolves]
  exact hasRoom_iff.1 room

/-- While there is room, an edit reports a number exactly if the active version is published. -/
theorem HasRoom.isSome_newNumber?_edit {template : Template} (room : template.HasRoom)
    (graph : Graph) (now : Timestamp) :
    ((HistoryStep.edit graph now).newNumber? template).isSome =
      template.active?.any TemplateVersion.isPublished := by
  obtain ⟨number, next⟩ := hasRoom_iff.1 room
  rw [HistoryStep.newNumber?_eq, HistoryStep.needsNumber, next]
  cases template.active?.any TemplateVersion.isPublished <;> rfl

/-- Histories are append-only. Every entry keeps its place, its number and its record of
publication, a published one also its graph, and another graph of a draft comes from an edit made
while the active number resolved to this very entry. A history with increasing numbers and a
resolving active number keeps both, and the reported numbers are those of the entries appended.
While no number is the last one of 32 bits, every publication reports one, and so does every edit of
a published version. -/
theorem run_appendOnly (template : Template) (steps : List HistoryStep) :
    (∀ index version, template.versions[index]? = some version →
      ∃ later, (template.run steps).versions[index]? = some later ∧ later.Continues version ∧
        (later.graph = version.graph ∨ ∃ before graph now after,
          steps = before ++ .edit graph now :: after ∧
            (template.run before).activePlace? = some index ∧ later.graph = graph)) ∧
    (template.WellNumbered →
      (template.run steps).WellNumbered ∧
      (∀ step : HistoryStep, match step.newNumber? (template.run steps) with
        | some number => ∃ version,
            (step.apply (template.run steps)).versions =
              (template.run steps).versions ++ [version] ∧
            version.number = number ∧
            (step.apply (template.run steps)).active? = some version
        | none => (step.apply (template.run steps)).versions.length =
            (template.run steps).versions.length) ∧
      ((template.run steps).HasRoom →
        (∀ publisher notes now, ∃ number,
          (HistoryStep.publish publisher notes now).newNumber? (template.run steps) =
            some number) ∧
        ∀ graph now, ((HistoryStep.edit graph now).newNumber? (template.run steps)).isSome =
          (template.run steps).active?.any TemplateVersion.isPublished)) := by
  constructor
  · intro index version found
    exact getElem?_run steps found
  · intro wellNumbered
    have numbered : (template.run steps).WellNumbered := wellNumbered.run steps
    exact ⟨numbered, entry_of_newNumber? _, fun room =>
      ⟨numbered.exists_newNumber? room, room.isSome_newNumber?_edit⟩⟩

/-- A draft that is published and edited bumps to a second draft, whose publication is reported
under the number four. -/
theorem run_appendOnly_bumped :
    let template := ofVersion "t" "T" .custom .attorney (.draft 1 .empty) .epoch
    let steps : List HistoryStep := [.publish .staff none .epoch, .edit .empty .epoch]
    let next : HistoryStep := .publish .attorney none .epoch
    template.WellNumbered ∧ (template.run steps).HasRoom ∧ (template.run steps).WellNumbered ∧
      next.newNumber? (template.run steps) = some 4 ∧
      ∃ version, (next.apply (template.run steps)).versions =
        (template.run steps).versions ++ [version] ∧ version.number = 4 ∧
        (next.apply (template.run steps)).active? = some version := by
  intro template steps next
  have wellNumbered : template.WellNumbered := ⟨by decide, by decide, by decide⟩
  have room : (template.run steps).HasRoom := by decide
  obtain ⟨numbered, entries, reports⟩ := (run_appendOnly template steps).2 wellNumbered
  obtain ⟨number, reported⟩ := (reports room).1 .attorney none .epoch
  have four : next.newNumber? (template.run steps) = some 4 := by decide
  have entry := entries next
  rw [four] at entry
  obtain rfl : (4 : UInt32) = number := Option.some.inj (four.symm.trans reported)
  exact ⟨wellNumbered, room, numbered, reported, entry⟩

end Template

end Questionnaire
