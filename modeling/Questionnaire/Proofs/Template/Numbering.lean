import Questionnaire.Graph.Chain
import Questionnaire.Proofs.Document.RoundTrip
import Questionnaire.Proofs.Template.History

/-!
# Fresh version numbers

A new entry of a history is numbered one past the highest number. The number is past all others, the
entry is found under it and its graph is active, whatever the numbers before. Only a history that
has the last number of 32 bits gets no further entry: the program stops at the edit or publication.
The sum that is left of the next number in 32 bits is zero, so a program that did not stop would
number behind the history.
-/

namespace Questionnaire

namespace HistoryStep

/-- The number that the step reports is a new one. -/
structure IsFresh (step : HistoryStep) (template : Template) (number : UInt32) : Prop where
  /-- It is past all numbers of the history. -/
  past : ∀ old ∈ template.versions, old.number < number
  /-- The entry that is appended is found under it. -/
  found : ∃ version, (step.apply template).versions = template.versions ++ [version] ∧
    (step.apply template).version? number = some version
  /-- The graph that was edited in or published is active afterwards. -/
  active : (step.apply template).activeGraph? = step.newGraph? template

variable {template : Template} {step : HistoryStep} {number : UInt32}

/-- A number that a step reports is a new one. -/
theorem isFresh_of_newNumber? (reported : step.newNumber? template = some number) :
    step.IsFresh template number := by
  cases step.effect template with
  | kept _ _ unreported => rw [unreported] at reported; contradiction
  | replaced _ _ _ _ _ _ _ _ unreported => rw [unreported] at reported; contradiction
  | appended version numbered versions active isNumber graph _ =>
    obtain rfl : version.number = number := Option.some.inj (isNumber.symm.trans reported)
    have past : ∀ old ∈ template.versions, old.number < version.number :=
      fun _ inside => Template.lt_of_nextNumber? numbered inside
    have found := Template.version?_append_of_lt past (step.apply template) versions
    refine ⟨past, ⟨version, versions, found⟩, ?_⟩
    rw [Template.activeGraph?, Template.active?, active, found, graph, Option.map_some]

end HistoryStep

namespace Template

/-- Every step that takes a new number gets one, which is new. -/
def NumbersFreshly (template : Template) : Prop :=
  ∀ step : HistoryStep, step.needsNumber template = true →
    ∃ number, step.newNumber? template = some number ∧ step.IsFresh template number

/-- Without room there is no next number, and the sum in 32 bits is zero. -/
theorem latestNumber_add_one_of_not_hasRoom {template : Template} (full : ¬ template.HasRoom) :
    template.nextNumber? = none ∧ template.latestNumber + 1 = 0 := by
  have next : template.nextNumber? = none := by
    rw [Option.eq_none_iff_forall_ne_some]
    exact fun number isNext => full (hasRoom_iff.2 ⟨number, isNext⟩)
  refine ⟨next, ?_⟩
  have small := template.latestNumber.toNat_lt
  have last : ¬ template.latestNumber.toNat + 1 < UInt32.size := by
    intro inside
    rw [nextNumber?, if_pos inside] at next
    contradiction
  rw [UInt32.size] at last
  apply UInt32.toNat_inj.1
  rw [UInt32.toNat_add, UInt32.toNat_one, UInt32.toNat_zero]
  omega

/-- Edits of published versions and publications number freshly if and only if no number of the
history is the last one of 32 bits, unless nothing is active, when there is nothing to number. A
number that is reported is one past the latest and always a new one. Where there is no room the
program stops at every edit of a published version and every publication, and the sum in 32 bits,
with which it would go on, is zero. -/
theorem numbersFreshly_iff (template : Template) :
    (template.NumbersFreshly ↔ (template.active?.isSome = true → template.HasRoom)) ∧
    (∀ (step : HistoryStep) (number : UInt32), step.newNumber? template = some number →
      number.toNat = template.latestNumber.toNat + 1 ∧ step.IsFresh template number) ∧
    (¬ template.HasRoom →
      (∀ step : HistoryStep, step.needsNumber template = true →
        step.outcome? template = none) ∧
      template.latestNumber + 1 = 0) := by
  refine ⟨⟨?_, ?_⟩, ?_, ?_⟩
  · intro fresh resolves
    obtain ⟨number, reported, _⟩ := fresh (.publish .attorney none .epoch) resolves
    rw [HistoryStep.newNumber?_eq, HistoryStep.needsNumber, if_pos resolves] at reported
    exact hasRoom_iff.2 ⟨number, reported⟩
  · intro room step needs
    have resolves : template.active?.isSome = true := by
      cases step with
      | edit graph now => exact Option.isSome_of_any needs
      | publish publisher notes now => exact needs
      | activate number => contradiction
    obtain ⟨number, next⟩ := hasRoom_iff.1 (room resolves)
    have reported : step.newNumber? template = some number := by
      rw [HistoryStep.newNumber?_eq, if_pos needs, next]
    exact ⟨number, reported, HistoryStep.isFresh_of_newNumber? reported⟩
  · intro step number reported
    have next : template.nextNumber? = some number := by
      rw [HistoryStep.newNumber?_eq] at reported
      split at reported
      · exact reported
      · contradiction
    exact ⟨nextNumber?_eq_some_iff.1 next, HistoryStep.isFresh_of_newNumber? reported⟩
  · intro full
    obtain ⟨next, sum⟩ := latestNumber_add_one_of_not_hasRoom full
    exact ⟨fun step needs => (step.outcome?_eq_none_iff template).2 ⟨needs, next⟩, sum⟩

/-- A document is read with a history that has the last number. The program stops when the active
graph is published; the sum in 32 bits is zero, and an older entry with another graph has this
number. -/
theorem not_numbersFreshly_full :
    let graph : Graph := .chain [.ofKind .start "s", .ofKind .finish "e"]
    let template : Template :=
      { Template.ofVersion "t" "A" .custom .attorney (.draft 1 graph) .epoch with
        versions :=
          [.draft 1 graph, .published 4294967295 .empty .attorney .epoch none,
            .published 0 .empty .attorney .epoch none] }
    let state : State := { templates := [template] }
    readDocument (some state.render) = .ok state ∧ template.activeGraph? = some graph ∧
      ¬ template.NumbersFreshly ∧ template.publish? .attorney none .epoch = none ∧
      template.latestNumber + 1 = 0 ∧
      (template.version? 0).map TemplateVersion.graph = some .empty := by
  intro graph template state
  have read : readDocument (some state.render) = .ok state := by
    rw [State.render, readDocument_tree]
    decide +kernel
  refine ⟨read, by decide +kernel, fun fresh => ?_, by decide +kernel, by decide +kernel,
    by decide +kernel⟩
  obtain ⟨number, reported, _⟩ := fresh (.publish .attorney none .epoch) (by decide +kernel)
  have unreported : (HistoryStep.publish .attorney none .epoch).newNumber? template = none := by
    decide +kernel
  exact absurd (unreported.symm.trans reported).symm (Option.some_ne_none number)

end Template

end Questionnaire
