import Questionnaire.Graph.Firing
import Questionnaire.Proofs.Text.Blank
import Questionnaire.Response.Table

/-!
# Conditions and silent responses

A response is silent if it has no answer that says something. A condition on the answer is meant to
hold of answers that say something, and all kinds of conditions but one do so. A condition on a
single choice compares the answer with its option as it is, so it holds of a silent response where
both are the same text of blanks. A node without a response that completes it therefore fires
unconditional edges only, unless some edge waits for such an option.
-/

namespace Questionnaire

namespace Answer

variable {answer : Answer}

theorem isMeaningful_of_isYes (yes : answer.isYes = true) : answer.isMeaningful = true := by
  cases answer with
  | text value =>
    have visible : isBlankText value = false := isBlankText_of_sameIgnoringCase (by decide) yes
    rw [isMeaningful, visible, Bool.not_false]
  | bool value => rfl
  | number | list | files | record => contradiction

theorem isMeaningful_of_isNo (no : answer.isNo = true) : answer.isMeaningful = true := by
  cases answer with
  | text value =>
    have visible : isBlankText value = false := isBlankText_of_sameIgnoringCase (by decide) no
    rw [isMeaningful, visible, Bool.not_false]
  | bool value => rfl
  | number | list | files | record => contradiction

end Answer

theorem Response.isMeaningful_of_any {response : Response} {test : Answer → Bool}
    (passes : ∀ {answer : Answer}, test answer = true → answer.isMeaningful = true)
    (holds : response.answer.any test = true) : response.isMeaningful = true := by
  obtain ⟨answer, given, tested⟩ := (Option.any_eq_true ..).1 holds
  rw [isMeaningful, given]
  exact passes tested

namespace EdgeCondition

variable {condition : EdgeCondition} {response : Response}

/-- Whether the condition waits for an option that is blank. -/
def awaitsBlank : EdgeCondition → Bool
  | choiceEquals (some option) => isBlankText option
  | _ => false

/-- What a condition that holds of a response says about the answer. -/
theorem isMeaningful_or_of_fires (holds : condition.fires (some response) = true) :
    condition = .always ∨ response.isMeaningful = true ∨
      ∃ option, condition = .choiceEquals (some option) ∧
        response.answer = some (.text option) := by
  cases condition with
  | always => exact .inl rfl
  | yes => exact .inr (.inl (Response.isMeaningful_of_any Answer.isMeaningful_of_isYes holds))
  | no => exact .inr (.inl (Response.isMeaningful_of_any Answer.isMeaningful_of_isNo holds))
  | answered => exact .inr (.inl holds)
  | choiceEquals option =>
    simp only [fires] at holds
    split at holds
    · rename_i value option given
      exact .inr (.inr ⟨option, rfl, eq_of_beq holds ▸ given⟩)
    · contradiction
  | choiceContains option =>
    simp only [fires] at holds
    split at holds
    · rename_i items option given
      have chosen : items.contains option = true := (Bool.and_eq_true_iff.1 holds).2
      have notEmpty : items ≠ [] := List.ne_nil_of_mem (List.contains_iff_mem.1 chosen)
      refine .inr (.inl ?_)
      simp [Response.isMeaningful, given, Answer.isMeaningful, notEmpty]
    · contradiction

/-- A silent response fires no condition but `always` and a choice of its own text. -/
theorem fires_iff_of_silent (silent : response.isMeaningful = false) :
    condition.fires (some response) = true ↔
      condition = .always ∨ ∃ option, condition = .choiceEquals (some option) ∧
        response.answer = some (.text option) := by
  constructor
  · intro holds
    rcases isMeaningful_or_of_fires holds with isAlways | speaks | chosen
    · exact .inl isAlways
    · exact absurd (silent.symm.trans speaks) Bool.false_ne_true
    · exact .inr chosen
  · rintro (rfl | ⟨option, rfl, given⟩)
    · rfl
    · simp [fires, given]

theorem exists_of_awaitsBlank (waits : condition.awaitsBlank = true) :
    ∃ option, condition = .choiceEquals (some option) ∧ isBlankText option = true := by
  cases condition with
  | choiceEquals option =>
    cases option with
    | some option => exact ⟨option, rfl, waits⟩
    | none => contradiction
  | always | yes | no | choiceContains | answered => contradiction

/-- A condition that waits for a blank option holds of a response that completes no node. -/
theorem exists_silent_of_awaitsBlank (waits : condition.awaitsBlank = true) :
    ∃ response : Response, response.isComplete = false ∧
      condition.fires (some response) = true := by
  obtain ⟨option, rfl, blank⟩ := exists_of_awaitsBlank waits
  refine ⟨.answered "" "" (.text option) .epoch, ?_, beq_self_eq_true option⟩
  simp [Response.isComplete, Response.answered, Response.isMeaningful, Answer.isMeaningful, blank]

theorem fires_none_iff : condition.fires none = true ↔ condition = .always := by
  cases condition <;> simp [fires]

/-- What waits for no blank option holds only where there is a response that says something. -/
theorem exists_meaningful_of_fires {source : Option Response} (conditional : condition ≠ .always)
    (visible : condition.awaitsBlank = false) (holds : condition.fires source = true) :
    ∃ response, source = some response ∧ response.isMeaningful = true := by
  cases source with
  | none => exact absurd (fires_none_iff.1 holds) conditional
  | some response =>
    refine ⟨response, rfl, ?_⟩
    by_contra silent
    rw [Bool.not_eq_true] at silent
    rcases (fires_iff_of_silent silent).1 holds with isAlways | ⟨option, rfl, given⟩
    · exact conditional isAlways
    · -- The answer is the option, which is not blank.
      rw [awaitsBlank] at visible
      rw [Response.isMeaningful, given, Option.any_some, Answer.isMeaningful, visible] at silent
      contradiction

/-- Where a condition holds there is an answer that says something, exactly if it is neither `always`
nor a choice of a blank option. -/
theorem fires_only_meaningful_iff (condition : EdgeCondition) :
    (∀ response : Response, condition.fires (some response) = true →
        response.isMeaningful = true) ↔
      condition ≠ .always ∧ condition.awaitsBlank = false := by
  constructor
  · intro guarded
    refine ⟨?_, ?_⟩
    · rintro rfl
      exact absurd (guarded (.answered "" "" (.text "") .epoch) rfl) (by decide)
    · by_contra waits
      rw [Bool.not_eq_false] at waits
      obtain ⟨response, unanswered, holds⟩ := exists_silent_of_awaitsBlank waits
      rw [Response.isComplete, guarded response holds, Bool.or_true] at unanswered
      contradiction
  · rintro ⟨conditional, visible⟩ response holds
    obtain ⟨_, same, speaks⟩ := exists_meaningful_of_fires conditional visible holds
    exact Option.some.inj same ▸ speaks

/-- Nodes that no response completes fire unconditional edges only, whatever the responses are, if
and only if no edge waits for a blank option. -/
theorem unanswered_fires_only_always_iff (edges : List Edge) :
    (∀ (responses : ResponseIndex), ∀ edge ∈ edges, responses.completes edge.source = false →
        edge.fires responses = true → edge.condition = .always) ↔
      ∀ edge ∈ edges, edge.condition.awaitsBlank = false := by
  constructor
  · intro unconditional edge inside
    by_contra waits
    rw [Bool.not_eq_false] at waits
    obtain ⟨response, unanswered, holds⟩ := exists_silent_of_awaitsBlank waits
    let responses : ResponseIndex := KeyMap.empty.insert edge.source response
    have found : responses.get? edge.source = some response := by
      rw [KeyMap.get?_insert, if_pos rfl]
    have incomplete : responses.completes edge.source = false := by
      rw [ResponseIndex.completes, found, Option.any_some, unanswered]
    have fired : edge.fires responses = true := by rwa [Edge.fires, found]
    rw [unconditional responses edge inside incomplete fired] at waits
    contradiction
  · intro visible responses edge inside unanswered fired
    by_contra conditional
    obtain ⟨response, found, speaks⟩ :=
      exists_meaningful_of_fires conditional (visible edge inside) fired
    rw [ResponseIndex.completes, found, Option.any_some, Response.isComplete, speaks,
      Bool.or_true] at unanswered
    contradiction

/-- A response that says nothing fires no condition but `always` and a choice that is its own blank
text. So a condition holds of responses only that say something, and presence holds wherever it
does, exactly where it is neither `always` nor a choice of a blank option; and nodes that count as
unanswered fire unconditional edges only exactly where no edge waits for a blank option. -/
theorem opensOnlyOnAnswers_iff (condition : EdgeCondition) (edges : List Edge) :
    (∀ response : Response, response.isMeaningful = false →
        (condition.fires (some response) = true ↔
          condition = .always ∨ ∃ option, condition = .choiceEquals (some option) ∧
            response.answer = some (.text option))) ∧
      ((∀ response : Response, condition.fires (some response) = true →
          response.isMeaningful = true) ↔
        condition ≠ .always ∧ condition.awaitsBlank = false) ∧
      ((∀ source : Option Response, condition.fires source = true →
          EdgeCondition.answered.fires source = true) ↔
        condition ≠ .always ∧ condition.awaitsBlank = false) ∧
      ((∀ (responses : ResponseIndex), ∀ edge ∈ edges, responses.completes edge.source = false →
          edge.fires responses = true → edge.condition = .always) ↔
        ∀ edge ∈ edges, edge.condition.awaitsBlank = false) := by
  refine ⟨fun response silent => fires_iff_of_silent silent, fires_only_meaningful_iff condition,
    ⟨fun implies => ?_, ?_⟩, unanswered_fires_only_always_iff edges⟩
  · exact (fires_only_meaningful_iff condition).1 fun response => implies (some response)
  · rintro ⟨conditional, visible⟩ source holds
    obtain ⟨response, rfl, speaks⟩ := exists_meaningful_of_fires conditional visible holds
    exact speaks

/-- An empty answer meets a choice of the empty option and reveals the next question, although the
node counts as unanswered. A choice out of a list refuses the empty option. -/
theorem fires_emptyOption :
    let condition : EdgeCondition := .choiceEquals (some "")
    let edge : Edge := { id := "e", source := "q", target := "r", condition }
    let response : Response := .answered "a" "q" (.text "") .epoch
    let listed : Response := .answered "a" "q" (.list [""]) .epoch
    condition ≠ .always ∧ condition.fires (some response) = true ∧
      response.isMeaningful = false ∧ EdgeCondition.answered.fires (some response) = false ∧
      (ResponseIndex.ofList [response]).completes "q" = false ∧
      nextNodeIds [edge] (.ofList [response]) "q" = ["r"] ∧
      (EdgeCondition.choiceContains (some "")).fires (some listed) = false := by
  decide +kernel

end EdgeCondition

end Questionnaire
