import Criteria.Condition.Fault

/-!
# First faults

A list of questions is answered by the fault of the first question that has one,
and by a result if there is none.  Answers to parts of a list combine to the
answer to the whole list.
-/

namespace Criteria

namespace Condition

def faultOf : Except Fault α → Option Fault
  | .ok _ => none
  | .error fault => some fault

/-- A result in two-valued logic, where a fault counts as false. -/
def holds : Except Fault Bool → Bool
  | .ok result => result
  | .error _ => false

@[simp] theorem faultOf_ok (result : α) : faultOf (.ok result) = none :=
  rfl

@[simp] theorem faultOf_error (fault : Fault) :
    faultOf (.error fault : Except Fault α) = some fault :=
  rfl

theorem faultOf_eq_none_iff {result : Except Fault α} :
    faultOf result = none ↔ ∃ value, result = .ok value := by
  cases result <;> simp

theorem faultOf_eq_some_iff {result : Except Fault α} {fault : Fault} :
    faultOf result = some fault ↔ result = .error fault := by
  cases result <;> simp

@[simp] theorem holds_ok (result : Bool) : holds (.ok result) = result :=
  rfl

/-- A fault if there is one, or else what comes after it. -/
def unlessFault (fault : Option Fault) (otherwise : Except Fault α) : Except Fault α :=
  match fault with
  | some fault => .error fault
  | none => otherwise

@[simp] theorem unlessFault_some (fault : Fault) (otherwise : Except Fault α) :
    unlessFault (some fault) otherwise = .error fault :=
  rfl

@[simp] theorem unlessFault_none (otherwise : Except Fault α) :
    unlessFault none otherwise = otherwise :=
  rfl

/-- The first fault of a list of questions, or else a result. -/
def answer (fault? : γ → Option Fault) (questions : List γ) (result : α) :
    Except Fault α :=
  unlessFault (questions.findSome? fault?) (.ok result)

/-- The questions that are put, the first one with a fault being the last. -/
def untilFault (fault? : γ → Option Fault) : List γ → List γ
  | [] => []
  | question :: questions =>
      question :: if (fault? question).isNone then untilFault fault? questions else []

theorem untilFault_append (fault? : γ → Option Fault) (first second : List γ) :
    untilFault fault? (first ++ second) = untilFault fault? first ++
      if (first.findSome? fault?).isNone then untilFault fault? second else [] := by
  induction first with
  | nil => rfl
  | cons question first induction =>
      rw [List.cons_append, untilFault, untilFault, List.findSome?_cons, induction]
      cases fault? question <;> rfl

variable {fault? : γ → Option Fault}

theorem answer_cons (question : γ) (questions : List γ) (result : α) :
    answer fault? (question :: questions) result =
      unlessFault (fault? question) (answer fault? questions result) := by
  unfold answer
  cases fault : fault? question <;> simp [fault]

theorem eq_unlessFault (result : Except Fault Bool) :
    result = unlessFault (faultOf result) (answer fault? [] (holds result)) := by
  cases result <;> rfl

theorem map_eq_unlessFault (function : α → Bool) (result : Except Fault α) :
    function <$> result = unlessFault (faultOf result)
      (answer fault? [] (holds (function <$> result))) := by
  cases result <;> rfl

theorem answer_bind (first second : List γ) (value : α) (next : α → β) :
    (answer fault? first value >>= fun result => answer fault? second (next result)) =
      answer fault? (first ++ second) (next value) := by
  induction first with
  | nil => rfl
  | cons question first induction =>
      rw [answer_cons, List.cons_append, answer_cons, ← induction]
      cases fault? question <;> rfl

theorem map_answer (function : α → β) (questions : List γ) (result : α) :
    function <$> answer fault? questions result =
      answer fault? questions (function result) := by
  unfold answer
  cases questions.findSome? fault? <;> rfl

theorem answer_extend {first : Except Fault α} {others : Except Fault (List α)}
    {firstQuestions otherQuestions : List γ} {result : α} {results : List α}
    (firstAnswer : first = answer fault? firstQuestions result)
    (othersAnswer : others = answer fault? otherQuestions results) :
    (do return (← first) :: (← others)) =
      answer fault? (firstQuestions ++ otherQuestions) (result :: results) := by
  subst firstAnswer othersAnswer
  rw [← answer_bind firstQuestions otherQuestions result (· :: results)]
  congr 1
  funext result
  exact map_answer (result :: ·) otherQuestions results

theorem answer_mapM {items : List α} {step : α → Except Fault β}
    (questions : α → List γ) (result : α → β)
    (answers : ∀ item ∈ items,
      step item = answer fault? (questions item) (result item)) :
    items.mapM step = answer fault? (items.flatMap questions) (items.map result) := by
  induction items with
  | nil => rfl
  | cons item items induction =>
      rw [List.mapM_cons]
      apply answer_extend (answers item List.mem_cons_self)
      exact induction fun other member =>
        answers other (List.mem_cons_of_mem item member)

/-- The first find in a list of lists is the first of what is found in each. -/
theorem findSome?_flatMap {items : List α} {parts : α → List β} {find : β → Option γ}
    {first : α → Option γ}
    (finds : ∀ item ∈ items, (parts item).findSome? find = first item) :
    (items.flatMap parts).findSome? find = items.findSome? first := by
  induction items with
  | nil => rfl
  | cons item items induction =>
      obtain ⟨here, later⟩ := List.forall_mem_cons.mp finds
      rw [List.flatMap_cons, List.findSome?_append, here, induction later,
        List.findSome?_cons]
      cases first item <;> rfl

section Characterization

variable {questions : List γ} {result : α}

theorem answer_eq_error_iff {fault : Fault} :
    answer fault? questions result = .error fault ↔
      ∃ before question after, questions = before ++ question :: after ∧
        (∀ earlier ∈ before, fault? earlier = none) ∧
        fault? question = some fault := by
  have firstFault : answer fault? questions result = .error fault ↔
      questions.findSome? fault? = some fault := by
    unfold answer
    cases questions.findSome? fault? <;> simp
  rw [firstFault, List.findSome?_eq_some_iff]
  constructor
  · rintro ⟨before, question, after, split, failing, sound⟩
    exact ⟨before, question, after, split, sound, failing⟩
  · rintro ⟨before, question, after, split, sound, failing⟩
    exact ⟨before, question, after, split, failing, sound⟩

/-- No question is put after one that has a fault. -/
theorem untilFault_of_first_fault {before after : List γ} {question : γ} {fault : Fault}
    (sound : ∀ earlier ∈ before, fault? earlier = none)
    (failing : fault? question = some fault) :
    untilFault fault? (before ++ question :: after) = before ++ [question] := by
  induction before with
  | nil => simp [untilFault, failing]
  | cons first before induction =>
      obtain ⟨firstSound, laterSound⟩ := List.forall_mem_cons.mp sound
      simp [untilFault, firstSound, induction laterSound]

theorem answer_of_no_fault (sound : ∀ question ∈ questions, fault? question = none) :
    answer fault? questions result = .ok result := by
  rw [answer, List.findSome?_eq_none_iff.mpr sound, unlessFault_none]

theorem exists_answer_eq_error_iff :
    (∃ fault, answer fault? questions result = .error fault) ↔
      ∃ question ∈ questions, fault? question ≠ none := by
  unfold answer
  cases first : questions.findSome? fault? with
  | none =>
      have sound := List.findSome?_eq_none_iff.mp first
      simpa using sound
  | some fault =>
      obtain ⟨question, member, failing⟩ := List.exists_of_findSome?_eq_some first
      simpa using ⟨question, member, by simp [failing]⟩

end Characterization

end Condition

end Criteria
