import Mathlib.Tactic.Common
import LayeredSettings.Request

/-! How outcomes and logged results go on: what is joined when a step succeeds, and what is left as
it is when it fails. -/
namespace LayeredSettings

namespace Outcome

variable {α β γ : Type}

@[simp] theorem after_registry (events : List Event) (o : Outcome α) :
    (o.after events).registry = o.registry := rfl

@[simp] theorem after_events (events : List Event) (o : Outcome α) :
    (o.after events).events = events ++ o.events := rfl

@[simp] theorem after_result (events : List Event) (o : Outcome α) :
    (o.after events).result = o.result := rfl

@[simp] theorem after_nil (o : Outcome α) : o.after [] = o := rfl

@[simp] theorem after_after (first second : List Event) (o : Outcome α) :
    (o.after second).after first = o.after (first ++ second) := by
  simp [after, List.append_assoc]

theorem andThen_of_ok {o : Outcome α} {value : α} (h : o.result = .ok value)
    (next : α → Registry → Outcome β) :
    o.andThen next = (next value o.registry).after o.events := by simp only [andThen, h]

theorem andThen_of_error {o : Outcome α} {e : ConfigError} (h : o.result = .error e)
    (next : α → Registry → Outcome β) :
    o.andThen next = (failed o.registry e).after o.events := by
  simp [andThen, h, failed, after]

@[simp] theorem done_andThen (r : Registry) (value : α) (next : α → Registry → Outcome β) :
    (done r value).andThen next = next value r := rfl

@[simp] theorem failed_andThen (r : Registry) (e : ConfigError)
    (next : α → Registry → Outcome β) : (failed r e).andThen next = failed r e := rfl

theorem after_andThen (events : List Event) (o : Outcome α) (next : α → Registry → Outcome β) :
    (o.after events).andThen next = (o.andThen next).after events := by
  cases h : o.result with
  | ok value => simp [andThen_of_ok h, andThen_of_ok (o := o.after events) h]
  | error e => simp [andThen_of_error h, andThen_of_error (o := o.after events) h]

theorem andThen_assoc (o : Outcome α) (first : α → Registry → Outcome β)
    (second : β → Registry → Outcome γ) :
    (o.andThen first).andThen second =
      o.andThen fun value r => (first value r).andThen second := by
  cases h : o.result with
  | ok value => simp only [andThen_of_ok h, after_andThen]
  | error e => simp only [andThen_of_error h, after_andThen, failed_andThen]

@[simp] theorem ofChange_ok (r changed : Registry) : ofChange r (.ok changed) = done changed () :=
  rfl

@[simp] theorem ofChange_error (r : Registry) (e : ConfigError) :
    ofChange r (.error e) = failed r e := rfl

theorem inStage_of_ok {stage : Stage} {o : Outcome α} {value : α} (h : o.result = .ok value) :
    o.inStage stage = ⟨o.events,.ok (o.registry,value)⟩ := by simp [inStage, h]

theorem inStage_of_error {stage : Stage} {o : Outcome α} {e : ConfigError}
    (h : o.result = .error e) : o.inStage stage = ⟨o.events,.error ⟨stage,e⟩⟩ := by
  simp [inStage, h]

end Outcome

namespace Logged

variable {α β ε : Type}

theorem andThen_of_ok {l : Logged (Except ε α)} {value : α} (h : l.result = .ok value)
    (next : α → Logged (Except ε β)) : l.andThen next = (next value).after l.events := by
  simp only [andThen, h]

theorem andThen_of_error {l : Logged (Except ε α)} {e : ε} (h : l.result = .error e)
    (next : α → Logged (Except ε β)) : l.andThen next = ⟨l.events,.error e⟩ := by
  simp only [andThen, h]

@[simp] theorem after_result (events : List Event) (l : Logged α) :
    (l.after events).result = l.result := rfl

@[simp] theorem after_events (events : List Event) (l : Logged α) :
    (l.after events).events = events ++ l.events := rfl

theorem andThen_result_eq_ok_iff {l : Logged (Except ε α)} {next : α → Logged (Except ε β)}
    {value : β} :
    (l.andThen next).result = .ok value ↔ ∃ a, l.result = .ok a ∧ (next a).result = .ok value := by
  cases h : l.result with
  | ok a => simp [andThen_of_ok h]
  | error e => simp [andThen_of_error h]

theorem andThen_result_eq_error_iff {l : Logged (Except ε α)} {next : α → Logged (Except ε β)}
    {e : ε} : (l.andThen next).result = .error e ↔
      l.result = .error e ∨ ∃ a, l.result = .ok a ∧ (next a).result = .error e := by
  cases h : l.result with
  | ok a => simp [andThen_of_ok h]
  | error e => simp [andThen_of_error h]

end Logged

theorem Outcome.inStage_result_eq_ok_iff {α : Type} {stage : Stage} {o : Outcome α}
    {r : Registry} {value : α} :
    (o.inStage stage).result = .ok (r,value) ↔ o.result = .ok value ∧ o.registry = r := by
  cases h : o.result with
  | ok a => simp [inStage_of_ok h, and_comm]
  | error e => simp [inStage_of_error h]

theorem Outcome.inStage_result_eq_error_iff {α : Type} {stage : Stage} {o : Outcome α}
    {e : RunError} : (o.inStage stage).result = .error e ↔
      e.stage = stage ∧ o.result = .error e.cause := by
  obtain ⟨stage',cause⟩ := e
  cases h : o.result with
  | ok a => simp [inStage_of_ok h]
  | error e => simp [inStage_of_error h, eq_comm]

end LayeredSettings
