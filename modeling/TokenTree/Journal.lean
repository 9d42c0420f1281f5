/-!
# Results with a journal

A computation of this library may leave entries in a journal while it runs. `Traced ε α` is its
outcome: the entries in the order they were left, and either a value or a cause of failure. The
entries left before a failure stay. Sequencing joins the journals and never lets an entry decide
a result, so `result` turns a sequence of computations into the sequence of their results.
-/

namespace TokenTree

/-- How much detail an entry gives: a summary of a stage, or a single step of it. -/
inductive Detail where
  | debug
  | trace
deriving DecidableEq

/-- The word that an entry's line starts with. -/
def Detail.word : Detail → String
  | .debug => "DEBUG"
  | .trace => "TRACE"

/-- One entry of a journal. -/
structure Entry where
  detail : Detail
  text : String
deriving DecidableEq

/-- The entry on one line, with its detail in front. -/
def Entry.line (entry : Entry) : String := entry.detail.word ++ " " ++ entry.text

/-- A value or a cause of failure, with the journal of how it came about. -/
structure Traced (ε α : Type) where
  journal : List Entry
  result : Except ε α

section Results

variable {ε ε' α β : Type}

/-- What follows a value goes on from it. -/
@[simp] theorem ok_bind (value : α) (next : α → Except ε β) :
    (Except.ok value >>= next) = next value := rfl

/-- What follows a failure does not come about. -/
@[simp] theorem error_bind (cause : ε) (next : α → Except ε β) :
    ((Except.error cause : Except ε α) >>= next) = .error cause := rfl

/-- A sequence succeeds when both of its parts do. -/
theorem bind_eq_ok_iff {first : Except ε α} {next : α → Except ε β} {value : β} :
    (first >>= next) = .ok value ↔ ∃ middle, first = .ok middle ∧ next middle = .ok value := by
  cases first with
  | ok middle => simp
  | error cause => simp

/-- What has a value is that value. -/
theorem eq_ok_of_toOption {result : Except ε α} {value : α}
    (hvalue : result.toOption = some value) : result = .ok value := by
  cases result with
  | ok made => exact congrArg _ (Option.some.inj hvalue)
  | error cause => cases hvalue

/-- The cause of a failure. -/
def failure? : Except ε α → Option ε
  | .ok _ => none
  | .error cause => some cause

/-- What has a cause is the failure for that cause. -/
theorem eq_error_of_failure? {result : Except ε α} {cause : ε}
    (hcause : failure? result = some cause) : result = .error cause := by
  cases result with
  | ok made => cases hcause
  | error other => rw [Option.some.inj hcause]

/-- The cause of a failure of a sequence is renamed in both of its parts. -/
theorem mapError_bind (rename : ε → ε') (first : Except ε α) (next : α → Except ε β) :
    (first >>= next).mapError rename =
      first.mapError rename >>= fun value => (next value).mapError rename := by
  cases first <;> rfl

/-- Renaming causes leaves values to what is made of them. -/
theorem mapError_map (rename : ε → ε') (f : α → β) (result : Except ε α) :
    (f <$> result).mapError rename = f <$> result.mapError rename := by
  cases result <;> rfl

end Results

namespace Traced

variable {ε α β : Type}

/-- The outcome of an untraced computation. -/
def ofExcept (result : Except ε α) : Traced ε α := ⟨[], result⟩

/-- Stop for the given cause. -/
def fail (cause : ε) : Traced ε α := ⟨[], .error cause⟩

/-- Leave one entry. -/
def note (detail : Detail) (text : String) : Traced ε Unit := ⟨[⟨detail, text⟩], .ok ()⟩

/-- The same outcome after earlier entries. Where it left none, the earlier ones are not copied. -/
def after (journal : List Entry) (outcome : Traced ε α) : Traced ε α :=
  match outcome.journal with
  | [] => ⟨journal, outcome.result⟩
  | more => ⟨journal ++ more, outcome.result⟩

/-- Run one computation on the value of another; a failure of the first is the failure of both. -/
def andThen (first : Traced ε α) (second : α → Traced ε β) : Traced ε β :=
  match first.result with
  | .ok value => (second value).after first.journal
  | .error cause => ⟨first.journal, .error cause⟩

instance : Monad (Traced ε) where
  pure value := ⟨[], .ok value⟩
  bind := andThen

@[simp] theorem result_pure (value : α) : (pure value : Traced ε α).result = .ok value := rfl

@[simp] theorem result_fail (cause : ε) : (fail cause : Traced ε α).result = .error cause := rfl

@[simp] theorem result_note (detail : Detail) (text : String) :
    (note detail text : Traced ε Unit).result = .ok () := rfl

@[simp] theorem result_ofExcept (result : Except ε α) : (ofExcept result).result = result := rfl

@[simp] theorem result_after (journal : List Entry) (outcome : Traced ε α) :
    (outcome.after journal).result = outcome.result := by
  unfold after
  cases outcome.journal <;> rfl

/-- The earlier entries stand first. -/
@[simp] theorem journal_after (journal : List Entry) (outcome : Traced ε α) :
    (outcome.after journal).journal = journal ++ outcome.journal := by
  unfold after
  cases outcome.journal <;> simp

/-- The result of a sequence is the sequence of the results. -/
@[simp] theorem result_bind (first : Traced ε α) (second : α → Traced ε β) :
    (first >>= second).result = first.result >>= fun value => (second value).result := by
  show (andThen first second).result = _
  unfold andThen
  cases first.result with
  | ok value => exact result_after _ _
  | error cause => rfl

@[simp] theorem result_map (f : α → β) (outcome : Traced ε α) :
    (f <$> outcome).result = f <$> outcome.result := by
  show (andThen outcome fun value => pure (f value)).result = _
  unfold andThen
  cases outcome.result with
  | ok value => exact result_after _ _
  | error cause => rfl

end Traced

end TokenTree
