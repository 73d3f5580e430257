import ShapeLisp.Proofs.Eval.Comparison

/-!
# Notes on errors

On its way out of an evaluation an error gets notes about where it was raised. The notes change
nothing but the words of failed evaluations: an interpreter that adds none returns the same values,
fails at the same moments and leaves the same worlds. And they do not pile up. However deeply lists
and calls are nested, a failure gets at most one note about a list and at most one about a function,
in either order.

A note is left out when the message already has its label somewhere. The label of a note that was
added is in the message, since its line begins with the label, so no second one of the same kind is
added, whatever the texts of users bring into the message.
-/

namespace ShapeLisp

variable [Regex.Engine]

namespace Note

/-- At most one note of each kind, in either order. -/
inductive AtMostOneEach : List Note → Prop where
  /-- No note. -/
  | none : AtMostOneEach []
  /-- A note about a list. -/
  | context (expr : Value) : AtMostOneEach [.context expr]
  /-- A note about a function. -/
  | inFunction (body : Value) : AtMostOneEach [.inFunction body]
  /-- A note about a list, and then one about a function. -/
  | contextFirst (expr body : Value) : AtMostOneEach [.context expr, .inFunction body]
  /-- A note about a function, and then one about a list. -/
  | functionFirst (body expr : Value) : AtMostOneEach [.inFunction body, .context expr]

/-- A note may be added when there is none of its kind. -/
theorem AtMostOneEach.concat {notes : List Note} {note : Note} (h : AtMostOneEach notes)
    (hnew : ∀ other ∈ notes, other.label ≠ note.label) : AtMostOneEach (notes ++ [note]) := by
  cases note with
  | context expr =>
    cases h with
    | none => exact .context expr
    | inFunction body => exact .functionFirst body expr
    | context other => exact absurd rfl (hnew (.context other) (by simp))
    | contextFirst other body => exact absurd rfl (hnew (.context other) (by simp))
    | functionFirst body other => exact absurd rfl (hnew (.context other) (by simp))
  | inFunction body =>
    cases h with
    | none => exact .inFunction body
    | context expr => exact .contextFirst expr body
    | inFunction other => exact absurd rfl (hnew (.inFunction other) (by simp))
    | contextFirst expr other => exact absurd rfl (hnew (.inFunction other) (by simp))
    | functionFirst other expr => exact absurd rfl (hnew (.inFunction other) (by simp))

/-- The line of a note begins with its label. -/
theorem label_prefix_text (note : Note) : note.label.toList <+: note.text.toList := by
  cases note with
  | context expr =>
    have hlabel : "\n  Context:".toList <+: "\n  Context: while evaluating: ".toList := by decide
    change _ <+: ("\n  Context: while evaluating: " ++ expr.display).toList
    rw [String.toList_append]
    exact hlabel.trans (List.prefix_append ..)
  | inFunction body =>
    have hlabel : "\n  In function:".toList <+: "\n  In function: ".toList := by decide
    change _ <+: ("\n  In function: " ++ body.display).toList
    rw [String.toList_append]
    exact hlabel.trans (List.prefix_append ..)

end Note

namespace Failure

omit [Regex.Engine] in
/-- A text occurs in another when it is a segment of it. -/
theorem occursIn_iff {part text : List Char} : occursIn part text = true ↔ part <:+: text := by
  induction text with
  | nil => rw [occursIn, List.isEmpty_iff, List.infix_nil]
  | cons c rest ih =>
    rw [occursIn, Bool.or_eq_true, List.isPrefixOf_iff_prefix, ih, List.infix_cons_iff]

/-- Notes that are added come after the message. -/
theorem message_append (cause : Cause) (notes more : List Note) :
    message ⟨cause, notes ++ more⟩ =
      message ⟨cause, notes⟩ ++ String.join (more.map Note.text) := by
  simp only [message, List.foldl_append]
  generalize notes.foldl (fun text note => text ++ note.text) cause.message = text
  induction more generalizing text with
  | nil => rw [List.foldl_nil, List.map_nil, String.join_nil, String.append_empty]
  | cons note rest ih =>
    rw [List.foldl_cons, ih, List.map_cons, String.join_cons, String.append_assoc]

/-- The label of every note is in the message. -/
theorem label_infix_message {failure : Failure} {note : Note} (h : note ∈ failure.notes) :
    note.label.toList <:+: failure.message.toList := by
  obtain ⟨before, after, hnotes⟩ := List.append_of_mem h
  have hmessage : failure.message = message ⟨failure.cause, before⟩ ++
      (note.text ++ String.join (after.map Note.text)) := by
    rw [← String.join_cons, ← List.map_cons, ← message_append, ← hnotes]
  rw [hmessage, String.toList_append, String.toList_append]
  exact (note.label_prefix_text.trans (List.prefix_append ..)).isInfix.trans
    (List.suffix_append ..).isInfix

/-- A note is added only when the failure has none of its kind. -/
theorem annotate_cases (failure : Failure) (note : Note) :
    failure.annotate note = failure ∨
      failure.annotate note = ⟨failure.cause, failure.notes ++ [note]⟩ ∧
        ∀ other ∈ failure.notes, other.label ≠ note.label := by
  rw [annotate]
  split
  · exact .inl rfl
  · next habsent =>
    refine .inr ⟨rfl, fun other hmem hlabel => habsent ?_⟩
    rw [← hlabel]
    exact occursIn_iff.mpr (label_infix_message hmem)

end Failure

/-! ### Errors and outcomes -/

/-- The second error is the first with notes that were added on its way out. -/
inductive Error.Noted : Error → Error → Prop where
  /-- A failed evaluation has got at most one note of each kind. -/
  | failure {cause : Cause} {notes added : List Note} : Note.AtMostOneEach added →
    Noted (.eval ⟨cause, notes⟩) (.eval ⟨cause, notes ++ added⟩)
  /-- Any other error is as it was raised. -/
  | other {error : Error} : (∀ failure, error ≠ .eval failure) → Noted error error

namespace Error.Noted

/-- An error as it was raised. -/
theorem refl (error : Error) : Noted error error := by
  cases error with
  | eval failure =>
    have hnone : Noted (.eval failure) (.eval ⟨failure.cause, failure.notes ++ []⟩) :=
      .failure .none
    rwa [List.append_nil] at hnone
  | _ => exact .other fun _ h => nomatch h

/-- One more note on the way out. -/
theorem annotate {plain noted : Error} (h : Noted plain noted) (note : Note) :
    Noted plain (noted.annotate note) := by
  cases h with
  | @failure cause notes added hadded =>
    rcases Failure.annotate_cases ⟨cause, notes ++ added⟩ note with hsame | ⟨hmore, hnew⟩
    · rw [Error.annotate, hsame]
      exact .failure hadded
    · rw [Error.annotate, hmore, List.append_assoc]
      refine .failure (hadded.concat fun other hmem => ?_)
      exact hnew other (List.mem_append_right _ hmem)
  | other hother =>
    cases plain with
    | eval failure => exact absurd rfl (hother failure)
    | _ => exact .other hother

end Error.Noted

/-- Outcomes that are the same but for notes on the error. -/
inductive SameButNotes {α : Type} : Except Error α × World → Except Error α × World → Prop where
  /-- The same value in the same world. -/
  | value (a : α) (after : World) : SameButNotes (.ok a, after) (.ok a, after)
  /-- The same error, noted or not, in the same world. -/
  | error {plain noted : Error} (after : World) : plain.Noted noted →
    SameButNotes (.error plain, after) (.error noted, after)

/-- An outcome and itself. -/
theorem SameButNotes.refl {α : Type} (outcome : Except Error α × World) :
    SameButNotes outcome outcome := by
  obtain ⟨result, after⟩ := outcome
  cases result with
  | ok a => exact .value a after
  | error error => exact .error after (.refl error)

/-! ### The silent interpreter and the one that notes -/

/-- Two evaluations that differ in what they do to errors. -/
inductive Voice where
  /-- The evaluation that leaves errors as they are raised. -/
  | silent
  /-- The evaluation that adds notes. -/
  | noting

/-- The interpreter of an evaluation. -/
def Voice.interpreter (host : Host) : Voice → Interpreter
  | .silent => .silent host
  | .noting => .standard host

/-- In every world both runs have the same outcome but for notes. -/
def Run.AgreesButNotes {α : Type} (run : Voice → Run α) : Prop :=
  ∀ world, SameButNotes ((run .silent).outcome world) ((run .noting).outcome world)

namespace Run.AgreesButNotes

variable {α β : Type}

/-- One run after another: what follows an error is never reached. -/
theorem bind {run : Voice → Run α} {next : Voice → α → Run β} {Mid : α → Prop}
    (hrun : AgreesButNotes run) (hmid : ∀ voice, (run voice).Returns Mid)
    (hnext : ∀ a, Mid a → AgreesButNotes fun voice => next voice a) :
    AgreesButNotes fun voice => run voice >>= next voice := by
  intro world
  have hfirst := hrun world
  have hreturned := hmid .silent world
  rw [outcome_bind, outcome_bind]
  generalize (run .silent).outcome world = plain at hfirst hreturned ⊢
  generalize (run .noting).outcome world = noted at hfirst ⊢
  cases hfirst with
  | value a after => exact hnext a (hreturned a rfl) after
  | error after hnoted => exact .error after hnoted

/-- Adding a note, which the silent interpreter does not. -/
theorem annotated {host : Host} {run : Voice → Run α} (hrun : AgreesButNotes run) (note : Note) :
    AgreesButNotes fun voice =>
      Run.mapError (fun error => (voice.interpreter host).annotate error note) (run voice) := by
  intro world
  have hfirst := hrun world
  rw [outcome_mapError, outcome_mapError]
  generalize (run .silent).outcome world = plain at hfirst ⊢
  generalize (run .noting).outcome world = noted at hfirst ⊢
  cases hfirst with
  | value a after => exact .value a after
  | error after hnoted => exact .error after (hnoted.annotate note)

end Run.AgreesButNotes

/-- The comparison of evaluations without and with notes. -/
def voiceComparison (host : Host) : RunComparison Voice where
  interpreter := Voice.interpreter host
  host := host
  host_eq voice := by cases voice <;> rfl
  Agree := Run.AgreesButNotes
  same run world := .refl (run.outcome world)
  bind := Run.AgreesButNotes.bind
  annotated note hrun := hrun.annotated note

/-- Notes on errors are erasable. An evaluation that adds notes and one that leaves errors as they
are raised leave the same world, with the same events and scopes, and return a value together, which
is the same. An error other than a failed evaluation is the same in both. A failed evaluation has
the same cause in both, and its message is the message without notes followed by at most one line
about a list and at most one line about a function, in either order. -/
theorem notes_are_erasable (host : Host) (depth : Nat) (expr : Value) (scope : ScopeId)
    (world : World) :
    (((Interpreter.standard host).evalAt depth expr scope).outcome world).2 =
      (((Interpreter.silent host).evalAt depth expr scope).outcome world).2 ∧
    (∀ value, (((Interpreter.standard host).evalAt depth expr scope).outcome world).1 = .ok value ↔
      (((Interpreter.silent host).evalAt depth expr scope).outcome world).1 = .ok value) ∧
    (∀ error, (∀ failure, error ≠ .eval failure) →
      (((Interpreter.silent host).evalAt depth expr scope).outcome world).1 = .error error →
      (((Interpreter.standard host).evalAt depth expr scope).outcome world).1 = .error error) ∧
    (∀ plain, (((Interpreter.silent host).evalAt depth expr scope).outcome world).1 =
        .error (.eval plain) →
      ∃ noted added, (((Interpreter.standard host).evalAt depth expr scope).outcome world).1 =
          .error (.eval noted) ∧
        noted.cause = plain.cause ∧ Note.AtMostOneEach added ∧
        noted.message = plain.message ++ String.join (added.map Note.text)) := by
  have hsame : SameButNotes (((Interpreter.silent host).evalAt depth expr scope).outcome world)
      (((Interpreter.standard host).evalAt depth expr scope).outcome world) :=
    (voiceComparison host).evalAt_agree depth expr scope world
  generalize ((Interpreter.silent host).evalAt depth expr scope).outcome world = plain at hsame ⊢
  generalize ((Interpreter.standard host).evalAt depth expr scope).outcome world = noted at hsame ⊢
  cases hsame with
  | value a after => exact ⟨rfl, fun _ => Iff.rfl, fun _ _ h => (nomatch h), fun _ h => nomatch h⟩
  | error after hnoted =>
    refine ⟨rfl, fun _ => ⟨fun h => (nomatch h), fun h => nomatch h⟩, ?_, ?_⟩
    · intro error hother herror
      obtain rfl := Except.error.inj herror
      cases hnoted with
      | failure => exact absurd rfl (hother _)
      | other => rfl
    · intro failure herror
      obtain rfl := Except.error.inj herror
      cases hnoted with
      | @failure cause notes added hadded =>
        exact ⟨_, added, rfl, rfl, hadded, Failure.message_append cause notes added⟩
      | other hother => exact absurd rfl (hother failure)

end ShapeLisp
