import Lexing.Scan.Run

/-!
# The parts of a reaction

What the building blocks of a reaction do to the state, to the reports and to the
symbols that are fed again.  With these equations no later proof has to look into
the building blocks.
-/

namespace Lexing

variable {ρ : Type} (state : ScanState ρ) (reaction : Reaction ρ)

namespace Reaction

@[simp] theorem notify_state (report : Report) : (reaction.notify report).state = reaction.state :=
  rfl
@[simp] theorem notify_next (report : Report) : (reaction.notify report).next = reaction.next :=
  rfl
@[simp] theorem notify_reports (report : Report) :
    (reaction.notify report).reports = report :: reaction.reports :=
  rfl

@[simp] theorem feed_state (symbols : List Fed) : (reaction.feed symbols).state = reaction.state :=
  rfl
@[simp] theorem feed_reports (symbols : List Fed) :
    (reaction.feed symbols).reports = reaction.reports :=
  rfl
@[simp] theorem feed_next (symbols : List Fed) :
    (reaction.feed symbols).next = reaction.next ++ symbols :=
  rfl

end Reaction

namespace ScanState

@[simp] theorem become_mode (mode : Mode) : (state.become mode).state.mode = mode := rfl
@[simp] theorem become_tokenStart (mode : Mode) :
    (state.become mode).state.tokenStart = state.tokenStart :=
  rfl
@[simp] theorem become_ownClasses (mode : Mode) :
    (state.become mode).state.ownClasses = state.ownClasses :=
  rfl
@[simp] theorem become_reader? (mode : Mode) (number : Nat) :
    (state.become mode).state.reader? number = state.reader? number :=
  rfl
@[simp] theorem become_reports (mode : Mode) : (state.become mode).reports = [] := rfl
@[simp] theorem become_next (mode : Mode) : (state.become mode).next = [] := rfl

@[simp] theorem enter_mode (mode : Mode) : (state.enter mode).mode = mode := rfl
@[simp] theorem enter_tokenStart (mode : Mode) :
    (state.enter mode).tokenStart = state.tokenStart :=
  rfl
@[simp] theorem enter_ownClasses (mode : Mode) :
    (state.enter mode).ownClasses = state.ownClasses :=
  rfl
@[simp] theorem enter_reader? (mode : Mode) (number : Nat) :
    (state.enter mode).reader? number = state.reader? number :=
  rfl

section Tokens

variable (kind : Kind) (span : Span) (stop : Nat) (payload : Payload) (complaint : Option String)
  (value : Numeral)

@[simp] theorem emit_mode : (state.emit kind span payload).state.mode = state.mode := rfl
@[simp] theorem emit_tokenStart :
    (state.emit kind span payload).state.tokenStart = state.tokenStart :=
  rfl
@[simp] theorem emit_ownClasses :
    (state.emit kind span payload).state.ownClasses = state.ownClasses :=
  rfl
@[simp] theorem emit_next : (state.emit kind span payload).next = [] := rfl

@[simp] theorem finish_mode : (state.finish kind stop payload).state.mode = .idle := rfl
@[simp] theorem finish_ownClasses :
    (state.finish kind stop payload).state.ownClasses = state.ownClasses :=
  rfl
@[simp] theorem finish_next : (state.finish kind stop payload).next = [] := rfl

@[simp] theorem finishNumber_mode : (state.finishNumber value stop).state.mode = .idle := rfl
@[simp] theorem finishNumber_ownClasses :
    (state.finishNumber value stop).state.ownClasses = state.ownClasses :=
  rfl
@[simp] theorem finishNumber_next : (state.finishNumber value stop).next = [] := rfl

@[simp] theorem reject_mode : (state.reject span complaint).state.mode = .idle := rfl
@[simp] theorem reject_ownClasses :
    (state.reject span complaint).state.ownClasses = state.ownClasses :=
  rfl
@[simp] theorem reject_next : (state.reject span complaint).next = [] := rfl

end Tokens

@[simp] theorem keepReader_mode (number : Nat) (reader : ρ) :
    (state.keepReader number reader).mode = state.mode :=
  rfl
@[simp] theorem keepReader_tokenStart (number : Nat) (reader : ρ) :
    (state.keepReader number reader).tokenStart = state.tokenStart :=
  rfl
@[simp] theorem keepReader_ownClasses (number : Nat) (reader : ρ) :
    (state.keepReader number reader).ownClasses = state.ownClasses :=
  rfl

theorem lookup_filter_ne {number other : Nat} (different : other ≠ number)
    (readers : List (Nat × ρ)) :
    (readers.filter fun entry => entry.1 ≠ number).lookup other = readers.lookup other := by
  induction readers with
  | nil => rfl
  | cons entry rest ih =>
      obtain ⟨first, reader⟩ := entry
      by_cases same : first = number
      · have missed : (other == first) = false := by simpa [same] using different
        rw [List.filter_cons_of_neg (by simpa using same), List.lookup_cons, missed, ih]
      · rw [List.filter_cons_of_pos (by simpa using same), List.lookup_cons, List.lookup_cons, ih]

/-- Keeping a reader leaves the other ones alone. -/
theorem reader?_keepReader_ne {number other : Nat} (reader : ρ) (different : other ≠ number) :
    (state.keepReader number reader).reader? other = state.reader? other := by
  have missed : (other == number) = false := by simpa using different
  rw [reader?, keepReader, List.lookup_cons, missed]
  exact lookup_filter_ne different state.readers

end ScanState

theorem Report.event_eq_token {report : Report} {token : Token} :
    report.event = .token token ↔ report = .token token := by
  cases report <;> simp [event]

theorem Report.event_eq_unknownOperator {report : Report} {span : Span} :
    report.event = .unknownOperator span ↔ report = .unknownOperator span := by
  cases report <;> simp [event]

theorem Event.token?_eq_some {event : Event} {token : Token} :
    event.token? = some token ↔ event = .token token := by
  cases event <;> simp [token?]

/-- A point that does not start a number. -/
def Fed.exemptPoint (dot : Nat) : Fed :=
  { symbol := '.', offset := dot, exempt := { dotNumber := true } }

/-- Some symbols have a first and a last one. -/
theorem Located.spanOf?_cons (first : Located) (rest : List Located) :
    Located.spanOf? (first :: rest) =
      some ⟨first.offset, (rest.getLast?.getD first).stop⟩ := by
  simp [Located.spanOf?, List.getLast?_cons]

end Lexing
