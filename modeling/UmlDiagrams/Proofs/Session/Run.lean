import UmlDiagrams.Proofs.Stateful
import UmlDiagrams.Proofs.Store.Epoch
import UmlDiagrams.Proofs.Text.Trim
import UmlDiagrams.Session
/-!
# Runs of a session

A run issues tickets, takes answers to tickets that were issued, in any order and any number of
times, and works on the store in between. Its log holds what happened, the latest event first.
-/

namespace UmlDiagrams

open Stateful

/-- The source is never blank: it begins with the frame. -/
private theorem Store.source_not_blank (s : Store) : Text.trim s.source ≠ "" := by
  obtain ⟨rest, hsource⟩ : ∃ rest, s.source.toList = '@' :: rest := by
    simp [Store.source, Store.sourceLines, Style.header]
  intro h
  have hnil := congrArg String.toList h
  rw [Text.toList_trim, hsource] at hnil
  exact Text.trimChars_cons_ne_nil (by decide) rest hnil

namespace Session

def nextTicket (s : Session) : Ticket :=
  ⟨s.latest + 1, s.store.kind, s.store.epoch, s.store.source⟩

variable (s : Session)

theorem source_nextTicket : s.nextTicket.source = s.store.source := by
  rw [nextTicket]

theorem issue_run : issue.run s = .ok s.nextTicket { s with latest := s.latest + 1 } := by
  have hsource := s.store.source_not_blank
  simp [issue, nextTicket, hsource]

theorem finish_run (ticket : Ticket) (answer : Except RenderFailure ByteArray) (now : Instant) :
    (finish ticket answer now).run s =
      match answer with
      | .error failure => .error (.render failure) s
      | .ok content =>
        if content.isEmpty then .error (.render .emptyResponse) s
        else if s.isStale ticket then .error (.stale ticket.number) s
        else
          .ok ⟨content, outputFileName ticket.kind now⟩
            { s with
              cached := some ⟨content, outputFileName ticket.kind now⟩
              cachedEpoch := ticket.epoch } := by
  cases answer with
  | error failure => simp [finish, Except.mapError]
  | ok content =>
    by_cases hempty : content.isEmpty
    · simp [finish, Except.mapError, hempty]
    · by_cases hstale : s.isStale ticket <;> simp [finish, Except.mapError, hempty, hstale]

/-- An answer is refused without a change, or it becomes the cached picture. -/
theorem finish_cases (ticket : Ticket) (answer : Except RenderFailure ByteArray) (now : Instant) :
    (∃ error, (finish ticket answer now).outcome s = .error error ∧
      (finish ticket answer now).after s = s) ∨
    ∃ content, answer = .ok content ∧ s.isStale ticket = false ∧
      (finish ticket answer now).outcome s =
        .ok ⟨content, outputFileName ticket.kind now⟩ ∧
      (finish ticket answer now).after s =
        { s with
          cached := some ⟨content, outputFileName ticket.kind now⟩
          cachedEpoch := ticket.epoch } := by
  rw [outcome, after, finish_run]
  cases answer with
  | error failure => exact .inl ⟨_, rfl, rfl⟩
  | ok content =>
    by_cases hempty : content.isEmpty
    · exact .inl ⟨.render .emptyResponse, by simp [hempty], by simp [hempty]⟩
    · by_cases hstale : s.isStale ticket
      · exact .inl ⟨.stale ticket.number, by simp [hempty, hstale], by simp [hempty, hstale]⟩
      · refine .inr ⟨content, rfl, Bool.eq_false_iff.mpr hstale, ?_, ?_⟩
        · simp [hempty, hstale]
        · simp [hempty, hstale]

theorem generate_run (render : String → Except RenderFailure ByteArray) (now : Instant)
    {ticket : Ticket} {s' : Session} (h : issue.run s = .ok ticket s') :
    (generate render now).run s = (finish ticket (render ticket.source) now).run s' := by
  rw [generate, EStateM.run_bind, h]

inductive Event where
  | issued (ticket : Ticket)
  | answered (ticket : Ticket) (answer : Except RenderFailure ByteArray) (now : Instant)
      (outcome : Except GenerateError Rendered)
  | setKind (kind : Kind)
  | cleared
  /-- An operation on the store while a kind was `active`. -/
  | operated (operation : Operation) (active : Kind)

namespace Event

def Issues : Event → Prop
  | .issued _ => True
  | _ => False

/-- An answer was accepted. -/
def Accepts : Event → Prop
  | .answered _ _ _ (.ok _) => True
  | _ => False

/-- Tickets and pictures from before no longer count. A call of the session outdates them even if it
sets the kind that is active already. -/
def Outdates : Event → Prop
  | .setKind _ => True
  | .cleared => True
  | .operated operation active => operation.Outdates active
  | _ => False

end Event

/-- The session and the log of a run that began with the store `start`. -/
inductive Run (start : Store) : Session → List Event → Prop where
  | start : Run start { store := start } []
  | issue {s s' log ticket} (run : Run start s log) (h : issue.run s = .ok ticket s') :
    Run start s' (.issued ticket :: log)
  | finish {s log ticket} (run : Run start s log) (h : .issued ticket ∈ log)
      (answer : Except RenderFailure ByteArray) (now : Instant) :
    Run start ((finish ticket answer now).after s)
      (.answered ticket answer now ((finish ticket answer now).outcome s) :: log)
  | generate {s s' log ticket} (run : Run start s log) (h : issue.run s = .ok ticket s')
      (render : String → Except RenderFailure ByteArray) (now : Instant) :
    Run start ((generate render now).after s)
      (.answered ticket (render ticket.source) now ((generate render now).outcome s) ::
        .issued ticket :: log)
  | setKind {s log} (run : Run start s log) (kind : Kind) :
    Run start (s.setKind kind) (.setKind kind :: log)
  | clear {s log} (run : Run start s log) : Run start s.clear (.cleared :: log)
  | operate {s log} (run : Run start s log) (operation : Operation) :
    Run start { s with store := s.store.step operation }
      (.operated operation s.store.kind :: log)

namespace Run

variable {start : Store} {s : Session} {log : List Event} {ticket : Ticket} {content : ByteArray}

theorem issued (run : Run start s log) :
    Run start { s with latest := s.latest + 1 } (.issued s.nextTicket :: log) :=
  run.issue s.issue_run

theorem accepted (run : Run start s log) (h : .issued ticket ∈ log)
    (hcontent : content.isEmpty = false) (hfresh : s.isStale ticket = false) (now : Instant) :
    Run start
      { s with
        cached := some ⟨content, outputFileName ticket.kind now⟩
        cachedEpoch := ticket.epoch }
      (.answered ticket (.ok content) now (.ok ⟨content, outputFileName ticket.kind now⟩) ::
        log) := by
  have hrun := run.finish h (.ok content) now
  simpa [outcome, after, finish_run, hcontent, hfresh] using hrun

theorem refused (run : Run start s log) (h : .issued ticket ∈ log)
    (hcontent : content.isEmpty = false) (hstale : s.isStale ticket = true) (now : Instant) :
    Run start s (.answered ticket (.ok content) now (.error (.stale ticket.number)) :: log) := by
  have hrun := run.finish h (.ok content) now
  simpa [outcome, after, finish_run, hcontent, hstale] using hrun

end Run

/-- `event` happened, and nothing that `Ends` it has happened since. -/
def Since (Ends : Event → Prop) (event : Event) (log : List Event) : Prop :=
  ∃ later earlier, log = later ++ event :: earlier ∧ ∀ e ∈ later, ¬ Ends e

theorem since_cons {Ends : Event → Prop} {event e : Event} {log : List Event} :
    Since Ends event (e :: log) ↔ e = event ∨ (¬ Ends e ∧ Since Ends event log) := by
  constructor
  · intro hsince
    obtain ⟨later, earlier, hlog, hlater⟩ := hsince
    cases later with
    | nil =>
      rw [List.nil_append] at hlog
      exact .inl (List.cons.inj hlog).1
    | cons x later =>
      obtain ⟨rfl, rfl⟩ := List.cons.inj hlog
      exact .inr ⟨hlater e List.mem_cons_self, later, earlier, rfl, fun y hy =>
        hlater y (List.mem_cons_of_mem _ hy)⟩
  · intro hcases
    rcases hcases with rfl | ⟨he, later, earlier, rfl, hlater⟩
    · exact ⟨[], log, rfl, fun _ h => by cases h⟩
    · refine ⟨e :: later, earlier, rfl, fun y hy => ?_⟩
      rcases List.mem_cons.mp hy with rfl | hy
      · exact he
      · exact hlater y hy

end Session

end UmlDiagrams
