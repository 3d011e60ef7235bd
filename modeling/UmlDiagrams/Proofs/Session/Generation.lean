import UmlDiagrams.Proofs.Session.Output
/-!
# Generations at one go

A generation issues a ticket, asks the renderer and takes its answer before anything else can happen.
So its ticket cannot be stale, but it makes all older ones stale.
-/

namespace UmlDiagrams.Session

open Stateful

variable {s s' : Session} {log : List Event}

def Event.issued? : Event → Option Ticket
  | .issued ticket => some ticket
  | _ => none

/-- The tickets that were issued, the latest first. -/
def issuedTickets (log : List Event) : List Ticket :=
  log.filterMap Event.issued?

private theorem latest_of_run {start : Store} (run : Run start s log) :
    s.latest = (issuedTickets log).length := by
  induction run with
  | start => rfl
  | issue _ h ih =>
    rw [issue_run] at h
    cases h
    exact congrArg Nat.succ ih
  | @finish s _ ticket _ _ answer now ih =>
    rw [(finish_after (s := s) ticket answer now).2.1]
    exact ih
  | generate _ h render now ih =>
    rw [generate_after h, (finish_after _ _ _).2.1]
    rw [issue_run] at h
    cases h
    exact congrArg Nat.succ ih
  | setKind _ kind ih => exact ih
  | clear _ ih => exact ih
  | operate _ operation ih => exact ih

/-- A ticket that is not the latest one stays stale, whatever happens. -/
private theorem stale_of_later {start : Store} {later : List Event} (run : Run start s log)
    (run' : Run start s' (later ++ log)) {ticket : Ticket} (h : ticket.number < s.latest) :
    s'.isStale ticket = true := by
  have hlatest : s.latest ≤ s'.latest := by
    rw [latest_of_run run, latest_of_run run', issuedTickets, issuedTickets, List.filterMap_append,
      List.length_append]
    exact Nat.le_add_left _ _
  rw [← Bool.not_eq_false, isStale_eq_false]
  omega

/-- The answer to a new ticket is accepted unless it holds no picture. -/
private theorem generate_run_fresh (h : s.invalidated ≤ s.latest)
    (render : String → Except RenderFailure ByteArray) (now : Instant) :
    (generate render now).run s =
      match render s.store.source with
      | .error failure => .error (.render failure) { s with latest := s.latest + 1 }
      | .ok content =>
        if content.isEmpty then .error (.render .emptyResponse) { s with latest := s.latest + 1 }
        else
          .ok ⟨content, outputFileName s.store.kind now⟩
            { s with
              cached := some ⟨content, outputFileName s.store.kind now⟩
              cachedEpoch := s.store.epoch
              latest := s.latest + 1 } := by
  have hfresh : isStale { s with latest := s.latest + 1 } s.nextTicket = false :=
    isStale_eq_false.mpr ⟨rfl, Nat.lt_succ_of_le h, rfl⟩
  rw [generate_run s render now (issue_run s), finish_run, source_nextTicket, hfresh]
  rfl

theorem generate_fresh (h : s.invalidated ≤ s.latest)
    (render : String → Except RenderFailure ByteArray) (now : Instant) :
    (generate render now).outcome s = do
      let content ← (render s.store.source).mapError .render
      if content.isEmpty then throw (.render .emptyResponse)
      return ⟨content, outputFileName s.store.kind now⟩ := by
  rw [outcome, generate_run_fresh h]
  cases render s.store.source with
  | error failure => rfl
  | ok content =>
    dsimp only [bind, Except.bind, Except.mapError]
    by_cases hempty : content.isEmpty = true
    · rw [if_pos hempty, if_pos hempty]
      rfl
    · rw [if_neg hempty, if_neg hempty]
      rfl

/-- What comes of the answer to a ticket that was issued just before, from `s` to `s'`. -/
structure Answered (s : Session) (answer : Except RenderFailure ByteArray) (now : Instant)
    (outcome : Except GenerateError Rendered) (s' : Session) : Prop where
  store : s'.store = s.store
  accepted : (∃ rendered, outcome = .ok rendered) ↔
    ∃ content, answer = .ok content ∧ content.isEmpty = false
  shown : ∀ rendered, outcome = .ok rendered → answer = .ok rendered.content ∧
    s'.output = some rendered ∧ rendered.fileName = outputFileName s.store.kind now ∧
      s.store.kind.slug.toList <+: rendered.fileName.toList
  refused : ∀ error, outcome = .error error → s'.output = s.output ∧
    ∃ failure, error = .render failure ∧ (answer = .error failure ∨ failure = .emptyResponse ∧
      ∃ content, answer = .ok content ∧ content.isEmpty = true)

private theorem slug_prefix_outputFileName (kind : Kind) (now : Instant) :
    kind.slug.toList <+: (outputFileName kind now).toList := by
  rw [outputFileName, String.toList_append, String.toList_append, String.toList_append,
    List.append_assoc, List.append_assoc]
  exact List.prefix_append _ _

private theorem answered_refused {answer : Except RenderFailure ByteArray} {failure : RenderFailure}
    (hstore : s'.store = s.store) (houtput : s'.output = s.output)
    (hcause : answer = .error failure ∨
      failure = .emptyResponse ∧ ∃ content, answer = .ok content ∧ content.isEmpty = true)
    (now : Instant) : Answered s answer now (.error (.render failure)) s' where
  store := hstore
  accepted := by
    refine iff_of_false ?_ ?_
    · rintro ⟨_, ⟨⟩⟩
    · rintro ⟨content, hok, hfilled⟩
      rcases hcause with rfl | ⟨-, empty, rfl, hempty⟩
      · cases hok
      · cases hok
        rw [hempty] at hfilled
        cases hfilled
  shown rendered hok := by cases hok
  refused error herror := by
    cases herror
    exact ⟨houtput, failure, rfl, hcause⟩

private theorem generate_answered (h : s.invalidated ≤ s.latest)
    (render : String → Except RenderFailure ByteArray) (now : Instant) :
    Answered s (render s.store.source) now ((generate render now).outcome s)
      ((generate render now).after s) := by
  have hrun := generate_run_fresh h render now
  cases hanswer : render s.store.source with
  | error failure =>
    rw [hanswer] at hrun
    rw [outcome, after, hrun]
    refine answered_refused ?_ ?_ (.inl rfl) now
    · rfl
    · rfl
  | ok content =>
    rw [hanswer] at hrun
    dsimp only at hrun
    by_cases hempty : content.isEmpty = true
    · rw [if_pos hempty] at hrun
      rw [outcome, after, hrun]
      refine answered_refused ?_ ?_ (.inr ⟨rfl, content, rfl, hempty⟩) now
      · rfl
      · rfl
    · rw [if_neg hempty] at hrun
      rw [outcome, after, hrun]
      refine ⟨rfl, iff_of_true ⟨_, rfl⟩ ⟨content, rfl, Bool.eq_false_iff.mpr hempty⟩,
        fun rendered hok => ?_, fun error herror => ?_⟩
      · cases hok
        exact ⟨rfl, if_pos rfl, rfl, slug_prefix_outputFileName _ now⟩
      · cases herror

/-- A renderer that may change with each question, as one that writes down what it is asked. -/
abbrev Gateway (ρ : Type) := String → StateM ρ (Except RenderFailure ByteArray)

section

variable {ρ α : Type}

def beside (x : Stateful GenerateError Session α) : Stateful GenerateError (Session × ρ) α :=
  within Prod.fst (fun p s => (s, p.2)) x

def ask (gateway : Gateway ρ) (source : String) :
    Stateful GenerateError (Session × ρ) (Except RenderFailure ByteArray) :=
  modifyGet fun p => ((gateway source p.2).1, (p.1, (gateway source p.2).2))

private theorem ask_run (gateway : Gateway ρ) (source : String) (p : Session × ρ) :
    (ask gateway source).run p =
      .ok (gateway source p.2).1 (p.1, (gateway source p.2).2) :=
  rfl

def generateWith (gateway : Gateway ρ) (now : Instant) :
    Stateful GenerateError (Session × ρ) Rendered := do
  let ticket ← beside issue
  let answer ← ask gateway ticket.source
  beside (finish ticket answer now)

/-- The renderer is asked once, for a picture of the source, and is otherwise left alone. -/
private theorem generateWith_run (gateway : Gateway ρ) (now : Instant) (s : Session) (r : ρ) :
    (generateWith gateway now).run (s, r) =
      match (generate (fun source => (gateway source r).1) now).run s with
      | .ok rendered s' => .ok rendered (s', (gateway s.store.source r).2)
      | .error error s' => .error error (s', (gateway s.store.source r).2) := by
  have hasked : (generateWith gateway now).run (s, r) =
      (beside (finish s.nextTicket (gateway s.store.source r).1 now)).run
        ({ s with latest := s.latest + 1 }, (gateway s.store.source r).2) := by
    rw [generateWith, EStateM.run_bind, beside, run_within, issue_run]
    dsimp only
    rw [EStateM.run_bind, ask_run, source_nextTicket]
  rw [hasked, beside, run_within, generate_run s _ now (issue_run s), source_nextTicket]
  cases (finish s.nextTicket (gateway s.store.source r).1 now).run
    { s with latest := s.latest + 1 } <;> rfl

/-- A generation asks the renderer once, for a picture of the source, and is settled by the answer:
its own ticket is never stale. All tickets from before are stale from then on. -/
theorem generation_settled {start : Store} (run : Run start s log) (gateway : Gateway ρ)
    (now : Instant) (r : ρ) :
    let render := fun source => (gateway source r).1
    let outcome := (generate render now).outcome s
    let after := (generate render now).after s
    let log' := .answered s.nextTicket (render s.store.source) now outcome ::
      .issued s.nextTicket :: log
    (generateWith gateway now).outcome (s, r) = outcome ∧
      (generateWith gateway now).after (s, r) = (after, (gateway s.store.source r).2) ∧
      Answered s (render s.store.source) now outcome after ∧ Run start after log' ∧
      ∀ ticket, .issued ticket ∈ log → ∀ later s', Run start s' (later ++ log') →
        s'.isStale ticket = true := by
  intro render outcome after log'
  have htickets := tickets_of_run run
  have hgenerated : Run start after log' := by
    have hrun := run.generate (issue_run s) render now
    rw [source_nextTicket] at hrun
    exact hrun
  refine ⟨?_, ?_, generate_answered htickets.invalidated render now, hgenerated,
    fun ticket hissued later s' run' => stale_of_later hgenerated run' ?_⟩
  · rw [Stateful.outcome, generateWith_run]
    dsimp only [outcome, Stateful.outcome]
    cases (generate render now).run s <;> rfl
  · rw [Stateful.after, generateWith_run]
    dsimp only [after, Stateful.after]
    cases (generate render now).run s <;> rfl
  · dsimp only [after]
    rw [generate_after (issue_run s), (finish_after _ _ _).2.1]
    exact Nat.lt_succ_of_le (htickets.issued ticket hissued).1

/-- A renderer that notes what it is asked, after a ticket was issued and the kind was switched. -/
theorem generation_settled_noted :
    let gateway : Gateway (List String) := fun source asked => (.ok ⟨#[60]⟩, asked ++ [source])
    let s := setKind { latest := 1 } .state
    let after := (generateWith gateway ⟨0, 0⟩).after (s, [])
    after.2 = [s.store.source] ∧ (after.1.output.map (·.content)) = some ⟨#[60]⟩ ∧
      after.1.isStale (nextTicket {}) = true := by
  intro gateway s after
  have run : Run {} s [.setKind .state, .issued (nextTicket {})] :=
    (Run.issue .start (issue_run _)).setKind .state
  obtain ⟨-, hafter, hanswered, hgenerated, hstale⟩ := generation_settled run gateway ⟨0, 0⟩ []
  have hold := hstale (nextTicket {}) (List.mem_cons_of_mem _ List.mem_cons_self) [] _ hgenerated
  obtain ⟨rendered, hok⟩ := hanswered.accepted.mpr ⟨⟨#[60]⟩, rfl, rfl⟩
  obtain ⟨hcontent, hshown, -⟩ := hanswered.shown rendered hok
  have hpair : after = _ := hafter
  rw [hpair]
  dsimp only
  refine ⟨List.nil_append _, ?_, hold⟩
  rw [hshown, Option.map_some, ← Except.ok.inj hcontent]

end

end UmlDiagrams.Session
