import UmlDiagrams.Proofs.Session.Run
/-!
# The fate of a ticket

A ticket is stale by three counters: the number of the latest ticket, the number up to which tickets
were invalidated, and the epoch of the store. Together they say what the log says: no other ticket was
issued since, and nothing outdated it.
-/

namespace UmlDiagrams.Session

open Stateful

/-- The ticket is the latest, and nothing has outdated it. -/
def Fresh (ticket : Ticket) (log : List Event) : Prop :=
  Since (fun e => e.Issues ∨ e.Outdates) (.issued ticket) log

theorem isStale_eq_false {s : Session} {ticket : Ticket} :
    s.isStale ticket = false ↔
      ticket.number = s.latest ∧ s.invalidated < ticket.number ∧
        ticket.epoch = s.store.epoch := by
  simp [isStale, and_assoc]

private theorem Event.not_issues_of_outdates {e : Event} (h : e.Outdates) : ¬ e.Issues := by
  cases e with
  | issued ticket => exact h.elim
  | _ => exact not_false

private theorem mem_of_not_issues {e : Event} (he : ¬ e.Issues) {ticket : Ticket} {log : List Event}
    (h : .issued ticket ∈ e :: log) : .issued ticket ∈ log := by
  rcases List.mem_cons.mp h with rfl | h
  · exact absurd trivial he
  · exact h

/-- The counters agree with the log. -/
structure Tickets (s : Session) (log : List Event) : Prop where
  invalidated : s.invalidated ≤ s.latest
  issued : ∀ t, .issued t ∈ log → t.number ≤ s.latest ∧ t.epoch ≤ s.store.epoch
  kind : ∀ t, .issued t ∈ log → t.epoch = s.store.epoch → t.kind = s.store.kind
  fresh : ∀ t, .issued t ∈ log → (s.isStale t = false ↔ Fresh t log)

variable {s s' : Session} {log : List Event} {e : Event}

private theorem tickets_start (start : Store) : Tickets { store := start } [] where
  invalidated := Nat.le_refl 0
  issued _ h := by cases h
  kind _ h := by cases h
  fresh _ h := by cases h

private theorem Tickets.outdated (h : Tickets s log) (he : e.Outdates)
    (hlatest : s'.latest = s.latest) (hinvalidated : s'.invalidated ≤ s.latest)
    (hstore : s.store.Follows s'.store) (hstale : ∀ t, .issued t ∈ log → s'.isStale t = true) :
    Tickets s' (e :: log) := by
  have hmem : ∀ t, .issued t ∈ e :: log → .issued t ∈ log := fun t =>
    mem_of_not_issues (Event.not_issues_of_outdates he)
  refine ⟨?_, fun t ht => ?_, fun t ht hepoch => ?_, fun t ht => ?_⟩
  · rw [hlatest]
    exact hinvalidated
  · rw [hlatest]
    have hold := h.issued t (hmem t ht)
    exact ⟨hold.1, hold.2.trans hstore.epoch_le⟩
  · rcases hstore with ⟨hkind, hsame⟩ | hlt
    · rw [hkind]
      exact h.kind t (hmem t ht) (hepoch.trans hsame)
    · have hle := (h.issued t (hmem t ht)).2
      omega
  · constructor
    · intro hfalse
      rw [hstale t (hmem t ht)] at hfalse
      cases hfalse
    · intro hfresh
      rcases since_cons.mp hfresh with rfl | ⟨hnot, -⟩
      · exact he.elim
      · exact absurd (.inr he) hnot

private theorem Tickets.kept (h : Tickets s log) (hissues : ¬ e.Issues) (houtdates : ¬ e.Outdates)
    (hlatest : s'.latest = s.latest) (hinvalidated : s'.invalidated = s.invalidated)
    (hkind : s'.store.kind = s.store.kind) (hepoch : s'.store.epoch = s.store.epoch) :
    Tickets s' (e :: log) := by
  refine ⟨?_, fun t ht => ?_, fun t ht heq => ?_, fun t ht => ?_⟩
  · rw [hinvalidated, hlatest]
    exact h.invalidated
  · rw [hlatest, hepoch]
    exact h.issued t (mem_of_not_issues hissues ht)
  · rw [hkind]
    exact h.kind t (mem_of_not_issues hissues ht) (heq.trans hepoch)
  · have hstale : s'.isStale t = s.isStale t := by
      rw [isStale, isStale, hlatest, hinvalidated, hepoch]
    rw [hstale, h.fresh t (mem_of_not_issues hissues ht), Fresh, Fresh, since_cons]
    constructor
    · exact fun hfresh => .inr ⟨not_or.mpr ⟨hissues, houtdates⟩, hfresh⟩
    · intro hsince
      rcases hsince with rfl | ⟨-, hfresh⟩
      · exact absurd trivial hissues
      · exact hfresh

theorem Tickets.issue {ticket : Ticket} (h : Tickets s log)
    (hissue : Session.issue.run s = .ok ticket s') : Tickets s' (.issued ticket :: log) := by
  rw [issue_run] at hissue
  cases hissue
  refine ⟨h.invalidated.trans (Nat.le_succ _), fun t ht => ?_, fun t ht hepoch => ?_,
    fun t ht => ?_⟩
  · rcases List.mem_cons.mp ht with ht | ht
    · cases ht
      exact ⟨Nat.le_refl _, Nat.le_refl _⟩
    · exact ⟨(h.issued t ht).1.trans (Nat.le_succ _), (h.issued t ht).2⟩
  · rcases List.mem_cons.mp ht with ht | ht
    · cases ht
      rfl
    · exact h.kind t ht hepoch
  · rw [isStale_eq_false, Fresh, since_cons]
    by_cases hnew : t = s.nextTicket
    · subst hnew
      exact ⟨fun _ => .inl rfl, fun _ => ⟨rfl, Nat.lt_succ_of_le h.invalidated, rfl⟩⟩
    · -- an older ticket: it has a smaller number, and the new one was issued after it
      have hold : .issued t ∈ log := by
        rcases List.mem_cons.mp ht with ht | ht
        · exact absurd (Event.issued.inj ht) hnew
        · exact ht
      have hle := (h.issued t hold).1
      constructor
      · intro hcounters
        obtain ⟨hnumber, -⟩ := hcounters
        simp only at hnumber
        omega
      · intro hsince
        rcases hsince with hnow | ⟨hnot, -⟩
        · exact absurd (Event.issued.inj hnow).symm hnew
        · exact absurd (.inl trivial) hnot

/-- An answer changes nothing but the cached picture. -/
theorem finish_after (ticket : Ticket) (answer : Except RenderFailure ByteArray) (now : Instant) :
    ((finish ticket answer now).after s).store = s.store ∧
      ((finish ticket answer now).after s).latest = s.latest ∧
      ((finish ticket answer now).after s).invalidated = s.invalidated := by
  rcases finish_cases s ticket answer now with ⟨_, -, hafter⟩ | ⟨_, -, -, -, hafter⟩
  · rw [hafter]
    exact ⟨rfl, rfl, rfl⟩
  · rw [hafter]
    exact ⟨rfl, rfl, rfl⟩

private theorem Tickets.finish (h : Tickets s log) (ticket : Ticket)
    (answer : Except RenderFailure ByteArray) (now : Instant)
    (outcome : Except GenerateError Rendered) :
    Tickets ((Session.finish ticket answer now).after s)
      (.answered ticket answer now outcome :: log) := by
  obtain ⟨hstore, hlatest, hinvalidated⟩ := finish_after (s := s) ticket answer now
  exact h.kept not_false not_false hlatest hinvalidated (by rw [hstore]) (by rw [hstore])

private theorem Tickets.reset (h : Tickets s log) (he : e.Outdates) {store : Store}
    (hstore : s.store.Follows store) : Tickets (reset { s with store }) (e :: log) := by
  refine h.outdated he rfl (Nat.le_refl _) hstore fun t ht => ?_
  have hle := (h.issued t ht).1
  simp [isStale, Session.reset, hle]

private theorem Tickets.operate (h : Tickets s log) (operation : Operation) :
    Tickets { s with store := s.store.step operation }
      (.operated operation s.store.kind :: log) := by
  by_cases ho : operation.Outdates s.store.kind
  · refine h.outdated ho rfl h.invalidated (Store.step_follows operation) fun t ht => ?_
    have hle := (h.issued t ht).2
    have hepoch := Store.step_epoch_of_outdates ho
    have hne : t.epoch ≠ (s.store.step operation).epoch := by omega
    simp [isStale, hne]
  · obtain ⟨hkind, hepoch⟩ := Store.step_of_not_outdates ho
    exact h.kept not_false ho rfl rfl hkind hepoch

theorem generate_after {ticket : Ticket} (hissue : issue.run s = .ok ticket s')
    (render : String → Except RenderFailure ByteArray) (now : Instant) :
    (generate render now).after s = (finish ticket (render ticket.source) now).after s' := by
  rw [after, after, generate_run s render now hissue]

theorem tickets_of_run {start : Store} (run : Run start s log) : Tickets s log := by
  induction run with
  | start => exact tickets_start start
  | issue _ h ih => exact ih.issue h
  | finish _ _ answer now ih => exact ih.finish _ answer now _
  | generate _ h render now ih =>
    rw [generate_after h]
    exact (ih.issue h).finish _ _ now _
  | setKind _ kind ih =>
    refine ih.reset ?_ (Store.setKind_follows kind)
    exact trivial
  | clear _ ih =>
    refine ih.reset ?_ Store.clear_follows
    exact trivial
  | operate _ operation ih => exact ih.operate operation

/-- An answer is accepted if it holds a picture and the ticket is fresh by the log of the run, and is
refused otherwise for the first reason there is. A refusal changes nothing. -/
theorem finish_by_history {start : Store} (run : Run start s log) {ticket : Ticket}
    (hissued : .issued ticket ∈ log) (answer : Except RenderFailure ByteArray) (now : Instant) :
    ((∃ rendered, (finish ticket answer now).outcome s = .ok rendered) ↔
      (∃ content, answer = .ok content ∧ content.isEmpty = false) ∧ Fresh ticket log) ∧
    (∀ failure, answer = .error failure →
      (finish ticket answer now).outcome s = .error (.render failure)) ∧
    (∀ content, answer = .ok content → content.isEmpty = true →
      (finish ticket answer now).outcome s = .error (.render .emptyResponse)) ∧
    (∀ content, answer = .ok content → content.isEmpty = false → ¬ Fresh ticket log →
      (finish ticket answer now).outcome s = .error (.stale ticket.number)) ∧
    ∀ error, (finish ticket answer now).outcome s = .error error →
      (finish ticket answer now).after s = s := by
  have hfresh := (tickets_of_run run).fresh ticket hissued
  refine ⟨?_, ?_, ?_, ?_, ?_⟩
  · rw [outcome, finish_run]
    cases answer with
    | error failure => simp
    | ok content =>
      rw [← hfresh]
      by_cases hempty : content.isEmpty
      · simp [hempty]
      · by_cases hstale : s.isStale ticket <;> simp [hempty, hstale]
  · intro failure hanswer
    subst hanswer
    rw [outcome, finish_run]
  · intro content hanswer hempty
    subst hanswer
    simp [outcome, finish_run, hempty]
  · intro content hanswer hempty hnot
    subst hanswer
    rw [← hfresh, Bool.not_eq_false] at hnot
    simp [outcome, finish_run, hempty, hnot]
  · intro error herror
    rcases finish_cases s ticket answer now with ⟨_, -, hafter⟩ | ⟨_, -, -, houtcome, -⟩
    · exact hafter
    · rw [houtcome] at herror
      cases herror

/-- Three tickets, with a switch of kind on the store after the first: the answer to the last one is
accepted, and the others are refused. After a switch back on the store it is refused as well. -/
theorem finish_superseded_ticket :
    let switched : Store := Store.step {} (.edit (.setKind .classes))
    let oldest := nextTicket {}
    let older := nextTicket { store := switched, latest := 1 }
    let newest := nextTicket { store := switched, latest := 2 }
    let s : Session := { store := switched, latest := 3 }
    let log : List Event :=
      [.issued newest, .issued older, .operated (.edit (.setKind .classes)) .sequence,
        .issued oldest]
    let back : Session := { s with store := switched.step (.edit (.setKind .sequence)) }
    let picture : Except RenderFailure ByteArray := .ok ⟨#[60]⟩
    Run {} s log ∧ (∃ rendered, (finish newest picture ⟨0, 0⟩).outcome s = .ok rendered) ∧
      (finish older picture ⟨0, 0⟩).outcome s = .error (.stale 2) ∧
      (finish oldest picture ⟨0, 0⟩).outcome s = .error (.stale 1) ∧
      (finish oldest picture ⟨0, 0⟩).after s = s ∧
      (finish newest picture ⟨0, 0⟩).outcome back = .error (.stale 3) := by
  intro switched oldest older newest s log back picture
  have run : Run {} s log :=
    (Run.start.issued.operate (.edit (.setKind .classes))).issued.issued
  have runBack : Run {} back (.operated (.edit (.setKind .sequence)) .classes :: log) :=
    run.operate (.edit (.setKind .sequence))
  have holdest : .issued oldest ∈ log := by simp [log]
  have holder : .issued older ∈ log := by simp [log]
  have hnewest : .issued newest ∈ log := by simp [log]
  have hfresh : Fresh newest log := since_cons.mpr (.inl rfl)
  have hsuperseded (ticket : Ticket) (h : ticket ≠ newest) : ¬ Fresh ticket log := by
    rw [Fresh, since_cons]
    simp [Event.Issues, h.symm]
  have hswitched : ¬ Fresh newest (.operated (.edit (.setKind .sequence)) .classes :: log) := by
    rw [Fresh, since_cons]
    simp [Event.Outdates, Operation.Outdates]
  have hrefused := (finish_by_history run holdest picture ⟨0, 0⟩).2.2.2.1 _ rfl rfl
    (hsuperseded oldest (by decide))
  refine ⟨run, ?_, ?_, hrefused, ?_, ?_⟩
  · exact (finish_by_history run hnewest picture ⟨0, 0⟩).1.mpr ⟨⟨_, rfl, rfl⟩, hfresh⟩
  · exact (finish_by_history run holder picture ⟨0, 0⟩).2.2.2.1 _ rfl rfl
      (hsuperseded older (by decide))
  · exact (finish_by_history run holdest picture ⟨0, 0⟩).2.2.2.2 _ hrefused
  · exact (finish_by_history runBack (List.mem_cons_of_mem _ hnewest) picture ⟨0, 0⟩).2.2.2.1 _ rfl
      rfl hswitched

end UmlDiagrams.Session
