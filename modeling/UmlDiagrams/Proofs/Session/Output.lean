import UmlDiagrams.Proofs.Session.Tickets
/-!
# The picture that is shown

A switch of kind on the store itself does not drop the cached picture, but hides it behind an epoch
that no longer is the store's. What a session shows is therefore always the answer accepted last, and
only while nothing has outdated it.
-/

namespace UmlDiagrams.Session

open Stateful

/-- This answer was accepted, none was accepted after it, and nothing has outdated it. -/
def Shows (ticket : Ticket) (content : ByteArray) (now : Instant) (rendered : Rendered)
    (log : List Event) : Prop :=
  Since (fun e => e.Accepts ∨ e.Outdates) (.answered ticket (.ok content) now (.ok rendered)) log

def Event.acceptedNumber? : Event → Option Nat
  | .answered ticket _ _ (.ok _) => some ticket.number
  | _ => none

/-- The numbers of the tickets whose answers were accepted, the latest first. -/
def acceptedNumbers (log : List Event) : List Nat :=
  log.filterMap Event.acceptedNumber?

private theorem acceptedNumbers_cons {e : Event} (h : ¬ e.Accepts) (log : List Event) :
    acceptedNumbers (e :: log) = acceptedNumbers log := by
  have hnone : e.acceptedNumber? = none := by
    cases e with
    | answered ticket answer now outcome =>
      cases outcome with
      | ok rendered => exact absurd trivial h
      | error error => rfl
    | _ => rfl
  rw [acceptedNumbers, List.filterMap_cons, hnone, acceptedNumbers]

private theorem Event.not_accepts_of_outdates {e : Event} (h : e.Outdates) : ¬ e.Accepts := by
  cases e with
  | answered ticket answer now outcome => exact h.elim
  | _ => exact not_false

private theorem shows_cons {e : Event} {ticket : Ticket} {content : ByteArray} {now : Instant}
    {rendered : Rendered} {log : List Event} (h : ¬ e.Accepts) :
    Shows ticket content now rendered (e :: log) ↔
      ¬ e.Outdates ∧ Shows ticket content now rendered log := by
  rw [Shows, since_cons, not_or, Shows]
  constructor
  · intro hcases
    rcases hcases with rfl | ⟨⟨-, houtdates⟩, hsince⟩
    · exact absurd trivial h
    · exact ⟨houtdates, hsince⟩
  · intro hboth
    obtain ⟨houtdates, hsince⟩ := hboth
    exact .inr ⟨⟨h, houtdates⟩, hsince⟩

/-- The cache agrees with the log. -/
structure Pictures (s : Session) (log : List Event) : Prop where
  cachedEpoch : s.cachedEpoch ≤ s.store.epoch
  output : ∀ rendered, s.output = some rendered ↔
    ∃ ticket content now, Shows ticket content now rendered log
  fileName : ∀ ticket content now rendered, Shows ticket content now rendered log →
    rendered = ⟨content, outputFileName s.store.kind now⟩
  numbers : ∀ n ∈ acceptedNumbers log, n ≤ s.latest
  ordered : (acceptedNumbers log).Pairwise (· ≥ ·)

variable {s s' : Session} {log : List Event} {e : Event}

private theorem pictures_start (start : Store) : Pictures { store := start } [] := by
  have hnothing : ∀ ticket content now rendered, ¬ Shows ticket content now rendered [] := by
    intro ticket content now rendered hshows
    obtain ⟨later, earlier, hlog, -⟩ := hshows
    simp at hlog
  refine ⟨Nat.zero_le _, fun rendered => ?_, fun ticket content now rendered h => ?_, ?_, ?_⟩
  · constructor
    · intro h
      simp [output] at h
    · intro hshown
      obtain ⟨ticket, content, now, h⟩ := hshown
      exact absurd h (hnothing _ _ _ _)
  · exact absurd h (hnothing _ _ _ _)
  · exact fun n h => by cases h
  · exact List.Pairwise.nil

private theorem Pictures.outdated (h : Pictures s log) (he : e.Outdates)
    (hlatest : s'.latest = s.latest) (hepoch : s'.cachedEpoch ≤ s'.store.epoch)
    (houtput : s'.output = none) :
    Pictures s' (e :: log) := by
  have haccepts := Event.not_accepts_of_outdates he
  have hnothing : ∀ ticket content now rendered,
      ¬ Shows ticket content now rendered (e :: log) := fun ticket content now rendered hs =>
    ((shows_cons haccepts).mp hs).1 he
  refine ⟨hepoch, fun rendered => ?_, fun ticket content now rendered hs => ?_, ?_, ?_⟩
  · rw [houtput]
    constructor
    · intro hs
      cases hs
    · intro hshown
      obtain ⟨ticket, content, now, hs⟩ := hshown
      exact absurd hs (hnothing _ _ _ _)
  · exact absurd hs (hnothing _ _ _ _)
  · rw [acceptedNumbers_cons haccepts, hlatest]
    exact h.numbers
  · rw [acceptedNumbers_cons haccepts]
    exact h.ordered

private theorem Pictures.kept (h : Pictures s log) (haccepts : ¬ e.Accepts)
    (houtdates : ¬ e.Outdates) (hlatest : s.latest ≤ s'.latest)
    (hkind : s'.store.kind = s.store.kind) (hepoch : s'.cachedEpoch ≤ s'.store.epoch)
    (houtput : s'.output = s.output) :
    Pictures s' (e :: log) := by
  have hshows : ∀ ticket content now rendered,
      Shows ticket content now rendered (e :: log) ↔ Shows ticket content now rendered log :=
    fun ticket content now rendered => (shows_cons haccepts).trans (and_iff_right houtdates)
  refine ⟨hepoch, fun rendered => ?_, fun ticket content now rendered hs => ?_, ?_, ?_⟩
  · rw [houtput, h.output rendered]
    simp only [hshows]
  · rw [hkind]
    exact h.fileName ticket content now rendered ((hshows _ _ _ _).mp hs)
  · rw [acceptedNumbers_cons haccepts]
    exact fun n hn => (h.numbers n hn).trans hlatest
  · rw [acceptedNumbers_cons haccepts]
    exact h.ordered

private theorem Pictures.issue {ticket : Ticket} (h : Pictures s log)
    (hissue : Session.issue.run s = .ok ticket s') : Pictures s' (.issued ticket :: log) := by
  rw [issue_run] at hissue
  cases hissue
  exact h.kept not_false not_false (Nat.le_succ _) rfl h.cachedEpoch rfl

/-- The ticket of an accepted answer is the latest one, and was issued for the kind that is active
now. -/
private theorem Pictures.accept (h : Pictures s log) (ht : Tickets s log) {ticket : Ticket}
    (hissued : .issued ticket ∈ log) (hstale : s.isStale ticket = false) (content : ByteArray)
    (now : Instant) :
    Pictures
      { s with
        cached := some ⟨content, outputFileName ticket.kind now⟩
        cachedEpoch := ticket.epoch }
      (.answered ticket (.ok content) now (.ok ⟨content, outputFileName ticket.kind now⟩) ::
        log) := by
  obtain ⟨hnumber, -, hepoch⟩ := isStale_eq_false.mp hstale
  have hkind := ht.kind ticket hissued hepoch
  have hshown : ∀ t c moment r,
      Shows t c moment r (.answered ticket (.ok content) now
        (.ok ⟨content, outputFileName ticket.kind now⟩) :: log) →
      t = ticket ∧ c = content ∧ moment = now ∧
        r = ⟨content, outputFileName ticket.kind now⟩ := by
    intro t c moment r hs
    rcases since_cons.mp hs with heq | ⟨hnot, -⟩
    · cases heq
      exact ⟨rfl, rfl, rfl, rfl⟩
    · exact absurd (.inl trivial) hnot
  refine ⟨Nat.le_of_eq hepoch, fun rendered => ?_, fun t c moment r hs => ?_, ?_, ?_⟩
  · rw [Session.output, if_pos hepoch]
    constructor
    · intro hs
      cases hs
      exact ⟨ticket, content, now, since_cons.mpr (.inl rfl)⟩
    · intro hshown
      obtain ⟨t, c, moment, hs⟩ := hshown
      rw [(hshown t c moment rendered hs).2.2.2]
  · obtain ⟨-, rfl, rfl, rfl⟩ := hshown t c moment r hs
    rw [hkind]
  · intro n hn
    rcases List.mem_cons.mp hn with rfl | hn
    · exact Nat.le_of_eq hnumber
    · exact h.numbers n hn
  · refine List.pairwise_cons.mpr ⟨fun n hn => ?_, h.ordered⟩
    rw [hnumber]
    exact h.numbers n hn

private theorem Pictures.finish (h : Pictures s log) (ht : Tickets s log) {ticket : Ticket}
    (hissued : .issued ticket ∈ log) (answer : Except RenderFailure ByteArray) (now : Instant) :
    Pictures ((Session.finish ticket answer now).after s)
      (.answered ticket answer now ((Session.finish ticket answer now).outcome s) :: log) := by
  rcases finish_cases s ticket answer now with
    ⟨error, houtcome, hafter⟩ | ⟨content, rfl, hstale, houtcome, hafter⟩
  · rw [houtcome, hafter]
    exact h.kept not_false not_false (Nat.le_refl _) rfl h.cachedEpoch rfl
  · rw [houtcome, hafter]
    exact h.accept ht hissued hstale content now

private theorem Pictures.reset (h : Pictures s log) (he : e.Outdates) {store : Store}
    (hstore : s.store.Follows store) : Pictures (reset { s with store }) (e :: log) := by
  refine h.outdated he rfl (h.cachedEpoch.trans hstore.epoch_le) ?_
  exact ite_self none

private theorem Pictures.operate (h : Pictures s log) (operation : Operation) :
    Pictures { s with store := s.store.step operation }
      (.operated operation s.store.kind :: log) := by
  have hle := h.cachedEpoch
  by_cases ho : operation.Outdates s.store.kind
  · have hepoch := Store.step_epoch_of_outdates ho
    refine h.outdated ho rfl (by simp only [hepoch]; omega) ?_
    have hne : s.cachedEpoch ≠ (s.store.step operation).epoch := by omega
    simp only [Session.output, if_neg hne]
  · obtain ⟨hkind, hepoch⟩ := Store.step_of_not_outdates ho
    refine h.kept not_false ho (Nat.le_refl _) hkind (hepoch ▸ hle) ?_
    simp only [Session.output, hepoch]

private theorem generate_outcome {ticket : Ticket} (hissue : issue.run s = .ok ticket s')
    (render : String → Except RenderFailure ByteArray) (now : Instant) :
    (generate render now).outcome s =
      (finish ticket (render ticket.source) now).outcome s' := by
  rw [outcome, outcome, generate_run s render now hissue]

private theorem pictures_of_run {start : Store} (run : Run start s log) : Pictures s log := by
  induction run with
  | start => exact pictures_start start
  | issue _ h ih => exact ih.issue h
  | finish run hissued answer now ih => exact ih.finish (tickets_of_run run) hissued answer now
  | generate run h render now ih =>
    rw [generate_after h, generate_outcome h]
    exact (ih.issue h).finish ((tickets_of_run run).issue h) List.mem_cons_self _ now
  | setKind _ kind ih =>
    refine ih.reset ?_ (Store.setKind_follows kind)
    exact trivial
  | clear _ ih =>
    refine ih.reset ?_ Store.clear_follows
    exact trivial
  | operate _ operation ih => exact ih.operate operation

/-- What is shown is the answer accepted last, if nothing has outdated it, under a file name for the
kind that is active now; and no answer to an older ticket was ever accepted after one to a newer
ticket. -/
theorem output_by_history {start : Store} (run : Run start s log) :
    (∀ rendered, s.output = some rendered ↔
      ∃ ticket content now, Shows ticket content now rendered log) ∧
    (∀ ticket content now rendered, Shows ticket content now rendered log →
      rendered = ⟨content, outputFileName s.store.kind now⟩) ∧
    (acceptedNumbers log).Pairwise (· ≥ ·) :=
  ⟨(pictures_of_run run).output, (pictures_of_run run).fileName, (pictures_of_run run).ordered⟩

/-- A picture is accepted, the kind is switched on the store, and of two tickets the older one is
answered first, in vain. The answer to the newer one is shown until the kind is switched back. -/
theorem output_hidden_picture :
    let now : Instant := ⟨0, 0⟩
    let first : Rendered := ⟨⟨#[60]⟩, outputFileName .sequence now⟩
    let second : Rendered := ⟨⟨#[61]⟩, outputFileName .classes now⟩
    let switched : Store := Store.step {} (.edit (.setKind .classes))
    let oldest := nextTicket {}
    let older := nextTicket { store := switched, latest := 1 }
    let newest := nextTicket { store := switched, latest := 2 }
    let s : Session :=
      { store := switched, latest := 3, cached := some second, cachedEpoch := switched.epoch }
    let log : List Event :=
      [.answered newest (.ok second.content) now (.ok second),
        .answered older (.ok first.content) now (.error (.stale 2)), .issued newest, .issued older,
        .operated (.edit (.setKind .classes)) .sequence,
        .answered oldest (.ok first.content) now (.ok first), .issued oldest]
    let back : Session := { s with store := switched.step (.edit (.setKind .sequence)) }
    Run {} s log ∧ s.output = some second ∧ acceptedNumbers log = [3, 1] ∧
      (acceptedNumbers log).Pairwise (· ≥ ·) ∧ back.output = none := by
  intro now first second switched oldest older newest s log back
  have issued : Run {} { latest := 1 } [.issued oldest] := Run.start.issued
  have answered : Run {} { cached := some first, latest := 1 }
      [.answered oldest (.ok first.content) now (.ok first), .issued oldest] :=
    issued.accepted List.mem_cons_self rfl rfl now
  have reissued : Run {} { store := switched, cached := some first, latest := 3 }
      (.issued newest :: .issued older :: .operated (.edit (.setKind .classes)) .sequence ::
        [.answered oldest (.ok first.content) now (.ok first), .issued oldest]) :=
    (answered.operate (.edit (.setKind .classes))).issued.issued
  have refused : Run {} { store := switched, cached := some first, latest := 3 }
      (.answered older (.ok first.content) now (.error (.stale 2)) :: log.drop 2) :=
    reissued.refused (List.mem_cons_of_mem _ List.mem_cons_self) rfl rfl now
  have run : Run {} s log :=
    refused.accepted (List.mem_cons_of_mem _ List.mem_cons_self) rfl rfl now
  have runBack : Run {} back (.operated (.edit (.setKind .sequence)) .classes :: log) :=
    run.operate (.edit (.setKind .sequence))
  have hshows : Shows newest second.content now second log := since_cons.mpr (.inl rfl)
  have hhidden : (Event.operated (.edit (.setKind .sequence)) .classes).Outdates := by
    simp [Event.Outdates, Operation.Outdates]
  refine ⟨run, ((output_by_history run).1 second).mpr ⟨_, _, _, hshows⟩, rfl,
    (output_by_history run).2.2, Option.eq_none_iff_forall_ne_some.mpr fun rendered hrendered => ?_⟩
  obtain ⟨ticket, content, answeredAt, hback⟩ :=
    ((output_by_history runBack).1 rendered).mp hrendered
  exact ((shows_cons (Event.not_accepts_of_outdates hhidden)).mp hback).1 hhidden

end UmlDiagrams.Session
