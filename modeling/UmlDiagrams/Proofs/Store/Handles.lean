import UmlDiagrams.Proofs.Store.Given
import UmlDiagrams.Proofs.Store.Register
/-!
# Identifiers as handles

An identifier that an addition answers stands for the new record as long as that is there, and for
nothing afterwards.
-/

namespace UmlDiagrams

open Stateful

variable {s s' : Store} {c : Collection} {id : Id} {r : Record}

namespace Deed.Done

private theorem mem_records {deed : Deed} (h : deed.Done s s')
    (hissued : id.serial < s.issued id.kind) (hdeed : deed ≠ .revise c id) (hr : r ∈ s'.records c)
    (hid : r.id? = some id) :
    r ∈ s.records c := by
  cases deed with
  | add c' =>
    obtain ⟨⟨new, hnew, hrecords⟩, -⟩ := h
    rw [hrecords, Function.update_apply] at hr
    by_cases hc : c = c'
    · rw [if_pos hc, ← hc, List.mem_append, List.mem_singleton] at hr
      rcases hr with hr | rfl
      · exact hr
      · rw [hid, eq_comm, Option.map_eq_some_iff] at hnew
        obtain ⟨kind, -, rfl⟩ := hnew
        exact absurd hissued (Nat.lt_irrefl _)
    · rw [if_neg hc] at hr
      exact hr
  | revise c' id' =>
    obtain ⟨⟨old, -, new, -, hnew, hrecords⟩, -⟩ := h
    rw [hrecords, Function.update_apply] at hr
    by_cases hc : c = c'
    · rw [if_pos hc, ← hc] at hr
      obtain ⟨x, hx, rfl⟩ := List.mem_map.mp hr
      by_cases hxid : x.id? = some id'
      · rw [if_pos hxid, hnew] at hid
        exact absurd (congrArg₂ Deed.revise hc.symm (Option.some.inj hid)) hdeed
      · rw [if_neg hxid]
        exact hx
    · rw [if_neg hc] at hr
      exact hr
  | remove c' id' =>
    rw [h.2.1] at hr
    by_cases hc : c = c'
    · rw [if_pos hc] at hr
      exact List.mem_of_mem_filter hr
    · rw [if_neg hc] at hr
      by_cases hrelated : c'.relationships? = some c
      · rw [if_pos hrelated] at hr
        exact List.mem_of_mem_filter hr
      · rw [if_neg hrelated] at hr
        exact hr
  | clear => exact (h.1 c).subset hr

private theorem mem_idsIn {deed : Deed} (h : deed.Done s s')
    (hissued : id.serial < s.issued id.kind) (hid : id ∈ s'.idsIn c) : id ∈ s.idsIn c := by
  cases deed with
  | add c' =>
    obtain ⟨r, hr, hrid⟩ := Store.mem_idsIn.mp hid
    exact Store.mem_idsIn.mpr ⟨r, h.mem_records hissued nofun hr hrid, hrid⟩
  | _ => exact (h.idsIn_sublist nofun c).subset hid

end Deed.Done

namespace Store

/-- Only the record of the identifier is another one. -/
def Revised (c : Collection) (id : Id) (s s' : Store) : Prop :=
  ∃ front old back new, s.records c = front ++ old :: back ∧ s.bearers id = [(c, old)] ∧
    s'.records = Function.update s.records c (front ++ new :: back) ∧
    s'.bearers id = [(c, new)] ∧ s.SameSettings s'

/-- Only the record of the identifier is gone, and the relationships at it. -/
def Removed (c : Collection) (id : Id) (s s' : Store) : Prop :=
  ∃ front old back, s.records c = front ++ old :: back ∧ s.bearers id = [(c, old)] ∧
    (∀ c', s'.records c' =
      if c' = c then front ++ back
      else if c.relationships? = some c' then (s.records c').filter fun r => id ∉ r.ends
      else s.records c') ∧
    s'.bearers id = [] ∧ s.SameSettings s'

namespace Registered

private theorem revised (h : s.Registered) (hdone : (Deed.revise c id).Done s s') :
    s.Revised c id s' := by
  have h' : s'.Registered := h.done hdone
  obtain ⟨⟨old, hold, new, hid, hnew, hrecords⟩, -, hsettings⟩ := hdone
  obtain ⟨front, back, hsplit, -, -, hmap⟩ := Record.split_at (h.distinct c) hold hid
  rw [hmap new] at hrecords
  have hmem : new ∈ s'.records c := by
    rw [hrecords, Function.update_self]
    exact List.mem_append_right front List.mem_cons_self
  exact ⟨front, old, back, new, hsplit, h.bearers_eq hold hid, hrecords, h'.bearers_eq hmem hnew,
    hsettings⟩

private theorem removed (h : s.Registered) (hdone : (Deed.remove c id).Done s s') :
    s.Removed c id s' := by
  have hissued : id.serial < s.issued id.kind := (h.issued c id hdone.1).2
  have hgone : s'.bearers id = [] := by
    refine bearers_eq_nil.mpr fun c' hid' => ?_
    have hc : c' = c := h.apart c' c id (hdone.mem_idsIn hissued hid') hdone.1
    obtain ⟨r, hr, hrid⟩ := mem_idsIn.mp hid'
    rw [hdone.2.1, if_pos hc] at hr
    have hne : r.id? ≠ some id := of_decide_eq_true (List.mem_filter.mp hr).2
    exact hne hrid
  obtain ⟨hid, hrecords, -, hsettings⟩ := hdone
  obtain ⟨old, hold, hoid⟩ := mem_idsIn.mp hid
  obtain ⟨front, back, hsplit, -, hfilter, -⟩ := Record.split_at (h.distinct c) hold hoid
  refine ⟨front, old, back, hsplit, h.bearers_eq hold hoid, fun c' => ?_, hgone, hsettings⟩
  rw [hrecords]
  by_cases hc : c' = c
  · rw [if_pos hc, if_pos hc, hc, hfilter]
  · rw [if_neg hc, if_neg hc]

end Registered

/-- The identifier was given out, to a record of `c` if to one that is still there. -/
structure Issued (c : Collection) (id : Id) (s : Store) : Prop where
  registered : s.Registered
  issued : id.serial < s.issued id.kind
  only : ∀ c', id ∈ s.idsIn c' → c' = c

namespace Issued

private theorem step (h : s.Issued c id) (operation : Operation) :
    (s.step operation).Issued c id := by
  rcases s.step_done operation with hsame | hdone
  · rw [hsame]
    exact h
  · exact ⟨h.registered.done hdone, h.issued.trans_le (hdone.issued_le id.kind),
      fun c' hid => h.only c' (hdone.mem_idsIn h.issued hid)⟩

private theorem run (h : s.Issued c id) (operations : List Operation) :
    (s.run operations).Issued c id := by
  induction operations generalizing s with
  | nil => exact h
  | cons operation operations ih => exact ih (h.step operation)

private theorem bearers_cases (h : s.Issued c id) :
    s.bearers id = [] ∨ ∃ r, s.bearers id = [(c, r)] := by
  by_cases hid : id ∈ s.idsIn c
  · exact .inr (h.registered.mem_idsIn_iff.mp hid)
  · refine .inl (bearers_eq_nil.mpr fun c' hid' => hid ?_)
    exact h.only c' hid' ▸ hid'

/-- An operation that does not revise the record leaves it, or takes it away. -/
private theorem bearers_step (h : s.Issued c id) {operation : Operation}
    (hdeed : operation.deed ≠ .revise c id) :
    (s.step operation).bearers id = s.bearers id ∨ (s.step operation).bearers id = [] := by
  rcases s.step_done operation with hsame | hdone
  · rw [hsame]
    exact .inl rfl
  · rcases (h.step operation).bearers_cases with hnil | ⟨r, hr⟩
    · exact .inr hnil
    · have hmem : (c, r) ∈ (s.step operation).bearers id := hr ▸ List.mem_singleton_self _
      obtain ⟨hrecord, hid⟩ := mem_bearers.mp hmem
      rw [hr]
      exact .inl (h.registered.bearers_eq (hdone.mem_records h.issued hdeed hrecord hid) hid).symm

private theorem gone_step (h : s.Issued c id) (hgone : s.bearers id = []) (operation : Operation) :
    (s.step operation).bearers id = [] := by
  rcases s.step_done operation with hsame | hdone
  · rw [hsame]
    exact hgone
  · exact bearers_eq_nil.mpr fun c' hid =>
      bearers_eq_nil.mp hgone c' (hdone.mem_idsIn h.issued hid)

private theorem gone_run (h : s.Issued c id) (hgone : s.bearers id = [])
    (operations : List Operation) :
    (s.run operations).bearers id = [] := by
  induction operations generalizing s with
  | nil => exact hgone
  | cons operation operations ih => exact ih (h.step operation) (h.gone_step hgone operation)

end Issued

/-- The identifier is of no use: it is found nowhere, and what is given it is refused. -/
structure Gone (id : Id) (s : Store) : Prop where
  bearers : s.bearers id = []
  lookup : ∀ c, s.lookup? c id = none
  refused : ∀ c edit, (c, id) ∈ edit.given → edit.Refused s ∧ (apply edit).after s = s

/-- What the identifier of a record of `c` is good for. -/
structure Handle (c : Collection) (id : Id) (s : Store) : Prop where
  /-- One record has the identifier, or none has. -/
  one : s.bearers id = [] ∨ ∃ r, s.bearers id = [(c, r)]
  /-- Lookups find this record, in its collection only. -/
  lookup : ∀ c' ∈ [.messages, .classes, .entities],
    s.lookup? c' id = (s.bearers id).lookup c'
  revised : ∀ edit : Edit, edit.deed = .revise c id → edit.Accepted s →
    s.Revised c id ((apply edit).after s)
  removed : ∀ edit : Edit, edit.deed = .remove c id → edit.Accepted s →
    s.Removed c id ((apply edit).after s)
  /-- Other operations leave the record as it is, or take it away. -/
  others : ∀ operation : Operation, operation.deed ≠ .revise c id →
    (s.step operation).bearers id = s.bearers id ∨ (s.step operation).bearers id = []
  /-- Where a record of another collection is expected, the identifier is refused. -/
  elsewhere : ∀ c' ≠ c, ∀ edit : Edit, (c', id) ∈ edit.given →
    edit.Refused s ∧ (apply edit).after s = s
  /-- After the record the identifier is of no use, whatever happens. -/
  gone : s.bearers id = [] → ∀ operations, (s.run operations).Gone id

private theorem gone_of_bearers (h : s.bearers id = []) : s.Gone id where
  bearers := h
  lookup c := by
    by_cases hc : c ∈ [.messages, .classes, .entities]
    · rw [lookup?_eq_find? hc, List.find?_eq_none]
      exact fun r hr hid =>
        bearers_eq_nil.mp h c (mem_idsIn.mpr ⟨r, hr, of_decide_eq_true hid⟩)
    · cases c <;> first | rfl | exact absurd (by decide) hc
  refused c edit hgiven := refused_of_given hgiven (bearers_eq_nil.mp h c)

private theorem Issued.handle (h : s.Issued c id) : s.Handle c id where
  one := h.bearers_cases
  lookup _ hc' := (lookup?_eq_find? hc' id).trans h.registered.lookup_eq.symm
  revised _ hdeed haccepted := h.registered.revised (hdeed ▸ done_of_accepted haccepted)
  removed _ hdeed haccepted := h.registered.removed (hdeed ▸ done_of_accepted haccepted)
  others _ hdeed := h.bearers_step hdeed
  elsewhere c' hc' _ hgiven := refused_of_given hgiven fun hid => hc' (h.only c' hid)
  gone hgone operations := gone_of_bearers (h.gone_run hgone operations)

/-- The identifier that an addition answers had no record before, and now has the new one. In every
run from there it is a handle of this record. -/
theorem created_handle (h : s.Reachable) {edit : Edit}
    (hcreated : (apply edit).outcome s = .ok (.created id)) :
    ∃ c r, edit.deed = .add c ∧ s.bearers id = [] ∧
      ((apply edit).after s).records = Function.update s.records c (s.records c ++ [r]) ∧
      ((apply edit).after s).bearers id = [(c, r)] ∧
      ∀ operations, (((apply edit).after s).run operations).Handle c id := by
  obtain ⟨c, kind, hdeed, hkind, rfl⟩ := apply_answers edit s _ hcreated _ rfl
  have hdone : (Deed.add c).Done s ((apply edit).after s) :=
    hdeed ▸ done_of_accepted ⟨_, hcreated, nofun⟩
  have hregistered : ((apply edit).after s).Registered := h.registered.done hdone
  obtain ⟨⟨r, hid, hrecords⟩, -, hissued⟩ := hdone
  rw [hkind, Option.map_some] at hid
  have hr : r ∈ ((apply edit).after s).records c := by
    rw [hrecords, Function.update_self]
    exact List.mem_append_right _ (List.mem_singleton_self r)
  have hbearers := hregistered.bearers_eq hr hid
  have hgiven : ((apply edit).after s).Issued c ⟨kind, s.issued kind⟩ := by
    refine ⟨hregistered, hissued kind hkind, fun c' hid' => ?_⟩
    exact hregistered.apart c' c _ hid' (mem_idsIn.mpr ⟨r, hr, hid⟩)
  exact ⟨c, r, hdeed, bearers_eq_nil.mpr (h.registered.fresh kind), hrecords, hbearers,
    fun operations => (hgiven.run operations).handle⟩

/-- The identifier of a relationship goes with a class at which it is. -/
theorem created_handle_cascade :
    let classes : List Operation := [.edit (.classes (.addClass "A" false)),
      .edit (.classes (.addClass "B" false))]
    let s := run {} classes
    let relate : Edit := .classes (.addRelationship none none .association "")
    let related := (apply relate).after s
    let id : Id := ⟨.classes, 2⟩
    let removal : List Operation := [.edit (.classes (.removeClass ⟨.classes, 1⟩))]
    s.Reachable ∧ (apply relate).outcome s = .ok (.created id) ∧
      related.bearers id = [(.classRelationships,
        .classRelationship ⟨id, ⟨.classes, 0⟩, ⟨.classes, 1⟩, ⟨.association, ""⟩⟩)] ∧
      related.Handle .classRelationships id ∧
      ∀ operations, ((related.run removal).run operations).Gone id := by
  intro classes s relate related id removal
  have hs : s.Reachable := ⟨{}, classes, .inl rfl, rfl⟩
  have hcreated : (apply relate).outcome s = .ok (.created id) := by decide +kernel
  have hgone : (related.run removal).bearers id = [] := by decide +kernel
  obtain ⟨c, r, hdeed, -, -, -, hhandle⟩ := created_handle hs hcreated
  cases hdeed
  exact ⟨hs, hcreated, by decide +kernel, hhandle [], (hhandle removal).gone hgone⟩

end Store

end UmlDiagrams
