import UmlDiagrams.Proofs.Source.Drawing
import UmlDiagrams.Proofs.Store.Deeds
/-!
# The register of identifiers

Each identifier in a store is a number that was given out, and has one record in one collection. An
addition may add the next number; no other operation adds any.
-/

namespace UmlDiagrams

variable {s s' : Store} {c : Collection} {id : Id} {r : Record}

/-- The records around the one with an identifier are all that is left when it goes, and stay where
they are when another record takes its place. -/
theorem Record.split_at {l : List Record} (hids : (l.filterMap Record.id?).Nodup) (hr : r ∈ l)
    (hid : r.id? = some id) :
    ∃ front back, l = front ++ r :: back ∧ (l.filter fun r => r.id? = some id) = [r] ∧
      (l.filter fun r => r.id? ≠ some id) = front ++ back ∧
      ∀ new, (l.map fun r => if r.id? = some id then new else r) = front ++ new :: back := by
  obtain ⟨front, back, rfl⟩ := List.append_of_mem hr
  rw [List.filterMap_append, List.filterMap_cons_some hid, List.nodup_middle, List.nodup_cons,
    List.mem_append, not_or] at hids
  obtain ⟨⟨hfront, hback⟩, -⟩ := hids
  have hne {part : List Record} (hpart : id ∉ part.filterMap Record.id?) :
      ∀ x ∈ part, x.id? ≠ some id := fun x hx h => hpart (List.mem_filterMap.mpr ⟨x, hx, h⟩)
  have hnone {part : List Record} (hpart : id ∉ part.filterMap Record.id?) :
      (part.filter fun r => r.id? = some id) = [] :=
    List.filter_eq_nil_iff.mpr fun x hx h => hne hpart x hx (of_decide_eq_true h)
  have hall {part : List Record} (hpart : id ∉ part.filterMap Record.id?) :
      (part.filter fun r => r.id? ≠ some id) = part :=
    List.filter_eq_self.mpr fun x hx => decide_eq_true (hne hpart x hx)
  have hkept {part : List Record} (hpart : id ∉ part.filterMap Record.id?) (new : Record) :
      (part.map fun r => if r.id? = some id then new else r) = part := by
    conv_rhs => rw [← List.map_id part]
    exact List.map_congr_left fun x hx => if_neg (hne hpart x hx)
  refine ⟨front, back, rfl, ?_, ?_, fun new => ?_⟩
  · rw [List.filter_append, List.filter_cons_of_pos (by simp [hid]), hnone hfront, hnone hback,
      List.nil_append]
  · rw [List.filter_append, List.filter_cons_of_neg (by simp [hid]), hall hfront, hall hback]
  · rw [List.map_append, List.map_cons, hkept hfront, hkept hback, if_pos hid]

theorem Deed.Done.issued_le {deed : Deed} (h : deed.Done s s') (kind : Kind) :
    s.issued kind ≤ s'.issued kind := by
  cases deed with
  | add c => exact h.2.1 kind
  | revise c id => rw [h.2.1]
  | remove c id => rw [h.2.2.1]
  | clear => rw [h.2]

theorem Deed.Done.idsIn_sublist {deed : Deed} (h : deed.Done s s') (hadd : ∀ c, deed ≠ .add c)
    (c : Collection) : (s'.idsIn c).Sublist (s.idsIn c) := by
  cases deed with
  | add c' => exact absurd rfl (hadd c')
  | revise c' id =>
    obtain ⟨⟨old, -, new, -, hnew, hrecords⟩, -⟩ := h
    have hsame : (Record.id? ∘ fun r => if r.id? = some id then new else r) = Record.id? := by
      funext r
      by_cases hr : r.id? = some id
      · rw [Function.comp_apply, if_pos hr, hnew, hr]
      · rw [Function.comp_apply, if_neg hr]
    rw [Store.idsIn, Store.idsIn, hrecords]
    by_cases hc : c = c'
    · rw [hc, Function.update_self, List.filterMap_map, hsame]
    · rw [Function.update_of_ne hc]
  | remove c' id =>
    obtain ⟨-, hrecords, -⟩ := h
    refine List.Sublist.filterMap _ ?_
    rw [hrecords]
    by_cases hc : c = c'
    · rw [if_pos hc]
      exact List.filter_sublist
    · rw [if_neg hc]
      by_cases hrel : c'.relationships? = some c
      · rw [if_pos hrel]
        exact List.filter_sublist
      · rw [if_neg hrel]
  | clear => exact (h.1 c).filterMap _

private theorem Deed.Done.idsIn_add {c : Collection} (h : (Deed.add c).Done s s')
    (c' : Collection) :
    s'.idsIn c' = if c' = c
      then s.idsIn c ++ (c.numbering?.map fun kind => ⟨kind, s.issued kind⟩).toList
      else s.idsIn c' := by
  obtain ⟨⟨r, hr, hrecords⟩, -⟩ := h
  rw [Store.idsIn, hrecords, Function.update_apply]
  by_cases hc : c' = c
  · rw [if_pos hc, if_pos hc, List.filterMap_append, ← hr]
    cases hid : r.id? with
    | none => rw [List.filterMap_cons_none hid, List.filterMap_nil, Option.toList_none, Store.idsIn]
    | some id =>
      rw [List.filterMap_cons_some hid, List.filterMap_nil, Option.toList_some, Store.idsIn]
  · rw [if_neg hc, if_neg hc, Store.idsIn]

/-- The identifiers of the records are numbers that were given out, each to one record. -/
structure Store.Registered (s : Store) : Prop where
  issued : ∀ c, ∀ id ∈ s.idsIn c, c.numbering? = some id.kind ∧ id.serial < s.issued id.kind
  distinct : ∀ c, (s.idsIn c).Nodup
  apart : ∀ c c' id, id ∈ s.idsIn c → id ∈ s.idsIn c' → c = c'

namespace Store.Registered

private theorem initial (style : Style) : Registered { style } := by
  have hnil (c : Collection) : ({ style } : Store).idsIn c = [] := by
    cases c <;> rfl
  refine ⟨fun c id hid => ?_, fun c => ?_, fun c c' id hid => ?_⟩
  · rw [hnil] at hid
    cases hid
  · rw [hnil]
    exact List.nodup_nil
  · rw [hnil] at hid
    cases hid

theorem fresh (h : s.Registered) (kind : Kind) (c : Collection) :
    ⟨kind, s.issued kind⟩ ∉ s.idsIn c :=
  fun hid => Nat.lt_irrefl _ (h.issued c _ hid).2

private theorem of_sublist (h : s.Registered) (hids : ∀ c, (s'.idsIn c).Sublist (s.idsIn c))
    (hissued : ∀ kind, s.issued kind ≤ s'.issued kind) : s'.Registered where
  issued c id hid := by
    obtain ⟨hkind, hserial⟩ := h.issued c id ((hids c).subset hid)
    exact ⟨hkind, hserial.trans_le (hissued id.kind)⟩
  distinct c := (h.distinct c).sublist (hids c)
  apart c c' id hid hid' := h.apart c c' id ((hids c).subset hid) ((hids c').subset hid')

private theorem of_add (h : s.Registered) (hadd : (Deed.add c).Done s s') : s'.Registered := by
  cases hc : c.numbering? with
  | none =>
    -- The records of this collection have no identifiers, so none becomes known.
    refine h.of_sublist (fun c' => ?_) hadd.issued_le
    rw [hadd.idsIn_add, hc, Option.map_none, Option.toList_none, List.append_nil]
    by_cases hc' : c' = c
    · rw [if_pos hc', hc']
    · rw [if_neg hc']
  | some kind =>
    have hmem (c' : Collection) (id : Id) : id ∈ s'.idsIn c' ↔
        id ∈ s.idsIn c' ∨ c' = c ∧ id = ⟨kind, s.issued kind⟩ := by
      rw [hadd.idsIn_add, hc, Option.map_some, Option.toList_some]
      by_cases hc' : c' = c
      · rw [if_pos hc', List.mem_append, List.mem_singleton, hc']
        simp
      · rw [if_neg hc']
        simp [hc']
    -- The new identifier is fresh in every collection, so the known ones need not be compared.
    refine ⟨fun c' id hid => ?_, fun c' => ?_, fun c' c'' id hid hid' => ?_⟩
    · rcases (hmem c' id).mp hid with hid | ⟨rfl, rfl⟩
      · obtain ⟨hkind, hserial⟩ := h.issued c' id hid
        exact ⟨hkind, hserial.trans_le (hadd.issued_le id.kind)⟩
      · exact ⟨hc, hadd.2.2 kind hc⟩
    · rw [hadd.idsIn_add, hc, Option.map_some, Option.toList_some]
      by_cases hc' : c' = c
      · rw [if_pos hc', List.nodup_append_comm]
        exact List.nodup_cons.mpr ⟨h.fresh kind c, h.distinct c⟩
      · rw [if_neg hc']
        exact h.distinct c'
    · rcases (hmem c' id).mp hid with hold | ⟨rfl, rfl⟩
      · rcases (hmem c'' id).mp hid' with hold' | ⟨rfl, rfl⟩
        · exact h.apart c' c'' id hold hold'
        · exact absurd hold (h.fresh kind c')
      · rcases (hmem c'' _).mp hid' with hold' | ⟨rfl, -⟩
        · exact absurd hold' (h.fresh kind c'')
        · rfl

theorem done {deed : Deed} (h : s.Registered) (hdone : deed.Done s s') : s'.Registered := by
  cases deed with
  | add c => exact h.of_add hdone
  | _ => exact h.of_sublist (hdone.idsIn_sublist nofun) hdone.issued_le

private theorem step (h : s.Registered) (operation : Operation) :
    (s.step operation).Registered := by
  rcases s.step_done operation with hsame | hdone
  · rw [hsame]
    exact h
  · exact h.done hdone

private theorem run (h : s.Registered) (operations : List Operation) :
    (s.run operations).Registered := by
  induction operations generalizing s with
  | nil => exact h
  | cons operation operations ih => exact ih (h.step operation)

end Store.Registered

theorem Store.Reachable.registered (h : s.Reachable) : s.Registered := by
  obtain ⟨style, operations, -, rfl⟩ := h
  exact (Registered.initial style).run operations

namespace Store

theorem mem_bearers : (c, r) ∈ s.bearers id ↔ r ∈ s.records c ∧ r.id? = some id := by
  simp [bearers, Collection.mem_all]

theorem bearers_eq_nil : s.bearers id = [] ↔ ∀ c, id ∉ s.idsIn c := by
  simp [bearers, Collection.mem_all, mem_idsIn]

namespace Registered

/-- A record of a collection is the only one that has its identifier, in all collections. -/
theorem bearers_eq (h : s.Registered) (hr : r ∈ s.records c) (hid : r.id? = some id) :
    s.bearers id = [(c, r)] := by
  obtain ⟨front, back, hall⟩ := List.append_of_mem (Collection.mem_all c)
  have hnodup := Collection.nodup_all
  rw [hall, List.nodup_middle, List.nodup_cons, List.mem_append, not_or] at hnodup
  obtain ⟨⟨hfront, hback⟩, -⟩ := hnodup
  have hnone {part : List Collection} (hpart : c ∉ part) : (part.flatMap fun c =>
      ((s.records c).filter fun r => r.id? = some id).map fun r => (c, r)) = [] := by
    refine List.flatMap_eq_nil_iff.mpr fun c' hc' => ?_
    rw [List.map_eq_nil_iff, List.filter_eq_nil_iff]
    intro r' hr' hid'
    have heq : c = c' := h.apart c c' id (mem_idsIn.mpr ⟨r, hr, hid⟩)
      (mem_idsIn.mpr ⟨r', hr', of_decide_eq_true hid'⟩)
    exact hpart (heq ▸ hc')
  obtain ⟨-, -, -, hfilter, -⟩ := Record.split_at (h.distinct c) hr hid
  rw [bearers, hall, List.flatMap_append, List.flatMap_cons, hnone hfront, hnone hback, hfilter]
  rfl

theorem mem_idsIn_iff (h : s.Registered) :
    id ∈ s.idsIn c ↔ ∃ r, s.bearers id = [(c, r)] := by
  constructor
  · intro hid
    obtain ⟨r, hr, hid⟩ := mem_idsIn.mp hid
    exact ⟨r, h.bearers_eq hr hid⟩
  · rintro ⟨r, hr⟩
    have hmem : (c, r) ∈ s.bearers id := hr ▸ List.mem_singleton_self _
    exact mem_idsIn.mpr ⟨r, mem_bearers.mp hmem⟩

theorem lookup_eq (h : s.Registered) :
    (s.bearers id).lookup c = (s.records c).find? fun r => r.id? = some id := by
  by_cases hid : id ∈ s.idsIn c
  · obtain ⟨r, hr, hid⟩ := mem_idsIn.mp hid
    obtain ⟨-, -, -, hfilter, -⟩ := Record.split_at (h.distinct c) hr hid
    rw [h.bearers_eq hr hid, List.lookup_cons_self, ← List.head?_filter, hfilter, List.head?_cons]
  · have hfind : (s.records c).find? (fun r => r.id? = some id) = none :=
      List.find?_eq_none.mpr fun r hr h => hid (mem_idsIn.mpr ⟨r, hr, of_decide_eq_true h⟩)
    have hlookup : (s.bearers id).lookup c = none := by
      rw [List.lookup_eq_none_iff]
      intro p hp
      refine bne_iff_ne.mpr fun heq => hid ?_
      exact mem_idsIn.mpr ⟨p.2, mem_bearers.mp (heq ▸ hp)⟩
    rw [hfind, hlookup]

end Registered

theorem lookup?_eq_find? {c : Collection} (hc : c ∈ [.messages, .classes, .entities]) (id : Id) :
    s.lookup? c id = (s.records c).find? fun r => r.id? = some id := by
  have hmap {α : Type} (f : α → Record) (key : α → Id) (hf : ∀ a, (f a).id? = some (key a))
      (l : List α) : (l.find? fun a => key a = id).map f =
        (l.map f).find? fun r => r.id? = some id := by
    rw [List.find?_map]
    refine congrArg (Option.map f) (congrArg (l.find? ·) (funext fun a => ?_))
    simp [hf]
  simp only [List.mem_cons, List.not_mem_nil, or_false] at hc
  rcases hc with rfl | rfl | rfl
  · exact hmap .message (·.id) (fun _ => rfl) s.sequence.edges
  · exact hmap .classRecord (·.id) (fun _ => rfl) s.classes.nodes
  · exact hmap .entity (·.id) (fun _ => rfl) s.entity.nodes

end Store

end UmlDiagrams
