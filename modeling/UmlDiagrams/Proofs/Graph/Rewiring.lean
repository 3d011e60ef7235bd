import UmlDiagrams.Diagram.Relation
import UmlDiagrams.Proofs.Graph.Keeps
/-!
# Relationships with other ends or of another kind

A relationship gets other ends or another kind unless another relationship is the same then. What it
had before can always be given back to it.
-/

namespace UmlDiagrams

variable {α ν : Type}

def Edge.triple (e : Edge Id (Relation α)) : Id × Id × α :=
  (e.source, e.target, e.data.kind)

/-- A change of a relationship that may make it the same as another. -/
inductive Rewiring (α : Type) where
  | ends (source target : Id)
  | kind (kind : α)
deriving DecidableEq, Repr

namespace Rewiring

def apply : Rewiring α → Edge Id (Relation α) → Edge Id (Relation α)
  | .ends source target, e => { e with source, target }
  | .kind k, e => { e with data := { e.data with kind := k } }

/-- The change of the same sort that gives a relationship what `e` has. -/
def back : Rewiring α → Edge Id (Relation α) → Rewiring α
  | .ends _ _, e => .ends e.source e.target
  | .kind _, e => .kind e.data.kind

def perform (R : Rules Id ν (Relation α)) (id : Id) :
    Rewiring α → Editing (Graph Id ν (Relation α)) Unit
  | .ends source target => Graph.retarget R id source target
  | .kind k => Graph.retypeEdge R id ({ · with kind := k })

@[simp] theorem apply_id (w : Rewiring α) (e : Edge Id (Relation α)) : (w.apply e).id = e.id := by
  cases w <;> rfl

@[simp] theorem back_apply (w : Rewiring α) (e : Edge Id (Relation α)) :
    (w.back e).apply e = e := by
  cases w <;> rfl

@[simp] theorem back_apply_apply (w : Rewiring α) (e : Edge Id (Relation α)) :
    (w.back e).apply (w.apply e) = e := by
  cases w <;> rfl

end Rewiring

def Rules.ByKind (R : Rules Id ν (Relation α)) : Prop :=
  ∀ r s, R.clash r s = true ↔ r.kind = s.kind

namespace Graph

variable {R : Rules Id ν (Relation α)} {Named : ν → Prop} {g : Graph Id ν (Relation α)} {id : Id}
  {w : Rewiring α} {old : Edge Id (Relation α)}

/-- The relationship `old` is there, and once changed it has ends that are there and is the same as
no other relationship. -/
structure Admits (R : Rules Id ν (Relation α)) (g : Graph Id ν (Relation α)) (id : Id)
    (w : Rewiring α) (old : Edge Id (Relation α)) : Prop where
  mem : old ∈ g.edges
  named : old.id = id
  source : (w.apply old).source ∈ g.keys R
  target : (w.apply old).target ∈ g.keys R
  distinct : ∀ other ∈ g.edges, other.id ≠ id → other.triple ≠ (w.apply old).triple

private theorem duplicates_iff (hR : R.ByKind) (e f : Edge Id (Relation α)) :
    R.Duplicates e f ↔ e.triple = f.triple := by
  rw [Rules.Duplicates, hR, Edge.triple, Edge.triple, Prod.mk.injEq, Prod.mk.injEq]

private theorem triple_ne (hR : R.ByKind) (hg : Sound R Named g) {e f : Edge Id (Relation α)}
    (he : e ∈ g.edges) (hf : f ∈ g.edges) (hne : e.id ≠ f.id) : e.triple ≠ f.triple := by
  have hsymm : Std.Symm fun e f => ¬ R.Duplicates e f := by
    refine ⟨fun e f hdup => ?_⟩
    rw [duplicates_iff hR] at hdup ⊢
    exact Ne.symm hdup
  have hdup := hg.unique.forall he hf fun heq => hne (congrArg Edge.id heq)
  rwa [duplicates_iff hR] at hdup

private theorem requireEdge_of_mem (hg : Sound R Named g) {e : Edge Id (Relation α)}
    (he : e ∈ g.edges) (hid : e.id = id) : g.requireEdge R id = .ok e := by
  have hfind : g.findEdge? id = some e := hid ▸ find?_key hg.edgeIds he
  rw [requireEdge, hfind]

private theorem Admits.unique (hR : R.ByKind) (h : g.Admits R id w old) :
    g.requireUnique R (some id) (w.apply old).source (w.apply old).target (w.apply old).data =
      .ok () := by
  refine requireUnique_of_forall fun e he hskip hdup => ?_
  have hne : e.id ≠ id := fun heq => hskip (congrArg some heq)
  exact h.distinct e he hne ((duplicates_iff hR e (w.apply old)).mp hdup)

theorem Admits.run (hR : R.ByKind) (hg : Sound R Named g) (h : g.Admits R id w old) :
    (w.perform R id).run g = .ok () (touch [R.edges] (replaceEdge (w.apply old) g)) := by
  have hedge := requireEdge_of_mem hg h.mem h.named
  have hunique := h.unique hR
  cases w with
  | ends source target =>
    have hmoved : g.movedEdge R id source target = .ok { old with source, target } :=
      bind_eq_ok.mpr ⟨source, if_pos h.source, bind_eq_ok.mpr ⟨target, if_pos h.target,
        bind_eq_ok.mpr ⟨old, hedge, bind_eq_ok.mpr ⟨(), hunique, rfl⟩⟩⟩⟩
    rw [Rewiring.perform, retarget_run, hmoved]
    rfl
  | kind kind =>
    have hretyped : g.retypedEdge R id ({ · with kind }) =
        .ok { old with data := { old.data with kind } } :=
      bind_eq_ok.mpr ⟨old, hedge, bind_eq_ok.mpr ⟨(), hunique, rfl⟩⟩
    rw [Rewiring.perform, retypeEdge_run, hretyped]
    rfl

theorem rewiring_keeps (hR : R.Symmetric) (id : Id) (w : Rewiring α) :
    Stateful.Keeps (Sound R Named) (w.perform R id) := by
  cases w with
  | ends source target => exact retarget_keeps hR id source target
  | kind k => exact retypeEdge_keeps hR id _

theorem admits_of_run (hR : R.ByKind) (hg : Sound R Named g) {g' : Graph Id ν (Relation α)}
    (h : (w.perform R id).run g = .ok () g') : ∃ old, g.Admits R id w old := by
  cases w with
  | ends source target =>
    rw [Rewiring.perform, retarget_run] at h
    cases hmoved : g.movedEdge R id source target with
    | error e =>
      rw [hmoved] at h
      cases h
    | ok edge =>
      obtain ⟨hs, ht, ⟨old, hold, hid, rfl⟩, hunique⟩ := movedEdge_eq_ok hmoved
      exact ⟨old, hold, hid, hs, ht, fun e he hne =>
        mt (duplicates_iff hR e _).mpr (hunique e he hne)⟩
  | kind kind =>
    rw [Rewiring.perform, retypeEdge_run] at h
    cases hretyped : g.retypedEdge R id ({ · with kind }) with
    | error e =>
      rw [hretyped] at h
      cases h
    | ok edge =>
      obtain ⟨⟨old, hold, hid, rfl⟩, hunique⟩ := retypedEdge_eq_ok hretyped
      have hends := hg.ends old hold
      exact ⟨old, hold, hid, hends.1, hends.2, fun e he hne =>
        mt (duplicates_iff hR e _).mpr (hunique e he hne)⟩

theorem admits_back (hR : R.ByKind) (hg : Sound R Named g) (hold : old ∈ g.edges)
    (hid : old.id = id) (w : Rewiring α) : g.Admits R id (w.back old) old := by
  refine ⟨hold, hid, ?_, ?_, fun other hother hne => ?_⟩
  · rw [w.back_apply]
    exact (hg.ends old hold).1
  · rw [w.back_apply]
    exact (hg.ends old hold).2
  · rw [w.back_apply]
    exact triple_ne hR hg hother hold (hid.symm ▸ hne)

theorem Admits.edges (hg : Sound R Named g) (h : g.Admits R id w old) :
    ∃ front back, g.edges = front ++ old :: back ∧
      (replaceEdge (w.apply old) g).edges = front ++ w.apply old :: back := by
  obtain ⟨front, back, hsplit, -, hreplace⟩ := split_at_key hg.edgeIds h.mem
  exact ⟨front, back, hsplit, hreplace _ (w.apply_id old)⟩

theorem replaceEdge_self (hg : Sound R Named g) (hold : old ∈ g.edges) :
    (replaceEdge old g).edges = g.edges := by
  obtain ⟨front, back, hsplit, -, hreplace⟩ := split_at_key hg.edgeIds hold
  exact (hreplace old rfl).trans hsplit.symm

theorem Admits.back (hR : R.ByKind) (hg : Sound R Named g) (h : g.Admits R id w old) :
    (touch [R.edges] (replaceEdge (w.apply old) g)).Admits R id (w.back old) (w.apply old) := by
  have hself := admits_back hR hg h.mem h.named w
  refine ⟨?_, (w.apply_id old).trans h.named, ?_, ?_, fun other hother hne => ?_⟩
  · obtain ⟨front, back, -, hreplace⟩ := h.edges hg
    rw [touch, hreplace]
    exact List.mem_append_right _ List.mem_cons_self
  · rw [w.back_apply_apply]
    exact (w.back_apply old) ▸ hself.source
  · rw [w.back_apply_apply]
    exact (w.back_apply old) ▸ hself.target
  · rw [w.back_apply_apply]
    rcases mem_map_replace hother with rfl | hother
    · exact absurd ((w.apply_id old).trans h.named) hne
    · exact triple_ne hR hg hother h.mem (h.named.symm ▸ hne)

theorem replaceEdge_back (hg : Sound R Named g) (h : g.Admits R id w old) :
    (replaceEdge ((w.back old).apply (w.apply old))
      (touch [R.edges] (replaceEdge (w.apply old) g))).edges = g.edges := by
  have hold (e : Edge Id (Relation α)) :
      (if (if e.id = (w.apply old).id then w.apply old else e).id = old.id then old
        else if e.id = (w.apply old).id then w.apply old else e) =
      if e.id = old.id then old else e := by
    rw [w.apply_id]
    by_cases he : e.id = old.id
    · rw [if_pos he, if_pos (w.apply_id old), if_pos he]
    · rw [if_neg he, if_neg he]
  rw [w.back_apply_apply, ← replaceEdge_self hg h.mem]
  change List.map _ (List.map _ g.edges) = _
  rw [List.map_map]
  exact List.map_congr_left fun e _ => hold e

end Graph

end UmlDiagrams
