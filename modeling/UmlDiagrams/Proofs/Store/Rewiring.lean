import UmlDiagrams.Proofs.Diagram.Keeps
import UmlDiagrams.Proofs.Graph.Rewiring
import UmlDiagrams.Proofs.Source.Drawing
import UmlDiagrams.Proofs.Store.Slots

namespace UmlDiagrams

open Stateful

variable {α ν : Type}

def ClassDiagram.rewire (id : Id) : Rewiring ClassRelation → ClassEdit
  | .ends source target => .retarget id source target
  | .kind k => .setKind id k

def EntityDiagram.rewire (id : Id) : Rewiring ErRelation → EntityEdit
  | .ends source target => .retarget id source target
  | .kind k => .setKind id k

private theorem ClassDiagram.rules_byKind : rules.ByKind :=
  fun _ _ => decide_eq_true_iff

private theorem EntityDiagram.rules_byKind : rules.ByKind :=
  fun _ _ => decide_eq_true_iff

namespace Store

/-- A relationship of the diagram can be rewired exactly if the diagram admits it. This changes
nothing else, and what the relationship had can be given back to it. -/
structure Rewires {R : Rules Id ν (Relation α)} (V : Slot R) (edit : Rewiring α → Edit) (id : Id)
    (s : Store) : Prop where
  accepted : ∀ w, (apply (edit w)).outcome s = .ok .done ↔ ∃ old, (V.part s).Admits R id w old
  changed : ∀ w old, (V.part s).Admits R id w old → ∃ front back,
    (V.part s).edges = front ++ old :: back ∧
    ((apply (edit w)).after s).records =
      Function.update s.records R.edges ((front ++ w.apply old :: back).map V.edge) ∧
    ((apply (edit w)).after s).issued = s.issued ∧ s.SameSettings ((apply (edit w)).after s)
  kept : ∀ w : Rewiring α, ∀ old ∈ (V.part s).edges, old.id = id →
    (apply (edit (w.back old))).outcome s = .ok .done ∧
    (V.part ((apply (edit (w.back old))).after s)).edges = (V.part s).edges
  restored : ∀ w old, (V.part s).Admits R id w old →
    let changed := (apply (edit w)).after s
    (apply (edit (w.back old))).outcome changed = .ok .done ∧
    (V.part ((apply (edit (w.back old))).after changed)).edges = (V.part s).edges

variable {R : Rules Id ν (Relation α)} {V : Slot R} {Named : ν → Prop} {edit : Rewiring α → Edit}
  {id : Id} {s : Store} {w : Rewiring α} {old : Edge Id (Relation α)}

def Rewrites (V : Slot R) (edit : Rewiring α → Edit) (id : Id) : Prop :=
  ∀ w, apply (edit w) = within V.part V.put (w.perform R id >>= fun _ => pure .done)

private theorem Rewrites.run (hedit : Rewrites V edit id) (hR : R.ByKind)
    (hg : (V.part s).Sound R Named) (h : (V.part s).Admits R id w old) :
    (apply (edit w)).outcome s = .ok .done ∧
      (apply (edit w)).after s =
        V.put s (Graph.touch [R.edges] (Graph.replaceEdge (w.apply old) (V.part s))) := by
  have hrun := h.run hR hg
  rw [hedit, outcome_within, after_within, outcome_answer, after_answer, outcome, after, hrun]
  exact ⟨rfl, rfl⟩

private theorem Rewrites.admits (hedit : Rewrites V edit id) (hR : R.ByKind)
    (hg : (V.part s).Sound R Named) (h : (apply (edit w)).outcome s = .ok .done) :
    ∃ old, (V.part s).Admits R id w old := by
  rw [hedit, outcome_within, outcome_answer, outcome] at h
  cases hrun : (w.perform R id).run (V.part s) with
  | ok u g => exact Graph.admits_of_run hR hg hrun
  | error e g =>
    rw [hrun] at h
    cases h

private theorem Rewrites.rewires (hedit : Rewrites V edit id) (hR : R.ByKind)
    (hg : (V.part s).Sound R Named)
    (hkeeps : ∀ w : Rewiring α, Keeps (Graph.Sound R Named) (w.perform R id)) :
    s.Rewires V edit id where
  accepted w := ⟨hedit.admits hR hg, fun ⟨_, h⟩ => (hedit.run hR hg h).1⟩
  changed w old h := by
    obtain ⟨front, back, hsplit, hreplace⟩ := h.edges hg
    rw [(hedit.run hR hg h).2]
    refine ⟨front, back, hsplit, ?_, V.put_issued rfl, V.settings s _⟩
    rw [← hreplace]
    exact V.put_edges rfl
  kept w old hold hid := by
    have hback := Graph.admits_back hR hg hold hid w
    obtain ⟨hdone, hafter⟩ := hedit.run hR hg hback
    refine ⟨hdone, ?_⟩
    rw [hafter, V.part_put, w.back_apply]
    exact Graph.replaceEdge_self hg hold
  restored w old h := by
    have hrun := (hedit.run hR hg h).2
    have hsound := hkeeps w (V.part s) hg
    rw [after_of_run_ok (h.run hR hg)] at hsound
    have hback := h.back hR hg
    intro changed
    have hpart : V.part changed =
        Graph.touch [R.edges] (Graph.replaceEdge (w.apply old) (V.part s)) := by
      rw [← V.part_put s (Graph.touch _ _), ← hrun]
    rw [← hpart] at hsound hback
    obtain ⟨hdone, hafter⟩ := hedit.run hR hsound hback
    refine ⟨hdone, ?_⟩
    rw [hafter, V.part_put, hpart]
    exact Graph.replaceEdge_back hg h

private theorem classes_rewrites (id : Id) :
    Rewrites ClassDiagram.slot (fun w => .classes (ClassDiagram.rewire id w)) id := by
  intro w
  cases w <;> rfl

private theorem entity_rewrites (id : Id) :
    Rewrites EntityDiagram.slot (fun w => .entity (EntityDiagram.rewire id w)) id := by
  intro w
  cases w <;> rfl

/-- A relationship between classes or entities gets other ends or another kind exactly if it is
there, the ends are there, and no other relationship has these ends and this kind then. Only this is
changed. What it has can be set again, and what it had just before can be set back. -/
theorem relationships_rewired {s : Store} (h : s.Reachable) (id : Id) :
    s.Rewires ClassDiagram.slot (fun w => .classes (ClassDiagram.rewire id w)) id ∧
    s.Rewires EntityDiagram.slot (fun w => .entity (EntityDiagram.rewire id w)) id :=
  ⟨(classes_rewrites id).rewires ClassDiagram.rules_byKind h.sound.classes
      (Graph.rewiring_keeps ClassDiagram.rules_symmetric id),
    (entity_rewrites id).rewires EntityDiagram.rules_byKind h.sound.entity
      (Graph.rewiring_keeps EntityDiagram.rules_symmetric id)⟩

/-- Of two relationships from one class to another, one is turned round and back. It cannot be of
the kind of the other while they are parallel. -/
theorem relationships_rewired_parallel :
    let id (number : Nat) : Id := ⟨.classes, number⟩
    let s := run {} [.edit (.classes (.addClass "A" false)), .edit (.classes (.addClass "B" false)),
      .edit (.classes (.addRelationship none none .association "first")),
      .edit (.classes (.addRelationship none none .inheritance "second"))]
    let turned := (apply (.classes (.retarget (id 3) (id 1) (id 0)))).after s
    (apply (.classes (.setKind (id 3) .association))).outcome s ≠ .ok .done ∧
      (apply (.classes (.setKind (id 3) .association))).outcome turned = .ok .done ∧
      (apply (.classes (.retarget (id 3) (id 0) (id 1)))).outcome turned = .ok .done ∧
      ((apply (.classes (.retarget (id 3) (id 0) (id 1)))).after turned).classes.edges =
        s.classes.edges := by
  intro id s turned
  have hs : s.Reachable := ⟨{}, _, .inl rfl, rfl⟩
  have hadmits : s.classes.Admits ClassDiagram.rules (id 3) (.ends (id 1) (id 0))
      ⟨id 3, id 0, id 1, ⟨.inheritance, "second"⟩⟩ :=
    ⟨by decide +kernel, rfl, by decide +kernel, by decide +kernel, by decide +kernel⟩
  have hparallel : ¬ ∃ old,
      s.classes.Admits ClassDiagram.rules (id 3) (.kind .association) old := by
    rintro ⟨old, hold⟩
    have hends : ∀ e ∈ s.classes.edges, e.id = id 3 → e.source = id 0 ∧ e.target = id 1 := by
      decide +kernel
    have hfirst : ⟨id 2, id 0, id 1, ⟨.association, "first"⟩⟩ ∈ s.classes.edges := by
      decide +kernel
    refine hold.distinct _ hfirst (by decide) ?_
    obtain ⟨hsource, htarget⟩ := hends old hold.mem hold.named
    simp [Edge.triple, Rewiring.apply, hsource, htarget]
  obtain ⟨hrewires, -⟩ := relationships_rewired hs (id 3)
  obtain ⟨hdone, hedges⟩ := hrewires.restored (.ends (id 1) (id 0)) _ hadmits
  exact ⟨mt (hrewires.accepted (.kind .association)).mp hparallel, by decide +kernel, hdone,
    hedges⟩

end Store

end UmlDiagrams
