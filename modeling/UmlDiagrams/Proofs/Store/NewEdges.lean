import UmlDiagrams.Proofs.Graph.NewEdges
import UmlDiagrams.Proofs.Store.Register
/-!
# New edges of a store

What the addition of a message, a relationship, a flow, a dependency, a transition or a link comes
to: the first reason to refuse it, or one new record at the end of its collection.
-/

namespace UmlDiagrams

open Stateful

namespace UseCaseDiagram

variable {d : UseCaseDiagram} {actor useCase : Option String}

def linkRefusal? (d : UseCaseDiagram) (actor useCase : Option String) : Option Rejection :=
  (fewNodes? .useCaseActors 1 d.actors.length).or <| (fewNodes? .useCases 1 d.useCases.length).or <|
    (unknownEnd? .useCaseActors .name d.actors actor).or
      (unknownEnd? .useCases .name d.useCases useCase)

/-- The ends of a new link: those that are given, and the first of the actors or of the use cases
for one that is not. -/
def linkEnds (d : UseCaseDiagram) (actor useCase : Option String) : Option (String × String) := do
  return (← actor.or d.actors[0]?, ← useCase.or d.useCases[0]?)

private theorem newEnds_settles :
    Settles (d.newEnds actor useCase) (d.linkRefusal? actor useCase)
      fun ends => d.linkEnds actor useCase = some ends := by
  rw [newEnds, linkRefusal?]
  refine (requireNodes_settles .useCaseActors 1 _).bind fun _ hactors => ?_
  refine (requireNodes_settles .useCases 1 _).bind fun _ huseCases => ?_
  refine (pickEnd_settles (by omega)).bind fun a ha => ?_
  refine (pickEnd_settles (by omega)).answer fun u hu => ?_
  rw [linkEnds, ha, hu]
  rfl

private theorem newEnds_default :
    d.newEnds (actor.or d.actors[0]?) (useCase.or d.useCases[0]?) = d.newEnds actor useCase := by
  cases hactors : d.actors with
  | nil =>
    rw [newEnds, newEnds, hactors]
    rfl
  | cons a as =>
    cases huseCases : d.useCases with
    | nil =>
      rw [newEnds, newEnds, hactors, huseCases]
      rfl
    | cons u us =>
      rw [newEnds, newEnds, hactors, huseCases, pickEnd_default (by simp),
        pickEnd_default (by simp)]

end UseCaseDiagram

namespace Store

/-- The edit is refused for the given reason and changes nothing then. Without one it adds one
record at the end of the collection, which has a new identifier, and answers with this. -/
structure Appends (s : Store) (edit : Edit) (refusal : Option Rejection) (kind : Kind)
    (c : Collection) (record : Id → Option Record) : Prop where
  refused : ∀ e, refusal = some e → (apply edit).run s = .error e s
  accepted : refusal = none → ∃ id r s', id = ⟨kind, s.issued kind⟩ ∧ (∀ c', id ∉ s.idsIn c') ∧
    record id = some r ∧ (apply edit).run s = .ok (.created id) s' ∧
    s'.records = Function.update s.records c (s.records c ++ [r]) ∧ s.SameSettings s'

/-- How edges are added to a graph of the store, where `same` tells which of them cannot have the
same ends. -/
structure Links {κ ν ε : Type} [DecidableEq κ] {R : Rules κ ν ε} (V : Slot R)
    (edit : Option κ → Option κ → Edit) (same : ε → ε → Bool) (data : ε) (s : Store) : Prop where
  appends : ∀ source target,
    s.Appends (edit source target) ((V.part s).linkRefusal? R same source target data) R.kind
      R.edges fun id => ((V.part s).linkEnds R source target).map fun ends =>
        V.edge ⟨id, ends.1, ends.2, data⟩
  defaults : ∀ source target, (apply (edit source target)).run s =
    (apply (edit (source.or ((V.part s).keys R)[0]?) (target.or ((V.part s).keys R)[1]?))).run s
  free : ∀ a ∈ (V.part s).keys R, ∀ b ∈ (V.part s).keys R, 2 ≤ (V.part s).nodes.length →
    (∀ e ∈ (V.part s).edges, e.source = a → e.target = b → same e.data data = false) →
    ∃ id s', (apply (edit (some a) (some b))).run s = .ok (.created id) s'

/-- How links are added to the use-case diagram. -/
structure LinksUseCases (s : Store) : Prop where
  appends : ∀ actor useCase,
    s.Appends (.useCase (.addLink actor useCase)) (s.useCase.linkRefusal? actor useCase) .useCase
      .useCaseLinks fun id => (s.useCase.linkEnds actor useCase).map fun ends =>
        .useCaseLink ⟨id, ends.1, ends.2⟩
  defaults : ∀ actor useCase, (apply (.useCase (.addLink actor useCase))).run s =
    (apply (.useCase (.addLink (actor.or s.useCase.actors[0]?)
      (useCase.or s.useCase.useCases[0]?)))).run s
  free : ∀ a ∈ s.useCase.actors, ∀ u ∈ s.useCase.useCases,
    ∃ id s', (apply (.useCase (.addLink (some a) (some u)))).run s = .ok (.created id) s'

variable {s : Store} {edit : Edit} {refusal : Option Rejection} {kind : Kind} {c : Collection}
  {record : Id → Option Record}

/-- An edit that checks the ends first, and then adds an edge between them. -/
private theorem appends_of_settles (hs : s.Registered) {α : Type} {check : Except Rejection α}
    {found : α → Prop} (hcheck : Settles check refusal found)
    (hrefused : ∀ e, check = .error e → (apply edit).run s = .error e s)
    (haccepted : ∀ ends, check = .ok ends → found ends → ∃ r s',
      record ⟨kind, s.issued kind⟩ = some r ∧
      (apply edit).run s = .ok (.created ⟨kind, s.issued kind⟩) s' ∧
      s'.records = Function.update s.records c (s.records c ++ [r]) ∧ s.SameSettings s') :
    s.Appends edit refusal kind c record := by
  cases refusal with
  | some e' =>
    refine ⟨fun e he => hrefused e ?_, fun hnone => ?_⟩
    · cases he
      exact hcheck
    · cases hnone
  | none =>
    obtain ⟨ends, hends, hfound⟩ := hcheck
    obtain ⟨r, s', hadded⟩ := haccepted ends hends hfound
    refine ⟨fun e he => ?_, fun _ => ⟨_, r, s', rfl, hs.fresh kind, hadded⟩⟩
    cases he

private theorem Appends.created (h : s.Appends edit refusal kind c record)
    (hrefusal : refusal = none) :
    ∃ id s', (apply edit).run s = .ok (.created id) s' := by
  obtain ⟨id, -, s', -, -, -, hrun, -⟩ := h.accepted hrefusal
  exact ⟨id, s', hrun⟩

section

variable {κ ν ε : Type} [DecidableEq κ] {R : Rules κ ν ε} {V : Slot R}
  {add : Option κ → Option κ → Edit} {data : ε}

def AddsEdges (V : Slot R) (add : Option κ → Option κ → Edit) (data : ε) : Prop :=
  ∀ source target, apply (add source target) =
    within V.part V.put (Graph.addEdge R source target data >>= fun id => pure (.created id))

private theorem AddsEdges.run (hadd : AddsEdges V add data) (source target : Option κ) :
    (apply (add source target)).run s =
      match (V.part s).newEnds R source target data with
      | .ok (a, b) => .ok (.created ((V.part s).nextId R)) (V.put s (Graph.touch [R.edges]
          (Graph.withEdge ⟨(V.part s).nextId R, a, b, data⟩ (V.part s).countId)))
      | .error e => .error e s := by
  rw [hadd, run_within, EStateM.run_bind, Graph.addEdge_run]
  cases (V.part s).newEnds R source target data with
  | ok ends => rfl
  | error e =>
    change EStateM.Result.error e (V.put s (V.part s)) = _
    rw [V.put_part]

private theorem AddsEdges.appends (hadd : AddsEdges V add data) (hs : s.Registered)
    (source target : Option κ) :
    s.Appends (add source target) ((V.part s).linkRefusal? R R.clash source target data) R.kind
      R.edges fun id => ((V.part s).linkEnds R source target).map fun ends =>
        V.edge ⟨id, ends.1, ends.2, data⟩ := by
  have hrun := hadd.run (s := s) source target
  have hnext : (V.part s).nextId R = ⟨R.kind, s.issued R.kind⟩ := by
    rw [V.issued]
    rfl
  refine appends_of_settles hs Graph.newEnds_settles (fun e he => ?_) fun ends hok hends => ?_
  · rw [hrun, he]
  · rw [hok, hnext] at hrun
    refine ⟨_, _, by rw [hends]; rfl, hrun, ?_, V.settings s _⟩
    refine (V.put_edges (by rfl)).trans (congrArg _ ?_)
    rw [V.edges]
    exact List.map_append

private theorem linkRefusal?_free {R : Rules κ ν ε} {g : Graph κ ν ε} {a b : κ} (ha : a ∈ g.keys R)
    (hb : b ∈ g.keys R) (hlen : 2 ≤ g.nodes.length) {same : ε → ε → Bool}
    (hfree : ∀ e ∈ g.edges, e.source = a → e.target = b → same e.data data = false) :
    g.linkRefusal? R same (some a) (some b) data = none := by
  have hdup : g.duplicateEdge? R same (some (a, b)) data = none := by
    refine if_neg fun ⟨e, he, hends, hsame⟩ => ?_
    cases hends
    exact Bool.false_ne_true ((hfree e he rfl rfl).symm.trans hsame)
  rw [Graph.linkRefusal?, fewNodes?, if_neg (Nat.not_lt.mpr hlen), unknownEnd?, if_pos ha,
    unknownEnd?, if_pos hb]
  exact hdup

private theorem AddsEdges.links (hadd : AddsEdges V add data) (hs : s.Registered) :
    s.Links V add R.clash data where
  appends := hadd.appends hs
  defaults source target := by
    rw [hadd.run, hadd.run, Graph.newEnds_default]
  free a ha b hb hlen hfree := (hadd.appends hs _ _).created (linkRefusal?_free ha hb hlen hfree)

end

private theorem addLink_run (s : Store) (actor useCase : Option String) :
    (apply (.useCase (.addLink actor useCase))).run s =
      match s.useCase.newEnds actor useCase with
      | .ok (a, u) => .ok (.created s.useCase.nextId) { s with
          useCase := UseCaseDiagram.touch [.useCaseLinks] (UseCaseDiagram.withLink
            ⟨s.useCase.nextId, a, u⟩ s.useCase.countId) }
      | .error e => .error e s := by
  rw [apply, run_within, UseCaseDiagram.apply, EStateM.run_bind, UseCaseDiagram.addLink_run]
  cases s.useCase.newEnds actor useCase <;> rfl

private theorem addLink_appends (hs : s.Registered) (actor useCase : Option String) :
    s.Appends (.useCase (.addLink actor useCase)) (s.useCase.linkRefusal? actor useCase) .useCase
      .useCaseLinks fun id => (s.useCase.linkEnds actor useCase).map fun ends =>
        .useCaseLink ⟨id, ends.1, ends.2⟩ := by
  have hrun := s.addLink_run actor useCase
  refine appends_of_settles hs UseCaseDiagram.newEnds_settles (fun e he => ?_)
    fun ends hok hends => ?_
  · rw [hrun, he]
  · rw [hok] at hrun
    refine ⟨_, _, by rw [hends]; rfl, hrun, ?_, ⟨rfl, rfl, rfl⟩⟩
    refine (UseCaseDiagram.put_records (c := .useCaseLinks) (fun _ => by rfl) (fun _ => by rfl)
      (absurd (by rfl))).trans (congrArg _ ?_)
    exact List.map_append

private theorem useCases_linked (hs : s.Registered) : s.LinksUseCases where
  appends := addLink_appends hs
  defaults actor useCase := by
    rw [addLink_run, addLink_run, UseCaseDiagram.newEnds_default]
  free a ha u hu := by
    refine (addLink_appends hs _ _).created ?_
    have hactors := List.length_pos_of_mem ha
    have huseCases := List.length_pos_of_mem hu
    rw [UseCaseDiagram.linkRefusal?, fewNodes?, if_neg (by omega), fewNodes?, if_neg (by omega),
      unknownEnd?, if_pos ha, unknownEnd?, if_pos hu]
    rfl

/-- What comes of the addition of an edge. Too few nodes are the first reason to refuse it, then a
source and then a target that is not there; relationships between classes or entities must differ
from the others between their ends in their kind. Nothing else keeps an edge from being added, not
even being a loop or like another one, and its missing ends are the first nodes. -/
theorem new_edges_settled {s : Store} (h : s.Reachable) :
    (∀ arrow text, s.Links SequenceDiagram.slot
      (fun a b => .sequence (.addMessage a b arrow text)) (fun _ _ => false) ⟨arrow, text⟩) ∧
    (∀ kind label, s.Links ClassDiagram.slot
      (fun a b => .classes (.addRelationship a b kind label)) (fun r r' => r.kind = r'.kind)
      ⟨kind, label⟩) ∧
    (∀ kind label, s.Links EntityDiagram.slot
      (fun a b => .entity (.addRelationship a b kind label)) (fun r r' => r.kind = r'.kind)
      ⟨kind, label⟩) ∧
    s.Links FlowDiagram.activitySlot (fun a b => .activity (.addEdge a b)) (fun _ _ => false) () ∧
    s.Links FlowDiagram.componentSlot (fun a b => .component (.addEdge a b)) (fun _ _ => false) () ∧
    (∀ event, s.Links StateDiagram.slot
      (fun a b => .state (.addTransition a b event)) (fun _ _ => false) event) ∧
    s.LinksUseCases := by
  have hs := h.registered
  refine ⟨fun arrow text => ?_, fun kind label => ?_, fun kind label => ?_, ?_, ?_,
    fun event => ?_, useCases_linked hs⟩
  · exact AddsEdges.links (V := SequenceDiagram.slot) (fun _ _ => rfl) hs
  · exact AddsEdges.links (V := ClassDiagram.slot) (fun _ _ => rfl) hs
  · exact AddsEdges.links (V := EntityDiagram.slot) (fun _ _ => rfl) hs
  · exact AddsEdges.links (V := FlowDiagram.activitySlot) (fun _ _ => rfl) hs
  · exact AddsEdges.links (V := FlowDiagram.componentSlot) (fun _ _ => rfl) hs
  · exact AddsEdges.links (V := StateDiagram.slot) (fun _ _ => rfl) hs

/-- A relationship is refused beside one of its kind that was added between the same classes by
default. A loop is not. -/
theorem new_edges_settled_default :
    let id (number : Nat) : Id := ⟨.classes, number⟩
    let s := run {} [.edit (.sequence (.addActor "A")), .edit (.classes (.addClass "A" false)),
      .edit (.classes (.addClass "B" false)),
      .edit (.classes (.addRelationship none none .association "first"))]
    let relate (source target : Option Id) : Edit :=
      .classes (.addRelationship source target .association "second")
    (apply (.sequence (.addMessage none (some "Z") .sync ""))).run s =
        .error (.notEnoughNodes .actors 2 1) s ∧
      (apply (relate (some (id 7)) (some (id 8)))).run s =
        .error (.unknownEndpoint .classes (.id (id 7))) s ∧
      (apply (relate (some (id 0)) none)).run s = .error (.duplicateEdge .classRelationships) s ∧
      ∃ new s', (apply (relate (some (id 0)) (some (id 0)))).run s = .ok (.created new) s' := by
  intro id s relate
  have hs : s.Reachable := ⟨{}, _, .inl rfl, rfl⟩
  obtain ⟨hmessages, hclasses, -⟩ := new_edges_settled hs
  have hadds := hclasses .association "second"
  exact ⟨((hmessages .sync "").appends none (some "Z")).refused _ (by decide +kernel),
    (hadds.appends (some (id 7)) (some (id 8))).refused _ (by decide +kernel),
    (hadds.appends (some (id 0)) none).refused _ (by decide +kernel),
    hadds.free (id 0) (by decide +kernel) (id 0) (by decide +kernel) (by decide +kernel)
      (by decide +kernel)⟩

end Store

end UmlDiagrams
