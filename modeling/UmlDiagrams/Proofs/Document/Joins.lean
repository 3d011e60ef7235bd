import UmlDiagrams.Proofs.Document.Sections
import UmlDiagrams.Proofs.Store.Nodes
import UmlDiagrams.Proofs.Store.Sound
/-!
# Edges between named nodes

An end of an edge that is named is the node of exactly this name. Once there are enough nodes, an
edge between named ends is refused because of a name that no node has, or as a duplicate.
-/

namespace UmlDiagrams

open Stateful UmlDiagrams.Graph

def endRefusal? (c : Collection) (names : List String) : Option String → Option Rejection
  | some n => if n ∈ names then none else some (.unknownEndpoint c (.name n))
  | none => none

section

variable {c : Collection} {names : List String} {named : Option String} {e : Rejection}

theorem endRefusal?_eq_none :
    endRefusal? c names named = none ↔ ∀ n, named = some n → n ∈ names := by
  cases named with
  | none => exact iff_of_true rfl nofun
  | some n =>
    rw [endRefusal?]
    by_cases hn : n ∈ names
    · rw [if_pos hn]
      exact iff_of_true rfl fun m hm => Option.some.inj hm ▸ hn
    · rw [if_neg hn]
      exact iff_of_false nofun fun h => hn (h n rfl)

private theorem endRefusal?_of_pickEnd {key : String} {position : Nat}
    (h : pickEnd c .name names named position = .ok key) : endRefusal? c names named = none := by
  refine endRefusal?_eq_none.mpr fun n hn => ?_
  rw [hn] at h
  exact pickEnd_some h ▸ pickEnd_mem h

/-- Where the default is there, an end is refused for its name only. -/
private theorem endRefusal?_of_pickEnd_error {position : Nat} (hposition : position < names.length)
    (h : pickEnd c .name names named position = .error e) :
    endRefusal? c names named = some e := by
  cases named with
  | none =>
    rw [pickEnd, List.getElem?_eq_getElem hposition] at h
    cases h
  | some n =>
    rw [pickEnd] at h
    rw [endRefusal?]
    by_cases hn : n ∈ names
    · rw [if_pos hn] at h
      cases h
    · rw [if_neg hn] at h ⊢
      cases h
      rfl

end

def EdgeSpec.refusal? {ε : Type} (c : Collection) (names : List String) (spec : EdgeSpec ε) :
    Option Rejection :=
  (endRefusal? c names spec.source).or (endRefusal? c names spec.target)

private theorem EdgeSpec.refusal?_eq_none {ε : Type} {c : Collection} {names : List String}
    {spec : EdgeSpec ε} : spec.refusal? c names = none ↔ spec.Known names := by
  rw [EdgeSpec.refusal?, Option.or_eq_none_iff, endRefusal?_eq_none, endRefusal?_eq_none]
  exact ⟨fun h => ⟨h.1, h.2⟩, fun h => ⟨h.source, h.target⟩⟩

private theorem Stateful.Decides.of_error {ε σ α : Type} {x : Stateful ε σ α} {s : σ} {C : Prop}
    {F : σ → Prop} {E E' : ε → Prop} (h : Decides x s C F E)
    (herror : ∀ e, x.outcome s = .error e → E' e) : Decides x s C F E' := by
  rw [Decides] at h ⊢
  rw [outcome] at herror
  cases hr : x.run s with
  | ok a s' =>
    rw [hr] at h
    exact h
  | error e s' =>
    rw [hr] at h herror
    exact ⟨h.1, herror e rfl⟩

namespace Graph

variable {κ ν ε : Type} [DecidableEq κ] {R : Rules κ ν ε} {g : Graph κ ν ε} {e : Rejection}

private theorem newEnds_error {source target : Option κ} {data : ε} (hlen : 2 ≤ (g.keys R).length)
    (h : g.newEnds R source target data = .error e) :
    pickEnd R.nodes R.reference (g.keys R) source 0 = .error e ∨
      (∃ a, pickEnd R.nodes R.reference (g.keys R) source 0 = .ok a) ∧
        (pickEnd R.nodes R.reference (g.keys R) target 1 = .error e ∨
          (∃ b, pickEnd R.nodes R.reference (g.keys R) target 1 = .ok b) ∧
            e = .duplicateEdge R.edges) := by
  obtain h | ⟨⟨⟩, -, h⟩ := bind_eq_error.mp h
  · rw [requireNodes_eq hlen] at h
    cases h
  · obtain h | ⟨a, ha, h⟩ := bind_eq_error.mp h
    · exact .inl h
    · refine .inr ⟨⟨a, ha⟩, ?_⟩
      obtain h | ⟨b, hb, h⟩ := bind_eq_error.mp h
      · exact .inl h
      · refine .inr ⟨⟨b, hb⟩, ?_⟩
        obtain h | ⟨⟨⟩, -, h⟩ := bind_eq_error.mp h
        · rw [requireUnique] at h
          cases hd : g.hasDuplicate R none a b data with
          | true =>
            rw [hd] at h
            cases h
            rfl
          | false =>
            rw [hd] at h
            cases h
        · cases h

private theorem addEdge_outcome_error {source target : Option κ} {data : ε}
    (h : (addEdge R source target data).outcome g = .error e) :
    g.newEnds R source target data = .error e := by
  rw [outcome, addEdge_run] at h
  cases hends : g.newEnds R source target data with
  | ok ends =>
    rw [hends] at h
    cases h
  | error e' =>
    rw [hends] at h
    cases h
    rfl

end Graph

section

variable {ε : Type} {kind : Kind} {nodes edges : Collection} {g : Graph String String ε}

private theorem linkNames_settles (hg : Sound (.byName kind nodes edges) Text.IsName g)
    (hlen : 2 ≤ g.nodes.length) (spec : EdgeSpec ε) :
    Decides (linkNames kind nodes edges spec) g (spec.refusal? nodes g.nodes = none)
      (fun g' => g'.edgeSpecs (.byName kind nodes edges) =
        g.edgeSpecs (.byName kind nodes edges) ++ [spec.completed g.nodes])
      fun e => e = (spec.refusal? nodes g.nodes).getD (.duplicateEdge edges) := by
  have hlinks : Links (.byName kind nodes edges) Text.IsName
      (fun spec : EdgeSpec ε => linkNames kind nodes edges spec) id :=
    (links_byName id).answer Reply.created
  have hlinked := hlinks g hg spec
  rw [names_byName] at hlinked
  have hfree : ∀ e ∈ g.edgeSpecs (.byName kind nodes edges),
      ¬ (Rules.byName kind nodes edges).Repeats e (spec.completed g.nodes) :=
    fun _ _ hrepeats => Bool.false_ne_true hrepeats.2.2
  refine (hlinked.imp ?_ (fun g' _ h => h.2.2) fun _ _ h => h).of_error fun e he => ?_
  · rw [EdgeSpec.refusal?_eq_none]
    exact ⟨fun h => h.1, fun h => ⟨h, hlen, hfree⟩⟩
  have hkeys : g.keys (.byName kind nodes edges) = g.nodes := List.map_id _
  have hadd : (addEdge (.byName kind nodes edges) spec.source spec.target spec.data).outcome g =
      .error e := outcome_of_answer_error he
  have hends := newEnds_error (hkeys ▸ hlen) (addEdge_outcome_error hadd)
  rw [hkeys] at hends
  rw [EdgeSpec.refusal?]
  obtain hs | ⟨⟨a, ha⟩, ht | ⟨⟨b, hb⟩, rfl⟩⟩ := hends
  · have hsource : endRefusal? nodes g.nodes spec.source = some e :=
      endRefusal?_of_pickEnd_error (by omega) hs
    rw [hsource]
    rfl
  · have hsource : endRefusal? nodes g.nodes spec.source = none := endRefusal?_of_pickEnd ha
    have htarget : endRefusal? nodes g.nodes spec.target = some e :=
      endRefusal?_of_pickEnd_error (by omega) ht
    rw [hsource, htarget]
    rfl
  · have hsource : endRefusal? nodes g.nodes spec.source = none := endRefusal?_of_pickEnd ha
    have htarget : endRefusal? nodes g.nodes spec.target = none := endRefusal?_of_pickEnd hb
    rw [hsource, htarget]
    rfl

end

namespace Graph

variable {ν ε : Type} {R : Rules Id ν ε} {Named : ν → Prop} {g : Graph Id ν ε} {e : Rejection}
  {named : Option String}

private theorem endRefusal?_of_resolveEnd {key : Option Id}
    (h : resolveEnd R.nodes (g.idNamed R) named = .ok key) :
    endRefusal? R.nodes (g.names R) named = none := by
  refine endRefusal?_eq_none.mpr fun n hn => ?_
  rcases resolveEnd_eq_ok h with ⟨hnone, -⟩ | ⟨m, hm, hsome, -⟩
  · rw [hnone] at hn
    cases hn
  · rw [hsome] at hn
    exact Option.some.inj hn ▸ List.mem_map_of_mem hm

private theorem endRefusal?_of_resolveEnd_error
    (h : resolveEnd R.nodes (g.idNamed R) named = .error e) :
    endRefusal? R.nodes (g.names R) named = some e := by
  cases named with
  | none => cases h
  | some n =>
    have hn : n ∉ g.names R := by
      intro hn
      have hknown : ∀ m, some n = some m → m ∈ g.names R := fun m hm => Option.some.inj hm ▸ hn
      obtain ⟨key, hkey⟩ := resolveEnd_known hknown
      rw [h] at hkey
      cases hkey
    rw [endRefusal?, if_neg hn]
    rw [resolveEnd] at h
    cases hfind : g.idNamed R n with
    | some id =>
      rw [hfind] at h
      cases h
    | none =>
      rw [hfind] at h
      cases h
      rfl

private theorem linkRecords_settles (hg : Sound R Named g) (hlen : 2 ≤ (g.names R).length)
    (spec : EdgeSpec ε) :
    Decides (linkRecords R spec) g
      (spec.refusal? R.nodes (g.names R) = none ∧
        ¬ ∃ e ∈ g.edgeSpecs R, R.Repeats e (spec.completed (g.names R)))
      (fun g' => g'.edgeSpecs R = g.edgeSpecs R ++ [spec.completed (g.names R)])
      fun e => e = (spec.refusal? R.nodes (g.names R)).getD (.duplicateEdge R.edges) := by
  have hlinks : Links R Named (linkRecords R) id := (links_named id).answer Reply.created
  refine ((hlinks g hg spec).imp ?_ (fun g' _ h => h.2.2) fun _ _ h => h).of_error fun e he => ?_
  · rw [EdgeSpec.refusal?_eq_none]
    exact ⟨fun h => ⟨h.1, fun ⟨e, he, hrepeats⟩ => h.2.2 e he hrepeats⟩,
      fun h => ⟨h.1, hlen, fun e he hrepeats => h.2 ⟨e, he, hrepeats⟩⟩⟩
  -- An end that resolves is no reason to refuse, so the reasons are met in the order of the checks.
  rw [EdgeSpec.refusal?]
  have hlinked : (linkNamed R spec).outcome g = .error e := outcome_of_answer_error he
  rw [outcome, linkNamed_run] at hlinked
  cases hends : g.namedEnds R spec with
  | error e' =>
    rw [hends] at hlinked
    cases hlinked
    obtain hs | ⟨source, hs, ht⟩ := bind_eq_error.mp hends
    · rw [endRefusal?_of_resolveEnd_error hs]
      rfl
    · obtain ht | ⟨target, -, ht⟩ := bind_eq_error.mp ht
      · rw [endRefusal?_of_resolveEnd hs, endRefusal?_of_resolveEnd_error ht]
        rfl
      · cases ht
  | ok ends =>
    obtain ⟨source, target⟩ := ends
    rw [hends] at hlinked
    obtain ⟨source', hs, ht⟩ := bind_eq_ok.mp hends
    obtain ⟨target', ht, heq⟩ := bind_eq_ok.mp ht
    cases heq
    have hadd := addEdge_outcome_error hlinked
    have hnodes : 2 ≤ g.nodes.length := by
      rw [names, List.length_map] at hlen
      exact hlen
    have hsource : g.Meant R spec.source source := resolveEnd_eq_ok hs
    have htarget : g.Meant R spec.target target := resolveEnd_eq_ok ht
    obtain ⟨a, -, b, -, -, hnew⟩ := newEnds_meant hg hsource htarget hnodes
    rw [endRefusal?_of_resolveEnd hs, endRefusal?_of_resolveEnd ht]
    rw [hnew] at hadd
    cases hd : g.hasDuplicate R none a b spec.data with
    | true =>
      rw [hd] at hadd
      cases hadd
      rfl
    | false =>
      rw [hd] at hadd
      cases hadd

end Graph

namespace UseCaseDiagram

private theorem addLink_outcome_error {d : UseCaseDiagram} {actor useCase : Option String}
    {e : Rejection} (h : (addLink actor useCase).outcome d = .error e) :
    d.newEnds actor useCase = .error e := by
  rw [outcome, addLink_run] at h
  cases hends : d.newEnds actor useCase with
  | ok ends =>
    rw [hends] at h
    cases h
  | error e' =>
    rw [hends] at h
    cases h
    rfl

private theorem addLink_settles {d : UseCaseDiagram} (hd : d.Sound) (ha : d.actors ≠ [])
    (hu : d.useCases ≠ []) (l : LinkSpec) :
    Decides (addLink l.actor l.useCase) d
      ((endRefusal? .useCaseActors d.actors l.actor).or
        (endRefusal? .useCases d.useCases l.useCase) = none)
      (fun d' => d'.listedLinks = d.listedLinks ++ [l.completed d.actors d.useCases])
      fun e => (endRefusal? .useCaseActors d.actors l.actor).or
        (endRefusal? .useCases d.useCases l.useCase) = some e := by
  refine ((addLink_decides hd l).imp ?_ (fun d' _ h => h.2.2.2) fun _ _ h => h).of_error
    fun e he => ?_
  · rw [Option.or_eq_none_iff, endRefusal?_eq_none, endRefusal?_eq_none]
    exact ⟨fun h => ⟨h.1.actor, h.1.useCase⟩, fun h => ⟨⟨h.1, h.2⟩, ha, hu⟩⟩
  obtain h | ⟨⟨⟩, -, h⟩ := bind_eq_error.mp (addLink_outcome_error he)
  · rw [requireNodes_nonempty _ ha] at h
    cases h
  obtain h | ⟨⟨⟩, -, h⟩ := bind_eq_error.mp h
  · rw [requireNodes_nonempty _ hu] at h
    cases h
  obtain h | ⟨a, hactor, h⟩ := bind_eq_error.mp h
  · rw [endRefusal?_of_pickEnd_error (List.length_pos_iff.mpr ha) h]
    rfl
  obtain h | ⟨u, -, h⟩ := bind_eq_error.mp h
  · rw [endRefusal?_of_pickEnd hactor,
      endRefusal?_of_pickEnd_error (List.length_pos_iff.mpr hu) h]
    rfl
  · cases h

end UseCaseDiagram

/-- The actions that add an edge and name its ends, where these are not open: with the collections
of its sources, of its targets, and of the edges. -/
inductive Joins (source target : Option String) :
    Collection → Collection → Collection → Action → Prop
  | message (arrow : Arrow) (text : String) :
    Joins source target .actors .actors .messages
      (.edit (.sequence (.addMessage source target arrow text)))
  | classRelationship (kind : ClassRelation) (label : String) :
    Joins source target .classes .classes .classRelationships
      (.classRelationship ⟨source, target, kind, label⟩)
  | useCaseLink :
    Joins source target .useCaseActors .useCases .useCaseLinks
      (.edit (.useCase (.addLink source target)))
  | erRelationship (kind : ErRelation) (label : String) :
    Joins source target .entities .entities .erRelationships
      (.erRelationship ⟨source, target, kind, label⟩)
  | flow :
    Joins source target .activities .activities .activityFlows
      (.edit (.activity (.addEdge source target)))
  | dependency :
    Joins source target .components .components .componentDependencies
      (.edit (.component (.addEdge source target)))
  | transition (event : String) :
    Joins source target .states .states .stateTransitions
      (.edit (.state (.addTransition source target event)))

/-- The target of an edge whose target is open: the first node of another collection, or the second
one of the collection of its source. -/
def Collection.defaultTarget (c other : Collection) : Nat :=
  if c = other then 1 else 0

namespace Store

variable {s : Store} {c other edges : Collection} {source target : Option String} {action : Action}

def edgeEnds (s : Store) : Collection → List (Option String × Option String)
  | .messages => (s.sequence.edgeSpecs SequenceDiagram.rules).map fun e => (e.source, e.target)
  | .classRelationships =>
    (s.classes.edgeSpecs ClassDiagram.rules).map fun e => (e.source, e.target)
  | .useCaseLinks => s.useCase.listedLinks.map fun l => (l.actor, l.useCase)
  | .erRelationships =>
    (s.entity.edgeSpecs EntityDiagram.rules).map fun e => (e.source, e.target)
  | .activityFlows =>
    (s.activity.edgeSpecs FlowDiagram.activityRules).map fun e => (e.source, e.target)
  | .componentDependencies =>
    (s.component.edgeSpecs FlowDiagram.componentRules).map fun e => (e.source, e.target)
  | .stateTransitions =>
    (s.state.edgeSpecs StateDiagram.rules).map fun e => (e.source, e.target)
  | _ => []

/-- There are nodes for the open ends of an edge. -/
def CanJoin (s : Store) (c other : Collection) : Prop :=
  0 < (s.nodeNames c).length ∧ c.defaultTarget other < (s.nodeNames other).length

private theorem CanJoin.two (h : s.CanJoin c c) : 2 ≤ (s.nodeNames c).length := by
  have hlen := h.2
  rw [Collection.defaultTarget, if_pos rfl] at hlen
  exact hlen

/-- The action would add an edge that is there already, and may be there only once. -/
def Repeats (s : Store) : Action → Prop
  | .classRelationship r => ∃ e ∈ s.classes.edgeSpecs ClassDiagram.rules,
    ClassDiagram.rules.Repeats e (r.edge.completed (s.nodeNames .classes))
  | .erRelationship r => ∃ e ∈ s.entity.edgeSpecs EntityDiagram.rules,
    EntityDiagram.rules.Repeats e (r.edge.completed (s.nodeNames .entities))
  | _ => False

/-- What an action that adds an edge comes to. It is refused for the given reason; without one it
makes the edge the last one, unless it repeats another. -/
def Joined (s : Store) (refusal : Option Rejection) (edges : Collection)
    (ends : Option String × Option String) (action : Action) : Prop :=
  match action.perform.run s with
  | .ok _ s' =>
    refusal = none ∧ ¬ s.Repeats action ∧ s'.edgeEnds edges = s.edgeEnds edges ++ [ends]
  | .error e _ => refusal = some e ∨
    refusal = none ∧ s.Repeats action ∧ e = .duplicateEdge edges

private theorem joined_of {τ : Type} {L : Part τ} {x : Editing τ Reply} {F : τ → Prop}
    {refusal : Option Rejection} {ends : Option String × Option String}
    (hperforms : ∀ place, Step.Performs L ⟨place, action⟩ x)
    (hx : Decides x (L.part s) (refusal = none ∧ ¬ s.Repeats action) F
      fun e => e = refusal.getD (.duplicateEdge edges))
    (hF : ∀ t, F t → (L.put s t).edgeEnds edges = s.edgeEnds edges ++ [ends]) :
    s.Joined refusal edges ends action := by
  rw [Decides] at hx
  rw [Joined, hperforms (.style "") s]
  cases hr : x.run (L.part s) with
  | ok a t =>
    rw [hr] at hx
    exact ⟨hx.1.1, hx.1.2, hF t hx.2⟩
  | error e t =>
    rw [hr] at hx
    obtain ⟨hfails, he⟩ := hx
    cases refusal with
    | some e' => exact .inl (congrArg some he.symm)
    | none => exact .inr ⟨rfl, not_not.mp fun h => hfails ⟨rfl, h⟩, he⟩

section

variable {ε : Type} {nodes : Collection} {data : ε}

private theorem joined_names {kind : Kind} {L : Part (Graph String String ε)}
    (hg : Graph.Sound (.byName kind nodes edges) Text.IsName (L.part s))
    (hnames : s.nodeNames nodes = (L.part s).nodes)
    (hends : ∀ t, (L.put s t).edgeEnds edges =
      (t.edgeSpecs (.byName kind nodes edges)).map fun e => (e.source, e.target))
    (hperforms : ∀ place, Step.Performs L ⟨place, action⟩
      (linkNames kind nodes edges ⟨source, target, data⟩))
    (hfree : ¬ s.Repeats action) (hcan : s.CanJoin nodes nodes) :
    s.Joined ((endRefusal? nodes (s.nodeNames nodes) source).or
        (endRefusal? nodes (s.nodeNames nodes) target)) edges
      (source.or (s.nodeNames nodes)[0]?,
        target.or (s.nodeNames nodes)[nodes.defaultTarget nodes]?) action := by
  have hlen := hcan.two
  have hself := hends (L.part s)
  rw [L.put_part] at hself
  rw [hnames] at hlen ⊢
  rw [Collection.defaultTarget, if_pos rfl]
  have hlink := linkNames_settles hg hlen ⟨source, target, data⟩
  refine joined_of hperforms (hlink.imp (and_iff_left hfree).symm (fun _ _ h => h) fun _ _ h => h)
    fun t ht => ?_
  rw [hends, ht, hself, List.map_append]
  rfl

private theorem joined_records {ν : Type} {R : Rules Id ν ε} {Named : ν → Prop}
    {L : Part (Graph Id ν ε)} (hg : Graph.Sound R Named (L.part s))
    (hnames : s.nodeNames R.nodes = (L.part s).names R)
    (hends : ∀ t, (L.put s t).edgeEnds R.edges = (t.edgeSpecs R).map fun e => (e.source, e.target))
    (hperforms : ∀ place, Step.Performs L ⟨place, action⟩ (linkRecords R ⟨source, target, data⟩))
    (hrepeats : s.Repeats action ↔ ∃ e ∈ (L.part s).edgeSpecs R,
      R.Repeats e (EdgeSpec.completed ((L.part s).names R) ⟨source, target, data⟩))
    (hcan : s.CanJoin R.nodes R.nodes) :
    s.Joined ((endRefusal? R.nodes (s.nodeNames R.nodes) source).or
        (endRefusal? R.nodes (s.nodeNames R.nodes) target)) R.edges
      (source.or (s.nodeNames R.nodes)[0]?,
        target.or (s.nodeNames R.nodes)[R.nodes.defaultTarget R.nodes]?) action := by
  have hlen := hcan.two
  have hself := hends (L.part s)
  rw [L.put_part] at hself
  rw [hnames] at hlen ⊢
  rw [Collection.defaultTarget, if_pos rfl]
  have hlink := linkRecords_settles hg hlen ⟨source, target, data⟩
  rw [← hrepeats] at hlink
  refine joined_of hperforms hlink fun t ht => ?_
  rw [hends, ht, hself, List.map_append]
  rfl

end

private theorem joined_useCases (h : s.useCase.Sound) (hcan : s.CanJoin .useCaseActors .useCases) :
    s.Joined ((endRefusal? .useCaseActors s.useCase.actors source).or
        (endRefusal? .useCases s.useCase.useCases target)) .useCaseLinks
      (source.or s.useCase.actors[0]?, target.or s.useCase.useCases[0]?)
      (.edit (.useCase (.addLink source target))) := by
  have ha : s.useCase.actors ≠ [] := List.length_pos_iff.mp hcan.1
  have hu : s.useCase.useCases ≠ [] := List.length_pos_iff.mp hcan.2
  have hlink := (UseCaseDiagram.addLink_settles h ha hu ⟨source, target⟩).answer Reply.created
  refine joined_of (L := Part.useCase) (performs_edit rfl)
    (hlink.imp (and_iff_left id).symm (fun _ _ h => h) fun e _ he => ?_) fun d hd => ?_
  · rw [he]
    rfl
  · exact (congrArg (List.map fun l => (l.actor, l.useCase)) hd).trans List.map_append

/-- The ends of an edge are named as they are asked for, and the names have to be there. -/
theorem joins_joined (h : s.Sound) (hjoins : Joins source target c other edges action)
    (hcan : s.CanJoin c other) :
    s.Joined ((endRefusal? c (s.nodeNames c) source).or
        (endRefusal? other (s.nodeNames other) target)) edges
      (source.or (s.nodeNames c)[0]?, target.or (s.nodeNames other)[c.defaultTarget other]?)
      action := by
  cases hjoins with
  | message arrow text =>
    exact joined_names (L := Part.sequence) h.sequence (List.map_id _) (fun _ => rfl)
      (performs_edit rfl) id hcan
  | classRelationship kind label =>
    exact joined_records (L := Part.classes) h.classes rfl (fun _ => rfl)
      (performs_classRelationship ⟨source, target, kind, label⟩) Iff.rfl hcan
  | useCaseLink => exact joined_useCases h.useCase hcan
  | erRelationship kind label =>
    exact joined_records (L := Part.entity) h.entity rfl (fun _ => rfl)
      (performs_erRelationship ⟨source, target, kind, label⟩) Iff.rfl hcan
  | flow =>
    exact joined_names (L := Part.activity) h.activity (List.map_id _) (fun _ => rfl)
      (performs_edit rfl) id hcan
  | dependency =>
    exact joined_names (L := Part.component) h.component (List.map_id _) (fun _ => rfl)
      (performs_edit rfl) id hcan
  | transition event =>
    exact joined_names (L := Part.state) h.state (List.map_id _) (fun _ => rfl)
      (performs_edit rfl) id hcan

end Store

end UmlDiagrams
