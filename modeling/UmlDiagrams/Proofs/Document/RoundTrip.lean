import UmlDiagrams.Proofs.Document.Apply
import UmlDiagrams.Proofs.Graph.RoundTrip
/-!
# Stores rebuilt from their documents

The document that lists a store rebuilds the store, up to identifiers. The only stores that cannot be
rebuilt are those in which a diagram is left with edges at a single node.
-/

namespace UmlDiagrams

open UmlDiagrams.Graph

def ClassRecord.withId (id : Id) (c : ClassRecord) : ClassRecord :=
  { c with id }

def EntityRecord.withId (id : Id) (e : EntityRecord) : EntityRecord :=
  { e with id }

def UseCaseLink.withId (id : Id) (l : UseCaseLink) : UseCaseLink :=
  { l with id }

structure UseCaseDiagram.Renamed (link : Id → Id) (d d' : UseCaseDiagram) : Prop where
  actors : d'.actors = d.actors
  useCases : d'.useCases = d.useCases
  links : d'.links = d.links.map fun l => l.withId (link l.id)

namespace Store

/-- The identifiers in use in a collection. -/
def ids (s : Store) : Collection → List Id
  | .messages => s.sequence.edges.map (·.id)
  | .classes => s.classes.nodes.map (·.id)
  | .classRelationships => s.classes.edges.map (·.id)
  | .useCaseLinks => s.useCase.links.map (·.id)
  | .entities => s.entity.nodes.map (·.id)
  | .erRelationships => s.entity.edges.map (·.id)
  | .activityFlows => s.activity.edges.map (·.id)
  | .componentDependencies => s.component.edges.map (·.id)
  | .stateTransitions => s.state.edges.map (·.id)
  | _ => []

/-- The second store is the first one with the identifiers of each collection renamed, so that
different ones stay different. -/
structure Renamed (ρ : Collection → Id → Id) (s s' : Store) : Prop where
  injective : ∀ c, Set.InjOn (ρ c) {i | i ∈ s.ids c}
  kind : s'.kind = s.kind
  style : s'.style = s.style
  sequence : s.sequence.Renamed id id (ρ .messages) s'.sequence
  classes : s.classes.Renamed (fun c => c.withId (ρ .classes c.id)) (ρ .classes)
    (ρ .classRelationships) s'.classes
  useCase : s.useCase.Renamed (ρ .useCaseLinks) s'.useCase
  entity : s.entity.Renamed (fun e => e.withId (ρ .entities e.id)) (ρ .entities)
    (ρ .erRelationships) s'.entity
  activity : s.activity.Renamed id id (ρ .activityFlows) s'.activity
  component : s.component.Renamed id id (ρ .componentDependencies) s'.component
  state : s.state.Renamed id id (ρ .stateTransitions) s'.state

end Store

structure Store.Replayable (s : Store) : Prop where
  sequence : s.sequence.Replayable
  classes : s.classes.Replayable
  entity : s.entity.Replayable
  activity : s.activity.Replayable
  component : s.component.Replayable
  state : s.state.Replayable

private theorem Style.listed_injective : Function.Injective Style.listed := by
  intro s t h
  obtain ⟨hbackground, htext, hprimary, hdirection⟩ := StyleOverrides.mk.inj h
  cases s
  cases t
  cases hbackground
  cases htext
  cases hprimary
  cases hdirection
  rfl

private theorem exists_name_renaming {ε : Type} {kind : Kind} {nodes edges : Collection}
    {g g' : Graph String String ε} (hg : Sound (.byName kind nodes edges) Text.IsName g)
    (hg' : Sound (.byName kind nodes edges) Text.IsName g') (hnodes : g.nodes = g'.nodes)
    (hedges : g.edges.map (fun e => (e.source, e.target, e.data)) =
      g'.edges.map fun e => (e.source, e.target, e.data)) :
    ∃ ρ : Id → Id, Set.InjOn ρ {i | i ∈ g.edges.map (·.id)} ∧ g.Renamed id id ρ g' := by
  obtain ⟨ρ, hinj, hrenamed⟩ := exists_edge_renaming id hg hg' hedges
  exact ⟨ρ, hinj, hnodes ▸ (List.map_id _).symm, hrenamed⟩

private theorem SequenceDiagram.exists_renaming {d d' : SequenceDiagram}
    (hd : Sound rules Text.IsName d) (hd' : Sound rules Text.IsName d')
    (h : SequenceDiagram.listed d = SequenceDiagram.listed d') :
    ∃ ρ : Id → Id, Set.InjOn ρ {i | i ∈ d.edges.map (·.id)} ∧ d.Renamed id id ρ d' := by
  have hedges := congrArg (fun c => c.messages.map fun m : MessageSpec =>
    (m.source.getD "", m.target.getD "", Message.mk m.arrow m.text)) h
  simp only [SequenceDiagram.listed, List.map_map] at hedges
  exact exists_name_renaming hd hd' (congrArg SequenceSection.actors h) hedges

private theorem FlowDiagram.exists_renaming {kind : Kind} {nodes edges : Collection}
    {d d' : FlowDiagram} (hd : Sound (.byName kind nodes edges) Text.IsName d)
    (hd' : Sound (.byName kind nodes edges) Text.IsName d')
    (h : FlowDiagram.listed d = FlowDiagram.listed d') :
    ∃ ρ : Id → Id, Set.InjOn ρ {i | i ∈ d.edges.map (·.id)} ∧ d.Renamed id id ρ d' := by
  have hedges := congrArg (fun c => c.edges.map fun f : FlowSpec =>
    (f.source.getD "", f.target.getD "", ())) h
  simp only [FlowDiagram.listed, List.map_map] at hedges
  exact exists_name_renaming hd hd' (congrArg FlowSection.nodes h) hedges

private theorem StateDiagram.exists_renaming {d d' : StateDiagram}
    (hd : Sound rules Text.IsName d) (hd' : Sound rules Text.IsName d')
    (h : StateDiagram.listed d = StateDiagram.listed d') :
    ∃ ρ : Id → Id, Set.InjOn ρ {i | i ∈ d.edges.map (·.id)} ∧ d.Renamed id id ρ d' := by
  have hedges := congrArg (fun c => c.transitions.map fun t : TransitionSpec =>
    (t.source.getD "", t.target.getD "", t.event)) h
  simp only [StateDiagram.listed, List.map_map] at hedges
  exact exists_name_renaming hd hd' (congrArg StateSection.states h) hedges

private theorem UseCaseDiagram.exists_renaming {d d' : UseCaseDiagram} (hd : d.Sound)
    (hd' : d'.Sound) (h : d.listed = d'.listed) :
    ∃ ρ : Id → Id, Set.InjOn ρ {i | i ∈ d.links.map (·.id)} ∧ d.Renamed ρ d' := by
  have hview (l m : UseCaseLink) (heq : (⟨some l.actor, some l.useCase⟩ : LinkSpec) =
      ⟨some m.actor, some m.useCase⟩) : m = l.withId m.id := by
    obtain ⟨ha, hu⟩ := LinkSpec.mk.inj heq
    rw [UseCaseLink.withId, Option.some.inj ha, Option.some.inj hu]
  obtain ⟨ρ, hinj, hlinks⟩ := UmlDiagrams.exists_renaming (fun l : UseCaseLink => l.id)
    UseCaseLink.withId (fun _ _ => rfl) hview (congrArg UseCaseSection.links h) hd.linkIds
    hd'.linkIds
  exact ⟨ρ, hinj, (congrArg UseCaseSection.actors h).symm,
    (congrArg UseCaseSection.useCases h).symm, hlinks⟩

private theorem edges_of_relationships {ν α : Type} {R : Rules Id ν (Relation α)}
    (g : Graph Id ν (Relation α)) :
    (g.edges.map fun e => (⟨g.endName R e.source, g.endName R e.target, e.data.kind,
        e.data.label⟩ : RelationSpec α)).map (·.edge) = g.edgeSpecs R :=
  List.map_map

private theorem ClassDiagram.exists_renaming {d d' : ClassDiagram}
    (hd : Sound rules ClassRecord.Named d) (hd' : Sound rules ClassRecord.Named d')
    (h : ClassDiagram.listed d = ClassDiagram.listed d') :
    ∃ ρ σ : Id → Id, Set.InjOn ρ {i | i ∈ d.nodes.map (·.id)} ∧
      Set.InjOn σ {i | i ∈ d.edges.map (·.id)} ∧
      d.Renamed (fun c => c.withId (ρ c.id)) ρ σ d' := by
  have hview (b c : ClassRecord) (heq : b.listed = c.listed) : c = b.withId c.id := by
    obtain ⟨hname, habstract, hattributes, hmethods⟩ := ClassSpec.mk.inj heq
    rw [ClassRecord.withId, hname, habstract, hattributes, hmethods]
  have hedges := congrArg (fun c => c.relationships.map (·.edge)) h
  have hedges := (edges_of_relationships d).symm.trans (hedges.trans (edges_of_relationships d'))
  exact exists_record_renaming hd hd' ClassRecord.withId (fun _ _ => rfl) (fun _ _ => rfl) hview
    (congrArg ClassSection.classes h) hedges

private theorem EntityDiagram.exists_renaming {d d' : EntityDiagram}
    (hd : Sound rules EntityRecord.Named d) (hd' : Sound rules EntityRecord.Named d')
    (h : EntityDiagram.listed d = EntityDiagram.listed d') :
    ∃ ρ σ : Id → Id, Set.InjOn ρ {i | i ∈ d.nodes.map (·.id)} ∧
      Set.InjOn σ {i | i ∈ d.edges.map (·.id)} ∧
      d.Renamed (fun e => e.withId (ρ e.id)) ρ σ d' := by
  have hview (e f : EntityRecord) (heq : e.listed = f.listed) : f = e.withId f.id := by
    obtain ⟨hname, hattributes⟩ := EntitySpec.mk.inj heq
    rw [EntityRecord.withId, hname, hattributes]
  have hedges := congrArg (fun c => c.relationships.map (·.edge)) h
  have hedges := (edges_of_relationships d).symm.trans (hedges.trans (edges_of_relationships d'))
  exact exists_record_renaming hd hd' EntityRecord.withId (fun _ _ => rfl) (fun _ _ => rfl) hview
    (congrArg EntitySection.entities h) hedges

/-- Sound stores that list the same are alike up to identifiers. -/
private theorem Store.exists_renaming {s s' : Store} (hs : s.Sound) (hs' : s'.Sound)
    (h : s'.document = s.document) : ∃ ρ, s.Renamed ρ s' := by
  have h := h.symm
  obtain ⟨messages, hmessages, hsequence⟩ := SequenceDiagram.exists_renaming hs.sequence
    hs'.sequence (congrArg Document.sequence h)
  obtain ⟨classes, relations, hclassIds, hrelations, hclasses⟩ := ClassDiagram.exists_renaming
    hs.classes hs'.classes (congrArg Document.classes h)
  obtain ⟨links, hlinks, huseCase⟩ := UseCaseDiagram.exists_renaming hs.useCase hs'.useCase
    (congrArg Document.useCase h)
  obtain ⟨entities, erRelations, hentityIds, herRelations, hentity⟩ :=
    EntityDiagram.exists_renaming hs.entity hs'.entity (congrArg Document.entity h)
  obtain ⟨flows, hflows, hactivity⟩ := FlowDiagram.exists_renaming hs.activity hs'.activity
    (congrArg Document.activity h)
  obtain ⟨dependencies, hdependencies, hcomponent⟩ := FlowDiagram.exists_renaming hs.component
    hs'.component (congrArg Document.component h)
  obtain ⟨transitions, htransitions, hstate⟩ := StateDiagram.exists_renaming hs.state hs'.state
    (congrArg Document.state h)
  let ρ : Collection → Id → Id
    | .messages => messages
    | .classes => classes
    | .classRelationships => relations
    | .useCaseLinks => links
    | .entities => entities
    | .erRelationships => erRelations
    | .activityFlows => flows
    | .componentDependencies => dependencies
    | .stateTransitions => transitions
    | _ => id
  refine ⟨ρ, fun c => ?_, congrArg Document.kind h.symm, ?_, hsequence, hclasses, huseCase,
    hentity, hactivity, hcomponent, hstate⟩
  · cases c with
    | messages => exact hmessages
    | classes => exact hclassIds
    | classRelationships => exact hrelations
    | useCaseLinks => exact hlinks
    | entities => exact hentityIds
    | erRelationships => exact herRelations
    | activityFlows => exact hflows
    | componentDependencies => exact hdependencies
    | stateTransitions => exact htransitions
    | _ => exact fun i hi => absurd hi List.not_mem_nil
  · exact (Style.listed_injective (congrArg Document.style h)).symm

private theorem map_trim {names : List String} (h : ∀ n ∈ names, Text.IsName n) :
    names.map Text.trim = names := by
  conv_rhs => rw [← List.map_id names]
  exact List.map_congr_left fun n hn => (h n hn).trimmed

namespace SequenceDiagram

variable {d : SequenceDiagram} (hd : Sound rules Text.IsName d)
include hd

private theorem listed_names : (SequenceDiagram.listed d).names = d.names rules :=
  (map_trim hd.named).trans names_byName.symm

private theorem listed_edges :
    (SequenceDiagram.listed d).messages.map (·.edge) = d.edgeSpecs rules :=
  List.map_map.trans (edgeSpecs_byName hd).symm

private theorem completed_listed :
    (SequenceDiagram.listed d).completed = SequenceDiagram.listed d := by
  rw [SequenceSection.completed, listed_names hd]
  exact congrArg₂ SequenceSection.mk names_byName List.map_map

end SequenceDiagram

namespace FlowDiagram

variable {kind : Kind} {nodes edges : Collection} {d : FlowDiagram}
  (hd : Sound (.byName kind nodes edges) Text.IsName d)
include hd

private theorem listed_names : (FlowDiagram.listed d).names = d.names (.byName kind nodes edges) :=
  (map_trim hd.named).trans names_byName.symm

private theorem listed_edges :
    (FlowDiagram.listed d).edges.map (·.edge) = d.edgeSpecs (.byName kind nodes edges) :=
  List.map_map.trans (edgeSpecs_byName hd).symm

private theorem completed_listed : (FlowDiagram.listed d).completed = FlowDiagram.listed d := by
  rw [FlowSection.completed, listed_names hd]
  exact congrArg₂ FlowSection.mk names_byName List.map_map

end FlowDiagram

namespace StateDiagram

variable {d : StateDiagram} (hd : Sound rules Text.IsName d)
include hd

private theorem listed_names : (StateDiagram.listed d).names = d.names rules :=
  (map_trim hd.named).trans names_byName.symm

private theorem listed_edges :
    (StateDiagram.listed d).transitions.map (·.edge) = d.edgeSpecs rules :=
  List.map_map.trans (edgeSpecs_byName hd).symm

private theorem completed_listed : (StateDiagram.listed d).completed = StateDiagram.listed d := by
  rw [StateSection.completed, listed_names hd]
  exact congrArg₂ StateSection.mk names_byName List.map_map

end StateDiagram

private theorem relationships_completed {ν α : Type} {R : Rules Id ν (Relation α)}
    {Named : ν → Prop} {g : Graph Id ν (Relation α)} (hg : Sound R Named g) (names : List String) :
    (g.edges.map fun e => (⟨g.endName R e.source, g.endName R e.target, e.data.kind,
        e.data.label⟩ : RelationSpec α)).map (fun r =>
          { r with source := r.source.or names[0]?, target := r.target.or names[1]? }) =
      g.edges.map fun e => ⟨g.endName R e.source, g.endName R e.target, e.data.kind,
        e.data.label⟩ := by
  rw [List.map_map]
  refine List.map_congr_left fun e he => ?_
  obtain ⟨s, -, hs⟩ := endName_isSome hg (hg.ends e he).1
  obtain ⟨t, -, ht⟩ := endName_isSome hg (hg.ends e he).2
  rw [Function.comp_apply, hs, ht]
  rfl

private theorem map_trimmed {α : Type} {name : α → String} (trimmed : α → α) {members : List α}
    (htrimmed : ∀ m, Text.trim (name m) = name m → trimmed m = m)
    (h : ∀ m ∈ members, Text.IsName (name m)) : members.map trimmed = members := by
  conv_rhs => rw [← List.map_id members]
  exact List.map_congr_left fun m hm => htrimmed m (h m hm).trimmed

namespace ClassDiagram

private theorem trimmed_listed {c : ClassRecord} (hc : c.Named) : c.listed.trimmed = c.listed := by
  have hattributes := map_trimmed ClassAttribute.trimmed (fun a h => by
    rw [ClassAttribute.trimmed, h]) hc.attributes
  have hmethods := map_trimmed ClassMethod.trimmed (fun m h => by
    rw [ClassMethod.trimmed, h]) hc.methods
  rw [ClassSpec.trimmed, ClassRecord.listed, hattributes, hmethods, hc.name.trimmed]

private theorem listed_membersNamed {c : ClassRecord} (hc : c.Named) : c.listed.MembersNamed where
  attributes a ha := (hc.attributes a ha).trimmed.symm ▸ (hc.attributes a ha).nonempty
  methods m hm := (hc.methods m hm).trimmed.symm ▸ (hc.methods m hm).nonempty

variable {d : ClassDiagram} (hd : Sound rules ClassRecord.Named d)
include hd

private theorem listed_names : (ClassDiagram.listed d).names = d.names rules := by
  refine List.map_map.trans (List.map_congr_left fun c hc => ?_)
  exact (hd.named c hc).name.trimmed

private theorem completed_listed : (ClassDiagram.listed d).completed = ClassDiagram.listed d := by
  have hclasses : (d.nodes.map ClassRecord.listed).map ClassSpec.trimmed =
      d.nodes.map ClassRecord.listed :=
    List.map_map.trans (List.map_congr_left fun c hc => trimmed_listed (hd.named c hc))
  exact congrArg₂ ClassSection.mk hclasses (relationships_completed hd _)

end ClassDiagram

namespace EntityDiagram

private theorem trimmed_listed {e : EntityRecord} (he : e.Named) : e.listed.trimmed = e.listed := by
  have hattributes := map_trimmed EntityAttribute.trimmed (fun a h => by
    rw [EntityAttribute.trimmed, h]) he.attributes
  rw [EntitySpec.trimmed, EntityRecord.listed, hattributes, he.name.trimmed]

private theorem listed_membersNamed {e : EntityRecord} (he : e.Named) : e.listed.MembersNamed :=
  fun a ha => (he.attributes a ha).trimmed.symm ▸ (he.attributes a ha).nonempty

variable {d : EntityDiagram} (hd : Sound rules EntityRecord.Named d)
include hd

private theorem listed_names : (EntityDiagram.listed d).names = d.names rules := by
  refine List.map_map.trans (List.map_congr_left fun e he => ?_)
  exact (hd.named e he).name.trimmed

private theorem completed_listed : (EntityDiagram.listed d).completed = EntityDiagram.listed d := by
  have hentities : (d.nodes.map EntityRecord.listed).map EntitySpec.trimmed =
      d.nodes.map EntityRecord.listed :=
    List.map_map.trans (List.map_congr_left fun e he => trimmed_listed (hd.named e he))
  exact congrArg₂ EntitySection.mk hentities (relationships_completed hd _)

end EntityDiagram

namespace UseCaseDiagram

variable {d : UseCaseDiagram} (hd : d.Sound)
include hd

private theorem listed_actorNames : d.listed.actorNames = d.actors :=
  map_trim hd.namedActors

private theorem listed_useCaseNames : d.listed.useCaseNames = d.useCases :=
  map_trim hd.namedUseCases

private theorem completed_listed : d.listed.completed = d.listed := by
  rw [UseCaseSection.completed, listed_actorNames hd, listed_useCaseNames hd]
  exact congrArg (UseCaseSection.mk d.actors d.useCases) List.map_map

private theorem listed_fits : d.listed.Fits := by
  have hnames : d.listed.actorNames ++ d.listed.useCaseNames = d.names := by
    rw [listed_actorNames hd, listed_useCaseNames hd]
    rfl
  refine ⟨fun n hn => ?_, ?_, fun l hl => ?_⟩
  · rw [hnames] at hn
    rcases List.mem_append.mp hn with hn | hn
    · exact (hd.namedActors n hn).nonempty
    · exact (hd.namedUseCases n hn).nonempty
  · rw [hnames]
    exact printKeys_names hd
  · rw [listed_actorNames hd, listed_useCaseNames hd]
    obtain ⟨link, hlink, rfl⟩ := List.mem_map.mp hl
    obtain ⟨ha, hu⟩ := hd.ends link hlink
    refine ⟨fun n hn => ?_, fun n hn => ?_⟩
    · exact Option.some.inj hn ▸ ha
    · exact Option.some.inj hn ▸ hu

private theorem listed_enoughNodes : d.listed.EnoughNodes := by
  have hends (hne : d.listed.links ≠ []) : d.actors ≠ [] ∧ d.useCases ≠ [] := by
    have hlinks : d.links ≠ [] := fun hnil => hne (congrArg (List.map _) hnil)
    obtain ⟨link, links, hcons⟩ := List.exists_cons_of_ne_nil hlinks
    obtain ⟨ha, hu⟩ := hd.ends link (hcons ▸ List.mem_cons_self)
    exact ⟨List.ne_nil_of_mem ha, List.ne_nil_of_mem hu⟩
  refine ⟨fun hne => ?_, fun hne => ?_⟩
  · rw [listed_actorNames hd]
    exact (hends hne).1
  · rw [listed_useCaseNames hd]
    exact (hends hne).2

end UseCaseDiagram

namespace Store

variable {s : Store}

private theorem completed_document (hs : s.Sound) (hstyle : s.style.Valid) (style : Style) :
    s.document.completed style = s.document := by
  have hcolors : s.style.listed.completed style = s.style := by
    have hbackground := (Color.parse_eq_ok.mp hstyle.background).1
    have htext := (Color.parse_eq_ok.mp hstyle.text).1
    have hprimary := (Color.parse_eq_ok.mp hstyle.primary).1
    change (⟨Text.trim s.style.background, Text.trim s.style.text, Text.trim s.style.primary,
      s.style.direction⟩ : Style) = s.style
    rw [← hbackground, ← htext, ← hprimary]
  rw [document, Document.completed, hcolors, SequenceDiagram.completed_listed hs.sequence,
    ClassDiagram.completed_listed hs.classes, UseCaseDiagram.completed_listed hs.useCase,
    EntityDiagram.completed_listed hs.entity, FlowDiagram.completed_listed hs.activity,
    FlowDiagram.completed_listed hs.component, StateDiagram.completed_listed hs.state]

private theorem document_fits (hs : s.Sound) (hstyle : s.style.Valid) : s.document.Fits where
  style := by
    refine ⟨?_, ?_, ?_⟩
    · rintro _ ⟨⟩
      obtain ⟨htrim, hcolor⟩ := Color.parse_eq_ok.mp hstyle.background
      exact htrim ▸ hcolor
    · rintro _ ⟨⟩
      obtain ⟨htrim, hcolor⟩ := Color.parse_eq_ok.mp hstyle.text
      exact htrim ▸ hcolor
    · rintro _ ⟨⟩
      obtain ⟨htrim, hcolor⟩ := Color.parse_eq_ok.mp hstyle.primary
      exact htrim ▸ hcolor
  sequence := by
    rw [document, SequenceDiagram.listed_names hs.sequence, SequenceDiagram.listed_edges hs.sequence]
    exact listed_fits hs.sequence fun _ h => h
  classes := by
    rw [document, ClassDiagram.listed_names hs.classes]
    exact edges_of_relationships s.classes ▸ listed_fits hs.classes fun _ h => h.name
  classMembers spec hspec := by
    obtain ⟨c, hc, rfl⟩ := List.mem_map.mp hspec
    exact ClassDiagram.listed_membersNamed (hs.classes.named c hc)
  useCase := UseCaseDiagram.listed_fits hs.useCase
  entity := by
    rw [document, EntityDiagram.listed_names hs.entity]
    exact edges_of_relationships s.entity ▸ listed_fits hs.entity fun _ h => h.name
  entityMembers spec hspec := by
    obtain ⟨e, he, rfl⟩ := List.mem_map.mp hspec
    exact EntityDiagram.listed_membersNamed (hs.entity.named e he)
  activity := by
    rw [document, FlowDiagram.listed_names hs.activity, FlowDiagram.listed_edges hs.activity]
    exact listed_fits hs.activity fun _ h => h
  component := by
    rw [document, FlowDiagram.listed_names hs.component, FlowDiagram.listed_edges hs.component]
    exact listed_fits hs.component fun _ h => h
  state := by
    rw [document, StateDiagram.listed_names hs.state, StateDiagram.listed_edges hs.state]
    exact listed_fits hs.state fun _ h => h

private theorem document_enoughNodes (hs : s.Sound) : s.document.EnoughNodes ↔ s.Replayable := by
  have hsequence := SequenceDiagram.listed_names hs.sequence
  have hclasses := ClassDiagram.listed_names hs.classes
  have hentity := EntityDiagram.listed_names hs.entity
  have hactivity := FlowDiagram.listed_names hs.activity
  have hcomponent := FlowDiagram.listed_names hs.component
  have hstate := StateDiagram.listed_names hs.state
  constructor
  · intro h
    exact ⟨(enoughNodes_listed hsequence _).mp h.sequence,
      (enoughNodes_listed hclasses _).mp h.classes, (enoughNodes_listed hentity _).mp h.entity,
      (enoughNodes_listed hactivity _).mp h.activity,
      (enoughNodes_listed hcomponent _).mp h.component, (enoughNodes_listed hstate _).mp h.state⟩
  · intro h
    exact ⟨(enoughNodes_listed hsequence _).mpr h.sequence,
      (enoughNodes_listed hclasses _).mpr h.classes, UseCaseDiagram.listed_enoughNodes hs.useCase,
      (enoughNodes_listed hentity _).mpr h.entity, (enoughNodes_listed hactivity _).mpr h.activity,
      (enoughNodes_listed hcomponent _).mpr h.component, (enoughNodes_listed hstate _).mpr h.state⟩

private theorem document_lacks (hs : s.Sound) {e : Rejection} (h : s.document.Lacks e) :
    ∃ c, e = .notEnoughNodes c 2 1 := by
  cases h with
  | sequence h =>
    exact ⟨_, lacksNodes_listed hs.sequence (SequenceDiagram.listed_names hs.sequence) h⟩
  | classes h =>
    exact ⟨_, lacksNodes_listed hs.classes (ClassDiagram.listed_names hs.classes) h⟩
  | useCase hlinks h =>
    have henough := UseCaseDiagram.listed_enoughNodes hs.useCase
    rcases h with ⟨hnil, -⟩ | ⟨hnil, -⟩
    · exact absurd hnil (henough.actor hlinks)
    · exact absurd hnil (henough.useCase hlinks)
  | entity h =>
    exact ⟨_, lacksNodes_listed hs.entity (EntityDiagram.listed_names hs.entity) h⟩
  | activity h =>
    exact ⟨_, lacksNodes_listed hs.activity (FlowDiagram.listed_names hs.activity) h⟩
  | component h =>
    exact ⟨_, lacksNodes_listed hs.component (FlowDiagram.listed_names hs.component) h⟩
  | state h =>
    exact ⟨_, lacksNodes_listed hs.state (StateDiagram.listed_names hs.state) h⟩

/-- Whatever operations were tried on a new store, applying its document to another new store rebuilds
it up to identifiers, unless a diagram has been left with edges at a single node. Then the document is
rejected because there should be two. -/
theorem document_rebuilds (operations : List Operation) (style : Style) :
    let s := run {} operations
    (s.Replayable →
      ∃ s' ρ, s.document.apply { style } = (s', .ok ()) ∧ s.Renamed ρ s') ∧
    (¬ s.Replayable →
      ∃ s' e c, s.document.apply { style } = (s', .error e) ∧ e.reason = .notEnoughNodes c 2 1) := by
  intro s
  have hs : s.Sound := run_sound (initial_sound {}) operations
  have hstyle : s.style.Valid := run_style_valid Style.default_valid operations
  have hfits := document_fits hs hstyle
  rcases h : s.document.apply { style } with ⟨s', ⟨e⟩ | ⟨⟩⟩
  · obtain ⟨hrejected, hreason⟩ := Document.of_apply_error h
    refine ⟨fun hr => ?_, fun _ => ?_⟩
    · exact absurd ⟨hfits, (document_enoughNodes hs).mpr hr⟩ hrejected
    · obtain ⟨c, hc⟩ := document_lacks hs (hreason hfits)
      exact ⟨s', e, c, rfl, hc⟩
  · obtain ⟨⟨-, henough⟩, hs', hdocument⟩ := Document.of_apply_ok h
    refine ⟨fun _ => ?_, fun hr => absurd ((document_enoughNodes hs).mp henough) hr⟩
    rw [completed_document hs hstyle] at hdocument
    obtain ⟨ρ, hrenamed⟩ := exists_renaming hs hs' hdocument
    exact ⟨s', ρ, rfl, hrenamed⟩

/-- A transition of a state to itself is rebuilt as long as there is another state. -/
theorem document_rebuilds_loop :
    let kept : List Operation := [.edit (.state (.addState "A")), .edit (.state (.addState "B")),
      .edit (.state (.addTransition (some "A") (some "A") "again"))]
    let lone := kept ++ [.edit (.state (.removeState "B"))]
    (∃ s' ρ, (run {} kept).document.apply {} = (s', .ok ()) ∧ (run {} kept).Renamed ρ s') ∧
      ∃ s' e c, (run {} lone).document.apply {} = (s', .error e) ∧
        e.reason = .notEnoughNodes c 2 1 := by
  intro kept lone
  have hkept : (run {} kept).Replayable :=
    ⟨fun h => absurd rfl h, fun h => absurd rfl h, fun h => absurd rfl h, fun h => absurd rfl h,
      fun h => absurd rfl h, fun _ => by decide +kernel⟩
  refine ⟨(document_rebuilds kept {}).1 hkept, (document_rebuilds lone {}).2 fun hlone => ?_⟩
  have hedges : (run {} lone).state.edges ≠ [] := by decide +kernel
  have hfew : ¬ 2 ≤ (run {} lone).state.nodes.length := by decide +kernel
  exact hfew (hlone.state hedges)

end Store

end UmlDiagrams
