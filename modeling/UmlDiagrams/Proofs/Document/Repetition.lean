import UmlDiagrams.Proofs.Document.Apply
import UmlDiagrams.Proofs.Document.Parts
import UmlDiagrams.Proofs.Store.Addresses
import UmlDiagrams.Proofs.Store.Epoch
/-!
# Repeated documents

A store that a document was applied to has the nodes that the document declares, so the same document
is refused at the first of them. All that it does before is to set the style, which changes nothing.
-/

namespace UmlDiagrams

open Stateful Text

private theorem EnoughNodes.ne_nil {α : Type} {names : List String} {edges : List α}
    (h : EnoughNodes names edges) (hedges : edges ≠ []) : names ≠ [] :=
  List.ne_nil_of_length_pos (Nat.zero_lt_of_lt (h hedges))

private theorem StyleOverrides.completed_completed (o : StyleOverrides) (style : Style) :
    o.completed (o.completed style) = o.completed style := by
  have hset {α : Type} (value : Option α) (v : α) : value.getD (value.getD v) = value.getD v := by
    cases value <;> rfl
  simp only [completed, hset]

def Collection.noun : Collection → String
  | actors => "sequence actor"
  | classes => "class"
  | useCaseActors => "use-case actor"
  | useCases => "use case"
  | entities => "entity"
  | activities => "activity"
  | components => "component"
  | states => "state"
  | _ => ""

namespace Document

variable {d : Document} {style : Style} {s : Store}

/-- The names, as they are written, of the nodes that a document declares in a collection. -/
def written (d : Document) : Collection → List String
  | .actors => d.sequence.actors
  | .classes => d.classes.classes.map (·.name)
  | .useCaseActors => d.useCase.actors
  | .useCases => d.useCase.useCases
  | .entities => d.entity.entities.map (·.name)
  | .activities => d.activity.nodes
  | .components => d.component.nodes
  | .states => d.state.states
  | _ => []

def declaredIn (d : Document) (c : Collection) : List (Collection × String) :=
  (d.written c).map (c, ·)

def declaredFor (d : Document) : Kind → List (Collection × String)
  | .sequence => d.declaredIn .actors
  | .classes => d.declaredIn .classes
  | .useCase => d.declaredIn .useCaseActors ++ d.declaredIn .useCases
  | .entity => d.declaredIn .entities
  | .activity => d.declaredIn .activities
  | .component => d.declaredIn .components
  | .state => d.declaredIn .states

def declared (d : Document) : List (Collection × String) :=
  Kind.all.flatMap d.declaredFor

private theorem names_eq_trimmed {α β : Type} {listed : α → β} {trimmed : β → β} (name : β → String)
    {xs : List α} {ys : List β} (h : xs.map listed = ys.map trimmed)
    (htrimmed : ∀ y, name (trimmed y) = trim (name y)) :
    xs.map (fun x => name (listed x)) = (ys.map name).map trim := by
  have hnames := congrArg (List.map name) h
  rw [List.map_map, List.map_map] at hnames
  rw [List.map_map]
  exact hnames.trans (List.map_congr_left fun y _ => htrimmed y)

private theorem nodeNames_eq_written (h : s.document = d.completed style) (c : Collection) :
    s.nodeNames c = (d.written c).map trim := by
  cases c with
  | actors => exact names_byName.trans (congrArg (·.sequence.actors) h)
  | classes =>
    have hclasses : s.classes.nodes.map ClassRecord.listed =
        d.classes.classes.map ClassSpec.trimmed := congrArg (·.classes.classes) h
    exact names_eq_trimmed ClassSpec.name hclasses fun _ => rfl
  | useCaseActors => exact congrArg (·.useCase.actors) h
  | useCases => exact congrArg (·.useCase.useCases) h
  | entities =>
    have hentities : s.entity.nodes.map EntityRecord.listed =
        d.entity.entities.map EntitySpec.trimmed := congrArg (·.entity.entities) h
    exact names_eq_trimmed EntitySpec.name hentities fun _ => rfl
  | activities => exact names_byName.trans (congrArg (·.activity.nodes) h)
  | components => exact names_byName.trans (congrArg (·.component.nodes) h)
  | states => exact names_byName.trans (congrArg (·.state.states) h)
  | _ => rfl

end Document

namespace Store

/-- The steps start with the first of the nodes, which the store has; there are none without
nodes. -/
inductive Redeclares (s : Store) : List Step → List (Collection × String) → Prop
  | nil : Redeclares s [] []
  | node {c : Collection} {name : String} {edit : Edit} (hadds : AddsNode name c edit)
    (hname : trim name ∈ s.nodeNames c) (more : List Step) (others : List (Collection × String)) :
    Redeclares s (⟨.record c.noun name, .edit edit⟩ :: more) ((c, name) :: others)

variable {s : Store} {c : Collection} {name : String} {edit : Edit} {steps more : List Step}
  {nodes others : List (Collection × String)}

private theorem addsNode_duplicate (hs : s.Sound) (hadds : AddsNode name c edit)
    (hname : trim name ∈ s.nodeNames c) :
    (apply edit).run s = .error (.duplicateName c (trim name)) s := by
  have hrefusal : s.refusal? Collection.mark c (trim name) =
      some (.duplicateName c (trim name)) := by
    rw [refusal?, nameRefusal?, if_neg (isName_of_mem hs hname).nonempty,
      if_pos ⟨trim name, hname, rfl⟩]
    rfl
  have hsettles := addsNode_settles (s := s) hadds
  have hends := apply_effects edit s
  rw [Decides, hrefusal] at hsettles
  generalize (apply edit).run s = result at hsettles hends ⊢
  cases hends with
  | failed e => rw [← Option.some.inj hsettles.2]
  | refused reply => cases hsettles.1
  | accepted reply => cases hsettles.1

private theorem Redeclares.edges {α : Type} {specs : List α} (h : s.Redeclares steps nodes)
    (hspecs : nodes = [] → specs = []) (what : String) (action : α → Action) :
    s.Redeclares (steps ++ edgeSteps what action specs) nodes := by
  cases h with
  | nil =>
    rw [hspecs rfl]
    exact .nil
  | node hadds hname more others => exact .node hadds hname _ others

private theorem Redeclares.append (h : s.Redeclares steps nodes)
    (hmore : s.Redeclares more others) :
    s.Redeclares (steps ++ more) (nodes ++ others) := by
  cases h with
  | nil => exact hmore
  | node hadds hname _ _ => exact .node hadds hname _ _

private theorem Redeclares.flatMap {α : Type} {steps : α → List Step}
    {nodes : α → List (Collection × String)} (h : ∀ a, s.Redeclares (steps a) (nodes a))
    (as : List α) : s.Redeclares (as.flatMap steps) (as.flatMap nodes) := by
  induction as with
  | nil => exact .nil
  | cons a as ih => exact (h a).append ih

private theorem Redeclares.replay_nil (h : s.Redeclares steps []) :
    s.replay steps = (s, .ok ()) := by
  cases h
  rfl

private theorem Redeclares.replay_cons (hs : s.Sound)
    (h : s.Redeclares steps ((c, name) :: others)) :
    s.replay steps = (s, .error ⟨.record c.noun name, .duplicateName c (trim name)⟩) := by
  cases h with
  | @node _ _ edit hadds hname more =>
    have hperform := Action.perform_run (.edit edit) s
    have hresolve : (Action.edit edit).resolve s = .ok edit := rfl
    rw [hresolve] at hperform
    dsimp only at hperform
    rw [addsNode_duplicate hs hadds hname] at hperform
    rw [replay, hperform]

private theorem redeclares_nodeSteps {edit : String → Edit} {names : List String}
    (hadds : ∀ n, AddsNode n c (edit n)) (hnames : ∀ n ∈ names, trim n ∈ s.nodeNames c) :
    s.Redeclares (nodeSteps c.noun edit names) (names.map (c, ·)) := by
  cases names with
  | nil => exact .nil
  | cons n names => exact .node (hadds n) (hnames n List.mem_cons_self) _ _

private theorem redeclares_records {α : Type} {record : α → Step} {members : α → List Step}
    {name : α → String} {edit : α → Edit} {as : List α}
    (hrecord : ∀ a, record a = ⟨.record c.noun (name a), .edit (edit a)⟩)
    (hadds : ∀ a, AddsNode (name a) c (edit a))
    (hnames : ∀ n ∈ as.map name, trim n ∈ s.nodeNames c) :
    s.Redeclares (as.flatMap fun a => record a :: members a) ((as.map name).map (c, ·)) := by
  cases as with
  | nil => exact .nil
  | cons a as =>
    rw [List.flatMap_cons, List.cons_append, hrecord]
    exact .node (hadds a) (hnames _ List.mem_cons_self) _ _

end Store

namespace Document

variable {d : Document} {style : Style} {s : Store}

private theorem edges_eq_nil {α β γ : Type} {as : List α} {stored : α → String} {node : α → β}
    {specs : List γ} (h : specs ≠ [] → as.map stored ≠ []) (hnodes : as.map node = []) :
    specs = [] := by
  by_contra hspecs
  rw [List.map_eq_nil_iff] at hnodes
  exact h hspecs (hnodes ▸ rfl)

/-- Each section starts with a node that the store has, and without nodes it has no edges. -/
private theorem section_redeclares (hd : d.EnoughNodes)
    (hstored : ∀ c, ∀ n ∈ d.written c, trim n ∈ s.nodeNames c) (kind : Kind) :
    s.Redeclares (kind.sectionSteps (d.sectionOf kind)) (d.declaredFor kind) := by
  have hnames (c : Collection) {edit : String → Edit} (hadds : ∀ n, AddsNode n c (edit n)) :
      s.Redeclares (nodeSteps c.noun edit (d.written c)) (d.declaredIn c) :=
    Store.redeclares_nodeSteps hadds (hstored c)
  cases kind with
  | sequence =>
    have hnodes := hnames .actors fun _ => .actor
    exact hnodes.edges (edges_eq_nil hd.sequence.ne_nil) _ _
  | classes =>
    have hnodes : s.Redeclares (d.classes.classes.flatMap ClassSpec.steps)
        (d.declaredIn .classes) :=
      Store.redeclares_records (fun _ => rfl) (fun c => .classRecord c.isAbstract)
        (hstored .classes)
    exact hnodes.edges
      (fun h => edges_eq_nil hd.classes.ne_nil (List.map_eq_nil_iff.mp h)) _ _
  | useCase =>
    have hactors := hnames .useCaseActors fun _ => .useCaseActor
    have huseCases := hnames .useCases fun _ => .useCase
    exact (hactors.append huseCases).edges
      (fun h => edges_eq_nil hd.useCase.actor (List.append_eq_nil_iff.mp h).1) _ _
  | entity =>
    have hnodes : s.Redeclares (d.entity.entities.flatMap EntitySpec.steps)
        (d.declaredIn .entities) :=
      Store.redeclares_records (fun _ => rfl) (fun _ => .entity) (hstored .entities)
    exact hnodes.edges
      (fun h => edges_eq_nil hd.entity.ne_nil (List.map_eq_nil_iff.mp h)) _ _
  | activity =>
    have hnodes := hnames .activities fun _ => .activity
    exact hnodes.edges (edges_eq_nil hd.activity.ne_nil) _ _
  | component =>
    have hnodes := hnames .components fun _ => .component
    exact hnodes.edges (edges_eq_nil hd.component.ne_nil) _ _
  | state =>
    have hnodes := hnames .states fun _ => .state
    exact hnodes.edges (edges_eq_nil hd.state.ne_nil) _ _

private theorem style_of_apply_ok (h : d.apply { style } = (s, .ok ())) :
    s.style = d.style.completed style ∧
      s.styleChanges = notice [] (styleNotices d.style.steps) := by
  have htarget := d.apply_ok_target (congrArg Prod.snd h) .style
  have hreplay := (d.style.replays { style }).replay_eq (of_apply_ok h).1.1.style
  rw [(d.only .style).apply_target, only_steps, partSteps, hreplay, h] at htarget
  exact Prod.mk.inj htarget

private theorem style_replay_again (h : d.apply { style } = (s, .ok ())) :
    s.replay d.style.steps = (s, .ok ()) := by
  obtain ⟨hstyle, hchanges⟩ := style_of_apply_ok h
  have hreplay := (d.style.replays s).replay_eq (of_apply_ok h).1.1.style
  have hsame : d.style.completed s.style = s.style := by
    rw [hstyle, d.style.completed_completed]
  have hnotices : notice s.styleChanges (styleNotices d.style.steps) = s.styleChanges := by
    refine notice_of_forall_mem fun c hc => ?_
    rw [hchanges, mem_notice]
    exact .inr hc
  rw [hsame, hnotices] at hreplay
  exact hreplay

private theorem steps_eq_append (d : Document) :
    d.steps =
      d.style.steps ++ Kind.all.flatMap fun kind => kind.sectionSteps (d.sectionOf kind) := by
  rw [steps_eq, DocumentPart.all, List.flatMap_cons, List.flatMap_map]
  rfl

/-- A document that could be applied to a new store changes nothing when it is applied again. It is
refused at the first node that it declares, whose name is taken; without nodes it succeeds. -/
theorem apply_again (h : d.apply { style } = (s, .ok ())) :
    (d.apply s).1 = s ∧ ((d.apply s).2 = .ok () ↔ d.declared = []) ∧
      ∀ c name others, d.declared = (c, name) :: others →
        (d.apply s).2 = .error ⟨.record c.noun name, .duplicateName c (trim name)⟩ := by
  obtain ⟨⟨-, henough⟩, hsound, hdocument⟩ := of_apply_ok h
  have hkind : s.kind = d.kind := congrArg (·.kind) hdocument
  have hstored (c : Collection) : ∀ n ∈ d.written c, trim n ∈ s.nodeNames c := by
    rw [nodeNames_eq_written hdocument]
    exact fun n => List.mem_map_of_mem
  have hredeclares : s.Redeclares _ d.declared :=
    Store.Redeclares.flatMap (section_redeclares henough hstored) Kind.all
  have hreplay : s.replay d.steps =
      s.replay (Kind.all.flatMap fun kind => kind.sectionSteps (d.sectionOf kind)) := by
    rw [steps_eq_append, Store.replay_append, style_replay_again h]
  rcases hd : d.declared with _ | ⟨⟨c, name⟩, others⟩
  · rw [hd] at hredeclares
    have hagain : d.apply s = (s, .ok ()) := by
      rw [apply, hreplay, hredeclares.replay_nil, ← hkind]
      exact congrArg (·, Except.ok ()) Store.setKind_self
    rw [hagain]
    refine ⟨rfl, iff_of_true rfl rfl, fun _ _ _ hfirst => ?_⟩
    cases hfirst
  · rw [hd] at hredeclares
    have hagain : d.apply s =
        (s, .error ⟨.record c.noun name, .duplicateName c (trim name)⟩) := by
      rw [apply, hreplay, hredeclares.replay_cons hsound]
    rw [hagain]
    refine ⟨rfl, iff_of_false ?_ (List.cons_ne_nil _ _), fun _ _ _ hfirst => ?_⟩
    · rintro ⟨⟩
    · cases hfirst
      rfl

/-- The use case is refused by its trimmed name, before the state. The document without nodes can be
applied as often as one likes. -/
theorem apply_again_use_case :
    let look : StyleOverrides := { background := some " #fff ", direction := some .horizontal }
    let blank : Document := { kind := .state, style := look }
    let pay : Document := { blank with useCase := { useCases := [" Pay "] }, state.states := ["S"] }
    (∃ s, pay.apply {} = (s, .ok ()) ∧
      pay.apply s = (s, .error ⟨.record "use case" " Pay ", .duplicateName .useCases "Pay"⟩)) ∧
    ∃ s, blank.apply {} = (s, .ok ()) ∧ s.styleChanges = [.style] ∧
      blank.apply s = (s, .ok ()) := by
  intro look blank pay
  have applied {d : Document} (h : (d.apply {}).2 = .ok ()) : ∃ s, d.apply {} = (s, .ok ()) :=
    ⟨(d.apply {}).1, Prod.ext rfl h⟩
  constructor
  · have hpay : (pay.apply {}).2 = .ok () := by decide +kernel
    have hnodes : pay.declared = [(.useCases, " Pay "), (.states, "S")] := by decide +kernel
    have htrim : trim " Pay " = "Pay" := by decide +kernel
    obtain ⟨s, hs⟩ := applied hpay
    obtain ⟨hsame, -, hrefused⟩ := apply_again hs
    have hduplicate := hrefused _ _ _ hnodes
    rw [htrim] at hduplicate
    exact ⟨s, hs, Prod.ext hsame hduplicate⟩
  · have hblank : (blank.apply {}).2 = .ok () := by decide +kernel
    have hnone : blank.declared = [] := by decide +kernel
    have hchanges : (blank.apply {}).1.styleChanges = [.style] := by decide +kernel
    obtain ⟨s, hs⟩ := applied hblank
    rw [hs] at hchanges
    obtain ⟨hsame, hsucceeds, -⟩ := apply_again hs
    exact ⟨s, hs, hchanges, Prod.ext hsame (hsucceeds.mpr hnone)⟩

end Document

end UmlDiagrams
