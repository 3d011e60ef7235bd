import UmlDiagrams.Proofs.Document.Parts
import UmlDiagrams.Proofs.Store.Effects
/-!
# What a failing document leaves

A document that fails has done the edits of the records before the one that is rejected, and nothing
else. The error names that record.
-/

namespace UmlDiagrams

open Stateful UmlDiagrams.Graph

namespace Action

/-- The kind of record that the action adds a member to. -/
def ownerKind : Action → Option Kind
  | classAttribute _ => some .classes
  | classMethod _ => some .classes
  | entityAttribute _ => some .entity
  | _ => none

/-- The kind of record that members may follow the action for. -/
def ledKind : Action → Option Kind
  | edit (.classes (.addClass _ _)) => some .classes
  | edit (.entity (.addEntity _)) => some .entity
  | action => action.ownerKind

/-- The edit that an action stands for when members go to the record `owner`. -/
def editFor (owner : Id) (s : Store) : Action → Except Rejection Edit
  | classAttribute attr => .ok (.classes (.addAttribute owner attr))
  | classMethod method => .ok (.classes (.addMethod owner method))
  | entityAttribute attr => .ok (.entity (.addAttribute owner attr))
  | action => action.resolve s

/-- Why the action is rejected on a store. -/
inductive Rejected (owner : Id) (s : Store) (action : Action) (reason : Rejection) : Prop
  /-- An end of a relationship names no record. -/
  | unresolved (h : action.editFor owner s = .error reason)
  | refused (edit : Edit) (hedit : action.editFor owner s = .ok edit)
      (h : (Store.apply edit).outcome s = .error reason)

end Action

/-- The record that members go to after a reply. -/
def Reply.ownerAfter (owner : Id) : Reply → Id
  | created id => id
  | _ => owner

/-- All the steps are accepted in their order, as the listed edits, which lead from one store to the
other. Each member goes to the record that the edit before it created or gave a member to. -/
inductive Store.Enacts : Store → Id → List Step → List Edit → Store → Id → Prop
  | nil {s : Store} {owner : Id} : Enacts s owner [] [] s owner
  | cons {s t : Store} {owner last : Id} {step : Step} {steps : List Step} {edit : Edit}
      {edits : List Edit} {reply : Reply} (hedit : step.action.editFor owner s = .ok edit)
      (hreply : (apply edit).outcome s = .ok reply)
      (hrest : Enacts ((apply edit).after s) (reply.ownerAfter owner) steps edits t last) :
      Enacts s owner (step :: steps) (edit :: edits) t last

private theorem Store.Enacts.edited_eq {s t : Store} {owner last : Id} {steps : List Step}
    {edits : List Edit} (h : s.Enacts owner steps edits t last) : t = s.edited edits := by
  induction h with
  | nil => rfl
  | cons _ _ _ ih => exact ih

private theorem Store.Enacts.length_eq {s t : Store} {owner last : Id} {steps : List Step}
    {edits : List Edit} (h : s.Enacts owner steps edits t last) : edits.length = steps.length := by
  induction h with
  | nil => rfl
  | cons _ _ _ ih => exact congrArg (· + 1) ih

/-- Each member comes right after a record of its kind or another member of one. -/
def Linked : Option Kind → List Step → Prop
  | _, [] => True
  | led, step :: steps =>
    (step.action.ownerKind = none ∨ step.action.ownerKind = led) ∧
      Linked step.action.ledKind steps

def Free (steps : List Step) : Prop :=
  ∀ led, Linked led steps

variable {led : Option Kind} {steps more : List Step}

private theorem Linked.append (h : Linked led steps) (hmore : Free more) :
    Linked led (steps ++ more) := by
  induction steps generalizing led with
  | nil => exact hmore led
  | cons step steps ih => exact ⟨h.1, ih h.2⟩

private theorem Free.append (h : Free steps) (hmore : Free more) : Free (steps ++ more) :=
  fun led => (h led).append hmore

private theorem Free.flatMap {α : Type} {f : α → List Step} (h : ∀ a, Free (f a)) (as : List α) :
    Free (as.flatMap f) := by
  induction as with
  | nil => exact fun _ => trivial
  | cons a as ih => exact (h a).append ih

private theorem free_of_no_members (h : ∀ step ∈ steps, step.action.ownerKind = none) :
    Free steps := by
  induction steps with
  | nil => exact fun _ => trivial
  | cons step steps ih =>
    rw [List.forall_mem_cons] at h
    exact fun _ => ⟨.inl h.1, ih h.2 _⟩

private theorem free_record {record : Step} {members : List Step} {kind : Kind}
    (hrecord : record.action.ownerKind = none) (hled : record.action.ledKind = some kind)
    (hmembers : ∀ m ∈ members, m.action.ownerKind = some kind ∧ m.action.ledKind = some kind) :
    Free (record :: members) := by
  have hlinked : Linked (some kind) members := by
    clear hrecord hled
    induction members with
    | nil => trivial
    | cons m members ih =>
      rw [List.forall_mem_cons] at hmembers
      refine ⟨.inr hmembers.1.1, ?_⟩
      rw [hmembers.1.2]
      exact ih hmembers.2
  exact fun _ => ⟨.inl hrecord, hled ▸ hlinked⟩

section Lists

variable {α : Type} {P : Step → Prop}

theorem forall_fieldSteps {name : String} {edit : α → StyleEdit} {value : Option α} :
    (∀ step ∈ fieldSteps name edit value, P step) ↔
      ∀ v, value = some v → P ⟨.style name, .edit (.style (edit v))⟩ := by
  cases value <;> simp [fieldSteps]

theorem forall_nodeSteps {what : String} {edit : String → Edit} {names : List String} :
    (∀ step ∈ nodeSteps what edit names, P step) ↔
      ∀ n ∈ names, P ⟨.record what n, .edit (edit n)⟩ :=
  List.forall_mem_map

theorem forall_edgeSteps {what : String} {action : α → Action} {specs : List α} :
    (∀ step ∈ edgeSteps what action specs, P step) ↔
      ∀ i spec, specs[i]? = some spec → P ⟨.edge what (i + 1), action spec⟩ := by
  simp only [edgeSteps, List.mem_mapIdx]
  constructor
  · intro h i spec hspec
    obtain ⟨hi, rfl⟩ := List.getElem?_eq_some_iff.mp hspec
    exact h _ ⟨i, hi, rfl⟩
  · intro h step hstep
    obtain ⟨i, hi, rfl⟩ := hstep
    exact h i _ (List.getElem?_eq_getElem hi)

private theorem fieldSteps_free (name : String) (edit : α → StyleEdit) (value : Option α) :
    Free (fieldSteps name edit value) :=
  free_of_no_members (forall_fieldSteps.mpr fun _ _ => rfl)

private theorem nodeSteps_free (what : String) (edit : String → Edit) (names : List String) :
    Free (nodeSteps what edit names) :=
  free_of_no_members (forall_nodeSteps.mpr fun _ _ => rfl)

private theorem edgeSteps_free {action : α → Action} (h : ∀ a, (action a).ownerKind = none)
    (what : String) (specs : List α) : Free (edgeSteps what action specs) :=
  free_of_no_members (forall_edgeSteps.mpr fun _ spec _ => h spec)

end Lists

private theorem ClassSpec.steps_free (c : ClassSpec) : Free c.steps := by
  rw [ClassSpec.steps, List.append_assoc, List.singleton_append]
  refine free_record rfl rfl ?_
  simp [or_imp, forall_and, Action.ownerKind, Action.ledKind]

private theorem EntitySpec.steps_free (e : EntitySpec) : Free e.steps := by
  rw [EntitySpec.steps, List.singleton_append]
  refine free_record rfl rfl ?_
  simp [Action.ownerKind, Action.ledKind]

private theorem StyleOverrides.steps_free (o : StyleOverrides) : Free o.steps :=
  (((fieldSteps_free _ _ _).append (fieldSteps_free _ _ _)).append (fieldSteps_free _ _ _)).append
    (fieldSteps_free _ _ _)

private theorem Kind.sectionSteps_free (kind : Kind) (c : kind.Section) :
    Free (kind.sectionSteps c) := by
  cases kind with
  | classes =>
    exact (Free.flatMap ClassSpec.steps_free c.classes).append (edgeSteps_free (fun _ => rfl) _ _)
  | entity =>
    exact (Free.flatMap EntitySpec.steps_free c.entities).append (edgeSteps_free (fun _ => rfl) _ _)
  | useCase =>
    exact ((nodeSteps_free _ _ _).append (nodeSteps_free _ _ _)).append
      (edgeSteps_free (fun _ => rfl) _ _)
  | _ => exact (nodeSteps_free _ _ _).append (edgeSteps_free (fun _ => rfl) _ _)

theorem Document.steps_free (d : Document) : Free d.steps := by
  rw [steps_eq]
  refine Free.flatMap (fun p => ?_) _
  cases p with
  | style => exact d.style.steps_free
  | diagram kind => exact kind.sectionSteps_free (d.sectionOf kind)

namespace Graph

variable {ν ε μ : Type} {R : Rules Id ν ε} {g g' : Graph Id ν ε}

private theorem addNode_lastId {name : String} {build : Id → String → ν} {reply : Reply}
    (hkey : ∀ id text, R.key (build id text) = id)
    (h : (addNode R name build >>= fun id => pure (Reply.created id)).run g = .ok reply g') :
    ∃ id, reply = .created id ∧
      Action.lastId R.kind (g'.nodes.map R.key) g'.issued = id := by
  rw [EStateM.run_bind, addNode_run] at h
  cases hname : newName R.nodes (g.nodes.map R.name) name with
  | ok text =>
    rw [hname] at h
    cases h
    exact ⟨g.nextId R, rfl, by simp [Action.lastId, touch, withNode, hkey]⟩
  | error e =>
    rw [hname] at h
    cases h

/-- A new member goes to a record, and no record comes or goes. -/
private theorem addMember_lastId {collection : Collection} {title : μ → String}
    {grow : String → μ → ν → ν} {id : Id} {m : μ} {reply : Reply}
    (h : (addMember R collection title grow id m).run g = .ok reply g') :
    reply = .done ∧ Action.lastId R.kind (g'.nodes.map R.key) g'.issued =
      Action.lastId R.kind (g.nodes.map R.key) g.issued := by
  rw [addMember_run] at h
  cases hname : memberName collection (title m) with
  | ok name =>
    rw [hname] at h
    dsimp only at h
    rw [reviseNode_run] at h
    cases hrevised : g.revisedNode R id fun n => .ok (Reply.done, grow name m n) with
    | ok revision =>
      rw [hrevised] at h
      cases h
      obtain ⟨old, -, hold⟩ := bind_eq_ok.mp hrevised
      have hkeys : (replaceNode R revision.2 g).nodes.map R.key = g.nodes.map R.key :=
        map_map_replace fun _ _ hkey => hkey
      refine ⟨(congrArg Prod.fst (Except.ok.inj hold)).symm, ?_⟩
      exact congrArg (Action.lastId R.kind · g.issued) hkeys
    | error e =>
      rw [hrevised] at h
      cases h
  | error e =>
    rw [hname] at h
    cases h

end Graph

namespace Store

def LastIs (owner : Id) (s : Store) : Option Kind → Prop
  | some .classes =>
    Action.lastId .classes (s.classes.nodes.map (·.id)) s.classes.issued = owner
  | some .entity => Action.lastId .entity (s.entity.nodes.map (·.id)) s.entity.issued = owner
  | _ => True

variable {s t : Store} {owner : Id} {action : Action} {edit : Edit} {reply : Reply}

private theorem editFor_eq (h : s.LastIs owner action.ownerKind) :
    action.editFor owner s = action.resolve s := by
  cases action with
  | classAttribute attr =>
    cases h
    rfl
  | classMethod method =>
    cases h
    rfl
  | entityAttribute attr =>
    cases h
    rfl
  | _ => rfl

private theorem run_classes {edit : ClassEdit} (h : (apply (.classes edit)).run s = .ok reply t) :
    (ClassDiagram.apply edit).run s.classes = .ok reply t.classes := by
  rw [apply, run_within] at h
  cases hr : (ClassDiagram.apply edit).run s.classes <;> rw [hr] at h <;> cases h
  rfl

private theorem run_entity {edit : EntityEdit} (h : (apply (.entity edit)).run s = .ok reply t) :
    (EntityDiagram.apply edit).run s.entity = .ok reply t.entity := by
  rw [apply, run_within] at h
  cases hr : (EntityDiagram.apply edit).run s.entity <;> rw [hr] at h <;> cases h
  rfl

/-- After a record or a member is added, further members go to the same record. -/
private theorem lastIs_after (hlast : s.LastIs owner action.ownerKind)
    (hresolve : action.editFor owner s = .ok edit) (h : (apply edit).run s = .ok reply t) :
    t.LastIs (reply.ownerAfter owner) action.ledKind := by
  cases action with
  | classAttribute attr =>
    cases hresolve
    have hrun := run_classes h
    rw [ClassDiagram.apply_addAttribute] at hrun
    obtain ⟨rfl, hsame⟩ := addMember_lastId hrun
    exact hsame.trans hlast
  | classMethod method =>
    cases hresolve
    have hrun := run_classes h
    rw [ClassDiagram.apply_addMethod] at hrun
    obtain ⟨rfl, hsame⟩ := addMember_lastId hrun
    exact hsame.trans hlast
  | entityAttribute attr =>
    cases hresolve
    have hrun := run_entity h
    rw [EntityDiagram.apply_addAttribute] at hrun
    obtain ⟨rfl, hsame⟩ := addMember_lastId hrun
    exact hsame.trans hlast
  | edit e =>
    cases hresolve
    cases edit with
    | classes e =>
      cases e with
      | addClass name isAbstract =>
        have hrun := run_classes h
        rw [ClassDiagram.apply] at hrun
        obtain ⟨id, rfl, hid⟩ := addNode_lastId (fun _ _ => rfl) hrun
        exact hid
      | _ => trivial
    | entity e =>
      cases e with
      | addEntity name =>
        have hrun := run_entity h
        rw [EntityDiagram.apply] at hrun
        obtain ⟨id, rfl, hid⟩ := addNode_lastId (fun _ _ => rfl) hrun
        exact hid
      | _ => trivial
    | _ => trivial
  | _ => trivial

private theorem perform_ok (h : action.perform.run s = .ok () t) :
    ∃ edit reply, action.resolve s = .ok edit ∧ (apply edit).run s = .ok reply t := by
  rw [Action.perform_run] at h
  cases hresolve : action.resolve s with
  | ok edit =>
    rw [hresolve] at h
    dsimp only at h
    cases hrun : (apply edit).run s with
    | ok reply s' =>
      rw [hrun] at h
      cases h
      exact ⟨edit, reply, rfl, hrun⟩
    | error e s' =>
      rw [hrun] at h
      cases h
  | error e =>
    rw [hresolve] at h
    cases h

private theorem perform_error {reason : Rejection} (hlast : s.LastIs owner action.ownerKind)
    (h : action.perform.run s = .error reason t) : t = s ∧ action.Rejected owner s reason := by
  have hfor := editFor_eq hlast
  rw [Action.perform_run] at h
  cases hresolve : action.resolve s with
  | ok edit =>
    rw [hresolve] at h hfor
    dsimp only at h
    have heffects := apply_effects edit s
    cases hrun : (apply edit).run s with
    | ok reply s' =>
      rw [hrun] at h
      cases h
    | error e s' =>
      rw [hrun] at h heffects
      cases h
      cases heffects
      exact ⟨rfl, .refused edit hfor (by rw [outcome, hrun])⟩
  | error e =>
    rw [hresolve] at h hfor
    cases h
    exact ⟨rfl, .unresolved hfor⟩

private theorem replay_error {e : ReplayError} (h : s.replay steps = (t, .error e)) :
    ∃ before step after s', steps = before ++ step :: after ∧ s.replay before = (s', .ok ()) ∧
      step.action.perform.run s' = .error e.reason t ∧ e.place = step.place := by
  induction steps generalizing s with
  | nil => cases h
  | cons step steps ih =>
    rw [replay] at h
    cases hr : step.action.perform.run s with
    | ok a s' =>
      rw [hr] at h
      obtain ⟨before, failed, after, s'', rfl, hbefore, hfailed⟩ := ih h
      refine ⟨step :: before, failed, after, s'', rfl, ?_, hfailed⟩
      rw [replay, hr]
      exact hbefore
    | error reason s' =>
      rw [hr] at h
      cases h
      exact ⟨[], step, steps, s, rfl, rfl, hr, rfl⟩

/-- A replay that succeeds performs one edit for each step, and knows the record that members of the
next step go to. -/
private theorem enacts_of_replay {next : Step} (hlinked : Linked led (steps ++ next :: more))
    (hlast : s.LastIs owner led) (h : s.replay steps = (t, .ok ())) :
    ∃ edits last, s.Enacts owner steps edits t last ∧ t.LastIs last next.action.ownerKind := by
  have hled {a : Action} {o : Id} {s : Store} {led : Option Kind}
      (ha : a.ownerKind = none ∨ a.ownerKind = led) (hs : s.LastIs o led) :
      s.LastIs o a.ownerKind := by
    rcases ha with ha | ha
    · rw [ha]
      trivial
    · rw [ha]
      exact hs
  -- The invariant is that members go to the record added last, on the store and in the list.
  induction steps generalizing s owner led with
  | nil =>
    cases h
    exact ⟨[], owner, .nil, hled hlinked.1 hlast⟩
  | cons step steps ih =>
    rw [replay] at h
    cases hr : step.action.perform.run s with
    | ok a s' =>
      rw [hr] at h
      obtain ⟨edit, reply, hresolve, hrun⟩ := perform_ok hr
      have hstep := hled hlinked.1 hlast
      rw [← editFor_eq hstep] at hresolve
      obtain ⟨edits, last, hrest, hnext⟩ := ih hlinked.2 (lastIs_after hstep hresolve hrun) h
      have hreply : (apply edit).outcome s = .ok reply := by rw [outcome, hrun]
      rw [← after_of_run_ok hrun] at hrest
      exact ⟨edit :: edits, last, .cons hresolve hreply hrest, hnext⟩
    | error reason s' =>
      rw [hr] at h
      cases h

end Store

namespace Document

/-- The document asks for the action at this place. A style field, a node and a member are named as
they are written, and an edge by its position in its list, counted from one. -/
inductive Cites (d : Document) : Place → Action → Prop
  | background {c : String} (h : d.style.background = some c) :
    Cites d (.style "background_color") (.edit (.style (.background c)))
  | text {c : String} (h : d.style.text = some c) :
    Cites d (.style "text_color") (.edit (.style (.text c)))
  | primary {c : String} (h : d.style.primary = some c) :
    Cites d (.style "primary_color") (.edit (.style (.primary c)))
  | direction {v : Direction} (h : d.style.direction = some v) :
    Cites d (.style "use_case_direction") (.edit (.style (.direction v)))
  | actor {n : String} (h : n ∈ d.sequence.actors) :
    Cites d (.record "sequence actor" n) (.edit (.sequence (.addActor n)))
  | message {i : Nat} {m : MessageSpec} (h : d.sequence.messages[i]? = some m) :
    Cites d (.edge "sequence message" (i + 1))
      (.edit (.sequence (.addMessage m.source m.target m.arrow m.text)))
  | record {c : ClassSpec} (h : c ∈ d.classes.classes) :
    Cites d (.record "class" c.name) (.edit (.classes (.addClass c.name c.isAbstract)))
  | classAttribute {c : ClassSpec} {a : ClassAttribute} (hc : c ∈ d.classes.classes)
      (ha : a ∈ c.attributes) :
    Cites d (.member "class" c.name "attribute" a.name) (.classAttribute a)
  | classMethod {c : ClassSpec} {m : ClassMethod} (hc : c ∈ d.classes.classes)
      (hm : m ∈ c.methods) :
    Cites d (.member "class" c.name "method" m.name) (.classMethod m)
  | classRelationship {i : Nat} {r : RelationSpec ClassRelation}
      (h : d.classes.relationships[i]? = some r) :
    Cites d (.edge "class relationship" (i + 1)) (.classRelationship r)
  | useCaseActor {n : String} (h : n ∈ d.useCase.actors) :
    Cites d (.record "use-case actor" n) (.edit (.useCase (.addActor n)))
  | useCase {n : String} (h : n ∈ d.useCase.useCases) :
    Cites d (.record "use case" n) (.edit (.useCase (.addUseCase n)))
  | link {i : Nat} {l : LinkSpec} (h : d.useCase.links[i]? = some l) :
    Cites d (.edge "use-case link" (i + 1)) (.edit (.useCase (.addLink l.actor l.useCase)))
  | entity {e : EntitySpec} (h : e ∈ d.entity.entities) :
    Cites d (.record "entity" e.name) (.edit (.entity (.addEntity e.name)))
  | entityAttribute {e : EntitySpec} {a : EntityAttribute} (he : e ∈ d.entity.entities)
      (ha : a ∈ e.attributes) :
    Cites d (.member "entity" e.name "attribute" a.name) (.entityAttribute a)
  | erRelationship {i : Nat} {r : RelationSpec ErRelation}
      (h : d.entity.relationships[i]? = some r) :
    Cites d (.edge "ER relationship" (i + 1)) (.erRelationship r)
  | activity {n : String} (h : n ∈ d.activity.nodes) :
    Cites d (.record "activity" n) (.edit (.activity (.addNode n)))
  | flow {i : Nat} {f : FlowSpec} (h : d.activity.edges[i]? = some f) :
    Cites d (.edge "activity flow" (i + 1)) (.edit (.activity (.addEdge f.source f.target)))
  | component {n : String} (h : n ∈ d.component.nodes) :
    Cites d (.record "component" n) (.edit (.component (.addNode n)))
  | dependency {i : Nat} {f : FlowSpec} (h : d.component.edges[i]? = some f) :
    Cites d (.edge "component dependency" (i + 1))
      (.edit (.component (.addEdge f.source f.target)))
  | state {n : String} (h : n ∈ d.state.states) :
    Cites d (.record "state" n) (.edit (.state (.addState n)))
  | transition {i : Nat} {t : TransitionSpec} (h : d.state.transitions[i]? = some t) :
    Cites d (.edge "state transition" (i + 1))
      (.edit (.state (.addTransition t.source t.target t.event)))

variable {d : Document} {s t : Store}

private theorem cites_section (kind : Kind) :
    ∀ step ∈ kind.sectionSteps (d.sectionOf kind), d.Cites step.place step.action := by
  cases kind with
  | sequence =>
    exact List.forall_mem_append.mpr
      ⟨forall_nodeSteps.mpr fun _ => .actor, forall_edgeSteps.mpr fun _ _ => .message⟩
  | classes =>
    refine List.forall_mem_append.mpr
      ⟨List.forall_mem_flatMap.mpr fun c hc => ?_,
        forall_edgeSteps.mpr fun _ _ => .classRelationship⟩
    rw [ClassSpec.steps, List.forall_mem_append, List.forall_mem_append]
    exact ⟨⟨List.forall_mem_singleton.mpr (.record hc),
      List.forall_mem_map.mpr fun _ => .classAttribute hc⟩,
      List.forall_mem_map.mpr fun _ => .classMethod hc⟩
  | useCase =>
    exact List.forall_mem_append.mpr ⟨List.forall_mem_append.mpr
      ⟨forall_nodeSteps.mpr fun _ => .useCaseActor, forall_nodeSteps.mpr fun _ => .useCase⟩,
      forall_edgeSteps.mpr fun _ _ => .link⟩
  | entity =>
    refine List.forall_mem_append.mpr
      ⟨List.forall_mem_flatMap.mpr fun e he => ?_,
        forall_edgeSteps.mpr fun _ _ => .erRelationship⟩
    rw [EntitySpec.steps, List.forall_mem_append]
    exact ⟨List.forall_mem_singleton.mpr (.entity he),
      List.forall_mem_map.mpr fun _ => .entityAttribute he⟩
  | activity =>
    exact List.forall_mem_append.mpr
      ⟨forall_nodeSteps.mpr fun _ => .activity, forall_edgeSteps.mpr fun _ _ => .flow⟩
  | component =>
    exact List.forall_mem_append.mpr
      ⟨forall_nodeSteps.mpr fun _ => .component, forall_edgeSteps.mpr fun _ _ => .dependency⟩
  | state =>
    exact List.forall_mem_append.mpr
      ⟨forall_nodeSteps.mpr fun _ => .state, forall_edgeSteps.mpr fun _ _ => .transition⟩

theorem cites_of_mem {step : Step} (h : step ∈ d.steps) : d.Cites step.place step.action := by
  rw [steps_eq, List.mem_flatMap] at h
  obtain ⟨p, -, h⟩ := h
  cases p with
  | diagram kind => exact cites_section kind step h
  | style =>
    revert step
    rw [partSteps, StyleOverrides.steps]
    simp only [List.forall_mem_append, forall_fieldSteps]
    exact ⟨⟨⟨fun _ => .background, fun _ => .text⟩, fun _ => .primary⟩, fun _ => .direction⟩

private theorem replay_active (s : Store) :
    (s.replay d.steps).1.kind = s.kind ∧ (s.replay d.steps).1.epoch = s.epoch := by
  have h := d.replay_leaves (fun s => (s.kind, s.epoch)) DocumentPart.all
    (fun p _ => p.target_put_active) s
  rw [← steps_eq] at h
  exact Prod.mk.inj h

private theorem apply_eq_error {e : ReplayError} :
    d.apply s = (t, .error e) ↔ s.replay d.steps = (t, .error e) := by
  rw [apply]
  rcases s.replay d.steps with ⟨s', e' | _⟩ <;> simp

theorem apply_eq_ok (h : d.apply s = (t, .ok ())) : t = (s.replay d.steps).1.setKind d.kind := by
  rw [apply] at h
  rcases hr : s.replay d.steps with ⟨s', e' | _⟩
  · rw [hr] at h
    cases h
  · rw [hr] at h
    cases h
    rfl

/-- A document that fails leaves the store, with its change notices, as the edits before the
rejected one leave it; the active kind and the epoch are the same as before. The error names the
record that was rejected and tells why, and nothing that the document says after it matters. A
document that succeeds makes its kind active, and the epoch grows by one if that is another kind. -/
theorem apply_stops (d : Document) (s : Store) :
    (∀ t e, d.apply s = (t, .error e) →
      ∃ before step after, d.steps = before ++ step :: after ∧
        e.place = step.place ∧ d.Cites step.place step.action ∧
        (∀ first, ∃ edits owner, s.Enacts first before edits t owner ∧ t = s.edited edits ∧
          step.action.Rejected owner t e.reason) ∧
        t.kind = s.kind ∧ t.epoch = s.epoch ∧
        ∀ d' : Document, before ++ [step] <+: d'.steps → d'.apply s = (t, .error e)) ∧
    ∀ t, d.apply s = (t, .ok ()) →
      t.kind = d.kind ∧ t.epoch = s.epoch + if d.kind = s.kind then 0 else 1 := by
  refine ⟨fun t e h => ?_, fun t h => ?_⟩
  · have hreplay := apply_eq_error.mp h
    obtain ⟨before, step, after, s', hsteps, hbefore, hstep, hplace⟩ := Store.replay_error hreplay
    have hlinked := d.steps_free none
    rw [hsteps] at hlinked
    have henacts (first : Id) : ∃ edits last, s.Enacts first before edits s' last ∧
        s'.LastIs last step.action.ownerKind :=
      Store.enacts_of_replay hlinked trivial hbefore
    have hsame : t = s' := by
      obtain ⟨-, last, -, hlast⟩ := henacts ⟨.classes, 0⟩
      exact (Store.perform_error hlast hstep).1
    subst hsame
    have hactive := d.replay_active s
    rw [hreplay] at hactive
    refine ⟨before, step, after, hsteps, hplace, cites_of_mem (hsteps ▸ by simp), fun first => ?_,
      hactive.1, hactive.2, fun d' hd' => ?_⟩
    · obtain ⟨edits, last, henacts, hlast⟩ := henacts first
      exact ⟨edits, last, henacts, henacts.edited_eq, (Store.perform_error hlast hstep).2⟩
    · obtain ⟨rest, hrest⟩ := hd'
      rw [apply_eq_error, ← hrest, List.append_assoc, Store.replay_append, hbefore]
      dsimp only
      rw [List.singleton_append, Store.replay, hstep, ← hplace]
  · obtain ⟨hkind, hepoch⟩ := d.replay_active s
    rw [apply_eq_ok h, Store.setKind_kind, Store.setKind, hkind]
    by_cases hsame : s.kind = d.kind
    · rw [if_pos hsame, if_pos hsame.symm]
      exact ⟨rfl, hepoch⟩
    · rw [if_neg hsame, if_neg (Ne.symm hsame)]
      exact ⟨rfl, congrArg (· + 1) hepoch⟩

/-- A method without a name is rejected when its class is there with an attribute. Without it the
document succeeds and switches to another kind. -/
theorem stops_at_rejected_method :
    let person : ClassSpec := { name := "A", attributes := [{ name := "x" }] }
    let good : Document := { kind := .state, classes := { classes := [person, { name := "B" }] } }
    let bad : Document := { good with
      classes := { classes := [{ person with methods := [{ name := " " }] }, { name := "B" }] } }
    let reason : ReplayError := ⟨.member "class" "A" "method" " ", .emptyName .classMethods⟩
    (∃ t before step after edits, bad.apply {} = (t, .error reason) ∧
      t.kind = .sequence ∧ t.epoch = 0 ∧ bad.steps = before ++ step :: after ∧
      reason.place = step.place ∧ t = Store.edited {} edits ∧ edits.length = before.length) ∧
    ∃ t, good.apply {} = (t, .ok ()) ∧ t.kind = .state ∧ t.epoch = 1 := by
  intro person good bad reason
  have eq_of_snd {d : Document} {r : Except ReplayError Unit} (h : (d.apply {}).2 = r) :
      ∃ t, d.apply {} = (t, r) := ⟨(d.apply {}).1, Prod.ext rfl h⟩
  constructor
  · have hbad : (bad.apply {}).2 = .error reason := by decide +kernel
    obtain ⟨t, ht⟩ := eq_of_snd hbad
    obtain ⟨before, step, after, hsteps, hplace, -, hedits, hkind, hepoch, -⟩ :=
      (apply_stops bad {}).1 t reason ht
    obtain ⟨edits, owner, henacts, hedited, -⟩ := hedits ⟨.classes, 0⟩
    exact ⟨t, before, step, after, edits, ht, hkind, hepoch, hsteps, hplace, hedited,
      henacts.length_eq⟩
  · have hgood : (good.apply {}).2 = .ok () := by decide +kernel
    obtain ⟨t, ht⟩ := eq_of_snd hgood
    obtain ⟨hkind, hepoch⟩ := (apply_stops good {}).2 t ht
    exact ⟨t, ht, hkind, hepoch⟩

end Document

end UmlDiagrams
