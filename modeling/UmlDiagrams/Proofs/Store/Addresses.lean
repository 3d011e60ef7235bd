import UmlDiagrams.Proofs.Document.Joins
import UmlDiagrams.Proofs.Source.Drawing
import UmlDiagrams.Proofs.Store.Slots
/-!
# Names as addresses

Nodes are found by their names as they are stored, which is trimmed. A name that is added as it is
stored stands for its node wherever a name is asked for; one that was trimmed stands for none.
-/

namespace UmlDiagrams

open Stateful Text

inductive RemovesNode (name : String) : Collection → Edit → Prop
  | actor : RemovesNode name .actors (.sequence (.removeActor name))
  | useCaseActor : RemovesNode name .useCaseActors (.useCase (.removeActor name))
  | useCase : RemovesNode name .useCases (.useCase (.removeUseCase name))
  | activity : RemovesNode name .activities (.activity (.removeNode name))
  | component : RemovesNode name .components (.component (.removeNode name))
  | state : RemovesNode name .states (.state (.removeState name))

def Stateful.Removes {σ α : Type} (x : Editing σ α) (answer : Bool → α) (s : σ)
    (names : σ → List String) (name : String) : Prop :=
  x.outcome s = .ok (answer (decide (name ∈ names s))) ∧
    names (x.after s) = (names s).filter (· ≠ name)

namespace Stateful.Removes

variable {σ τ α : Type} {x : Editing σ α} {s : σ} {names : σ → List String} {name : String}

private theorem of_run {x : Editing σ Bool} {s' : σ}
    (hrun : x.run s = if name ∈ names s then .ok true s' else .ok false s)
    (hnames : names s' = (names s).filter (· ≠ name)) : Removes x id s names name := by
  by_cases h : name ∈ names s
  · rw [if_pos h] at hrun
    refine ⟨?_, ?_⟩
    · rw [outcome, hrun, decide_eq_true h, id]
    · rw [after_of_run_ok hrun, hnames]
  · rw [if_neg h] at hrun
    refine ⟨?_, ?_⟩
    · rw [outcome, hrun, decide_eq_false h, id]
    · have hself : name ∉ (names s).map id := by
        rw [List.map_id]
        exact h
      rw [after_of_run_ok hrun]
      exact (filter_ne_eq_self hself).symm

private theorem reply {L : Part σ} {x : Editing σ Bool} {s : Store}
    (h : Removes x id (L.part s) names name) {names' : Store → List String}
    (hnames : ∀ s, names' s = names (L.part s)) :
    Removes (within L.part L.put (x >>= fun found => pure (Reply.removed found))) Reply.removed s
      names' name := by
  obtain ⟨houtcome, hafter⟩ := h
  refine ⟨?_, ?_⟩
  · rw [outcome_within, outcome_answer, houtcome, hnames]
    rfl
  · rw [after_within, after_answer, hnames, hnames, L.part_put, hafter]

end Stateful.Removes

private theorem Graph.removeNode_removes {ε : Type} (kind : Kind) (nodes edges : Collection)
    (name : String) (g : Graph String String ε) :
    Removes (removeNode (.byName kind nodes edges) name) id g (names (.byName kind nodes edges))
      name := by
  refine .of_run (removeNode_run _ g name) ?_
  rw [names_byName, names_byName]
  rfl

private theorem UseCaseDiagram.removeActor_removes (name : String) (d : UseCaseDiagram) :
    Removes (removeActor name) id d actors name :=
  .of_run (d.removeActor_run name) rfl

private theorem UseCaseDiagram.removeUseCase_removes (name : String) (d : UseCaseDiagram) :
    Removes (removeUseCase name) id d useCases name :=
  .of_run (d.removeUseCase_run name) rfl

namespace SequenceDiagram

open UmlDiagrams.Graph

variable {d : SequenceDiagram} {id : Id} {source target : String}

private theorem movedEdge_eq {m : Edge String Message} (hs : source ∈ d.names rules)
    (ht : target ∈ d.names rules) (hm : d.findEdge? id = some m) :
    d.movedEdge rules id source target = .ok { m with source, target } := by
  have hunique : d.requireUnique rules (some id) source target m.data = .ok () := by
    simp [requireUnique, hasDuplicate, rules, Rules.byName]
  refine bind_eq_ok.mpr ⟨source, if_pos hs, bind_eq_ok.mpr ⟨target, if_pos ht, ?_⟩⟩
  refine bind_eq_ok.mpr ⟨m, ?_, bind_eq_ok.mpr ⟨(), hunique, rfl⟩⟩
  rw [requireEdge, hm]

private theorem movedEdge_of_source (hs : source ∉ d.names rules) :
    d.movedEdge rules id source target = .error (.unknownEndpoint .actors (.name source)) :=
  bind_eq_error.mpr (.inl (if_neg hs))

private theorem movedEdge_of_target (hs : source ∈ d.names rules) (ht : target ∉ d.names rules) :
    d.movedEdge rules id source target = .error (.unknownEndpoint .actors (.name target)) :=
  bind_eq_error.mpr (.inr ⟨source, if_pos hs, bind_eq_error.mpr (.inl (if_neg ht))⟩)

end SequenceDiagram

private theorem Graph.findEdge?_replaceEdge {κ ν ε : Type} {g : Graph κ ν ε} {id : Id}
    {old new : Edge κ ε} (hold : g.findEdge? id = some old) (hnew : new.id = id) :
    (replaceEdge new g).findEdge? id = some new := by
  have hid : old.id = id := by
    simpa using List.find?_some hold
  have hsame : (fun e => decide (e.id = id)) ∘
      (fun e : Edge κ ε => if e.id = new.id then new else e) = fun e => decide (e.id = id) := by
    funext e
    rw [Function.comp_apply, hnew]
    by_cases he : e.id = id
    · rw [if_pos he, hnew, he]
    · rw [if_neg he]
  rw [findEdge?] at hold
  rw [findEdge?, replaceEdge, List.find?_map, hsame, hold, Option.map_some,
    if_pos (hid.trans hnew.symm)]

namespace Store

variable {s : Store} {c : Collection} {name : String} {edit : Edit}

private theorem removesNode_removes (h : RemovesNode name c edit) :
    Removes (apply edit) Reply.removed s (nodeNames · c) name := by
  cases h with
  | actor =>
    have h := Graph.removeNode_removes .sequence .actors .messages name s.sequence
    exact h.reply (L := Part.sequence) fun _ => rfl
  | useCaseActor =>
    exact (s.useCase.removeActor_removes name).reply (L := Part.useCase) fun _ => rfl
  | useCase =>
    exact (s.useCase.removeUseCase_removes name).reply (L := Part.useCase) fun _ => rfl
  | activity =>
    have h := Graph.removeNode_removes .activity .activities .activityFlows name s.activity
    exact h.reply (L := Part.activity) fun _ => rfl
  | component =>
    have h := Graph.removeNode_removes .component .components .componentDependencies name
      s.component
    exact h.reply (L := Part.component) fun _ => rfl
  | state =>
    have h := Graph.removeNode_removes .state .states .stateTransitions name s.state
    exact h.reply (L := Part.state) fun _ => rfl

def Moves (s : Store) (id : Id) (source target : String) : Prop :=
  (apply (.sequence (.retarget id source target))).outcome s = .ok .done ∧
    (((apply (.sequence (.retarget id source target))).after s).sequence.findEdge? id).map
      (fun m => (m.source, m.target)) = some (source, target)

variable {id : Id} {source target : String}

private theorem moves_of_mem (h : s.Sound) (hid : id ∈ s.idsIn .messages)
    (hs : source ∈ s.nodeNames .actors) (ht : target ∈ s.nodeNames .actors) :
    s.Moves id source target := by
  have hids : s.idsIn .messages = s.sequence.edges.map (·.id) :=
    SequenceDiagram.slot.idsIn_edges s
  rw [hids] at hid
  obtain ⟨m, hmem, rfl⟩ := List.mem_map.mp hid
  have hm : s.sequence.findEdge? m.id = some m := find?_key h.sequence.edgeIds hmem
  have hrun := Graph.retarget_run SequenceDiagram.rules s.sequence m.id source target
  rw [SequenceDiagram.movedEdge_eq hs ht hm] at hrun
  refine ⟨?_, ?_⟩
  · rw [apply, outcome_within]
    exact (outcome_answer _ _ _).trans (by rw [outcome, hrun]; rfl)
  · have hafter : ((apply (.sequence (.retarget m.id source target))).after s).sequence =
        Graph.touch [.messages] (Graph.replaceEdge { m with source, target } s.sequence) := by
      rw [apply, after_within]
      exact (after_answer _ _ _).trans (after_of_run_ok hrun)
    have hfound : (Graph.replaceEdge { m with source, target } s.sequence).findEdge? m.id =
        some { m with source, target } := Graph.findEdge?_replaceEdge hm rfl
    rw [hafter]
    exact congrArg (Option.map _) hfound

private theorem retarget_error {e : Rejection}
    (h : s.sequence.movedEdge SequenceDiagram.rules id source target = .error e) :
    (apply (.sequence (.retarget id source target))).outcome s = .error e := by
  have hrun := Graph.retarget_run SequenceDiagram.rules s.sequence id source target
  rw [h] at hrun
  rw [apply, outcome_within]
  exact (outcome_answer _ _ _).trans (by rw [outcome, hrun]; rfl)

theorem printKeys_nodup (h : s.Sound) (c : Collection) :
    ((s.nodeNames c).map (printKey c)).Nodup := by
  cases c with
  | actors => exact Graph.printKeys_names h.sequence
  | classes => exact Graph.printKeys_names h.classes
  | useCaseActors => exact (List.nodup_append.mp h.useCase.printKeys).1
  | useCases => exact (List.nodup_append.mp h.useCase.printKeys).2.1
  | entities => exact Graph.printKeys_names h.entity
  | activities => exact Graph.printKeys_names h.activity
  | components => exact Graph.printKeys_names h.component
  | states => exact Graph.printKeys_names h.state
  | _ => exact List.nodup_nil

theorem nodeNames_nodup (h : s.Sound) (c : Collection) : (s.nodeNames c).Nodup :=
  (printKeys_nodup h c).of_map

theorem isName_of_mem (h : s.Sound) (hname : name ∈ s.nodeNames c) : IsName name := by
  cases c with
  | actors => exact h.sequence.named name (names_byName ▸ hname)
  | classes =>
    obtain ⟨c, hc, rfl⟩ := List.mem_map.mp hname
    exact (h.classes.named c hc).name
  | useCaseActors => exact h.useCase.namedActors name hname
  | useCases => exact h.useCase.namedUseCases name hname
  | entities =>
    obtain ⟨e, he, rfl⟩ := List.mem_map.mp hname
    exact (h.entity.named e he).name
  | activities => exact h.activity.named name (names_byName ▸ hname)
  | components => exact h.component.named name (names_byName ▸ hname)
  | states => exact h.state.named name (names_byName ▸ hname)
  | _ => cases hname

/-- The record of this name, for the collections in which records are looked up by name. -/
def named? (s : Store) : Collection → String → Option Record
  | .classes, name => (s.classes.byName? name).map .classRecord
  | .entities, name => (s.entity.byName? name).map .entity
  | _, _ => none

private theorem named?_eq_none (hname : name ∉ s.nodeNames c) : s.named? c name = none := by
  cases c with
  | classes => exact congrArg (Option.map _) (find?_key_eq_none hname)
  | entities => exact congrArg (Option.map _) (find?_key_eq_none hname)
  | _ => rfl

private theorem named?_last {names : List String} (h : s.Sound) (hc : c ∈ [.classes, .entities])
    (hnames : s.nodeNames c = names ++ [name]) :
    ∃ r, s.named? c name = some r ∧ (s.records c).getLast? = some r := by
  simp only [List.mem_cons, List.not_mem_nil, or_false] at hc
  rcases hc with rfl | rfl
  · obtain ⟨r, hfind, hlast⟩ := find?_key_last (nodeNames_nodup h .classes) hnames
    refine ⟨.classRecord r, congrArg (Option.map _) hfind, ?_⟩
    rw [records, List.getLast?_map, hlast, Option.map_some]
  · obtain ⟨r, hfind, hlast⟩ := find?_key_last (nodeNames_nodup h .entities) hnames
    refine ⟨.entity r, congrArg (Option.map _) hfind, ?_⟩
    rw [records, List.getLast?_map, hlast, Option.map_some]

private theorem outcome_of_joined {e : Rejection} {edges : Collection}
    {ends : Option String × Option String} {action : Action}
    (h : s.Joined (some e) edges ends action) : action.perform.outcome s = .error e := by
  rw [Joined] at h
  rw [outcome]
  cases hr : action.perform.run s with
  | ok a s' =>
    rw [hr] at h
    cases h.1
  | error e' s' =>
    rw [hr] at h
    rcases h with h | h
    · exact congrArg Except.error (Option.some.inj h).symm
    · cases h.1

/-- The name stands for the last node of the collection, wherever a name is asked for. -/
structure AddressesLast (s : Store) (c : Collection) (name : String) : Prop where
  source : ∀ target other edges action, Joins (some name) target c other edges action →
    s.CanJoin c other → s.Joined (endRefusal? other (s.nodeNames other) target) edges
      (some name, target.or (s.nodeNames other)[c.defaultTarget other]?) action
  target : ∀ source other edges action, Joins source (some name) other c edges action →
    s.CanJoin other c → s.Joined (endRefusal? other (s.nodeNames other) source) edges
      (source.or (s.nodeNames other)[0]?, some name) action
  moved : c = .actors → ∀ id ∈ s.idsIn .messages, ∀ other ∈ s.nodeNames c,
    s.Moves id name other ∧ s.Moves id other name
  found : c ∈ [.classes, .entities] →
    ∃ r, s.named? c name = some r ∧ (s.records c).getLast? = some r
  removed : ∀ edit, RemovesNode name c edit → (apply edit).outcome s = .ok (.removed true) ∧
    ((apply edit).after s).nodeNames c = (s.nodeNames c).dropLast

/-- The name stands for no node of the collection. -/
structure AddressesNone (s : Store) (c : Collection) (name : String) : Prop where
  source : ∀ target other edges action, Joins (some name) target c other edges action →
    s.CanJoin c other → action.perform.outcome s = .error (.unknownEndpoint c (.name name))
  target : ∀ source other edges action, Joins source (some name) other c edges action →
    s.CanJoin other c → (∀ n, source = some n → n ∈ s.nodeNames other) →
    action.perform.outcome s = .error (.unknownEndpoint c (.name name))
  moved : c = .actors → ∀ id, ∀ other ∈ s.nodeNames c,
    (apply (.sequence (.retarget id name other))).outcome s =
        .error (.unknownEndpoint c (.name name)) ∧
      (apply (.sequence (.retarget id other name))).outcome s =
        .error (.unknownEndpoint c (.name name))
  found : s.named? c name = none
  removed : ∀ edit, RemovesNode name c edit →
    (apply edit).outcome s = .ok (.removed false) ∧ (apply edit).after s = s

private theorem addressesLast {names : List String} (h : s.Sound)
    (hnames : s.nodeNames c = names ++ [name]) : s.AddressesLast c name := by
  have hmem : name ∈ s.nodeNames c := by
    rw [hnames]
    exact List.mem_append_right _ (List.mem_singleton_self name)
  have hknown : endRefusal? c (s.nodeNames c) (some name) = none := if_pos hmem
  refine ⟨fun target other edges action hjoins hcan => ?_,
    fun source other edges action hjoins hcan => ?_, fun hc id hid other hother => ?_,
    fun hc => named?_last h hc hnames, fun edit hedit => ?_⟩
  · have hjoined := joins_joined h hjoins hcan
    rw [hknown, Option.none_or, Option.some_or] at hjoined
    exact hjoined
  · have hjoined := joins_joined h hjoins hcan
    rw [hknown, Option.or_none, Option.some_or] at hjoined
    exact hjoined
  · subst hc
    exact ⟨moves_of_mem h hid hmem hother, moves_of_mem h hid hother hmem⟩
  · obtain ⟨houtcome, hafter⟩ := removesNode_removes (s := s) hedit
    rw [decide_eq_true hmem] at houtcome
    refine ⟨houtcome, hafter.trans ?_⟩
    have hnodup := nodeNames_nodup h c
    rw [hnames, List.nodup_append_comm] at hnodup
    have hold : name ∉ names.map id := by
      rw [List.map_id]
      exact (List.nodup_cons.mp hnodup).1
    have hkept : names.filter (fun n => n ≠ name) = names := filter_ne_eq_self hold
    change (s.nodeNames c).filter (fun n => n ≠ name) = _
    rw [hnames, List.filter_append, hkept, List.dropLast_concat]
    simp

private theorem addressesNone (hname : name ∉ s.nodeNames c) (h : s.Sound) :
    s.AddressesNone c name := by
  have hunknown : endRefusal? c (s.nodeNames c) (some name) =
      some (.unknownEndpoint c (.name name)) := if_neg hname
  refine ⟨fun target other edges action hjoins hcan => ?_,
    fun source other edges action hjoins hcan hsource => ?_, fun hc id other hother => ?_,
    named?_eq_none hname, fun edit hedit => ?_⟩
  · have hjoined := joins_joined h hjoins hcan
    rw [hunknown, Option.some_or] at hjoined
    exact outcome_of_joined hjoined
  · have hjoined := joins_joined h hjoins hcan
    rw [hunknown, endRefusal?_eq_none.mpr hsource, Option.none_or] at hjoined
    exact outcome_of_joined hjoined
  · subst hc
    exact ⟨retarget_error (SequenceDiagram.movedEdge_of_source hname),
      retarget_error (SequenceDiagram.movedEdge_of_target hother hname)⟩
  · obtain ⟨houtcome, -⟩ := removesNode_removes (s := s) hedit
    rw [decide_eq_false hname] at houtcome
    exact ⟨houtcome, (apply_effects edit).unchanged (.inr ⟨_, rfl, houtcome⟩)⟩

/-- A node that is added gets the trimmed name, and this name stands for it. The name it was added
by, where it is another one, stands for no node. -/
theorem added_node_addresses {s : Store} (h : s.Reachable) {c : Collection} {name : String}
    {edit : Edit} (hadds : AddsNode name c edit) {reply : Reply}
    (hadded : (apply edit).outcome s = .ok reply) :
    ((apply edit).after s).nodeNames c = s.nodeNames c ++ [trim name] ∧
      ((apply edit).after s).AddressesLast c (trim name) ∧
      (name ≠ trim name → ((apply edit).after s).AddressesNone c name) := by
  have hsound : ((apply edit).after s).Sound := apply_keeps edit s h.sound
  obtain ⟨hrefused, haccepted⟩ := (addsNode_settles (s := s) hadds).settled
  have hnone : s.refusal? Collection.mark c (trim name) = none := by
    cases hrefusal : s.refusal? Collection.mark c (trim name) with
    | none => rfl
    | some e =>
      rw [(hrefused e).mpr hrefusal] at hadded
      cases hadded
  have hnames := (haccepted hnone).2
  refine ⟨hnames, addressesLast hsound hnames, fun hne => addressesNone (fun hmem => ?_) hsound⟩
  exact hne (isName_of_mem hsound hmem).trimmed.symm

/-- A use case added with blanks around its name. -/
theorem added_node_addresses_blank :
    let s := run {} [.edit (.useCase (.addActor "Guest"))]
    let edit : Edit := .useCase (.addUseCase "\tlog in ")
    let added := (apply edit).after s
    let link (name : String) : Action := .edit (.useCase (.addLink none (some name)))
    (apply edit).outcome s = .ok .done ∧ added.AddressesLast .useCases "log in" ∧
      (link "log in").perform.outcome added = .ok () ∧
      (link "\tlog in ").perform.outcome added =
        .error (.unknownEndpoint .useCases (.name "\tlog in ")) := by
  intro s edit added link
  have hs : s.Reachable := ⟨{}, [.edit (.useCase (.addActor "Guest"))], .inl rfl, rfl⟩
  have hadded : (apply edit).outcome s = .ok .done := by decide +kernel
  have htrim : trim "\tlog in " = "log in" := by decide +kernel
  have hcan : added.CanJoin .useCaseActors .useCases := by
    rw [CanJoin]
    decide +kernel
  obtain ⟨-, hlast, hnone⟩ := added_node_addresses hs .useCase hadded
  rw [htrim] at hlast hnone
  refine ⟨hadded, hlast, by decide +kernel, ?_⟩
  exact (hnone (by decide)).target none _ _ _ .useCaseLink hcan nofun

/-- An actor cannot be named as the sender, nor removed, by the name with which it was added. -/
theorem untrimmed_name_unknown :
    let s := run {} [.edit (.sequence (.addActor "B"))]
    let added := (apply (.sequence (.addActor " A "))).after s
    (apply (.sequence (.addActor " A "))).outcome s = .ok .done ∧
      added.sequence.nodes = ["B", "A"] ∧
      (apply (.sequence (.addMessage (some " A ") (some "B") .sync ""))).outcome added =
        .error (.unknownEndpoint .actors (.name " A ")) ∧
      (apply (.sequence (.removeActor " A "))).outcome added = .ok (.removed false) := by
  decide +kernel

end Store

end UmlDiagrams
