import UmlDiagrams.Proofs.Store.Given
import UmlDiagrams.Proofs.Store.Removals
/-!
# Additions taken back

A new record is known by nothing that was there before, so its removal takes nothing else along. A
node that comes back under its name is a new record, and no edge of the old one is left to be at it.
-/

namespace UmlDiagrams

open Stateful Text

variable {s s' : Store} {c edges : Collection} {edit : Edit} {reply : Reply} {name : String}
  {new : Record}

private theorem Record.reference_of_id? {r : Record} {id : Id} (h : r.id? = some id) :
    r.reference = .id id := by
  cases r with
  | name text => cases h
  | _ => exact congrArg Reference.id (Option.some.inj h)

/-- The store has one record more than before, at the end of the collection. -/
def Store.Gains (s : Store) (c : Collection) (new : Record) (s' : Store) : Prop :=
  s'.records = Function.update s.records c (s.records c ++ [new])

private theorem Slot.addedNode_gains {κ ν ε : Type} {R : Rules κ ν ε} (V : Slot R) {g : Graph κ ν ε}
    (build : Id → String → ν) (h : Graph.AddedNode R name build (V.part s) g) :
    s.Gains R.nodes (V.node (build ((V.part s).nextId R) (trim name))) (V.put s g) := by
  obtain ⟨text, htext, rfl⟩ := h
  obtain ⟨rfl, -, -⟩ := newName_eq_ok.mp htext
  refine (V.put_nodes (by rfl)).trans ?_
  rw [V.nodes]
  exact congrArg _ List.map_append

namespace Store

private theorem not_refuses_of_add (hdeed : edit.deed = .add c) :
    Answers (fun _ reply => ¬ reply.Refuses) (apply edit) := by
  have hpart {σ : Type} {L : Part σ} {x : Editing σ Reply}
      (h : Answers (fun _ reply => ¬ reply.Refuses) x) :
      Answers (fun _ reply => ¬ reply.Refuses) (within L.part L.put x) :=
    h.within fun _ _ h => h
  cases edit with
  | sequence edit =>
    refine hpart (L := Part.sequence) ?_
    cases edit with
    | addActor | addMessage => exact Answers.const fun _ _ => nofun
    | _ => cases hdeed
  | classes edit =>
    refine hpart (L := Part.classes) ?_
    cases edit with
    | addClass | addRelationship => exact Answers.const fun _ _ => nofun
    | _ => cases hdeed
  | useCase edit =>
    refine hpart (L := Part.useCase) ?_
    cases edit with
    | addActor | addUseCase | addLink => exact Answers.const fun _ _ => nofun
    | _ => cases hdeed
  | entity edit =>
    refine hpart (L := Part.entity) ?_
    cases edit with
    | addEntity | addRelationship => exact Answers.const fun _ _ => nofun
    | _ => cases hdeed
  | activity edit =>
    refine hpart (L := Part.activity) ?_
    cases edit with
    | addNode | addEdge => exact Answers.const fun _ _ => nofun
    | _ => cases hdeed
  | component edit =>
    refine hpart (L := Part.component) ?_
    cases edit with
    | addNode | addEdge => exact Answers.const fun _ _ => nofun
    | _ => cases hdeed
  | state edit =>
    refine hpart (L := Part.state) ?_
    cases edit with
    | addState | addTransition => exact Answers.const fun _ _ => nofun
    | _ => cases hdeed
  | _ => cases hdeed

private theorem added (hdeed : edit.deed = .add c)
    (hok : (apply edit).outcome s = .ok reply) :
    ∃ new, s.Gains c new ((apply edit).after s) ∧
      ∀ id, reply = .created id → new.reference = .id id := by
  have hdone := (deed_effects edit).accepted hok (not_refuses_of_add hdeed s reply hok)
  rw [hdeed] at hdone
  obtain ⟨⟨new, hid, hrecords⟩, -⟩ := hdone
  refine ⟨new, hrecords, fun id hcreated => Record.reference_of_id? ?_⟩
  obtain ⟨c', kind, hdeed', hnumbering, rfl⟩ := apply_answers edit s reply hok id hcreated
  cases hdeed.symm.trans hdeed'
  rw [hid, hnumbering, Option.map_some]

private theorem addsNode_added (h : AddsNode name c edit)
    (hok : (apply edit).outcome s = .ok reply) :
    ∃ new, s.Gains c new ((apply edit).after s) ∧ new.title? = some (trim name) ∧
      new.Memberless := by
  have hdeed : edit.deed = .add c := by
    cases h <;> rfl
  have heffect := (apply_effects edit).accepted hok (not_refuses_of_add hdeed s reply hok)
  generalize (apply edit).after s = s' at heffect ⊢
  cases h with
  | actor =>
    obtain ⟨d, hd, rfl⟩ := heffect
    exact ⟨_, SequenceDiagram.slot.addedNode_gains (fun _ n => n) hd, rfl, trivial⟩
  | classRecord isAbstract =>
    obtain ⟨d, hd, rfl⟩ := heffect
    exact ⟨_, ClassDiagram.slot.addedNode_gains (fun id n => ⟨id, n, isAbstract, [], []⟩) hd, rfl,
      rfl, rfl⟩
  | useCaseActor =>
    obtain ⟨d, ⟨text, htext, rfl⟩, rfl⟩ := heffect
    obtain ⟨rfl, -, -⟩ := newName_eq_ok.mp (UseCaseDiagram.newActor_eq_ok.mp htext).1
    refine ⟨.name (trim name), ?_, rfl, trivial⟩
    exact (UseCaseDiagram.put_records (c := .useCaseActors) (absurd (by rfl)) (fun _ => by rfl)
      (fun _ => by rfl)).trans (congrArg _ List.map_append)
  | useCase =>
    obtain ⟨d, ⟨text, htext, rfl⟩, rfl⟩ := heffect
    obtain ⟨rfl, -, -⟩ := newName_eq_ok.mp (UseCaseDiagram.newUseCase_eq_ok.mp htext).1
    refine ⟨.name (trim name), ?_, rfl, trivial⟩
    exact (UseCaseDiagram.put_records (c := .useCases) (fun _ => by rfl) (absurd (by rfl))
      (fun _ => by rfl)).trans (congrArg _ List.map_append)
  | entity =>
    obtain ⟨d, hd, rfl⟩ := heffect
    exact ⟨_, EntityDiagram.slot.addedNode_gains (fun id n => ⟨id, n, []⟩) hd, rfl, rfl⟩
  | activity =>
    obtain ⟨d, hd, rfl⟩ := heffect
    exact ⟨_, FlowDiagram.activitySlot.addedNode_gains (fun _ n => n) hd, rfl, trivial⟩
  | component =>
    obtain ⟨d, hd, rfl⟩ := heffect
    exact ⟨_, FlowDiagram.componentSlot.addedNode_gains (fun _ n => n) hd, rfl, trivial⟩
  | state =>
    obtain ⟨d, hd, rfl⟩ := heffect
    exact ⟨_, StateDiagram.slot.addedNode_gains (fun _ n => n) hd, rfl, trivial⟩

namespace Gains

private theorem records_self (h : s.Gains c new s') : s'.records c = s.records c ++ [new] := by
  rw [h, Function.update_self]

private theorem records_of_ne (h : s.Gains c new s') {c' : Collection} (hc : c' ≠ c) :
    s'.records c' = s.records c' := by
  rw [h, Function.update_of_ne hc]

private theorem mem (h : s.Gains c new s') : new ∈ s'.records c := by
  rw [h.records_self]
  exact List.mem_append_right _ (List.mem_singleton_self new)

private theorem unique (h : s.Gains c new s') {new' : Record} (h' : s.Gains c new' s') :
    new' = new := by
  have heq := h'.records_self.symm.trans h.records_self
  exact List.singleton_inj.mp (List.append_cancel_left heq)

private theorem reference_notMem (h : s.Gains c new s') (hs' : s'.Sound) :
    new.reference ∉ s.references c := by
  have hnodup := references_nodup hs' c
  rw [references, h.records_self, List.map_append, List.nodup_append_comm] at hnodup
  exact (List.nodup_cons.mp hnodup).1

private theorem notMem_ends (h : s.Gains c new s') (hs : s.Sound) (hs' : s'.Sound)
    (hc : c.edges? = some edges) : ∀ e ∈ s.records edges, new.reference ∉ e.endsIn c :=
  fun _ he hend => h.reference_notMem hs' (mem_references_of_end hs hc he _ hend)

/-- The removal of the new record takes nothing else along. -/
private theorem without_eq (h : s.Gains c new s') (hs : s.Sound) (hs' : s'.Sound) :
    s'.without c new.reference = s.records := by
  funext c'
  rw [without]
  by_cases hc : c' = c
  · have hself : (s.records c).filter (fun r => r.reference ≠ new.reference) = s.records c :=
      filter_ne_eq_self (h.reference_notMem hs')
    rw [if_pos hc, hc, h.records_self, List.filter_append, hself,
      List.filter_cons_of_neg (by simp), List.filter_nil, List.append_nil]
  · rw [if_neg hc, h.records_of_ne hc]
    by_cases hedges : c.edges? = some c'
    · rw [if_pos hedges, List.filter_eq_self]
      exact fun e he => decide_eq_true (h.notMem_ends hs hs' hedges e he)
    · rw [if_neg hedges]

end Gains

private theorem siblings_apart (h : s.Sound) {other : Collection} (hc : c.sibling? = some other)
    {m n : String} (hm : m ∈ s.nodeNames c) (hn : n ∈ s.nodeNames other) :
    printKey other n ≠ printKey c m := by
  have hapart := (List.nodup_append.mp h.useCase.printKeys).2.2
  cases c <;> cases hc
  · exact (hapart _ (List.mem_map_of_mem hm) _ (List.mem_map_of_mem hn)).symm
  · exact hapart _ (List.mem_map_of_mem hn) _ (List.mem_map_of_mem hm)

private theorem refusal?_without (h : s.Sound) (hc : c.edges? = some edges)
    {front back : List Record} {node : Record} {text : String}
    (hsplit : s.records c = front ++ node :: back) (htext : node.title? = some text)
    (hkept : s'.records c = front ++ back) (hwithout : s'.records = s.without c node.reference) :
    s'.refusal? Collection.mark c text = none := by
  let titles := List.filterMap Record.title?
  have hnames : s.nodeNames c = titles front ++ text :: titles back := by
    rw [nodeNames_eq_titles hc, hsplit, List.filterMap_append, List.filterMap_cons_some htext]
  have hnames' : s'.nodeNames c = titles front ++ titles back := by
    rw [nodeNames_eq_titles hc, hkept, List.filterMap_append]
  have hmem : text ∈ s.nodeNames c := by
    rw [hnames]
    exact List.mem_append_right _ List.mem_cons_self
  have hkeys := printKeys_nodup h c
  rw [hnames, List.map_append, List.map_cons, List.nodup_middle, List.nodup_cons,
    ← List.map_append, ← hnames'] at hkeys
  have hnew : nameRefusal? Collection.mark c (s'.nodeNames c) text = none := by
    refine nameRefusal?_eq_none.mpr ⟨(isName_of_mem h hmem).2, fun n hn heq => hkeys.1 ?_⟩
    rw [← (c.mark_eq_iff_printKey).mp heq]
    exact List.mem_map_of_mem hn
  rw [refusal?, hnew, Option.none_or]
  cases hsibling : c.sibling? with
  | none => rfl
  | some other =>
    have hsame : s'.nodeNames other = s.nodeNames other := by
      have hrecords : s'.records other = s.records other := by
        rw [hwithout]
        cases c <;> cases hsibling <;> rfl
      cases c <;> cases hsibling
      · rw [nodeNames_eq_titles rfl, nodeNames_eq_titles rfl, hrecords]
      · rw [nodeNames_eq_titles rfl, nodeNames_eq_titles rfl, hrecords]
    have hapart := requireDistinct_eq hsibling (s.nodeNames other) text
    rw [requireDistinct_eq_ok.mpr fun n hn => siblings_apart h hsibling hmem hn] at hapart
    rw [Option.bind_some, hsame]
    cases hclash : clashRefusal? Collection.mark c other (s.nodeNames other) text with
    | none => rfl
    | some e =>
      rw [hclash] at hapart
      cases hapart

/-- An addition and the removal of the new record, by its stored name or the answered identifier,
leave all records as they were, with their identifiers, members and order. A node that is removed
and added again by its name is the last one, and has no members and no edges: its edges are gone. -/
theorem additions_reversed {s : Store} (h : s.Reachable) :
    (∀ {c edit reply}, edit.deed = .add c → (apply edit).outcome s = .ok reply →
      ∃ new removal, s.Gains c new ((apply edit).after s) ∧
        (∀ name, AddsNode name c edit → new.title? = some (trim name) ∧ new.Memberless) ∧
        (∀ id, reply = .created id → new.reference = .id id) ∧
        RemovesBy new.reference c removal ∧
        (apply removal).outcome ((apply edit).after s) = .ok (.removed true) ∧
        ((apply removal).after ((apply edit).after s)).records = s.records) ∧
    ∀ {c edges node removal name edit}, node ∈ s.records c → c.edges? = some edges →
      RemovesBy node.reference c removal → AddsNode name c edit →
      node.title? = some (trim name) →
      let without := (apply removal).after s
      let again := (apply edit).after without
      (apply removal).outcome s = .ok (.removed true) ∧
      (∃ reply, (apply edit).outcome without = .ok reply) ∧
      ∃ front back new, s.records c = front ++ node :: back ∧
        again.records c = front ++ back ++ [new] ∧ new.title? = node.title? ∧ new.Memberless ∧
        again.records edges = (s.records edges).filter (node.reference ∉ ·.endsIn c) ∧
        (∀ e ∈ again.records edges, new.reference ∉ e.endsIn c) ∧
        ∀ c', c' ≠ c → c' ≠ edges → again.records c' = s.records c' := by
  have hs := h.sound
  refine ⟨fun {c edit reply} hdeed hok => ?_,
    fun {c edges node removal name edit} hnode hc hremoval hedit htitle => ?_⟩
  · obtain ⟨new, hgains, hcreated⟩ := added hdeed hok
    have hs' := apply_keeps edit s hs
    obtain ⟨removal, hremoval⟩ := exists_removesBy hgains.mem
    obtain ⟨hremoved, hrecords⟩ :=
      removesBy_takesOut hremoval (List.mem_map_of_mem hgains.mem)
    refine ⟨new, removal, hgains, fun name hedit => ?_, hcreated, hremoval, hremoved,
      hrecords.trans (hgains.without_eq hs hs')⟩
    obtain ⟨new', hgains', hnode⟩ := addsNode_added hedit hok
    rw [hgains.unique hgains'] at hnode
    exact hnode
  · intro without again
    obtain ⟨hremoved, hrecords⟩ := removesBy_takesOut hremoval (List.mem_map_of_mem hnode)
    obtain ⟨front, back, hsplit, hfilter, -⟩ := split_at_key (references_nodup hs c) hnode
    have hkept : without.records c = front ++ back := by
      rw [hrecords, Store.without, if_pos rfl, hfilter]
    -- Only the removed node printed like its name, so the name is free again.
    have hfree := refusal?_without hs hc hsplit htitle hkept hrecords
    obtain ⟨reply, hreply⟩ := ((addsNode_settles hedit).settled.2 hfree).1
    obtain ⟨new, hgains, hnew, hbare⟩ := addsNode_added hedit hreply
    have hwithout : without.Sound := apply_keeps removal s hs
    have hagain : again.Sound := apply_keeps edit _ hwithout
    have hedges : again.records edges = without.records edges :=
      hgains.records_of_ne (Collection.ne_of_edges? hc)
    refine ⟨hremoved, ⟨reply, hreply⟩, front, back, new, hsplit, ?_, hnew.trans htitle.symm, hbare,
      ?_, ?_, fun c' hne hne' => ?_⟩
    · rw [hgains.records_self, hkept]
    · rw [hedges, hrecords, Store.without, if_neg (Collection.ne_of_edges? hc), if_pos hc]
    · rw [hedges]
      exact hgains.notMem_ends hwithout hagain hc
    · rw [hgains.records_of_ne hne, hrecords, Store.without, if_neg hne,
        if_neg fun heq => hne' (Option.some.inj (heq.symm.trans hc))]

/-- A loop that comes and goes, and a state that comes back without its transition. -/
theorem additions_reversed_states :
    let s := run {} [.edit (.state (.addState "A")), .edit (.state (.addState "B")),
      .edit (.state (.addTransition none none "go"))]
    let loop := (apply (.state (.addTransition (some "B") (some "B") "stay"))).after s
    let again := (apply (.state (.addState " A "))).after
      ((apply (.state (.removeState "A"))).after s)
    ((apply (.state (.removeTransition ⟨.state, 3⟩))).after loop).records = s.records ∧
      again.records .states = [.name "B", .name "A"] ∧
      ∀ e ∈ again.records .stateTransitions, .name "A" ∉ e.endsIn .states := by
  intro s loop again
  have hs : s.Reachable := ⟨{}, _, .inl rfl, rfl⟩
  obtain ⟨hadded, hremoved⟩ := additions_reversed hs
  have hloop : (apply (.state (.addTransition (some "B") (some "B") "stay"))).outcome s =
      .ok (.created ⟨.state, 3⟩) := by
    decide +kernel
  have hmem : Record.name "A" ∈ s.records .states := by
    decide +kernel
  have htitle : (Record.name "A").title? = some (trim " A ") := by
    decide +kernel
  have hstates : again.records .states = [.name "B"] ++ [.name "A"] := by
    decide +kernel
  refine ⟨?_, hstates, ?_⟩
  · obtain ⟨new, removal, -, -, hid, hremoval, -, hrecords⟩ := hadded rfl hloop
    rw [hid _ rfl] at hremoval
    cases hremoval
    exact hrecords
  · obtain ⟨-, -, front, back, new, -, hlast, -, -, -, hends, -⟩ :=
      hremoved hmem rfl (.state "A") .state htitle
    obtain ⟨-, hnew⟩ := List.append_inj' (hstates.symm.trans hlast) rfl
    cases hnew
    exact hends

end Store

end UmlDiagrams
