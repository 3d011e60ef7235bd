import UmlDiagrams.Proofs.Store.Deeds

namespace UmlDiagrams

open Stateful UmlDiagrams.Graph

namespace Graph

variable {κ ν ε α : Type} {R : Rules κ ν ε}

private theorem addNode_answers (name : String) (build : Id → String → ν) :
    Answers (fun g id => id = g.nextId R) (addNode R name build) := by
  intro g id h
  rw [outcome, addNode_run] at h
  cases hn : newName R.nodes (g.nodes.map R.name) name with
  | ok text =>
    rw [hn] at h
    cases h
    rfl
  | error e =>
    rw [hn] at h
    cases h

private theorem addEdge_answers [DecidableEq κ] (source target : Option κ) (data : ε) :
    Answers (fun g id => id = g.nextId R) (addEdge R source target data) := by
  intro g id h
  rw [outcome, addEdge_run] at h
  cases hn : g.newEnds R source target data with
  | ok ends =>
    rw [hn] at h
    cases h
    rfl
  | error e =>
    rw [hn] at h
    cases h

end Graph

/-- An answered identifier is the one that the diagram numbers next, and that of a new record. -/
def Deed.Answered (next : Id) (deed : Deed) (reply : Reply) : Prop :=
  ∀ id, reply = .created id → id = next ∧ ∃ c, deed = .add c ∧ c.numbering? = some next.kind

private theorem Deed.answered_of_ne {next : Id} {deed : Deed} {reply : Reply}
    (h : ∀ id, reply ≠ .created id) : deed.Answered next reply :=
  fun id heq => absurd heq (h id)

section

variable {σ : Type} {next : σ → Id}

private theorem answered_created {x : Editing σ Id} {c : Collection}
    (h : Answers (fun d id => id = next d) x) (hc : ∀ d, c.numbering? = some (next d).kind) :
    Answers (fun d reply => (Deed.add c).Answered (next d) reply)
      (x >>= fun id => pure (.created id)) := by
  refine h.answer fun d id hid id' heq => ?_
  cases heq
  exact ⟨hid, c, rfl, hc d⟩

private theorem answered_const {α : Type} {x : Editing σ α} {deed : Deed} {f : α → Reply}
    (hf : ∀ a id, f a ≠ .created id) :
    Answers (fun d reply => deed.Answered (next d) reply) (x >>= fun a => pure (f a)) :=
  Answers.const fun _ a => Deed.answered_of_ne (hf a)

private theorem answered_revised {ν ε : Type} {R : Rules Id ν ε} {id : Id} {touched : Collection}
    {revise : ν → Except Rejection (Reply × ν)} {deed : Deed} {next : Graph Id ν ε → Id}
    (hrevise : ∀ old answer node, revise old = .ok (answer, node) → ∀ id, answer ≠ .created id) :
    Answers (fun g reply => deed.Answered (next g) reply) (reviseNode R id touched revise) := by
  intro g reply h
  rw [outcome, reviseNode_run] at h
  cases hr : g.revisedNode R id revise with
  | ok result =>
    rw [hr] at h
    cases h
    obtain ⟨old, -, -, heq⟩ := revisedNode_eq_ok hr
    exact Deed.answered_of_ne (hrevise old _ _ heq)
  | error e =>
    rw [hr] at h
    cases h

private theorem answers_within {put : Store → σ → Store} {part : Store → σ} {x : Editing σ Reply}
    {deed : Deed} (h : Answers (fun d reply => deed.Answered (next d) reply) x)
    (hnext : ∀ s, (next (part s)).serial = s.issued (next (part s)).kind) :
    Answers (fun s reply => ∀ id, reply = .created id →
      ∃ c kind, deed = .add c ∧ c.numbering? = some kind ∧ id = ⟨kind, s.issued kind⟩)
      (within part put x) := by
  refine h.within fun s reply hreply id hid => ?_
  obtain ⟨rfl, c, hdeed, hnumbering⟩ := hreply id hid
  exact ⟨c, _, hdeed, hnumbering, congrArg (Id.mk _) (hnext s)⟩

end

private theorem SequenceDiagram.apply_answers (edit : SequenceEdit) :
    Answers (fun d reply => edit.deed.Answered (d.nextId rules) reply) (apply edit) := by
  cases edit with
  | addMessage source target arrow text =>
    exact answered_created (addEdge_answers source target _) fun _ => rfl
  | _ => exact answered_const nofun

private theorem StateDiagram.apply_answers (edit : StateEdit) :
    Answers (fun d reply => edit.deed.Answered (d.nextId rules) reply) (apply edit) := by
  cases edit with
  | addTransition source target event =>
    exact answered_created (addEdge_answers source target event) fun _ => rfl
  | _ => exact answered_const nofun

private theorem FlowDiagram.apply_answers {R : Rules String String Unit}
    (hnumbering : R.edges.numbering? = some R.kind) (edit : FlowEdit) :
    Answers (fun d reply => (edit.deed R.nodes R.edges).Answered (d.nextId R) reply)
      (apply R edit) := by
  cases edit with
  | addEdge source target =>
    exact answered_created (addEdge_answers source target ()) fun _ => hnumbering
  | _ => exact answered_const nofun

private theorem UseCaseDiagram.addLink_answers (actor useCase : Option String) :
    Answers (fun d id => id = nextId d) (addLink actor useCase) := by
  intro d id h
  rw [outcome, addLink_run] at h
  cases hn : d.newEnds actor useCase with
  | ok ends =>
    rw [hn] at h
    cases h
    rfl
  | error e =>
    rw [hn] at h
    cases h

private theorem UseCaseDiagram.apply_answers (edit : UseCaseEdit) :
    Answers (fun d reply => edit.deed.Answered (nextId d) reply) (apply edit) := by
  cases edit with
  | addLink actor useCase => exact answered_created (addLink_answers actor useCase) fun _ => rfl
  | _ => exact answered_const nofun

private theorem ClassDiagram.apply_answers (edit : ClassEdit) :
    Answers (fun d reply => edit.deed.Answered (d.nextId rules) reply) (apply edit) := by
  cases edit with
  | addClass name isAbstract => exact answered_created (addNode_answers name _) fun _ => rfl
  | setAbstract id isAbstract =>
    refine answered_revised fun old answer node h => ?_
    cases h
    nofun
  | addAttribute id attr =>
    refine Answers.check fun name => answered_revised fun old answer node h => ?_
    cases h
    nofun
  | removeAttribute id index =>
    refine answered_revised fun old answer node h => ?_
    obtain ⟨result, -, h⟩ := bind_eq_ok.mp h
    cases h
    nofun
  | addMethod id method =>
    refine Answers.check fun name => answered_revised fun old answer node h => ?_
    cases h
    nofun
  | removeMethod id index =>
    refine answered_revised fun old answer node h => ?_
    obtain ⟨result, -, h⟩ := bind_eq_ok.mp h
    cases h
    nofun
  | addRelationship source target kind label =>
    exact answered_created (addEdge_answers source target _) fun _ => rfl
  | _ => exact answered_const nofun

private theorem EntityDiagram.apply_answers (edit : EntityEdit) :
    Answers (fun d reply => edit.deed.Answered (d.nextId rules) reply) (apply edit) := by
  cases edit with
  | addEntity name => exact answered_created (addNode_answers name _) fun _ => rfl
  | addAttribute id attr =>
    refine Answers.check fun name => answered_revised fun old answer node h => ?_
    cases h
    nofun
  | removeAttribute id index =>
    refine answered_revised fun old answer node h => ?_
    obtain ⟨result, -, h⟩ := bind_eq_ok.mp h
    cases h
    nofun
  | addRelationship source target kind label =>
    exact answered_created (addEdge_answers source target _) fun _ => rfl
  | _ => exact answered_const nofun

namespace Store

theorem apply_answers (edit : Edit) :
    Answers (fun s reply => ∀ id, reply = .created id →
      ∃ c kind, edit.deed = .add c ∧ c.numbering? = some kind ∧ id = ⟨kind, s.issued kind⟩)
      (apply edit) := by
  cases edit with
  | sequence edit => exact answers_within (SequenceDiagram.apply_answers edit) fun _ => rfl
  | classes edit => exact answers_within (ClassDiagram.apply_answers edit) fun _ => rfl
  | useCase edit => exact answers_within (UseCaseDiagram.apply_answers edit) fun _ => rfl
  | entity edit => exact answers_within (EntityDiagram.apply_answers edit) fun _ => rfl
  | activity edit => exact answers_within (FlowDiagram.apply_answers rfl edit) fun _ => rfl
  | component edit => exact answers_within (FlowDiagram.apply_answers rfl edit) fun _ => rfl
  | state edit => exact answers_within (StateDiagram.apply_answers edit) fun _ => rfl
  | style edit =>
    intro s reply h id hid
    rw [outcome, style_run] at h
    cases hr : edit.revised s.style with
    | ok style =>
      rw [hr] at h
      cases h
      cases hid
    | error e =>
      rw [hr] at h
      cases h
  | setKind kind =>
    intro s reply h id hid
    cases h
    cases hid
  | clear =>
    intro s reply h id hid
    cases h
    cases hid

end Store

namespace Graph

variable {κ ν ε : Type} [DecidableEq κ] {R : Rules κ ν ε}

private theorem addEdge_ends (source target : Option κ) (data : ε) :
    Effects (fun _ => False) (fun g _ => ∀ key ∈ source.toList ++ target.toList, key ∈ g.keys R)
      (addEdge R source target data) := by
  refine (addEdge_effects source target data).imp fun g g' h key hkey => ?_
  obtain ⟨a, b, hends, -⟩ := h
  obtain ⟨-, -, hends⟩ := bind_eq_ok.mp hends
  obtain ⟨a', ha, hends⟩ := bind_eq_ok.mp hends
  obtain ⟨b', hb, -⟩ := bind_eq_ok.mp hends
  rcases List.mem_append.mp hkey with hkey | hkey
  · rw [Option.mem_toList] at hkey
    rw [hkey] at ha
    exact pickEnd_some ha ▸ pickEnd_mem ha
  · rw [Option.mem_toList] at hkey
    rw [hkey] at hb
    exact pickEnd_some hb ▸ pickEnd_mem hb

private theorem retarget_ends (id : Id) (source target : κ) :
    Effects (fun _ => False) (fun g _ => ∀ key ∈ [source, target], key ∈ g.keys R)
      (retarget R id source target) := by
  intro g
  rw [retarget_run]
  cases h : g.movedEdge R id source target with
  | error e => exact .failed e
  | ok edge =>
    obtain ⟨hsource, htarget, -, -⟩ := movedEdge_eq_ok h
    refine .accepted _ _ not_false fun key hkey => ?_
    rcases List.mem_pair.mp hkey with rfl | rfl
    · exact hsource
    · exact htarget

end Graph

namespace Store

variable {s : Store} {edit : Edit} {id : Id}

private theorem idsIn_classes (s : Store) : s.idsIn .classes = s.classes.keys ClassDiagram.rules :=
  ClassDiagram.slot_ofRecords.idsIn_nodes s

private theorem idsIn_entities (s : Store) :
    s.idsIn .entities = s.entity.keys EntityDiagram.rules :=
  EntityDiagram.slot_ofRecords.idsIn_nodes s

/-- An accepted edit is given ends that exist. -/
private theorem ends_effects (edit : Edit) :
    Effects Reply.Refuses (fun s _ => ∀ p ∈ edit.ends, p.2 ∈ s.idsIn p.1) (apply edit) := by
  cases edit with
  | classes edit =>
    cases edit with
    | addRelationship source target kind label =>
      have h := (addEdge_ends (R := ClassDiagram.rules) source target
        (⟨kind, label⟩ : Relation ClassRelation)).answer Reply.created_refuses
      refine (h.within fun _ => rfl).imp fun s _ ⟨d, hd, _⟩ p hp => ?_
      obtain ⟨id, hid, rfl⟩ := List.mem_map.mp hp
      rw [idsIn_classes]
      exact hd id hid
    | retarget id source target =>
      have h := (retarget_ends (R := ClassDiagram.rules) id source target).answer
        Reply.done_refuses
      refine (h.within fun _ => rfl).imp fun s _ ⟨d, hd, _⟩ p hp => ?_
      obtain ⟨id, hid, rfl⟩ := List.mem_map.mp hp
      rw [idsIn_classes]
      exact hd id hid
    | _ => exact (deed_effects _).imp fun _ _ _ _ => nofun
  | entity edit =>
    cases edit with
    | addRelationship source target kind label =>
      have h := (addEdge_ends (R := EntityDiagram.rules) source target
        (⟨kind, label⟩ : Relation ErRelation)).answer Reply.created_refuses
      refine (h.within fun _ => rfl).imp fun s _ ⟨d, hd, _⟩ p hp => ?_
      obtain ⟨id, hid, rfl⟩ := List.mem_map.mp hp
      rw [idsIn_entities]
      exact hd id hid
    | retarget id source target =>
      have h := (retarget_ends (R := EntityDiagram.rules) id source target).answer
        Reply.done_refuses
      refine (h.within fun _ => rfl).imp fun s _ ⟨d, hd, _⟩ p hp => ?_
      obtain ⟨id, hid, rfl⟩ := List.mem_map.mp hp
      rw [idsIn_entities]
      exact hd id hid
    | _ => exact (deed_effects _).imp fun _ _ _ _ => nofun
  | _ => exact (deed_effects _).imp fun _ _ _ _ => nofun

private theorem given_effects (edit : Edit) :
    Effects Reply.Refuses (fun s _ => ∀ p ∈ edit.given, p.2 ∈ s.idsIn p.1) (apply edit) := by
  refine ((deed_effects edit).and (ends_effects edit)).imp fun s s' ⟨hdone, hends⟩ p hp => ?_
  rw [Edit.given] at hp
  cases hdeed : edit.deed with
  | add c =>
    rw [hdeed] at hp
    exact hends p hp
  | revise c id =>
    rw [hdeed] at hdone hp
    rcases List.mem_cons.mp hp with rfl | hp
    · obtain ⟨⟨old, hold, -, hid, -⟩, -⟩ := hdone
      exact mem_idsIn.mpr ⟨old, hold, hid⟩
    · exact hends p hp
  | remove c id =>
    rw [hdeed] at hdone hp
    rcases List.mem_cons.mp hp with rfl | hp
    · exact hdone.1
    · exact hends p hp
  | clear =>
    rw [hdeed] at hp
    exact hends p hp

end Store

/-- The edit is rejected, or removes nothing. -/
def Edit.Refused (edit : Edit) (s : Store) : Prop :=
  (∃ rejection, (Store.apply edit).outcome s = .error rejection) ∨
    (Store.apply edit).outcome s = .ok (.removed false)

def Edit.Accepted (edit : Edit) (s : Store) : Prop :=
  ∃ reply, (Store.apply edit).outcome s = .ok reply ∧ reply ≠ .removed false

namespace Store

variable {s : Store} {edit : Edit} {id : Id}

theorem done_of_accepted (h : edit.Accepted s) : edit.deed.Done s ((apply edit).after s) := by
  obtain ⟨reply, houtcome, hreply⟩ := h
  exact (deed_effects edit).accepted houtcome hreply

/-- An edit that is given an identifier which no record of the expected collection has is refused,
and changes nothing. -/
theorem refused_of_given {c : Collection} (hgiven : (c, id) ∈ edit.given) (hid : id ∉ s.idsIn c) :
    edit.Refused s ∧ (apply edit).after s = s := by
  have hrefused : edit.Refused s := by
    cases houtcome : (apply edit).outcome s with
    | error rejection => exact .inl ⟨rejection, houtcome⟩
    | ok reply =>
      by_cases hreply : reply = .removed false
      · rw [hreply] at houtcome
        exact .inr houtcome
      · exact absurd ((given_effects edit).accepted houtcome hreply (c, id) hgiven) hid
  refine ⟨hrefused, (apply_effects edit).unchanged ?_⟩
  rcases hrefused with herror | hreply
  · exact .inl herror
  · exact .inr ⟨.removed false, rfl, hreply⟩

end Store

end UmlDiagrams
