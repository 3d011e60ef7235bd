import UmlDiagrams.Proofs.Document.Prefix
/-!
# The order of the steps of a document

Every entry of a document has its step, and no step comes from anything else. The style fields come
first, then the sections one after the other, in each the nodes with their members before the edges.
-/

namespace UmlDiagrams

/-- The turn of an action in a replay. The members of a record have the turn of the record, and what
no document asks for comes last. -/
def Action.turn : Action → Nat
  | edit (.style (.background _)) => 0
  | edit (.style (.text _)) => 1
  | edit (.style (.primary _)) => 2
  | edit (.style (.direction _)) => 3
  | edit (.sequence (.addActor _)) => 4
  | edit (.sequence (.addMessage ..)) => 5
  | edit (.classes (.addClass ..)) => 6
  | classAttribute _ => 6
  | classMethod _ => 6
  | classRelationship _ => 7
  | edit (.useCase (.addActor _)) => 8
  | edit (.useCase (.addUseCase _)) => 9
  | edit (.useCase (.addLink ..)) => 10
  | edit (.entity (.addEntity _)) => 11
  | entityAttribute _ => 11
  | erRelationship _ => 12
  | edit (.activity (.addNode _)) => 13
  | edit (.activity (.addEdge ..)) => 14
  | edit (.component (.addNode _)) => 15
  | edit (.component (.addEdge ..)) => 16
  | edit (.state (.addState _)) => 17
  | edit (.state (.addTransition ..)) => 18
  | _ => 19

/-- The number of an edge in its list. Other places have none. -/
def Place.number : Place → Nat
  | edge _ position => position
  | _ => 0

/-- Steps go by their turn, and edges of one list by their number. -/
def Step.Precedes (a b : Step) : Prop :=
  a.action.turn < b.action.turn ∨
    a.action.turn = b.action.turn ∧ a.place.number ≤ b.place.number

/-- Steps in their order, with turns from `first` up to but not including `next`. -/
private structure Ordered (first next : Nat) (steps : List Step) : Prop where
  le : first ≤ next
  sorted : steps.Pairwise Step.Precedes
  turns : ∀ step ∈ steps, first ≤ step.action.turn ∧ step.action.turn < next

private theorem Ordered.append {first middle next : Nat} {steps more : List Step}
    (h : Ordered first middle steps) (hmore : Ordered middle next more) :
    Ordered first next (steps ++ more) where
  le := h.le.trans hmore.le
  sorted := by
    refine List.pairwise_append.mpr ⟨h.sorted, hmore.sorted, fun a ha b hb => .inl ?_⟩
    exact (h.turns a ha).2.trans_le (hmore.turns b hb).1
  turns := by
    refine List.forall_mem_append.mpr ⟨fun a ha => ?_, fun b hb => ?_⟩
    · exact ⟨(h.turns a ha).1, (h.turns a ha).2.trans_le hmore.le⟩
    · exact ⟨h.le.trans (hmore.turns b hb).1, (hmore.turns b hb).2⟩

private theorem ordered_of_turn {turn : Nat} {steps : List Step}
    (h : ∀ step ∈ steps, step.action.turn = turn ∧ step.place.number = 0) :
    Ordered turn (turn + 1) steps where
  le := turn.le_succ
  sorted := by
    refine List.Pairwise.imp_of_mem (fun {a b} ha hb _ => .inr ?_) (List.pairwise_of_forall
      fun _ _ => trivial)
    rw [(h a ha).1, (h a ha).2, (h b hb).1]
    exact ⟨rfl, Nat.zero_le _⟩
  turns := fun step hstep => by
    rw [(h step hstep).1]
    exact ⟨le_rfl, turn.lt_succ_self⟩

section Lists

variable {α : Type} {turn : Nat}

private theorem fieldSteps_ordered {name : String} {edit : α → StyleEdit} {value : Option α}
    (h : ∀ v, (Action.edit (.style (edit v))).turn = turn) :
    Ordered turn (turn + 1) (fieldSteps name edit value) :=
  ordered_of_turn (forall_fieldSteps.mpr fun v _ => ⟨h v, rfl⟩)

private theorem nodeSteps_ordered {what : String} {edit : String → Edit} {names : List String}
    (h : ∀ n, (Action.edit (edit n)).turn = turn) :
    Ordered turn (turn + 1) (nodeSteps what edit names) :=
  ordered_of_turn (forall_nodeSteps.mpr fun n _ => ⟨h n, rfl⟩)

private theorem edgeSteps_ordered {what : String} {action : α → Action} {specs : List α}
    (h : ∀ a, (action a).turn = turn) :
    Ordered turn (turn + 1) (edgeSteps what action specs) where
  le := turn.le_succ
  sorted := by
    rw [edgeSteps, List.pairwise_iff_getElem]
    intro i j hi hj hij
    rw [List.getElem_mapIdx, List.getElem_mapIdx]
    exact .inr ⟨(h _).trans (h _).symm, Nat.succ_le_succ hij.le⟩
  turns := forall_edgeSteps.mpr fun _ spec _ => by
    rw [h spec]
    exact ⟨le_rfl, turn.lt_succ_self⟩

private theorem flatMap_ordered {f : α → List Step} {as : List α}
    (h : ∀ a, ∀ step ∈ f a, step.action.turn = turn ∧ step.place.number = 0) :
    Ordered turn (turn + 1) (as.flatMap f) :=
  ordered_of_turn (List.forall_mem_flatMap.mpr fun a _ => h a)

private theorem field_mem {name : String} {edit : α → StyleEdit} {value : Option α} {v : α}
    (h : value = some v) : ⟨.style name, .edit (.style (edit v))⟩ ∈ fieldSteps name edit value :=
  forall_fieldSteps.mp (fun _ h => h) v h

private theorem node_mem {what : String} {edit : String → Edit} {names : List String} {n : String}
    (h : n ∈ names) : ⟨.record what n, .edit (edit n)⟩ ∈ nodeSteps what edit names :=
  forall_nodeSteps.mp (fun _ h => h) n h

private theorem edge_mem {what : String} {action : α → Action} {specs : List α} {i : Nat} {a : α}
    (h : specs[i]? = some a) : ⟨.edge what (i + 1), action a⟩ ∈ edgeSteps what action specs :=
  forall_edgeSteps.mp (fun _ h => h) i a h

end Lists

private theorem ClassSpec.steps_turn (c : ClassSpec) :
    ∀ step ∈ c.steps, step.action.turn = 6 ∧ step.place.number = 0 := by
  rw [ClassSpec.steps, List.forall_mem_append, List.forall_mem_append]
  exact ⟨⟨List.forall_mem_singleton.mpr ⟨rfl, rfl⟩, List.forall_mem_map.mpr fun _ _ => ⟨rfl, rfl⟩⟩,
    List.forall_mem_map.mpr fun _ _ => ⟨rfl, rfl⟩⟩

private theorem EntitySpec.steps_turn (e : EntitySpec) :
    ∀ step ∈ e.steps, step.action.turn = 11 ∧ step.place.number = 0 := by
  rw [EntitySpec.steps, List.forall_mem_append]
  exact ⟨List.forall_mem_singleton.mpr ⟨rfl, rfl⟩, List.forall_mem_map.mpr fun _ _ => ⟨rfl, rfl⟩⟩

namespace Document

variable (d : Document)

private theorem steps_ordered : Ordered 0 19 d.steps := by
  have hstyle : Ordered 0 4 d.style.steps :=
    .append (.append (.append (fieldSteps_ordered fun _ => rfl) (fieldSteps_ordered fun _ => rfl))
      (fieldSteps_ordered fun _ => rfl)) (fieldSteps_ordered fun _ => rfl)
  have hsequence : Ordered 4 6 d.sequence.steps :=
    .append (nodeSteps_ordered fun _ => rfl) (edgeSteps_ordered fun _ => rfl)
  have hclasses : Ordered 6 8 d.classes.steps :=
    .append (flatMap_ordered ClassSpec.steps_turn) (edgeSteps_ordered fun _ => rfl)
  have huseCase : Ordered 8 11 d.useCase.steps :=
    .append (.append (nodeSteps_ordered fun _ => rfl) (nodeSteps_ordered fun _ => rfl))
      (edgeSteps_ordered fun _ => rfl)
  have hentity : Ordered 11 13 d.entity.steps :=
    .append (flatMap_ordered EntitySpec.steps_turn) (edgeSteps_ordered fun _ => rfl)
  have hactivity : Ordered 13 15 (d.activity.steps "activity" "activity flow" .activity) :=
    .append (nodeSteps_ordered fun _ => rfl) (edgeSteps_ordered fun _ => rfl)
  have hcomponent :
      Ordered 15 17 (d.component.steps "component" "component dependency" .component) :=
    .append (nodeSteps_ordered fun _ => rfl) (edgeSteps_ordered fun _ => rfl)
  have hstate : Ordered 17 19 d.state.steps :=
    .append (nodeSteps_ordered fun _ => rfl) (edgeSteps_ordered fun _ => rfl)
  exact ((((((hstyle.append hsequence).append hclasses).append huseCase).append hentity).append
    hactivity).append hcomponent).append hstate

variable {d}

private theorem mem_of_part {p : DocumentPart} {step : Step} (hp : p ∈ DocumentPart.all)
    (h : step ∈ d.partSteps p) : step ∈ d.steps := by
  rw [steps_eq]
  exact List.mem_flatMap.mpr ⟨p, hp, h⟩

private theorem mem_of_cites {place : Place} {action : Action} (h : d.Cites place action) :
    ⟨place, action⟩ ∈ d.steps := by
  have style {step : Step} (h : step ∈ d.partSteps .style) : step ∈ d.steps :=
    mem_of_part (by decide) h
  have diagram {step : Step} (kind : Kind) (h : step ∈ d.partSteps (.diagram kind)) :
      step ∈ d.steps := mem_of_part (by cases kind <;> decide) h
  cases h with
  | background h =>
    exact style (List.mem_append_left _ (List.mem_append_left _ (List.mem_append_left _
      (field_mem h))))
  | text h =>
    exact style (List.mem_append_left _ (List.mem_append_left _ (List.mem_append_right _
      (field_mem h))))
  | primary h => exact style (List.mem_append_left _ (List.mem_append_right _ (field_mem h)))
  | direction h => exact style (List.mem_append_right _ (field_mem h))
  | actor h => exact diagram .sequence (List.mem_append_left _ (node_mem h))
  | message h => exact diagram .sequence (List.mem_append_right _ (edge_mem h))
  | record h =>
    exact diagram .classes (List.mem_append_left _ (List.mem_flatMap.mpr ⟨_, h,
      List.mem_append_left _ (List.mem_append_left _ (List.mem_singleton.mpr rfl))⟩))
  | classAttribute hc ha =>
    exact diagram .classes (List.mem_append_left _ (List.mem_flatMap.mpr ⟨_, hc,
      List.mem_append_left _ (List.mem_append_right _ (List.mem_map_of_mem ha))⟩))
  | classMethod hc hm =>
    exact diagram .classes (List.mem_append_left _ (List.mem_flatMap.mpr ⟨_, hc,
      List.mem_append_right _ (List.mem_map_of_mem hm)⟩))
  | classRelationship h => exact diagram .classes (List.mem_append_right _ (edge_mem h))
  | useCaseActor h =>
    exact diagram .useCase (List.mem_append_left _ (List.mem_append_left _ (node_mem h)))
  | useCase h =>
    exact diagram .useCase (List.mem_append_left _ (List.mem_append_right _ (node_mem h)))
  | link h => exact diagram .useCase (List.mem_append_right _ (edge_mem h))
  | entity h =>
    exact diagram .entity (List.mem_append_left _ (List.mem_flatMap.mpr ⟨_, h,
      List.mem_append_left _ (List.mem_singleton.mpr rfl)⟩))
  | entityAttribute he ha =>
    exact diagram .entity (List.mem_append_left _ (List.mem_flatMap.mpr ⟨_, he,
      List.mem_append_right _ (List.mem_map_of_mem ha)⟩))
  | erRelationship h => exact diagram .entity (List.mem_append_right _ (edge_mem h))
  | activity h => exact diagram .activity (List.mem_append_left _ (node_mem h))
  | flow h => exact diagram .activity (List.mem_append_right _ (edge_mem h))
  | component h => exact diagram .component (List.mem_append_left _ (node_mem h))
  | dependency h => exact diagram .component (List.mem_append_right _ (edge_mem h))
  | state h => exact diagram .state (List.mem_append_left _ (node_mem h))
  | transition h => exact diagram .state (List.mem_append_right _ (edge_mem h))

/-- The steps of a document are its entries, section by section, and in a section the nodes before
the edges. A member comes right after its record or another member of it. -/
theorem steps_order (d : Document) :
    (∀ step, step ∈ d.steps ↔ d.Cites step.place step.action) ∧
      d.steps.Pairwise Step.Precedes ∧ Linked none d.steps :=
  ⟨fun _ => ⟨cites_of_mem, mem_of_cites⟩, d.steps_ordered.sorted, d.steps_free none⟩

end Document

end UmlDiagrams
