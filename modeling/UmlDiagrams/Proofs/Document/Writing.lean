import UmlDiagrams.Proofs.Document.Spelling
import UmlDiagrams.Proofs.Tree.Writing

namespace UmlDiagrams

open Script.Complete

private theorem Direction.mem_spellings (a : Direction) : a ∈ spellings.map Prod.snd := by
  cases a <;> decide

private theorem Arrow.mem_spellings (a : Arrow) : a ∈ spellings.map Prod.snd := by
  cases a <;> decide

private theorem Visibility.mem_spellings (a : Visibility) : a ∈ spellings.map Prod.snd := by
  cases a <;> decide

private theorem ClassRelation.mem_spellings (a : ClassRelation) : a ∈ spellings.map Prod.snd := by
  cases a <;> decide

private theorem ErRelation.mem_spellings (a : ErRelation) : a ∈ spellings.map Prod.snd := by
  cases a <;> decide

private theorem Kind.mem_spellings (a : Kind) : a ∈ spellings.map Prod.snd := by
  cases a <;> decide

variable {τ : Type} {P : τ → Prop} {S : Script τ} (hS : S.Complete P)
include hS

private theorem StyleOverrides.exists_spelled (style : StyleOverrides) :
    ∃ value, P value ∧ style.Spelled S value := by
  refine hS.spells (style.shape_lists S) ?_ true
  simp only [layout, List.forall_mem_cons]
  exact ⟨optionalField _ hS.text _, optionalField _ hS.text _, optionalField _ hS.text _,
    optionalField _ (fun a => hS.isChoice (Direction.mem_spellings a)) _, nofun⟩

private theorem MessageSpec.exists_spelled (message : MessageSpec) :
    ∃ value, P value ∧ message.Spelled S value := by
  refine hS.spells (message.shape_lists S) ?_ false
  simp only [layout, List.forall_mem_cons]
  exact ⟨optionalField _ hS.text _, optionalField _ hS.text _,
    hS.choiceField _ _ (Arrow.mem_spellings _), hS.textField _ _, nofun⟩

private theorem SequenceSection.exists_spelled (part : SequenceSection) :
    ∃ value, P value ∧ part.Spelled S value := by
  refine hS.spells (part.shape_lists S) ?_ false
  simp only [layout, List.forall_mem_cons]
  exact ⟨hS.listField _ hS.text _, hS.listField _ (MessageSpec.exists_spelled hS) _, nofun⟩

private theorem ClassAttribute.exists_spelled (attr : ClassAttribute) :
    ∃ value, P value ∧ attr.Spelled S value := by
  refine hS.spells (attr.shape_lists S) ?_ false
  simp only [layout, List.forall_mem_cons]
  exact ⟨hS.textField _ _, hS.choiceField _ _ (Visibility.mem_spellings _), hS.textField _ _,
    hS.flagField _ _, nofun⟩

private theorem ClassMethod.exists_spelled (method : ClassMethod) :
    ∃ value, P value ∧ method.Spelled S value := by
  refine hS.spells (method.shape_lists S) ?_ false
  simp only [layout, List.forall_mem_cons]
  exact ⟨hS.textField _ _, hS.choiceField _ _ (Visibility.mem_spellings _), hS.textField _ _,
    hS.textField _ _, hS.flagField _ _, hS.flagField _ _, nofun⟩

private theorem ClassSpec.exists_spelled (c : ClassSpec) :
    ∃ value, P value ∧ c.Spelled S value := by
  refine hS.spells (c.shape_lists S) ?_ false
  simp only [layout, List.forall_mem_cons]
  exact ⟨hS.textField _ _, hS.flagField _ _, hS.listField _ (ClassAttribute.exists_spelled hS) _,
    hS.listField _ (ClassMethod.exists_spelled hS) _, nofun⟩

private theorem RelationSpec.exists_spelled {α : Type} {spellings : List (String × α)}
    (hspellings : ∀ a, a ∈ spellings.map Prod.snd) (usual : α) (relation : RelationSpec α) :
    ∃ value, P value ∧ relation.Spelled S spellings usual value := by
  refine hS.spells (relation.shape_lists S spellings usual) ?_ false
  simp only [layout, List.forall_mem_cons]
  exact ⟨optionalField _ hS.text _, optionalField _ hS.text _, hS.choiceField _ _ (hspellings _),
    hS.textField _ _, nofun⟩

private theorem ClassSection.exists_spelled (part : ClassSection) :
    ∃ value, P value ∧ part.Spelled S value := by
  refine hS.spells (part.shape_lists S) ?_ false
  simp only [layout, List.forall_mem_cons]
  exact ⟨hS.listField _ (ClassSpec.exists_spelled hS) _,
    hS.listField _ (RelationSpec.exists_spelled hS ClassRelation.mem_spellings _) _, nofun⟩

private theorem LinkSpec.exists_spelled (link : LinkSpec) :
    ∃ value, P value ∧ link.Spelled S value := by
  refine hS.spells (link.shape_lists S) ?_ false
  simp only [layout, List.forall_mem_cons]
  exact ⟨optionalField _ hS.text _, optionalField _ hS.text _, nofun⟩

private theorem UseCaseSection.exists_spelled (part : UseCaseSection) :
    ∃ value, P value ∧ part.Spelled S value := by
  refine hS.spells (part.shape_lists S) ?_ false
  simp only [layout, List.forall_mem_cons]
  exact ⟨hS.listField _ hS.text _, hS.listField _ hS.text _,
    hS.listField _ (LinkSpec.exists_spelled hS) _, nofun⟩

private theorem EntityAttribute.exists_spelled (attr : EntityAttribute) :
    ∃ value, P value ∧ attr.Spelled S value := by
  refine hS.spells (attr.shape_lists S) ?_ false
  simp only [layout, List.forall_mem_cons]
  exact ⟨hS.textField _ _, hS.textField _ _, hS.flagField _ _, hS.flagField _ _, hS.flagField _ _,
    nofun⟩

private theorem EntitySpec.exists_spelled (entity : EntitySpec) :
    ∃ value, P value ∧ entity.Spelled S value := by
  refine hS.spells (entity.shape_lists S) ?_ false
  simp only [layout, List.forall_mem_cons]
  exact ⟨hS.textField _ _, hS.listField _ (EntityAttribute.exists_spelled hS) _, nofun⟩

private theorem EntitySection.exists_spelled (part : EntitySection) :
    ∃ value, P value ∧ part.Spelled S value := by
  refine hS.spells (part.shape_lists S) ?_ false
  simp only [layout, List.forall_mem_cons]
  exact ⟨hS.listField _ (EntitySpec.exists_spelled hS) _,
    hS.listField _ (RelationSpec.exists_spelled hS ErRelation.mem_spellings _) _, nofun⟩

private theorem FlowSpec.exists_spelled (flow : FlowSpec) :
    ∃ value, P value ∧ flow.Spelled S value := by
  refine hS.spells (flow.shape_lists S) ?_ false
  simp only [layout, List.forall_mem_cons]
  exact ⟨optionalField _ hS.text _, optionalField _ hS.text _, nofun⟩

private theorem FlowSection.exists_spelled {nodes edges : String} (hnames : nodes ≠ edges)
    (part : FlowSection) : ∃ value, P value ∧ part.Spelled S nodes edges value := by
  refine hS.spells (part.shape_lists S hnames) ?_ false
  simp only [layout, List.forall_mem_cons]
  exact ⟨hS.listField _ hS.text _, hS.listField _ (FlowSpec.exists_spelled hS) _, nofun⟩

private theorem TransitionSpec.exists_spelled (transition : TransitionSpec) :
    ∃ value, P value ∧ transition.Spelled S value := by
  refine hS.spells (transition.shape_lists S) ?_ false
  simp only [layout, List.forall_mem_cons]
  exact ⟨optionalField _ hS.text _, optionalField _ hS.text _, hS.textField _ _, nofun⟩

private theorem StateSection.exists_spelled (part : StateSection) :
    ∃ value, P value ∧ part.Spelled S value := by
  refine hS.spells (part.shape_lists S) ?_ false
  simp only [layout, List.forall_mem_cons]
  exact ⟨hS.listField _ hS.text _, hS.listField _ (TransitionSpec.exists_spelled hS) _, nofun⟩

theorem Document.exists_spelled (d : Document) : ∃ tree, P tree ∧ d.Spelled S tree := by
  refine hS.spells (d.shape_lists S) ?_ true
  simp only [layout, List.forall_mem_cons]
  exact ⟨hS.choiceField _ _ (Kind.mem_spellings _),
    recordField _ _ _ (StyleOverrides.exists_spelled hS) _,
    recordField _ _ _ (SequenceSection.exists_spelled hS) _,
    recordField _ _ _ (ClassSection.exists_spelled hS) _,
    recordField _ _ _ (UseCaseSection.exists_spelled hS) _,
    recordField _ _ _ (EntitySection.exists_spelled hS) _,
    recordField _ _ _ (FlowSection.exists_spelled hS (by decide)) _,
    recordField _ _ _ (FlowSection.exists_spelled hS (by decide)) _,
    recordField _ _ _ (StateSection.exists_spelled hS) _, nofun⟩

end UmlDiagrams
