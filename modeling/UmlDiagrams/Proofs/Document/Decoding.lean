import UmlDiagrams.Proofs.Document.Spelling
import UmlDiagrams.Proofs.Tree.Reading

namespace UmlDiagrams

section

variable {m : Type → Type} [Monad m] [LawfulMonad m] [MonadLiftT Option m] {τ : Type}
  {r : Reader m τ} {S : Script τ} (hr : r.Reads S)
include hr

private theorem StyleOverrides.decode_spelled (value : τ) (style : StyleOverrides)
    (h : style.Spelled S value) : decode r value = pure style := by
  obtain ⟨found, hfields, hfound⟩ := hr.fields (style.shape_lists S) h
  simp only [layout, List.forall_mem_cons] at hfound
  obtain ⟨hbackground, htext, hprimary, hdirection, -⟩ := hfound
  rw [decode, hfields, pure_bind, hr.optionalText hbackground, pure_bind, hr.optionalText htext,
    pure_bind, hr.optionalText hprimary, pure_bind, hr.optionalChoice (by decide) hdirection,
    pure_bind]

private theorem MessageSpec.decode_spelled (value : τ) (message : MessageSpec)
    (h : message.Spelled S value) : decode r value = pure message := by
  obtain ⟨found, hfields, hfound⟩ := hr.fields (message.shape_lists S) h
  simp only [layout, List.forall_mem_cons] at hfound
  obtain ⟨hsource, htarget, harrow, htext, -⟩ := hfound
  have harrow := hr.choiceField (by decide) (show default = Arrow.sync from rfl) harrow
  rw [decode, hfields, pure_bind, hr.optionalText hsource, pure_bind, hr.optionalText htarget,
    pure_bind, harrow, pure_bind, hr.textField htext, pure_bind]

private theorem SequenceSection.decode_spelled (value : τ) (part : SequenceSection)
    (h : part.Spelled S value) : decode r value = pure part := by
  obtain ⟨found, hfields, hfound⟩ := hr.fields (part.shape_lists S) h
  simp only [layout, List.forall_mem_cons] at hfound
  obtain ⟨hactors, hmessages, -⟩ := hfound
  rw [decode, hfields, pure_bind, hr.textList hactors, pure_bind,
    hr.listField (MessageSpec.decode_spelled hr) hmessages, pure_bind]

private theorem ClassAttribute.decode_spelled (value : τ) (attr : ClassAttribute)
    (h : attr.Spelled S value) : decode r value = pure attr := by
  obtain ⟨found, hfields, hfound⟩ := hr.fields (attr.shape_lists S) h
  simp only [layout, List.forall_mem_cons] at hfound
  obtain ⟨hname, hvisibility, htype, hstatic, -⟩ := hfound
  have hvisibility := hr.choiceField (by decide) (show default = Visibility.isPublic from rfl)
    hvisibility
  rw [decode, hfields, pure_bind, hr.textField hname, pure_bind, hvisibility, pure_bind,
    hr.textField htype, pure_bind, hr.flagField hstatic, pure_bind]

private theorem ClassMethod.decode_spelled (value : τ) (method : ClassMethod)
    (h : method.Spelled S value) : decode r value = pure method := by
  obtain ⟨found, hfields, hfound⟩ := hr.fields (method.shape_lists S) h
  simp only [layout, List.forall_mem_cons] at hfound
  obtain ⟨hname, hvisibility, htype, hparameters, hstatic, habstract, -⟩ := hfound
  have hvisibility := hr.choiceField (by decide) (show default = Visibility.isPublic from rfl)
    hvisibility
  rw [decode, hfields, pure_bind, hr.textField hname, pure_bind, hvisibility, pure_bind,
    hr.textField htype, pure_bind, hr.textField hparameters, pure_bind, hr.flagField hstatic,
    pure_bind, hr.flagField habstract, pure_bind]

private theorem ClassSpec.decode_spelled (value : τ) (c : ClassSpec)
    (h : c.Spelled S value) : decode r value = pure c := by
  obtain ⟨found, hfields, hfound⟩ := hr.fields (c.shape_lists S) h
  simp only [layout, List.forall_mem_cons] at hfound
  obtain ⟨hname, habstract, hattributes, hmethods, -⟩ := hfound
  rw [decode, hfields, pure_bind, hr.textField hname, pure_bind, hr.flagField habstract, pure_bind,
    hr.listField (ClassAttribute.decode_spelled hr) hattributes, pure_bind,
    hr.listField (ClassMethod.decode_spelled hr) hmethods, pure_bind]

private theorem RelationSpec.decode_spelled {α : Type} [Inhabited α] {spellings : List (String × α)}
    (hspellings : (spellings.map Prod.fst).Nodup) {usual : α} (husual : default = usual) (value : τ)
    (relation : RelationSpec α) (h : relation.Spelled S spellings usual value) :
    decode spellings r value = pure relation := by
  obtain ⟨found, hfields, hfound⟩ := hr.fields (relation.shape_lists S spellings usual) h
  simp only [layout, List.forall_mem_cons] at hfound
  obtain ⟨hsource, htarget, hkind, hlabel, -⟩ := hfound
  rw [decode, hfields, pure_bind, hr.optionalText hsource, pure_bind, hr.optionalText htarget,
    pure_bind, hr.choiceField hspellings husual hkind, pure_bind, hr.textField hlabel, pure_bind]

private theorem ClassSection.decode_spelled (value : τ) (part : ClassSection)
    (h : part.Spelled S value) : decode r value = pure part := by
  obtain ⟨found, hfields, hfound⟩ := hr.fields (part.shape_lists S) h
  simp only [layout, List.forall_mem_cons] at hfound
  obtain ⟨hclasses, hrelationships, -⟩ := hfound
  rw [decode, hfields, pure_bind, hr.listField (ClassSpec.decode_spelled hr) hclasses, pure_bind,
    hr.listField (RelationSpec.decode_spelled hr (by decide) rfl) hrelationships, pure_bind]

private theorem LinkSpec.decode_spelled (value : τ) (link : LinkSpec)
    (h : link.Spelled S value) : decode r value = pure link := by
  obtain ⟨found, hfields, hfound⟩ := hr.fields (link.shape_lists S) h
  simp only [layout, List.forall_mem_cons] at hfound
  obtain ⟨hactor, huseCase, -⟩ := hfound
  rw [decode, hfields, pure_bind, hr.optionalText hactor, pure_bind, hr.optionalText huseCase,
    pure_bind]

private theorem UseCaseSection.decode_spelled (value : τ) (part : UseCaseSection)
    (h : part.Spelled S value) : decode r value = pure part := by
  obtain ⟨found, hfields, hfound⟩ := hr.fields (part.shape_lists S) h
  simp only [layout, List.forall_mem_cons] at hfound
  obtain ⟨hactors, huseCases, hlinks, -⟩ := hfound
  rw [decode, hfields, pure_bind, hr.textList hactors, pure_bind, hr.textList huseCases, pure_bind,
    hr.listField (LinkSpec.decode_spelled hr) hlinks, pure_bind]

private theorem EntityAttribute.decode_spelled (value : τ) (attr : EntityAttribute)
    (h : attr.Spelled S value) : decode r value = pure attr := by
  obtain ⟨found, hfields, hfound⟩ := hr.fields (attr.shape_lists S) h
  simp only [layout, List.forall_mem_cons] at hfound
  obtain ⟨hname, htype, hprimaryKey, hforeignKey, hnotNull, -⟩ := hfound
  rw [decode, hfields, pure_bind, hr.textField hname, pure_bind, hr.textField htype, pure_bind,
    hr.flagField hprimaryKey, pure_bind, hr.flagField hforeignKey, pure_bind, hr.flagField hnotNull,
    pure_bind]

private theorem EntitySpec.decode_spelled (value : τ) (entity : EntitySpec)
    (h : entity.Spelled S value) : decode r value = pure entity := by
  obtain ⟨found, hfields, hfound⟩ := hr.fields (entity.shape_lists S) h
  simp only [layout, List.forall_mem_cons] at hfound
  obtain ⟨hname, hattributes, -⟩ := hfound
  rw [decode, hfields, pure_bind, hr.textField hname, pure_bind,
    hr.listField (EntityAttribute.decode_spelled hr) hattributes, pure_bind]

private theorem EntitySection.decode_spelled (value : τ) (part : EntitySection)
    (h : part.Spelled S value) : decode r value = pure part := by
  obtain ⟨found, hfields, hfound⟩ := hr.fields (part.shape_lists S) h
  simp only [layout, List.forall_mem_cons] at hfound
  obtain ⟨hentities, hrelationships, -⟩ := hfound
  rw [decode, hfields, pure_bind, hr.listField (EntitySpec.decode_spelled hr) hentities, pure_bind,
    hr.listField (RelationSpec.decode_spelled hr (by decide) rfl) hrelationships, pure_bind]

private theorem FlowSpec.decode_spelled (value : τ) (flow : FlowSpec)
    (h : flow.Spelled S value) : decode r value = pure flow := by
  obtain ⟨found, hfields, hfound⟩ := hr.fields (flow.shape_lists S) h
  simp only [layout, List.forall_mem_cons] at hfound
  obtain ⟨hsource, htarget, -⟩ := hfound
  rw [decode, hfields, pure_bind, hr.optionalText hsource, pure_bind, hr.optionalText htarget,
    pure_bind]

private theorem FlowSection.decode_spelled {nodes edges : String} (hnames : nodes ≠ edges)
    (value : τ) (part : FlowSection) (h : part.Spelled S nodes edges value) :
    decode nodes edges r value = pure part := by
  obtain ⟨found, hfields, hfound⟩ := hr.fields (part.shape_lists S hnames) h
  simp only [layout, List.forall_mem_cons] at hfound
  obtain ⟨hnodes, hedges, -⟩ := hfound
  rw [decode, hfields, pure_bind, hr.textList hnodes, pure_bind,
    hr.listField (FlowSpec.decode_spelled hr) hedges, pure_bind]

private theorem TransitionSpec.decode_spelled (value : τ) (transition : TransitionSpec)
    (h : transition.Spelled S value) : decode r value = pure transition := by
  obtain ⟨found, hfields, hfound⟩ := hr.fields (transition.shape_lists S) h
  simp only [layout, List.forall_mem_cons] at hfound
  obtain ⟨hsource, htarget, hevent, -⟩ := hfound
  rw [decode, hfields, pure_bind, hr.optionalText hsource, pure_bind, hr.optionalText htarget,
    pure_bind, hr.textField hevent, pure_bind]

private theorem StateSection.decode_spelled (value : τ) (part : StateSection)
    (h : part.Spelled S value) : decode r value = pure part := by
  obtain ⟨found, hfields, hfound⟩ := hr.fields (part.shape_lists S) h
  simp only [layout, List.forall_mem_cons] at hfound
  obtain ⟨hstates, htransitions, -⟩ := hfound
  rw [decode, hfields, pure_bind, hr.textList hstates, pure_bind,
    hr.listField (TransitionSpec.decode_spelled hr) htransitions, pure_bind]

theorem Document.decode_spelled (tree : τ) (d : Document) (h : d.Spelled S tree) :
    decode r tree = pure d := by
  obtain ⟨found, hfields, hfound⟩ := hr.fields (d.shape_lists S) h
  simp only [layout, List.forall_mem_cons] at hfound
  obtain ⟨hkind, hstyle, hsequence, hclasses, huseCase, hentity, hactivity, hcomponent, hstate,
    -⟩ := hfound
  have hkind := hr.choiceField (by decide) rfl hkind
  have hstyle := Reader.Reads.recordField (StyleOverrides.decode_spelled hr) hstyle
  have hsequence := Reader.Reads.recordField (SequenceSection.decode_spelled hr) hsequence
  have hclasses := Reader.Reads.recordField (ClassSection.decode_spelled hr) hclasses
  have huseCase := Reader.Reads.recordField (UseCaseSection.decode_spelled hr) huseCase
  have hentity := Reader.Reads.recordField (EntitySection.decode_spelled hr) hentity
  have hactivity := Reader.Reads.recordField (FlowSection.decode_spelled hr (by decide)) hactivity
  have hcomponent := Reader.Reads.recordField (FlowSection.decode_spelled hr (by decide))
    hcomponent
  have hstate := Reader.Reads.recordField (StateSection.decode_spelled hr) hstate
  rw [decode, hfields, pure_bind, hkind, pure_bind, hstyle, pure_bind, hsequence, pure_bind,
    hclasses, pure_bind, huseCase, pure_bind, hentity, pure_bind, hactivity, pure_bind, hcomponent,
    pure_bind, hstate, pure_bind]

private theorem Reader.Reads.fields_stray {shape : Shape} (hstrict : shape.strict = true)
    {value : τ} {entries : List (String × τ)} (htable : S.IsTable value entries)
    {e : String × τ} (he : e ∈ entries) (hkey : shape.field? e.1 = none) :
    r.fields shape value = liftM (none : Option (List (String × τ))) := by
  have hcollect : shape.collect? entries = none := by
    cases hcollect : shape.collect? entries with
    | none => rfl
    | some found =>
      have hsome := Shape.field?_isSome_of_collect? hcollect hstrict e he
      rw [hkey] at hsome
      cases hsome
  rw [Reader.fields, hr.table htable, pure_bind, Shape.select?, hcollect]

private theorem StyleOverrides.decode_stray (hm : FailsFast m) {value : τ}
    {entries : List (String × τ)} (htable : S.IsTable value entries) {e : String × τ}
    (he : e ∈ entries) (hkey : e.1 ∉ Document.styleKeys) :
    decode r value = liftM (none : Option StyleOverrides) := by
  have hfield : shape.field? e.1 = none := Shape.field?_eq_none hkey List.not_mem_nil
  rw [decode, hr.fields_stray rfl htable he hfield, hm.after]

theorem Document.decode_stray (hm : FailsFast m) (tree : τ) (h : HasStrayKey S tree) :
    decode r tree = liftM (none : Option Document) := by
  obtain ⟨entries, htable, ⟨e, he, hkey⟩ | ⟨style, inner, hstyle, hinner, e, he, hkey⟩⟩ := h
  · have hfields : ∀ key ∈ shape.fields, key ∈ keys := by decide
    have haliases : ∀ key ∈ shape.aliases.map Prod.fst, key ∈ keys := by decide
    have hfield := Shape.field?_eq_none (mt (hfields e.1) hkey) (mt (haliases e.1) hkey)
    rw [decode, hr.fields_stray rfl htable he hfield, hm.after]
  · have hread := StyleOverrides.decode_stray hr hm hinner he hkey
    rw [decode, Reader.fields, hr.table htable, pure_bind, Shape.select?]
    cases hcollect : shape.collect? entries with
    | none => rw [hm.after]
    | some found =>
      have hname : shape.field? "style" = some "style" := by decide
      have hlookup := Shape.lookup_of_collect? hcollect hstyle hname
      have hfield : readField found "style" {} (StyleOverrides.decode r) =
          liftM (none : Option StyleOverrides) := by
        rw [readField, hlookup]
        exact hread
      rw [hr.some, pure_bind]
      simp only [hfield, hm.after, hm.before]

end

end UmlDiagrams
