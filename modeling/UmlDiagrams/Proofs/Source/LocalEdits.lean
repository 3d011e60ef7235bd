import UmlDiagrams.Proofs.Source.Strokes
import UmlDiagrams.Proofs.Store.Effects
import UmlDiagrams.Proofs.Store.Isolation

namespace UmlDiagrams

open Text UmlDiagrams.Graph

def SequenceEdit.stroke : SequenceEdit → Stroke
  | .addActor name => .addNode ["actor " ++ participant (trim name)]
  | .removeActor name => .removeNode (.name name)
  | .addMessage _ _ arrow text => .addEdge arrow.symbol (": " ++ fold text)
  | .removeMessage id => .removeEdge id
  | .retarget id _ _ => .changeEdge id
  | .setArrow id _ => .changeEdge id
  | .setText id _ => .changeEdge id

def ClassEdit.stroke : ClassEdit → Stroke
  | .addClass name isAbstract =>
    .addNode [flagged isAbstract "abstract " ++ "class " ++ quoted (trim name) ++ " \x7b", "\x7d"]
  | .removeClass id => .removeNode (.id id)
  | .setAbstract id _ => .changeNode (.id id)
  | .addAttribute id _ => .changeNode (.id id)
  | .removeAttribute id _ => .changeNode (.id id)
  | .addMethod id _ => .changeNode (.id id)
  | .removeMethod id _ => .changeNode (.id id)
  | .addRelationship _ _ kind label => .addEdge kind.symbol (labelSuffix label)
  | .removeRelationship id => .removeEdge id
  | .setKind id _ => .changeEdge id
  | .retarget id _ _ => .changeEdge id
  | .setLabel id _ => .changeEdge id

def UseCaseEdit.stroke : UseCaseEdit → Stroke
  | .addActor name => .addActor (trim name)
  | .removeActor name => .removeNode (.name name)
  | .addUseCase name => .addNode ["usecase " ++ quoted (trim name)]
  | .removeUseCase name => .removeNode (.name name)
  | .addLink _ _ => .addEdge "-->" ""
  | .removeLink id => .removeEdge id

def EntityEdit.stroke : EntityEdit → Stroke
  | .addEntity name => .addNode ["entity " ++ quoted (trim name) ++ " \x7b", "\x7d"]
  | .removeEntity id => .removeNode (.id id)
  | .addAttribute id _ => .changeNode (.id id)
  | .removeAttribute id _ => .changeNode (.id id)
  | .addRelationship _ _ kind label => .addEdge kind.symbol (labelSuffix label)
  | .removeRelationship id => .removeEdge id
  | .setKind id _ => .changeEdge id
  | .retarget id _ _ => .changeEdge id
  | .setLabel id _ => .changeEdge id

def FlowEdit.stroke (declare : String → String) : FlowEdit → Stroke
  | .addNode name => .addNode [declare (trim name)]
  | .removeNode name => .removeNode (.name name)
  | .addEdge _ _ => .addEdge "-->" ""
  | .removeEdge id => .removeEdge id

def StateEdit.stroke : StateEdit → Stroke
  | .addState name => .addNode ["state " ++ quoted (trim name)]
  | .removeState name => .removeNode (.name name)
  | .addTransition _ _ event => .addEdge "-->" (labelSuffix event)
  | .removeTransition id => .removeEdge id
  | .setEvent id _ => .changeEdge id

/-- The stroke of an edit in the sheet of its diagram. An edit of the style and a switch to another
kind have none. -/
def Edit.stroke? : Edit → Option Stroke
  | sequence edit => some edit.stroke
  | classes edit => some edit.stroke
  | useCase edit => some edit.stroke
  | entity edit => some edit.stroke
  | activity edit => some (edit.stroke ("action " ++ quoted ·))
  | component edit => some (edit.stroke bracketed)
  | state edit => some edit.stroke
  | style _ => none
  | setKind _ => none
  | clear => some .clear

private theorem SequenceEdit.Effect.alters {edit : SequenceEdit} {d d' : SequenceDiagram}
    (h : edit.Effect d d') (hd : d.Sound SequenceDiagram.rules IsName)
    (hd' : d'.Sound SequenceDiagram.rules IsName) : edit.stroke.Alters d.sheet d'.sheet := by
  cases edit with
  | addActor name =>
    rw [Effect] at h
    exact h.alters hd hd' fun _ => rfl
  | removeActor name => exact RemovedNode.alters h hd hd' fun _ _ => printKey_eq_of_participant _
  | addMessage source target arrow text => exact AddedEdge.alters SequenceDiagram.layout _ h
  | removeMessage id => exact RemovedEdge.alters h hd
  | retarget id source target => exact ChangedEdge.alters h hd
  | setArrow id arrow => exact ChangedEdge.alters h hd
  | setText id text => exact ChangedEdge.alters h hd

private theorem StateEdit.Effect.alters {edit : StateEdit} {d d' : StateDiagram}
    (h : edit.Effect d d') (hd : d.Sound StateDiagram.rules IsName)
    (hd' : d'.Sound StateDiagram.rules IsName) :
    edit.stroke.Alters d.sheet d'.sheet := by
  cases edit with
  | addState name =>
    rw [Effect] at h
    exact h.alters hd hd' fun _ => rfl
  | removeState name => exact RemovedNode.alters h hd hd' fun _ _ => printKey_eq_of_quoted _
  | addTransition source target event => exact AddedEdge.alters StateDiagram.layout _ h
  | removeTransition id => exact RemovedEdge.alters h hd
  | setEvent id event => exact ChangedEdge.alters h hd

private theorem FlowEdit.Effect.alters {R : Rules String String Unit} {L : Layout String Unit}
    {declare : String → String} {edit : FlowEdit} {d d' : FlowDiagram} (h : edit.Effect R d d')
    (hd : Sound R IsName d) (hd' : Sound R IsName d') (hL : L.Faithful R)
    (hreference : ∀ name, R.reference name = .name name) (hsymbol : L.symbol () = "-->")
    (hsuffix : L.suffix () = "") :
    (edit.stroke declare).Alters (d.sheet R L fun n => [declare n])
      (d'.sheet R L fun n => [declare n]) := by
  cases edit with
  | addNode name =>
    rw [Effect] at h
    exact h.alters hd hd' fun _ => rfl
  | removeNode name =>
    rw [FlowEdit.stroke, ← hreference]
    exact RemovedNode.alters h hd hd' hL
  | addEdge source target =>
    rw [FlowEdit.stroke, ← hsymbol, ← hsuffix]
    exact AddedEdge.alters L _ h
  | removeEdge id => exact RemovedEdge.alters h hd

namespace ClassRecord

variable {old new : ClassRecord}

private theorem FlagOnly.shown (h : FlagOnly old new) :
    new.id = old.id ∧ quoted new.name = quoted old.name := by
  obtain ⟨isAbstract, rfl⟩ := h
  exact ⟨rfl, rfl⟩

private theorem AttributesOnly.shown (h : AttributesOnly old new) :
    new.id = old.id ∧ quoted new.name = quoted old.name := by
  obtain ⟨attributes, rfl⟩ := h
  exact ⟨rfl, rfl⟩

private theorem MethodsOnly.shown (h : MethodsOnly old new) :
    new.id = old.id ∧ quoted new.name = quoted old.name := by
  obtain ⟨methods, rfl⟩ := h
  exact ⟨rfl, rfl⟩

end ClassRecord

private theorem EntityRecord.AttributesOnly.shown {old new : EntityRecord}
    (h : AttributesOnly old new) :
    new.id = old.id ∧ quoted new.name = quoted old.name := by
  obtain ⟨attributes, rfl⟩ := h
  exact ⟨rfl, rfl⟩

private theorem ClassEdit.Effect.alters {edit : ClassEdit} {d d' : ClassDiagram}
    (h : edit.Effect d d') (hd : d.Sound ClassDiagram.rules ClassRecord.Named)
    (hd' : d'.Sound ClassDiagram.rules ClassRecord.Named) :
    edit.stroke.Alters d.sheet d'.sheet := by
  cases edit with
  | addClass name isAbstract =>
    rw [ClassEdit.Effect] at h
    exact h.alters hd hd' fun _ => rfl
  | removeClass id => exact RemovedNode.alters h hd hd' fun _ _ => printKey_eq_of_quoted _
  | setAbstract id isAbstract => exact ChangedNode.alters h hd hd' fun _ _ hold => hold.shown
  | addAttribute id attr => exact ChangedNode.alters h hd hd' fun _ _ hold => hold.shown
  | removeAttribute id index => exact ChangedNode.alters h hd hd' fun _ _ hold => hold.shown
  | addMethod id method => exact ChangedNode.alters h hd hd' fun _ _ hold => hold.shown
  | removeMethod id index => exact ChangedNode.alters h hd hd' fun _ _ hold => hold.shown
  | addRelationship source target kind label => exact AddedEdge.alters ClassDiagram.layout _ h
  | removeRelationship id => exact RemovedEdge.alters h hd
  | setKind id kind => exact ChangedEdge.alters h hd
  | retarget id source target => exact ChangedEdge.alters h hd
  | setLabel id label => exact ChangedEdge.alters h hd

private theorem EntityEdit.Effect.alters {edit : EntityEdit} {d d' : EntityDiagram}
    (h : edit.Effect d d') (hd : d.Sound EntityDiagram.rules EntityRecord.Named)
    (hd' : d'.Sound EntityDiagram.rules EntityRecord.Named) :
    edit.stroke.Alters d.sheet d'.sheet := by
  cases edit with
  | addEntity name =>
    rw [EntityEdit.Effect] at h
    exact h.alters hd hd' fun _ => rfl
  | removeEntity id => exact RemovedNode.alters h hd hd' fun _ _ => printKey_eq_of_quoted _
  | addAttribute id attr => exact ChangedNode.alters h hd hd' fun _ _ hold => hold.shown
  | removeAttribute id index => exact ChangedNode.alters h hd hd' fun _ _ hold => hold.shown
  | addRelationship source target kind label => exact AddedEdge.alters EntityDiagram.layout _ h
  | removeRelationship id => exact RemovedEdge.alters h hd
  | setKind id kind => exact ChangedEdge.alters h hd
  | retarget id source target => exact ChangedEdge.alters h hd
  | setLabel id label => exact ChangedEdge.alters h hd

namespace UseCaseDiagram

variable {d : UseCaseDiagram}

private theorem quoted_actor_iff (h : d.Sound) {m n : String} (hm : m ∈ d.actors)
    (hn : n ∈ d.actors) :
    quoted m = quoted n ↔ m = n := by
  have hnodup := (List.nodup_append.mp (tokens_nodup h)).1
  exact ⟨eq_of_key_eq hnodup hm hn, congrArg quoted⟩

private theorem quoted_useCase_iff (h : d.Sound) {m n : String} (hm : m ∈ d.useCases)
    (hn : n ∈ d.useCases) : quoted m = quoted n ↔ m = n := by
  have hnodup := (List.nodup_append.mp (tokens_nodup h)).2.1
  exact ⟨eq_of_key_eq hnodup hm hn, congrArg quoted⟩

private theorem quoted_actor_ne (h : d.Sound) {m n : String} (hm : m ∈ d.actors)
    (hn : n ∈ d.useCases) :
    quoted m ≠ quoted n :=
  (List.nodup_append.mp (tokens_nodup h)).2.2 _ (List.mem_map_of_mem hm) _
    (List.mem_map_of_mem hn)

/-- An actor is at the links that show its token, and no use case has this token. -/
private theorem withoutActor_alters (h : d.Sound) {name : String} (hname : name ∈ d.actors)
    (direction : Direction) :
    (Stroke.removeNode (.name name)).Alters (d.sheet direction)
      (((d.withoutActor name).withoutLinksFrom name).sheet direction) := by
  have hkeys : (d.actors.map id).Nodup := by
    rw [List.map_id]
    exact (List.nodup_append.mp (tokens_nodup h)).1.of_map _
  obtain ⟨front, back, hactors, hfilter, -⟩ := split_at_key hkeys hname
  have hlinks : (d.links.filter fun l => l.actor ≠ name).map linkEdge =
      (d.links.map linkEdge).filter fun e => !e.touches (quoted name) := by
    refine (filter_map_of fun l hl => ?_).symm
    obtain ⟨ha, hu⟩ := h.ends l hl
    simp [SheetEdge.touches, linkEdge, quoted_actor_iff h ha hname,
      (quoted_actor_ne h hname hu).symm]
  have hsheet : ((d.withoutActor name).withoutLinksFrom name).sheet direction =
      ⟨[direction.line], front.map actorNode ++ (back.map actorNode ++ d.useCases.map useCaseNode),
        (d.links.map linkEdge).filter fun e => !e.touches (quoted name)⟩ := by
    rw [← hlinks, ← List.append_assoc, ← List.map_append, ← hfilter]
    rfl
  rw [hsheet, sheet, hactors, List.map_append, List.map_cons, List.append_assoc, List.cons_append]
  exact .removeNode _ (actorNode name) _

private theorem withoutUseCase_alters (h : d.Sound) {name : String} (hname : name ∈ d.useCases)
    (direction : Direction) :
    (Stroke.removeNode (.name name)).Alters (d.sheet direction)
      (((d.withoutUseCase name).withoutLinksTo name).sheet direction) := by
  have hkeys : (d.useCases.map id).Nodup := by
    rw [List.map_id]
    exact (List.nodup_append.mp (tokens_nodup h)).2.1.of_map _
  obtain ⟨front, back, huseCases, hfilter, -⟩ := split_at_key hkeys hname
  have hlinks : (d.links.filter fun l => l.useCase ≠ name).map linkEdge =
      (d.links.map linkEdge).filter fun e => !e.touches (quoted name) := by
    refine (filter_map_of fun l hl => ?_).symm
    obtain ⟨ha, hu⟩ := h.ends l hl
    simp [SheetEdge.touches, linkEdge, quoted_useCase_iff h hu hname, quoted_actor_ne h ha hname]
  have hsheet : ((d.withoutUseCase name).withoutLinksTo name).sheet direction =
      ⟨[direction.line], d.actors.map actorNode ++ front.map useCaseNode ++ back.map useCaseNode,
        (d.links.map linkEdge).filter fun e => !e.touches (quoted name)⟩ := by
    rw [← hlinks, List.append_assoc, ← List.map_append, ← hfilter]
    rfl
  rw [hsheet, sheet, huseCases, List.map_append, List.map_cons, ← List.append_assoc]
  exact .removeNode _ (useCaseNode name) _

private theorem withoutLink_alters (h : d.Sound) {id : Id} (hid : id ∈ d.links.map (·.id))
    (direction : Direction) :
    (Stroke.removeEdge id).Alters (d.sheet direction) ((d.withoutLink id).sheet direction) := by
  obtain ⟨l, hl, rfl⟩ := List.mem_map.mp hid
  obtain ⟨front, back, hlinks, hfilter, -⟩ := split_at_key h.linkIds hl
  have hsheet : (d.withoutLink l.id).sheet direction =
      ⟨[direction.line], d.actors.map actorNode ++ d.useCases.map useCaseNode,
        front.map linkEdge ++ back.map linkEdge⟩ := by
    rw [← List.map_append, ← hfilter]
    rfl
  rw [hsheet, sheet, hlinks, List.map_append, List.map_cons]
  exact .removeEdge _ (linkEdge l) _

end UseCaseDiagram

open UseCaseDiagram in
private theorem UseCaseEdit.Effect.alters {edit : UseCaseEdit} {d d' : UseCaseDiagram}
    (h : edit.Effect d d') (hd : d.Sound) (direction : Direction) :
    edit.stroke.Alters (d.sheet direction) (d'.sheet direction) := by
  cases edit with
  | addActor name =>
    obtain ⟨text, htext, rfl⟩ := h
    obtain ⟨rfl, -, -⟩ := newName_eq_ok.mp (newActor_eq_ok.mp htext).1
    exact .addActor d.actors d.useCases (trim name)
  | removeActor name =>
    obtain ⟨hname, rfl⟩ := h
    exact withoutActor_alters hd hname direction
  | addUseCase name =>
    obtain ⟨text, htext, rfl⟩ := h
    obtain ⟨rfl, -, -⟩ := newName_eq_ok.mp (newUseCase_eq_ok.mp htext).1
    have hnodes : ((d.withUseCase (trim name)).touch [.useCases]).sheet direction =
        ⟨[direction.line], d.actors.map actorNode ++ d.useCases.map useCaseNode ++
          [useCaseNode (trim name)], d.links.map linkEdge⟩ := by
      have hmap : (d.useCases ++ [trim name]).map useCaseNode =
          d.useCases.map useCaseNode ++ [useCaseNode (trim name)] := List.map_append
      rw [List.append_assoc, ← hmap]
      rfl
    rw [hnodes]
    exact .addNode (useCaseNode (trim name))
  | removeUseCase name =>
    obtain ⟨hname, rfl⟩ := h
    exact withoutUseCase_alters hd hname direction
  | addLink actor useCase =>
    obtain ⟨a, u, -, rfl⟩ := h
    have hlinks : ((d.countId.withLink ⟨d.nextId, a, u⟩).touch [.useCaseLinks]).sheet direction =
        ⟨[direction.line], d.actors.map actorNode ++ d.useCases.map useCaseNode,
          d.links.map linkEdge ++ [linkEdge ⟨d.nextId, a, u⟩]⟩ := by
      rw [UseCaseDiagram.sheet, Sheet.mk.injEq]
      exact ⟨rfl, rfl, List.map_append⟩
    rw [hlinks]
    exact .addEdge (linkEdge ⟨d.nextId, a, u⟩)
  | removeLink id =>
    obtain ⟨hid, rfl⟩ := h
    exact withoutLink_alters hd hid direction

namespace Store

variable {s s' : Store} {edit : Edit} {stroke : Stroke}

private theorem clear_alters : Stroke.clear.Alters (s.sheet s.kind) (s.clear.sheet s.kind) := by
  rw [clear]
  cases s.kind <;> exact .clear

private theorem effect_alters (h : edit.Effect s s') (hs : s.Sound) (hs' : s'.Sound)
    (haddress : edit.address s.kind = some s.kind) (hstroke : edit.stroke? = some stroke) :
    stroke.Alters (s.sheet s.kind) (s'.sheet s.kind) := by
  cases edit with
  | sequence edit =>
    obtain ⟨d, hd, rfl⟩ := h
    cases hstroke
    rw [← Option.some.inj haddress]
    exact hd.alters hs.sequence hs'.sequence
  | classes edit =>
    obtain ⟨d, hd, rfl⟩ := h
    cases hstroke
    rw [← Option.some.inj haddress]
    exact hd.alters hs.classes hs'.classes
  | useCase edit =>
    obtain ⟨d, hd, rfl⟩ := h
    cases hstroke
    rw [← Option.some.inj haddress]
    exact hd.alters hs.useCase s.style.direction
  | entity edit =>
    obtain ⟨d, hd, rfl⟩ := h
    cases hstroke
    rw [← Option.some.inj haddress]
    exact hd.alters hs.entity hs'.entity
  | activity edit =>
    obtain ⟨d, hd, rfl⟩ := h
    cases hstroke
    rw [← Option.some.inj haddress]
    exact hd.alters hs.activity hs'.activity (fun _ _ => printKey_eq_of_quoted _) (fun _ => rfl)
      rfl rfl
  | component edit =>
    obtain ⟨d, hd, rfl⟩ := h
    cases hstroke
    rw [← Option.some.inj haddress]
    exact hd.alters hs.component hs'.component (fun _ _ => printKey_eq_of_bracketed)
      (fun _ => rfl) rfl rfl
  | state edit =>
    obtain ⟨d, hd, rfl⟩ := h
    cases hstroke
    rw [← Option.some.inj haddress]
    exact hd.alters hs.state hs'.state
  | style edit => cases hstroke
  | setKind kind => cases hstroke
  | clear =>
    cases h
    cases hstroke
    exact clear_alters

private theorem after_style_of_address {kind : Kind} (h : edit.address s.kind = some kind) :
    ((apply edit).after s).style = s.style := by
  refine (after_style_of_not_isStyle ?_).1
  cases edit <;> first | rfl | cases h

/-- Whatever was done before, an accepted edit of the active diagram draws its stroke in the source
and nothing else: all other lines stay, in the same order, in the same frame. -/
theorem source_after_edit (style : Style) (operations : List Operation) {edit : Edit}
    {stroke : Stroke} {reply : Reply} :
    let s := run { style } operations
    let s' := (apply edit).after s
    edit.address s.kind = some s.kind → edit.stroke? = some stroke →
      (apply edit).outcome s = .ok reply → reply ≠ .removed false →
        ∃ frame : List String,
          splitLines s.source = frame ++ (s.sheet s.kind).lines ++ ["@enduml"] ∧
          splitLines s'.source = frame ++ (s'.sheet s.kind).lines ++ ["@enduml"] ∧
          stroke.Alters (s.sheet s.kind) (s'.sheet s.kind) := by
  intro s s' haddress hstroke houtcome hreply
  have hs : s.Sound := run_sound (initial_sound style) operations
  have hs' : s'.Sound := apply_keeps edit s hs
  have hkind : s'.kind = s.kind := by
    refine (after_kind edit s).trans ?_
    cases edit <;> first | rfl | cases haddress
  have hstyle : s'.style = s.style := after_style_of_address haddress
  have heffect : edit.Effect s s' := (apply_effects edit).accepted houtcome hreply
  refine ⟨splitLines (String.join (s.style.header.map (· ++ "\n"))), splitLines_sheet hs, ?_,
    effect_alters heffect hs hs' haddress hstroke⟩
  rw [splitLines_sheet hs', hstyle, hkind]

/-- An actor whose token is in quotes goes with one of two messages. -/
theorem source_after_edit_removal :
    let operations : List Operation := [.edit (.sequence (.addActor "Alice Smith")),
      .edit (.sequence (.addActor "Bob")), .edit (.sequence (.addMessage none none .sync "hi")),
      .edit (.sequence (.addMessage (some "Bob") (some "Bob") .reply "Alice Smith"))]
    let s := run {} operations
    let edit : Edit := .sequence (.removeActor "Alice Smith")
    let s' := (apply edit).after s
    edit.address s.kind = some s.kind ∧ (apply edit).outcome s = .ok (.removed true) ∧
      (s.sheet s.kind).lines = ["actor \"Alice Smith\"", "actor Bob", "",
        "\"Alice Smith\" -> Bob: hi", "Bob --> Bob: Alice Smith"] ∧
      (s'.sheet s.kind).lines = ["actor Bob", "", "Bob --> Bob: Alice Smith"] ∧
      ∃ frame : List String,
        splitLines s.source = frame ++ (s.sheet s.kind).lines ++ ["@enduml"] ∧
        splitLines s'.source = frame ++ (s'.sheet s.kind).lines ++ ["@enduml"] ∧
        (Stroke.removeNode (.name "Alice Smith")).Alters (s.sheet s.kind) (s'.sheet s.kind) := by
  intro operations s edit s'
  have haddress : edit.address s.kind = some s.kind := by decide +kernel
  have houtcome : (apply edit).outcome s = .ok (.removed true) := by decide +kernel
  have hbefore : (s.sheet s.kind).lines = ["actor \"Alice Smith\"", "actor Bob", "",
      "\"Alice Smith\" -> Bob: hi", "Bob --> Bob: Alice Smith"] := by decide +kernel
  have hafter : (s'.sheet s.kind).lines = ["actor Bob", "", "Bob --> Bob: Alice Smith"] := by
    decide +kernel
  exact ⟨haddress, houtcome, hbefore, hafter,
    source_after_edit {} operations haddress rfl houtcome (by decide)⟩

end Store

end UmlDiagrams
