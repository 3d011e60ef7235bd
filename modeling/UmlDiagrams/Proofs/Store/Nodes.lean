import UmlDiagrams.Proofs.Graph.Listing
import UmlDiagrams.Proofs.Text.Tokens
import UmlDiagrams.Proofs.UseCase.Edits
import UmlDiagrams.Source
/-!
# New nodes

A name is refused for a new node if it is empty, or if it prints like the name of another node that
the source could not tell from it. For components the comparison is coarser than the printing.
-/

namespace UmlDiagrams

open Stateful Text

namespace Collection

/-- How the source writes the name of a node of this collection. -/
def token : Collection → String → String
  | actors => participant
  | components => bracketed
  | _ => quoted

/-- What names are compared by: the token, but for components with every double quote in it made a
single one. -/
def mark (c : Collection) (name : String) : String :=
  if c = components then String.ofList ((c.token name).toList.map softenQuote) else c.token name

def sibling? : Collection → Option Collection
  | useCaseActors => some useCases
  | useCases => some useCaseActors
  | _ => none

private theorem token_eq_iff_printKey {c : Collection} (hc : c ≠ components) {a b : String} :
    c.token a = c.token b ↔ printKey c a = printKey c b := by
  rw [← quoted_eq_iff_printKey hc hc]
  by_cases hactors : c = actors
  · subst hactors
    exact participant_eq_iff_quoted
  · have htoken : c.token = quoted := by
      cases c <;> first | rfl | contradiction
    rw [htoken]

private theorem mark_eq_token {c : Collection} (hc : c ≠ components) : c.mark = c.token := by
  funext n
  rw [mark, if_neg hc]

private theorem ne_components_of_sibling? {c other : Collection} (h : c.sibling? = some other) :
    c ≠ components ∧ other ≠ components := by
  cases c <;> cases h <;> decide

theorem mark_eq_iff_printKey (c : Collection) {a b : String} :
    c.mark a = c.mark b ↔ printKey c a = printKey c b := by
  by_cases hc : c = components
  · subst hc
    rw [mark, mark, if_pos rfl, if_pos rfl, String.ofList_inj]
    exact bracketed_eq_iff_printKey
  · rw [mark_eq_token hc, token_eq_iff_printKey hc]

end Collection

section

variable (print : Collection → String → String) (c other : Collection) (names : List String)

def nameRefusal? (text : String) : Option Rejection :=
  if text = "" then some (.emptyName c)
  else if ∃ n ∈ names, print c n = print c text then some (.duplicateName c text)
  else none

def clashRefusal? (text : String) : Option Rejection :=
  if ∃ n ∈ names, print other n = print c text then some (.nameClash c other text) else none

end

def settle (refusal : Option Rejection) (text : String) : Except Rejection String :=
  match refusal with
  | some e => .error e
  | none => .ok text

private theorem newName_eq_settle (c : Collection) (names : List String) (name : String) :
    newName c names name =
      settle (nameRefusal? Collection.mark c names (trim name)) (trim name) := by
  simp only [newName, nameRefusal?, String.isEmpty_iff]
  by_cases he : trim name = ""
  · rw [if_pos he, if_pos he]
    rfl
  · have hlike : printsLike c names (trim name) = true ↔
        ∃ n ∈ names, c.mark n = c.mark (trim name) := by
      simp [printsLike, c.mark_eq_iff_printKey]
    rw [if_neg he, if_neg he]
    by_cases h : ∃ n ∈ names, c.mark n = c.mark (trim name)
    · rw [if_pos h, if_pos (hlike.mpr h)]
      rfl
    · rw [if_neg h, if_neg (mt hlike.mp h)]
      rfl

theorem nameRefusal?_eq_none {print : Collection → String → String} {c : Collection}
    {names : List String} {text : String} :
    nameRefusal? print c names text = none ↔
      text ≠ "" ∧ ∀ n ∈ names, print c n ≠ print c text := by
  rw [nameRefusal?]
  by_cases he : text = ""
  · simp [he]
  · by_cases h : ∃ n ∈ names, print c n = print c text
    · rw [if_neg he, if_pos h]
      obtain ⟨n, hn, heq⟩ := h
      exact iff_of_false (nomatch ·) fun hnew => hnew.2 n hn heq
    · rw [if_neg he, if_neg h]
      exact iff_of_true rfl ⟨he, fun n hn heq => h ⟨n, hn, heq⟩⟩

theorem requireDistinct_eq {c other : Collection} (hc : c.sibling? = some other)
    (others : List String) (name : String) :
    requireDistinct c other others name =
      match clashRefusal? Collection.mark c other others name with
      | some e => .error e
      | none => .ok () := by
  have hmark (n : String) :
      other.mark n = c.mark name ↔ printKey other n = printKey c name := by
    cases c <;> cases hc <;> exact quoted_eq_iff_printKey (by decide) (by decide)
  have hlike : (others.any fun n => printKey other n == printKey c name) = true ↔
      ∃ n ∈ others, other.mark n = c.mark name := by
    simp [hmark]
  rw [requireDistinct, clashRefusal?]
  by_cases h : ∃ n ∈ others, other.mark n = c.mark name
  · rw [if_pos h, if_pos (hlike.mpr h)]
  · rw [if_neg h, if_neg (mt hlike.mp h)]

namespace UseCaseDiagram

private theorem newActor_eq_settle (d : UseCaseDiagram) (name : String) :
    d.newActor name =
      settle ((nameRefusal? Collection.mark .useCaseActors d.actors (trim name)).or
        (clashRefusal? Collection.mark .useCaseActors .useCases d.useCases (trim name)))
        (trim name) := by
  rw [newActor, newName_eq_settle]
  cases hname : nameRefusal? Collection.mark .useCaseActors d.actors (trim name) with
  | some e => rfl
  | none =>
    have hagain : requireDistinct .useCases .useCaseActors d.actors (trim name) = .ok () := by
      rw [requireDistinct_eq_ok]
      exact fun n hn heq => (nameRefusal?_eq_none.mp hname).2 n hn
        ((Collection.mark_eq_iff_printKey _).mpr heq)
    rw [Option.none_or]
    change (requireDistinct .useCaseActors .useCases d.useCases (trim name) >>= fun _ =>
      requireDistinct .useCases .useCaseActors d.actors (trim name) >>= fun _ => pure _) = _
    rw [requireDistinct_eq rfl, hagain]
    cases clashRefusal? Collection.mark .useCaseActors .useCases d.useCases (trim name) <;> rfl

private theorem newUseCase_eq_settle (d : UseCaseDiagram) (name : String) :
    d.newUseCase name =
      settle ((nameRefusal? Collection.mark .useCases d.useCases (trim name)).or
        (clashRefusal? Collection.mark .useCases .useCaseActors d.actors (trim name)))
        (trim name) := by
  rw [newUseCase, newName_eq_settle]
  cases hname : nameRefusal? Collection.mark .useCases d.useCases (trim name) with
  | some e => rfl
  | none =>
    rw [Option.none_or]
    change (requireDistinct .useCases .useCaseActors d.actors (trim name) >>= fun _ => pure _) = _
    rw [requireDistinct_eq rfl]
    cases clashRefusal? Collection.mark .useCases .useCaseActors d.actors (trim name) <;> rfl

end UseCaseDiagram

inductive AddsNode (name : String) : Collection → Edit → Prop
  | actor : AddsNode name .actors (.sequence (.addActor name))
  | classRecord (isAbstract : Bool) :
    AddsNode name .classes (.classes (.addClass name isAbstract))
  | useCaseActor : AddsNode name .useCaseActors (.useCase (.addActor name))
  | useCase : AddsNode name .useCases (.useCase (.addUseCase name))
  | entity : AddsNode name .entities (.entity (.addEntity name))
  | activity : AddsNode name .activities (.activity (.addNode name))
  | component : AddsNode name .components (.component (.addNode name))
  | state : AddsNode name .states (.state (.addState name))

namespace Store

/-- The names of the nodes in a collection. -/
def nodeNames (s : Store) : Collection → List String
  | .actors => s.sequence.names SequenceDiagram.rules
  | .classes => s.classes.names ClassDiagram.rules
  | .useCaseActors => s.useCase.actors
  | .useCases => s.useCase.useCases
  | .entities => s.entity.names EntityDiagram.rules
  | .activities => s.activity.names FlowDiagram.activityRules
  | .components => s.component.names FlowDiagram.componentRules
  | .states => s.state.names StateDiagram.rules
  | _ => []

/-- The source declares a node by its token. -/
theorem declared_by_token {s : Store} {c : Collection} {n : String} (hn : n ∈ s.nodeNames c) :
    ∃ kind, ∃ block ∈ (s.body kind).blocks, ∃ before after,
      block.head? = some (before ++ c.token n ++ after) := by
  have hnamed {ε : Type} {R : Rules String String ε} (hname : R.name = id)
      {g : Graph String String ε} (h : n ∈ g.names R) (line : String → String) :
      [line n] ∈ g.nodes.map fun n => [line n] := by
    rw [Graph.names, hname, List.map_id] at h
    exact List.mem_map_of_mem h
  cases c with
  | actors =>
    exact ⟨.sequence, _, hnamed rfl hn fun n => "actor " ++ participant n, "actor ", "",
      by rw [String.append_empty]; rfl⟩
  | classes =>
    obtain ⟨c, hc, rfl⟩ := List.mem_map.mp hn
    exact ⟨.classes, _, List.mem_map_of_mem hc, flagged c.isAbstract "abstract " ++ "class ",
      " \x7b", rfl⟩
  | useCaseActors =>
    exact ⟨.useCase, _, List.mem_append_left _ (List.mem_map_of_mem hn), "actor ", "",
      by rw [String.append_empty]; rfl⟩
  | useCases =>
    exact ⟨.useCase, _, List.mem_append_right _ (List.mem_map_of_mem hn), "usecase ", "",
      by rw [String.append_empty]; rfl⟩
  | entities =>
    obtain ⟨e, he, rfl⟩ := List.mem_map.mp hn
    exact ⟨.entity, _, List.mem_map_of_mem he, "entity ", " \x7b", rfl⟩
  | activities =>
    exact ⟨.activity, _, hnamed rfl hn fun n => "action " ++ quoted n, "action ", "",
      by rw [String.append_empty]; rfl⟩
  | components =>
    exact ⟨.component, _, hnamed rfl hn fun n => "" ++ bracketed n, "", "",
      by rw [String.append_empty]; rfl⟩
  | states =>
    exact ⟨.state, _, hnamed rfl hn fun n => "state " ++ quoted n, "state ", "",
      by rw [String.append_empty]; rfl⟩
  | _ => cases hn

/-- Why a trimmed name is refused for a new node of a collection, where `print` writes names. -/
def refusal? (s : Store) (print : Collection → String → String) (c : Collection)
    (text : String) : Option Rejection :=
  (nameRefusal? print c (s.nodeNames c) text).or
    (c.sibling?.bind fun other => clashRefusal? print c other (s.nodeNames other) text)

end Store

/-- A node is added unless its name is refused, and then it is the last one. -/
private theorem Graph.addNode_settles {κ ν ε : Type} (R : Rules κ ν ε) (build : Id → String → ν)
    (hbuild : ∀ id text, R.name (build id text) = text) (name : String) (g : Graph κ ν ε) :
    Decides (addNode R name build) g
      (nameRefusal? Collection.mark R.nodes (g.names R) (trim name) = none)
      (fun g' => g'.names R = g.names R ++ [trim name])
      fun e => nameRefusal? Collection.mark R.nodes (g.names R) (trim name) = some e := by
  have hrun := addNode_run R g name build
  rw [newName_eq_settle, ← names] at hrun
  cases hname : nameRefusal? Collection.mark R.nodes (g.names R) (trim name) with
  | none =>
    rw [hname] at hrun
    refine decides_of_run_ok hrun rfl ?_
    simp [names, touch, withNode, countId, hbuild]
  | some e =>
    rw [hname] at hrun
    exact decides_of_run_error hrun (Option.some_ne_none e) rfl

namespace UseCaseDiagram

private theorem addActor_settles (name : String) (d : UseCaseDiagram) :
    Decides (addActor name) d
      ((nameRefusal? Collection.mark .useCaseActors d.actors (trim name)).or
        (clashRefusal? Collection.mark .useCaseActors .useCases d.useCases (trim name)) = none)
      (fun d' => d'.actors = d.actors ++ [trim name])
      fun e => (nameRefusal? Collection.mark .useCaseActors d.actors (trim name)).or
        (clashRefusal? Collection.mark .useCaseActors .useCases d.useCases (trim name)) =
          some e := by
  have hrun := addActor_run d name
  rw [newActor_eq_settle] at hrun
  generalize Option.or _ _ = refusal at hrun ⊢
  cases refusal with
  | none => exact decides_of_run_ok hrun rfl rfl
  | some e => exact decides_of_run_error hrun (Option.some_ne_none e) rfl

private theorem addUseCase_settles (name : String) (d : UseCaseDiagram) :
    Decides (addUseCase name) d
      ((nameRefusal? Collection.mark .useCases d.useCases (trim name)).or
        (clashRefusal? Collection.mark .useCases .useCaseActors d.actors (trim name)) = none)
      (fun d' => d'.useCases = d.useCases ++ [trim name])
      fun e => (nameRefusal? Collection.mark .useCases d.useCases (trim name)).or
        (clashRefusal? Collection.mark .useCases .useCaseActors d.actors (trim name)) =
          some e := by
  have hrun := addUseCase_run d name
  rw [newUseCase_eq_settle] at hrun
  generalize Option.or _ _ = refusal at hrun ⊢
  cases refusal with
  | none => exact decides_of_run_ok hrun rfl rfl
  | some e => exact decides_of_run_error hrun (Option.some_ne_none e) rfl

end UseCaseDiagram

namespace Store

variable {s : Store} {c : Collection} {name : String} {edit : Edit}

private theorem refusal?_of_sibling?_eq_none (hc : c.sibling? = none)
    (print : Collection → String → String) (text : String) :
    s.refusal? print c text = nameRefusal? print c (s.nodeNames c) text := by
  rw [refusal?, hc, Option.bind_none, Option.or_none]

theorem addsNode_settles (h : AddsNode name c edit) :
    Decides (apply edit) s (s.refusal? Collection.mark c (trim name) = none)
      (fun s' => s'.nodeNames c = s.nodeNames c ++ [trim name])
      fun e => s.refusal? Collection.mark c (trim name) = some e := by
  cases h with
  | actor =>
    have hadd := Graph.addNode_settles SequenceDiagram.rules (fun _ n => n) (fun _ _ => rfl)
      name s.sequence
    rw [apply, refusal?_of_sibling?_eq_none rfl]
    exact (hadd.answer fun _ => Reply.done).within fun _ h => h
  | classRecord isAbstract =>
    have hadd := Graph.addNode_settles ClassDiagram.rules
      (fun id n => ⟨id, n, isAbstract, [], []⟩) (fun _ _ => rfl) name s.classes
    rw [apply, refusal?_of_sibling?_eq_none rfl]
    exact (hadd.answer Reply.created).within fun _ h => h
  | useCaseActor =>
    rw [apply]
    exact ((s.useCase.addActor_settles name).answer fun _ => Reply.done).within fun _ h => h
  | useCase =>
    rw [apply]
    exact ((s.useCase.addUseCase_settles name).answer fun _ => Reply.done).within fun _ h => h
  | entity =>
    have hadd := Graph.addNode_settles EntityDiagram.rules (fun id n => ⟨id, n, []⟩)
      (fun _ _ => rfl) name s.entity
    rw [apply, refusal?_of_sibling?_eq_none rfl]
    exact (hadd.answer Reply.created).within fun _ h => h
  | activity =>
    have hadd := Graph.addNode_settles FlowDiagram.activityRules (fun _ n => n) (fun _ _ => rfl)
      name s.activity
    rw [apply, refusal?_of_sibling?_eq_none rfl]
    exact (hadd.answer fun _ => Reply.done).within fun _ h => h
  | component =>
    have hadd := Graph.addNode_settles FlowDiagram.componentRules (fun _ n => n) (fun _ _ => rfl)
      name s.component
    rw [apply, refusal?_of_sibling?_eq_none rfl]
    exact (hadd.answer fun _ => Reply.done).within fun _ h => h
  | state =>
    have hadd := Graph.addNode_settles StateDiagram.rules (fun _ n => n) (fun _ _ => rfl)
      name s.state
    rw [apply, refusal?_of_sibling?_eq_none rfl]
    exact (hadd.answer fun _ => Reply.done).within fun _ h => h

private theorem refusal?_token_eq (hc : c ≠ .components) (text : String) :
    s.refusal? Collection.token c text = s.refusal? Collection.mark c text := by
  have hclash : (c.sibling?.bind fun other =>
      clashRefusal? Collection.token c other (s.nodeNames other) text) =
        c.sibling?.bind fun other =>
          clashRefusal? Collection.mark c other (s.nodeNames other) text := by
    refine Option.bind_congr fun other hother => ?_
    have hother := (Collection.ne_components_of_sibling? hother).2
    rw [clashRefusal?, clashRefusal?, Collection.mark_eq_token hc,
      Collection.mark_eq_token hother]
  rw [refusal?, refusal?, hclash, nameRefusal?, nameRefusal?, Collection.mark_eq_token hc]

/-- Components whose tokens are the same have the same marks as well. -/
private theorem refusal?_mark_of_token {text : String} {e : Rejection}
    (h : s.refusal? Collection.token c text = some e) :
    s.refusal? Collection.mark c text = some e := by
  by_cases hc : c = .components
  · subst hc
    rw [refusal?_of_sibling?_eq_none rfl, nameRefusal?] at h ⊢
    by_cases he : text = ""
    · rw [if_pos he] at h ⊢
      exact h
    · rw [if_neg he] at h ⊢
      by_cases hsame : ∃ n ∈ s.nodeNames .components,
          Collection.components.token n = Collection.components.token text
      · obtain ⟨n, hn, heq⟩ := hsame
        have hmark := (Collection.mark_eq_iff_printKey .components).mpr
          (printKey_eq_of_bracketed heq)
        rw [if_pos ⟨n, hn, heq⟩] at h
        rw [if_pos ⟨n, hn, hmark⟩]
        exact h
      · rw [if_neg hsame] at h
        cases h
  · rw [← refusal?_token_eq hc]
    exact h

/-- A new node has the trimmed name and becomes the last one, unless the name is refused: because it
is empty, or because its mark is that of another name. The marks are the printed tokens, except that
names of components that differ in their quotes only have different tokens and the same mark. -/
theorem addsNode_decided {s : Store} {c : Collection} {name : String} {edit : Edit}
    (h : AddsNode name c edit) :
    (∀ e, (apply edit).outcome s = .error e ↔
      s.refusal? Collection.mark c (trim name) = some e) ∧
    (s.refusal? Collection.mark c (trim name) = none →
      (∃ reply, (apply edit).outcome s = .ok reply) ∧
        ((apply edit).after s).nodeNames c = s.nodeNames c ++ [trim name]) ∧
    (∀ e, s.refusal? Collection.token c (trim name) = some e →
      s.refusal? Collection.mark c (trim name) = some e) ∧
    (c ≠ .components →
      s.refusal? Collection.token c (trim name) = s.refusal? Collection.mark c (trim name)) := by
  obtain ⟨hrefused, haccepted⟩ := (addsNode_settles (s := s) h).settled
  exact ⟨hrefused, haccepted, fun e => refusal?_mark_of_token, fun hc => refusal?_token_eq hc _⟩

/-- A use case that prints like an actor, and a component that prints like another one. -/
theorem addsNode_decided_clash :
    let s := run {} [.edit (.useCase (.addActor "say \"hi\"")),
      .edit (.component (.addNode "Db[1]"))]
    (apply (.useCase (.addUseCase " say 'hi'\n"))).outcome s =
        .error (.nameClash .useCases .useCaseActors "say 'hi'") ∧
      (apply (.component (.addNode "Db(1)"))).outcome s =
        .error (.duplicateName .components "Db(1)") := by
  intro s
  have hclash : s.refusal? Collection.mark .useCases (trim " say 'hi'\n") =
      some (.nameClash .useCases .useCaseActors "say 'hi'") := by
    decide +kernel
  have htoken : s.refusal? Collection.token .components (trim "Db(1)") =
      some (.duplicateName .components "Db(1)") := by
    decide +kernel
  have huse : AddsNode " say 'hi'\n" .useCases _ := .useCase
  have hadd : AddsNode "Db(1)" .components _ := .component
  obtain ⟨huseCase, -, -, -⟩ := addsNode_decided (s := s) huse
  obtain ⟨hcomponent, -, hmark, -⟩ := addsNode_decided (s := s) hadd
  exact ⟨(huseCase _).mpr hclash, (hcomponent _).mpr (hmark _ htoken)⟩

/-- A component is refused though its token would be the only one of its kind. -/
theorem component_refused_by_quote :
    let s := run {} [.edit (.component (.addNode "a\"b"))]
    (apply (.component (.addNode "a'b"))).outcome s =
        .error (.duplicateName .components "a'b") ∧
      bracketed "a'b" = "[a'b]" ∧ bracketed "a\"b" = "[a\"b]" ∧
      s.refusal? Collection.token .components (trim "a'b") = none := by
  decide +kernel

end Store

end UmlDiagrams
