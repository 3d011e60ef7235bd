import UmlDiagrams.Proofs.Document.Listing
import UmlDiagrams.Proofs.NewNames
import UmlDiagrams.Proofs.UseCase.Keeps

namespace UmlDiagrams

open Stateful

namespace UseCaseDiagram

def names (d : UseCaseDiagram) : List String :=
  d.actors ++ d.useCases

variable {d : UseCaseDiagram}

theorem printKeys_names (h : d.Sound) : (d.names.map (printKey .useCases)).Nodup := by
  rw [names, List.map_append]
  exact h.printKeys

private theorem newActor_among (h : d.Sound) {name text : String} :
    d.newActor name = .ok text ↔
      text = Text.trim name ∧ NewAmong .useCases d.names [text] := by
  rw [← newName_among (printKeys_names h), newActor_eq_ok, newName_eq_ok, newName_eq_ok, names,
    List.forall_mem_append, and_assoc, and_assoc]
  rfl

private theorem newUseCase_among (h : d.Sound) {name text : String} :
    d.newUseCase name = .ok text ↔
      text = Text.trim name ∧ NewAmong .useCases d.names [text] := by
  rw [← newName_among (printKeys_names h), newUseCase_eq_ok, newName_eq_ok, newName_eq_ok, names,
    List.forall_mem_append]
  constructor
  · intro h
    exact ⟨h.1.1, h.1.2.1, h.2, h.1.2.2⟩
  · intro h
    exact ⟨⟨h.1, h.2.1, h.2.2.2⟩, h.2.2.1⟩

private theorem addActor_decides (hd : d.Sound) (name : String) :
    Decides (addActor name) d (NewAmong .useCases d.names [Text.trim name])
      (fun d' => d'.Sound ∧ d'.actors = d.actors ++ [Text.trim name] ∧ d'.useCases = d.useCases ∧
        d'.links = d.links) fun _ => True := by
  have hsound := addActor_keeps name d hd
  have hrun := addActor_run d name
  cases h : d.newActor name with
  | ok text =>
    obtain ⟨rfl, hamong⟩ := (newActor_among hd).mp h
    rw [h] at hrun
    rw [after, hrun] at hsound
    exact decides_of_run_ok hrun hamong ⟨hsound, rfl, rfl, rfl⟩
  | error e =>
    rw [h] at hrun
    refine decides_of_run_error hrun (fun hamong => ?_) trivial
    have hok := (newActor_among hd).mpr ⟨rfl, hamong⟩
    rw [h] at hok
    cases hok

private theorem addUseCase_decides (hd : d.Sound) (name : String) :
    Decides (addUseCase name) d (NewAmong .useCases d.names [Text.trim name])
      (fun d' => d'.Sound ∧ d'.actors = d.actors ∧ d'.useCases = d.useCases ++ [Text.trim name] ∧
        d'.links = d.links) fun _ => True := by
  have hsound := addUseCase_keeps name d hd
  have hrun := addUseCase_run d name
  cases h : d.newUseCase name with
  | ok text =>
    obtain ⟨rfl, hamong⟩ := (newUseCase_among hd).mp h
    rw [h] at hrun
    rw [after, hrun] at hsound
    exact decides_of_run_ok hrun hamong ⟨hsound, rfl, rfl, rfl⟩
  | error e =>
    rw [h] at hrun
    refine decides_of_run_error hrun (fun hamong => ?_) trivial
    have hok := (newUseCase_among hd).mpr ⟨rfl, hamong⟩
    rw [h] at hok
    cases hok

private theorem addActors_decides (names : List String) :
    Decides (inOrder (names.map fun n => apply (.addActor n))) {}
      (NewAmong .useCases [] (names.map Text.trim))
      (fun d => d.Sound ∧ d.actors = names.map Text.trim ∧ d.useCases = [] ∧ d.links = [])
      fun _ => True := by
  let I (d : UseCaseDiagram) : Prop := d.Sound ∧ d.useCases = [] ∧ d.links = []
  have hnodup (d : UseCaseDiagram) (hd : I d) :
      ((d.actors.map fun n => n).map (printKey .useCases)).Nodup := by
    have hkeys := printKeys_names hd.1
    rw [UseCaseDiagram.names, hd.2.1, List.append_nil] at hkeys
    rw [List.map_id']
    exact hkeys
  have hadd (d : UseCaseDiagram) (hd : I d) (n : String) :
      Decides (inOrder [apply (.addActor n)]) d
        (NewAmong .useCases (d.actors.map fun n => n) [Text.trim n] ∧ True)
        (fun d' => I d' ∧ d'.actors = d.actors ++ [Text.trim n]) fun _ => True := by
    have hactor := (addActor_decides hd.1 n).answer fun _ => Reply.done
    rw [UseCaseDiagram.names, hd.2.1, List.append_nil] at hactor
    rw [List.map_id']
    refine hactor.cons fun d' _ h => decides_nil ?_ trivial
    exact ⟨⟨h.1, h.2.2.1, h.2.2.2.trans hd.2.2⟩, h.2.1⟩
  have hempty : I {} := ⟨sound_empty 0 [], rfl, rfl⟩
  have hall := addListed_decides hnodup hadd hempty names
  rw [← List.map_eq_flatMap, List.map_id'] at hall
  rw [List.map_id'] at hall
  refine hall.imp (by simp) (fun d _ h => ?_) fun _ _ h => h
  exact ⟨h.1.1, h.2, h.1.2⟩

private theorem addUseCases_decides (hd : d.Sound) (huseCases : d.useCases = [])
    (names : List String) :
    Decides (inOrder (names.map fun n => apply (.addUseCase n))) d
      (NewAmong .useCases d.actors (names.map Text.trim))
      (fun d' => d'.Sound ∧ d'.actors = d.actors ∧ d'.useCases = names.map Text.trim ∧
        d'.links = d.links)
      fun _ => True := by
  let I (d' : UseCaseDiagram) : Prop :=
    d'.Sound ∧ d'.actors = d.actors ∧ d'.links = d.links
  have hnodup (d' : UseCaseDiagram) (hd' : I d') :
      ((d'.names.map fun n => n).map (printKey .useCases)).Nodup := by
    rw [List.map_id']
    exact printKeys_names hd'.1
  have hadd (d' : UseCaseDiagram) (hd' : I d') (n : String) :
      Decides (inOrder [apply (.addUseCase n)]) d'
        (NewAmong .useCases (d'.names.map fun n => n) [Text.trim n] ∧ True)
        (fun d'' => I d'' ∧ d''.names = d'.names ++ [Text.trim n]) fun _ => True := by
    have huseCase := (addUseCase_decides hd'.1 n).answer fun _ => Reply.done
    rw [List.map_id']
    refine huseCase.cons fun d'' _ h => decides_nil ?_ trivial
    refine ⟨⟨h.1, h.2.1.trans hd'.2.1, h.2.2.2.trans hd'.2.2⟩, ?_⟩
    rw [UseCaseDiagram.names, h.2.1, h.2.2.1, ← List.append_assoc]
    rfl
  have hall := addListed_decides hnodup hadd (⟨hd, rfl, rfl⟩ : I d) names
  rw [← List.map_eq_flatMap, List.map_id', List.map_id', UseCaseDiagram.names, huseCases,
    List.append_nil] at hall
  refine hall.imp (by simp) (fun d' _ h => ?_) fun _ _ h => h
  obtain ⟨⟨hsound, hactors, hlinks⟩, hnames⟩ := h
  rw [UseCaseDiagram.names, hactors] at hnames
  exact ⟨hsound, hactors, List.append_cancel_left hnames, hlinks⟩

private theorem addNodes_decides (actors useCases : List String) :
    Decides (inOrder ((actors.map fun n => apply (.addActor n)) ++
        useCases.map fun n => apply (.addUseCase n))) {}
      (NewAmong .useCases [] (actors.map Text.trim ++ useCases.map Text.trim))
      (fun d => d.Sound ∧ d.actors = actors.map Text.trim ∧ d.useCases = useCases.map Text.trim ∧
        d.links = [])
      fun _ => True := by
  rw [newAmong_append]
  refine (addActors_decides actors).append fun d _ h => ?_
  obtain ⟨hsound, hactors, huseCases, hlinks⟩ := h
  have hadded := addUseCases_decides hsound huseCases useCases
  rw [hactors, hlinks] at hadded
  exact hadded

def LacksEnd (actors useCases : List String) (e : Rejection) : Prop :=
  (actors = [] ∧ e = .notEnoughNodes .useCaseActors 1 0) ∨
    (useCases = [] ∧ e = .notEnoughNodes .useCases 1 0)

private theorem pickEnd_named (c : Collection) {names : List String} {named : Option String}
    (hknown : ∀ n, named = some n → n ∈ names) (hne : names ≠ []) :
    ∃ n, pickEnd c .name names named 0 = .ok n ∧ named.or names[0]? = some n := by
  cases named with
  | some n =>
    refine ⟨n, ?_, rfl⟩
    rw [pickEnd, if_pos (hknown n rfl)]
  | none =>
    obtain ⟨n, names, rfl⟩ := List.exists_cons_of_ne_nil hne
    exact ⟨n, rfl, rfl⟩

theorem requireNodes_nonempty (c : Collection) {names : List String} (h : names ≠ []) :
    requireNodes c 1 names.length = .ok () :=
  Graph.requireNodes_eq (List.length_pos_iff.mpr h)

private theorem newEnds_known {l : LinkSpec} (hl : l.Known d.actors d.useCases) (ha : d.actors ≠ [])
    (hu : d.useCases ≠ []) :
    ∃ a u, d.newEnds l.actor l.useCase = .ok (a, u) ∧
      l.completed d.actors d.useCases = ⟨some a, some u⟩ := by
  obtain ⟨a, hpicka, hnamea⟩ := pickEnd_named .useCaseActors hl.actor ha
  obtain ⟨u, hpicku, hnameu⟩ := pickEnd_named .useCases hl.useCase hu
  refine ⟨a, u, ?_, ?_⟩
  · refine bind_eq_ok.mpr ⟨(), requireNodes_nonempty _ ha, ?_⟩
    refine bind_eq_ok.mpr ⟨(), requireNodes_nonempty _ hu, ?_⟩
    exact bind_eq_ok.mpr ⟨a, hpicka, bind_eq_ok.mpr ⟨u, hpicku, rfl⟩⟩
  · rw [LinkSpec.completed, hnamea, hnameu]

private theorem known_of_newEnds {l : LinkSpec} {ends : String × String}
    (h : d.newEnds l.actor l.useCase = .ok ends) : l.Known d.actors d.useCases := by
  obtain ⟨⟨⟩, -, h⟩ := bind_eq_ok.mp h
  obtain ⟨⟨⟩, -, h⟩ := bind_eq_ok.mp h
  obtain ⟨a, ha, h⟩ := bind_eq_ok.mp h
  obtain ⟨u, hu, -⟩ := bind_eq_ok.mp h
  constructor
  · intro n hn
    rw [hn] at ha
    exact pickEnd_some ha ▸ pickEnd_mem ha
  · intro n hn
    rw [hn] at hu
    exact pickEnd_some hu ▸ pickEnd_mem hu

private theorem newEnds_of_nil (actor useCase : Option String)
    (h : d.actors = [] ∨ d.useCases = []) :
    ∃ e, d.newEnds actor useCase = .error e ∧ LacksEnd d.actors d.useCases e := by
  by_cases ha : d.actors = []
  · refine ⟨.notEnoughNodes .useCaseActors 1 0, ?_, .inl ⟨ha, rfl⟩⟩
    rw [newEnds, ha]
    rfl
  · have hu : d.useCases = [] := h.resolve_left ha
    refine ⟨.notEnoughNodes .useCases 1 0, ?_, .inr ⟨hu, rfl⟩⟩
    rw [newEnds, requireNodes_nonempty _ ha, hu]
    rfl

def listedLinks (d : UseCaseDiagram) : List LinkSpec :=
  d.links.map fun l => ⟨some l.actor, some l.useCase⟩

theorem addLink_decides (hd : d.Sound) (l : LinkSpec) :
    Decides (addLink l.actor l.useCase) d
      (l.Known d.actors d.useCases ∧ d.actors ≠ [] ∧ d.useCases ≠ [])
      (fun d' => d'.Sound ∧ d'.actors = d.actors ∧ d'.useCases = d.useCases ∧
        d'.listedLinks = d.listedLinks ++ [l.completed d.actors d.useCases])
      fun e => l.Known d.actors d.useCases → LacksEnd d.actors d.useCases e := by
  have hsound := addLink_keeps l.actor l.useCase d hd
  have hrun := addLink_run d l.actor l.useCase
  by_cases hne : d.actors = [] ∨ d.useCases = []
  · obtain ⟨e, hends, hlacks⟩ := newEnds_of_nil l.actor l.useCase hne
    rw [hends] at hrun
    refine decides_of_run_error hrun (fun hc => ?_) fun _ => hlacks
    rcases hne with ha | hu
    · exact hc.2.1 ha
    · exact hc.2.2 hu
  · obtain ⟨ha, hu⟩ := not_or.mp hne
    by_cases hknown : l.Known d.actors d.useCases
    · obtain ⟨a, u, hends, hcompleted⟩ := newEnds_known hknown ha hu
      rw [hends] at hrun
      rw [after, hrun] at hsound
      refine decides_of_run_ok hrun ⟨hknown, ha, hu⟩ ⟨hsound, rfl, rfl, ?_⟩
      rw [hcompleted]
      exact List.map_append
    · cases hends : d.newEnds l.actor l.useCase with
      | ok ends => exact absurd (known_of_newEnds hends) hknown
      | error e =>
        rw [hends] at hrun
        exact decides_of_run_error hrun (fun hc => hknown hc.1) fun hk => absurd hk hknown

private theorem addLinks_decides (hd : d.Sound) (ls : List LinkSpec) :
    Decides (inOrder (ls.map fun l => apply (.addLink l.actor l.useCase))) d
      ((∀ l ∈ ls, l.Known d.actors d.useCases) ∧ (ls ≠ [] → d.actors ≠ [] ∧ d.useCases ≠ []))
      (fun d' => d'.Sound ∧ d'.actors = d.actors ∧ d'.useCases = d.useCases ∧
        d'.listedLinks = d.listedLinks ++ ls.map (·.completed d.actors d.useCases))
      fun e => (∀ l ∈ ls, l.Known d.actors d.useCases) → ls ≠ [] ∧ LacksEnd d.actors d.useCases e := by
  induction ls generalizing d with
  | nil => exact decides_nil ⟨hd, rfl, rfl, (List.append_nil _).symm⟩ (by simp)
  | cons l ls ih =>
    have hfirst := (addLink_decides hd l).answer Reply.created
    have hboth : Decides (inOrder ((l :: ls).map fun l => apply (.addLink l.actor l.useCase))) d
        ((l.Known d.actors d.useCases ∧ d.actors ≠ [] ∧ d.useCases ≠ []) ∧
          (∀ l ∈ ls, l.Known d.actors d.useCases) ∧ (ls ≠ [] → d.actors ≠ [] ∧ d.useCases ≠ []))
        (fun d' => d'.Sound ∧ d'.actors = d.actors ∧ d'.useCases = d.useCases ∧
          d'.listedLinks = d.listedLinks ++ (l :: ls).map (·.completed d.actors d.useCases))
        fun e => (∀ l' ∈ l :: ls, l'.Known d.actors d.useCases) →
          l :: ls ≠ [] ∧ LacksEnd d.actors d.useCases e := by
      refine (hfirst.imp Iff.rfl (fun _ _ h => h) fun _ _ h hknown => ?_).cons fun d' _ h => ?_
      · exact ⟨List.cons_ne_nil _ _, h (hknown l List.mem_cons_self)⟩
      · obtain ⟨hsound, hactors, huseCases, hlinks⟩ := h
        have hrest := ih hsound
        rw [hactors, huseCases, hlinks] at hrest
        refine hrest.imp Iff.rfl (fun d'' _ h => ?_) fun _ _ h hknown => ?_
        · rw [List.append_assoc] at h
          exact h
        · exact ⟨List.cons_ne_nil _ _, (h fun l hl => hknown l (List.mem_cons_of_mem _ hl)).2⟩
    refine hboth.imp ?_ (fun _ _ h => h) fun _ _ h => h
    rw [List.forall_mem_cons]
    constructor
    · intro hc
      exact ⟨⟨hc.1.1, hc.2.1⟩, fun _ => hc.1.2⟩
    · intro hc
      have hne := hc.2 (List.cons_ne_nil _ _)
      exact ⟨⟨hc.1.1, hne⟩, hc.1.2, fun _ => hne⟩

/-- When the actors, the use cases and the links of a section can be added to an empty diagram, and
what the diagram lists afterwards. -/
theorem listed_decides (c : UseCaseSection) :
    Decides (inOrder ((c.actors.map fun n => apply (.addActor n)) ++
        (c.useCases.map fun n => apply (.addUseCase n)) ++
        c.links.map fun l => apply (.addLink l.actor l.useCase))) {}
      (c.Fits ∧ c.EnoughNodes) (fun d => d.Sound ∧ d.listed = c.completed)
      fun e => c.Fits → c.links ≠ [] ∧ LacksEnd c.actorNames c.useCaseNames e := by
  let actors := c.actorNames
  let useCases := c.useCaseNames
  have hall : Decides (inOrder ((c.actors.map fun n => apply (.addActor n)) ++
        (c.useCases.map fun n => apply (.addUseCase n)) ++
        c.links.map fun l => apply (.addLink l.actor l.useCase))) {}
      (NewAmong .useCases [] (actors ++ useCases) ∧ (∀ l ∈ c.links, l.Known actors useCases) ∧
        (c.links ≠ [] → actors ≠ [] ∧ useCases ≠ []))
      (fun d => d.Sound ∧ d.listed = c.completed)
      fun e => c.Fits → c.links ≠ [] ∧ LacksEnd actors useCases e := by
    refine ((addNodes_decides c.actors c.useCases).imp Iff.rfl (fun _ _ h => h)
      fun _ hc _ hfits => ?_).append fun d _ h => ?_
    · exact absurd ⟨hfits.nonblank, hfits.distinct⟩ hc
    · obtain ⟨hsound, hactors, huseCases, hlinks⟩ := h
      have hadded := addLinks_decides hsound c.links
      rw [hactors, huseCases] at hadded
      refine hadded.imp Iff.rfl (fun d' _ h => ⟨h.1, ?_⟩) fun _ _ h hfits => h hfits.known
      have hlisted : d'.listedLinks = c.links.map (·.completed actors useCases) := by
        rw [h.2.2.2, listedLinks, hlinks]
        rfl
      rw [listedLinks] at hlisted
      rw [UseCaseDiagram.listed, h.2.1, h.2.2.1, hlisted]
      rfl
  refine hall.imp ?_ (fun _ _ h => h) fun _ _ h => h
  have hlength : (c.links ≠ [] → actors ≠ [] ∧ useCases ≠ []) ↔ c.EnoughNodes :=
    ⟨fun h => ⟨fun hl => (h hl).1, fun hl => (h hl).2⟩, fun h hl => ⟨h.actor hl, h.useCase hl⟩⟩
  rw [hlength]
  constructor
  · intro h
    exact ⟨⟨h.1.nonblank, h.1.distinct, h.2.1⟩, h.2.2⟩
  · intro h
    exact ⟨⟨h.1.nonblank, h.1.distinct⟩, h.1.known, h.2⟩

end UseCaseDiagram

end UmlDiagrams
