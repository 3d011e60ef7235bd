import UmlDiagrams.Document.Replay
import UmlDiagrams.Proofs.Diagram.Keeps
import UmlDiagrams.Proofs.Graph.Listing

namespace UmlDiagrams

open Stateful UmlDiagrams.Graph

variable {ν ε μ α : Type}

namespace Graph

variable {R : Rules Id ν ε} {Named : ν → Prop} {g : Graph Id ν ε} {before : List ν} {n n' : ν}

/-- Revising the last node leaves the others, because they have other keys. -/
private theorem reviseNode_last (hg : Sound R Named g) (hn : g.nodes = before ++ [n]) {answer : α}
    {revise : ν → Except Rejection (α × ν)} (hrevise : revise n = .ok (answer, n'))
    (hkey : R.key n' = R.key n) (touched : Collection) :
    (reviseNode R (R.key n) touched revise).run g =
      .ok answer (touch [touched] { g with nodes := before ++ [n'] }) := by
  have hmem : n ∈ g.nodes := by
    rw [hn]
    exact List.mem_append_right _ List.mem_cons_self
  have hrevised : g.revisedNode R (R.key n) revise = .ok (answer, n') := by
    rw [revisedNode, requireNode, findNode?_key hg hmem]
    exact hrevise
  have hothers : ∀ m ∈ before, R.key m ≠ R.key n := by
    have hkeys := hg.keys
    rw [keys, hn, List.map_append, List.nodup_append] at hkeys
    exact fun m hm => hkeys.2.2 _ (List.mem_map_of_mem hm) _ (List.mem_map_of_mem List.mem_cons_self)
  have hreplaced : replaceNode R n' g = { g with nodes := before ++ [n'] } := by
    have hbefore : before.map (fun m => if R.key m = R.key n' then n' else m) = before := by
      conv_rhs => rw [← List.map_id before]
      refine List.map_congr_left fun m hm => ?_
      rw [hkey, if_neg (hothers m hm), id]
    rw [replaceNode, hn, List.map_append, hbefore, List.map_singleton, if_pos hkey.symm]
  rw [reviseNode_run, hrevised, ← hreplaced]

/-- A member of a list makes the last node larger, if it is good by itself. -/
def Grows (R : Rules Id ν ε) (Named : ν → Prop) (op : μ → Editing (Graph Id ν ε) α)
    (grown : ν → μ → ν) (Good : μ → Prop) : Prop :=
  ∀ g before n, Sound R Named g → g.nodes = before ++ [n] → ∀ m, Decides (op m) g (Good m)
    (fun g' => Sound R Named g' ∧ g'.edges = g.edges ∧ g'.nodes = before ++ [grown n m])
    fun _ => True

theorem grow_decides {op : μ → Editing (Graph Id ν ε) α} {grown : ν → μ → ν} {Good : μ → Prop}
    (hop : Grows R Named op grown Good) (hg : Sound R Named g) (hn : g.nodes = before ++ [n])
    (ms : List μ) :
    Decides (inOrder (ms.map op)) g (∀ m ∈ ms, Good m)
      (fun g' => Sound R Named g' ∧ g'.edges = g.edges ∧ g'.nodes = before ++ [ms.foldl grown n])
      fun _ => True := by
  induction ms generalizing g n with
  | nil => exact decides_nil ⟨hg, rfl, hn⟩ (by simp)
  | cons m ms ih =>
    have hboth : Decides (inOrder (op m :: ms.map op)) g (Good m ∧ ∀ m ∈ ms, Good m)
        (fun g' => Sound R Named g' ∧ g'.edges = g.edges ∧
          g'.nodes = before ++ [ms.foldl grown (grown n m)]) fun _ => True := by
      refine (hop g before n hg hn m).cons fun g' _ hgrown => ?_
      obtain ⟨hsound, hedges, hnodes⟩ := hgrown
      rw [← hedges]
      exact ih hsound hnodes
    exact hboth.imp List.forall_mem_cons.symm (fun _ _ h => h) fun _ _ h => h

def addMember (R : Rules Id ν ε) (collection : Collection) (title : μ → String)
    (grow : String → μ → ν → ν) (id : Id) (m : μ) : Editing (Graph Id ν ε) Reply := do
  let name ← memberName collection (title m)
  reviseNode R id collection fun n => .ok (.done, grow name m n)

def addLast (R : Rules Id ν ε) (collection : Collection) (title : μ → String)
    (grow : String → μ → ν → ν) (m : μ) : Editing (Graph Id ν ε) Reply := do
  let g ← get
  addMember R collection title grow (Action.lastId R.kind (g.nodes.map R.key) g.issued) m

variable {collection : Collection} {title : μ → String} {grow : String → μ → ν → ν}

theorem addMember_run (id : Id) (m : μ) (g : Graph Id ν ε) :
    (addMember R collection title grow id m).run g =
      match memberName collection (title m) with
      | .ok name => (reviseNode R id collection fun n => .ok (Reply.done, grow name m n)).run g
      | .error e => .error e g := by
  cases h : memberName collection (title m) <;> simp [addMember, h]

theorem addLast_run (m : μ) (g : Graph Id ν ε) :
    (addLast R collection title grow m).run g =
      (addMember R collection title grow
        (Action.lastId R.kind (g.nodes.map R.key) g.issued) m).run g := by
  rw [addLast, EStateM.run_bind, EStateM.run_get]

private theorem addLast_run_last (hn : g.nodes = before ++ [n]) (m : μ) :
    (addLast R collection title grow m).run g =
      (addMember R collection title grow (R.key n) m).run g := by
  have hlast : Action.lastId R.kind (g.nodes.map R.key) g.issued = R.key n := by
    simp [Action.lastId, hn]
  rw [addLast_run, hlast]

theorem addLast_grows (hkey : ∀ name m n, R.key (grow name m n) = R.key n)
    (hkeeps : ∀ id m, Keeps (Sound R Named) (addMember R collection title grow id m)) :
    Grows R Named (addLast R collection title grow) (fun n m => grow (Text.trim (title m)) m n)
      fun m => Text.trim (title m) ≠ "" := by
  intro g before n hg hn m
  have hsound := hkeeps (R.key n) m g hg
  have hmember : (addMember R collection title grow (R.key n) m).run g = _ :=
    addMember_run (R.key n) m g
  have hrun : (addLast R collection title grow m).run g = _ := addLast_run_last hn m
  cases h : memberName collection (title m) with
  | ok name =>
    obtain ⟨rfl, hne⟩ := memberName_eq_ok.mp h
    let revise (n : ν) : Except Rejection (Reply × ν) :=
      .ok (.done, grow (Text.trim (title m)) m n)
    have hrevise : revise n = .ok (.done, grow (Text.trim (title m)) m n) := rfl
    rw [h] at hmember
    have hmember := hmember.trans (reviseNode_last hg hn hrevise (hkey _ m n) collection)
    rw [after, hmember] at hsound
    exact decides_of_run_ok (hrun.trans hmember) hne ⟨hsound, rfl, rfl⟩
  | error e =>
    rw [h] at hmember
    refine decides_of_run_error (hrun.trans hmember) (fun hne => ?_) trivial
    have hok := (memberName_eq_ok (c := collection)).mpr ⟨rfl, hne⟩
    rw [h] at hok
    cases hok

end Graph

end UmlDiagrams
