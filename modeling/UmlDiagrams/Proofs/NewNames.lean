import UmlDiagrams.Proofs.Lists
import UmlDiagrams.Proofs.Naming
import UmlDiagrams.Proofs.Outcome
/-!
# Names for many new nodes

Nodes are added one by one, each name being compared with those that are there by then. All of them
are accepted exactly if no name is blank and no two of them, old or new, print alike.
-/

namespace UmlDiagrams

open Stateful

/-- Names that can be given to new nodes, beside the existing names and beside each other. -/
structure NewAmong (c : Collection) (existing names : List String) : Prop where
  nonblank : ∀ n ∈ names, n ≠ ""
  distinct : ((existing ++ names).map (printKey c)).Nodup

variable {c : Collection} {existing names : List String}

private theorem newAmong_nil (h : (existing.map (printKey c)).Nodup) : NewAmong c existing [] where
  nonblank := by simp
  distinct := by
    rw [List.append_nil]
    exact h

/-- The later names are new beside the earlier ones as well. -/
theorem newAmong_append {more : List String} :
    NewAmong c existing (names ++ more) ↔
      NewAmong c existing names ∧ NewAmong c (existing ++ names) more := by
  constructor
  · intro h
    refine ⟨⟨fun m hm => h.nonblank m ?_, ?_⟩, ⟨fun m hm => h.nonblank m ?_, ?_⟩⟩
    · exact List.mem_append_left _ hm
    · refine h.distinct.sublist (List.Sublist.map _ ?_)
      exact (List.Sublist.refl existing).append (List.sublist_append_left names more)
    · exact List.mem_append_right _ hm
    · rw [List.append_assoc]
      exact h.distinct
  · intro hboth
    obtain ⟨hnames, hmore⟩ := hboth
    refine ⟨fun m hm => ?_, ?_⟩
    · rcases List.mem_append.mp hm with hm | hm
      · exact hnames.nonblank m hm
      · exact hmore.nonblank m hm
    · have h := hmore.distinct
      rw [List.append_assoc] at h
      exact h

private theorem newAmong_cons {n : String} :
    NewAmong c existing (n :: names) ↔
      NewAmong c existing [n] ∧ NewAmong c (existing ++ [n]) names := by
  rw [← newAmong_append]
  rfl

theorem newName_among (h : (existing.map (printKey c)).Nodup) {name text : String} :
    newName c existing name = .ok text ↔ text = Text.trim name ∧ NewAmong c existing [text] := by
  rw [newName_eq_ok]
  refine and_congr_right fun _ => ?_
  constructor
  · intro hname
    obtain ⟨hne, hnew⟩ := hname
    refine ⟨by simpa using hne, ?_⟩
    rw [List.map_append, List.map_singleton, ← List.concat_eq_append]
    refine h.concat fun hm => ?_
    obtain ⟨n, hn, heq⟩ := List.mem_map.mp hm
    exact hnew n hn heq
  · intro hamong
    refine ⟨hamong.nonblank text List.mem_cons_self, fun n hn heq => ?_⟩
    have hd := hamong.distinct
    rw [List.map_append, List.nodup_append] at hd
    exact hd.2.2 _ (List.mem_map_of_mem hn) _ (List.mem_map_of_mem List.mem_cons_self) heq

variable {ε σ α β : Type} {I : σ → Prop} {list : σ → List α} {ops : α → List (Stateful ε σ β)}
  {made : α → α} {title : α → String} {Good : α → Prop} {s : σ}

/-- If a listed node is added by some computations that succeed whenever its name is new and it is
good by itself, then a list of nodes is added whenever all names are new and all nodes are good. -/
theorem addListed_decides (hnodup : ∀ s, I s → (((list s).map title).map (printKey c)).Nodup)
    (hops : ∀ s, I s → ∀ a, Decides (inOrder (ops a)) s
      (NewAmong c ((list s).map title) [title (made a)] ∧ Good a)
      (fun s' => I s' ∧ list s' = list s ++ [made a]) fun _ => True)
    (hs : I s) (as : List α) :
    Decides (inOrder (as.flatMap ops)) s
      (NewAmong c ((list s).map title) ((as.map made).map title) ∧ ∀ a ∈ as, Good a)
      (fun s' => I s' ∧ list s' = list s ++ as.map made) fun _ => True := by
  induction as generalizing s with
  | nil =>
    refine decides_nil ⟨hs, (List.append_nil _).symm⟩ ⟨newAmong_nil (hnodup s hs), ?_⟩
    simp
  | cons a as ih =>
    let rest := NewAmong c ((list s).map title ++ [title (made a)]) ((as.map made).map title)
    have hboth : Decides (inOrder (ops a ++ as.flatMap ops)) s
        ((NewAmong c ((list s).map title) [title (made a)] ∧ Good a) ∧ (rest ∧ ∀ a ∈ as, Good a))
        (fun s' => I s' ∧ list s' = list s ++ [made a] ++ as.map made) fun _ => True := by
      refine (hops s hs a).append fun s' _ hmade => ?_
      have hrest := ih hmade.1
      rw [hmade.2, List.map_append] at hrest
      exact hrest
    refine hboth.imp ?_ (fun s' _ h => ?_) fun _ _ h => h
    · rw [List.map_cons, List.map_cons, List.forall_mem_cons]
      exact and_and_and_comm.trans (and_congr_left' newAmong_cons.symm)
    · rw [List.map_cons]
      simpa using h

end UmlDiagrams
