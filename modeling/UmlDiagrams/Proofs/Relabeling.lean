import Mathlib.Data.List.Basic
import Mathlib.Data.List.InsertIdx
import UmlDiagrams.Graph.Edits
import UmlDiagrams.Proofs.Simulation
import UmlDiagrams.Reply

namespace UmlDiagrams

/-- What the collections and the records of one diagram are called in another. -/
structure Relabeling where
  collection : Collection → Collection
  record : Id → Id

namespace Relabeling

def ofRecords (record : Id → Id) : Relabeling where
  collection c := c
  record := record

variable (ρ : Relabeling)

def reference : Reference → Reference
  | .name text => .name text
  | .id id => .id (ρ.record id)

def rejection : Rejection → Rejection
  | .emptyName c => .emptyName (ρ.collection c)
  | .duplicateName c name => .duplicateName (ρ.collection c) name
  | .nameClash c other name => .nameClash (ρ.collection c) (ρ.collection other) name
  | .duplicateEdge c => .duplicateEdge (ρ.collection c)
  | .notEnoughNodes c needed found => .notEnoughNodes (ρ.collection c) needed found
  | .unknownEndpoint c endpoint => .unknownEndpoint (ρ.collection c) (ρ.reference endpoint)
  | .unknownRecord c id => .unknownRecord (ρ.collection c) (ρ.record id)
  | .indexOutOfRange c index length => .indexOutOfRange (ρ.collection c) index length
  | .invalidColor value => .invalidColor value

def reply : Reply → Reply
  | .created id => .created (ρ.record id)
  | other => other

variable {c : Collection} {names : List String} {name : String}

/-- A name is new in either collection or in none if it is told apart from the same names. -/
theorem newName_eq
    (h : ∀ n ∈ names, printKey (ρ.collection c) n = printKey (ρ.collection c) (Text.trim name) ↔
      printKey c n = printKey c (Text.trim name)) :
    newName (ρ.collection c) names name = outcomeImage ρ.rejection id (newName c names name) := by
  have hlike : printsLike (ρ.collection c) names (Text.trim name) =
      printsLike c names (Text.trim name) := by
    rw [Bool.eq_iff_iff]
    simp only [printsLike, List.any_eq_true, beq_iff_eq]
    exact exists_congr fun n => and_congr_right fun hn => h n hn
  simp only [newName, hlike]
  by_cases he : (Text.trim name).isEmpty
  · rw [if_pos he, if_pos he]
    rfl
  · rw [if_neg he, if_neg he]
    cases printsLike c names (Text.trim name) <;> rfl

theorem memberName_eq (c : Collection) (name : String) :
    memberName (ρ.collection c) name = outcomeImage ρ.rejection id (memberName c name) := by
  simp only [memberName]
  by_cases he : (Text.trim name).isEmpty
  · rw [if_pos he, if_pos he]
    rfl
  · rw [if_neg he, if_neg he]
    rfl

theorem requireNodes_eq (needed found : Nat) :
    requireNodes (ρ.collection c) needed found =
      outcomeImage ρ.rejection id (requireNodes c needed found) := by
  rw [requireNodes, requireNodes]
  by_cases h : found < needed <;> simp only [h, if_true, if_false] <;> rfl

theorem pickEnd_eq {κ κ' : Type} [DecidableEq κ] [DecidableEq κ'] {key : κ → κ'}
    {reference : κ → Reference} {reference' : κ' → Reference} (hkey : Function.Injective key)
    (hreference : ∀ k, reference' (key k) = ρ.reference (reference k)) (keys : List κ)
    (requested : Option κ) (position : Nat) :
    pickEnd (ρ.collection c) reference' (keys.map key) (requested.map key) position =
      outcomeImage ρ.rejection key (pickEnd c reference keys requested position) := by
  cases requested with
  | some k =>
    have hmem : key k ∈ keys.map key ↔ k ∈ keys := List.mem_map_of_injective hkey
    simp only [pickEnd, Option.map_some, hmem, hreference]
    by_cases hk : k ∈ keys <;> simp only [hk, if_true, if_false] <;> rfl
  | none =>
    simp only [pickEnd, Option.map_none, List.getElem?_map, List.length_map]
    cases keys[position]? <;> rfl

theorem takeMember_eq {α α' : Type} (f : α → α') (members : List α) (index : Nat) :
    Graph.takeMember (ρ.collection c) (members.map f) index =
      outcomeImage ρ.rejection (Prod.map f (List.map f)) (Graph.takeMember c members index) := by
  rw [Graph.takeMember, Graph.takeMember, List.getElem?_map, List.length_map]
  cases members[index]? with
  | some member =>
    dsimp only [Option.map_some, outcomeImage, Except.map, Except.mapError, Prod.map]
    rw [List.eraseIdx_map]
  | none => rfl

/-- The outcome names nothing that has another name. -/
def Fixes {α : Type} (outcome : Except Rejection α) : Prop :=
  outcome = outcomeImage ρ.rejection id outcome

theorem Fixes.bind {α β : Type} {x : Except Rejection α} {y : α → Except Rejection β}
    (hx : ρ.Fixes x) (hy : ∀ a, ρ.Fixes (y a)) : ρ.Fixes (x >>= y) := by
  cases x with
  | ok a => exact hy a
  | error e => exact congrArg Except.error (Except.error.inj hx)

variable (record : Id → Id)

theorem fixes_newName (c : Collection) (names : List String) (name : String) :
    (ofRecords record).Fixes (newName c names name) :=
  newName_eq (ofRecords record) fun _ _ => Iff.rfl

theorem fixes_memberName (c : Collection) (name : String) :
    (ofRecords record).Fixes (memberName c name) :=
  memberName_eq (ofRecords record) c name

theorem fixes_requireDistinct (c other : Collection) (others : List String) (name : String) :
    (ofRecords record).Fixes (requireDistinct c other others name) := by
  rw [Fixes, requireDistinct]
  cases others.any fun n => printKey other n == printKey c name <;> rfl

theorem fixes_requireNodes (c : Collection) (needed found : Nat) :
    (ofRecords record).Fixes (requireNodes c needed found) :=
  requireNodes_eq (ofRecords record) needed found

theorem fixes_pickEnd (c : Collection) (names : List String) (requested : Option String)
    (position : Nat) : (ofRecords record).Fixes (pickEnd c .name names requested position) := by
  have hreference (n : String) : Reference.name (id n) = (ofRecords record).reference (.name n) :=
    rfl
  have hpick := (ofRecords record).pickEnd_eq (c := c) Function.injective_id hreference names
    requested position
  rw [List.map_id, Option.map_id_fun] at hpick
  exact hpick

end Relabeling

end UmlDiagrams
