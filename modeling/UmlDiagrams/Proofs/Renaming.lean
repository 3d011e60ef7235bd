import Mathlib.Logic.Equiv.Basic
import UmlDiagrams.Proofs.Relabeling
/-!
# Renamed diagrams

Diagrams of different kinds call their collections by different names, and number their records each
for itself. A renaming tells, one to one, which collection of one diagram answers to which of
another, and which of their identifiers have the same number.
-/

namespace UmlDiagrams

structure Renaming where
  collection : Equiv.Perm Collection
  kind : Equiv.Perm Kind

namespace Renaming

variable (ρ : Renaming)

def record (id : Id) : Id :=
  ⟨ρ.kind id.kind, id.serial⟩

/-- What a renaming calls the collections and the records. -/
def labels : Relabeling where
  collection := ρ.collection
  record := ρ.record

def rejection : Rejection → Rejection :=
  ρ.labels.rejection

def reply : Reply → Reply :=
  ρ.labels.reply

theorem record_injective : Function.Injective ρ.record := by
  intro i j h
  obtain ⟨hkind, hserial⟩ := Id.mk.inj h
  cases i
  cases j
  cases ρ.kind.injective hkind
  cases hserial
  rfl

/-- Renames the first collection of each pair to the second, and one kind of record to another. The
names that are taken this way are given up in exchange. -/
def exchange (kind kind' : Kind) (collections : List (Collection × Collection)) : Renaming where
  collection := collections.foldr (fun pair rest => (Equiv.swap pair.1 pair.2).trans rest) (.refl _)
  kind := Equiv.swap kind kind'

theorem exchange_record_record {kind kind' : Kind} {collections : List (Collection × Collection)}
    (hρ : ρ = exchange kind kind' collections) (id : Id) : ρ.record (ρ.record id) = id := by
  simp [hρ, exchange, record]

variable {ρ} in
theorem memberName_renamed {c : Collection} {name : String} :
    memberName (ρ.collection c) name = outcomeImage ρ.rejection id (memberName c name) :=
  ρ.labels.memberName_eq c name

end Renaming

end UmlDiagrams
