import Mathlib.Data.List.Permutation
import UmlDiagrams.Proofs.Tree.Spelling

namespace UmlDiagrams

variable {τ α : Type} {P : τ → Prop} {S : Script τ}

/-- Everything can be written, by values with `P`. Lists and tables hold such values. -/
structure Script.Complete (S : Script τ) (P : τ → Prop) : Prop where
  text : ∀ s, ∃ value, P value ∧ S.IsText value s
  flag : ∀ b, ∃ value, P value ∧ S.IsFlag value b
  list : ∀ items, (∀ item ∈ items, P item) → ∃ value, P value ∧ S.IsList value items
  table : ∀ entries, (∀ e ∈ entries, P e.2) → ∃ value, P value ∧ S.IsTable value entries

namespace Field

variable {f : Field τ} {entries : List (String × τ)} {key : String} {value : τ}

/-- The value of the field is the usual one, or it can be written. -/
def Writable (P : τ → Prop) (f : Field τ) : Prop :=
  f.IsUsual ∨ ∃ value, P value ∧ f.IsWritten value

private theorem In.cons (h : f.In entries) (hkey : key ∉ f.names) :
    f.In ((key, value) :: entries) := by
  rcases h with ⟨husual, hnone⟩ | ⟨key', value', hone, hwritten⟩
  · exact .inl ⟨husual, List.forall_mem_cons.mpr ⟨hkey, hnone⟩⟩
  · refine .inr ⟨key', value', ?_, hwritten⟩
    rw [List.filter_cons_of_neg (by simpa using hkey), hone]

private theorem in_cons_self (hnone : ∀ e ∈ entries, e.1 ∉ f.names) (hwritten : f.IsWritten value) :
    f.In ((f.name, value) :: entries) := by
  refine .inr ⟨f.name, value, ?_, hwritten⟩
  rw [List.filter_cons_of_pos (by simp [names]), List.filter_eq_nil_iff.mpr]
  exact fun e he => by simpa using hnone e he

private theorem exists_entries {fields : List (Field τ)} (hdistinct : (fields.flatMap names).Nodup)
    (h : ∀ f ∈ fields, f.Writable P) :
    ∃ entries : List (String × τ), (∀ e ∈ entries, P e.2) ∧ (∀ f ∈ fields, f.In entries) ∧
      ∀ e ∈ entries, ∃ f ∈ fields, e.1 ∈ f.names := by
  induction fields with
  | nil => exact ⟨[], nofun, nofun, nofun⟩
  | cons f fields ih =>
    rw [List.flatMap_cons, List.nodup_append] at hdistinct
    obtain ⟨-, hrest, hapart⟩ := hdistinct
    have hapart (g : Field τ) (hg : g ∈ fields) (key : String) (hf : key ∈ f.names)
        (hkey : key ∈ g.names) : False :=
      hapart key hf key (List.mem_flatMap.mpr ⟨g, hg, hkey⟩) rfl
    obtain ⟨entries, hP, hin, hknown⟩ := ih hrest fun g hg => h g (List.mem_cons_of_mem _ hg)
    have hnone : ∀ e ∈ entries, e.1 ∉ f.names := by
      intro e he hkey
      obtain ⟨g, hg, hname⟩ := hknown e he
      exact hapart g hg e.1 hkey hname
    have hothers : ∀ e ∈ entries, ∃ g ∈ f :: fields, e.1 ∈ g.names := by
      intro e he
      obtain ⟨g, hg, hname⟩ := hknown e he
      exact ⟨g, List.mem_cons_of_mem _ hg, hname⟩
    rcases h f List.mem_cons_self with husual | ⟨value, hvalue, hwritten⟩
    · exact ⟨entries, hP, List.forall_mem_cons.mpr ⟨.inl ⟨husual, hnone⟩, hin⟩, hothers⟩
    · have hself : f.name ∈ f.names := List.mem_cons_self
      refine ⟨(f.name, value) :: entries, List.forall_mem_cons.mpr ⟨hvalue, hP⟩,
        List.forall_mem_cons.mpr ⟨in_cons_self hnone hwritten, fun g hg => ?_⟩,
        List.forall_mem_cons.mpr ⟨⟨f, List.mem_cons_self, hself⟩, hothers⟩⟩
      exact (hin g hg).cons fun hname => hapart g hg f.name hself hname

end Field

namespace Script.Complete

variable (hS : S.Complete P)
include hS

theorem spells {shape : Shape} {fields : List (Field τ)} (hshape : shape.Lists fields)
    (h : ∀ f ∈ fields, f.Writable P) (strict : Bool) :
    ∃ value, P value ∧ S.Spells strict fields value := by
  have hdistinct : (fields.flatMap Field.names).Nodup := by
    have halias : shape.aliases.map Prod.fst = fields.flatMap Field.aliases := by
      simp [hshape.aliases, List.map_flatMap, Function.comp_def]
    have hnames := hshape.distinct
    rw [hshape.names, halias] at hnames
    exact (List.map_append_flatMap_perm fields Field.name Field.aliases).nodup_iff.mp hnames
  obtain ⟨entries, hP, hin, hknown⟩ := Field.exists_entries hdistinct h
  obtain ⟨value, hvalue, htable⟩ := hS.table entries hP
  exact ⟨value, hvalue, entries, htable, hin, fun _ => hknown⟩

theorem textField (name s : String) : (S.text name s).Writable P :=
  .inr (hS.text s)

theorem flagField (name : String) (b : Bool) : (S.flag name b).Writable P :=
  .inr (hS.flag b)

theorem isChoice {spellings : List (String × α)} {a : α} (ha : a ∈ spellings.map Prod.snd) :
    ∃ value, P value ∧ S.IsChoice spellings value a := by
  obtain ⟨⟨word, a⟩, hmem, rfl⟩ := List.mem_map.mp ha
  obtain ⟨value, hvalue, htext⟩ := hS.text word
  exact ⟨value, hvalue, word, htext, hmem⟩

theorem choiceField (name : String) {spellings : List (String × α)} (usual : α) {a : α}
    (ha : a ∈ spellings.map Prod.snd) : (S.choice name spellings usual a).Writable P :=
  .inr (hS.isChoice ha)

omit hS in
theorem optionalField (name : String) {Is : τ → α → Prop}
    (his : ∀ a, ∃ value, P value ∧ Is value a) (a? : Option α) :
    (S.optional name Is a?).Writable P := by
  cases a? with
  | none => exact .inl rfl
  | some a => exact .inr (his a)

theorem listField (name : String) {Is : τ → α → Prop}
    (his : ∀ a, ∃ value, P value ∧ Is value a) (as : List α) :
    (S.list name Is as).Writable P := by
  have hitems : ∃ items : List τ, (∀ item ∈ items, P item) ∧ List.Forall₂ Is items as := by
    induction as with
    | nil => exact ⟨[], nofun, .nil⟩
    | cons a as ih =>
      obtain ⟨value, hvalue, ha⟩ := his a
      obtain ⟨items, hP, hall⟩ := ih
      exact ⟨value :: items, List.forall_mem_cons.mpr ⟨hvalue, hP⟩, .cons ha hall⟩
  obtain ⟨items, hP, hall⟩ := hitems
  obtain ⟨value, hvalue, hlist⟩ := hS.list items hP
  exact .inr ⟨value, hvalue, items, hlist, hall⟩

omit hS in
theorem recordField (name : String) (aliases : List String) (usual : α) {Is : τ → α → Prop}
    (his : ∀ a, ∃ value, P value ∧ Is value a) (a : α) :
    (Field.record name aliases usual Is a).Writable P :=
  .inr (his a)

end Script.Complete

end UmlDiagrams
