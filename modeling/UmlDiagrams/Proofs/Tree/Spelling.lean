import Mathlib.Data.List.Nodup
import UmlDiagrams.Tree.Reader
/-!
# Spelled tables

What a tree says by itself, whatever reads it. A table spells its fields in any order. It may leave
out a field that has its usual value, and it may use other names of a field.
-/

namespace UmlDiagrams

/-- How values are written in a data format. -/
structure Script (τ : Type) where
  IsText : τ → String → Prop
  IsFlag : τ → Bool → Prop
  IsNothing : τ → Prop
  IsList : τ → List τ → Prop
  IsTable : τ → List (String × τ) → Prop

/-- A field of a table with the value it is meant to have. -/
structure Field (τ : Type) where
  name : String
  aliases : List String := []
  /-- Whether this value is the usual one. -/
  IsUsual : Prop
  /-- Whether this value is written so. -/
  IsWritten : τ → Prop

namespace Field

variable {τ α : Type}

def names (f : Field τ) : List String :=
  f.name :: f.aliases

/-- The entries of a table give the field its value: by one entry, or if it is the usual one by
none. -/
def In (f : Field τ) (entries : List (String × τ)) : Prop :=
  (f.IsUsual ∧ ∀ e ∈ entries, e.1 ∉ f.names) ∨
    ∃ key value, (entries.filter fun e => e.1 ∈ f.names) = [(key, value)] ∧ f.IsWritten value

def record (name : String) (aliases : List String) (usual : α) (Is : τ → α → Prop) (a : α) :
    Field τ where
  name := name
  aliases := aliases
  IsUsual := a = usual
  IsWritten := (Is · a)

end Field

namespace Script

variable {τ α : Type} (S : Script τ)

/-- The value is a table of these fields, and of no others if the table is strict. -/
def Spells (strict : Bool) (fields : List (Field τ)) (value : τ) : Prop :=
  ∃ entries, S.IsTable value entries ∧ (∀ f ∈ fields, f.In entries) ∧
    (strict = true → ∀ e ∈ entries, ∃ f ∈ fields, e.1 ∈ f.names)

def IsChoice (spellings : List (String × α)) (value : τ) (a : α) : Prop :=
  ∃ word, S.IsText value word ∧ (word, a) ∈ spellings

def text (name s : String) : Field τ where
  name := name
  IsUsual := s = ""
  IsWritten := (S.IsText · s)

def flag (name : String) (b : Bool) : Field τ where
  name := name
  IsUsual := b = false
  IsWritten := (S.IsFlag · b)

def choice (name : String) (spellings : List (String × α)) (usual a : α) : Field τ where
  name := name
  IsUsual := a = usual
  IsWritten := (S.IsChoice spellings · a)

def optional (name : String) (Is : τ → α → Prop) (a? : Option α) : Field τ where
  name := name
  IsUsual := a? = none
  IsWritten value := match a? with
    | none => S.IsNothing value
    | some a => Is value a

def list (name : String) (Is : τ → α → Prop) (as : List α) : Field τ where
  name := name
  IsUsual := as = []
  IsWritten value := ∃ items, S.IsList value items ∧ List.Forall₂ Is items as

end Script

namespace Shape

variable {τ : Type} {shape : Shape} {fields : List (Field τ)} {entries found : List (String × τ)}
  {key name : String} {value : τ}

/-- The fields are those that a table of this shape may name. -/
structure Lists (shape : Shape) (fields : List (Field τ)) : Prop where
  names : shape.fields = fields.map Field.name
  aliases : shape.aliases = fields.flatMap fun f => f.aliases.map (·, f.name)
  distinct : (shape.fields ++ shape.aliases.map Prod.fst).Nodup

theorem lookup_of_mem {α β : Type} [BEq α] [LawfulBEq α] {l : List (α × β)} {a : α} {b : β}
    (hl : (l.map Prod.fst).Nodup) (h : (a, b) ∈ l) : l.lookup a = some b := by
  obtain ⟨front, back, rfl⟩ := List.append_of_mem h
  refine List.lookup_eq_some_iff.mpr ⟨front, back, rfl, fun p hp => ?_⟩
  rw [List.map_append, List.map_cons, List.nodup_middle, List.nodup_cons] at hl
  have hfront : p.1 ∈ front.map Prod.fst := List.mem_map_of_mem hp
  exact bne_iff_ne.mpr fun heq => hl.1 (List.mem_append_left _ (heq ▸ hfront))

private theorem field?_of_mem (h : shape.Lists fields) {f : Field τ} (hf : f ∈ fields)
    (hkey : key ∈ f.names) : shape.field? key = some f.name := by
  have hname : f.name ∈ shape.fields := by
    rw [h.names]
    exact List.mem_map_of_mem hf
  rw [field?]
  rcases List.mem_cons.mp hkey with rfl | halias
  · rw [if_pos hname]
  · have hmem : (key, f.name) ∈ shape.aliases := by
      rw [h.aliases]
      exact List.mem_flatMap.mpr ⟨f, hf, List.mem_map_of_mem halias⟩
    have hdistinct := List.nodup_append.mp h.distinct
    have hkey : key ∉ shape.fields := fun hkey =>
      hdistinct.2.2 key hkey key (List.mem_map_of_mem hmem) rfl
    rw [if_neg hkey]
    exact lookup_of_mem hdistinct.2.1 hmem

private theorem mem_of_field? (h : shape.Lists fields) (hkey : shape.field? key = some name) :
    ∃ f ∈ fields, f.name = name ∧ key ∈ f.names := by
  rw [field?] at hkey
  by_cases hmem : key ∈ shape.fields
  · rw [if_pos hmem] at hkey
    rw [h.names] at hmem
    obtain ⟨f, hf, rfl⟩ := List.mem_map.mp hmem
    exact ⟨f, hf, Option.some.inj hkey, List.mem_cons_self⟩
  · rw [if_neg hmem] at hkey
    obtain ⟨front, back, hsplit, -⟩ := List.lookup_eq_some_iff.mp hkey
    have halias : (key, name) ∈ shape.aliases := hsplit ▸ List.mem_append_right _ List.mem_cons_self
    rw [h.aliases] at halias
    obtain ⟨f, hf, halias⟩ := List.mem_flatMap.mp halias
    obtain ⟨a, ha, heq⟩ := List.mem_map.mp halias
    cases heq
    exact ⟨f, hf, rfl, List.mem_cons_of_mem _ ha⟩

theorem field?_eq_none (hfield : key ∉ shape.fields) (halias : key ∉ shape.aliases.map Prod.fst) :
    shape.field? key = none := by
  rw [field?, if_neg hfield, List.lookup_eq_none_iff]
  intro p hp
  refine bne_iff_ne.mpr fun heq => halias ?_
  exact heq ▸ List.mem_map_of_mem hp

private theorem field?_eq_iff (h : shape.Lists fields) {f : Field τ} (hf : f ∈ fields) :
    shape.field? key = some f.name ↔ key ∈ f.names := by
  constructor
  · intro hkey
    obtain ⟨g, hg, hname, hkey⟩ := mem_of_field? h hkey
    have hnodup : (fields.map Field.name).Nodup := h.names ▸ (List.nodup_append.mp h.distinct).1
    rw [← List.inj_on_of_nodup_map hnodup hg hf hname]
    exact hkey
  · exact field?_of_mem h hf

private theorem collect?_cons : shape.collect? ((key, value) :: entries) = some found ↔
    ∃ rest, shape.collect? entries = some rest ∧
      match shape.field? key with
      | none => shape.strict = false ∧ found = rest
      | some name => rest.lookup name = none ∧ found = (name, value) :: rest := by
  rw [collect?]
  cases shape.collect? entries with
  | none => simp
  | some rest =>
    cases shape.field? key with
    | none => cases shape.strict <;> simp [@eq_comm _ found]
    | some name =>
      cases hlookup : rest.lookup name <;>
        simp [hlookup, @eq_comm _ found, -List.lookup_eq_none_iff]

def naming (shape : Shape) (entries : List (String × τ)) (name : String) : List (String × τ) :=
  entries.filter fun e => shape.field? e.1 = some name

/-- If every field is named at most once, the fields that are named are collected. -/
private theorem collect?_found
    (hstrict : shape.strict = true → ∀ e ∈ entries, (shape.field? e.1).isSome)
    (honce : ∀ name, (shape.naming entries name).length ≤ 1) :
    ∃ found, shape.collect? entries = some found ∧
      ∀ name, found.lookup name = (shape.naming entries name).head?.map Prod.snd := by
  induction entries with
  | nil => exact ⟨[], rfl, fun _ => rfl⟩
  | cons e entries ih =>
    obtain ⟨key, value⟩ := e
    have hrest (name : String) : (shape.naming entries name).length ≤ 1 :=
      Nat.le_trans ((List.sublist_cons_self _ _).filter _).length_le (honce name)
    obtain ⟨rest, hcollect, hlookup⟩ :=
      ih (fun h e he => hstrict h e (List.mem_cons_of_mem _ he)) hrest
    cases hfield : shape.field? key with
    | none =>
      have hloose : shape.strict = false := by
        by_contra hs
        have hsome := hstrict (by simpa using hs) _ List.mem_cons_self
        rw [hfield] at hsome
        cases hsome
      refine ⟨rest, collect?_cons.mpr ⟨rest, hcollect, ?_⟩, fun name => ?_⟩
      · rw [hfield]
        exact ⟨hloose, rfl⟩
      · rw [hlookup, naming, naming, List.filter_cons_of_neg (by simp [hfield])]
    | some field =>
      have hnaming : shape.naming ((key, value) :: entries) field =
          (key, value) :: shape.naming entries field :=
        List.filter_cons_of_pos (by simp [hfield])
      -- The entry is the one that names its field, so none of the others does.
      have hnew : rest.lookup field = none := by
        have hlen := honce field
        rw [hnaming, List.length_cons] at hlen
        rw [hlookup, List.length_eq_zero_iff.mp (Nat.le_zero.mp (Nat.le_of_succ_le_succ hlen))]
        rfl
      refine ⟨(field, value) :: rest, collect?_cons.mpr ⟨rest, hcollect, ?_⟩, fun name => ?_⟩
      · rw [hfield]
        exact ⟨hnew, rfl⟩
      · by_cases hname : name = field
        · rw [hname, List.lookup_cons_self, hnaming]
          rfl
        · have hskip : shape.naming ((key, value) :: entries) name = shape.naming entries name :=
            List.filter_cons_of_neg (by simp [hfield, Ne.symm hname])
          rw [hskip, ← hlookup, List.lookup_cons, beq_false_of_ne hname]

theorem field?_isSome_of_collect? (h : shape.collect? entries = some found)
    (hstrict : shape.strict = true) : ∀ e ∈ entries, (shape.field? e.1).isSome := by
  induction entries generalizing found with
  | nil => exact nofun
  | cons e entries ih =>
    obtain ⟨key, value⟩ := e
    obtain ⟨rest, hrest, hfound⟩ := collect?_cons.mp h
    refine List.forall_mem_cons.mpr ⟨?_, ih hrest⟩
    cases hfield : shape.field? key with
    | none =>
      rw [hfield, hstrict] at hfound
      cases hfound.1
    | some name => rfl

theorem lookup_of_collect? (h : shape.collect? entries = some found) (he : (key, value) ∈ entries)
    (hkey : shape.field? key = some name) : found.lookup name = some value := by
  induction entries generalizing found with
  | nil => cases he
  | cons e entries ih =>
    obtain ⟨key', value'⟩ := e
    obtain ⟨rest, hrest, hfound⟩ := collect?_cons.mp h
    rcases List.mem_cons.mp he with heq | he
    · cases heq
      rw [hkey] at hfound
      rw [hfound.2, List.lookup_cons_self]
    · have hlookup := ih hrest he
      cases hfield : shape.field? key' with
      | none =>
        rw [hfield] at hfound
        rw [hfound.2, hlookup]
      | some name' =>
        rw [hfield] at hfound
        have hne : name ≠ name' := by
          rintro rfl
          rw [hfound.1] at hlookup
          cases hlookup
        rw [hfound.2, List.lookup_cons, beq_false_of_ne hne, hlookup]

end Shape

def Field.Found {τ : Type} (f : Field τ) (found : List (String × τ)) : Prop :=
  (f.IsUsual ∧ found.lookup f.name = none) ∨
    ∃ value, found.lookup f.name = some value ∧ f.IsWritten value

theorem Shape.found_of_in {τ : Type} {shape : Shape} {fields : List (Field τ)}
    {entries : List (String × τ)}
    (hshape : shape.Lists fields) (hin : ∀ f ∈ fields, f.In entries)
    (hknown : shape.strict = true → ∀ e ∈ entries, ∃ f ∈ fields, e.1 ∈ f.names) :
    ∃ found, shape.collect? entries = some found ∧ ∀ f ∈ fields, f.Found found := by
  have hnaming (f : Field τ) (hf : f ∈ fields) :
      shape.naming entries f.name = entries.filter fun e => e.1 ∈ f.names :=
    List.filter_congr fun e _ => decide_eq_decide.mpr (field?_eq_iff hshape hf)
  have honce (name : String) : (shape.naming entries name).length ≤ 1 := by
    by_cases hname : ∃ f ∈ fields, f.name = name
    · obtain ⟨f, hf, rfl⟩ := hname
      rw [hnaming f hf]
      rcases hin f hf with ⟨-, hnone⟩ | ⟨key, value, hone, -⟩
      · rw [List.filter_eq_nil_iff.mpr fun e he => by simpa using hnone e he]
        exact Nat.zero_le 1
      · rw [hone]
        exact Nat.le_refl 1
    · rw [naming, List.filter_eq_nil_iff.mpr fun e _ hfield => ?_]
      · exact Nat.zero_le 1
      · obtain ⟨f, hf, heq, -⟩ := mem_of_field? hshape (of_decide_eq_true hfield)
        exact hname ⟨f, hf, heq⟩
  obtain ⟨found, hcollect, hlookup⟩ := collect?_found (fun hs e he => by
    obtain ⟨f, hf, hkey⟩ := hknown hs e he
    rw [field?_of_mem hshape hf hkey]
    rfl) honce
  refine ⟨found, hcollect, fun f hf => ?_⟩
  have hfound := hlookup f.name
  rw [hnaming f hf] at hfound
  rcases hin f hf with ⟨husual, hnone⟩ | ⟨key, value, hone, hwritten⟩
  · rw [List.filter_eq_nil_iff.mpr fun e he => by simpa using hnone e he] at hfound
    exact .inl ⟨husual, hfound⟩
  · rw [hone] at hfound
    exact .inr ⟨value, hfound, hwritten⟩

end UmlDiagrams
