import UmlDiagrams.Proofs.Source.Outline
import UmlDiagrams.Proofs.Source.Store

namespace UmlDiagrams

open Text

private theorem breaks_labelSuffix (label : String) : Breaks (labelSuffix label) := by
  rw [labelSuffix]
  split
  · decide
  · exact breaks_append (by decide) (by decide) _

private theorem fold_eq_of_labelSuffix {a b : String} (h : labelSuffix a = labelSuffix b) :
    fold a = fold b := by
  have hne (s : String) : " : " ++ fold s ≠ "" := by
    intro h
    rw [String.append_eq_empty_iff] at h
    exact absurd h.1 (by decide)
  simp only [labelSuffix, String.isEmpty_iff] at h
  split at h
  · rename_i ha
    split at h
    · rename_i hb
      rw [ha, hb]
    · exact absurd h.symm (hne b)
  · split at h
    · exact absurd h (hne a)
    · exact (String.append_right_inj _).mp h

private theorem Arrow.symbol_injective : Function.Injective Arrow.symbol := by
  intro a b
  cases a <;> cases b <;> decide

private theorem ClassRelation.symbol_injective : Function.Injective ClassRelation.symbol := by
  intro a b
  cases a <;> cases b <;> decide

private theorem ErRelation.symbol_injective : Function.Injective ErRelation.symbol := by
  intro a b
  cases a <;> cases b <;> decide

private theorem Arrow.oneWord_symbol (a : Arrow) : OneWord a.symbol := by
  cases a <;> decide

private theorem ClassRelation.oneWord_symbol (r : ClassRelation) : OneWord r.symbol := by
  cases r <;> decide

private theorem ErRelation.oneWord_symbol (r : ErRelation) : OneWord r.symbol := by
  cases r <;> decide

private theorem nameLayout_shows {ε ε' : Type} {word : String} {print : String → String}
    {symbol suffix : ε → String} {edge : ε → ε'} (hword : OneLine word) (hprint : IsToken print)
    (hsymbol : ∀ d, OneWord (symbol d))
    (hsuffix : ∀ d, OneLine (suffix d) ∧ Breaks (suffix d))
    (hedge : ∀ d d', symbol d = symbol d' → suffix d = suffix d' → edge d = edge d') :
    (nameLayout word print symbol suffix).Shows (fun n => [word ++ print n]) print edge where
  readable := ⟨hprint, fun _ => hword, List.not_mem_nil, hsymbol, hsuffix⟩
  rest _ := List.forall_mem_nil _
  separable := separable_singleton _
  node m n h := by
    have hline : word ++ print m = word ++ print n := (List.cons.inj h).1
    have hname := (String.append_right_inj word).mp hline
    exact ⟨hname, hname⟩
  edge := hedge

private theorem recordLayout_shows {ν ν' ε ε' : Type} {name opening : ν → String}
    {symbol label : ε → String} {inner : ν → List String} {node : ν → ν'} {edge : ε → ε'}
    (hopening : ∀ n, OneLine (opening n))
    (hinner : ∀ n, ∀ l ∈ inner n, Unbroken l ∧ l ≠ "" ∧ l ≠ "\x7d")
    (hsymbol : ∀ d, OneWord (symbol d))
    (hnode : ∀ m n, opening m ++ quoted (name m) = opening n ++ quoted (name n) →
      inner m = inner n → quoted (name m) = quoted (name n) ∧ node m = node n)
    (hedge : ∀ d d', symbol d = symbol d' → fold (label d) = fold (label d') → edge d = edge d') :
    (recordLayout name opening symbol label).Shows
      (fun n => (opening n ++ quoted (name n) ++ " \x7b") :: inner n ++ ["\x7d"]) node edge where
  readable := ⟨quoted_isToken.comp name, hopening, (by decide : OneLine " \x7b"), hsymbol,
    fun d => ⟨oneLine_labelSuffix _, breaks_labelSuffix _⟩⟩
  rest n l hl := by
    rcases List.mem_append.mp hl with hl | hl
    · exact ⟨(hinner n l hl).1.oneLine, (hinner n l hl).2.1⟩
    · rw [List.mem_singleton.mp hl]
      exact ⟨by decide, by decide⟩
  separable := by
    refine separable_of_last fun n hm => ?_
    rcases List.mem_cons.mp hm with hm | hm
    · have hlength := congrArg String.length hm
      have hbrace : "\x7d".length = 1 := rfl
      have hclosing : " \x7b".length = 2 := rfl
      rw [String.length_append] at hlength
      omega
    · exact (hinner n _ hm).2.2 rfl
  node m n h := by
    obtain ⟨hhead, hinner⟩ := List.cons.inj (List.append_cancel_right h)
    exact hnode m n ((String.append_left_inj _).mp hhead) hinner
  edge d d' hsymbol hsuffix := hedge d d' hsymbol (fold_eq_of_labelSuffix hsuffix)

namespace SequenceDiagram

def outline (d : SequenceDiagram) : Outline String (Arrow × String) :=
  Graph.outline rules participant (fun m => (m.arrow, fold m.text)) d

theorem layout_shows : layout.Shows (fun n => ["actor " ++ participant n]) participant
    fun m => (m.arrow, fold m.text) := by
  refine nameLayout_shows (by decide) participant_isToken (fun m => m.arrow.oneWord_symbol)
    (fun m => ⟨?_, breaks_append (by decide) (by decide) _⟩) fun m m' hsymbol hsuffix => ?_
  · exact oneLine_append.mpr ⟨by decide, oneLine_fold _⟩
  · rw [Arrow.symbol_injective hsymbol, (String.append_right_inj _).mp hsuffix]

theorem written {d : SequenceDiagram} (h : d.Sound rules IsName) :
    d.Written rules layout (fun n => ["actor " ++ participant n]) d.body :=
  ⟨h.keys, body_resolves h, rfl, rfl⟩

end SequenceDiagram

structure ClassOutline where
  isAbstract : Bool
  name : String
  members : List String
deriving DecidableEq, Repr

namespace ClassRecord

def memberLines (c : ClassRecord) : List String :=
  c.attributes.map ClassAttribute.line ++ c.methods.map ClassMethod.line

def outline (c : ClassRecord) : ClassOutline :=
  ⟨c.isAbstract, quoted c.name, c.memberLines⟩

def innerLines (c : ClassRecord) : List String :=
  c.attributes.map ClassAttribute.line ++
    (if c.attributes.isEmpty || c.methods.isEmpty then [] else ["  --"]) ++
    c.methods.map ClassMethod.line

theorem block_eq (c : ClassRecord) :
    c.block = (flagged c.isAbstract "abstract " ++ "class " ++ quoted c.name ++ " \x7b") ::
      c.innerLines ++ ["\x7d"] := by
  simp [block, innerLines]

variable {c : ClassRecord} {l : String}

private theorem unbroken_of_mem_memberLines (h : l ∈ c.memberLines) : Unbroken l := by
  rcases List.mem_append.mp h with h | h
  · obtain ⟨a, -, rfl⟩ := List.mem_map.mp h
    exact a.unbroken_line
  · obtain ⟨m, -, rfl⟩ := List.mem_map.mp h
    exact m.unbroken_line

theorem visibility_of_mem_memberLines (h : l ∈ c.memberLines) :
    ∃ (v : Visibility) (rest : String), l = "  " ++ (v.symbol ++ (" " ++ rest)) := by
  rcases List.mem_append.mp h with h | h
  · obtain ⟨a, -, rfl⟩ := List.mem_map.mp h
    simp only [ClassAttribute.line, String.append_assoc]
    exact ⟨a.visibility, _, rfl⟩
  · obtain ⟨m, -, rfl⟩ := List.mem_map.mp h
    simp only [ClassMethod.line, String.append_assoc]
    exact ⟨m.visibility, _, rfl⟩

private theorem ne_of_mem_memberLines (h : l ∈ c.memberLines) :
    l ≠ "" ∧ l ≠ "\x7d" ∧ l ≠ "  --" := by
  obtain ⟨v, rest, rfl⟩ := visibility_of_mem_memberLines h
  refine ⟨?_, ?_, ?_⟩
  all_goals
    intro heq
    have hchars := congrArg String.toList heq
    cases v <;> simp [Visibility.symbol] at hchars

theorem mem_innerLines (h : l ∈ c.innerLines) : l ∈ c.memberLines ∨ l = "  --" := by
  simp only [innerLines, List.mem_append] at h
  rcases h with (h | h) | h
  · exact .inl (List.mem_append_left _ h)
  · split at h
    · cases h
    · exact .inr (List.mem_singleton.mp h)
  · exact .inl (List.mem_append_right _ h)

theorem innerLines_proper (h : l ∈ c.innerLines) : Unbroken l ∧ l ≠ "" ∧ l ≠ "\x7d" := by
  rcases mem_innerLines h with h | rfl
  · have hne := ne_of_mem_memberLines h
    exact ⟨unbroken_of_mem_memberLines h, hne.1, hne.2.1⟩
  · decide

private theorem filter_innerLines (c : ClassRecord) :
    c.innerLines.filter (fun l => l ≠ "  --") = c.memberLines := by
  have hkeep : ∀ l ∈ c.memberLines, decide (l ≠ "  --") = true :=
    fun l hl => decide_eq_true (ne_of_mem_memberLines hl).2.2
  rw [memberLines, List.forall_mem_append] at hkeep
  rw [innerLines, List.filter_append, List.filter_append, List.filter_eq_self.mpr hkeep.1,
    List.filter_eq_self.mpr hkeep.2, memberLines]
  split <;> simp

private theorem declaration_inj {c' : ClassRecord}
    (h : flagged c.isAbstract "abstract " ++ "class " ++ quoted c.name =
      flagged c'.isAbstract "abstract " ++ "class " ++ quoted c'.name) :
    c.isAbstract = c'.isAbstract ∧ quoted c.name = quoted c'.name := by
  have hchars := congrArg String.toList h
  cases ha : c.isAbstract <;> cases ha' : c'.isAbstract <;> rw [ha, ha'] at h hchars
  · exact ⟨rfl, (String.append_right_inj _).mp h⟩
  · simp [flagged] at hchars
  · simp [flagged] at hchars
  · exact ⟨rfl, (String.append_right_inj _).mp h⟩

end ClassRecord

namespace ClassDiagram

def outline (d : ClassDiagram) : Outline ClassOutline (ClassRelation × String) :=
  Graph.outline rules ClassRecord.outline (fun r => (r.kind, fold r.label)) d

theorem layout_shows : layout.Shows ClassRecord.block ClassRecord.outline
    fun r => (r.kind, fold r.label) := by
  rw [funext ClassRecord.block_eq]
  refine recordLayout_shows (fun c => ?_) (fun c l => ClassRecord.innerLines_proper)
    (fun r => r.kind.oneWord_symbol) (fun c c' hhead hinner => ?_) fun r r' hsymbol hlabel => ?_
  · exact oneLine_append.mpr ⟨oneLine_flagged (by decide), by decide⟩
  · obtain ⟨habstract, hname⟩ := ClassRecord.declaration_inj hhead
    have hmembers : c.memberLines = c'.memberLines := by
      rw [← c.filter_innerLines, hinner, c'.filter_innerLines]
    refine ⟨hname, ?_⟩
    rw [ClassRecord.outline, ClassRecord.outline, habstract, hname, hmembers]
  · rw [ClassRelation.symbol_injective hsymbol, hlabel]

theorem written {d : ClassDiagram} (h : d.Sound rules ClassRecord.Named) :
    d.Written rules layout ClassRecord.block d.body :=
  ⟨h.keys, body_resolves h, rfl, rfl⟩

end ClassDiagram

structure EntityOutline where
  name : String
  attributes : List String
deriving DecidableEq, Repr

namespace EntityRecord

def attributeLines (e : EntityRecord) : List String :=
  e.attributes.map EntityAttribute.line

def outline (e : EntityRecord) : EntityOutline :=
  ⟨quoted e.name, e.attributeLines⟩

theorem block_eq (e : EntityRecord) :
    e.block = ("entity " ++ quoted e.name ++ " \x7b") :: e.attributeLines ++ ["\x7d"] := rfl

theorem attributeLines_proper {e : EntityRecord} {l : String} (h : l ∈ e.attributeLines) :
    Unbroken l ∧ l ≠ "" ∧ l ≠ "\x7d" := by
  obtain ⟨a, -, rfl⟩ := List.mem_map.mp h
  refine ⟨a.unbroken_line, ?_, ?_⟩
  all_goals
    intro heq
    have hchars := congrArg String.toList heq
    simp [EntityAttribute.line] at hchars

end EntityRecord

namespace EntityDiagram

def outline (d : EntityDiagram) : Outline EntityOutline (ErRelation × String) :=
  Graph.outline rules EntityRecord.outline (fun r => (r.kind, fold r.label)) d

theorem layout_shows : layout.Shows EntityRecord.block EntityRecord.outline
    fun r => (r.kind, fold r.label) := by
  rw [funext EntityRecord.block_eq]
  refine recordLayout_shows (fun e => by decide) (fun e l => EntityRecord.attributeLines_proper)
    (fun r => r.kind.oneWord_symbol) (fun e e' hhead hinner => ?_) fun r r' hsymbol hlabel => ?_
  · have hname := (String.append_right_inj _).mp hhead
    refine ⟨hname, ?_⟩
    rw [EntityRecord.outline, EntityRecord.outline, hname, hinner]
  · rw [ErRelation.symbol_injective hsymbol, hlabel]

theorem written {d : EntityDiagram} (h : d.Sound rules EntityRecord.Named) :
    d.Written rules layout EntityRecord.block d.body :=
  ⟨h.keys, body_resolves h, rfl, rfl⟩

end EntityDiagram

namespace FlowDiagram

def activityOutline (d : FlowDiagram) : Outline String Unit :=
  Graph.outline activityRules quoted id d

def componentOutline (d : FlowDiagram) : Outline String Unit :=
  Graph.outline componentRules bracketed id d

theorem layout_shows {word : String} {print : String → String} (hword : OneLine word)
    (hprint : IsToken print) :
    (nameLayout word print (fun _ : Unit => "-->") fun _ => "").Shows
      (fun n => [word ++ print n]) print id :=
  nameLayout_shows hword hprint (fun _ => by decide) (fun _ => by decide)
    fun _ _ _ _ => rfl

theorem activity_written {d : FlowDiagram} (h : d.Sound activityRules IsName) :
    d.Written activityRules activityLayout (fun n => ["action " ++ quoted n])
      (d.body "action " quoted) :=
  ⟨h.keys, activity_resolves h, rfl, rfl⟩

theorem component_written {d : FlowDiagram} (h : d.Sound componentRules IsName) :
    d.Written componentRules componentLayout (fun n => ["" ++ bracketed n])
      (d.body "" bracketed) :=
  ⟨h.keys, component_resolves h, rfl, rfl⟩

end FlowDiagram

namespace StateDiagram

def outline (d : StateDiagram) : Outline String String :=
  Graph.outline rules quoted fold d

theorem layout_shows : layout.Shows (fun n => ["state " ++ quoted n]) quoted fold :=
  nameLayout_shows (by decide) quoted_isToken (fun _ => by decide)
    (fun event => ⟨oneLine_labelSuffix event, breaks_labelSuffix event⟩)
    fun _ _ _ hsuffix => fold_eq_of_labelSuffix hsuffix

theorem written {d : StateDiagram} (h : d.Sound rules IsName) :
    d.Written rules layout (fun n => ["state " ++ quoted n]) d.body :=
  ⟨h.keys, body_resolves h, rfl, rfl⟩

end StateDiagram

end UmlDiagrams
