import UmlDiagrams.Proofs.Source.Count
/-!
# What stands alone on a line

The renderer does not look at the blanks around a line. The first line of the source opens it, the
last one closes it, and a brace alone on its line closes a block. The text of the user stands behind
something else on every line but those of the attributes of entities.
-/

namespace UmlDiagrams

open Text

def frameWords : List String :=
  ["@startuml", "@enduml", "\x7d"]

/-- A line that neither opens nor closes anything. -/
def Harmless (l : String) : Prop :=
  trim l ∉ frameWords

instance (l : String) : Decidable (Harmless l) :=
  inferInstanceAs (Decidable (trim l ∉ frameWords))

/-- No line of the frame begins with the leading character of the text. -/
def LeadsApart (s : String) : Prop :=
  ∃ c, lead? s = some c ∧ c ≠ '@' ∧ c ≠ '\x7d'

private theorem LeadsApart.append {a : String} (h : LeadsApart a) (b : String) :
    LeadsApart (a ++ b) := by
  obtain ⟨c, hlead, hc⟩ := h
  exact ⟨c, lead?_append hlead b, hc⟩

private theorem LeadsApart.harmless {l : String} (h : LeadsApart l) : Harmless l := by
  obtain ⟨c, hlead, hat, hbrace⟩ := h
  rw [← head?_trim] at hlead
  intro hword
  simp only [frameWords, List.mem_cons, List.not_mem_nil, or_false] at hword
  rcases hword with hword | hword | hword
  all_goals
    rw [hword] at hlead
    cases hlead
    contradiction

private theorem leadsApart_quoted (s : String) : LeadsApart (quoted s) := by
  refine ⟨'"', ?_, by decide⟩
  rw [lead?, quoted_toList]
  rfl

private theorem leadsApart_bracketed (s : String) : LeadsApart (bracketed s) := by
  refine ⟨'[', ?_, by decide⟩
  rw [lead?, bracketed_toList]
  rfl

private theorem leadsApart_participant (s : String) : LeadsApart (participant s) := by
  rw [participant]
  by_cases hplain : isPlain s
  · rw [if_pos hplain]
    cases hlist : s.toList with
    | nil =>
      rw [String.toList_inj.mp (hlist.trans String.toList_empty.symm)] at hplain
      exact absurd hplain (by decide)
    | cons c cs =>
      have hc : isPlainChar c := isPlainChar_of_isPlain hplain c (hlist ▸ List.mem_cons_self)
      refine ⟨c, ?_, ?_, ?_⟩
      · rw [lead?, hlist, List.dropWhile_cons_of_neg (not_isBlank_of_isPlainChar hc)]
        rfl
      · rintro rfl
        exact absurd hc (by decide)
      · rintro rfl
        exact absurd hc (by decide)
  · rw [if_neg hplain]
    exact leadsApart_quoted s

private theorem Style.header_harmless (s : Style) : ∀ l ∈ s.header.tail, Harmless l := by
  have hparameter (word color : String) : Harmless ("skinparam " ++ word ++ color) := by
    have hlead : LeadsApart "skinparam " := ⟨'s', by decide⟩
    exact ((hlead.append word).append color).harmless
  intro l hl
  simp only [header, List.tail_cons, List.mem_cons, List.not_mem_nil, or_false] at hl
  rcases hl with rfl | rfl | rfl | rfl | rfl
  · exact hparameter "backgroundColor " _
  · exact hparameter "defaultFontColor " _
  · exact hparameter "ArrowColor " _
  · exact hparameter "BorderColor " _
  · decide

private theorem ClassRecord.innerLines_harmless (c : ClassRecord) :
    ∀ l ∈ c.innerLines, Harmless l := by
  intro l hl
  rcases mem_innerLines hl with hl | rfl
  · obtain ⟨v, rest, rfl⟩ := visibility_of_mem_memberLines hl
    have hsymbol : LeadsApart ("  " ++ v.symbol) := by
      cases v
      · exact ⟨'+', by decide⟩
      · exact ⟨'-', by decide⟩
      · exact ⟨'#', by decide⟩
      · exact ⟨'~', by decide⟩
    rw [← String.append_assoc]
    exact (hsymbol.append _).harmless
  · decide

/-- The attribute has nothing but a name, and this is a line of the frame. -/
def EntityAttribute.PosesAsFrame (a : EntityAttribute) : Prop :=
  a.name ∈ frameWords ∧ trim a.type = "" ∧ a.isPrimaryKey = false ∧ a.isForeignKey = false ∧
    a.isNotNull = false

instance (a : EntityAttribute) : Decidable a.PosesAsFrame :=
  inferInstanceAs (Decidable (_ ∧ _ ∧ _ ∧ _ ∧ _))

private theorem flagged_eq_false {flag : Bool} {word : String} {c : Char} (hc : c ∈ word.toList)
    (h : c ∉ (flagged flag word).toList) : flag = false := by
  cases flag with
  | false => rfl
  | true => exact absurd hc h

private theorem typeSuffix_eq_empty {type : String} (h : ':' ∉ (typeSuffix type).toList) :
    trim type = "" := by
  simp only [typeSuffix] at h
  split at h
  · rename_i hempty
    exact String.isEmpty_iff.mp hempty
  · simp at h

def attributeMarks : List Char :=
  ['\\', ':', '[']

private theorem mark_notMem_of_word {l : String} (h : trim l ∈ frameWords) :
    ∀ c ∈ attributeMarks, c ∉ l.toList := by
  have hwords : ∀ w ∈ frameWords, ∀ c ∈ attributeMarks, c ∉ w.toList := by
    simp [frameWords, attributeMarks]
  have hblanks : ∀ c ∈ attributeMarks, ¬ isBlank c := by
    simp [attributeMarks, isBlank, blankRanges]
  intro c hmark hc
  rcases mem_trim_or_isBlank hc with hc | hc
  · exact hwords (trim l) h c hmark hc
  · exact hblanks c hmark hc

/-- An attribute with anything but a name on its line is told from the frame. -/
private theorem EntityAttribute.harmless_line {a : EntityAttribute} (hname : IsName a.name) :
    Harmless a.line ↔ ¬ a.PosesAsFrame := by
  have hindent : trim ("  " ++ a.name) = a.name := by
    rw [trim_blank_append (List.all_eq_true.mp rfl), hname.trimmed]
  rw [Harmless, not_iff_not]
  constructor
  · intro hword
    have hparts {c : Char} (hmark : c ∈ attributeMarks) : c ∉ (fold a.name).toList ∧
        c ∉ (typeSuffix a.type).toList ∧ c ∉ (flagged a.isPrimaryKey " [PK]").toList ∧
        c ∉ (flagged a.isForeignKey " [FK]").toList ∧
        c ∉ (flagged a.isNotNull " [NOT NULL]").toList := by
      have hline := mark_notMem_of_word hword c hmark
      simp only [line, String.toList_append, List.mem_append, not_or] at hline
      obtain ⟨⟨⟨⟨⟨-, hname⟩, htype⟩, hprimary⟩, hforeign⟩, hnull⟩ := hline
      exact ⟨hname, htype, hprimary, hforeign, hnull⟩
    have hfold : fold a.name = a.name := by
      have hchars := (hparts (c := '\\') (by decide)).1
      rw [fold, String.toList_ofList] at hchars
      rw [fold, foldChars_eq_self hchars, String.ofList_toList]
    have htype := typeSuffix_eq_empty (hparts (c := ':') (by decide)).2.1
    obtain ⟨-, -, hprimary, hforeign, hnull⟩ := hparts (c := '[') (by decide)
    have hprimary := flagged_eq_false (by decide) hprimary
    have hforeign := flagged_eq_false (by decide) hforeign
    have hnull := flagged_eq_false (by decide) hnull
    have hline : a.line = "  " ++ a.name := by
      simp [line, typeSuffix, flagged, hfold, htype, hprimary, hforeign, hnull]
    rw [hline, hindent] at hword
    exact ⟨hword, htype, hprimary, hforeign, hnull⟩
  · intro hposes
    obtain ⟨hword, htype, hprimary, hforeign, hnull⟩ := hposes
    have hfold : ∀ w ∈ frameWords, fold w = w := by decide
    have hline : a.line = "  " ++ a.name := by
      simp [line, typeSuffix, flagged, htype, hprimary, hforeign, hnull, hfold a.name hword]
    rw [hline, hindent]
    exact hword

/-- The last positions of blocks of the given lengths that stand one after the other. -/
def blockEnds : List Nat → List Nat
  | [] => []
  | n :: ns => (n - 1) :: (blockEnds ns).map (n + ·)

/-- The first and the last of the lines are the only ones that open and close the source, and the
braces stand at `ends` only, `count` of them. -/
structure Encloses (lines : List String) (ends : List Nat) (count : Nat) : Prop where
  opened : lines.head? = some "@startuml" ∧ "@startuml" ∉ lines.tail
  closed : lines.getLast? = some "@enduml" ∧ "@enduml" ∉ lines.dropLast
  braces : ∀ i, lines[i]? = some "\x7d" ↔ i ∈ ends
  count : lines.count "\x7d" = count

section

variable {ν : Type} {inner : ν → List String} {nodes : List ν} {mark : String}

private theorem getElem?_eq_mark_between {front middle back : List String} (hfront : mark ∉ front)
    (hback : mark ∉ back) (i : Nat) :
    (front ++ middle ++ back)[i]? = some mark ↔
      ∃ j, i = front.length + j ∧ middle[j]? = some mark := by
  rw [List.append_assoc]
  rcases Nat.lt_or_ge i front.length with hlt | hge
  · rw [List.getElem?_append_left hlt]
    constructor
    · exact fun h => absurd (List.mem_of_getElem? h) hfront
    · rintro ⟨j, rfl, -⟩
      omega
  · obtain ⟨j, rfl⟩ := Nat.exists_eq_add_of_le hge
    have hinner : (middle ++ back)[j]? = some mark ↔ middle[j]? = some mark := by
      rcases Nat.lt_or_ge j middle.length with hlt | hge
      · rw [List.getElem?_append_left hlt]
      · rw [List.getElem?_append_right hge, List.getElem?_eq_none hge]
        constructor
        · exact fun h => absurd (List.mem_of_getElem? h) hback
        · intro h
          cases h
    rw [List.getElem?_append_right hge, Nat.add_sub_cancel_left, hinner]
    constructor
    · exact fun h => ⟨j, rfl, h⟩
    · rintro ⟨k, hk, h⟩
      rwa [Nat.add_left_cancel hk]

private theorem getElem?_blocks_eq_mark (h : ∀ n ∈ nodes, mark ∉ inner n) (i : Nat) :
    (nodes.map fun n => inner n ++ [mark]).flatten[i]? = some mark ↔
      i ∈ blockEnds (nodes.map fun n => (inner n).length + 1) := by
  induction nodes generalizing i with
  | nil => simp [blockEnds]
  | cons n nodes ih =>
    rw [List.forall_mem_cons] at h
    have hhead : ((n :: nodes).map fun n => inner n ++ [mark]).flatten =
        inner n ++ mark :: (nodes.map fun n => inner n ++ [mark]).flatten := by
      simp
    rw [hhead, getElem?_eq_mark_iff h.1, List.map_cons, blockEnds, List.mem_cons, List.mem_map]
    simp only [ih h.2, Nat.add_sub_cancel]
    refine or_congr_right (exists_congr fun j => ?_)
    rw [and_comm, eq_comm]

private theorem count_blocks :
    (nodes.map fun n => inner n ++ [mark]).flatten.count mark =
      nodes.length + (nodes.map fun n => (inner n).count mark).sum := by
  induction nodes with
  | nil => rfl
  | cons n nodes ih =>
    simp only [List.map_cons, List.flatten_cons, List.count_append, List.count_singleton_self, ih,
      List.length_cons, List.sum_cons]
    omega

private theorem encloses_iff {middle : List String} {ends : List Nat} {count : Nat} :
    Encloses ("@startuml" :: middle ++ ["@enduml"]) (ends.map (1 + ·)) count ↔
      "@startuml" ∉ middle ∧ "@enduml" ∉ middle ∧ (∀ i, middle[i]? = some "\x7d" ↔ i ∈ ends) ∧
        middle.count "\x7d" = count := by
  have hlast : ("@startuml" :: middle ++ ["@enduml"]).dropLast = "@startuml" :: middle :=
    List.dropLast_concat
  have hopened : "@startuml" ∉ ("@startuml" :: middle ++ ["@enduml"]).tail ↔
      "@startuml" ∉ middle := by
    simp
  have hclosed : "@enduml" ∉ ("@startuml" :: middle ++ ["@enduml"]).dropLast ↔
      "@enduml" ∉ middle := by
    rw [hlast]
    simp
  have hfirst : "\x7d" ∉ ["@startuml"] := by decide
  have hbraces (i : Nat) : ("@startuml" :: middle ++ ["@enduml"])[i]? = some "\x7d" ↔
      ∃ j, i = 1 + j ∧ middle[j]? = some "\x7d" :=
    getElem?_eq_mark_between hfirst (by decide) i
  have hends (i : Nat) : i ∈ ends.map (1 + ·) ↔ ∃ j, i = 1 + j ∧ j ∈ ends := by
    rw [List.mem_map]
    refine exists_congr fun j => ?_
    rw [and_comm, eq_comm]
  have hcount : ("@startuml" :: middle ++ ["@enduml"]).count "\x7d" = middle.count "\x7d" := by
    simp
  constructor
  · intro h
    refine ⟨hopened.mp h.opened.2, hclosed.mp h.closed.2, fun i => ?_, hcount ▸ h.count⟩
    have hi := h.braces (1 + i)
    rw [hbraces, hends] at hi
    simpa using hi
  · intro h
    obtain ⟨hstart, hend, hmiddle, hnumber⟩ := h
    refine ⟨⟨rfl, hopened.mpr hstart⟩, ⟨List.getLast?_concat, hclosed.mpr hend⟩, fun i => ?_, ?_⟩
    · rw [hbraces, hends]
      simp only [hmiddle]
    · rw [hcount, hnumber]

/-- Lines enclose their blocks exactly if nothing in the blocks is a line of the frame. -/
private theorem encloses_blocks_iff {front back : List String}
    (hfront : ∀ l ∈ front, l ∉ frameWords) (hback : ∀ l ∈ back, l ∉ frameWords) :
    Encloses
        ("@startuml" :: (front ++ (nodes.map fun n => inner n ++ ["\x7d"]).flatten ++ back) ++
          ["@enduml"])
        (((blockEnds (nodes.map fun n => (inner n).length + 1)).map (front.length + ·)).map (1 + ·))
        nodes.length ↔
      ∀ n ∈ nodes, ∀ l ∈ inner n, l ∉ frameWords := by
  rw [encloses_iff]
  have hapart {word : String} (hword : word ∈ frameWords) : word ∉ front ∧ word ∉ back :=
    ⟨fun hm => hfront word hm hword, fun hm => hback word hm hword⟩
  have hbrace : "\x7d" ∉ front ∧ "\x7d" ∉ back := hapart (by decide)
  have hmem {word : String} (hword : word ∈ frameWords) (hne : word ≠ "\x7d") :
      word ∈ front ++ (nodes.map fun n => inner n ++ ["\x7d"]).flatten ++ back ↔
        ∃ n ∈ nodes, word ∈ inner n := by
    simp [hapart hword, hne]
  have hcount : (front ++ (nodes.map fun n => inner n ++ ["\x7d"]).flatten ++ back).count "\x7d" =
      nodes.length + (nodes.map fun n => (inner n).count "\x7d").sum := by
    rw [List.count_append, List.count_append, List.count_eq_zero_of_not_mem hbrace.1,
      List.count_eq_zero_of_not_mem hbrace.2, count_blocks, Nat.zero_add, Nat.add_zero]
  rw [hmem (by decide) (by decide), hmem (by decide) (by decide), hcount]
  -- There is a brace for each block, so the blocks hold no other one exactly if the counts agree.
  constructor
  · intro h n hn l hl hword
    obtain ⟨hstart, hend, -, hnumber⟩ := h
    simp only [frameWords, List.mem_cons, List.not_mem_nil, or_false] at hword
    rcases hword with rfl | rfl | rfl
    · exact hstart ⟨n, hn, hl⟩
    · exact hend ⟨n, hn, hl⟩
    · have hsum : (nodes.map fun n => (inner n).count "\x7d").sum = 0 := by omega
      have hzero := List.sum_eq_zero_iff_forall_eq_nat.mp hsum _ (List.mem_map_of_mem hn)
      exact List.count_eq_zero.mp hzero hl
  · intro h
    refine ⟨?_, ?_, fun i => ?_, ?_⟩
    · rintro ⟨n, hn, hl⟩
      exact h n hn _ hl (by decide)
    · rintro ⟨n, hn, hl⟩
      exact h n hn _ hl (by decide)
    · rw [getElem?_eq_mark_between hbrace.1 hbrace.2, List.mem_map]
      refine exists_congr fun j => ?_
      rw [getElem?_blocks_eq_mark fun n hn hl => h n hn _ hl (by decide), and_comm, eq_comm]
    · have hsum : (nodes.map fun n => (inner n).count "\x7d").sum = 0 := by
        rw [List.sum_eq_zero_iff_forall_eq_nat, List.forall_mem_map]
        exact fun n hn => List.count_eq_zero.mpr fun hl => h n hn _ hl (by decide)
      rw [hsum, Nat.add_zero]

end

private theorem edgeLine_harmless {source : String} (h : LeadsApart source)
    (symbol target suffix : String) : Harmless (edgeLine source symbol target suffix) :=
  (((((h.append " ").append symbol).append " ").append target).append suffix).harmless

private theorem names_harmless {ε : Type} (word : String) (print : String → String)
    (symbol suffix : ε → String) (hword : ∀ n, LeadsApart (word ++ print n))
    (hprint : ∀ n, LeadsApart (print n)) (g : Graph String String ε) :
    ∀ l ∈ Body.lines
      { blocks := g.nodes.map fun n => [word ++ print n]
        edges := g.edges.map fun e =>
          edgeLine (print e.source) (symbol e.data) (print e.target) (suffix e.data) },
      Harmless l := by
  simp only [Body.lines, flatten_singletons, List.nil_append, List.forall_mem_append,
    List.forall_mem_singleton, List.forall_mem_map]
  exact ⟨⟨fun n _ => (hword n).harmless, by decide⟩,
    fun e _ => edgeLine_harmless (hprint e.source) _ _ _⟩

private theorem recordEdges_harmless {ν ε : Type} (R : Rules Id ν ε) (symbol label : ε → String)
    (g : Graph Id ν ε) :
    ∀ l ∈ g.edges.filterMap (recordEdgeLine? R g symbol label), Harmless l := by
  intro l hl
  obtain ⟨e, -, hline⟩ := List.mem_filterMap.mp hl
  obtain ⟨source, -, hline⟩ := Option.bind_eq_some_iff.mp hline
  obtain ⟨target, -, hline⟩ := Option.bind_eq_some_iff.mp hline
  rw [← Option.some.inj hline]
  exact edgeLine_harmless (leadsApart_quoted _) _ _ _

private theorem UseCaseDiagram.body_harmless (d : UseCaseDiagram) (direction : Direction) :
    ∀ l ∈ (d.body direction).lines, Harmless l := by
  have hactor : LeadsApart "actor " := ⟨'a', by decide⟩
  have huseCase : LeadsApart "usecase " := ⟨'u', by decide⟩
  have hdirection : Harmless direction.line := by
    cases direction <;> decide
  rw [Body.lines, blocks_flatten, declarations]
  simp only [body, List.forall_mem_append, List.forall_mem_singleton, List.forall_mem_map]
  refine ⟨⟨⟨hdirection, ?_⟩, by decide⟩, fun l _ => edgeLine_harmless (leadsApart_quoted _) _ _ _⟩
  exact ⟨fun n _ => (hactor.append _).harmless, fun n _ => (huseCase.append _).harmless⟩

namespace Store

def trimmedLines (s : Store) : List String :=
  (splitLines s.source).map trim

def blockLengths (s : Store) : List Nat :=
  match s.kind with
  | .classes => s.classes.nodes.map ClassRecord.lineCount
  | .entity => s.entity.nodes.map EntityRecord.lineCount
  | _ => []

/-- The source is opened once, closed once, and each of its blocks is closed once. -/
def Enclosed (s : Store) : Prop :=
  Encloses s.trimmedLines ((blockEnds s.blockLengths).map (6 + ·)) s.blockLengths.length

variable {s : Store}

private theorem trimmedLines_eq (hstyle : s.style.Valid) :
    s.trimmedLines =
      "@startuml" :: (s.style.header.tail ++ (s.body s.kind).lines).map trim ++ ["@enduml"] := by
  have hfirst : trim "@startuml" = "@startuml" := by decide
  have hlast : trim "@enduml" = "@enduml" := by decide
  have hheader : s.style.header = "@startuml" :: s.style.header.tail := rfl
  rw [trimmedLines, splitLines_source hstyle, sourceLines, hheader]
  simp [hfirst, hlast]

private theorem enclosed_of_harmless (hstyle : s.style.Valid) (hlengths : s.blockLengths = [])
    (hbody : ∀ l ∈ (s.body s.kind).lines, Harmless l) : s.Enclosed := by
  have hmiddle {word : String} (hword : word ∈ frameWords) :
      word ∉ (s.style.header.tail ++ (s.body s.kind).lines).map trim := by
    intro hm
    obtain ⟨l, hl, rfl⟩ := List.mem_map.mp hm
    rcases List.mem_append.mp hl with hl | hl
    · exact s.style.header_harmless l hl hword
    · exact hbody l hl hword
  have hbrace := hmiddle (List.mem_of_getElem? (i := 2) rfl)
  have hends : (blockEnds []).map (6 + ·) = [].map (1 + ·) := rfl
  rw [Enclosed, hlengths, trimmedLines_eq hstyle, hends]
  refine encloses_iff.mpr ⟨hmiddle (by decide), hmiddle (by decide), fun i => ?_, ?_⟩
  · constructor
    · exact fun h => absurd (List.mem_of_getElem? h) hbrace
    · exact fun h => absurd h List.not_mem_nil
  · exact List.count_eq_zero.mpr hbrace

/-- Blocks are enclosed exactly if the lines between their first and last ones are harmless. -/
private theorem enclosed_iff_of_blocks {ν : Type} {nodes : List ν} {block inner : ν → List String}
    {opening : ν → String} {edges : List String} (hstyle : s.style.Valid)
    (hblock : ∀ n, block n = opening n :: inner n ++ ["\x7d"])
    (hbody : s.body s.kind = { blocks := nodes.map block, edges })
    (hlengths : s.blockLengths = nodes.map fun n => (block n).length)
    (hopening : ∀ n, Harmless (opening n)) (hedges : ∀ l ∈ edges, Harmless l) :
    s.Enclosed ↔ ∀ n ∈ nodes, ∀ l ∈ inner n, Harmless l := by
  have hfront : ∀ l ∈ s.style.header.tail.map trim, l ∉ frameWords :=
    List.forall_mem_map.mpr s.style.header_harmless
  have hback : ∀ l ∈ ("" :: edges).map trim, l ∉ frameWords := by
    rw [List.forall_mem_map, List.forall_mem_cons]
    exact ⟨by decide, hedges⟩
  have hbrace : trim "\x7d" = "\x7d" := by decide
  have hlines : (s.style.header.tail ++ (s.body s.kind).lines).map trim =
      s.style.header.tail.map trim ++
        (nodes.map fun n => (opening n :: inner n).map trim ++ ["\x7d"]).flatten ++
          ("" :: edges).map trim := by
    rw [hbody, Body.lines, funext hblock]
    simp [List.map_flatten, Function.comp_def, hbrace]
  have hends : (blockEnds s.blockLengths).map (6 + ·) =
      ((blockEnds (nodes.map fun n => ((opening n :: inner n).map trim).length + 1)).map
        ((s.style.header.tail.map trim).length + ·)).map (1 + ·) := by
    simp only [hlengths, hblock, List.length_append, List.length_map, List.length_singleton,
      List.map_map]
    refine List.map_congr_left fun i _ => ?_
    change 6 + i = 1 + (5 + i)
    omega
  have hcount : s.blockLengths.length = nodes.length := by
    rw [hlengths, List.length_map]
  rw [Enclosed, trimmedLines_eq hstyle, hlines, hends, hcount, encloses_blocks_iff hfront hback]
  refine forall₂_congr fun n _ => ?_
  rw [List.forall_mem_map, List.forall_mem_cons]
  exact and_iff_right (hopening n)

private theorem body_harmless (s : Store) {kind : Kind} (hclasses : kind ≠ .classes)
    (hentity : kind ≠ .entity) : ∀ l ∈ (s.body kind).lines, Harmless l := by
  have hdeclares {word : String} {c : Char} (hlead : lead? word = some c)
      (hc : c ≠ '@' ∧ c ≠ '\x7d') (token : String) : LeadsApart (word ++ token) :=
    LeadsApart.append ⟨c, hlead, hc⟩ token
  cases kind with
  | sequence =>
    exact names_harmless "actor " participant (fun m : Message => m.arrow.symbol)
      (fun m => ": " ++ fold m.text) (fun n => hdeclares (c := 'a') (by decide) (by decide) _)
      leadsApart_participant s.sequence
  | classes => contradiction
  | useCase => exact s.useCase.body_harmless s.style.direction
  | entity => contradiction
  | activity =>
    exact names_harmless "action " quoted (fun _ : Unit => "-->") (fun _ => "")
      (fun n => hdeclares (c := 'a') (by decide) (by decide) _) leadsApart_quoted s.activity
  | component =>
    refine names_harmless "" bracketed (fun _ : Unit => "-->") (fun _ => "") (fun n => ?_)
      leadsApart_bracketed s.component
    rw [String.empty_append]
    exact leadsApart_bracketed n
  | state =>
    exact names_harmless "state " quoted (fun _ : String => "-->") labelSuffix
      (fun n => hdeclares (c := 's') (by decide) (by decide) _) leadsApart_quoted s.state

private theorem classes_enclosed (hstyle : s.style.Valid) (hkind : s.kind = .classes) :
    s.Enclosed := by
  have hbody : s.body s.kind = s.classes.body := by rw [hkind, body]
  have hlengths : s.blockLengths = s.classes.nodes.map fun c => c.block.length := by
    rw [blockLengths, hkind, funext ClassRecord.length_block]
  refine (enclosed_iff_of_blocks hstyle ClassRecord.block_eq hbody hlengths (fun c => ?_)
    (recordEdges_harmless ClassDiagram.rules _ _ s.classes)).mpr fun c _ => c.innerLines_harmless
  have hlead : LeadsApart (flagged c.isAbstract "abstract " ++ "class ") := by
    cases c.isAbstract
    · exact ⟨'c', by decide⟩
    · exact ⟨'a', by decide⟩
  exact ((hlead.append _).append _).harmless

private theorem entities_enclosed_iff (hs : s.Sound) (hstyle : s.style.Valid)
    (hkind : s.kind = .entity) :
    s.Enclosed ↔ ∀ e ∈ s.entity.nodes, ∀ a ∈ e.attributes, ¬ a.PosesAsFrame := by
  have hbody : s.body s.kind = s.entity.body := by rw [hkind, body]
  have hlengths : s.blockLengths = s.entity.nodes.map fun e => e.block.length := by
    rw [blockLengths, hkind, funext EntityRecord.length_block]
  have hlead : LeadsApart "entity " := ⟨'e', by decide⟩
  rw [enclosed_iff_of_blocks hstyle EntityRecord.block_eq hbody hlengths
    (fun e => ((hlead.append _).append _).harmless)
    (recordEdges_harmless EntityDiagram.rules _ _ s.entity)]
  refine forall₂_congr fun e he => ?_
  rw [EntityRecord.attributeLines, List.forall_mem_map]
  exact forall₂_congr fun a ha =>
    EntityAttribute.harmless_line ((hs.entity.named e he).attributes a ha)

/-- Whatever the texts in a store are, nothing but the last line closes its source and nothing but
the last line of a block closes the block, unless an entity that is shown has an attribute whose
line is its name alone, and that name a line of the frame. -/
theorem enclosed_iff {s : Store} (h : s.Reachable) :
    s.Enclosed ↔
      (s.kind = .entity → ∀ e ∈ s.entity.nodes, ∀ a ∈ e.attributes, ¬ a.PosesAsFrame) := by
  by_cases hkind : s.kind = .entity
  · rw [entities_enclosed_iff h.sound h.style_valid hkind, forall_prop_of_true hkind]
  · refine iff_of_true ?_ fun he => absurd he hkind
    by_cases hclasses : s.kind = .classes
    · exact classes_enclosed h.style_valid hclasses
    · refine enclosed_of_harmless h.style_valid ?_ (s.body_harmless hclasses hkind)
      rw [blockLengths]
      split
      · contradiction
      · contradiction
      · rfl

/-- Names of classes and of their members that look like lines of the frame, and an attribute of an
entity that has a type. -/
theorem enclosed_iff_hostile :
    let operations : List Operation := [.edit (.setKind .classes),
      .edit (.classes (.addClass "\x7d" false)),
      .edit (.classes (.addAttribute ⟨.classes, 0⟩ { name := "\x7d" })),
      .edit (.classes (.addMethod ⟨.classes, 0⟩ { name := "@enduml" })),
      .edit (.classes (.addClass "@startuml" true)), .edit (.entity (.addEntity "@enduml")),
      .edit (.entity (.addAttribute ⟨.entity, 0⟩ { name := "\x7d", type := "int" }))]
    let s := run {} operations
    let t := s.step (.edit (.setKind .entity))
    (s.Reachable ∧ s.Enclosed) ∧ t.Reachable ∧ t.Enclosed := by
  intro operations s t
  have hs : s.Reachable := ⟨{}, operations, .inl rfl, rfl⟩
  have ht : t.Reachable := ⟨{}, operations ++ [.edit (.setKind .entity)], .inl rfl, rfl⟩
  have hkind : s.kind ≠ .entity := by decide +kernel
  have hattributes : ∀ e ∈ t.entity.nodes, ∀ a ∈ e.attributes, ¬ a.PosesAsFrame := by
    decide +kernel
  exact ⟨⟨hs, (enclosed_iff hs).mpr fun h => absurd h hkind⟩, ht,
    (enclosed_iff ht).mpr fun _ => hattributes⟩

/-- Attributes that consist of a name close the block, and the source, before their ends. -/
theorem attributes_close_source :
    let operations : List Operation := [.edit (.setKind .entity), .edit (.entity (.addEntity "E")),
      .edit (.entity (.addAttribute ⟨.entity, 0⟩ { name := "\x7d" })),
      .edit (.entity (.addAttribute ⟨.entity, 0⟩ { name := "@enduml" }))]
    let s := run {} operations
    s.Reachable ∧ s.trimmedLines.drop 6 =
      ["entity \"E\" \x7b", "\x7d", "@enduml", "\x7d", "", "@enduml"] ∧ ¬ s.Enclosed := by
  intro operations s
  have hs : s.Reachable := ⟨{}, operations, .inl rfl, rfl⟩
  have hlines : s.trimmedLines.drop 6 =
      ["entity \"E\" \x7b", "\x7d", "@enduml", "\x7d", "", "@enduml"] := by
    decide +kernel
  have hclosed : "@enduml" ∈ s.trimmedLines.dropLast := by
    rw [← List.take_append_drop 6 s.trimmedLines, hlines,
      List.dropLast_append_of_ne_nil (List.cons_ne_nil _ _)]
    exact List.mem_append_right _ (by decide)
  exact ⟨hs, hlines, fun h => h.closed.2 hclosed⟩

end Store

end UmlDiagrams
