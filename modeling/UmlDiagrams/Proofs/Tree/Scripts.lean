import UmlDiagrams.Document.Format
import UmlDiagrams.Proofs.Tree.Reading
import UmlDiagrams.Proofs.Tree.Writing
/-!
# The three data formats

How JSON, TOML and YAML write values, and that their readers read what is written so. In YAML this
is about nodes that are written out: an alias is no such node.
-/

namespace UmlDiagrams

namespace Json

def keyed (entries : List (String × Json)) : Json :=
  .table (entries.map fun e => (some e.1, e.2))

def script : Script Json where
  IsText value s := value = .text (some s)
  IsFlag value b := value = .flag b
  IsNothing value := value = .null
  IsList value items := value = .list items
  IsTable value entries := value = keyed entries

private theorem table?_keyed (entries : List (String × Json)) :
    table? (keyed entries) = some (.named entries) := by
  have hentries (f : Option String × Json → Option (String × Json))
      (hf : ∀ key value, f (some key, value) = some (key, value)) :
      (entries.map fun e => (some e.1, e.2)).mapM f = some entries := by
    induction entries with
    | nil => rfl
    | cons e entries ih => simp [hf, ih]
  rw [keyed, table?, hentries _ fun _ _ => rfl]
  rfl

theorem reader_reads : reader.Reads script where
  some _ := rfl
  text h := by rw [h]; rfl
  choice h := by rw [h]; rfl
  flag h := by rw [h]; rfl
  items h := by rw [h]; rfl
  table h := by
    rw [h]
    exact table?_keyed _
  present h := by rw [h]; rfl
  absent h := by rw [h]; rfl

theorem script_complete : script.Complete fun _ => True where
  text _ := ⟨_, trivial, rfl⟩
  flag _ := ⟨_, trivial, rfl⟩
  list _ _ := ⟨_, trivial, rfl⟩
  table _ _ := ⟨_, trivial, rfl⟩

end Json

namespace Toml

/-- A list of tables may be written by repeated headers. No value stands for nothing. -/
def script : Script Toml where
  IsText value s := value = .text s
  IsFlag value b := value = .flag b
  IsNothing _ := False
  IsList value items := value = .list items ∨ value = .tables items.reverse
  IsTable value entries := ∃ origin, value = .table origin entries

theorem reader_reads : reader.Reads script where
  some _ := rfl
  text h := by rw [h]; rfl
  choice h := by rw [h]; rfl
  flag h := by rw [h]; rfl
  items h := by
    rcases h with rfl | rfl
    · rfl
    · exact congrArg some (List.reverse_reverse _)
  table h := by
    obtain ⟨origin, rfl⟩ := h
    rfl
  present h := by rw [h]; rfl
  absent h := h.elim

theorem script_complete : script.Complete fun _ => True where
  text _ := ⟨_, trivial, rfl⟩
  flag _ := ⟨_, trivial, rfl⟩
  list items _ := ⟨.list items, trivial, .inl rfl⟩
  table entries _ := ⟨.table .header entries, trivial, .header, rfl⟩

end Toml

namespace Yaml

def Value.IsEntry (value : Value) (pair : Yaml × Yaml) (e : String × Value) : Prop :=
  (∃ tag form, pair.1 = .scalar tag form e.1) ∧ e.2 = value.withNode pair.2

def script : Script Value where
  IsText value s := ∃ tag form, value.node = .scalar tag form s ∧ Value.ownTag? tag = none ∧
    Value.isAbsent? value.node = some false
  IsFlag value b := ∃ tag word, value.node = .scalar tag .plain word ∧ (word, b) ∈ Value.flagWords
  IsNothing value := ∃ word, value.node = .scalar none .plain word ∧
    (word = "" ∨ Value.isNullWord word)
  IsList value items := ∃ nodes, value.node = .list nodes ∧ items = nodes.map value.withNode
  IsTable value entries := ∃ pairs, value.node = .table pairs ∧
    List.Forall₂ value.IsEntry pairs entries

namespace Value

private theorem follow_eq {value : Value} {node : Yaml} (hnode : value.node = node)
    (halias : ∀ number, node ≠ .alias number) : value.follow = pure node := by
  rw [follow, hnode]
  match node, halias with
  | .alias number, halias => exact absurd rfl (halias number)
  | .scalar .., _ | .list _, _ | .table _, _ => rfl

private theorem IsEntry.entry_eq {value : Value} {pair : Yaml × Yaml} {e : String × Value}
    (h : value.IsEntry pair e) : value.entry pair = pure e := by
  obtain ⟨⟨tag, form, hkey⟩, hvalue⟩ := h
  change ((value.withNode pair.1).text >>= fun key => pure (key, value.withNode pair.2)) = _
  have hnode : (value.withNode pair.1).node = .scalar tag form e.1 := hkey
  rw [text, follow_eq hnode nofun, pure_bind, ← hvalue]
  rfl

private theorem table_eq {value : Value} {pairs : List (Yaml × Yaml)}
    {entries : List (String × Value)} (hnode : value.node = .table pairs)
    (h : List.Forall₂ value.IsEntry pairs entries) :
    value.table = pure (.named entries) := by
  have hentries : pairs.mapM value.entry = pure entries := by
    clear hnode
    induction h with
    | nil => rfl
    | cons hentry _ ih => rw [List.mapM_cons, hentry.entry_eq, pure_bind, ih, pure_bind]
  rw [table, follow_eq hnode nofun, pure_bind]
  change (pairs.mapM value.entry >>= fun entries => pure (Fields.named entries)) = _
  rw [hentries, pure_bind]

private theorem present_text {value : Value} {tag : Option TagText} {form : Form} {s : String}
    (hnode : value.node = .scalar tag form s) (habsent : isAbsent? value.node = some false) :
    value.present = pure (some value) := by
  have hvalue : value.withNode (.scalar tag form s) = value := by
    rw [withNode, ← hnode]
  rw [hnode] at habsent
  rw [present, follow_eq hnode nofun, pure_bind, habsent, hvalue]
  rfl

private theorem present_nothing {value : Value} {word : String}
    (hnode : value.node = .scalar none .plain word) (hword : word = "" ∨ isNullWord word) :
    value.present = pure none := by
  have habsent : isAbsent? (.scalar none .plain word) = some true := by
    rcases hword with rfl | hword
    · rfl
    · simp [isAbsent?, hword]
  rw [present, follow_eq hnode nofun, pure_bind, habsent]
  rfl

end Value

theorem reader_reads : reader.Reads script where
  some _ := rfl
  text h := by
    obtain ⟨tag, form, hnode, -, -⟩ := h
    change Value.text _ = _
    rw [Value.text, Value.follow_eq hnode nofun, pure_bind]
    rfl
  choice h := by
    obtain ⟨tag, form, hnode, htag, -⟩ := h
    change Value.choice _ = _
    rw [Value.choice, Value.follow_eq hnode nofun, pure_bind, Value.choiceOf?, htag]
    rfl
  flag h := by
    obtain ⟨tag, word, hnode, hword⟩ := h
    have hlookup := Shape.lookup_of_mem (by decide) hword
    change Value.flag _ = _
    rw [Value.flag, Value.follow_eq hnode nofun, pure_bind, Value.flagOf?, if_pos (.inl rfl),
      hlookup]
    rfl
  items h := by
    obtain ⟨nodes, hnode, rfl⟩ := h
    change Value.items _ = _
    rw [Value.items, Value.follow_eq hnode nofun, pure_bind]
  table h := by
    obtain ⟨pairs, hnode, hentries⟩ := h
    exact Value.table_eq hnode hentries
  present h := by
    obtain ⟨tag, form, hnode, -, habsent⟩ := h
    exact Value.present_text hnode habsent
  absent h := by
    obtain ⟨word, hnode, hword⟩ := h
    exact Value.present_nothing hnode hword

theorem script_complete : script.Complete fun value => value.anchored = [] where
  text s := ⟨⟨.scalar none .quoted s, []⟩, rfl, none, .quoted, rfl, rfl, rfl⟩
  flag b := by
    cases b with
    | true => exact ⟨⟨.scalar none .plain "true", []⟩, rfl, none, "true", rfl, by decide⟩
    | false => exact ⟨⟨.scalar none .plain "false", []⟩, rfl, none, "false", rfl, by decide⟩
  list items hitems := by
    have hnode : ∀ item ∈ items, (⟨item.node, []⟩ : Value) = item := by
      intro item hitem
      rw [← hitems item hitem]
    refine ⟨⟨.list (items.map Value.node), []⟩, rfl, _, rfl, ?_⟩
    rw [List.map_map]
    exact (List.map_id' items).symm.trans (List.map_congr_left fun i hi => (hnode i hi).symm)
  table entries hentries := by
    refine ⟨⟨.table (entries.map fun e => (.scalar none .plain e.1, e.2.node)), []⟩, rfl, _, rfl,
      ?_⟩
    rw [List.forall₂_map_left_iff, List.forall₂_same]
    intro e he
    refine ⟨⟨none, .plain, rfl⟩, ?_⟩
    rw [Value.withNode, ← hentries e he]

end Yaml

end UmlDiagrams
