import UmlDiagrams.Proofs.Document.Decoding
import UmlDiagrams.Proofs.Document.Writing
import UmlDiagrams.Proofs.Tree.Scripts

namespace UmlDiagrams

/-- Texts of the format are read as their trees say, and every document has a tree. -/
structure DocumentFormat.Undoes {τ : Type} (format : DocumentFormat) (tree? : String → Option τ)
    (S : Script τ) : Prop where
  spelled : ∀ text tree d, tree? text = some tree → d.Spelled S tree →
    Document.read format text = .ok d
  stray : ∀ text tree, tree? text = some tree → Document.HasStrayKey S tree →
    Document.read format text = .error format
  writable : ∀ d : Document, ∃ tree, d.Spelled S tree

private theorem Option.failsFast : FailsFast Option where
  after _ := rfl
  before x := by cases x <;> rfl

private theorem Yaml.Reading.failsFast : FailsFast Yaml.Reading where
  after _ := rfl
  before x := by
    funext left
    change (x left >>= fun _ => none) = none
    cases x left <;> rfl

namespace Document

private theorem read_of_parse? {format : DocumentFormat} {text : String} {d : Document}
    (h : parse? format text = some d) : read format text = .ok d := by
  rw [read, h]

private theorem read_of_parse?_none {format : DocumentFormat} {text : String}
    (h : parse? format text = none) : read format text = .error format := by
  rw [read, h]

private theorem json_undoes : DocumentFormat.json.Undoes Json.parse? Json.script where
  spelled text tree d htree h := by
    refine read_of_parse? ?_
    rw [parse?, htree, Option.bind_some, decode_spelled Json.reader_reads tree d h]
    rfl
  stray text tree htree h := by
    refine read_of_parse?_none ?_
    rw [parse?, htree, Option.bind_some, decode_stray Json.reader_reads Option.failsFast tree h]
    rfl
  writable d := (exists_spelled Json.script_complete d).imp fun _ h => h.2

private theorem toml_undoes : DocumentFormat.toml.Undoes Toml.parse? Toml.script where
  spelled text tree d htree h := by
    refine read_of_parse? ?_
    rw [parse?, htree, Option.bind_some, decode_spelled Toml.reader_reads tree d h]
    rfl
  stray text tree htree h := by
    refine read_of_parse?_none ?_
    rw [parse?, htree, Option.bind_some, decode_stray Toml.reader_reads Option.failsFast tree h]
    rfl
  writable d := (exists_spelled Toml.script_complete d).imp fun _ h => h.2

private theorem yaml_undoes : DocumentFormat.yaml.Undoes
    (fun text => (Yaml.parse? text).map Yaml.Tree.value) Yaml.script where
  spelled text value d hvalue h := by
    obtain ⟨tree, htree, rfl⟩ := Option.map_eq_some_iff.mp hvalue
    refine read_of_parse? ?_
    rw [parse?, htree, Option.bind_some, Yaml.Tree.read?, decode_spelled Yaml.reader_reads _ d h]
    rfl
  stray text value hvalue h := by
    obtain ⟨tree, htree, rfl⟩ := Option.map_eq_some_iff.mp hvalue
    refine read_of_parse?_none ?_
    rw [parse?, htree, Option.bind_some, Yaml.Tree.read?,
      decode_stray Yaml.reader_reads Yaml.Reading.failsFast _ h]
    rfl
  writable d := (exists_spelled Yaml.script_complete d).imp fun _ h => h.2

/-- In each format a text is read as the document that its tree spells: with the fields in any
order, under any of their names and with any words for choices, without the fields that have their
usual values, and with any other keys inside. Only a document and its style have no other keys. -/
theorem read_undoes_spelling :
    DocumentFormat.json.Undoes Json.parse? Json.script ∧
    DocumentFormat.toml.Undoes Toml.parse? Toml.script ∧
    DocumentFormat.yaml.Undoes (fun text => (Yaml.parse? text).map Yaml.Tree.value) Yaml.script :=
  ⟨json_undoes, toml_undoes, yaml_undoes⟩

/-- Other names of a section and of its kind are read, and a key that no entity has is passed over;
in a style it is an error. -/
theorem read_undoes_spelling_aliases :
    let d : Document := { kind := .entity, entity := { entities := [{ name := "A" }] } }
    read .json
        "\x7b\"er\":\x7b\"entities\":[\x7b\"color\":1,\"name\":\"A\"\x7d]\x7d,\"kind\":\"er\"\x7d" =
        .ok d ∧
      read .json "\x7b\"style\":\x7b\"color\":\"red\"\x7d\x7d" = .error .json := by
  intro d
  obtain ⟨hjson, -, -⟩ := read_undoes_spelling
  let entity : Json := .keyed [("color", .number), ("name", .text (some "A"))]
  let part : Json := .keyed [("entities", .list [entity])]
  have hentity : (⟨"A", []⟩ : EntitySpec).Spelled Json.script entity := by
    refine ⟨_, rfl, ?_, fun h => absurd h Bool.false_ne_true⟩
    simp only [EntitySpec.layout, List.forall_mem_cons]
    exact ⟨.inr ⟨_, _, rfl, rfl⟩, .inl ⟨rfl, by decide⟩, List.forall_mem_nil _⟩
  have hpart : (⟨[⟨"A", []⟩], []⟩ : EntitySection).Spelled Json.script part := by
    refine ⟨_, rfl, ?_, fun h => absurd h Bool.false_ne_true⟩
    simp only [EntitySection.layout, List.forall_mem_cons]
    exact ⟨.inr ⟨_, _, rfl, _, rfl, .cons hentity .nil⟩, .inl ⟨rfl, by decide⟩, List.forall_mem_nil _⟩
  have hspelled : d.Spelled Json.script (.keyed [("er", part), ("kind", .text (some "er"))]) := by
    refine ⟨_, rfl, ?_, fun _ => ?_⟩
    · simp only [layout, List.forall_mem_cons]
      refine ⟨.inr ⟨_, _, rfl, _, rfl, by decide⟩, .inl ⟨rfl, by decide⟩, .inl ⟨rfl, by decide⟩,
        .inl ⟨rfl, by decide⟩, .inl ⟨rfl, by decide⟩, .inr ⟨_, _, rfl, hpart⟩,
        .inl ⟨rfl, by decide⟩, .inl ⟨rfl, by decide⟩, .inl ⟨rfl, by decide⟩, List.forall_mem_nil _⟩
    · simp [layout, Field.names, Field.record, Script.choice]
  have hstray : HasStrayKey Json.script
      (.keyed [("style", .keyed [("color", .text (some "red"))])]) :=
    ⟨_, rfl, .inr ⟨_, _, List.mem_singleton_self _, rfl, _, List.mem_singleton_self _, by decide⟩⟩
  exact ⟨hjson.spelled _ _ _ (by cbv) hspelled, hjson.stray _ _ (by cbv) hstray⟩

end Document

end UmlDiagrams
