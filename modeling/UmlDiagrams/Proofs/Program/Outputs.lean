import UmlDiagrams.Proofs.Document.Prefix
import UmlDiagrams.Proofs.Program.Files
import UmlDiagrams.Proofs.Session.Generation
import UmlDiagrams.Proofs.Store.Isolation
import UmlDiagrams.Run
/-!
# The ways out of a run

The source of a diagram is printed, is written to a file, or goes to the renderer. It is the same
text in all cases, whichever way it takes.
-/

namespace UmlDiagrams

open Stateful

namespace Document

/-- The source of a document in a style, as a diagram of this kind or else of its own. -/
def sourceAs (d : Document) (style : Style) (kind : Option Kind) : Except ReplayError String :=
  let (store, outcome) := d.apply { style }
  outcome.map fun _ => (store.setKind (kind.getD d.kind)).source

variable {d : Document} {style : Style} {kind : Kind}

private theorem sourceAs_some :
    d.sourceAs style (some kind) = { d with kind }.sourceAs style none := by
  have hsteps : { d with kind }.steps = d.steps := rfl
  rw [sourceAs, sourceAs, apply, apply, hsteps]
  rcases Store.replay { style } d.steps with ⟨s, e | _⟩
  · rfl
  · have hsource : ((s.setKind d.kind).setKind kind).source =
        ((s.setKind kind).setKind kind).source :=
      Store.source_congr (by rw [Store.setKind_diagram, Store.setKind_diagram])
        (by rw [Store.setKind_style, Store.setKind_style])
    exact congrArg Except.ok hsource

end Document

/-- The arguments may differ in the output and in what only matters to it. -/
structure Arguments.Agrees (a b : Arguments) : Prop where
  input : a.input = b.input
  config : a.config = b.config
  kind : a.kind = b.kind

namespace Machine

variable {m m' : Machine} {config : Config} {args args' : Arguments} {session : Session}

/-- The source that a run gives away, unless something fails before. -/
def text (m : Machine) (args : Arguments) : Except Failure String := do
  let config ← m.config args.config
  let session ← m.session config args
  return session.store.source

theorem text_eq_ok {text : String} (h : m.text args = .ok text) :
    ∃ config session, m.config args.config = .ok config ∧ m.session config args = .ok session ∧
      session.store.source = text := by
  obtain ⟨config, hconfig, h⟩ := bind_eq_ok.mp h
  obtain ⟨session, hsession, h⟩ := bind_eq_ok.mp h
  exact ⟨config, session, hconfig, hsession, Except.ok.inj h⟩

private theorem session_eq_ok (h : m.session config args = .ok session) :
    ∃ document style store, m.document args.input = .ok document ∧
      config.style.validated = .ok style ∧ document.apply { style } = (store, .ok ()) ∧
      session = match args.kind with
        | none => { store }
        | some kind => Session.setKind { store } kind := by
  obtain ⟨document, hdocument, h⟩ := bind_eq_ok.mp h
  obtain ⟨style, hstyle, h⟩ := bind_eq_ok.mp h
  rcases happly : document.apply { style } with ⟨store, e | _⟩
  · rw [happly] at h
    cases h
  · rw [happly] at h
    exact ⟨document, style, store, hdocument, mapError_eq_ok hstyle, happly,
      (Except.ok.inj h).symm⟩

/-- A new session shows the kind that is asked for, or that of the document, and has issued no
ticket. -/
private theorem session_fresh (h : m.session config args = .ok session) :
    ∃ document, m.document args.input = .ok document ∧
      session.store.kind = args.kind.getD document.kind ∧ session.invalidated ≤ session.latest := by
  obtain ⟨document, style, store, hdocument, -, happly, rfl⟩ := session_eq_ok h
  refine ⟨document, hdocument, ?_⟩
  cases args.kind with
  | none =>
    have hkind : store.kind = document.kind := by
      rw [Document.apply_eq_ok happly, Store.setKind_kind]
    exact ⟨hkind, Nat.le_refl 0⟩
  | some kind =>
    have hkind : (store.setKind kind).kind = kind := Store.setKind_kind
    exact ⟨hkind, Nat.le_refl 0⟩

private theorem session_source (m : Machine) (config : Config) (args : Arguments) :
    (m.session config args).map (·.store.source) = (do
      let document ← m.document args.input
      let style ← config.style.validated.mapError .style
      (document.sourceAs style args.kind).mapError .document) := by
  rw [Machine.session]
  cases m.document args.input with
  | error failure => rfl
  | ok document =>
    cases config.style.validated with
    | error rejection => rfl
    | ok style =>
      dsimp only [bind, Except.bind, Except.mapError]
      rw [Document.sourceAs]
      rcases happly : document.apply { style } with ⟨store, e | _⟩
      · rfl
      · cases args.kind with
        | none =>
          have hkind : store.kind = document.kind := by
            rw [Document.apply_eq_ok happly, Store.setKind_kind]
          have hsame : store.setKind document.kind = store := by
            rw [Store.setKind, if_pos hkind]
          exact congrArg (Except.ok ·.source) hsame.symm
        | some kind => rfl

private theorem text_toOption (m : Machine) (args : Arguments) :
    (m.text args).toOption = (do
      let config ← (m.config args.config).toOption
      let document ← (m.document args.input).toOption
      let style ← config.style.validated.toOption
      (document.sourceAs style args.kind).toOption) := by
  have htext : m.text args = (m.config args.config).bind fun config =>
      (m.session config args).map (·.store.source) := rfl
  rw [htext]
  cases m.config args.config with
  | error failure => rfl
  | ok config =>
    dsimp only [bind, Except.bind, Except.toOption, Option.bind]
    rw [session_source]
    cases m.document args.input with
    | error failure => rfl
    | ok document =>
      cases hstyle : config.style.validated with
      | error rejection => rfl
      | ok style =>
        dsimp only [bind, Except.bind, Except.mapError]
        cases document.sourceAs style args.kind with
        | error e => rfl
        | ok text => rfl

/-- An override of the kind has the effect of another kind in the document. -/
private theorem text_rekinded {kind : Kind} (hkind : args.kind = some kind)
    (hnone : args'.kind = none)
    (hconfig : (m'.config args'.config).toOption = (m.config args.config).toOption)
    (hdocument : (m'.document args'.input).toOption =
      (m.document args.input).toOption.map ({ · with kind })) :
    (m'.text args').toOption = (m.text args).toOption := by
  rw [text_toOption, text_toOption, hconfig, hdocument, hkind, hnone]
  simp only [Option.bind_eq_bind, Option.bind_map, Function.comp_def, Document.sourceAs_some]

private theorem config_congr {m' : Machine} {args' : Arguments} (hfile : m'.isFile = m.isFile)
    (hread : m'.read = m.read) (h : args'.Agrees args) :
    m'.config args'.config = m.config args.config := by
  have hpath : m'.config args.config = m.config args.config := by
    cases args.config with
    | none => rfl
    | some path => rw [Machine.config, Machine.config, hfile, readText, readText, hread]
  rw [h.config, hpath]

private theorem session_congr {m' : Machine} {args' : Arguments} (hread : m'.read = m.read)
    (hinput : m'.input = m.input) (h : args'.Agrees args) :
    m'.session config args' = m.session config args := by
  rw [Machine.session, Machine.session, h.input, h.kind, document, document, readText, readText,
    hread, hinput]

private theorem outputFormat_of_extension {output extension : String} {format : OutputFormat}
    (hdirectory : m.isDirectory output = false)
    (hextension : Path.textExtension? (Path.ofText output) = some extension)
    (hlookup : OutputFormat.extensions.lookup extension = some format) :
    m.outputFormat output = .ok format := by
  rw [outputFormat, hdirectory, OutputFormat.ofPath, hextension]
  dsimp only
  rw [hlookup]
  rfl

theorem plan_print (houtput : args.output = none) : m.plan args = (m.text args).map .print := by
  rw [plan, text, houtput]
  cases m.config args.config with
  | error failure => rfl
  | ok config =>
    dsimp only [bind, Except.bind]
    cases m.session config args with
    | error failure => rfl
    | ok session => rfl

theorem plan_source {output : String} (houtput : args.output = some output)
    (hformat : m.outputFormat output = .ok .source) (hconfig : m.config args.config = .ok config)
    (hsession : m.session config args = .ok session) :
    m.plan args = .ok (.saveSource output session.store.source) := by
  rw [plan, hconfig]
  dsimp only [bind, Except.bind]
  rw [hsession, houtput]
  dsimp only
  rw [hformat]
  rfl

/-- The place of a picture: a new name in a directory, or the path itself. -/
def picturePath (m : Machine) (output : String) (kind : Kind) : String :=
  if m.isDirectory output then join output (outputFileName kind m.now) else output

theorem plan_picture {output : String} {format : OutputFormat} (houtput : args.output = some output)
    (hformat : m.outputFormat output = .ok format) (hrender : format.needsRender = true)
    (hconfig : m.config args.config = .ok config) (hsession : m.session config args = .ok session) :
    m.plan args = (do
      let picture ← (m.render (renderer config args) session.store.source).mapError
        (.generation <| .render ·)
      if picture.isEmpty then throw (.generation (.render .emptyResponse))
      let content ← (format.encode m.converters args.scale picture).mapError .unsavedPicture
      return .savePicture (m.picturePath output session.store.kind) content) := by
  obtain ⟨-, -, -, hfresh⟩ := session_fresh hsession
  rw [plan, hconfig]
  dsimp only [bind, Except.bind]
  rw [hsession, houtput]
  dsimp only
  rw [hformat]
  dsimp only
  rw [hrender, Session.generate_fresh hfresh]
  cases m.render (renderer config args) session.store.source with
  | error failure => rfl
  | ok picture =>
    dsimp only [bind, Except.bind, Except.mapError]
    by_cases hempty : picture.isEmpty = true
    · rw [if_pos hempty, if_pos hempty]
      rfl
    · rw [if_neg hempty, if_neg hempty]
      rfl

end Machine

namespace Surroundings

def savePicture (s : Surroundings) (files : Files) (args : Arguments) (format : OutputFormat)
    (path : String) (answer : Except RenderFailure ByteArray) : Outcome × Files :=
  let saved : Except Failure Files := do
    let picture ← answer.mapError (.generation <| .render ·)
    if picture.isEmpty then throw (.generation (.render .emptyResponse))
    let content ← (format.encode s.converters args.scale picture).mapError .unsavedPicture
    (files.write path content).mapError fun e => .unsavedPicture (.notWritten path e.message)
  match saved with
  | .error failure => (args.conclude failure.outcome, files)
  | .ok changed =>
    (args.conclude { exitCode := 0, errors := ["Diagram saved to: " ++ path] }, changed)

variable {s : Surroundings} {files : Files} {config : Config} {args : Arguments} {session : Session}

private theorem execute_picture {output : String} {format : OutputFormat}
    (houtput : args.output = some output)
    (hformat : (s.machine files).outputFormat output = .ok format)
    (hrender : format.needsRender = true)
    (hconfig : (s.machine files).config args.config = .ok config)
    (hsession : (s.machine files).session config args = .ok session) :
    s.execute files args = s.savePicture files args format
      ((s.machine files).picturePath output session.store.kind)
      (s.renderers.render (Machine.renderer config args) session.store.source) := by
  rw [execute, Machine.plan_picture houtput hformat hrender hconfig hsession, savePicture]
  generalize (s.machine files).picturePath output session.store.kind = path
  have hanswer : (s.machine files).render = s.renderers.render := rfl
  have hconverters : (s.machine files).converters = s.converters := rfl
  rw [hanswer, hconverters]
  cases s.renderers.render (Machine.renderer config args) session.store.source with
  | error failure => rfl
  | ok picture =>
    dsimp only [bind, Except.bind, Except.mapError]
    by_cases hempty : picture.isEmpty = true
    · rw [if_pos hempty, if_pos hempty]
      rfl
    · rw [if_neg hempty, if_neg hempty]
      cases format.encode s.converters args.scale picture with
      | error e => rfl
      | ok content =>
        dsimp only [pure, Except.pure, Plan.carryOut, Plan.file?]
        cases files.write path content with
        | error e => rfl
        | ok changed => rfl

theorem run_eq_execute {words : List String} (hwords : Arguments.parse words = .ok args) :
    s.run files words = s.execute files args := by
  rw [run, hwords]

private theorem run_print (s : Surroundings) (files : Files) {words : List String}
    (hwords : Arguments.parse words = .ok args) (houtput : args.output = none) :
    (s.run files words).1.exitCode =
        (if ((s.machine files).text args).toOption.isSome then 0 else 1) ∧
      (s.run files words).1.output = ((s.machine files).text args).toOption.getD "" := by
  rw [run_eq_execute hwords, execute, Machine.plan_print houtput]
  cases (s.machine files).text args with
  | error failure => exact ⟨rfl, rfl⟩
  | ok text => exact ⟨rfl, rfl⟩

/-- What a run does with a text, by the output that is asked for: the text is printed, is the
content of a file, or becomes a picture. A picture in a directory is named after the kind of its
diagram. -/
structure Carries (s : Surroundings) (files : Files) (words : List String) (args : Arguments)
    (config : Config) (kind : Kind) (text : String) : Prop where
  printed : args.output = none →
    (s.run files words).1.exitCode = 0 ∧ (s.run files words).1.output = text
  saved : ∀ path extension, args.output = some path → files.IsWritable path →
    Path.textExtension? (Path.ofText path) = some extension →
    extension ∈ ["puml", "plantuml", "txt"] →
      (s.run files words).1.exitCode = 0 ∧ ∃ executable,
        (s.run files words).2.find path = .ok (.file text.toUTF8 executable)
  drawn : ∀ path extension format, args.output = some path → files.isDirectory path = false →
    Path.textExtension? (Path.ofText path) = some extension →
    (extension, format) ∈ [("svg", OutputFormat.svg), ("png", .png), ("pdf", .pdf)] →
      s.run files words = s.savePicture files args format path
        (s.renderers.render (Machine.renderer config args) text)
  filed : ∀ directory, args.output = some directory → files.isDirectory directory = true →
    ∃ rest, s.run files words = s.savePicture files args .svg
      (Machine.join directory (kind.slug ++ rest))
      (s.renderers.render (Machine.renderer config args) text)

private theorem carries {words : List String} (hwords : Arguments.parse words = .ok args)
    (hconfig : (s.machine files).config args.config = .ok config)
    (hsession : (s.machine files).session config args = .ok session) :
    s.Carries files words args config session.store.kind session.store.source where
  printed houtput := by
    have htext : (s.machine files).text args = .ok session.store.source := by
      rw [Machine.text, hconfig]
      dsimp only [bind, Except.bind]
      rw [hsession]
      rfl
    have hprint := run_print s files hwords houtput
    rw [htext] at hprint
    exact hprint
  saved path extension houtput hwritable hextension hmem := by
    have hdirectory := hwritable.not_isDirectory
    have hformat : (s.machine files).outputFormat path = .ok .source := by
      refine Machine.outputFormat_of_extension hdirectory hextension ?_
      simp only [List.mem_cons, List.not_mem_nil, or_false] at hmem
      rcases hmem with rfl | rfl | rfl <;> rfl
    obtain ⟨changed, executable, hwrite, hfind⟩ :=
      Files.write_find hwritable session.store.source.toUTF8
    have hcarried : (Plan.saveSource path session.store.source).carryOut files = .ok changed := by
      rw [Plan.carryOut, Plan.file?]
      dsimp only
      rw [hwrite]
      rfl
    rw [run_eq_execute hwords, execute, Machine.plan_source houtput hformat hconfig hsession]
    dsimp only
    rw [hcarried]
    exact ⟨rfl, executable, hfind⟩
  drawn path extension format houtput hdirectory hextension hmem := by
    have hformat : (s.machine files).outputFormat path = .ok format ∧
        format.needsRender = true := by
      simp only [List.mem_cons, List.not_mem_nil, or_false, Prod.mk.injEq] at hmem
      rcases hmem with ⟨rfl, rfl⟩ | ⟨rfl, rfl⟩ | ⟨rfl, rfl⟩ <;>
        exact ⟨Machine.outputFormat_of_extension hdirectory hextension rfl, rfl⟩
    have hpath : (s.machine files).picturePath path session.store.kind = path :=
      if_neg (Bool.eq_false_iff.mp hdirectory)
    rw [run_eq_execute hwords, execute_picture houtput hformat.1 hformat.2 hconfig hsession, hpath]
  filed directory houtput hdirectory := by
    have hformat : (s.machine files).outputFormat directory = .ok .svg := if_pos hdirectory
    have hpath : (s.machine files).picturePath directory session.store.kind =
        Machine.join directory (outputFileName session.store.kind s.now) := if_pos hdirectory
    refine ⟨"-diagram-" ++ s.now.stamp ++ ".svg", ?_⟩
    rw [run_eq_execute hwords, execute_picture houtput hformat rfl hconfig hsession, hpath,
      outputFileName, String.append_assoc, String.append_assoc, String.append_assoc]

/-- All the ways out of the program carry the text that is printed without an output, and an
override of the kind has the effect of another kind in the document. -/
theorem outputs_agree (s : Surroundings) (files : Files) {words : List String} {args : Arguments}
    (hwords : Arguments.parse words = .ok args) (houtput : args.output = none) :
    ((s.run files words).1.exitCode = 0 →
      ∃ config document, (s.machine files).config args.config = .ok config ∧
        (s.machine files).document args.input = .ok document ∧
        ∀ (s' : Surroundings) (words' : List String) (args' : Arguments), s'.input = s.input →
          Arguments.parse words' = .ok args' → args'.Agrees args →
            s'.Carries files words' args' config (args.kind.getD document.kind)
              (s.run files words).1.output) ∧
    ∀ kind, args.kind = some kind →
      ∀ (s' : Surroundings) (files' : Files) (words' : List String) (args' : Arguments),
        Arguments.parse words' = .ok args' → args'.output = none → args'.kind = none →
        ((s'.machine files').config args'.config).toOption =
          ((s.machine files).config args.config).toOption →
        ((s'.machine files').document args'.input).toOption =
          ((s.machine files).document args.input).toOption.map ({ · with kind }) →
          (s'.run files' words').1.exitCode = (s.run files words).1.exitCode ∧
            (s'.run files' words').1.output = (s.run files words).1.output := by
  obtain ⟨hexit, hprinted⟩ := run_print s files hwords houtput
  refine ⟨fun hzero => ?_, ?_⟩
  · cases htext : (s.machine files).text args with
    | error failure =>
      rw [hexit, htext] at hzero
      cases hzero
    | ok text =>
      obtain ⟨config, session, hconfig, hsession, rfl⟩ := Machine.text_eq_ok htext
      obtain ⟨document, hdocument, hkind, -⟩ := Machine.session_fresh hsession
      refine ⟨config, document, hconfig, hdocument, ?_⟩
      intro s' words' args' hinput hwords' hagrees
      have hfile : (s'.machine files).isFile = (s.machine files).isFile := rfl
      have hread : (s'.machine files).read = (s.machine files).read := rfl
      have hstdin : (s'.machine files).input = (s.machine files).input := hinput
      have hconfig' := (Machine.config_congr hfile hread hagrees).trans hconfig
      have hsession' := (Machine.session_congr hread hstdin hagrees).trans hsession
      rw [hprinted, htext, ← hkind]
      exact carries hwords' hconfig' hsession'
  · intro kind hkind s' files' words' args' hwords' houtput' hnone hconfig hdocument
    obtain ⟨hexit', hprinted'⟩ := run_print s' files' hwords' houtput'
    have hsame := Machine.text_rekinded hkind hnone hconfig hdocument
    rw [hexit, hexit', hprinted, hprinted', hsame]
    exact ⟨rfl, rfl⟩

/-- A state diagram from a document of another kind above the working directory, to a file at the
root, and from one of its own kind. -/
theorem outputs_agree_state :
    let text (kind : String) : String :=
      "\x7b\"kind\":\"" ++ kind ++ "\",\"state\":\x7b\"states\":[\"Idle\"]\x7d\x7d"
    let files (kind : String) : Files :=
      { nodes := [([Path.ofText "doc.json"], .file (text kind).toUTF8 false),
          ([Path.ofText "home"], .directory)]
        here := [Path.ofText "home"] }
    let s : Surroundings := ⟨.empty, ⟨fun _ _ _ => .error .emptyResponse, fun _ _ _ => .error ""⟩,
      ⟨fun _ _ => .error "", fun _ => .error ""⟩, ⟨0, 0⟩⟩
    let printed := (s.run (files "class") ["../doc.json", "-k", "state"]).1
    let saved := (s.run (files "class") ["../doc.json", "-k", "state", "-o", "/out.puml"]).2
    printed.exitCode = 0 ∧
      (∃ executable, saved.find "/out.puml" = .ok (.file printed.output.toUTF8 executable)) ∧
      (s.run (files "state") ["/doc.json"]).1.output = printed.output := by
  intro text files s printed saved
  have hwords : Arguments.parse ["../doc.json", "-k", "state"] =
      .ok { input := "../doc.json", kind := some .state } := by decide +kernel
  have hsaving : Arguments.parse ["../doc.json", "-k", "state", "-o", "/out.puml"] =
      .ok { input := "../doc.json", kind := some .state, output := some "/out.puml" } := by
    decide +kernel
  have hplain : Arguments.parse ["/doc.json"] = .ok { input := "/doc.json" } := by decide +kernel
  have hexit : printed.exitCode = 0 := by decide +kernel
  have hwritable : (files "class").IsWritable "/out.puml" :=
    ⟨[Path.ofText "out.puml"], by decide +kernel⟩
  have hextension : Path.textExtension? (Path.ofText "/out.puml") = some "puml" := by
    decide +kernel
  have hdocument : ((s.machine (files "state")).document "/doc.json").toOption =
      ((s.machine (files "class")).document "../doc.json").toOption.map
        ({ · with kind := .state }) := by
    decide +kernel
  obtain ⟨hcarried, hrekinded⟩ := outputs_agree s (files "class") hwords rfl
  obtain ⟨config, document, -, -, hagree⟩ := hcarried hexit
  have hcarries := hagree s _ _ rfl hsaving ⟨rfl, rfl, rfl⟩
  have hsaved := hcarries.saved "/out.puml" "puml" rfl hwritable hextension (by decide)
  have hprinted := hrekinded .state rfl s (files "state") _ _ hplain rfl rfl rfl hdocument
  exact ⟨hexit, hsaved.2, hprinted.2⟩

end Surroundings

end UmlDiagrams
