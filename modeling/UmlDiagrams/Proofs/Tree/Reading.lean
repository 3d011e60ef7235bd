import UmlDiagrams.Document.Decode
import UmlDiagrams.Proofs.Tree.Spelling
/-!
# Reading of spelled tables

A reader that reads texts, flags, lists and tables as a script writes them reads every field of a
spelled table as the value that the field is meant to have.
-/

namespace UmlDiagrams

variable {m : Type → Type} [Monad m] [MonadLiftT Option m] {τ α : Type}

/-- The reader reads what is written as what it says. -/
structure Reader.Reads (r : Reader m τ) (S : Script τ) : Prop where
  some : ∀ {α : Type} (a : α), (liftM (some a) : m α) = pure a
  text : ∀ {value s}, S.IsText value s → r.text value = pure s
  choice : ∀ {value s}, S.IsText value s → r.choice value = pure s
  flag : ∀ {value b}, S.IsFlag value b → r.flag value = pure b
  items : ∀ {value items}, S.IsList value items → r.items value = pure items
  table : ∀ {value entries}, S.IsTable value entries → r.table value = pure (.named entries)
  present : ∀ {value s}, S.IsText value s → r.present value = pure (Option.some value)
  absent : ∀ {value}, S.IsNothing value → r.present value = pure none

/-- A failure stays one, whatever is read after it, and whatever would be read before it. -/
structure FailsFast (m : Type → Type) [Monad m] [MonadLiftT Option m] : Prop where
  after : ∀ {α β : Type} (f : α → m β), (liftM (none : Option α) >>= f) = liftM (none : Option β)
  before : ∀ {α β : Type} (x : m α), (x >>= fun _ => liftM (none : Option β)) =
    liftM (none : Option β)

namespace Reader.Reads

variable {r : Reader m τ} {S : Script τ} {shape : Shape}
  {found : List (String × τ)} {name : String} {value : τ}

omit [MonadLiftT Option m] in
/-- A field is read as its value if both the default and the reading of a value are right. -/
private theorem readField {f : Field τ} (h : f.Found found) {default a : α} {read : τ → m α}
    (husual : f.IsUsual → default = a) (hread : ∀ value, f.IsWritten value → read value = pure a) :
    readField found f.name default read = pure a := by
  rw [UmlDiagrams.readField]
  rcases h with ⟨hu, hlookup⟩ | ⟨value, hlookup, hwritten⟩
  · rw [hlookup]
    exact congrArg pure (husual hu)
  · rw [hlookup]
    exact hread value hwritten

theorem textField (hr : r.Reads S) {s : String} (h : (S.text name s).Found found) :
    readText r found name = pure s :=
  readField h Eq.symm fun _ => hr.text

theorem flagField (hr : r.Reads S) {b : Bool} (h : (S.flag name b).Found found) :
    readFlag r found name = pure b :=
  readField h Eq.symm fun _ => hr.flag

variable [LawfulMonad m]

theorem fields (hr : r.Reads S) {fields : List (Field τ)} (hshape : shape.Lists fields)
    (h : S.Spells shape.strict fields value) :
    ∃ found, r.fields shape value = pure found ∧ ∀ f ∈ fields, f.Found found := by
  obtain ⟨entries, htable, hin, hknown⟩ := h
  obtain ⟨found, hcollect, hfound⟩ := Shape.found_of_in hshape hin hknown
  refine ⟨found, ?_, hfound⟩
  rw [Reader.fields, hr.table htable, pure_bind, Shape.select?, hcollect, hr.some]

private theorem spelled (hr : r.Reads S) {spellings : List (String × α)}
    (hspellings : (spellings.map Prod.fst).Nodup) {a : α} (h : S.IsChoice spellings value a) :
    r.spelled spellings value = pure a := by
  obtain ⟨word, htext, hmem⟩ := h
  rw [Reader.spelled, hr.choice htext, pure_bind, Shape.lookup_of_mem hspellings hmem, hr.some]

theorem choiceField (hr : r.Reads S) {spellings : List (String × α)}
    (hspellings : (spellings.map Prod.fst).Nodup) {default usual a : α} (hdefault : default = usual)
    (h : (S.choice name spellings usual a).Found found) :
    UmlDiagrams.readField found name default (r.spelled spellings) = pure a :=
  readField h (fun ha => hdefault.trans (Eq.symm ha)) fun _ => hr.spelled hspellings

private theorem optionalField (hr : r.Reads S) {Is : τ → α → Prop} {a? : Option α} {read : τ → m α}
    (hread : ∀ value a, Is value a → read value = pure a)
    (htext : ∀ value a, Is value a → ∃ word, S.IsText value word)
    (h : (S.optional name Is a?).Found found) : readOptional r found name read = pure a? := by
  refine readField h Eq.symm fun value hwritten => ?_
  rw [Reader.optional]
  cases a? with
  | none =>
    have habsent : S.IsNothing value := hwritten
    rw [hr.absent habsent, pure_bind]
  | some a =>
    have his : Is value a := hwritten
    obtain ⟨word, hword⟩ := htext value a his
    rw [hr.present hword, pure_bind]
    change (read value >>= fun a => pure (Option.some a)) = _
    rw [hread value a his, pure_bind]

theorem optionalText (hr : r.Reads S) {text? : Option String}
    (h : (S.optional name S.IsText text?).Found found) :
    readOptional r found name r.text = pure text? :=
  hr.optionalField (fun _ _ => hr.text) (fun _ text htext => ⟨text, htext⟩) h

theorem optionalChoice (hr : r.Reads S) {spellings : List (String × α)}
    (hspellings : (spellings.map Prod.fst).Nodup) {a? : Option α}
    (h : (S.optional name (S.IsChoice spellings) a?).Found found) :
    readOptional r found name (r.spelled spellings) = pure a? :=
  hr.optionalField (fun _ _ => hr.spelled hspellings)
    (fun _ _ hchoice => hchoice.imp fun _ hword => hword.1) h

theorem listField (hr : r.Reads S) {Is : τ → α → Prop} {as : List α} {read : τ → m α}
    (hread : ∀ value a, Is value a → read value = pure a)
    (h : (S.list name Is as).Found found) : readList r found name read = pure as := by
  refine readField h Eq.symm fun value hwritten => ?_
  obtain ⟨items, hlist, his⟩ := hwritten
  rw [Reader.listOf, hr.items hlist, pure_bind]
  clear hlist h
  induction his with
  | nil => rfl
  | cons hitem _ ih =>
    rw [List.mapM_cons, hread _ _ hitem, pure_bind, ih, pure_bind]

theorem textList (hr : r.Reads S) {texts : List String}
    (h : (S.list name S.IsText texts).Found found) :
    readList r found name r.text = pure texts :=
  hr.listField (fun _ _ => hr.text) h

omit [MonadLiftT Option m] [LawfulMonad m] in
theorem recordField {aliases : List String} {usual a : α} {Is : τ → α → Prop} {read : τ → m α}
    (hread : ∀ value a, Is value a → read value = pure a)
    (h : (Field.record name aliases usual Is a).Found found) :
    UmlDiagrams.readField found name usual read = pure a :=
  readField h Eq.symm fun value => hread value a

end Reader.Reads

end UmlDiagrams
