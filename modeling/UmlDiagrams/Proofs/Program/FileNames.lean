import UmlDiagrams.Proofs.Calendar.Stamps
import UmlDiagrams.Proofs.Program.Paths
import UmlDiagrams.Proofs.Text.Ascii
/-!
# Names of generated files

The name of a file tells the kind of the diagram and the second at which it was made. Names of one
kind sort by time, and all of them stay in the directory they are joined to.
-/

namespace UmlDiagrams

variable {a b : String} {kind : Kind} {t u : Instant}

/-- Text that is a name in any directory, but for its length: ASCII without a slash. -/
def Portable (s : String) : Prop :=
  ∀ c ∈ s.toList, c.toNat < 128 ∧ c ≠ '/'

instance (s : String) : Decidable (Portable s) :=
  List.decidableBAll (fun c : Char => c.toNat < 128 ∧ c ≠ '/') s.toList

private theorem portable_append : Portable (a ++ b) ↔ Portable a ∧ Portable b := by
  rw [Portable, String.toList_append, List.forall_mem_append]
  rfl

private theorem portable_padded (width n : Nat) : Portable (padded width n) := by
  intro c hc
  have hdigit := digit_value (isDigit_of_mem_padded hc)
  constructor
  · change c.toNat - 48 < 10 ∧ 48 ≤ c.toNat at hdigit
    omega
  · rintro rfl
    revert hdigit
    decide

private theorem portable_yearText (year : Int) : Portable (Instant.yearText year) := by
  rw [Instant.yearText]
  split
  · exact portable_append.mpr ⟨by decide, portable_padded _ _⟩
  · split
    · exact portable_append.mpr ⟨by decide, portable_padded _ _⟩
    · exact portable_padded _ _

private theorem portable_outputFileName (kind : Kind) (t : Instant) :
    Portable (outputFileName kind t) := by
  have hslug : Portable kind.slug := by
    cases kind <;> decide
  have hyear := portable_yearText t.date.year
  have hdash : Portable "-" := by decide
  have hfixed : Portable "-diagram-" ∧ Portable "T" ∧ Portable ".svg" := by decide
  simp only [outputFileName, Instant.stamp, portable_append, hslug, hyear, hdash, hfixed,
    portable_padded, and_self]

private theorem Portable.slash_notMem (h : Portable a) : Path.slash ∉ Path.ofText a := by
  rw [Path.ofText_eq, List.mem_flatMap]
  rintro ⟨c, hc, hbyte⟩
  obtain ⟨hascii, hslash⟩ := h c hc
  rw [String.utf8EncodeChar_eq_singleton (Text.utf8Size_of_ascii hascii),
    List.mem_singleton] at hbyte
  have hnat : 47 = c.toNat % 256 := congrArg UInt8.toNat hbyte
  rw [Nat.mod_eq_of_lt (by omega)] at hnat
  exact hslash (Char.toNat_inj.mp hnat.symm)

private theorem outputFileName_eq (kind : Kind) (t : Instant) :
    outputFileName kind t = kind.slug ++ ("-diagram-" ++ (t.stamp ++ ".svg")) := by
  simp only [outputFileName, String.append_assoc]

def readFileName? (name : String) : Option (Kind × Instant) :=
  let slug := name.toList.takeWhile (· ≠ '-')
  (Kind.all.find? (·.slug.toList = slug)).map fun kind =>
    (kind, .ofStamp (name.toList.drop (slug.length + "-diagram-".length)))

private theorem readFileName?_outputFileName (kind : Kind) (h : t.Stamped) :
    readFileName? (outputFileName kind t) = some (kind, t.truncated) := by
  have hslug : ∀ c ∈ kind.slug.toList, decide (c ≠ '-') :=
    Text.forall_mem_of_all (by cases kind <;> decide)
  have hfind : Kind.all.find? (·.slug.toList = kind.slug.toList) = some kind := by
    cases kind <;> decide
  have hchars : (outputFileName kind t).toList =
      kind.slug.toList ++ ("-diagram-".toList ++ (t.stamp.toList ++ '.' :: "svg".toList)) := by
    rw [outputFileName_eq]
    simp
  have hdash : "-diagram-".toList = '-' :: "diagram-".toList := by decide
  have htake : (outputFileName kind t).toList.takeWhile (· ≠ '-') = kind.slug.toList := by
    rw [hchars, List.takeWhile_append_of_pos hslug, hdash, List.cons_append,
      List.takeWhile_cons_of_neg (by decide), List.append_nil]
  have hdrop : (outputFileName kind t).toList.drop (kind.slug.toList.length + "-diagram-".length) =
      t.stamp.toList ++ '.' :: "svg".toList := by
    rw [hchars, ← List.drop_drop, List.drop_left, List.drop_left' String.length_toList]
  rw [readFileName?]
  simp only [htake]
  rw [hfind, hdrop, Option.map_some, Instant.ofStamp_stamp h]

private theorem outputFileName_lt_iff (kind : Kind) (ht : t.Stamped) (hu : u.Stamped) :
    outputFileName kind t < outputFileName kind u ↔ t.truncated.Before u.truncated := by
  rw [outputFileName_eq, outputFileName_eq, string_append_lt_iff, string_append_lt_iff,
    Instant.stamp_append_lt_iff ht hu]

private theorem outputFileName_inj (ht : t.Stamped) (hu : u.Stamped) :
    outputFileName kind t = outputFileName kind u ↔ t.truncated = u.truncated := by
  constructor
  · intro h
    have hread := readFileName?_outputFileName kind ht
    rw [h, readFileName?_outputFileName kind hu] at hread
    exact (Prod.mk.inj (Option.some.inj hread)).2.symm
  · intro h
    rw [outputFileName, outputFileName, ← t.stamp_truncated, h, u.stamp_truncated]

private theorem outputFileName_of_leap (kind : Kind) (h : t.Stamped)
    (hleap : Instant.billion ≤ t.nanos) :
    ∃ front, outputFileName kind t = front ++ "60.svg" := by
  have hsecond : padded 2 t.second = "60" := by
    rw [Instant.second_of_leap h.isInstant hleap]
    decide
  have hend (front : String) : front ++ "60" ++ ".svg" = front ++ "60.svg" := by
    rw [String.append_assoc]
    rfl
  rw [outputFileName, Instant.stamp, hsecond, ← String.append_assoc]
  exact ⟨_, hend _⟩

theorem isEntry_outputFileName (kind : Kind) (t : Instant) :
    Path.IsEntry (Path.ofText (outputFileName kind t)) := by
  have hlength : 4 ≤ (Path.ofText (outputFileName kind t)).length := by
    have hsvg : (Path.ofText ".svg").length = 4 := by
      rw [Path.ofText_eq]
      decide
    rw [outputFileName, Path.ofText_append, List.length_append, hsvg]
    omega
  refine ⟨(portable_outputFileName kind t).slash_notMem, ?_, ?_, ?_⟩ <;>
  · intro h
    rw [h] at hlength
    revert hlength
    decide

/-- The names of generated files. In the years of four digits a name can be read back to the kind
and the second of the instant, and names of one kind sort by time. At any time, the name stays in the
directory to which it is joined. -/
theorem outputFileName_legible :
    (∀ (kind : Kind) (t : Instant), t.Stamped →
      readFileName? (outputFileName kind t) = some (kind, t.truncated) ∧
      (Instant.billion ≤ t.nanos → ∃ front, outputFileName kind t = front ++ "60.svg") ∧
      ∀ u : Instant, u.Stamped →
        (outputFileName kind t = outputFileName kind u ↔ t.truncated = u.truncated) ∧
        (outputFileName kind t < outputFileName kind u ↔ t.truncated.Before u.truncated)) ∧
    ∀ (kind : Kind) (t : Instant),
      '/' ∉ (outputFileName kind t).toList ∧
      (∃ stem, outputFileName kind t = stem ++ ".svg") ∧
      ∀ directory, Path.components (Path.ofText (Machine.join directory (outputFileName kind t))) =
          Path.components (Path.ofText directory) ++ [Path.ofText (outputFileName kind t)] ∧
        ∀ (f : Files) (found : List (List UInt8)), f.isDirectory directory →
          f.target (Machine.join directory (outputFileName kind t)) = .ok found →
          ∃ place, f.locate directory = .ok place ∧
            found = place ++ [Path.ofText (outputFileName kind t)] := by
  refine ⟨fun kind t ht => ⟨readFileName?_outputFileName kind ht, outputFileName_of_leap kind ht,
    fun u hu => ⟨outputFileName_inj ht hu, outputFileName_lt_iff kind ht hu⟩⟩, fun kind t => ?_⟩
  have hentry := isEntry_outputFileName kind t
  refine ⟨fun hm => (portable_outputFileName kind t '/' hm).2 rfl, ⟨_, rfl⟩, fun directory => ?_⟩
  exact ⟨Machine.components_join directory hentry, fun f found hdirectory hfound =>
    Files.target_join hdirectory hentry hfound⟩

/-- The leap second at the end of 2016, the second after it, and a directory beside the working
one. -/
theorem outputFileName_legible_leap :
    let t : Instant := ⟨1483228799, 1500000000⟩
    let u : Instant := ⟨1483228800, 0⟩
    let f : Files :=
      { nodes := [([Path.ofText "out"], .directory), ([Path.ofText "home"], .directory)]
        here := [Path.ofText "home"] }
    let name := outputFileName .useCase t
    readFileName? name = some (.useCase, ⟨1483228799, 1000000000⟩) ∧
      (∃ front, name = front ++ "60.svg") ∧ name < outputFileName .useCase u ∧
      ∃ place, f.locate "../out/" = .ok place ∧ [Path.ofText "out", Path.ofText name] =
        place ++ [Path.ofText name] := by
  intro t u f name
  have ht : t.Stamped := ⟨by decide, by decide, by decide⟩
  have hu : u.Stamped := ⟨by decide, by decide, by decide⟩
  have hdirectory : f.isDirectory "../out/" := by decide +kernel
  have htarget : f.target (Machine.join "../out/" name) =
      .ok [Path.ofText "out", Path.ofText name] := by
    decide +kernel
  have htruncated : t.truncated = ⟨1483228799, 1000000000⟩ := by decide
  obtain ⟨hread, hleap, horder⟩ := outputFileName_legible.1 .useCase t ht
  rw [htruncated] at hread
  exact ⟨hread, hleap (by decide), (horder u hu).2.mpr (.inl (by decide)),
    ((outputFileName_legible.2 .useCase t).2.2 "../out/").2 f _ hdirectory htarget⟩

end UmlDiagrams
