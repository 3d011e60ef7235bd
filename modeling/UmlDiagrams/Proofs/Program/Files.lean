import UmlDiagrams.Files
import UmlDiagrams.Proofs.Results

namespace UmlDiagrams.Files

variable {f : Files} {place : List (List UInt8)} {node : FileNode}

/-- A file can be written at the path, whether or not there is one. -/
def IsWritable (f : Files) (path : String) : Prop :=
  ∃ place, f.target path = .ok place

theorem node?_insert_self (hplace : place ≠ []) :
    (f.insert place node).node? place = some node := by
  rw [node?, if_neg hplace, insert, List.lookup_cons_self]

private theorem lookup_filter_ne {α β : Type} [BEq α] [LawfulBEq α] [DecidableEq α]
    {l : List (α × β)} {a b : α} (h : a ≠ b) : (l.filter (·.1 ≠ b)).lookup a = l.lookup a := by
  induction l with
  | nil => rfl
  | cons p l ih =>
    obtain ⟨key, value⟩ := p
    by_cases hkey : key = b
    · subst hkey
      rw [List.filter_cons_of_neg (by simp), ih, List.lookup_cons, beq_false_of_ne h]
    · rw [List.filter_cons_of_pos (by simpa using hkey), List.lookup_cons, List.lookup_cons, ih]

theorem node?_insert_of_ne {other : List (List UInt8)} (h : other ≠ place) :
    (f.insert place node).node? other = f.node? other := by
  have hlookup : (f.insert place node).nodes.lookup other = f.nodes.lookup other := by
    rw [insert, List.lookup_cons, beq_false_of_ne h]
    change (f.nodes.filter (·.1 ≠ place)).lookup other = _
    exact lookup_filter_ne h
  rw [node?, node?, hlookup]

/-- A walk that gets on starts in a directory. -/
theorem walk_cons_eq_ok {start found : List (List UInt8)} {name : List UInt8}
    {rest : List (List UInt8)} (h : f.walk start (name :: rest) = .ok found) :
    f.node? start = some .directory ∧ f.permits .enter start ∧ name.length ≤ 255 ∧
      f.walk (step start name) rest = .ok found := by
  rw [walk] at h
  split at h
  · cases h
  · cases h
  · rename_i hstart
    by_cases henter : f.permits .enter start
    · rw [henter] at h
      by_cases hlong : name.length > 255
      · rw [if_pos hlong] at h
        cases h
      · rw [if_neg hlong] at h
        exact ⟨hstart, henter, Nat.le_of_not_lt hlong, h⟩
    · rw [Bool.eq_false_iff.mpr henter] at h
      cases h

theorem walk_cons {start : List (List UInt8)} {name : List UInt8} {rest : List (List UInt8)}
    (hstart : f.node? start = some .directory) (henter : f.permits .enter start)
    (hlength : name.length ≤ 255) :
    f.walk start (name :: rest) = f.walk (step start name) rest := by
  rw [walk, hstart]
  dsimp only
  rw [henter, if_neg (Nat.not_lt_of_le hlength)]
  rfl

/-- A walk passes directories only, so it does not notice what is put where none is. -/
private theorem walk_insert (hplace : f.node? place ≠ some .directory)
    {steps start found : List (List UInt8)} (h : f.walk start steps = .ok found) :
    (f.insert place node).walk start steps = .ok found := by
  induction steps generalizing start with
  | nil => exact h
  | cons name rest ih =>
    obtain ⟨hstart, henter, hlength, hrest⟩ := walk_cons_eq_ok h
    -- The walk stands in a directory, and there is none at the place of the new file.
    have hne : start ≠ place := by
      rintro rfl
      exact hplace hstart
    have hstart' : (f.insert place node).node? start = some .directory := by
      rw [node?_insert_of_ne hne, hstart]
    rw [walk_cons hstart' henter hlength]
    exact ih hrest

theorem locate_eq_ok {path : String} {found : List (List UInt8)} (h : f.locate path = .ok found) :
    0 ∉ Path.ofText path ∧ (Path.ofText path).length < 4096 ∧ Path.ofText path ≠ [] ∧
      f.walk (if (Path.ofText path).head? = some Path.slash then [] else f.here)
        (Path.steps (Path.ofText path)) = .ok found := by
  rw [locate] at h
  by_cases hzero : 0 ∈ Path.ofText path
  · rw [if_pos hzero] at h
    cases h
  by_cases hlong : (Path.ofText path).length ≥ 4096
  · rw [if_neg hzero, if_pos hlong] at h
    cases h
  by_cases hnil : Path.ofText path = []
  · rw [if_neg hzero, if_neg hlong, if_pos hnil] at h
    cases h
  rw [if_neg hzero, if_neg hlong, if_neg hnil] at h
  exact ⟨hzero, Nat.lt_of_not_le hlong, hnil, h⟩

theorem locate_of {path : String} (hzero : 0 ∉ Path.ofText path)
    (hlength : (Path.ofText path).length < 4096) (hnil : Path.ofText path ≠ []) :
    f.locate path = f.walk (if (Path.ofText path).head? = some Path.slash then [] else f.here)
      (Path.steps (Path.ofText path)) := by
  rw [locate, if_neg hzero, if_neg (Nat.not_le_of_lt hlength), if_neg hnil]

private theorem locate_insert (hplace : f.node? place ≠ some .directory) {path : String}
    {found : List (List UInt8)} (h : f.locate path = .ok found) :
    (f.insert place node).locate path = .ok found := by
  obtain ⟨hzero, hlength, hnil, hwalk⟩ := locate_eq_ok h
  rw [locate_of hzero hlength hnil]
  exact walk_insert hplace hwalk

/-- A file is written where no directory is, and not at a path that ends in a slash. -/
theorem target_eq_ok {path : String} (h : f.target path = .ok place) :
    f.locate path = .ok place ∧ f.node? place ≠ some .directory ∧ endsInSlash path = false ∧
      f.permits .write place := by
  obtain ⟨found, hlocate, h⟩ := bind_eq_ok.mp h
  split at h
  · cases h
  · rename_i hdirectory
    by_cases hslash : endsInSlash path = true
    · rw [if_pos hslash] at h
      cases h
    rw [if_neg hslash] at h
    by_cases hwrite : f.permits .write found
    · rw [hwrite] at h
      cases h
      exact ⟨hlocate, hdirectory, Bool.eq_false_iff.mpr hslash, hwrite⟩
    · rw [Bool.eq_false_iff.mpr hwrite] at h
      cases h

private theorem find_insert {path : String} {content : ByteArray} {executable : Bool}
    (h : f.target path = .ok place) :
    (f.insert place (.file content executable)).find path =
      .ok (.file content executable) := by
  obtain ⟨hlocate, hdirectory, hslash, -⟩ := target_eq_ok h
  have hroot : place ≠ [] := by
    rintro rfl
    exact hdirectory rfl
  rw [find, locate_insert hdirectory hlocate]
  dsimp only [bind, Except.bind]
  rw [node?_insert_self hroot, hslash]
  rfl

theorem write_find {path : String} (h : f.IsWritable path) (content : ByteArray) :
    ∃ changed executable, f.write path content = .ok changed ∧
      changed.find path = .ok (.file content executable) := by
  obtain ⟨place, hplace⟩ := h
  exact ⟨_, _, by rw [write, hplace]; rfl, find_insert hplace⟩

theorem IsWritable.not_isDirectory {path : String} (h : f.IsWritable path) :
    f.isDirectory path = false := by
  obtain ⟨place, hplace⟩ := h
  obtain ⟨hlocate, hdirectory, hslash, -⟩ := target_eq_ok hplace
  rw [isDirectory, find, hlocate]
  dsimp only [bind, Except.bind]
  cases hnode : f.node? place with
  | none => rfl
  | some there =>
    cases there with
    | directory => exact absurd hnode hdirectory
    | file content executable =>
      rw [hslash]
      rfl

end UmlDiagrams.Files
