import Mathlib.Data.List.Induction
import PropertyStore.Proofs.Files.Alike

namespace PropertyStore.Files

/-- A name that an entry can have. -/
structure IsName (name : String) : Prop where
  step : IsStep name
  plain : '/' ∉ name.toList

/-- Every entry of a tree stands in a directory under a name. -/
def Tree.WellFormed (tree : Tree) : Prop :=
  ∀ place name entry, tree.find? (place ++ [name]) = some entry →
    tree.isDirectory place ∧ IsName name

/-- The path of a place from the root. -/
def Path.ofPlace (place : Place) : String := "/" ++ "/".intercalate place

variable {tree before after : Tree} {place goal directory : Place} {name path : String}
  {places : List Place}

theorem Tree.isDirectory_iff (tree : Tree) (place : Place) :
    tree.isDirectory place ↔ ∃ mode, tree.find? place = some (.directory mode) := by
  rw [isDirectory]
  split
  · rename_i mode found
    simp [found]
  · rename_i other
    simp only [Bool.false_eq_true, false_iff, not_exists]
    exact other

theorem Tree.WellFormed.isName (wellFormed : tree.WellFormed) (present : tree.find? place = some entry)
    (member : name ∈ place) : IsName name := by
  induction place using List.reverseRecOn generalizing entry with
  | nil => cases member
  | append_singleton place last ih =>
    obtain ⟨inside, named⟩ := wellFormed place last entry present
    rcases List.mem_append.mp member with above | same
    · obtain ⟨mode, found⟩ := (tree.isDirectory_iff place).mp inside
      exact ih found above
    · rwa [List.mem_singleton.mp same]

theorem Tree.WellFormed.leads (wellFormed : tree.WellFormed)
    (present : tree.find? place = some entry) (plain : entry.link? = none) :
    Leads tree 0 [] place place := by
  induction place using List.reverseRecOn generalizing entry with
  | nil => exact .here
  | append_singleton place last ih =>
    obtain ⟨inside, named⟩ := wellFormed place last entry present
    obtain ⟨mode, found⟩ := (tree.isDirectory_iff place).mp inside
    obtain ⟨all, bound, leads⟩ := (ih found rfl).append (.name inside named.step present plain)
    rwa [Nat.le_zero.mp bound] at leads

theorem Path.ofPlace_eq (some : place ≠ []) : Path.ofPlace place = "/".intercalate ("" :: place) := by
  rw [String.intercalate_cons_of_ne_nil some, String.empty_append]
  rfl

theorem Path.segments_ofPlace (some : place ≠ []) (plain : ∀ name ∈ place, '/' ∉ name.toList) :
    Path.segments (Path.ofPlace place) = "" :: place := by
  rw [Path.ofPlace_eq some, Path.segments_intercalate _ (by simp)]
  simpa using plain

theorem Tree.WellFormed.names (wellFormed : tree.WellFormed)
    (present : tree.find? (directory ++ [name]) = some entry) :
    Path.Names (Path.ofPlace (directory ++ [name])) ("" :: directory) name [] := by
  have named := (wellFormed directory name entry present).2
  refine ⟨?_, named.step.moves, named.step.down, by simp⟩
  rw [Path.segments_ofPlace (by simp) fun other member => (wellFormed.isName present member).plain]
  rfl

theorem Path.isAbsolute_ofPlace (place : Place) : Path.isAbsolute (Path.ofPlace place) = true := by
  simp [Path.isAbsolute, Path.ofPlace]

theorem Tree.WellFormed.slot (wellFormed : tree.WellFormed)
    (present : tree.find? (directory ++ [name]) = some entry)
    (found : tree.slot (Path.ofPlace (directory ++ [name])) = .ok (place, slashed)) :
    place = directory ++ [name] := by
  obtain ⟨_, _, _, links, _, reached, leads, _, rfl⟩ :=
    (Tree.slot_eq_ok_iff (wellFormed.names present)).mp found
  have inside := (wellFormed directory name entry present).1
  obtain ⟨mode, there⟩ := (tree.isDirectory_iff directory).mp inside
  have root : tree.isDirectory [] := by
    simp [Tree.isDirectory, Tree.find?]
  rw [Tree.origin, Path.isAbsolute_ofPlace, if_pos rfl] at leads
  rw [leads.unique (.idle root (by decide) (wellFormed.leads there rfl))]

theorem Tree.canonical_eq_ok_iff (tree : Tree) (path resolved : String) :
    tree.canonical path = .ok resolved ↔
      ∃ place, tree.resolve .find path = .ok (.existing place) ∧ resolved = Path.ofPlace place := by
  rw [canonical]
  cases tree.resolve .find path with
  | error fault => simp [bind, Except.bind]
  | ok destination =>
    cases destination with
    | free place => simp [bind, Except.bind]
    | existing place => simp [bind, Except.bind, pure, Except.pure, Path.ofPlace, eq_comm]

/-- What a resolved path leads to, however many links that takes. -/
theorem Tree.resolve_eq_existing_iff (tree : Tree) (path : String) :
    tree.resolve .find path = .ok (.existing place) ↔
      '\x00' ∉ path.toList ∧ path ≠ "" ∧
        ∃ links ≤ linkLimit, Leads tree links (tree.origin path) (Path.segments path) place := by
  rw [resolve, ← walk_eq_existing_iff]
  by_cases nul : '\x00' ∈ path.toList
  · simp [nul]
  · by_cases empty : path = ""
    · simp [empty]
    · simp [nul, empty]

theorem AlikeBut.resolve (alike : AlikeBut places before after)
    (unlinked : ∀ place ∈ places, ∀ text, before.find? place ≠ some (.link text))
    (resolved : before.resolve .find path = .ok (.existing goal)) (apart : goal ∉ places) :
    after.resolve .find path = .ok (.existing goal) := by
  obtain ⟨clean, full, links, covered, leads⟩ :=
    (before.resolve_eq_existing_iff path).mp resolved
  refine (after.resolve_eq_existing_iff path).mpr ⟨clean, full, links, covered, ?_⟩
  rw [alike.origin]
  apply alike.leads _ leads
  intro place listed
  have other : goal ≠ place := by
    rintro rfl
    exact apart listed
  exact blocked_of_end (alike.closed place listed).1 (unlinked place listed) other

theorem AlikeBut.lookup (alike : AlikeBut places before after)
    (unlinked : ∀ place ∈ places, ∀ text, before.find? place ≠ some (.link text))
    (located : before.locate .find path = .ok (.existing goal)) (apart : goal ∉ places) :
    after.lookup path = before.lookup path := by
  have usable := Tree.usable_of_locate located
  have resolved := (Tree.locate_of_usable usable).symm.trans located
  have also := (Tree.locate_of_usable usable).trans (alike.resolve unlinked resolved apart)
  simp only [Tree.lookup, located, also, bind, Except.bind, alike.same goal apart]

def Tree.Solid (tree : Tree) (place : Place) : Prop :=
  ∃ entry, tree.find? place = some entry ∧ entry.link? = none

theorem Tree.Solid.not_link (solid : tree.Solid place) (text : String) :
    tree.find? place ≠ some (.link text) := by
  obtain ⟨entry, found, plain⟩ := solid
  intro linked
  cases found.symm.trans linked
  cases plain

theorem Tree.solid_of_not_link (found : tree.find? place = some entry)
    (unlinked : ∀ text, tree.find? place ≠ some (.link text)) : tree.Solid place := by
  refine ⟨entry, found, ?_⟩
  cases entry with
  | link text => exact (unlinked text found).elim
  | _ => rfl

theorem Tree.solid_of_isDirectory (inside : tree.isDirectory place) : tree.Solid place := by
  obtain ⟨mode, found⟩ := (tree.isDirectory_iff place).mp inside
  exact ⟨_, found, rfl⟩

theorem Tree.WellFormed.solid_dropLast (wellFormed : tree.WellFormed)
    (inside : tree.isDirectory place) : tree.Solid place.dropLast := by
  rcases List.eq_nil_or_concat place with rfl | ⟨above, name, rfl⟩
  · exact solid_of_isDirectory inside
  · rw [List.concat_eq_append] at inside ⊢
    obtain ⟨mode, found⟩ := (tree.isDirectory_iff _).mp inside
    rw [List.dropLast_concat]
    exact solid_of_isDirectory (wellFormed above name _ found).1

theorem Tree.WellFormed.solid_of_leads (wellFormed : tree.WellFormed)
    (leads : Leads tree links place segments goal) (solid : tree.Solid place) : tree.Solid goal := by
  induction leads with
  | here => exact solid
  | idle _ _ _ ih => exact ih solid
  | up inside _ ih => exact ih (wellFormed.solid_dropLast inside)
  | entry _ _ found plain _ ih => exact ih ⟨_, found, plain⟩
  | link inside _ _ _ ih =>
    apply ih
    split
    · exact ⟨_, rfl, rfl⟩
    · exact solid_of_isDirectory inside

theorem Path.segments_ne_nil (path : String) : Path.segments path ≠ [] := by
  simp [Path.segments, List.splitOn_ne_nil]

theorem Tree.WellFormed.solid_of_walk (wellFormed : tree.WellFormed) {purpose : Purpose}
    (walked : tree.walk purpose budget place (Path.segments path) = .ok (.existing goal)) :
    tree.Solid goal := by
  rw [← List.append_nil (Path.segments path)] at walked
  obtain ⟨links, _, reached, leads, arrived⟩ := leads_of_walk (.inl ⟨goal, rfl⟩) _ _ _ walked
  rw [walk_nil] at arrived
  cases arrived
  obtain ⟨first, rest, parts⟩ := List.exists_cons_of_ne_nil (Path.segments_ne_nil path)
  have inside : tree.isDirectory place := by
    rw [parts] at leads
    exact leads.inside
  exact wellFormed.solid_of_leads leads (solid_of_isDirectory inside)

theorem Tree.WellFormed.solid_of_locate (wellFormed : tree.WellFormed) {purpose : Purpose}
    (located : tree.locate purpose path = .ok (.existing place)) : tree.Solid place :=
  wellFormed.solid_of_walk (walk_of_locate located)

theorem Tree.wellFormed_empty : ({} : Tree).WellFormed := by
  intro place name entry found
  simp [Tree.find?] at found

theorem AlikeBut.wellFormed (alike : AlikeBut places before after) (wellFormed : before.WellFormed)
    (rooted : ∀ directory name, directory ++ [name] ∈ places →
      after.find? (directory ++ [name]) = none ∨ before.isDirectory directory ∧ IsName name) :
    after.WellFormed := by
  intro directory name entry found
  rw [alike.isDirectory]
  by_cases listed : directory ++ [name] ∈ places
  · rcases rooted directory name listed with free | named
    · rw [free] at found
      cases found
    · exact named
  · rw [alike.same _ listed] at found
    exact wellFormed directory name entry found

theorem Tree.WellFormed.put (wellFormed : tree.WellFormed) (inside : tree.isDirectory directory)
    (named : IsName name) (free : tree.find? (directory ++ [name]) = none) (entry : Entry) :
    (tree.put (directory ++ [name]) entry).WellFormed := by
  have kept (place : Place) (within : tree.isDirectory place) :
      (tree.put (directory ++ [name]) entry).isDirectory place := by
    have other : directory ++ [name] ≠ place := by
      intro same
      simp [← same, isDirectory, free] at within
    simpa [isDirectory, other] using within
  intro place last other found
  by_cases same : directory ++ [name] = place ++ [last]
  · obtain ⟨rfl, rfl⟩ : directory = place ∧ name = last := by
      simpa using List.append_inj' same rfl
    exact ⟨kept directory inside, named⟩
  · rw [find?_put _ _ _ _ (by simp), if_neg same] at found
    obtain ⟨within, isName⟩ := wellFormed place last other found
    exact ⟨kept place within, isName⟩

end PropertyStore.Files

namespace PropertyStore

theorem isName_of (name : String)
    (allowed : '/' ∉ name.toList ∧ Files.Path.isIdle name = false ∧ name ≠ ".." ∧
      name.utf8ByteSize ≤ Files.nameLimit) : Files.IsName name := by
  obtain ⟨plain, moves, down, short⟩ := allowed
  exact ⟨⟨moves, down, short⟩, plain⟩

/-- A link to a file of one property in a directory. -/
def linkedTree : Files.Tree :=
  ((({} : Files.Tree).put ([] ++ ["d"]) (.directory 0o755)).put (["d"] ++ ["real"])
    (.file (Text.Utf8.encode "a=1\n") 0o600)).put ([] ++ ["p"]) (.link "d/real")

theorem linkedTree_wellFormed : linkedTree.WellFormed := by
  have first : Files.IsName "d" := isName_of "d" (by decide)
  have second : Files.IsName "real" := isName_of "real" (by decide)
  have third : Files.IsName "p" := isName_of "p" (by decide)
  rw [linkedTree]
  apply Files.Tree.WellFormed.put _ _ third
  · decide +kernel
  · apply Files.Tree.WellFormed.put _ _ second
    · decide +kernel
    · exact Files.Tree.wellFormed_empty.put (by decide +kernel) first (by decide +kernel) _
    · decide +kernel
  · decide +kernel

end PropertyStore
