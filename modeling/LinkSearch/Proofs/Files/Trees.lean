import LinkSearch.Files.Tree
import LinkSearch.Proofs.Files.Paths

/-!
# Writing a file

A tree is seen as what stands at each of its places.  The place that a path leads to depends on
its names alone; the tree only decides whether the path leads there.  Writing a file changes what
stands at this one place and nowhere else, and the path then leads to what was written.
-/

namespace LinkSearch.Files

/-- What stands at a place. -/
inductive Entry (α : Type) where
  | directory
  | file (content : α)

def Entry.isDirectory {α : Type} : Entry α → Bool
  | .directory => true
  | .file _ => false

namespace Tree

variable {α : Type} {tree next : Tree α} {cwd place : Address} {path : Path}

def entry : Tree α → Entry α
  | .file content => .file content
  | .directory _ => .directory

/-- What stands at a place, if anything does, without what is below it. -/
def entryAt? (tree : Tree α) (place : Address) : Option (Entry α) :=
  (tree.get? place).map entry

theorem entryAt?_nil (tree : Tree α) : tree.entryAt? [] = some tree.entry := rfl

theorem entryAt?_cons (tree : Tree α) (name : String) (rest : Address) :
    tree.entryAt? (name :: rest) = (tree.child? name).bind (·.entryAt? rest) := by
  rw [entryAt?, get?, Option.map_bind]
  rfl

/-! ### Setting a file -/

theorem child?_setEntry (name other : String) (node : Tree α) (entries : List (String × Tree α)) :
    (directory (setEntry name node entries)).child? other =
      if other = name then some node else (directory entries).child? other := by
  induction entries with
  | nil =>
    by_cases same : other = name
    · simp [child?, setEntry, same]
    · simp [child?, setEntry, same, Ne.symm same]
  | cons head entries ih =>
    obtain ⟨found, old⟩ := head
    simp only [child?] at ih ⊢
    by_cases here : found = name
    · subst here
      by_cases same : other = found
      · simp [setEntry, same]
      · simp [setEntry, same, Ne.symm same]
    · by_cases first : found = other
      · subst first
        simp [setEntry, here]
      · simp [setEntry, here, first, ih]

/-- There is a directory to put a file into, and no directory where the file is to be. -/
structure HasRoom (tree : Tree α) (place : Address) : Prop where
  ne_nil : place ≠ []
  above : tree.entryAt? place.dropLast = some .directory
  here : tree.entryAt? place ≠ some .directory

/-- Only the one place changes.  By induction on the names that lead there. -/
theorem HasRoom.entryAt?_set (room : HasRoom tree place) (content : α) (other : Address) :
    (set (.file content) place tree).entryAt? other =
      if other = place then some (.file content) else tree.entryAt? other := by
  induction place generalizing tree other with
  | nil => exact absurd rfl room.ne_nil
  | cons name rest ih =>
    cases tree with
    | file old =>
      have above := room.above
      cases rest <;> cases above
    | directory entries =>
      cases other with
      | nil => simp [set, entryAt?_nil, entry]
      | cons first more =>
        rw [set, entryAt?_cons, child?_setEntry, entryAt?_cons]
        by_cases same : first = name
        · subst same
          cases rest with
          | nil =>
            cases more with
            | nil => simp [set, entryAt?_nil, entry]
            | cons second more =>
              -- Neither what was there nor the new file has anything below it.
              have here := room.here
              rw [entryAt?_cons] at here
              cases found : (directory entries).child? first with
              | none => simp [set, entryAt?_cons, child?]
              | some node =>
                cases node with
                | file old => simp [set, entryAt?_cons, child?]
                | directory inner => simp [found, entryAt?_nil, entry] at here
          | cons second rest =>
            have above := room.above
            have here := room.here
            rw [List.dropLast_cons_cons, entryAt?_cons] at above
            rw [entryAt?_cons] at here
            obtain ⟨inner, found, above⟩ := Option.bind_eq_some_iff.mp above
            rw [found] at here ⊢
            have below : HasRoom inner (second :: rest) := ⟨List.cons_ne_nil _ _, above, here⟩
            simp [ih below]
        · simp [same]

/-! ### Walking a path -/

/-- Where a piece of a path leads to from a place. -/
def moved (place : Address) (piece : List Char) : Address :=
  if Path.isIdle piece then place
  else if piece = ['.', '.'] then place.dropLast
  else place ++ [String.ofList piece]

/-- The place that a path leads to, if it leads anywhere. -/
def placeFrom (cwd : Address) (path : Path) : Address :=
  path.pieces.foldl moved (start cwd path)

/-- A piece that names an entry of a directory. -/
def IsName (piece : List Char) : Prop :=
  Path.isIdle piece = false ∧ piece ≠ ['.', '.']

instance (piece : List Char) : Decidable (IsName piece) :=
  inferInstanceAs (Decidable (_ ∧ _))

theorem IsName.moved {piece : List Char} (named : IsName piece) (place : Address) :
    moved place piece = place ++ [String.ofList piece] := by
  simp [Tree.moved, named.1, named.2]

/-- A step starts in a directory, and leads to a name only if that is there. -/
theorem step_eq_ok_iff {piece : List Char} {there : Address} :
    step tree place piece = .ok there ↔
      tree.entryAt? place = some .directory ∧ there = moved place piece ∧
        (IsName piece → isTooLong piece = false ∧ (tree.entryAt? there).isSome) := by
  cases found : tree.get? place with
  | none => simp [step, entryAt?, found]
  | some node =>
    cases node with
    | file old => simp [step, entryAt?, found, entry]
    | directory entries =>
      have here : tree.entryAt? place = some .directory := by rw [entryAt?, found]; rfl
      rw [here, eq_self, true_and, step, found]
      by_cases idle : Path.isIdle piece = true
      · simp [moved, IsName, idle, @eq_comm _ place]
      · by_cases up : piece = ['.', '.']
        · simp [moved, IsName, up, Path.isIdle, @eq_comm _ place.dropLast]
        · have named : IsName piece := ⟨Bool.not_eq_true _ ▸ idle, up⟩
          simp only [idle, up, named.moved, named, Bool.false_eq_true, if_false, true_imp_iff]
          cases isTooLong piece with
          | true => simp
          | false =>
            cases there_found : tree.get? (place ++ [String.ofList piece]) with
            | none =>
              simp only [Bool.false_eq_true, if_false, Option.isSome_none, true_and, reduceCtorEq,
                false_iff, not_and]
              rintro rfl
              simp [entryAt?, there_found]
            | some node =>
              simp only [Bool.false_eq_true, if_false, Option.isSome_some, if_true, true_and,
                Except.ok.injEq, @eq_comm _ _ there, iff_self_and]
              rintro rfl
              simp [entryAt?, there_found]

/-- A walk takes its first step and goes on from there. -/
theorem walk_cons_eq_ok_iff {piece : List Char} {pieces : List (List Char)} {there : Address} :
    (piece :: pieces).foldlM (step tree) place = .ok there ↔
      ∃ between, step tree place piece = .ok between ∧
        pieces.foldlM (step tree) between = .ok there := by
  rw [List.foldlM_cons]
  cases first : step tree place piece with
  | error cause => simp [bind, Except.bind]
  | ok between => simp [bind, Except.bind]

/-- Where a walk ends depends on the pieces alone. -/
theorem eq_foldl_of_walk {pieces : List (List Char)} {there : Address}
    (walked : pieces.foldlM (step tree) place = .ok there) : there = pieces.foldl moved place := by
  induction pieces generalizing place with
  | nil => exact (Except.ok.inj walked).symm
  | cons piece pieces ih =>
    obtain ⟨between, first, further⟩ := walk_cons_eq_ok_iff.mp walked
    obtain ⟨_, rfl, _⟩ := step_eq_ok_iff.mp first
    exact ih further

theorem locate_eq_ok_iff :
    tree.locate cwd path = .ok place ↔
      checkText path = .ok () ∧ path.pieces.foldlM (step tree) (start cwd path) = .ok place := by
  cases allowed : checkText path with
  | error cause => simp [locate, allowed, bind, Except.bind]
  | ok => simp [locate, allowed, bind, Except.bind]

theorem eq_placeFrom_of_locate (located : tree.locate cwd path = .ok place) :
    place = placeFrom cwd path :=
  eq_foldl_of_walk (locate_eq_ok_iff.mp located).2

theorem find_eq_ok_iff {node : Tree α} :
    tree.find cwd path = .ok node ↔
      ∃ place, tree.locate cwd path = .ok place ∧ tree.get? place = some node := by
  cases located : tree.locate cwd path with
  | error cause => simp [find, located, bind, Except.bind]
  | ok place =>
    cases there : tree.get? place <;>
      simp [find, located, there, bind, Except.bind, pure, Except.pure]

/-- A path leads to a file if it leads anywhere and a file stands there. -/
theorem isFile_iff :
    tree.isFile cwd path = true ↔
      tree.locate cwd path = .ok (placeFrom cwd path) ∧
        ∃ content, tree.entryAt? (placeFrom cwd path) = some (.file content) := by
  constructor
  · intro there
    unfold isFile at there
    split at there
    · next content found =>
      obtain ⟨place, located, stands⟩ := find_eq_ok_iff.mp found
      cases eq_placeFrom_of_locate located
      refine ⟨located, content, ?_⟩
      rw [entryAt?, stands]
      rfl
    · cases there
  · rintro ⟨located, content, stands⟩
    obtain ⟨node, there, same⟩ := Option.map_eq_some_iff.mp stands
    cases node with
    | directory entries => cases same
    | file old => rw [isFile, find_eq_ok_iff.mpr ⟨_, located, there⟩]

/-- A relative path is walked from the place of the directory that it is joined to. -/
theorem placeFrom_join {base : Path} (relative : path.isAbsolute = false) (cwd : Address) :
    placeFrom cwd (base.join path) = path.pieces.foldl moved (placeFrom cwd base) := by
  by_cases given : base.text = ""
  · obtain ⟨text⟩ := base
    cases given
    have stays : placeFrom cwd ⟨""⟩ = cwd := rfl
    have alone : (Path.mk "").join path = path := by simp [Path.join, relative]
    rw [stays, alone, placeFrom, start, relative, if_neg Bool.false_ne_true]
  · have rooted : start cwd (base.join path) = start cwd base := by
      simp [start, Path.isAbsolute_join, relative]
    obtain ⟨front, _, directory, whole⟩ := Path.exists_pieces_join relative given
    rw [placeFrom, rooted, whole, List.foldl_append]
    -- An empty piece at the end of the directory moves nowhere.
    rcases directory with directory | directory <;>
      simp [placeFrom, directory, moved, Path.isIdle]

theorem foldl_moved_of_names {names : Address} (named : ∀ name ∈ names, IsName name.toList)
    (place : Address) : (names.map String.toList).foldl moved place = place ++ names := by
  induction names generalizing place with
  | nil => exact (List.append_nil place).symm
  | cons name rest ih =>
    have first := named name List.mem_cons_self
    have others : ∀ name ∈ rest, IsName name.toList := fun other member =>
      named other (List.mem_cons_of_mem name member)
    rw [List.map_cons, List.foldl_cons, first.moved, String.ofList_toList, ih others,
      List.append_assoc, List.singleton_append]

/-- The path of a place leads to it, if the names on the way can stand in a path. -/
theorem placeFrom_path {names : Address}
    (named : ∀ name ∈ names, IsName name.toList ∧ '/' ∉ name.toList) (cwd : Address) :
    placeFrom cwd names.path = names := by
  have rooted : start cwd names.path = [] := by
    simp [start, Path.isAbsolute, Address.path]
  have text : names.path.text.toList =
      [] ++ '/' :: ['/'].intercalate (names.map String.toList) := by
    simp [Address.path]
  rw [placeFrom, rooted, Path.pieces, text, List.splitOn_append_cons_self]
  by_cases top : names = []
  · cases top
    rfl
  · rw [List.splitOn_intercalate '/' (by simpa using fun name member => (named name member).2)
      (by simpa using top)]
    exact foldl_moved_of_names (fun name member => (named name member).1) []

/-- What stood in the first tree stands in the second one, directories as directories. -/
structure Grows (tree next : Tree α) : Prop where
  directory (place : Address) (there : tree.entryAt? place = some .directory) :
    next.entryAt? place = some .directory
  present (place : Address) (there : (tree.entryAt? place).isSome) : (next.entryAt? place).isSome

theorem Grows.walk (grows : Grows tree next) {pieces : List (List Char)} {there : Address}
    (walked : pieces.foldlM (step tree) place = .ok there) :
    pieces.foldlM (step next) place = .ok there := by
  induction pieces generalizing place with
  | nil => exact walked
  | cons piece pieces ih =>
    obtain ⟨between, first, further⟩ := walk_cons_eq_ok_iff.mp walked
    obtain ⟨here, leads, named⟩ := step_eq_ok_iff.mp first
    have again : step next place piece = .ok between :=
      step_eq_ok_iff.mpr ⟨grows.directory place here, leads,
        fun name => ⟨(named name).1, grows.present between (named name).2⟩⟩
    exact walk_cons_eq_ok_iff.mpr ⟨between, again, ih further⟩

theorem Grows.locate (grows : Grows tree next) (located : tree.locate cwd path = .ok place) :
    next.locate cwd path = .ok place := by
  obtain ⟨allowed, walked⟩ := locate_eq_ok_iff.mp located
  exact locate_eq_ok_iff.mpr ⟨allowed, grows.walk walked⟩

/-- The path leads to a directory by all its pieces but the last, which names the place in it. -/
structure LeadsTo (tree : Tree α) (cwd : Address) (path : Path) (place : Address) : Prop where
  allowed : checkText path = .ok ()
  last : ∃ front piece above, path.pieces = front ++ [piece] ∧
    front.foldlM (step tree) (start cwd path) = .ok above ∧ IsName piece ∧
    isTooLong piece = false ∧ tree.entryAt? above = some .directory ∧
    place = above ++ [String.ofList piece]

theorem LeadsTo.eq_placeFrom (leads : LeadsTo tree cwd path place) :
    place = placeFrom cwd path := by
  obtain ⟨front, piece, above, parts, walked, named, _, _, rfl⟩ := leads.last
  rw [placeFrom, parts, List.foldl_append, ← eq_foldl_of_walk walked]
  exact (named.moved above).symm

theorem LeadsTo.grows (leads : LeadsTo tree cwd path place) (grows : Grows tree next) :
    LeadsTo next cwd path place := by
  obtain ⟨front, piece, above, parts, walked, named, short, directory, rfl⟩ := leads.last
  exact ⟨leads.allowed, front, piece, above, parts, grows.walk walked, named, short,
    grows.directory above directory, rfl⟩

/-- The path of a place where something stands can be walked. -/
theorem LeadsTo.locate_eq (leads : LeadsTo tree cwd path place)
    (present : (tree.entryAt? place).isSome) : tree.locate cwd path = .ok place := by
  obtain ⟨front, piece, above, parts, walked, named, short, directory, rfl⟩ := leads.last
  have stepped : step tree above piece = .ok (above ++ [String.ofList piece]) :=
    step_eq_ok_iff.mpr ⟨directory, (named.moved above).symm, fun _ => ⟨short, present⟩⟩
  refine locate_eq_ok_iff.mpr ⟨leads.allowed, ?_⟩
  rw [parts, List.foldlM_append, walked]
  simp [bind, Except.bind, pure, Except.pure, stepped]

/-! ### Writing to a path -/

theorem leadsTo_of_target (found : tree.target cwd path = .ok place) :
    LeadsTo tree cwd path place ∧ HasRoom tree place := by
  have some_piece : path.pieces ≠ [] := List.splitOn_ne_nil '/' path.text.toList
  obtain ⟨front, piece, parts⟩ : ∃ front piece, path.pieces = front ++ [piece] :=
    ⟨_, _, (List.dropLast_concat_getLast some_piece).symm⟩
  cases allowed : checkText path with
  | error cause => simp [target, allowed, bind, Except.bind] at found
  | ok =>
    cases walked : front.foldlM (step tree) (start cwd path) with
    | error cause => simp [target, allowed, parts, walked, bind, Except.bind] at found
    | ok above =>
      simp only [target, allowed, parts, walked, bind, Except.bind, pure, Except.pure,
        List.getLast?_append, List.getLast?_singleton, Option.some_or, List.dropLast_concat] at found
      split at found
      · cases found
      · next nameless =>
        have named : IsName piece := by simpa [IsName] using nameless
        split at found
        · cases found
        · next short =>
          cases standing : tree.get? above with
          | none => simp [standing] at found
          | some node =>
            cases node with
            | file old => simp [standing] at found
            | directory entries =>
              have directory : tree.entryAt? above = some .directory := by
                rw [entryAt?, standing]
                rfl
              simp only [standing] at found
              split at found
              · cases found
              · next free =>
                cases found
                refine ⟨⟨allowed, front, piece, above, parts, walked, named, by simpa using short,
                  directory, rfl⟩, by simp, by simpa using directory, fun taken => ?_⟩
                obtain ⟨node, there, same⟩ := Option.map_eq_some_iff.mp taken
                cases node with
                | file old => cases same
                | directory entries => exact free entries there

theorem exists_target_of_write {content : α} (done : tree.write cwd path content = .ok next) :
    ∃ place, tree.target cwd path = .ok place ∧ next = set (.file content) place tree := by
  cases found : tree.target cwd path with
  | error cause => simp [write, found, bind, Except.bind] at done
  | ok place =>
    simp only [write, found, bind, Except.bind, pure, Except.pure, Except.ok.injEq] at done
    exact ⟨place, rfl, done.symm⟩

/-- What is written stands at the place of its path, and nothing else changes. -/
theorem entryAt?_of_write {content : α} (done : tree.write cwd path content = .ok next)
    (other : Address) :
    next.entryAt? other =
      if other = placeFrom cwd path then some (.file content) else tree.entryAt? other := by
  obtain ⟨place, found, rfl⟩ := exists_target_of_write done
  obtain ⟨leads, room⟩ := leadsTo_of_target found
  rw [room.entryAt?_set, leads.eq_placeFrom]

theorem grows_of_write {content : α} (done : tree.write cwd path content = .ok next) :
    Grows tree next := by
  obtain ⟨place, found, rfl⟩ := exists_target_of_write done
  have room := (leadsTo_of_target found).2
  refine ⟨fun other directory => ?_, fun other present => ?_⟩
  · have different : other ≠ place := fun same => room.here (same ▸ directory)
    rw [room.entryAt?_set, if_neg different, directory]
  · rw [room.entryAt?_set]
    split
    · rfl
    · exact present

/-- The path of what was written leads to it. -/
theorem find_of_write {content : α} (done : tree.write cwd path content = .ok next) :
    next.find cwd path = .ok (.file content) := by
  have grows := grows_of_write done
  have stands := entryAt?_of_write done (placeFrom cwd path)
  obtain ⟨place, found, _⟩ := exists_target_of_write done
  have leads := (leadsTo_of_target found).1.grows grows
  rw [if_pos rfl, ← leads.eq_placeFrom] at stands
  obtain ⟨node, there, same⟩ := Option.map_eq_some_iff.mp stands
  have located := leads.locate_eq (by rw [stands]; rfl)
  cases node with
  | directory entries => cases same
  | file old =>
    cases same
    exact find_eq_ok_iff.mpr ⟨place, located, there⟩

/-- A file that stands at the place of a path it can be written to is there for the path. -/
theorem doesExist_of_target (found : tree.target cwd path = .ok place)
    (present : (tree.entryAt? place).isSome) : tree.doesExist cwd path = true := by
  have located := (leadsTo_of_target found).1.locate_eq present
  obtain ⟨node, there⟩ := Option.isSome_iff_exists.mp (Option.isSome_map ▸ present)
  rw [doesExist, find_eq_ok_iff.mpr ⟨place, located, there⟩]
  rfl

/-- What was a file is one after a write. -/
theorem isFile_of_write {content : α} {other : Path}
    (done : tree.write cwd path content = .ok next) (there : tree.isFile cwd other = true) :
    next.isFile cwd other = true := by
  obtain ⟨located, old, stands⟩ := isFile_iff.mp there
  have again := (grows_of_write done).locate located
  have after := entryAt?_of_write done (placeFrom cwd other)
  rw [isFile_iff]
  split at after
  · exact ⟨again, content, after⟩
  · exact ⟨again, old, after.trans stands⟩

/-- A walk that ends elsewhere never comes to a place without a directory. -/
theorem ne_of_walk {pieces : List (List Char)} {other there : Address}
    (closed : tree.entryAt? other ≠ some .directory) (elsewhere : there ≠ other)
    (walked : pieces.foldlM (step tree) place = .ok there) : place ≠ other := by
  cases pieces with
  | nil =>
    cases walked
    exact elsewhere
  | cons piece pieces =>
    obtain ⟨between, first, _⟩ := walk_cons_eq_ok_iff.mp walked
    rintro rfl
    exact closed (step_eq_ok_iff.mp first).1

/-- Where a new file ends no walk, it is on the way of none.  By induction on the pieces. -/
theorem walk_before {pieces : List (List Char)} {other there : Address}
    (frame : ∀ spot, spot ≠ other → next.entryAt? spot = tree.entryAt? spot)
    (closed : next.entryAt? other ≠ some .directory) (elsewhere : there ≠ other)
    (walked : pieces.foldlM (step next) place = .ok there) :
    pieces.foldlM (step tree) place = .ok there := by
  have start_ne := ne_of_walk closed elsewhere walked
  induction pieces generalizing place with
  | nil => exact walked
  | cons piece pieces ih =>
    obtain ⟨between, first, further⟩ := walk_cons_eq_ok_iff.mp walked
    have between_ne := ne_of_walk closed elsewhere further
    have before : step tree place piece = .ok between := by
      rw [step_eq_ok_iff, frame place start_ne, frame between between_ne] at *
      exact first
    exact walk_cons_eq_ok_iff.mpr ⟨between, before, ih further between_ne⟩

/-- A path that leads to a file after a write did so before, or leads to what was written. -/
theorem isFile_before_write {content : α} {other : Path}
    (done : tree.write cwd path content = .ok next) (there : next.isFile cwd other = true) :
    tree.isFile cwd other = true ∨ placeFrom cwd other = placeFrom cwd path := by
  by_cases same : placeFrom cwd other = placeFrom cwd path
  · exact .inr same
  · left
    obtain ⟨located, old, stands⟩ := isFile_iff.mp there
    have frame (spot : Address) (elsewhere : spot ≠ placeFrom cwd path) :
        next.entryAt? spot = tree.entryAt? spot := by
      rw [entryAt?_of_write done, if_neg elsewhere]
    have closed : next.entryAt? (placeFrom cwd path) ≠ some .directory := by
      simp [entryAt?_of_write done]
    refine isFile_iff.mpr ⟨?_, old, (frame _ same).symm.trans stands⟩
    obtain ⟨allowed, walked⟩ := locate_eq_ok_iff.mp located
    exact locate_eq_ok_iff.mpr ⟨allowed, walk_before frame closed same walked⟩

/-! ### What files hold does not matter -/

/-- Both trees have their directories and their files at the same places. -/
def SameShape (tree next : Tree α) : Prop :=
  ∀ place, (tree.entryAt? place).map Entry.isDirectory = (next.entryAt? place).map Entry.isDirectory

/-- What a file is to hold makes no difference. -/
theorem HasRoom.sameShape_set (room : HasRoom tree place) (first second : α) :
    SameShape (set (.file first) place tree) (set (.file second) place tree) := by
  intro other
  rw [room.entryAt?_set, room.entryAt?_set]
  split <;> rfl

/-- What two trees of one shape have at a place. -/
theorem SameShape.cases (same : SameShape tree next) (place : Address) :
    (tree.get? place = none ∧ next.get? place = none) ∨
      (∃ old new, tree.get? place = some (.file old) ∧ next.get? place = some (.file new)) ∨
      ∃ old new, tree.get? place = some (.directory old) ∧
        next.get? place = some (.directory new) := by
  have here := same place
  unfold entryAt? at here
  cases first : tree.get? place with
  | none =>
    cases second : next.get? place with
    | none => exact .inl ⟨rfl, rfl⟩
    | some node => simp [first, second] at here
  | some node =>
    cases second : next.get? place with
    | none => simp [first, second] at here
    | some other =>
      cases node <;> cases other <;> simp_all [entry, Entry.isDirectory]

theorem SameShape.step_eq (same : SameShape tree next) : step tree = step next := by
  funext place piece
  unfold step
  rcases same.cases place with ⟨first, second⟩ | ⟨_, _, first, second⟩ | ⟨_, _, first, second⟩
  · rw [first, second]
  · rw [first, second]
  · rw [first, second]
    have there : (tree.get? (place ++ [String.ofList piece])).isSome =
        (next.get? (place ++ [String.ofList piece])).isSome := by
      rcases same.cases (place ++ [String.ofList piece]) with
        ⟨first, second⟩ | ⟨_, _, first, second⟩ | ⟨_, _, first, second⟩ <;> simp [first, second]
    simp only [there]

theorem SameShape.doesExist_eq (same : SameShape tree next) (cwd : Address) (path : Path) :
    tree.doesExist cwd path = next.doesExist cwd path := by
  have located : tree.locate cwd path = next.locate cwd path := by
    rw [locate, locate, same.step_eq]
  unfold doesExist find
  rw [located]
  cases next.locate cwd path with
  | error cause => rfl
  | ok place =>
    rcases same.cases place with ⟨first, second⟩ | ⟨_, _, first, second⟩ | ⟨_, _, first, second⟩ <;>
      simp [first, second, bind, Except.bind, pure, Except.pure, Except.toBool]

theorem SameShape.target_eq (same : SameShape tree next) (cwd : Address) (path : Path) :
    tree.target cwd path = next.target cwd path := by
  unfold target
  rw [same.step_eq]
  congr 1
  funext _
  split
  · rfl
  · next last _ =>
    congr 1
    funext place
    rcases same.cases place with ⟨first, second⟩ | ⟨_, _, first, second⟩ | ⟨_, _, first, second⟩
    · rw [first, second]
    · rw [first, second]
    · rw [first, second]
      rcases same.cases (place ++ [String.ofList last]) with
        ⟨first, second⟩ | ⟨_, _, first, second⟩ | ⟨_, _, first, second⟩ <;> simp [first, second]

end Tree

end LinkSearch.Files
