import ApexQuant.Foundation.Text
import ApexQuant.Foundation.Table

namespace ApexQuant
namespace Foundation

/-!
# A disk of directories and files

A disk is a table of entries under their paths.  A path is a list of names, and a
name never contains the separator, so a path can be read back from its parts.  The
text of a path may be written in several ways: empty parts and single dots are
dropped, and two dots lead to the parent.
-/

/-- A part of a path. -/
@[ext]
structure Name where
  text : Text
  plain : '/' ∉ text
  deriving DecidableEq

abbrev Path := List Name

namespace Path

/-- The parts of the text of a path. -/
def parts (text : Text) : Path :=
  (List.splitOn '/' text).attach.filterMap fun piece =>
    if piece.1 = [] ∨ piece.1 = ['.'] then none
    else some { text := piece.1, plain := Text.not_mem_of_mem_splitOn piece.2 }

/-- `base / text`: an absolute text replaces the base. -/
def join (base : Path) (text : Text) : Path :=
  if text.head? = some '/' then parts text else base ++ parts text

/-- One step down a path. -/
def descend (reached : Path) (name : Name) : Path :=
  if name.text = "..".toList then reached.dropLast else reached ++ [name]

/-- Where a path leads. -/
def resolve (path : Path) : Path :=
  path.foldl descend []

theorem length_descend_le (reached : Path) (name : Name) : (descend reached name).length ≤ reached.length + 1 := by
  unfold descend
  split
  · rw [List.length_dropLast]
    omega
  · rw [List.length_append, List.length_singleton]

theorem length_resolve_le (path : Path) : (resolve path).length ≤ path.length := by
  have walk : forall reached : Path, (path.foldl descend reached).length ≤ reached.length + path.length := by
    induction path with
    | nil => exact fun reached => le_refl _
    | cons name rest inductionHypothesis =>
        intro reached
        have later := inductionHypothesis (descend reached name)
        have shorter := length_descend_le reached name
        rw [List.foldl_cons, List.length_cons]
        omega
  have whole := walk []
  rwa [List.length_nil, Nat.zero_add] at whole

/-- `str(path)`. -/
def str : Path -> Text
  | [] => ['/']
  | name :: rest => (name :: rest).flatMap fun name => '/' :: name.text

/-- The name of an entry of a directory. -/
def childName (directory path : Path) : Option Name :=
  match path.getLast? with
  | some name => if path.dropLast = directory then some name else none
  | none => none

theorem childName_eq_some_iff {directory path : Path} {name : Name} :
    childName directory path = some name <-> path = directory ++ [name] := by
  induction path using List.reverseRecOn with
  | nil => exact iff_of_false nofun (List.append_ne_nil_of_right_ne_nil _ (List.cons_ne_nil _ _)).symm
  | append_singleton before last _ =>
      unfold childName
      rw [List.getLast?_concat, List.append_singleton_inj]
      dsimp only
      rw [List.dropLast_concat]
      split
      · rename_i inside
        exact ⟨fun same => ⟨inside, Option.some.inj same⟩, fun same => congrArg some same.2⟩
      · rename_i outside
        exact iff_of_false nofun fun same => outside same.1

end Path

/-! ## Entries -/

inductive Node (Content : Type) where
  | directory
  | file (content : Content)
  deriving DecidableEq

def Node.isDirectory {Content : Type} : Node Content -> Bool
  | .directory => true
  | .file _ => false

structure Entry (Content : Type) where
  path : Path
  node : Node Content

abbrev Disk (Content : Type) := Table (Entry.path : Entry Content -> Path)

/-- Why the system refuses an operation. -/
inductive DiskError where
  | notADirectory
  | isADirectory
  | fileExists
  | refusedName
  deriving DecidableEq

namespace Disk

variable {Content : Type}

/-- What a path leads to; the empty path is the root of the disk. -/
def node (disk : Disk Content) (path : Path) : Option (Node Content) :=
  if path = [] then some .directory else (disk.find path).map Entry.node

/-- `os.path.isdir`. -/
def isDirectory (disk : Disk Content) (path : Path) : Bool :=
  (disk.node path).any Node.isDirectory

/-- The entries of a directory. -/
def children (disk : Disk Content) (directory : Path) : List (Name × Node Content) :=
  disk.rows.filterMap fun entry => (Path.childName directory entry.path).map fun name => (name, entry.node)

theorem mem_children {disk : Disk Content} {directory : Path} {name : Name} {node : Node Content} :
    (name, node) ∈ disk.children directory <->
      ({ path := directory ++ [name], node := node } : Entry Content) ∈ disk := by
  constructor
  · intro member
    rcases List.mem_filterMap.mp member with ⟨entry, stored, shown⟩
    rcases Option.map_eq_some_iff.mp shown with ⟨child, named, same⟩
    rcases Prod.mk.inj same with ⟨rfl, rfl⟩
    rwa [← Path.childName_eq_some_iff.mp named]
  · intro stored
    refine List.mem_filterMap.mpr ⟨_, stored, ?_⟩
    rw [Path.childName_eq_some_iff.mpr rfl]
    rfl

/-- No two entries of a directory have one name. -/
theorem children_distinct (disk : Disk Content) (directory : Path) :
    (disk.children directory).Pairwise fun left right => left.1 ≠ right.1 := by
  refine List.Pairwise.filterMap _ ?_ (List.pairwise_map.mp disk.unique)
  intro left right distinct first isFirst second isSecond same
  rcases Option.map_eq_some_iff.mp isFirst with ⟨name, named, rfl⟩
  rcases Option.map_eq_some_iff.mp isSecond with ⟨name', named', rfl⟩
  obtain rfl : name = name' := same
  exact distinct ((Path.childName_eq_some_iff.mp named).trans (Path.childName_eq_some_iff.mp named').symm)

/-! ## Operations -/

variable (accepts : Name -> Bool)

/-- A new entry; the system decides which names it accepts. -/
def create (disk : Disk Content) (directory : Path) (name : Name) (node : Node Content) :
    Except DiskError (Disk Content) :=
  if accepts name then
    match disk.insert { path := directory ++ [name], node := node } with
    | some after => .ok after
    | none => .error .fileExists
  else .error .refusedName

/-- `mkdir(parents=True, exist_ok=True)` from a directory on.  It returns where the
path leads; what was created before a refusal stays. -/
def makeDirectories : Path -> Path -> Disk Content -> Except DiskError Path × Disk Content
  | reached, [], disk => (.ok reached, disk)
  | reached, name :: rest, disk =>
      let next := Path.descend reached name
      match disk.node next with
      | some .directory => makeDirectories next rest disk
      | some (.file _) => (.error .notADirectory, disk)
      | none =>
          if name.text = "..".toList then (.error .notADirectory, disk)
          else
            match disk.create accepts reached name .directory with
            | .ok after => makeDirectories next rest after
            | .error error => (.error error, disk)

variable {accepts}

theorem create_insert {disk after : Disk Content} {directory : Path} {name : Name} {node : Node Content}
    (created : disk.create accepts directory name node = .ok after) :
    disk.insert { path := directory ++ [name], node := node } = some after := by
  unfold create at created
  split at created
  · split at created
    · rename_i inserted
      exact inserted.trans (congrArg some (Except.ok.inj created))
    · exact absurd created nofun
  · exact absurd created nofun

theorem create_of_absent {disk : Disk Content} {directory : Path} {name : Name} (accepted : accepts name = true)
    (absent : disk.node (directory ++ [name]) = none) (node : Node Content) :
    Exists fun after => disk.create accepts directory name node = .ok after := by
  have below : directory ++ [name] ≠ [] := List.append_ne_nil_of_right_ne_nil _ (List.cons_ne_nil _ _)
  rw [Disk.node, if_neg below, Option.map_eq_none_iff] at absent
  let entry : Entry Content := { path := directory ++ [name], node := node }
  have absent' : disk.find entry.path = none := absent
  rcases Table.exists_insert absent' with ⟨after, inserted⟩
  unfold create
  rw [if_pos accepted, inserted]
  exact ⟨after, rfl⟩

theorem isDirectory_of_mem {disk : Disk Content} {path : Path}
    (stored : ({ path := path, node := .directory } : Entry Content) ∈ disk) : disk.isDirectory path = true := by
  unfold isDirectory node
  split
  · rfl
  · rw [Table.find_of_mem stored]
    rfl

theorem node_of_isDirectory {disk : Disk Content} {path : Path} (found : disk.isDirectory path = true) :
    disk.node path = some .directory := by
  unfold isDirectory at found
  cases known : disk.node path with
  | none =>
      rw [known] at found
      cases found
  | some node =>
      rw [known] at found
      cases node with
      | directory => rfl
      | file content => cases found

theorem mem_of_node {disk : Disk Content} {path : Path} {node : Node Content} (found : disk.node path = some node)
    (below : path ≠ []) : ({ path := path, node := node } : Entry Content) ∈ disk := by
  unfold Disk.node at found
  rw [if_neg below] at found
  rcases Option.map_eq_some_iff.mp found with ⟨entry, known, rfl⟩
  rcases Table.mem_of_find known with ⟨stored, rfl⟩
  exact stored

theorem mem_of_isDirectory {disk : Disk Content} {path : Path} (found : disk.isDirectory path = true)
    (below : path ≠ []) : ({ path := path, node := .directory } : Entry Content) ∈ disk :=
  mem_of_node (node_of_isDirectory found) below

/-- New directories leave the files as they are. -/
theorem mem_file_makeDirectories {reached path target : Path} {disk : Disk Content} {content : Content} :
    ({ path := target, node := .file content } : Entry Content) ∈ (makeDirectories accepts reached path disk).2 <->
      ({ path := target, node := .file content } : Entry Content) ∈ disk := by
  induction path generalizing reached disk with
  | nil => exact Iff.rfl
  | cons name rest inductionHypothesis =>
      unfold makeDirectories
      dsimp only
      split
      · exact inductionHypothesis
      · exact Iff.rfl
      · split
        · exact Iff.rfl
        · split
          · rename_i created
            refine inductionHypothesis.trans ?_
            rw [Table.mem_insert (create_insert created)]
            exact or_iff_left nofun
          · exact Iff.rfl

/-- A path that could be made leads to a directory. -/
theorem makeDirectories_ok {reached path target : Path} {disk after : Disk Content}
    (start : disk.isDirectory reached = true)
    (made : makeDirectories accepts reached path disk = (.ok target, after)) :
    target = path.foldl Path.descend reached ∧ after.isDirectory target = true := by
  induction path generalizing reached disk with
  | nil =>
      rcases Prod.mk.inj made with ⟨same, rfl⟩
      rcases Except.ok.inj same with rfl
      exact ⟨rfl, start⟩
  | cons name rest inductionHypothesis =>
      unfold makeDirectories at made
      dsimp only at made
      split at made
      · rename_i found
        refine inductionHypothesis ?_ made
        unfold isDirectory
        rw [found]
        rfl
      · exact absurd (congrArg Prod.fst made) nofun
      · split at made
        · exact absurd (congrArg Prod.fst made) nofun
        · rename_i forward
          split at made
          · rename_i created
            refine inductionHypothesis ?_ made
            unfold Path.descend
            rw [if_neg forward]
            exact isDirectory_of_mem ((Table.mem_insert (create_insert created)).mpr (.inr rfl))
          · exact absurd (congrArg Prod.fst made) nofun

/-! ## Trees -/

/-- Every entry lies in a directory. -/
def IsTree (disk : Disk Content) : Prop :=
  forall entry, entry ∈ disk -> disk.isDirectory entry.path.dropLast = true

theorem isDirectory_of_insert {disk after : Disk Content} {entry : Entry Content}
    (inserted : disk.insert entry = some after) {path : Path} (found : disk.isDirectory path = true) :
    after.isDirectory path = true := by
  by_cases top : path = []
  · rw [isDirectory, node, if_pos top]
    rfl
  · exact isDirectory_of_mem ((Table.mem_insert inserted).mpr (Or.inl (mem_of_isDirectory found top)))

theorem IsTree.insert {disk after : Disk Content} (tree : disk.IsTree) {directory : Path} {name : Name}
    {node : Node Content} (inserted : disk.insert { path := directory ++ [name], node := node } = some after)
    (inside : disk.isDirectory directory = true) : after.IsTree := by
  intro entry member
  rcases (Table.mem_insert inserted).mp member with old | rfl
  · exact isDirectory_of_insert inserted (tree entry old)
  · rw [List.dropLast_concat]
    exact isDirectory_of_insert inserted inside

theorem IsTree.makeDirectories {reached path : Path} {disk : Disk Content} (tree : disk.IsTree)
    (start : disk.isDirectory reached = true) : (disk.makeDirectories accepts reached path).2.IsTree := by
  induction path generalizing reached disk with
  | nil => exact tree
  | cons name rest inductionHypothesis =>
      unfold Disk.makeDirectories
      dsimp only
      split
      · rename_i found
        refine inductionHypothesis tree ?_
        rw [isDirectory, found]
        rfl
      · exact tree
      · split
        · exact tree
        · rename_i forward
          split
          · rename_i created
            refine inductionHypothesis (tree.insert (create_insert created) start) ?_
            rw [Path.descend, if_neg forward]
            exact isDirectory_of_mem ((Table.mem_insert (create_insert created)).mpr (Or.inr rfl))
          · exact tree

/-- Directories are only made on the way. -/
theorem mem_makeDirectories {reached path : Path} {disk : Disk Content} {entry : Entry Content}
    (member : entry ∈ (makeDirectories accepts reached path disk).2) :
    entry ∈ disk ∨ (entry.node = .directory ∧ entry.path.length ≤ reached.length + path.length) := by
  induction path generalizing reached disk with
  | nil => exact Or.inl member
  | cons name rest inductionHypothesis =>
      have shorter := Path.length_descend_le reached name
      unfold makeDirectories at member
      dsimp only at member
      rw [List.length_cons]
      split at member
      · refine (inductionHypothesis member).imp_right fun ⟨isDirectory, short⟩ => ⟨isDirectory, ?_⟩
        omega
      · exact Or.inl member
      · split at member
        · exact Or.inl member
        · split at member
          · rename_i created
            rcases inductionHypothesis member with old | ⟨isDirectory, short⟩
            · rcases (Table.mem_insert (create_insert created)).mp old with old | rfl
              · exact Or.inl old
              · refine Or.inr ⟨rfl, ?_⟩
                rw [List.length_append, List.length_singleton]
                omega
            · exact Or.inr ⟨isDirectory, by omega⟩
          · exact Or.inl member

theorem mem_makeDirectories_of_mem {reached path : Path} {disk : Disk Content} {entry : Entry Content}
    (member : entry ∈ disk) : entry ∈ (makeDirectories accepts reached path disk).2 := by
  induction path generalizing reached disk with
  | nil => exact member
  | cons name rest inductionHypothesis =>
      unfold makeDirectories
      dsimp only
      split
      · exact inductionHypothesis member
      · exact member
      · split
        · exact member
        · split
          · rename_i created
            exact inductionHypothesis ((Table.mem_insert (create_insert created)).mpr (Or.inl member))
          · exact member

theorem isDirectory_makeDirectories {reached path target : Path} {disk : Disk Content}
    (found : disk.isDirectory target = true) : (makeDirectories accepts reached path disk).2.isDirectory target = true := by
  by_cases top : target = []
  · rw [isDirectory, node, if_pos top]
    rfl
  · exact isDirectory_of_mem (mem_makeDirectories_of_mem (mem_of_isDirectory found top))

/-- Directories that are there are passed. -/
theorem IsTree.makeDirectories_append {path : Path} {disk : Disk Content} (tree : disk.IsTree)
    (found : disk.isDirectory path = true) (resolved : Path.resolve path = path) (rest : Path) :
    disk.makeDirectories accepts [] (path ++ rest) = disk.makeDirectories accepts path rest := by
  induction path using List.reverseRecOn generalizing rest with
  | nil => rfl
  | append_singleton before name inductionHypothesis =>
      have stored := mem_of_isDirectory found (List.append_ne_nil_of_right_ne_nil _ (List.cons_ne_nil _ _))
      have parent := tree _ stored
      rw [List.dropLast_concat] at parent
      rw [Path.resolve, List.foldl_append, List.foldl_cons, List.foldl_nil] at resolved
      have forward : name.text ≠ "..".toList := by
        intro back
        have short := Path.length_resolve_le before
        have length := congrArg List.length resolved
        rw [Path.descend, if_pos back, List.length_dropLast, List.length_append, List.length_singleton] at length
        change (Path.resolve before).length - 1 = _ at length
        omega
      rw [Path.descend, if_neg forward] at resolved
      rw [List.append_assoc, inductionHypothesis parent (List.append_singleton_inj.mp resolved).1]
      have isNext : disk.node (before ++ [name]) = some .directory := node_of_isDirectory found
      change disk.makeDirectories accepts before (name :: rest) = _
      rw [Disk.makeDirectories, Path.descend, if_neg forward, isNext]

end Disk

/-- A disk whose entries all lie in directories. -/
structure FileTree (Content : Type) where
  disk : Disk Content
  tree : disk.IsTree

end Foundation
end ApexQuant
