import ApexQuant.Migrations.Discovery

namespace ApexQuant
namespace Migrations

open Foundation

/-!
# Created migrations

Whether `discover_migrations` finds what `create_migration` has written.  The file
name is put together from the slug as it is, and its pattern does not let through the
newline that the pattern of slugs does; the path is put together from the domain as it
is, and a directory is only discovered under its own name.
-/

variable {platform : Platform} {root : Path} {engine : MigrationEngine} {domain slug : Text}

/-! ## What a creation leaves -/

/-- What is known when `create_migration` returns. -/
structure Created (platform : Platform) (root : Path) (engine : MigrationEngine) (domain slug : Text)
    (disk : Disk Bytes) (path : Path) (after : Disk Bytes) (middle : Disk Bytes) (existing : List MigrationFile)
    (name : Name) (content : Bytes) : Prop where
  valid : isSlug slug = true
  made : middle = (Disk.makeDirectories platform.accepts [] (Path.join root domain) disk).2
  isDirectory : middle.isDirectory (Path.resolve (Path.join root domain)) = true
  discovered : discoverMigrations platform root engine (some domain) middle = .ok existing
  named : name.text = filenameOf (nextVersion platform.digits existing) slug
  path : path = Path.join root domain ++ [name]
  inserted : middle.insert { path := Path.resolve (Path.join root domain) ++ [name], node := .file content } = some after

theorem exists_created {disk after : Disk Bytes} {path : Path}
    (returned : createMigration platform root engine domain slug disk = (.ok path, after)) :
    Exists fun middle => Exists fun existing => Exists fun name => Exists fun content =>
      Created platform root engine domain slug disk path after middle existing name content := by
  unfold createMigration at returned
  split at returned
  · rename_i valid
    dsimp only at returned
    cases made : Disk.makeDirectories platform.accepts [] (Path.join root domain) disk with
    | mk answer middle =>
        rw [made] at returned
        cases answer with
        | error error => cases returned
        | ok directory =>
            rcases Disk.makeDirectories_ok rfl made with ⟨rfl, isDirectory⟩
            dsimp only at returned
            cases discovered : discoverMigrations platform root engine (some domain) middle with
            | error error =>
                rw [discovered] at returned
                cases returned
            | ok existing =>
                rw [discovered] at returned
                dsimp only at returned
                split at returned
                · cases returned
                · split at returned
                  · cases returned
                  · rename_i created
                    rcases Prod.mk.inj returned with ⟨same, rfl⟩
                    exact ⟨middle, existing, _, _, valid, (congrArg Prod.snd made).symm, isDirectory, discovered, rfl,
                      (Except.ok.inj same).symm, Disk.create_insert created⟩
  · cases returned

/-! ## Entries that are discovered -/

/-- In a tree the entries that are read are those two steps below the root. -/
theorem mem_sources {disk : Disk Bytes} (tree : disk.IsTree) {domainFilter : Option Text} {name : Name}
    {entry : Name × Node Bytes} :
    (name, entry) ∈ sources disk root domainFilter <->
      ({ path := root ++ [name, entry.1], node := entry.2 } : Entry Bytes) ∈ disk ∧
        sqlSuffix.isSuffixOf entry.1.text = true ∧ (domainFilter.all fun wanted => wanted == name.text) = true := by
  have split : root ++ [name, entry.1] = (root ++ [name]) ++ [entry.1] := by rw [List.append_assoc]; rfl
  unfold sources
  rw [List.mem_flatMap]
  constructor
  · rintro ⟨other, listed, member⟩
    rcases List.mem_map.mp member with ⟨found, inside, same⟩
    rcases Prod.mk.inj same with ⟨rfl, rfl⟩
    rcases mem_sqlFiles.mp inside with ⟨child, suffix⟩
    rw [split]
    exact ⟨Disk.mem_children.mp child, suffix, (mem_domainsOf.mp listed).2⟩
  · rintro ⟨stored, suffix, admitted⟩
    rw [split] at stored
    have parent := tree _ stored
    rw [List.dropLast_concat] at parent
    have isDomain := Disk.mem_of_isDirectory parent (List.append_ne_nil_of_right_ne_nil _ (List.cons_ne_nil _ _))
    refine ⟨name, mem_domainsOf.mpr ⟨Disk.mem_children.mpr isDomain, admitted⟩, ?_⟩
    exact List.mem_map.mpr ⟨entry, mem_sqlFiles.mpr ⟨Disk.mem_children.mpr stored, suffix⟩, rfl⟩

theorem mem_discovered_iff {disk : Disk Bytes} {domainFilter : Option Text} {files : List MigrationFile}
    (discovered : discoverMigrations platform root engine domainFilter disk = .ok files) {file : MigrationFile} :
    file ∈ files <-> Exists fun source => source ∈ sources disk root domainFilter ∧
      readMigration platform root engine source.1 source.2 = .ok file := by
  constructor
  · exact exists_source discovered
  · rintro ⟨source, listed, read⟩
    refine (discoverMigrations_ok discovered).1.mem_iff.mpr (List.mem_filterMap.mpr ⟨source, listed, ?_⟩)
    rw [read]
    rfl

/-- The two disks have the same entries two steps below the root. -/
def SameSources (root : Path) (left right : Disk Bytes) : Prop :=
  forall (name : Name) (entry : Name × Node Bytes),
    ({ path := root ++ [name, entry.1], node := entry.2 } : Entry Bytes) ∈ left <->
      ({ path := root ++ [name, entry.1], node := entry.2 } : Entry Bytes) ∈ right

/-- A filter keeps the files of its domain. -/
theorem mem_filtered_iff {disk middle : Disk Bytes} (tree : disk.IsTree) (tree' : middle.IsTree)
    (same : SameSources root disk middle) {wanted : Text} {all filtered : List MigrationFile}
    (discovered : discoverMigrations platform root engine none disk = .ok all)
    (discovered' : discoverMigrations platform root engine (some wanted) middle = .ok filtered) {file : MigrationFile} :
    file ∈ filtered <-> file ∈ all ∧ file.domain = wanted := by
  rw [mem_discovered_iff discovered, mem_discovered_iff discovered']
  constructor
  · rintro ⟨⟨name, entry⟩, listed, read⟩
    rcases (mem_sources tree').mp listed with ⟨stored, suffix, admitted⟩
    refine ⟨⟨(name, entry), (mem_sources tree).mpr ⟨(same name entry).mpr stored, suffix, rfl⟩, read⟩, ?_⟩
    rw [Option.all_some, beq_iff_eq] at admitted
    exact (readMigration_ok read).2.1.trans admitted.symm
  · rintro ⟨⟨⟨name, entry⟩, listed, read⟩, named⟩
    rcases (mem_sources tree).mp listed with ⟨stored, suffix, _⟩
    refine ⟨(name, entry), (mem_sources tree').mpr ⟨(same name entry).mp stored, suffix, ?_⟩, read⟩
    rw [Option.all_some, beq_iff_eq, ← named]
    exact (readMigration_ok read).2.1

/-! ## Versions -/

/-- The highest version of a domain, or zero. -/
def highestVersion (digits : Text.DecimalDigits) (domain : Text) (files : List MigrationFile) : Nat :=
  ((files.filter fun file => decide (file.domain = domain)).map fun file => digits.number file.version).foldr max 0

theorem number_nextVersion_eq (digits : Text.DecimalDigits) (existing : List MigrationFile) :
    digits.number (nextVersion digits existing) =
      (existing.map fun file => digits.number file.version).foldr max 0 + 1 := by
  unfold nextVersion
  split
  · rename_i empty
    rw [List.isEmpty_iff.mp empty]
    change digits.number (List.leftpad 4 '0' (Nat.toDigits 10 1)) = 1
    rw [digits.number_leftpad, digits.number_toDigits]
  · dsimp only
    rw [digits.number_leftpad, digits.number_toDigits]

theorem foldr_max_congr {Item : Type} {left right : List Item} (same : forall item, item ∈ left <-> item ∈ right)
    (f : Item -> Nat) : (left.map f).foldr max 0 = (right.map f).foldr max 0 := by
  have below : forall {first second : List Item}, (forall item, item ∈ first -> item ∈ second) ->
      (first.map f).foldr max 0 ≤ (second.map f).foldr max 0 := by
    intro first second inside
    refine List.max_le_of_forall_le (first.map f) _ fun value member => ?_
    rcases List.mem_map.mp member with ⟨item, listed, rfl⟩
    exact List.le_max_of_le' 0 (List.mem_map_of_mem (inside item listed)) (le_refl _)
  exact le_antisymm (below fun item => (same item).mp) (below fun item => (same item).mpr)

theorem le_highestVersion (digits : Text.DecimalDigits) {files : List MigrationFile} {file : MigrationFile}
    (member : file ∈ files) : digits.number file.version ≤ highestVersion digits file.domain files := by
  have listed : file ∈ files.filter fun other => decide (other.domain = file.domain) :=
    List.mem_filter.mpr ⟨member, decide_eq_true rfl⟩
  exact List.le_max_of_le' 0 (List.mem_map_of_mem listed) (le_refl _)

/-! ## The new file -/

/-- The discovery returns the old files and the new one, last in its domain, under the
version that follows. -/
def DiscoversNew (platform : Platform) (root : Path) (engine : MigrationEngine) (domain : Text)
    (old : List MigrationFile) (path : Path) (after : Disk Bytes) : Prop :=
  Exists fun before => Exists fun file => Exists fun behind =>
    discoverMigrations platform root engine none after = .ok (before ++ file :: behind) ∧ old = before ++ behind ∧
      file.domain = domain ∧ file.path = Path.str path ∧ (forall other, other ∈ behind -> other.domain ≠ domain) ∧
      platform.digits.number file.version = highestVersion platform.digits domain old + 1

/-- The domain is the name of an entry of the root, and spelled like it. -/
def NamesDomain (root : Path) (domain : Text) : Prop :=
  Exists fun name : Name => name.text = domain ∧ Path.resolve (Path.join root domain) = root ++ [name]

theorem map_text_parts (text : Text) :
    (Path.parts text).map Name.text = (List.splitOn '/' text).filterMap fun piece =>
      if piece = [] ∨ piece = ['.'] then none else some piece := by
  have pieces := List.attach_map_subtype_val (List.splitOn '/' text)
  conv_rhs => rw [← pieces, List.filterMap_map]
  rw [Path.parts, List.map_filterMap]
  refine List.filterMap_congr fun piece _ => ?_
  rw [Function.comp_apply]
  split
  · rfl
  · rfl

/-- A domain that is named is one step below the root. -/
theorem NamesDomain.join {root : Path} {domain : Text} (named : NamesDomain root domain) :
    Exists fun name : Name => name.text = domain ∧ Path.resolve (Path.join root domain) = root ++ [name] ∧
      Path.join root domain = root ++ [name] := by
  rcases named with ⟨name, rfl, leads⟩
  refine ⟨name, rfl, leads, ?_⟩
  have relative : name.text.head? ≠ some '/' := by
    intro absolute
    exact name.plain (List.mem_of_mem_head? absolute)
  have alone : List.splitOn '/' name.text = [name.text] := List.splitOn_eq_singleton name.plain
  have parts : Path.parts name.text = [] ∨ Path.parts name.text = [name] := by
    have texts := map_text_parts name.text
    rw [alone, List.filterMap_cons, List.filterMap_nil] at texts
    split at texts
    · exact Or.inl (List.map_eq_nil_iff.mp texts)
    · rename_i kept
      rcases List.map_eq_singleton_iff.mp texts with ⟨other, parts, same⟩
      have spelled : other.text = name.text := by
        split at kept
        · cases kept
        · exact same.trans (Option.some.inj kept).symm
      exact Or.inr (parts.trans (congrArg (fun name => [name]) (Name.ext spelled)))
  rw [Path.join, if_neg relative] at leads ⊢
  rcases parts with none | one
  · have short := Path.length_resolve_le (root ++ Path.parts name.text)
    rw [leads, none, List.append_nil, List.length_append, List.length_singleton] at short
    omega
  · rw [one]

/-! ## What is discovered afterwards -/

section

variable {disk after middle : Disk Bytes} {path : Path} {existing old : List MigrationFile} {name : Name}
  {content : Bytes}

/-- The file of a creation, as it is read. -/
theorem readMigration_of_match (root : Path) (engine : MigrationEngine) (domainName : Name) (content : Bytes)
    {version : Text} (matched : matchFilename platform.digits name.text = some version) :
    Exists fun file => readMigration platform root engine domainName (name, .file content) = .ok file ∧
      file.path = Path.str (root ++ [domainName, name]) ∧ file.version = version ∧ file.domain = domainName.text := by
  unfold readMigration
  rw [matched]
  exact ⟨_, rfl, rfl, rfl, rfl⟩

theorem matchFilename_next (digits : Text.DecimalDigits) (existing : List MigrationFile) (slug : Text) :
    matchFilename digits (filenameOf (nextVersion digits existing) slug) =
      if isSlugBody slug then some (nextVersion digits existing) else none := by
  rcases nextVersion_numeral digits existing with ⟨long, numeral⟩
  exact matchFilename_filenameOf digits long (fun c member => isDigit_of_ascii _ (numeral c member)) slug

theorem sqlSuffix_filenameOf (version slug : Text) : sqlSuffix.isSuffixOf (filenameOf version slug) = true := by
  rw [filenameOf, List.isSuffixOf_iff_suffix]
  exact (List.suffix_append slug sqlSuffix).trans ((List.suffix_cons _ _).trans (List.suffix_append _ _))

/-- The directories that a creation makes are not two steps below the root. -/
theorem sameSources_makeDirectories (near : path.length ≤ root.length + 1) :
    SameSources root disk (Disk.makeDirectories platform.accepts [] path disk).2 := by
  intro domainName entry
  refine ⟨Disk.mem_makeDirectories_of_mem, fun member => ?_⟩
  rcases Disk.mem_makeDirectories member with stored | ⟨_, short⟩
  · exact stored
  · rw [List.length_append, List.length_cons, List.length_singleton, List.length_nil] at short
    omega

/-- What is discovered at another place than before is the new file. -/
theorem Created.place_of_new
    (created : Created platform root engine domain slug disk path after middle existing name content)
    {target : Path} {found : Bytes} (member : ({ path := target, node := .file found } : Entry Bytes) ∈ after)
    (fresh : ({ path := target, node := .file found } : Entry Bytes) ∉ disk) :
    target = Path.resolve (Path.join root domain) ++ [name] := by
  rcases (Table.mem_insert created.inserted).mp member with older | same
  · rw [created.made, Disk.mem_file_makeDirectories] at older
    exact absurd older fresh
  · exact congrArg Entry.path same

theorem Created.tree
    (created : Created platform root engine domain slug disk path after middle existing name content)
    (tree : disk.IsTree) : middle.IsTree ∧ after.IsTree := by
  have made : middle.IsTree := by
    rw [created.made]
    exact tree.makeDirectories rfl
  exact ⟨made, made.insert created.inserted created.isDirectory⟩

/-- Only a file of the domain that has its own name is discovered. -/
theorem Created.of_discoversNew
    (created : Created platform root engine domain slug disk path after middle existing name content)
    (tree : disk.IsTree) (discovered : discoverMigrations platform root engine none disk = .ok old)
    (discovers : DiscoversNew platform root engine domain old path after) :
    NamesDomain root domain ∧ isSlugBody slug = true := by
  rcases discovers with ⟨before, file, behind, discovered', rfl, named, _, _, _⟩
  have fresh : file ∉ before ++ behind := by
    intro member
    have distinct := (discovered_ids_nodup discovered').of_map
    rw [List.nodup_middle, List.nodup_cons] at distinct
    exact distinct.1 member
  rcases exists_source discovered' (List.mem_append_right before List.mem_cons_self) with ⟨⟨domainName, entry⟩, listed, read⟩
  rcases (mem_sources (created.tree tree).2).mp listed with ⟨stored, suffix, _⟩
  rcases readMigration_ok read with ⟨_, sameDomain, _, matched, _, found, isFile, _⟩
  have absent : ({ path := root ++ [domainName, entry.1], node := .file found } : Entry Bytes) ∉ disk := by
    intro older
    refine fresh ((mem_discovered_iff discovered).mpr ⟨(domainName, entry), ?_, read⟩)
    refine (mem_sources tree).mpr ⟨?_, suffix, rfl⟩
    rwa [isFile]
  dsimp only at isFile
  rw [isFile] at stored
  have place := created.place_of_new stored absent
  have split : root ++ [domainName, entry.1] = (root ++ [domainName]) ++ [entry.1] := by rw [List.append_assoc]; rfl
  rw [split] at place
  rcases List.append_singleton_inj.mp place with ⟨leads, sameName⟩
  refine ⟨⟨domainName, sameDomain.symm.trans named, leads.symm⟩, ?_⟩
  dsimp only at matched
  rw [sameName, created.named, matchFilename_next] at matched
  by_contra odd
  rw [if_neg odd] at matched
  cases matched

/-- Files of a discovery with one key are one file. -/
theorem eq_of_sortKey_eq {domainFilter : Option Text} {files : List MigrationFile}
    (discovered : discoverMigrations platform root engine domainFilter disk = .ok files) {file other : MigrationFile}
    (member : file ∈ files) (member' : other ∈ files)
    (same : sortKey platform.digits file = sortKey platform.digits other) : file = other := by
  refine List.inj_on_of_nodup_map (discovered_ids_nodup discovered) member member' ?_
  rcases exists_source discovered member with ⟨source, _, read⟩
  rcases exists_source discovered member' with ⟨source', _, read'⟩
  rcases readMigration_ok read with ⟨_, domain, filename, _, id, _⟩
  rcases readMigration_ok read' with ⟨_, domain', filename', _, id', _⟩
  rcases Prod.mk.inj (toLex_inj.mp same) with ⟨sameDomain, rest⟩
  have sameFilename := (Prod.mk.inj (toLex_inj.mp rest)).2
  rw [id, id', ← domain, ← domain', ← filename, ← filename', sameDomain, sameFilename]

theorem isRoot_of_discovered {domainFilter : Option Text} {files : List MigrationFile}
    (discovered : discoverMigrations platform root engine domainFilter disk = .ok files) :
    disk.isDirectory root = true := by
  unfold discoverMigrations at discovered
  unfold Disk.isDirectory
  split at discovered
  · cases discovered
  · cases discovered
  · rename_i isDirectory
    rw [isDirectory]
    rfl

/-- A discovery returns exactly where every entry can be read. -/
theorem discoverMigrations_returns_iff {domainFilter : Option Text} (isRoot : disk.isDirectory root = true) :
    (Exists fun files => discoverMigrations platform root engine domainFilter disk = .ok files) <->
      forall source, source ∈ sources disk root domainFilter ->
        Exists fun file => readMigration platform root engine source.1 source.2 = .ok file := by
  rw [← Run.mapM_returns_iff]
  have known := Disk.node_of_isDirectory isRoot
  unfold discoverMigrations
  rw [known]
  dsimp only
  constructor
  · rintro ⟨files, discovered⟩
    rcases Run.ok_of_bind discovered with ⟨unsorted, read, _⟩
    exact ⟨unsorted, read⟩
  · rintro ⟨unsorted, read⟩
    rw [read]
    exact ⟨_, rfl⟩

/-- The new entry is the only one that a discovery finds beside the old ones. -/
theorem Created.mem_sources_after
    (created : Created platform root engine domain slug disk path after middle existing name content)
    (tree : disk.IsTree) {domainName : Name} (leads : Path.resolve (Path.join root domain) = root ++ [domainName])
    (near : (Path.join root domain).length ≤ root.length + 1) {source : Name × Name × Node Bytes} :
    source ∈ sources after root none <->
      source ∈ sources disk root none ∨ source = (domainName, name, .file content) := by
  rcases source with ⟨other, entry⟩
  have place : root ++ [domainName] ++ [name] = root ++ [domainName, name] := by rw [List.append_assoc]; rfl
  have suffix : sqlSuffix.isSuffixOf name.text = true := by
    rw [created.named]
    exact sqlSuffix_filenameOf _ slug
  have same : SameSources root disk middle := created.made ▸ sameSources_makeDirectories near
  rw [mem_sources (created.tree tree).2, mem_sources tree, Table.mem_insert created.inserted, leads, place,
    same other entry]
  constructor
  · rintro ⟨stored | new, suffixed, admitted⟩
    · exact Or.inl ⟨stored, suffixed, admitted⟩
    · rcases Entry.mk.inj new with ⟨samePath, sameNode⟩
      rcases List.cons.inj (List.append_cancel_left samePath) with ⟨rfl, rest⟩
      refine Or.inr (Prod.ext rfl (Prod.ext (List.cons.inj rest).1 sameNode))
  · rintro (⟨stored, suffixed, admitted⟩ | new)
    · exact ⟨Or.inl stored, suffixed, admitted⟩
    · cases new
      exact ⟨Or.inr rfl, suffix, rfl⟩

/-- A plain slug under the name of a domain is discovered. -/
theorem Created.discoversNew
    (created : Created platform root engine domain slug disk path after middle existing name content)
    (tree : disk.IsTree) (discovered : discoverMigrations platform root engine none disk = .ok old)
    (named : NamesDomain root domain) (plain : isSlugBody slug = true) :
    DiscoversNew platform root engine domain old path after := by
  rcases named.join with ⟨domainName, rfl, leads, joined⟩
  have near : (Path.join root domainName.text).length ≤ root.length + 1 := by
    rw [joined, List.length_append, List.length_singleton]
  have matched := matchFilename_next platform.digits existing slug
  rw [if_pos plain, ← created.named] at matched
  rcases readMigration_of_match root engine domainName content matched with
    ⟨file, read, filePath, fileVersion, fileDomain⟩
  have isRoot : after.isDirectory root = true := by
    refine Disk.isDirectory_of_insert created.inserted ?_
    rw [created.made]
    exact Disk.isDirectory_makeDirectories (isRoot_of_discovered discovered)
  have same : SameSources root disk middle := created.made ▸ sameSources_makeDirectories near
  have existing_iff : forall other, other ∈ existing <-> other ∈ old ∧ other.domain = domainName.text :=
    fun _ => mem_filtered_iff tree (created.tree tree).1 same discovered created.discovered
  have fresh : file ∉ old := by
    intro member
    have listed := (existing_iff file).mpr ⟨member, fileDomain⟩
    have higher := number_nextVersion platform.digits listed
    rw [fileVersion] at higher
    exact lt_irrefl _ higher
  have readable := (discoverMigrations_returns_iff (isRoot_of_discovered discovered)).mp ⟨old, discovered⟩
  have readableAfter : forall source, source ∈ sources after root none ->
      Exists fun file => readMigration platform root engine source.1 source.2 = .ok file := by
    intro source listed
    rcases (created.mem_sources_after tree leads near).mp listed with older | rfl
    · exact readable source older
    · exact ⟨file, read⟩
  rcases (discoverMigrations_returns_iff isRoot).mpr readableAfter with ⟨files, discovered'⟩
  have members : forall other, other ∈ files <-> other ∈ file :: old := by
    intro other
    rw [mem_discovered_iff discovered', List.mem_cons, mem_discovered_iff discovered]
    constructor
    · rintro ⟨source, listed, readOther⟩
      rcases (created.mem_sources_after tree leads near).mp listed with older | rfl
      · exact Or.inr ⟨source, older, readOther⟩
      · exact Or.inl (Except.ok.inj (readOther.symm.trans read))
    · rintro (rfl | ⟨source, listed, readOther⟩)
      · exact ⟨_, (created.mem_sources_after tree leads near).mpr (Or.inr rfl), read⟩
      · exact ⟨source, (created.mem_sources_after tree leads near).mpr (Or.inl listed), readOther⟩
  have same : files.Perm (file :: old) :=
    (List.perm_ext_iff_of_nodup (discovered_ids_nodup discovered').of_map
      (List.nodup_cons.mpr ⟨fresh, (discovered_ids_nodup discovered).of_map⟩)).mpr members
  rcases List.append_of_mem ((members file).mpr List.mem_cons_self) with ⟨before, behind, rfl⟩
  have rest : (before ++ behind).Perm old := (List.perm_middle.symm.trans same).cons_inv
  have ordered := (discoverMigrations_ok discovered').2
  have whole : before ++ behind = old := by
    refine List.Perm.eq_of_pairwise (fun left right member member' below above => ?_)
      (ordered.sublist (List.Sublist.append_left (List.sublist_cons_self _ _) _)) (discoverMigrations_ok discovered).2 rest
    exact eq_of_sortKey_eq discovered (rest.mem_iff.mp member) member' (le_antisymm below above)
  have version : platform.digits.number file.version =
      highestVersion platform.digits domainName.text old + 1 := by
    rw [fileVersion, number_nextVersion_eq]
    refine congrArg (· + 1) (foldr_max_congr (fun other => ?_) _)
    rw [existing_iff, List.mem_filter, decide_eq_true_eq]
  refine ⟨before, file, behind, discovered', whole.symm, fileDomain, ?_, ?_, version⟩
  · rw [filePath, created.path, joined, List.append_assoc]
    rfl
  · intro other member sameDomain
    have below := (List.pairwise_cons.mp (List.pairwise_append.mp ordered).2.1).1 other member
    have stored : other ∈ old := whole ▸ List.mem_append_right before member
    have low := le_highestVersion platform.digits stored
    rw [sameDomain] at low
    unfold sortKey at below
    rw [sameDomain, fileDomain, Prod.Lex.toLex_le_toLex] at below
    rcases below with lower | ⟨_, later⟩
    · exact absurd lower (lt_irrefl _)
    · rw [Prod.Lex.toLex_le_toLex] at later
      rcases later with lower | ⟨equal, _⟩
      · dsimp only at lower
        omega
      · dsimp only at equal
        omega

/-- Below a root that is there, a domain that no file is in the way of is made or there. -/
theorem makeDirectories_of_free {domainName : Name} (tree : disk.IsTree) (isRoot : disk.isDirectory root = true)
    (resolved : Path.resolve root = root) (forward : domainName.text ≠ "..".toList)
    (accepted : platform.accepts domainName = true)
    (free : forall content, disk.node (root ++ [domainName]) ≠ some (.file content)) :
    Exists fun middle => Disk.makeDirectories platform.accepts [] (root ++ [domainName]) disk =
      (.ok (root ++ [domainName]), middle) := by
  rw [tree.makeDirectories_append isRoot resolved, Disk.makeDirectories, Path.descend, if_neg forward]
  cases known : disk.node (root ++ [domainName]) with
  | none =>
      rcases Disk.create_of_absent accepted known .directory with ⟨middle, created⟩
      dsimp only
      rw [if_neg forward, created]
      exact ⟨middle, rfl⟩
  | some node =>
      cases node with
      | directory => exact ⟨disk, rfl⟩
      | file content => exact absurd known (free content)

/-- Nothing has the name with the next version yet: it would have been discovered with a
version that is not higher than the highest, or kept the discovery from returning. -/
theorem absent_of_next {middle : Disk Bytes} {existing : List MigrationFile} {domainName name : Name}
    (tree : disk.IsTree) (tree' : middle.IsTree) (same : SameSources root disk middle)
    (discovered : discoverMigrations platform root engine none disk = .ok old)
    (discovered' : discoverMigrations platform root engine (some domainName.text) middle = .ok existing)
    (named : name.text = filenameOf (nextVersion platform.digits existing) slug) :
    middle.node (root ++ [domainName] ++ [name]) = none := by
  have readable := (discoverMigrations_returns_iff (isRoot_of_discovered discovered)).mp ⟨old, discovered⟩
  cases known : middle.node (root ++ [domainName] ++ [name]) with
  | none => rfl
  | some node =>
      have stored := Disk.mem_of_node known (List.append_ne_nil_of_right_ne_nil _ (List.cons_ne_nil _ _))
      have place : root ++ [domainName] ++ [name] = root ++ [domainName, name] := by rw [List.append_assoc]; rfl
      have suffix : sqlSuffix.isSuffixOf name.text = true := named ▸ sqlSuffix_filenameOf _ slug
      rw [place] at stored
      have older : (domainName, name, node) ∈ sources disk root none :=
        (mem_sources tree).mpr ⟨(same domainName (name, node)).mpr stored, suffix, rfl⟩
      rcases readable (domainName, name, node) older with ⟨file, read⟩
      rcases readMigration_ok read with ⟨_, sameDomain, _, matched, _⟩
      dsimp only at matched
      rw [named, matchFilename_next] at matched
      by_cases plain : isSlugBody slug = true
      · rw [if_pos plain] at matched
        have listed := (mem_filtered_iff tree tree' same discovered discovered').mpr
          ⟨(mem_discovered_iff discovered).mpr ⟨_, older, read⟩, sameDomain⟩
        have higher := number_nextVersion platform.digits listed
        rw [Option.some.inj matched] at higher
        exact absurd higher (lt_irrefl _)
      · rw [if_neg plain] at matched
        cases matched

/-- Where the system accepts the names and no file is in the way, a creation returns. -/
theorem createMigration_returns (tree : disk.IsTree)
    (discovered : discoverMigrations platform root engine none disk = .ok old) (valid : isSlug slug = true)
    (named : NamesDomain root domain) (accepted : forall name, platform.accepts name = true)
    (free : forall name : Name, name.text = domain -> forall content, disk.node (root ++ [name]) ≠ some (.file content)) :
    Exists fun path => Exists fun after =>
      createMigration platform root engine domain slug disk = (.ok path, after) := by
  rcases named.join with ⟨domainName, rfl, leads, joined⟩
  have isRoot := isRoot_of_discovered discovered
  rw [joined, Path.resolve, List.foldl_append, List.foldl_cons, List.foldl_nil] at leads
  have forward : domainName.text ≠ "..".toList := by
    intro back
    have short := Path.length_resolve_le root
    have length := congrArg List.length leads
    rw [Path.descend, if_pos back, List.length_dropLast, List.length_append, List.length_singleton] at length
    change (Path.resolve root).length - 1 = _ at length
    omega
  rw [Path.descend, if_neg forward] at leads
  have resolved : Path.resolve root = root := (List.append_singleton_inj.mp leads).1
  have made : Exists fun middle => Disk.makeDirectories platform.accepts [] (Path.join root domainName.text) disk =
      (.ok (root ++ [domainName]), middle) := by
    rw [joined]
    exact makeDirectories_of_free tree isRoot resolved forward (accepted domainName) (free domainName rfl)
  rcases made with ⟨middle, made⟩
  have near : (Path.join root domainName.text).length ≤ root.length + 1 := by
    rw [joined, List.length_append, List.length_singleton]
  have same : SameSources root disk middle := by
    have same : SameSources root disk (Disk.makeDirectories platform.accepts [] (Path.join root domainName.text) disk).2 :=
      sameSources_makeDirectories near
    rwa [made] at same
  have tree' : middle.IsTree := by
    have made' : (Disk.makeDirectories platform.accepts [] (Path.join root domainName.text) disk).2.IsTree :=
      tree.makeDirectories rfl
    rwa [made] at made'
  have isRoot' : middle.isDirectory root = true := by
    have kept : (Disk.makeDirectories platform.accepts [] (Path.join root domainName.text) disk).2.isDirectory root =
        true := Disk.isDirectory_makeDirectories isRoot
    rwa [made] at kept
  have readable := (discoverMigrations_returns_iff isRoot).mp ⟨old, discovered⟩
  have readable' : forall source, source ∈ sources middle root (some domainName.text) ->
      Exists fun file => readMigration platform root engine source.1 source.2 = .ok file := by
    rintro ⟨other, entry⟩ listed
    rcases (mem_sources tree').mp listed with ⟨stored, suffix, _⟩
    exact readable (other, entry) ((mem_sources tree).mpr ⟨(same other entry).mpr stored, suffix, rfl⟩)
  rcases (discoverMigrations_returns_iff isRoot').mpr readable' with ⟨existing, discovered'⟩
  let name : Name :=
    { text := filenameOf (nextVersion platform.digits existing) slug, plain := filenameOf_plain platform.digits existing valid }
  have absent : middle.node (root ++ [domainName] ++ [name]) = none :=
    absent_of_next tree tree' same discovered discovered' rfl
  rcases Disk.create_of_absent (accepted name) absent (.file (encode (renderTemplate engine domainName.text name.text))) with
    ⟨after, created⟩
  refine ⟨Path.join root domainName.text ++ [name], after, ?_⟩
  unfold createMigration
  rw [dif_pos valid]
  dsimp only
  rw [made]
  dsimp only
  rw [discovered']
  dsimp only
  rw [absent, Option.isSome_none, if_neg Bool.false_ne_true, created]

end

/-- A creation that returns is discovered, as the last of its domain, exactly where the
domain is the name of its directory and the slug has no newline; and there it returns
where the system lets it. -/
theorem created_migration_is_discovered (platform : Platform) (root : Path) (engine : MigrationEngine)
    (domain slug : Text) (tree : FileTree Bytes) (old : List MigrationFile)
    (discovered : discoverMigrations platform root engine none tree.disk = .ok old) :
    (forall path after, createMigration platform root engine domain slug tree.disk = (.ok path, after) ->
      (DiscoversNew platform root engine domain old path after <->
        NamesDomain root domain ∧ isSlugBody slug = true)) ∧
      (isSlug slug = true -> NamesDomain root domain -> (forall name, platform.accepts name = true) ->
        (forall name : Name, name.text = domain ->
          forall content, tree.disk.node (root ++ [name]) ≠ some (.file content)) ->
        Exists fun path => Exists fun after =>
          createMigration platform root engine domain slug tree.disk = (.ok path, after)) := by
  refine ⟨fun path after returned => ?_, createMigration_returns tree.tree discovered⟩
  rcases exists_created returned with ⟨middle, existing, name, content, created⟩
  constructor
  · exact created.of_discoversNew tree.tree discovered
  · rintro ⟨named, plain⟩
    exact created.discoversNew tree.tree discovered named plain

/-- A tree with an empty root. -/
def emptyTree : FileTree Bytes where
  disk := emptyDisk
  tree := by
    have all : emptyDisk.rows.all (fun entry => emptyDisk.isDirectory entry.path.dropLast) = true := by decide
    exact fun entry member => List.all_eq_true.mp all entry member

theorem first_migration_is_discovered :
    Exists fun path => Exists fun after =>
      createMigration plainPlatform postgresRoot .postgres "auth".toList "users".toList emptyTree.disk =
          (.ok path, after) ∧
        DiscoversNew plainPlatform postgresRoot .postgres "auth".toList [] path after := by
  have named : NamesDomain postgresRoot "auth".toList :=
    ⟨{ text := "auth".toList, plain := by decide }, rfl, by decide⟩
  have empty : discoverMigrations plainPlatform postgresRoot .postgres none emptyTree.disk = .ok [] := rfl
  have main := created_migration_is_discovered plainPlatform postgresRoot .postgres "auth".toList "users".toList emptyTree
    [] empty
  have free : forall name : Name, name.text = "auth".toList ->
      forall content, emptyTree.disk.node (postgresRoot ++ [name]) ≠ some (.file content) := by
    intro name same content
    have known : emptyTree.disk.node (postgresRoot ++ [{ text := "auth".toList, plain := by decide }]) = none := by decide
    have sameName : name = { text := "auth".toList, plain := by decide } := Name.ext same
    rw [sameName, known]
    exact nofun
  rcases main.2 (by decide) named (fun _ => rfl) free with ⟨path, after, returned⟩
  exact ⟨path, after, returned, (main.1 path after returned).mpr ⟨named, by decide⟩⟩

/-- A slug that ends in a newline is accepted, and then nothing is discovered any more. -/
theorem newline_slug_ends_discovery :
    ¬forall slug : Text, isSlug slug = true -> forall path after,
      createMigration plainPlatform postgresRoot .postgres "auth".toList slug emptyTree.disk = (.ok path, after) ->
        DiscoversNew plainPlatform postgresRoot .postgres "auth".toList [] path after := by
  intro discovers
  have accepted : isSlug "users\n".toList = true := by decide
  cases returned : createMigration plainPlatform postgresRoot .postgres "auth".toList "users\n".toList emptyTree.disk with
  | mk answer after =>
      have hidden : (discoverMigrations plainPlatform postgresRoot .postgres none
          (createMigration plainPlatform postgresRoot .postgres "auth".toList "users\n".toList
            emptyTree.disk).2).toOption.isNone = true := by
        decide
      have ok : (createMigration plainPlatform postgresRoot .postgres "auth".toList "users\n".toList
          emptyTree.disk).1.toOption.isSome = true := by
        decide
      rw [returned] at hidden ok
      cases answer with
      | error error => cases ok
      | ok path =>
          rcases discovers _ accepted path after returned with ⟨before, file, behind, discovered, _⟩
          rw [discovered] at hidden
          cases hidden

end Migrations
end ApexQuant
