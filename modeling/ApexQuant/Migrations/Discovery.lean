import ApexQuant.Foundation.Disk
import ApexQuant.Foundation.Numerals
import ApexQuant.Foundation.Runs
import ApexQuant.Migrations.Planner

namespace ApexQuant
namespace Migrations

open Foundation

/-!
# Discovery of migration files

The model of `discovery.py`.  The two patterns have one way to match: the version is
the run of digits in front, and the dot of `.sql` is no character of a slug.  A `$`
also matches before a newline at the end of the text.
-/

abbrev Bytes := List UInt8

/-- What the functions rely on outside the repository. -/
structure Platform where
  digits : Text.DecimalDigits
  sha256 : Bytes -> Text
  accepts : Name -> Bool

inductive DiscoveryError where
  /-- `MigrationDiscoveryError`. -/
  | invalid (message : Text)
  | disk (error : DiskError)
  deriving DecidableEq

/-! ## The patterns -/

/-- `[a-z0-9_]`. -/
def isSlugChar (c : Char) : Bool :=
  (decide ('a' ≤ c) && decide (c ≤ 'z')) || (decide ('0' ≤ c) && decide (c ≤ '9')) || c == '_'

/-- What a pattern that ends in `$` has to match. -/
def chomp (text : Text) : Text :=
  if text.getLast? = some '\n' then text.dropLast else text

/-- `[a-z0-9_]+`. -/
def isSlugBody (text : Text) : Bool :=
  !text.isEmpty && text.all isSlugChar

/-- `SLUG_PATTERN.match`. -/
def isSlug (slug : Text) : Bool :=
  isSlugBody (chomp slug)

def sqlSuffix : Text := ".sql".toList

/-- `FILENAME_PATTERN.match`, with the group of the version. -/
def matchFilename (digits : Text.DecimalDigits) (filename : Text) : Option Text :=
  let text := chomp filename
  let version := text.takeWhile digits.isDigit
  match text.dropWhile digits.isDigit with
  | [] => none
  | mark :: rest =>
      if decide (4 ≤ version.length) && mark == '_' && sqlSuffix.isSuffixOf rest &&
          isSlugBody (rest.take (rest.length - sqlSuffix.length)) then some version
      else none

/-- The name of a migration file. -/
def filenameOf (version slug : Text) : Text :=
  version ++ '_' :: (slug ++ sqlSuffix)

/-- A file name that is put together matches when its slug is plain. -/
theorem matchFilename_filenameOf (digits : Text.DecimalDigits) {version : Text} (long : 4 ≤ version.length)
    (numeric : forall c, c ∈ version -> digits.isDigit c = true) (slug : Text) :
    matchFilename digits (filenameOf version slug) = if isSlugBody slug then some version else none := by
  have mark : digits.isDigit '_' = false := by
    unfold Text.DecimalDigits.isDigit
    rw [digits.value_of_ascii '_' (by decide)]
    rfl
  have whole : chomp (filenameOf version slug) = filenameOf version slug := by
    unfold chomp
    rw [if_neg]
    unfold filenameOf
    rw [List.getLast?_append, List.getLast?_cons, List.getLast?_append]
    exact nofun
  have before : (filenameOf version slug).takeWhile digits.isDigit = version := by
    unfold filenameOf
    rw [List.takeWhile_append_of_pos numeric, List.takeWhile_cons_of_neg (by rw [mark]; exact Bool.false_ne_true),
      List.append_nil]
  have behind : (filenameOf version slug).dropWhile digits.isDigit = '_' :: (slug ++ sqlSuffix) := by
    unfold filenameOf
    rw [List.dropWhile_append_of_pos numeric, List.dropWhile_cons_of_neg (by rw [mark]; exact Bool.false_ne_true)]
  have suffix : sqlSuffix.isSuffixOf (slug ++ sqlSuffix) = true :=
    List.isSuffixOf_iff_suffix.mpr (List.suffix_append _ _)
  unfold matchFilename
  dsimp only
  rw [whole, before, behind]
  dsimp only
  rw [suffix, List.length_append, Nat.add_sub_cancel, List.take_left, decide_eq_true long]
  rfl

/-! ## Discovery -/

/-- The identifier of a migration. -/
def migrationIdOf (engine : MigrationEngine) (domain filename : Text) : Text :=
  engine.value ++ '/' :: (domain ++ '/' :: filename)

/-- An entry of a domain directory as a migration. -/
def readMigration (platform : Platform) (root : Path) (engine : MigrationEngine) (domain : Name)
    (entry : Name × Node Bytes) : Except DiscoveryError MigrationFile :=
  let path := Path.str (root ++ [domain, entry.1])
  match matchFilename platform.digits entry.1.text with
  | none =>
      .error (.invalid ("invalid migration filename: ".toList ++ path ++
        ". Expected format: NNNN_slug.sql".toList))
  | some version =>
      match entry.2 with
      | .directory => .error (.disk .isADirectory)
      | .file content =>
          .ok
            { engine := engine
              domain := domain.text
              filename := entry.1.text
              path := path
              version := version
              migrationId := migrationIdOf engine domain.text entry.1.text
              checksumSha256 := platform.sha256 content }

/-- `sorted(domain_dir.glob("*.sql"))`. -/
def sqlFiles (disk : Disk Bytes) (directory : Path) : List (Name × Node Bytes) :=
  ((disk.children directory).filter fun entry => sqlSuffix.isSuffixOf entry.1.text).insertionSort
    fun left right => left.1.text ≤ right.1.text

/-- The directories of the root that a filter admits, in order. -/
def domainsOf (disk : Disk Bytes) (root : Path) (domainFilter : Option Text) : List Name :=
  ((((disk.children root).filter fun entry => entry.2.isDirectory).map Prod.fst).insertionSort
    fun left right => left.text ≤ right.text).filter fun name => domainFilter.all fun wanted => wanted == name.text

/-- The key of `files.sort`. -/
def sortKey (digits : Text.DecimalDigits) (file : MigrationFile) : Lex (Text × Lex (Nat × Text)) :=
  toLex (file.domain, toLex (digits.number file.version, file.filename))

/-- The entries that are read as migrations. -/
def sources (disk : Disk Bytes) (root : Path) (domainFilter : Option Text) : List (Name × Name × Node Bytes) :=
  (domainsOf disk root domainFilter).flatMap fun domain =>
    (sqlFiles disk (root ++ [domain])).map fun entry => (domain, entry)

/-- `discover_migrations`. -/
def discoverMigrations (platform : Platform) (root : Path) (engine : MigrationEngine) (domainFilter : Option Text)
    (disk : Disk Bytes) : Except DiscoveryError (List MigrationFile) :=
  match disk.node root with
  | none => .error (.invalid ("migration root does not exist: ".toList ++ Path.str root))
  | some (.file _) => .error (.invalid ("migration root is not a directory: ".toList ++ Path.str root))
  | some .directory => do
      let files ← (sources disk root domainFilter).mapM fun source =>
        readMigration platform root engine source.1 source.2
      return files.insertionSort fun left right => sortKey platform.digits left ≤ sortKey platform.digits right

/-! ## What is discovered -/

variable {platform : Platform} {root : Path} {engine : MigrationEngine} {domainFilter : Option Text}
  {disk : Disk Bytes}

theorem mem_sqlFiles {directory : Path} {entry : Name × Node Bytes} :
    entry ∈ sqlFiles disk directory <-> entry ∈ disk.children directory ∧ sqlSuffix.isSuffixOf entry.1.text = true := by
  unfold sqlFiles
  rw [List.mem_insertionSort, List.mem_filter]

theorem sqlFiles_distinct (disk : Disk Bytes) (directory : Path) :
    (sqlFiles disk directory).Pairwise fun left right => left.1 ≠ right.1 := by
  unfold sqlFiles
  rw [(List.perm_insertionSort _ _).pairwise_iff fun distinct same => distinct same.symm]
  exact (disk.children_distinct directory).filter _

theorem domainsOf_nodup (disk : Disk Bytes) (root : Path) (domainFilter : Option Text) :
    (domainsOf disk root domainFilter).Nodup := by
  unfold domainsOf
  refine List.Nodup.filter _ ((List.perm_insertionSort _ _).nodup_iff.mpr ?_)
  exact List.pairwise_map.mpr ((disk.children_distinct root).filter _)

theorem mem_domainsOf {name : Name} :
    name ∈ domainsOf disk root domainFilter <->
      (name, .directory) ∈ disk.children root ∧ (domainFilter.all fun wanted => wanted == name.text) = true := by
  unfold domainsOf
  rw [List.mem_filter, List.mem_insertionSort, List.mem_map]
  refine and_congr_left fun _ => ⟨?_, ?_⟩
  · rintro ⟨⟨child, node⟩, member, rfl⟩
    rcases List.mem_filter.mp member with ⟨listed, isDirectory⟩
    cases node with
    | directory => exact listed
    | file content => exact absurd isDirectory Bool.false_ne_true
  · intro listed
    exact ⟨_, List.mem_filter.mpr ⟨listed, rfl⟩, rfl⟩

/-- No entry is read twice. -/
theorem sources_distinct (disk : Disk Bytes) (root : Path) (domainFilter : Option Text) :
    (sources disk root domainFilter).Pairwise fun left right => left.1 = right.1 -> left.2.1 ≠ right.2.1 := by
  unfold sources
  rw [List.pairwise_flatMap]
  constructor
  · intro domain _
    refine List.pairwise_map.mpr ((sqlFiles_distinct disk (root ++ [domain])).imp ?_)
    exact fun distinct _ => distinct
  · refine (domainsOf_nodup disk root domainFilter).imp ?_
    intro left right distinct first isFirst second isSecond same
    rcases List.mem_map.mp isFirst with ⟨_, _, rfl⟩
    rcases List.mem_map.mp isSecond with ⟨_, _, rfl⟩
    exact absurd same distinct

/-- What is read of an entry. -/
theorem readMigration_ok {domain : Name} {entry : Name × Node Bytes} {file : MigrationFile}
    (read : readMigration platform root engine domain entry = .ok file) :
    file.engine = engine ∧ file.domain = domain.text ∧ file.filename = entry.1.text ∧
      matchFilename platform.digits entry.1.text = some file.version ∧
      file.migrationId = migrationIdOf engine domain.text entry.1.text ∧
      (Exists fun content => entry.2 = .file content ∧ file.checksumSha256 = platform.sha256 content) := by
  rcases entry with ⟨name, node⟩
  unfold readMigration at read
  dsimp only at read
  cases matched : matchFilename platform.digits name.text with
  | none => rw [matched] at read; exact absurd read nofun
  | some version =>
      rw [matched] at read
      cases node with
      | directory => exact absurd read nofun
      | file content =>
          rcases Except.ok.inj read with rfl
          exact ⟨rfl, rfl, rfl, rfl, rfl, content, rfl, rfl⟩

/-- An identifier determines the domain and the file name. -/
theorem migrationIdOf_injective {engine : MigrationEngine} {domain domain' name name' : Name}
    (same : migrationIdOf engine domain.text name.text = migrationIdOf engine domain'.text name'.text) :
    domain = domain' ∧ name = name' := by
  have tails := List.append_cancel_left same
  rcases List.cons.inj tails with ⟨-, parts⟩
  rcases (List.append_cons_inj_of_notMem domain.plain name.plain).mp parts with ⟨sameDomain, -, sameName⟩
  exact ⟨Name.ext sameDomain, Name.ext sameName⟩

/-- The files of a discovery are the entries that can be read, in the order of the
sort key. -/
theorem discoverMigrations_ok {files : List MigrationFile}
    (discovered : discoverMigrations platform root engine domainFilter disk = .ok files) :
    files.Perm ((sources disk root domainFilter).filterMap fun source =>
        (readMigration platform root engine source.1 source.2).toOption) ∧
      files.Pairwise fun left right => sortKey platform.digits left ≤ sortKey platform.digits right := by
  unfold discoverMigrations at discovered
  split at discovered
  · exact absurd discovered nofun
  · exact absurd discovered nofun
  · rcases Run.ok_of_bind discovered with ⟨unsorted, read, sorted⟩
    rw [← Except.ok.inj sorted, ← Run.eq_filterMap_of_mapM read]
    exact ⟨List.perm_insertionSort _ _, List.pairwise_insertionSort _ _⟩

theorem exists_source {files : List MigrationFile} {file : MigrationFile}
    (discovered : discoverMigrations platform root engine domainFilter disk = .ok files) (member : file ∈ files) :
    Exists fun source => source ∈ sources disk root domainFilter ∧
      readMigration platform root engine source.1 source.2 = .ok file := by
  rcases List.mem_filterMap.mp ((discoverMigrations_ok discovered).1.mem_iff.mp member) with ⟨source, listed, read⟩
  exact ⟨source, listed, Run.ok_of_toOption read⟩

/-- Discovered files have distinct identifiers. -/
theorem discovered_ids_nodup {files : List MigrationFile}
    (discovered : discoverMigrations platform root engine domainFilter disk = .ok files) :
    (files.map MigrationFile.migrationId).Nodup := by
  rw [((discoverMigrations_ok discovered).1.map _).nodup_iff]
  refine List.pairwise_map.mpr (List.Pairwise.filterMap _ ?_ (sources_distinct disk root domainFilter))
  intro left right distinct first isFirst second isSecond same
  rcases readMigration_ok (Run.ok_of_toOption isFirst) with ⟨-, -, -, -, firstId, -⟩
  rcases readMigration_ok (Run.ok_of_toOption isSecond) with ⟨-, -, -, -, secondId, -⟩
  rcases migrationIdOf_injective (firstId.symm.trans (same.trans secondId)) with ⟨sameDomain, sameName⟩
  exact distinct sameDomain sameName

/-! ## New migrations -/

/-- `next_version`. -/
def nextVersion (digits : Text.DecimalDigits) (existing : List MigrationFile) : Text :=
  if existing.isEmpty then "0001".toList
  else
    let maxVersion := (existing.map fun file => digits.number file.version).foldr max 0
    let nextValue := maxVersion + 1
    let width := max 4 (Nat.toDigits 10 nextValue).length
    (Nat.toDigits 10 nextValue).leftpad width '0'

/-- `render_template`. -/
def renderTemplate (engine : MigrationEngine) (domain filename : Text) : Text :=
  let header :=
    ["-- ApexQuant Ultra".toList, "-- Domain: ".toList ++ domain, "-- Migration: ".toList ++ filename,
      "-- Generated by apexquant-migrate.".toList, []]
  let body :=
    match engine with
    | .postgres => ["BEGIN;".toList, [], "SELECT 1;".toList, [], "COMMIT;".toList, []]
    | .clickhouse => ["SELECT 1;".toList, []]
  List.intercalate ['\n'] (header ++ body)

/-- The UTF-8 encoding of a text. -/
def encode (text : Text) : Bytes :=
  (String.ofList text).toUTF8.data.toList

/-- The version of a new file is a numeral of at least four ASCII digits. -/
theorem nextVersion_numeral (digits : Text.DecimalDigits) (existing : List MigrationFile) :
    4 ≤ (nextVersion digits existing).length ∧ forall c, c ∈ nextVersion digits existing -> c.isDigit = true := by
  unfold nextVersion
  split
  · exact ⟨le_refl 4, List.all_eq_true.mp (rfl : "0001".toList.all Char.isDigit = true)⟩
  · dsimp only
    constructor
    · rw [List.length_leftpad]
      exact (le_max_left 4 _).trans (le_max_left _ _)
    · intro c member
      unfold List.leftpad at member
      rcases List.mem_append.mp member with padding | inside
      · rw [List.eq_of_mem_replicate padding]
        rfl
      · exact Nat.isDigit_of_mem_toDigits (by decide) (by decide) inside

theorem isDigit_of_ascii (digits : Text.DecimalDigits) {c : Char} (ascii : c.isDigit = true) :
    digits.isDigit c = true := by
  have range : 48 ≤ c.toNat ∧ c.toNat ≤ 57 := Char.isDigit_iff_toNat.mp ascii
  unfold Text.DecimalDigits.isDigit
  rw [digits.value_of_ascii c (by omega), if_pos range]
  rfl

/-- The version of a new file is larger than those of the files there are. -/
theorem number_nextVersion (digits : Text.DecimalDigits) {existing : List MigrationFile} {file : MigrationFile}
    (member : file ∈ existing) : digits.number file.version < digits.number (nextVersion digits existing) := by
  unfold nextVersion
  rw [if_neg (by simpa using List.ne_nil_of_mem member)]
  dsimp only
  rw [digits.number_leftpad, digits.number_toDigits, Nat.lt_succ_iff]
  have listed : digits.number file.version ∈ existing.map fun file => digits.number file.version :=
    List.mem_map_of_mem member
  exact List.le_max_of_le' 0 listed (le_refl _)

theorem isSlugChar_of_mem {slug : Text} (valid : isSlug slug = true) {c : Char} (member : c ∈ slug) :
    isSlugChar c = true ∨ c = '\n' := by
  unfold isSlug chomp isSlugBody at valid
  split at valid
  · rename_i ends
    rw [← List.dropLast_append_getLast? _ ends] at member
    rcases List.mem_append.mp member with inside | last
    · exact .inl (List.all_eq_true.mp (Bool.and_eq_true_iff.mp valid).2 c inside)
    · exact .inr (List.mem_singleton.mp last)
  · exact .inl (List.all_eq_true.mp (Bool.and_eq_true_iff.mp valid).2 c member)

/-- A file name of a numeral and a slug has no separator. -/
theorem filenameOf_plain (digits : Text.DecimalDigits) (existing : List MigrationFile) {slug : Text}
    (valid : isSlug slug = true) : '/' ∉ filenameOf (nextVersion digits existing) slug := by
  intro found
  rcases List.mem_append.mp found with inVersion | behind
  · exact absurd ((nextVersion_numeral digits existing).2 _ inVersion) (by decide)
  · rcases List.mem_cons.mp behind with mark | behind
    · exact absurd mark (by decide)
    · rcases List.mem_append.mp behind with inSlug | inSuffix
      · rcases isSlugChar_of_mem valid inSlug with plain | newline
        · exact absurd plain (by decide)
        · exact absurd newline (by decide)
      · exact absurd inSuffix (by decide)

/-- `create_migration`. -/
def createMigration (platform : Platform) (root : Path) (engine : MigrationEngine) (domain slug : Text)
    (disk : Disk Bytes) : Except DiscoveryError Path × Disk Bytes :=
  if valid : isSlug slug = true then
    let domainDir := Path.join root domain
    match Disk.makeDirectories platform.accepts [] domainDir disk with
    | (.error error, disk) => (.error (.disk error), disk)
    | (.ok directory, disk) =>
        match discoverMigrations platform root engine (some domain) disk with
        | .error error => (.error error, disk)
        | .ok existing =>
            let version := nextVersion platform.digits existing
            let name : Name :=
              { text := filenameOf version slug, plain := filenameOf_plain platform.digits existing valid }
            let path := domainDir ++ [name]
            if (disk.node (directory ++ [name])).isSome then
              (.error (.invalid ("migration already exists: ".toList ++ Path.str path)), disk)
            else
              match disk.create platform.accepts directory name
                  (.file (encode (renderTemplate engine domain name.text))) with
              | .error error => (.error (.disk error), disk)
              | .ok disk => (.ok path, disk)
  else
    (.error (.invalid
      "migration slug may only contain lowercase letters, digits, and underscores".toList), disk)

/-- Two disks with the same files. -/
def SameFiles (left right : Disk Bytes) : Prop :=
  forall path content, ({ path := path, node := .file content } : Entry Bytes) ∈ left <->
    ({ path := path, node := .file content } : Entry Bytes) ∈ right

/-- `create_migration` adds no file, or one where the path of the domain leads, under
the version that follows those it discovers there. -/
theorem createMigration_spec (platform : Platform) (root : Path) (engine : MigrationEngine) (domain slug : Text)
    (disk : Disk Bytes) :
    SameFiles (createMigration platform root engine domain slug disk).2 disk ∨
      Exists fun middle => Exists fun existing => Exists fun name : Name => Exists fun content =>
        SameFiles middle disk ∧ middle.isDirectory (Path.resolve (Path.join root domain)) = true ∧
          discoverMigrations platform root engine (some domain) middle = .ok existing ∧
          name.text = filenameOf (nextVersion platform.digits existing) slug ∧
          middle.insert { path := Path.resolve (Path.join root domain) ++ [name], node := .file content } =
            some (createMigration platform root engine domain slug disk).2 := by
  unfold createMigration
  split
  · rename_i valid
    dsimp only
    have same : SameFiles (Disk.makeDirectories platform.accepts [] (Path.join root domain) disk).2 disk :=
      fun _ _ => Disk.mem_file_makeDirectories
    cases made : Disk.makeDirectories platform.accepts [] (Path.join root domain) disk with
    | mk answer middle =>
        rw [made] at same
        cases answer with
        | error error => exact .inl same
        | ok directory =>
            rcases Disk.makeDirectories_ok rfl made with ⟨rfl, isDirectory⟩
            dsimp only
            cases discovered : discoverMigrations platform root engine (some domain) middle with
            | error error => exact .inl same
            | ok existing =>
                dsimp only
                split
                · exact .inl same
                · split
                  · exact .inl same
                  · rename_i created
                    exact .inr ⟨middle, existing, _, _, same, isDirectory, discovered, rfl,
                      Disk.create_insert created⟩
  · exact .inl fun _ _ => Iff.rfl

/-! ## A small disk -/

/-- ASCII digits, one checksum, and a system that accepts every name. -/
def plainPlatform : Platform where
  digits := Text.asciiDigits
  sha256 := fun _ => List.replicate 64 '0'
  accepts := fun _ => true

/-- The root of the migrations of an engine. -/
def postgresRoot : Path :=
  Path.parts "/migrations/postgres".toList

/-- A disk with an empty root. -/
def emptyDisk : Disk Bytes where
  rows := [{ path := postgresRoot.take 1, node := .directory }, { path := postgresRoot, node := .directory }]
  unique := by decide

end Migrations
end ApexQuant
