import ApexQuant.Migrations.Discovery
import ApexQuant.Migrations.Postgres

namespace ApexQuant
namespace Migrations

open Foundation

/-!
# Migration history

Migrations are created, edited as long as they are not recorded, and applied.  The
abstract model of a domain is the list of its files in the order of their versions:
new files are added at its end, and a run records the files that follow those
recorded before.
-/

variable {E Data : Type} {consistent : Data -> Bool} {scripts : MigrationFile -> Option (Script E Data)}
  {applied : AppliedTable}

/-! ## What a run records -/

theorem selfContained_onData {script : Script E Data} (contained : Session.SelfContained script) :
    Session.SelfContained (script.map onData) := by
  rcases contained with ⟨works, allWork, shape⟩
  refine ⟨works.map onData, ?_, ?_⟩
  · intro statement member
    rcases List.mem_map.mp member with ⟨source, listed, rfl⟩
    have isWork := allWork source listed
    cases source with
    | work effect => exact trivial
    | begin => exact isWork.elim
    | commit => exact isWork.elim
    | rollback => exact isWork.elim
  · refine shape.imp (congrArg _) ?_
    rintro rfl
    rw [List.map_cons, List.map_append]
    rfl

theorem onData_keeps_applied (applied : AppliedTable) (statement : ScriptStatement (ServerError E) Data) :
    Session.Keeps (fun store : MigrationStore E Data => store.applied = applied) (onData statement) := by
  cases statement with
  | begin => exact trivial
  | commit => exact trivial
  | rollback => exact trivial
  | work effect =>
      intro store after same worked
      rcases Run.exists_of_map_eq_ok worked with ⟨data, -, rfl⟩
      exact same

variable (consistent) in
/-- The loop over self-contained scripts records the files that it completes, and no
store of its session holds anything else. -/
theorem applyFiles_recorded
    (contained : forall file script, scripts file = some script -> Session.SelfContained script)
    (pending : List MigrationFile) (count : Nat) {session : Session (MigrationStore E Data)}
    (closed : session.transaction = .idle) (known : session.visible.applied = applied) :
    let loop := applyFiles consistent scripts pending count session
    Exists fun completed => completed <+: pending ∧
      loop.session.Holds (fun store => store.applied = recordAll applied completed) ∧
      (loop.error = none -> completed = pending ∧ loop.session.transaction = .idle ∧
        loop.appliedCount = count + pending.length) := by
  induction pending generalizing count session applied with
  | nil =>
      refine ⟨[], List.nil_prefix, ⟨known, ?_⟩, fun _ => ⟨rfl, closed, rfl⟩⟩
      unfold applyFiles
      rw [closed]
      trivial
  | cons file rest inductionHypothesis =>
      have holds : session.Holds fun store => store.applied = recordAll applied [] := by
        refine ⟨known, ?_⟩
        rw [closed]
        trivial
      unfold applyFiles
      cases read : scripts file with
      | none => exact ⟨[], List.nil_prefix, holds, nofun⟩
      | some script =>
          have scripted : (session.runScript (fun store => consistent store.data) (script.map onData)).2.Holds
              fun store => store.applied = recordAll applied [] := by
            apply holds.runScript
            intro statement member
            rcases List.mem_map.mp member with ⟨source, -, rfl⟩
            exact onData_keeps_applied applied source
          dsimp only
          cases ran : session.runScript (fun store => consistent store.data) (script.map onData) with
          | mk answer next =>
              rw [ran] at scripted
              cases answer with
              | error error => exact ⟨[], List.nil_prefix, scripted, nofun⟩
              | ok _ =>
                  have ended : next.transaction = .idle :=
                    Session.runScript_idle (selfContained_onData (contained file script read)) closed ran
                  rcases next with ⟨visible, transaction⟩
                  obtain rfl : transaction = .idle := ended
                  dsimp only
                  unfold Session.command
                  dsimp only
                  cases stored : recordApplied file visible with
                  | error error => exact ⟨[], List.nil_prefix, scripted, nofun⟩
                  | ok store =>
                      have grown : store.applied = recordFile applied file := by
                        unfold recordApplied at stored
                        split at stored
                        · rw [← Except.ok.inj stored, scripted.1]
                          rfl
                        · exact absurd stored nofun
                      obtain ⟨completed, part, recorded, finished⟩ :=
                        inductionHypothesis (count + 1) (rfl : (Session.idle store).transaction = .idle) grown
                      refine ⟨file :: completed, List.cons_prefix_cons.mpr ⟨rfl, part⟩, recorded, ?_⟩
                      intro succeeded
                      rcases finished succeeded with ⟨all, idle, counted⟩
                      refine ⟨congrArg _ all, idle, counted.trans ?_⟩
                      rw [List.length_cons]
                      omega

theorem handleFailure_applied {runId count : Nat} {error : ApplyError E} {session : Session (MigrationStore E Data)}
    (holds : session.Holds fun store => store.applied = applied) :
    (handleFailure runId count error session).2.applied = applied := by
  rcases session with ⟨visible, transaction⟩
  cases transaction with
  | idle => exact holds.1
  | implicit saved => exact holds.2
  | explicit saved => exact holds.2
  | aborted saved => exact holds.2

theorem handleFailure_error {runId count : Nat} {error : ApplyError E} {session : Session (MigrationStore E Data)}
    (report : MigrationRunReport) : (handleFailure runId count error session).1 ≠ .ok report := by
  rcases session with ⟨visible, transaction⟩
  cases transaction with
  | idle => exact nofun
  | implicit saved => exact nofun
  | explicit saved => exact nofun
  | aborted saved => exact nofun

variable (consistent) in
/-- A run records a first part of its pending files, and all of them when it returns. -/
theorem applyPending_recorded
    (contained : forall file script, scripts file = some script -> Session.SelfContained script)
    (runId : Nat) (pending : List MigrationFile) (store : MigrationStore E Data) :
    Exists fun completed => completed <+: pending ∧
      (applyPending consistent scripts runId pending store).2.applied = recordAll store.applied completed ∧
      forall report, (applyPending consistent scripts runId pending store).1 = .ok report ->
        completed = pending ∧ report.applied = pending.length := by
  unfold applyPending Session.command Session.idle
  dsimp only
  cases inserted : insertRun runId pending.length store with
  | error error => exact ⟨[], List.nil_prefix, rfl, nofun⟩
  | ok opened =>
      have same : opened.applied = store.applied := by
        unfold insertRun at inserted
        split at inserted
        · exact Except.ok.inj inserted ▸ rfl
        · exact absurd inserted nofun
      obtain ⟨completed, part, recorded, finished⟩ := applyFiles_recorded consistent contained pending 0
        (rfl : (Session.idle opened).transaction = .idle) same
      refine ⟨completed, part, ?_⟩
      unfold Session.idle at recorded finished
      dsimp only
      generalize applyFiles consistent scripts pending 0 { visible := opened, transaction := .idle } = loop at *
      cases failed : loop.error with
      | some error => exact ⟨handleFailure_applied recorded, fun report returned => absurd returned (handleFailure_error report)⟩
      | none =>
          rcases finished failed with ⟨all, closed, counted⟩
          rw [Nat.zero_add] at counted
          rcases loop with ⟨error, appliedCount, visible, transaction⟩
          obtain rfl : transaction = .idle := closed
          obtain rfl : appliedCount = pending.length := counted
          refine ⟨recorded.1, ?_⟩
          intro report returned
          exact ⟨all, congrArg MigrationRunReport.applied (Except.ok.inj returned).symm⟩

/-! ## The files of a domain -/

/-- The name and the version of a migration file. -/
abbrev Listing := Text × Text

/-- An entry as a migration file of its directory. -/
def listingOf (digits : Text.DecimalDigits) (entry : Name × Node Bytes) : Option Listing :=
  if entry.2.isDirectory || !sqlSuffix.isSuffixOf entry.1.text then none
  else (matchFilename digits entry.1.text).map fun version => (entry.1.text, version)

/-- Files are ordered by their versions, read as integers. -/
def listingKey (digits : Text.DecimalDigits) (item : Listing) : Lex (Nat × Text) :=
  toLex (digits.number item.2, item.1)

/-- The migration files of a directory in the order of their versions. -/
def versionOrdered (digits : Text.DecimalDigits) (disk : Disk Bytes) (directory : Path) : List Listing :=
  ((disk.children directory).filterMap (listingOf digits)).insertionSort
    fun left right => listingKey digits left ≤ listingKey digits right

variable {digits : Text.DecimalDigits} {disk : Disk Bytes} {directory : Path}

theorem listingOf_eq_some_iff {entry : Name × Node Bytes} {item : Listing} :
    listingOf digits entry = some item <->
      (Exists fun content => entry.2 = .file content) ∧ sqlSuffix.isSuffixOf entry.1.text = true ∧
        item.1 = entry.1.text ∧ matchFilename digits entry.1.text = some item.2 := by
  rcases entry with ⟨name, node⟩
  rcases item with ⟨filename, version⟩
  unfold listingOf
  cases node with
  | directory => exact iff_of_false nofun fun claimed => nomatch claimed.1.choose_spec
  | file content =>
      cases isSql : sqlSuffix.isSuffixOf name.text with
      | false =>
          exact iff_of_false nofun fun claimed => Bool.false_ne_true claimed.2.1
      | true =>
          constructor
          · intro listed
            rcases Option.map_eq_some_iff.mp listed with ⟨read, matched, same⟩
            rcases Prod.mk.inj same with ⟨rfl, rfl⟩
            exact ⟨⟨content, rfl⟩, rfl, rfl, matched⟩
          · rintro ⟨-, -, rfl, matched⟩
            exact Option.map_eq_some_iff.mpr ⟨version, matched, rfl⟩

theorem mem_versionOrdered {item : Listing} :
    item ∈ versionOrdered digits disk directory <->
      Exists fun name : Name => Exists fun content =>
        ({ path := directory ++ [name], node := .file content } : Entry Bytes) ∈ disk ∧
          sqlSuffix.isSuffixOf name.text = true ∧ item.1 = name.text ∧
          matchFilename digits name.text = some item.2 := by
  unfold versionOrdered
  rw [List.mem_insertionSort, List.mem_filterMap]
  constructor
  · rintro ⟨⟨name, node⟩, member, listed⟩
    rcases listingOf_eq_some_iff.mp listed with ⟨⟨content, rfl⟩, rest⟩
    exact ⟨name, content, Disk.mem_children.mp member, rest⟩
  · rintro ⟨name, content, stored, rest⟩
    exact ⟨_, Disk.mem_children.mpr stored, listingOf_eq_some_iff.mpr ⟨⟨content, rfl⟩, rest⟩⟩

theorem versionOrdered_nodup (digits : Text.DecimalDigits) (disk : Disk Bytes) (directory : Path) :
    (versionOrdered digits disk directory).Nodup := by
  unfold versionOrdered
  rw [(List.perm_insertionSort _ _).nodup_iff]
  refine List.Pairwise.filterMap _ ?_ (disk.children_distinct directory)
  intro left right distinct first isFirst second isSecond same
  rcases listingOf_eq_some_iff.mp isFirst with ⟨-, -, firstName, -⟩
  rcases listingOf_eq_some_iff.mp isSecond with ⟨-, -, secondName, -⟩
  exact distinct (Name.ext (firstName.symm.trans ((congrArg Prod.fst same).trans secondName)))

/-- The list is the only one in order that has its members. -/
theorem eq_versionOrdered {listed : List Listing} (nodup : listed.Nodup)
    (sorted : listed.Pairwise fun left right => listingKey digits left ≤ listingKey digits right)
    (members : forall item, item ∈ listed <-> item ∈ versionOrdered digits disk directory) :
    listed = versionOrdered digits disk directory := by
  refine List.Perm.eq_of_pairwise ?_ sorted (List.pairwise_insertionSort _ _)
    ((List.perm_ext_iff_of_nodup nodup (versionOrdered_nodup digits disk directory)).mpr members)
  intro left right isLeft isRight below above
  rcases mem_versionOrdered.mp ((members left).mp isLeft) with ⟨name, -, -, -, leftName, leftVersion⟩
  rcases mem_versionOrdered.mp isRight with ⟨name', -, -, -, rightName, rightVersion⟩
  have same : left.1 = right.1 := congrArg (fun key => (ofLex key).2) (le_antisymm below above)
  rw [← leftName] at leftVersion
  rw [← rightName, ← same, leftVersion] at rightVersion
  exact Prod.ext same (Option.some.inj rightVersion)

/-- A discovered file as a file of its domain. -/
def MigrationFile.listing (file : MigrationFile) : Listing :=
  (file.filename, file.version)

variable {platform : Platform} {root : Path} {engine : MigrationEngine} {domainFilter : Option Text}
  {files : List MigrationFile}

/-- Every discovered file is a file of a domain that the filter admits. -/
theorem listing_of_discovered
    (discovered : discoverMigrations platform root engine domainFilter disk = .ok files) {file : MigrationFile}
    (member : file ∈ files) :
    Exists fun domain : Name => Exists fun name : Name =>
      file.domain = domain.text ∧ file.filename = name.text ∧
        file.migrationId = migrationIdOf engine domain.text name.text ∧
        disk.isDirectory (root ++ [domain]) = true ∧
        (domainFilter.all fun wanted => wanted == domain.text) = true ∧
        file.listing ∈ versionOrdered platform.digits disk (root ++ [domain]) := by
  rcases exists_source discovered member with ⟨⟨domain, name, node⟩, listed, read⟩
  rcases readMigration_ok read with ⟨-, sameDomain, sameName, matched, sameId, content, isFile, -⟩
  rcases List.mem_flatMap.mp listed with ⟨admitted, inside, inDomain⟩
  rcases List.mem_map.mp inDomain with ⟨entry, entryListed, same⟩
  rcases Prod.mk.inj same with ⟨rfl, rfl⟩
  rcases mem_sqlFiles.mp entryListed with ⟨child, isSql⟩
  rcases mem_domainsOf.mp inside with ⟨isDirectory, admits⟩
  obtain rfl : node = .file content := isFile
  exact ⟨admitted, name, sameDomain, sameName, sameId, Disk.isDirectory_of_mem (Disk.mem_children.mp isDirectory),
    admits, mem_versionOrdered.mpr ⟨name, content, Disk.mem_children.mp child, isSql, sameName, matched⟩⟩

/-- Every file of an admitted domain is discovered. -/
theorem discovered_of_listing
    (discovered : discoverMigrations platform root engine domainFilter disk = .ok files) {domain : Name}
    (isDirectory : disk.isDirectory (root ++ [domain]) = true)
    (admits : (domainFilter.all fun wanted => wanted == domain.text) = true) {item : Listing}
    (listed : item ∈ versionOrdered platform.digits disk (root ++ [domain])) :
    Exists fun file => file ∈ files ∧ file.domain = domain.text ∧ file.listing = item := by
  rcases mem_versionOrdered.mp listed with ⟨name, content, stored, isSql, sameName, matched⟩
  have inside : domain ∈ domainsOf disk root domainFilter :=
    mem_domainsOf.mpr ⟨Disk.mem_children.mpr (Disk.mem_of_isDirectory isDirectory (by simp)), admits⟩
  have source : (domain, name, .file content) ∈ sources disk root domainFilter :=
    List.mem_flatMap.mpr ⟨domain, inside,
      List.mem_map_of_mem (mem_sqlFiles.mpr ⟨Disk.mem_children.mpr stored, isSql⟩)⟩
  have readable : Exists fun file =>
      readMigration platform root engine domain (name, .file content) = .ok file ∧ file.version = item.2 := by
    unfold readMigration
    rw [matched]
    exact ⟨_, rfl, rfl⟩
  rcases readable with ⟨file, read, sameVersion⟩
  rcases readMigration_ok read with ⟨-, sameDomain, sameFilename, -⟩
  refine ⟨file, ?_, sameDomain, Prod.ext (sameFilename.trans sameName.symm) sameVersion⟩
  refine (discoverMigrations_ok discovered).1.mem_iff.mpr (List.mem_filterMap.mpr ⟨_, source, ?_⟩)
  exact congrArg Except.toOption read

/-- The discovered files of a domain. -/
def inDomain (domain : Name) (files : List MigrationFile) : List MigrationFile :=
  files.filter fun file => decide (file.domain = domain.text)

theorem mem_inDomain {domain : Name} {file : MigrationFile} :
    file ∈ inDomain domain files <-> file ∈ files ∧ file.domain = domain.text := by
  unfold inDomain
  rw [List.mem_filter, decide_eq_true_eq]

theorem listing_nodup_of_discovered
    (discovered : discoverMigrations platform root engine domainFilter disk = .ok files) (domain : Name) :
    ((inDomain domain files).map MigrationFile.listing).Nodup := by
  refine List.pairwise_map.mpr (((List.pairwise_map.mp (discovered_ids_nodup discovered)).filter _).imp_of_mem ?_)
  intro left right isLeft isRight distinct same
  rcases mem_inDomain.mp isLeft with ⟨leftMember, leftDomain⟩
  rcases mem_inDomain.mp isRight with ⟨rightMember, rightDomain⟩
  rcases listing_of_discovered discovered leftMember with ⟨_, _, leftHome, leftName, leftId, -⟩
  rcases listing_of_discovered discovered rightMember with ⟨_, _, rightHome, rightName, rightId, -⟩
  apply distinct
  rw [leftId, rightId, ← leftHome, ← leftName, ← rightHome, ← rightName, leftDomain, rightDomain]
  exact congrArg (migrationIdOf engine domain.text) (congrArg Prod.fst same)

/-- The discovered files of a domain are its files in order, unless it is left out. -/
theorem inDomain_of_discovered
    (discovered : discoverMigrations platform root engine domainFilter disk = .ok files) (domain : Name) :
    ((inDomain domain files).map MigrationFile.listing = versionOrdered platform.digits disk (root ++ [domain])) ∨
      inDomain domain files = [] := by
  by_cases visible : disk.isDirectory (root ++ [domain]) = true ∧
      (domainFilter.all fun wanted => wanted == domain.text) = true
  · refine .inl (eq_versionOrdered (listing_nodup_of_discovered discovered domain) ?_ ?_)
    · refine List.pairwise_map.mpr (((discoverMigrations_ok discovered).2.filter _).imp_of_mem ?_)
      intro left right isLeft isRight ordered
      rcases mem_inDomain.mp isLeft with ⟨-, leftDomain⟩
      rcases mem_inDomain.mp isRight with ⟨-, rightDomain⟩
      rcases Prod.Lex.le_iff.mp ordered with below | ⟨-, within⟩
      · exact absurd (leftDomain.trans rightDomain.symm) (ne_of_lt below)
      · exact within
    · intro item
      constructor
      · intro member
        rcases List.mem_map.mp member with ⟨file, isIn, rfl⟩
        rcases mem_inDomain.mp isIn with ⟨found, sameDomain⟩
        rcases listing_of_discovered discovered found with ⟨home, _, isHome, -, -, -, -, listed⟩
        rwa [← Name.ext (isHome.symm.trans sameDomain)]
      · intro listed
        rcases discovered_of_listing discovered visible.1 visible.2 listed with ⟨file, found, sameDomain, rfl⟩
        exact List.mem_map_of_mem (mem_inDomain.mpr ⟨found, sameDomain⟩)
  · refine .inr (List.eq_nil_iff_forall_not_mem.mpr ?_)
    intro file member
    rcases mem_inDomain.mp member with ⟨found, sameDomain⟩
    rcases listing_of_discovered discovered found with ⟨home, _, isHome, -, -, isDirectory, admits, -⟩
    rw [Name.ext (isHome.symm.trans sameDomain)] at isDirectory admits
    exact visible ⟨isDirectory, admits⟩

/-! ## New files -/

theorem versionOrdered_congr {left right : Disk Bytes}
    (same : forall item, item ∈ versionOrdered digits left directory <-> item ∈ versionOrdered digits right directory) :
    versionOrdered digits left directory = versionOrdered digits right directory :=
  eq_versionOrdered (versionOrdered_nodup digits left directory) (List.pairwise_insertionSort _ _) same

theorem versionOrdered_sameFiles {left right : Disk Bytes} (same : SameFiles left right) :
    versionOrdered digits left directory = versionOrdered digits right directory := by
  apply versionOrdered_congr
  intro item
  rw [mem_versionOrdered, mem_versionOrdered]
  exact exists_congr fun name => exists_congr fun content => and_congr_left fun _ => same _ _

/-- A new file is listed in its directory, and nowhere else. -/
theorem mem_versionOrdered_insert {after : Disk Bytes} {target : Path} {name : Name} {content : Bytes}
    (inserted : disk.insert { path := target ++ [name], node := .file content } = some after) {item : Listing} :
    item ∈ versionOrdered digits after directory <->
      item ∈ versionOrdered digits disk directory ∨
        (directory = target ∧ sqlSuffix.isSuffixOf name.text = true ∧ item.1 = name.text ∧
          matchFilename digits name.text = some item.2) := by
  rw [mem_versionOrdered, mem_versionOrdered]
  constructor
  · rintro ⟨other, found, stored, rest⟩
    rcases (Table.mem_insert inserted).mp stored with old | new
    · exact .inl ⟨other, found, old, rest⟩
    · rcases List.append_singleton_inj.mp (congrArg Entry.path new) with ⟨rfl, rfl⟩
      exact .inr ⟨rfl, rest⟩
  · rintro (⟨other, found, stored, rest⟩ | ⟨rfl, rest⟩)
    · exact ⟨other, found, (Table.mem_insert inserted).mpr (.inl stored), rest⟩
    · exact ⟨name, content, (Table.mem_insert inserted).mpr (.inr rfl), rest⟩

/-- The path of a domain leads to a directory of the root only under the name that
the domain is given. -/
def Named (root : Path) (domain : Text) : Prop :=
  forall name, Path.resolve (Path.join root domain) = root ++ [name] -> name.text = domain

variable (platform engine disk) in
/-- A new migration of a named domain comes after the files there are. -/
theorem versionOrdered_create {domain : Text} (named : Named root domain) (slug : Text) (home : Name) :
    let after := (createMigration platform root engine domain slug disk).2
    versionOrdered platform.digits after (root ++ [home]) = versionOrdered platform.digits disk (root ++ [home]) ∨
      Exists fun item : Listing =>
        versionOrdered platform.digits after (root ++ [home]) =
            versionOrdered platform.digits disk (root ++ [home]) ++ [item] ∧
          forall old, old ∈ versionOrdered platform.digits disk (root ++ [home]) ->
            platform.digits.number old.2 < platform.digits.number item.2 := by
  intro after
  obtain same | ⟨middle, existing, name, content, same, isDirectory, discovered, named', inserted⟩ :=
    createMigration_spec platform root engine domain slug disk
  · exact .inl (versionOrdered_sameFiles same)
  · rw [← versionOrdered_sameFiles same]
    rcases nextVersion_numeral platform.digits existing with ⟨long, numeric⟩
    have matched := matchFilename_filenameOf platform.digits long
      (fun c member => isDigit_of_ascii platform.digits (numeric c member)) slug
    rw [← named'] at matched
    by_cases added : root ++ [home] = Path.resolve (Path.join root domain) ∧ isSlugBody slug = true
    · rcases added with ⟨here, body⟩
      rw [if_pos body] at matched
      have isSql : sqlSuffix.isSuffixOf name.text = true := by
        rw [named', List.isSuffixOf_iff_suffix]
        exact ⟨nextVersion platform.digits existing ++ '_' :: slug, List.append_assoc ..⟩
      have admits : ((some domain).all fun wanted => wanted == home.text) = true :=
        beq_iff_eq.mpr (named home here.symm).symm
      have later : forall old, old ∈ versionOrdered platform.digits middle (root ++ [home]) ->
          platform.digits.number old.2 < platform.digits.number (nextVersion platform.digits existing) := by
        intro old listed
        rcases discovered_of_listing discovered (here ▸ isDirectory) admits listed with ⟨file, found, -, rfl⟩
        exact number_nextVersion platform.digits found
      refine .inr ⟨(name.text, nextVersion platform.digits existing), (eq_versionOrdered ?_ ?_ ?_).symm, later⟩
      · refine List.nodup_append.mpr ⟨versionOrdered_nodup _ _ _, List.nodup_singleton _, ?_⟩
        intro old listed new added same
        rw [List.mem_singleton] at added
        exact absurd (later old listed) (by rw [same, added]; exact lt_irrefl _)
      · refine List.pairwise_append.mpr
          ⟨List.pairwise_insertionSort _ _, List.pairwise_singleton _ _, ?_⟩
        intro old listed new added
        rw [List.mem_singleton] at added
        exact added ▸ Prod.Lex.le_iff.mpr (.inl (later old listed))
      · intro item
        rw [mem_versionOrdered_insert inserted, List.mem_append, List.mem_singleton]
        refine or_congr_right ⟨?_, ?_⟩
        · rintro rfl
          exact ⟨here, isSql, rfl, matched⟩
        · rintro ⟨-, -, sameName, sameVersion⟩
          exact Prod.ext sameName (Option.some.inj (sameVersion.symm.trans matched))
    · refine .inl (versionOrdered_congr fun item => ?_)
      rw [mem_versionOrdered_insert inserted]
      refine or_iff_left ?_
      rintro ⟨here, -, -, read⟩
      rw [matched] at read
      split at read
      · rename_i body
        exact added ⟨here, body⟩
      · exact absurd read nofun

/-! ## The record of a domain -/

/-- The recorded files of a domain in the order of their records. -/
def recordedIn (applied : AppliedTable) (domain : Text) : List Listing :=
  (applied.rows.filter fun row => decide (row.domain = domain)).map fun row => (row.filename, row.version)

/-- A row is the record of a file of a domain directory. -/
def Identified (row : AppliedMigration) : Prop :=
  Exists fun domain : Name => Exists fun name : Name =>
    row.domain = domain.text ∧ row.filename = name.text ∧
      row.migrationId = migrationIdOf .postgres domain.text name.text

/-- Versions grow along the files of every domain, and its record is a first part of
its files. -/
structure Converging (digits : Text.DecimalDigits) (root : Path) (disk : Disk Bytes) (applied : AppliedTable) :
    Prop where
  identified : forall row, row ∈ applied -> Identified row
  increasing : forall domain : Name,
    (versionOrdered digits disk (root ++ [domain])).Pairwise fun left right =>
      digits.number left.2 < digits.number right.2
  recordedFirst : forall domain : Name,
    recordedIn applied domain.text <+: versionOrdered digits disk (root ++ [domain])

/-- The pending files of a plan. -/
def unrecorded (applied : AppliedTable) (files : List MigrationFile) : List MigrationFile :=
  files.filter fun file => (applied.find file.migrationId).isNone

theorem mem_unrecorded {file : MigrationFile} :
    file ∈ unrecorded applied files <->
      file ∈ files ∧ file.migrationId ∉ applied.rows.map AppliedMigration.migrationId := by
  unfold unrecorded
  rw [List.mem_filter, Option.isNone_iff_eq_none, Table.find_eq_none_iff]

/-- A first part of the pending files is recorded behind what is recorded already. -/
theorem rows_of_recorded {completed : List MigrationFile}
    (discovered : discoverMigrations platform root .postgres domainFilter disk = .ok files)
    (part : completed <+: unrecorded applied files) :
    (recordAll applied completed).rows = applied.rows ++ completed.map MigrationFile.applied := by
  apply rows_recordAll
  have distinct := (discovered_ids_nodup discovered).sublist
    ((part.sublist.trans List.filter_sublist).map MigrationFile.migrationId)
  refine List.nodup_append.mpr ⟨applied.unique, distinct, ?_⟩
  rintro known recorded _ added rfl
  rcases List.mem_map.mp added with ⟨file, member, rfl⟩
  exact (mem_unrecorded.mp (part.subset member)).2 recorded

theorem recordedIn_of_rows {after : AppliedTable} {completed : List MigrationFile}
    (rows : after.rows = applied.rows ++ completed.map MigrationFile.applied) (domain : Name) :
    recordedIn after domain.text =
      recordedIn applied domain.text ++ (inDomain domain completed).map MigrationFile.listing := by
  unfold recordedIn inDomain
  rw [rows, List.filter_append, List.map_append, List.filter_map, List.map_map]
  rfl

/-- The pending files of a domain are those behind its record. -/
theorem inDomain_unrecorded (identified : forall row, row ∈ applied -> Identified row)
    (discovered : discoverMigrations platform root .postgres domainFilter disk = .ok files) {domain : Name}
    {first rest : List MigrationFile} (split : inDomain domain files = first ++ rest)
    (recorded : first.map MigrationFile.listing = recordedIn applied domain.text) :
    inDomain domain (unrecorded applied files) = rest := by
  have ids : forall file, file ∈ inDomain domain files ->
      file.migrationId = migrationIdOf .postgres domain.text file.filename := by
    intro file member
    rcases mem_inDomain.mp member with ⟨found, sameDomain⟩
    rcases listing_of_discovered discovered found with ⟨_, _, isHome, isName, sameId, -⟩
    rw [sameId, ← isHome, ← isName, sameDomain]
  have known : forall file, file ∈ inDomain domain files ->
      (file.migrationId ∈ applied.rows.map AppliedMigration.migrationId <->
        Exists fun other => other ∈ first ∧ other.filename = file.filename) := by
    intro file member
    constructor
    · intro listed
      rcases List.mem_map.mp listed with ⟨row, stored, sameId⟩
      rcases identified row stored with ⟨home, name, isHome, isName, rowId⟩
      rcases listing_of_discovered discovered (mem_inDomain.mp member).1 with ⟨_, name', _, isName', -⟩
      have fileId := ids file member
      rw [isName'] at fileId
      rcases migrationIdOf_injective (rowId.symm.trans (sameId.trans fileId)) with ⟨rfl, rfl⟩
      have inRecord : (row.filename, row.version) ∈ recordedIn applied home.text :=
        List.mem_map_of_mem (List.mem_filter.mpr ⟨stored, decide_eq_true isHome⟩)
      rw [← recorded] at inRecord
      rcases List.mem_map.mp inRecord with ⟨other, isFirst, same⟩
      exact ⟨other, isFirst, (congrArg Prod.fst same).trans (isName.trans isName'.symm)⟩
    · rintro ⟨other, isFirst, sameName⟩
      have inRecord : other.listing ∈ recordedIn applied domain.text := recorded ▸ List.mem_map_of_mem isFirst
      rcases List.mem_map.mp inRecord with ⟨row, kept, same⟩
      rcases List.mem_filter.mp kept with ⟨stored, isHome⟩
      rcases identified row stored with ⟨home, name, home', isName, rowId⟩
      refine List.mem_map.mpr ⟨row, stored, ?_⟩
      rw [rowId, ids file member, ← home', ← isName, of_decide_eq_true isHome, ← sameName]
      exact congrArg (migrationIdOf .postgres domain.text) (congrArg Prod.fst same)
  have distinct : ((inDomain domain files).map MigrationFile.migrationId).Nodup :=
    (discovered_ids_nodup discovered).sublist (List.filter_sublist.map MigrationFile.migrationId)
  rw [split, List.map_append, List.nodup_append] at distinct
  have commuted : inDomain domain (unrecorded applied files) = unrecorded applied (inDomain domain files) :=
    List.filter_comm ..
  rw [commuted, split]
  unfold unrecorded
  rw [List.filter_append, List.filter_eq_nil_iff.mpr, List.filter_eq_self.mpr, List.nil_append]
  · intro file isRest
    have member : file ∈ inDomain domain files := split ▸ List.mem_append_right first isRest
    rw [Option.isNone_iff_eq_none, Table.find_eq_none_iff, known file member]
    rintro ⟨other, isFirst, sameName⟩
    have member' : other ∈ inDomain domain files := split ▸ List.mem_append_left rest isFirst
    refine distinct.2.2 _ (List.mem_map_of_mem isFirst) _ (List.mem_map_of_mem isRest) ?_
    rw [ids other member', ids file member, sameName]
  · intro file isFirst
    have member : file ∈ inDomain domain files := split ▸ List.mem_append_left rest isFirst
    rw [Option.isNone_iff_eq_none, Table.find_eq_none_iff, known file member]
    exact fun absent => absent ⟨file, isFirst, rfl⟩

/-- A run keeps the record of every domain a first part of its files. -/
theorem Converging.apply {completed : List MigrationFile}
    (converging : Converging platform.digits root disk applied)
    (discovered : discoverMigrations platform root .postgres domainFilter disk = .ok files)
    (part : completed <+: unrecorded applied files) :
    Converging platform.digits root disk (recordAll applied completed) := by
  have rows := rows_of_recorded discovered part
  refine ⟨?_, converging.increasing, ?_⟩
  · intro row stored
    change row ∈ (recordAll applied completed).rows at stored
    rw [rows] at stored
    rcases List.mem_append.mp stored with old | new
    · exact converging.identified row old
    · rcases List.mem_map.mp new with ⟨file, member, rfl⟩
      obtain ⟨home, name, isHome, isName, sameId, -⟩ :=
        listing_of_discovered discovered (mem_unrecorded.mp (part.subset member)).1
      exact ⟨home, name, isHome, isName, sameId⟩
  · intro domain
    rw [recordedIn_of_rows rows domain]
    have within : inDomain domain completed <+: inDomain domain (unrecorded applied files) := part.filter _
    rcases inDomain_of_discovered discovered domain with inOrder | leftOut
    · rcases converging.recordedFirst domain with ⟨later, whole⟩
      rw [← inOrder] at whole
      rcases List.map_eq_append_iff.mp whole.symm with ⟨first, rest, split, sameFirst, -⟩
      rw [inDomain_unrecorded converging.identified discovered split sameFirst] at within
      rw [← inOrder, split, List.map_append, sameFirst]
      exact List.prefix_append_right_inj _ |>.mpr (within.map _)
    · have nothing : inDomain domain completed = [] := by
        refine List.eq_nil_iff_forall_not_mem.mpr fun file member => ?_
        rcases mem_inDomain.mp member with ⟨inPart, sameDomain⟩
        have found := (mem_unrecorded.mp (part.subset inPart)).1
        have inFiles : file ∈ inDomain domain files := mem_inDomain.mpr ⟨found, sameDomain⟩
        rw [leftOut] at inFiles
        exact absurd inFiles List.not_mem_nil
      rw [nothing, List.map_nil, List.append_nil]
      exact converging.recordedFirst domain

/-! ## The system -/

/-- What the migrator works on. -/
structure World (E Data : Type) where
  disk : Disk Bytes
  store : MigrationStore E Data

/-- The platform, and what reading a file and its server make of the bytes: a
self-contained script, or nothing when they are no text. -/
structure Server (E Data : Type) where
  platform : Platform
  consistent : Data -> Bool
  compile : Bytes -> Option { script : Script E Data // Session.SelfContained script }

inductive RunError (E : Type) where
  | discovery (error : DiscoveryError)
  | apply (error : ApplyError E)

variable (server : Server E Data) (root : Path)

/-- `Path(file.path).read_text(...)`, compiled. -/
def Server.readScript (disk : Disk Bytes) (file : MigrationFile) : Option (Script E Data) :=
  match disk.rows.find? fun entry => decide (Path.str entry.path = file.path) with
  | some { path := _, node := .file content } => (server.compile content).map Subtype.val
  | _ => none

/-- `PostgresMigrator.apply`. -/
def Server.apply (runId : Nat) (domain : Option Text) (dryRun : Bool) (world : World E Data) :
    Except (RunError E) MigrationRunReport × World E Data :=
  match discoverMigrations server.platform root .postgres domain world.disk with
  | .error error => (.error (.discovery error), world)
  | .ok files =>
      let (answer, store) := Migrations.apply server.consistent (server.readScript world.disk) runId dryRun files
        world.store.applied world.store
      (answer.mapError .apply, { world with store := store })

/-- `PostgresMigrator.verify`. -/
def Server.verify (domain : Option Text) (world : World E Data) : Except DiscoveryError MigrationRunReport :=
  match discoverMigrations server.platform root .postgres domain world.disk with
  | .error error => .error error
  | .ok files =>
      let plan := buildPlan .postgres files world.store.applied
      .ok
        { mode := "verify".toList
          ok := plan.ok && plan.pending.isEmpty
          planned := plan.pending.length
          applied := 0
          skipped := plan.pending.length
          failed := plan.drift.length }

/-- A file that is recorded. -/
def isRecorded (applied : AppliedTable) (path : Path) : Bool :=
  applied.rows.any fun row => decide (path.map Name.text = root.map Name.text ++ [row.domain, row.filename])

/-- New content for a file. -/
def rewrite (path : Path) (content : Bytes) (entry : Entry Bytes) : Entry Bytes :=
  if entry.path = path then
    match entry.node with
    | .directory => entry
    | .file _ => { entry with node := .file content }
  else entry

theorem rewrite_path (path : Path) (content : Bytes) (entry : Entry Bytes) :
    (rewrite path content entry).path = entry.path := by
  rcases entry with ⟨path', node⟩
  unfold rewrite
  split
  · cases node <;> rfl
  · rfl

/-- What happens between the runs and in them.  Recorded files are not edited. -/
inductive Operation where
  | createMigration (domain slug : Text)
  | edit (path : Path) (content : Bytes)
  | apply (runId : Nat) (domain : Option Text) (dryRun : Bool)

def Server.step (world : World E Data) : Operation -> World E Data
  | .createMigration domain slug =>
      { world with disk := (createMigration server.platform root .postgres domain slug world.disk).2 }
  | .edit path content =>
      if isRecorded root world.store.applied path then world
      else { world with disk := world.disk.update (rewrite path content) (rewrite_path path content) }
  | .apply runId domain dryRun => (server.apply root runId domain dryRun world).2

/-- Every new migration is of a named domain. -/
def Operation.Proper (root : Path) : Operation -> Prop
  | .createMigration domain _ => Named root domain
  | _ => True

variable {server root} {world : World E Data}

theorem readScript_selfContained (server : Server E Data) (disk : Disk Bytes) (file : MigrationFile) (script : Script E Data)
    (read : server.readScript disk file = some script) : Session.SelfContained script := by
  unfold Server.readScript at read
  split at read
  · rcases Option.map_eq_some_iff.mp read with ⟨compiled, -, rfl⟩
    exact compiled.2
  · exact absurd read nofun

/-- An edit keeps files files and directories directories. -/
theorem exists_rewrite_file {path target : Path} {content : Bytes} {entry : Entry Bytes} :
    (Exists fun new => rewrite path content entry = { path := target, node := .file new }) <->
      Exists fun old => entry = { path := target, node := .file old } := by
  rcases entry with ⟨path', node⟩
  unfold rewrite
  cases node with
  | directory => split <;> exact iff_of_false (fun ⟨_, same⟩ => nomatch same) (fun ⟨_, same⟩ => nomatch same)
  | file old =>
      split
      · exact ⟨fun ⟨_, same⟩ => ⟨old, by cases same; rfl⟩, fun ⟨_, same⟩ => ⟨content, by cases same; rfl⟩⟩
      · exact Iff.rfl

theorem versionOrdered_rewrite (path : Path) (content : Bytes) :
    versionOrdered digits (disk.update (rewrite path content) (rewrite_path path content)) directory =
      versionOrdered digits disk directory := by
  apply versionOrdered_congr
  intro item
  rw [mem_versionOrdered, mem_versionOrdered]
  have kept : forall name : Name,
      (Exists fun new => ({ path := directory ++ [name], node := .file new } : Entry Bytes) ∈
        disk.update (rewrite path content) (rewrite_path path content)) <->
      Exists fun old => ({ path := directory ++ [name], node := .file old } : Entry Bytes) ∈ disk := by
    intro name
    constructor
    · rintro ⟨new, stored⟩
      rcases (Table.mem_update _).mp stored with ⟨entry, member, same⟩
      rcases exists_rewrite_file.mp ⟨new, same⟩ with ⟨old, rfl⟩
      exact ⟨old, member⟩
    · rintro ⟨old, stored⟩
      rcases exists_rewrite_file.mpr ⟨old, rfl⟩ with ⟨new, same⟩
      exact ⟨new, (Table.mem_update _).mpr ⟨_, stored, same⟩⟩
  refine exists_congr fun name => ?_
  rw [exists_and_right, exists_and_right, kept name]

/-- A run leaves the disk alone.  Unless it has no plan to apply, it records a first
part of the pending files, and all of them when it returns. -/
theorem Server.apply_records (server : Server E Data) (root : Path) (runId : Nat) (domain : Option Text)
    (dryRun : Bool) (world : World E Data) :
    (server.apply root runId domain dryRun world).2.disk = world.disk ∧
      ((server.apply root runId domain dryRun world).2.store.applied = world.store.applied ∧
          (forall report, (server.apply root runId domain dryRun world).1 = .ok report -> dryRun = true) ∨
        Exists fun files => Exists fun completed =>
          discoverMigrations server.platform root .postgres domain world.disk = .ok files ∧
            (buildPlan .postgres files world.store.applied).ok = true ∧
            completed <+: unrecorded world.store.applied files ∧
            (server.apply root runId domain dryRun world).2.store.applied =
              recordAll world.store.applied completed ∧
            forall report, (server.apply root runId domain dryRun world).1 = .ok report ->
              completed = unrecorded world.store.applied files ∧
                report.applied = (unrecorded world.store.applied files).length) := by
  unfold Server.apply
  cases discovered : discoverMigrations server.platform root .postgres domain world.disk with
  | error error => exact ⟨rfl, .inl ⟨rfl, nofun⟩⟩
  | ok files =>
      refine ⟨rfl, ?_⟩
      dsimp only
      by_cases applies : (buildPlan .postgres files world.store.applied).ok = true ∧ dryRun = false
      · rcases applies with ⟨clean, rfl⟩
        obtain ⟨completed, part, recorded, finished⟩ := applyPending_recorded server.consistent
          (readScript_selfContained server world.disk) runId (unrecorded world.store.applied files) world.store
        rw [apply_eq_applyPending _ _ clean]
        refine .inr ⟨files, completed, rfl, clean, part, recorded, ?_⟩
        intro report returned
        apply finished
        change Except.mapError _ (applyPending server.consistent _ runId _ world.store).1 = _ at returned
        unfold unrecorded
        cases answer : (applyPending server.consistent (server.readScript world.disk) runId
            (buildPlan .postgres files world.store.applied).pending world.store).1 with
        | error error => rw [answer] at returned; exact absurd returned nofun
        | ok other => rw [answer] at returned; exact answer.trans (congrArg Except.ok (Except.ok.inj returned))
      · left
        unfold Migrations.apply
        dsimp only
        cases clean : (buildPlan .postgres files world.store.applied).ok with
        | false => exact ⟨rfl, nofun⟩
        | true =>
            cases dryRun with
            | true => exact ⟨rfl, fun _ _ => rfl⟩
            | false => exact absurd ⟨clean, rfl⟩ applies

/-- Every step with a named domain keeps the history convergent. -/
theorem Converging.step (converging : Converging server.platform.digits root world.disk world.store.applied)
    {operation : Operation} (proper : operation.Proper root) :
    Converging server.platform.digits root (server.step root world operation).disk
      (server.step root world operation).store.applied := by
  cases operation with
  | edit path content =>
      unfold Server.step
      dsimp only
      split
      · exact converging
      · refine ⟨converging.identified, ?_, ?_⟩
        · intro domain
          rw [versionOrdered_rewrite]
          exact converging.increasing domain
        · intro domain
          rw [versionOrdered_rewrite]
          exact converging.recordedFirst domain
  | createMigration domain slug =>
      have created := versionOrdered_create world.disk server.platform .postgres proper slug
      refine ⟨converging.identified, ?_, ?_⟩
      · intro home
        rcases created home with same | ⟨item, grown, later⟩
        · exact same ▸ converging.increasing home
        · unfold Server.step
          rw [grown, List.pairwise_append]
          refine ⟨converging.increasing home, List.pairwise_singleton _ _, ?_⟩
          intro old listed new added
          rw [List.mem_singleton] at added
          exact added ▸ later old listed
      · intro home
        rcases created home with same | ⟨item, grown, -⟩
        · exact same ▸ converging.recordedFirst home
        · unfold Server.step
          rw [grown]
          exact (converging.recordedFirst home).trans (List.prefix_append _ _)
  | apply runId domain dryRun =>
      obtain ⟨sameDisk, ⟨same, -⟩ | ⟨files, completed, discovered, -, part, recorded, -⟩⟩ :=
        server.apply_records root runId domain dryRun world
      · unfold Server.step
        dsimp only
        rw [sameDisk, same]
        exact converging
      · unfold Server.step
        dsimp only
        rw [sameDisk, recorded]
        exact converging.apply discovered part

/-! ## Convergence -/

/-- Every file is recorded with its checksum. -/
def AllRecorded (applied : AppliedTable) (files : List MigrationFile) : Prop :=
  forall file, file ∈ files -> Exists fun row =>
    applied.find file.migrationId = some row ∧ row.checksumSha256 = file.checksumSha256

/-- A complete run without drift has recorded every file. -/
theorem allRecorded_of_complete
    (discovered : discoverMigrations platform root .postgres domainFilter disk = .ok files)
    (clean : (buildPlan .postgres files applied).ok = true) :
    AllRecorded (recordAll applied (unrecorded applied files)) files := by
  have rows := rows_of_recorded discovered (List.prefix_refl (unrecorded applied files))
  intro file member
  cases found : applied.find file.migrationId with
  | none =>
      have listed : file ∈ unrecorded applied files :=
        mem_unrecorded.mpr ⟨member, Table.find_eq_none_iff.mp found⟩
      have stored : file.applied ∈ (recordAll applied (unrecorded applied files)).rows :=
        rows ▸ List.mem_append_right _ (List.mem_map_of_mem listed)
      exact ⟨file.applied, Table.find_of_mem stored, rfl⟩
  | some row =>
      rcases Table.mem_of_find found with ⟨known, sameId⟩
      have stored : row ∈ (recordAll applied (unrecorded applied files)).rows := rows ▸ List.mem_append_left _ known
      refine ⟨row, sameId ▸ Table.find_of_mem stored, ?_⟩
      by_contra changed
      have drifted : driftOf applied file ≠ none := by
        unfold driftOf
        rw [found]
        dsimp only
        rw [if_pos changed]
        exact nofun
      have noDrift := List.filterMap_eq_nil_iff.mp (List.isEmpty_iff.mp clean) file member
      exact drifted noDrift

theorem buildPlan_of_allRecorded (recorded : AllRecorded applied files) :
    (buildPlan .postgres files applied).ok = true ∧ (buildPlan .postgres files applied).pending = [] := by
  constructor
  · refine List.isEmpty_iff.mpr (List.filterMap_eq_nil_iff.mpr ?_)
    intro file member
    rcases recorded file member with ⟨row, found, same⟩
    unfold driftOf
    rw [found]
    exact if_neg (not_not.mpr same)
  · refine List.filter_eq_nil_iff.mpr ?_
    intro file member
    rcases recorded file member with ⟨row, found, -⟩
    rw [found]
    exact Bool.false_ne_true

variable (consistent scripts) in
theorem applyPending_nil {runId : Nat} {store : MigrationStore E Data} (fresh : store.runs.find runId = none) :
    Exists fun report => (applyPending consistent scripts runId [] store).1 = .ok report ∧ report.applied = 0 := by
  rcases exists_insertRun fresh 0 with ⟨runs, -, rowed⟩
  unfold applyPending Session.command Session.idle
  dsimp only [List.length_nil]
  rw [rowed]
  exact ⟨_, rfl, rfl⟩

/-- What is promised after a run without a filter that has returned. -/
def Server.Converged (server : Server E Data) (root : Path) (after : World E Data) : Prop :=
  (Exists fun report => server.verify root none after = .ok report ∧ report.ok = true) ∧
    forall runId, (server.apply root runId none false after).2.store.applied = after.store.applied ∧
      (after.store.runs.find runId = none ->
        Exists fun report => (server.apply root runId none false after).1 = .ok report ∧ report.applied = 0)

theorem Server.converged_of_apply {runId : Nat} {report : MigrationRunReport} {after : World E Data}
    (returned : server.apply root runId none false world = (.ok report, after)) : server.Converged root after := by
  obtain ⟨sameDisk, ⟨-, dry⟩ | ⟨files, completed, discovered, clean, -, recorded, finished⟩⟩ :=
    server.apply_records root runId none false world
  · rw [returned] at dry
    exact absurd (dry report rfl) Bool.false_ne_true
  · rw [returned] at sameDisk recorded finished
    rcases finished report rfl with ⟨rfl, -⟩
    have complete := allRecorded_of_complete discovered clean
    rw [← recorded] at complete
    rcases buildPlan_of_allRecorded complete with ⟨noDrift, nothing⟩
    rw [← sameDisk] at discovered
    constructor
    · unfold Server.verify
      rw [discovered]
      refine ⟨_, rfl, ?_⟩
      dsimp only
      rw [noDrift, nothing]
      rfl
    · intro nextId
      unfold Server.apply
      rw [discovered]
      dsimp only
      rw [apply_eq_applyPending _ _ noDrift, nothing]
      constructor
      · obtain ⟨none, part, same, -⟩ := applyPending_recorded server.consistent
          (readScript_selfContained server after.disk) nextId [] after.store
        rw [List.prefix_nil.mp part] at same
        exact same
      · intro fresh
        rcases applyPending_nil server.consistent (server.readScript after.disk) fresh with ⟨next, answered, zero⟩
        rw [answered]
        exact ⟨next, rfl, zero⟩

/-- The recorded migrations of a world. -/
structure WellOrdered (digits : Text.DecimalDigits) (root : Path) (disk : Disk Bytes) (applied : AppliedTable) :
    Prop where
  distinct : (applied.rows.map AppliedMigration.migrationId).Nodup
  increasing : forall domain,
    (recordedIn applied domain).Pairwise fun left right => digits.number left.2 < digits.number right.2
  recordedFirst : forall domain : Name,
    recordedIn applied domain.text <+: versionOrdered digits disk (root ++ [domain])

theorem Converging.wellOrdered (converging : Converging digits root disk applied) :
    WellOrdered digits root disk applied := by
  refine ⟨applied.unique, ?_, converging.recordedFirst⟩
  intro domain
  cases recorded : recordedIn applied domain with
  | nil => exact List.Pairwise.nil
  | cons item rest =>
      have first : item ∈ recordedIn applied domain := recorded ▸ List.mem_cons_self
      rcases List.mem_map.mp first with ⟨row, kept, -⟩
      rcases List.mem_filter.mp kept with ⟨stored, isHome⟩
      rcases converging.identified row stored with ⟨home, _, sameHome, -⟩
      obtain rfl : domain = home.text := (of_decide_eq_true isHome).symm.trans sameHome
      rw [← recorded]
      exact (converging.increasing home).sublist (converging.recordedFirst home).sublist

/-- Nothing lies below the root. -/
def Vacant (root : Path) (disk : Disk Bytes) : Prop :=
  forall entry, entry ∈ disk -> ¬ (root <+: entry.path ∧ entry.path ≠ root)

/-- An empty database beside a disk. -/
def start (disk : Disk Bytes) (data : Data) : World E Data where
  disk := disk
  store := { data := data, applied := Table.empty, runs := Table.empty }

theorem converging_start (vacant : Vacant root disk) (digits : Text.DecimalDigits) :
    Converging digits root disk Table.empty := by
  have nothing : forall domain : Name, versionOrdered digits disk (root ++ [domain]) = [] := by
    intro domain
    refine List.eq_nil_iff_forall_not_mem.mpr fun item listed => ?_
    rcases mem_versionOrdered.mp listed with ⟨name, content, stored, -⟩
    rw [List.append_assoc] at stored
    refine vacant _ stored ⟨List.prefix_append root _, ?_⟩
    exact fun same => absurd (List.append_right_eq_self.mp same) (List.cons_ne_nil _ _)
  refine ⟨nofun, ?_, ?_⟩
  · intro domain
    rw [nothing]
    exact List.Pairwise.nil
  · intro domain
    exact List.nil_prefix

/-- When every new migration is of a named domain, the record of every domain is a
first part of its files in the order of their versions, and a run without a filter
that returns leaves nothing to do. -/
theorem migration_history (server : Server E Data) (root : Path) (disk : Disk Bytes) (data : Data)
    (vacant : Vacant root disk) (operations : List Operation)
    (proper : forall operation, operation ∈ operations -> operation.Proper root) :
    let reached := operations.foldl (server.step root) (start disk data)
    WellOrdered server.platform.digits root reached.disk reached.store.applied ∧
      forall runId report after, server.apply root runId none false reached = (.ok report, after) ->
        server.Converged root after := by
  intro reached
  refine ⟨Converging.wellOrdered ?_, fun runId report after returned => server.converged_of_apply returned⟩
  have guarded : Run.Guarded (server.step root) (fun _ operation => operation.Proper root) (start disk data)
      operations := Run.guarded_of_mem (server.step root) (fun operation member _ => proper operation member) _
  have keeps : forall (world : World E Data) (operation : Operation),
      Converging server.platform.digits root world.disk world.store.applied -> operation.Proper root ->
      Converging server.platform.digits root (server.step root world operation).disk
        (server.step root world operation).store.applied :=
    fun _ _ converging named => converging.step named
  exact guarded.invariant keeps (converging_start vacant _)

/-- A server that runs nothing. -/
def idleServer : Server Unit Unit where
  platform := plainPlatform
  consistent := fun _ => true
  compile := fun _ => some ⟨[], [], nofun, .inl rfl⟩

/-- Two new migrations of one domain and a run over all of them. -/
def twoMigrations (domain : Text) : List Operation :=
  [.createMigration domain "users".toList, .createMigration domain "roles".toList, .apply 1 none false]

/-- What they lead to. -/
def afterTwoMigrations (domain : Text) : World Unit Unit :=
  (twoMigrations domain).foldl (idleServer.step postgresRoot) (start emptyDisk ())

theorem emptyDisk_vacant : Vacant postgresRoot emptyDisk := by
  change forall entry, entry ∈ emptyDisk.rows -> _
  decide

theorem migration_history_of_two_migrations :
    WellOrdered Text.asciiDigits postgresRoot (afterTwoMigrations "auth".toList).disk
        (afterTwoMigrations "auth".toList).store.applied ∧
      forall runId report after,
        idleServer.apply postgresRoot runId none false (afterTwoMigrations "auth".toList) = (.ok report, after) ->
        idleServer.Converged postgresRoot after := by
  refine migration_history idleServer postgresRoot emptyDisk () emptyDisk_vacant (twoMigrations "auth".toList) ?_
  have named : Named postgresRoot "auth".toList := by
    intro name leads
    have resolved : Path.resolve (Path.join postgresRoot "auth".toList) =
        postgresRoot ++ [{ text := "auth".toList, plain := by decide }] := by decide
    exact congrArg Name.text (List.append_singleton_inj.mp (leads.symm.trans resolved)).2
  intro operation member
  rcases List.mem_cons.mp member with rfl | member
  · exact named
  · rcases List.mem_cons.mp member with rfl | member
    · exact named
    · rcases List.mem_singleton.mp member with rfl
      exact trivial

/-- Under another spelling of its name a domain gets one version twice. -/
theorem spelled_domain_repeats_version :
    ¬ forall operations : List Operation,
      WellOrdered Text.asciiDigits postgresRoot
        (operations.foldl (idleServer.step postgresRoot) (start emptyDisk ())).disk
        (operations.foldl (idleServer.step postgresRoot) (start emptyDisk ())).store.applied := by
  intro ordered
  have increasing := (ordered (twoMigrations "auth/".toList)).increasing "auth".toList
  have recorded : recordedIn (afterTwoMigrations "auth/".toList).store.applied "auth".toList =
      [("0001_roles.sql".toList, "0001".toList), ("0001_users.sql".toList, "0001".toList)] := by decide
  rw [show ((twoMigrations "auth/".toList).foldl (idleServer.step postgresRoot) (start emptyDisk ())) =
    afterTwoMigrations "auth/".toList from rfl, recorded] at increasing
  exact absurd ((List.pairwise_cons.mp increasing).1 _ List.mem_cons_self) (lt_irrefl _)

end Migrations
end ApexQuant
