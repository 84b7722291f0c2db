import ApexQuant.Config.Canonical
import ApexQuant.Foundation.Runs

namespace ApexQuant
namespace Testing

open Foundation
open Config (decimal)

/-!
# The test runner

`runner.py` with the parser of JUnit files and the report.  A command that is launched
exits with any code and leaves the output directory in any state; the verdict on a
package is then taken from the file that is found there, and from the exit code when no
test case is found.  What a file holds is its XML, or the refusal of its reader.
-/

/-! ## `models.py` -/

inductive TestStatus where
  | passed
  | failed
  | skipped
  | error
  deriving DecidableEq

inductive Details where
  | empty
  | text (text : Text)
  | process (returncode : Int) (command : List Text)
  deriving DecidableEq

structure TestCaseResult (Duration : Type) where
  suite : Text
  name : Text
  status : TestStatus
  durationMs : Duration
  message : Option Text
  details : Details

structure TestRunReport (Duration : Type) where
  environment : Text
  gitSha : Option Text
  trigger : Text
  ok : Bool
  total : Nat
  passed : Nat
  failed : Nat
  skipped : Nat
  errors : Nat
  results : List (TestCaseResult Duration)

variable {Duration : Type}

/-- `sum(1 for r in results if r.status == status)` -/
def count (status : TestStatus) (results : List (TestCaseResult Duration)) : Nat :=
  results.countP fun result => decide (result.status = status)

/-- `TestRunReport.from_results` -/
def fromResults (results : List (TestCaseResult Duration)) (environment : Text) (gitSha : Option Text)
    (trigger : Text) : TestRunReport Duration where
  environment := environment
  gitSha := gitSha
  trigger := trigger
  ok := decide (count .failed results = 0) && decide (count .error results = 0)
  total := results.length
  passed := count .passed results
  failed := count .failed results
  skipped := count .skipped results
  errors := count .error results
  results := results

/-! ## `parser.py` -/

/-- An element of a document. -/
inductive Element where
  | mk (tag : Text) (attributes : List (Text × Text)) (text : Option Text) (children : List Element)

namespace Element

def tag : Element -> Text
  | mk tag _ _ _ => tag

def attributes : Element -> List (Text × Text)
  | mk _ attributes _ _ => attributes

def text : Element -> Option Text
  | mk _ _ text _ => text

def children : Element -> List Element
  | mk _ _ _ children => children

def get (element : Element) (name : Text) : Option Text :=
  (element.attributes.find? fun item => decide (item.1 = name)).map Prod.snd

def findall (element : Element) (tag : Text) : List Element :=
  element.children.filter fun child => decide (child.tag = tag)

def find (element : Element) (tag : Text) : Option Element :=
  (element.findall tag).head?

end Element

/-- What ends a run without a report. -/
inductive RunError where
  | notLaunched (message : Text)
  | unreadable (message : Text)
  | duration (text : Text)
  deriving DecidableEq

/-- What is used of Python's floats: the duration in milliseconds of a text in seconds,
with the refusals of `float` and of the bound of the field. -/
structure Clock (Duration : Type) where
  zero : Duration
  milliseconds : Text -> Option Duration

variable (clock : Clock Duration)

/-- `case.get("time", "0") or "0"` -/
def timeOf (case : Element) : Text :=
  match case.get "time".toList with
  | none => "0".toList
  | some [] => "0".toList
  | some time => time

/-- The status of a case, with the element that tells it. -/
def verdictOf (case : Element) : TestStatus × Option Element :=
  match case.find "failure".toList, case.find "error".toList, case.find "skipped".toList with
  | some failure, _, _ => (.failed, some failure)
  | none, some error, _ => (.error, some error)
  | none, none, some skipped => (.skipped, some skipped)
  | none, none, none => (.passed, none)

def parseCase (suiteName : Text) (case : Element) : Except RunError (TestCaseResult Duration) :=
  match clock.milliseconds (timeOf case) with
  | none => .error (.duration (timeOf case))
  | some durationMs =>
      .ok
        { suite := suiteName
          name := (case.get "name".toList).getD "unknown".toList
          status := (verdictOf case).1
          durationMs := durationMs
          message := (verdictOf case).2.bind fun told => told.get "message".toList
          details :=
            match (verdictOf case).2 with
            | none => .empty
            | some told => .text (told.text.getD []) }

/-- The suites below a root, with their names. -/
def suitesOf (root : Element) : List Element :=
  if root.tag = "testsuites".toList then root.findall "testsuite".toList
  else if root.tag = "testsuite".toList then [root]
  else []

def parseSuite (suite : Element) : Except RunError (List (TestCaseResult Duration)) :=
  (suite.findall "testcase".toList).mapM (parseCase clock ((suite.get "name".toList).getD "unknown".toList))

/-- What a file of the output directory holds. -/
abbrev Content := Except Text Element

/-- `parse_junit_file`, over what is at the path. -/
def parseJunitFile : Option Content -> Except RunError (List (TestCaseResult Duration))
  | none => .ok []
  | some (.error message) => .error (.unreadable message)
  | some (.ok root) => do
      let suites <- (suitesOf root).mapM (parseSuite clock)
      .ok suites.flatten

/-! ## `runner.py` -/

/-- The output directory, by the names of its files. -/
abbrev Directory := Text -> Option Content

/-- A process that has ended, and what it did to the output directory. -/
structure Completed where
  returncode : Int
  stdout : Text
  stderr : Text
  effect : Directory -> Directory

/-- What becomes of a command; it may also not be there to be launched. -/
abbrev Behaviour := Except RunError Completed

/-- A resolved directory. -/
structure PackageDir where
  parent : Text
  name : Text

def PackageDir.path (package : PackageDir) : Text :=
  package.parent ++ "/".toList ++ package.name

/-- The name of a package's file in the output directory. -/
def PackageDir.junitName (package : PackageDir) : Text :=
  package.name ++ "-junit.xml".toList

/-- What the processes share. -/
structure Host where
  python : Text
  outputDir : Text

def buildPytestCommand (host : Host) (package : PackageDir) (coverage : Bool) : List Text :=
  [host.python, "-m".toList, "pytest".toList, package.path,
    "--junitxml=".toList ++ host.outputDir ++ "/".toList ++ package.junitName, "-q".toList] ++
    if coverage then ["--cov".toList, "--cov-report=xml".toList] else []

def buildCargoCommand (crate : Option Text) : List Text :=
  match crate with
  | some crate => if crate = [] then ["cargo".toList, "test".toList, "--workspace".toList]
      else ["cargo".toList, "test".toList, "--package".toList, crate]
  | none => ["cargo".toList, "test".toList, "--workspace".toList]

/-- `(completed.stdout or completed.stderr)[-2000:]` -/
def Completed.tail (completed : Completed) : Text :=
  let output := if completed.stdout = [] then completed.stderr else completed.stdout
  output.drop (output.length - 2000)

/-- The result that stands for a whole command. -/
def commandResult (suite name : Text) (command : List Text) (completed : Completed) : TestCaseResult Duration where
  suite := suite
  name := name
  status := if completed.returncode = 0 then .passed else .error
  durationMs := clock.zero
  message := some completed.tail
  details := .process completed.returncode command

/-- `run_python_tests` -/
def runPythonTests (host : Host) (coverage : Bool) (package : PackageDir) (behaviour : Behaviour)
    (directory : Directory) : Except RunError (List (TestCaseResult Duration)) × Directory :=
  match behaviour with
  | .error error => (.error error, directory)
  | .ok completed =>
      match parseJunitFile clock (completed.effect directory package.junitName) with
      | .error error => (.error error, completed.effect directory)
      | .ok [] =>
          (.ok [commandResult clock package.name "pytest".toList (buildPytestCommand host package coverage) completed],
            completed.effect directory)
      | .ok (result :: results) => (.ok (result :: results), completed.effect directory)

/-- `run_rust_tests` -/
def runRustTests (crate : Option Text) (behaviour : Behaviour) (directory : Directory) :
    Except RunError (List (TestCaseResult Duration)) × Directory :=
  match behaviour with
  | .error error => (.error error, directory)
  | .ok completed =>
      (.ok [commandResult clock "rust".toList
          (match crate with
          | none => "cargo-test".toList
          | some crate => "cargo-test:".toList ++ crate)
          (buildCargoCommand crate) completed],
        completed.effect directory)

/-- The arguments of `run_all`, each command with what becomes of it. -/
structure Invocation where
  packages : List (PackageDir × Behaviour)
  cargo : Option Behaviour
  crate : Option Text
  environment : Text
  trigger : Text
  coverage : Bool
  gitSha : Option Text

/-- The loop over the packages. -/
def runPackages (host : Host) (coverage : Bool) :
    List (PackageDir × Behaviour) -> Directory -> Except RunError (List (TestCaseResult Duration)) × Directory
  | [], directory => (.ok [], directory)
  | (package, behaviour) :: rest, directory =>
      match runPythonTests clock host coverage package behaviour directory with
      | (.error error, directory) => (.error error, directory)
      | (.ok results, directory) =>
          match runPackages host coverage rest directory with
          | (.error error, directory) => (.error error, directory)
          | (.ok others, directory) => (.ok (results ++ others), directory)

/-- `run_all`; cargo runs when `rust_enabled` is set. -/
def runAll (host : Host) (invocation : Invocation) (directory : Directory) :
    Except RunError (TestRunReport Duration) × Directory :=
  match runPackages clock host invocation.coverage invocation.packages directory with
  | (.error error, directory) => (.error error, directory)
  | (.ok results, directory) =>
      match invocation.cargo with
      | none => (.ok (fromResults results invocation.environment invocation.gitSha invocation.trigger), directory)
      | some behaviour =>
          match runRustTests clock invocation.crate behaviour directory with
          | (.error error, directory) => (.error error, directory)
          | (.ok others, directory) =>
              (.ok (fromResults (results ++ others) invocation.environment invocation.gitSha invocation.trigger),
                directory)

/-! ## What an invocation has launched -/

/-- No result is a failure or an error. -/
def Clean (results : List (TestCaseResult Duration)) : Prop :=
  forall result, result ∈ results -> result.status ≠ .failed ∧ result.status ≠ .error

/-- A pytest command that has ended, with what it left at the path of its file. -/
structure Launch where
  returncode : Int
  content : Option Content

/-- The pytest commands of an invocation, each in the directory that it found. -/
def launches : List (PackageDir × Behaviour) -> Directory -> List Launch
  | [], _ => []
  | (_, .error _) :: _, _ => []
  | (package, .ok completed) :: rest, directory =>
      { returncode := completed.returncode, content := completed.effect directory package.junitName } ::
        launches rest (completed.effect directory)

/-- The exit codes of all commands. -/
def Invocation.exitCodes (invocation : Invocation) (directory : Directory) : List Int :=
  (launches invocation.packages directory).map Launch.returncode ++
    match invocation.cargo with
    | some (.ok completed) => [completed.returncode]
    | some (.error _) => []
    | none => []

namespace Launch

/-- The file lists test cases, none of which failed. -/
def Passes (launch : Launch) : Prop :=
  Exists fun results => parseJunitFile clock launch.content = .ok results ∧ results ≠ [] ∧ Clean results

/-- The file lists test cases without a failure, or there are none and the command exits
with zero. -/
def Quiet (launch : Launch) : Prop :=
  launch.Passes clock ∨ (parseJunitFile clock launch.content = .ok [] ∧ launch.returncode = 0)

/-- The command fails and the file does not say so. -/
def Masks (launch : Launch) : Prop :=
  launch.returncode ≠ 0 ∧ launch.Passes clock

end Launch

/-- Something of the invocation shows a failure: a command that cannot be launched, the
file or exit code of a package, or cargo. -/
inductive Reveals (invocation : Invocation) (directory : Directory) : Prop where
  | notLaunched (package : PackageDir) (error : RunError) (listed : (package, .error error) ∈ invocation.packages)
  | package (launch : Launch) (listed : launch ∈ launches invocation.packages directory) (loud : ¬launch.Quiet clock)
  | cargoNotLaunched (error : RunError) (given : invocation.cargo = some (.error error))
  | cargoFailed (completed : Completed) (given : invocation.cargo = some (.ok completed))
      (failed : completed.returncode ≠ 0)

variable (host : Host)

/-- A report that is ok stands for commands that all exited with zero. -/
def Green (directory : Directory) (invocation : Invocation) : Prop :=
  forall report, (runAll clock host invocation directory).1 = .ok report -> report.ok = true ->
    forall code, code ∈ invocation.exitCodes directory -> code = 0

/-- When a command fails and its file does not say so, something else does. -/
def Unmasked (directory : Directory) (invocation : Invocation) : Prop :=
  (Exists fun launch => launch ∈ launches invocation.packages directory ∧ launch.Masks clock) ->
    Reveals clock invocation directory

/-! ## What is reported -/

theorem fromResults_ok_iff {results : List (TestCaseResult Duration)} {environment : Text} {gitSha : Option Text}
    {trigger : Text} : (fromResults results environment gitSha trigger).ok = true <-> Clean results := by
  simp only [fromResults, count, Bool.and_eq_true, decide_eq_true_eq, List.countP_eq_zero, Clean]
  constructor
  · rintro ⟨failed, errors⟩ result listed
    exact ⟨failed result listed, errors result listed⟩
  · intro clean
    exact ⟨fun result listed => (clean result listed).1, fun result listed => (clean result listed).2⟩

theorem clean_append_iff {results others : List (TestCaseResult Duration)} :
    Clean (results ++ others) <-> Clean results ∧ Clean others :=
  List.forall_mem_append

theorem clean_commandResult_iff {suite name : Text} {command : List Text} {completed : Completed} :
    Clean [commandResult clock suite name command completed] <-> completed.returncode = 0 := by
  by_cases zero : completed.returncode = 0
  · simp [Clean, commandResult, zero]
  · simp [Clean, commandResult, zero]

/-- The program returns results without a failure. -/
def Cleanly (answer : Except RunError (List (TestCaseResult Duration))) : Prop :=
  Exists fun results => answer = .ok results ∧ Clean results

theorem runPythonTests_launched (coverage : Bool) (package : PackageDir) (completed : Completed) (directory : Directory) :
    (runPythonTests clock host coverage package (.ok completed) directory).2 = completed.effect directory ∧
      (Cleanly (runPythonTests clock host coverage package (.ok completed) directory).1 <->
        Launch.Quiet clock
          { returncode := completed.returncode, content := completed.effect directory package.junitName }) := by
  cases read : parseJunitFile clock (completed.effect directory package.junitName) with
  | error error => simp [runPythonTests, read, Cleanly, Launch.Quiet, Launch.Passes]
  | ok results =>
      cases results with
      | nil => simp [runPythonTests, read, Cleanly, Launch.Quiet, Launch.Passes, clean_commandResult_iff]
      | cons result results => simp [runPythonTests, read, Cleanly, Launch.Quiet, Launch.Passes]

/-- The packages are clean when every command is launched and quiet. -/
theorem runPackages_cleanly_iff (coverage : Bool) (packages : List (PackageDir × Behaviour)) (directory : Directory) :
    Cleanly (runPackages clock host coverage packages directory).1 <->
      (forall package error, (package, Except.error error) ∉ packages) ∧
        forall launch, launch ∈ launches packages directory -> launch.Quiet clock := by
  induction packages generalizing directory with
  | nil => simp [runPackages, launches, Cleanly, Clean]
  | cons first rest inductionHypothesis =>
      rcases first with ⟨package, error | completed⟩
      · refine iff_of_false ?_ fun both => both.1 package error List.mem_cons_self
        rintro ⟨results, returned, _⟩
        simp [runPackages, runPythonTests] at returned
      · rcases runPythonTests_launched clock host coverage package completed directory with ⟨after, quiet⟩
        have launched : (forall other error, (other, Except.error error) ∉ (package, Except.ok completed) :: rest) <->
            forall other error, (other, (Except.error error : Behaviour)) ∉ rest := by simp
        rw [launched, launches, List.forall_mem_cons, ← quiet, and_left_comm, ← inductionHypothesis, ← after,
          runPackages]
        rcases runPythonTests clock host coverage package (.ok completed) directory with ⟨error | results, next⟩
        · simp [Cleanly]
        · rcases others : runPackages clock host coverage rest next with ⟨error | later, last⟩
          · simp [Cleanly, others]
          · simp [Cleanly, others, clean_append_iff]

theorem runRustTests_cleanly_iff (crate : Option Text) (behaviour : Behaviour) (directory : Directory) :
    Cleanly (runRustTests clock crate behaviour directory).1 <->
      Exists fun completed => behaviour = .ok completed ∧ completed.returncode = 0 := by
  cases behaviour with
  | error error => simp [runRustTests, Cleanly]
  | ok completed => simp [runRustTests, Cleanly, clean_commandResult_iff]

theorem reveals_iff {invocation : Invocation} {directory : Directory} :
    Reveals clock invocation directory <->
      ¬(((forall package error, (package, Except.error error) ∉ invocation.packages) ∧
          forall launch, launch ∈ launches invocation.packages directory -> launch.Quiet clock) ∧
        forall behaviour, invocation.cargo = some behaviour ->
          Exists fun completed => behaviour = .ok completed ∧ completed.returncode = 0) := by
  constructor
  · rintro (⟨package, error, listed⟩ | ⟨launch, listed, loud⟩ | ⟨error, given⟩ | ⟨completed, given, failed⟩) quiet
    · exact quiet.1.1 package error listed
    · exact loud (quiet.1.2 launch listed)
    · rcases quiet.2 _ given with ⟨completed, launched, _⟩
      cases launched
    · rcases quiet.2 _ given with ⟨completed', launched, zero⟩
      exact failed (Except.ok.inj launched ▸ zero)
  · intro loud
    by_contra hidden
    refine loud ⟨⟨fun package error listed => hidden (.notLaunched package error listed), fun launch listed => ?_⟩,
      fun behaviour given => ?_⟩
    · by_contra loudly
      exact hidden (.package launch listed loudly)
    · cases behaviour with
      | error error => exact absurd (.cargoNotLaunched error given) hidden
      | ok completed =>
          refine ⟨completed, rfl, ?_⟩
          by_contra failed
          exact hidden (.cargoFailed completed given failed)

/-- A report that is ok comes back exactly when nothing shows a failure. -/
theorem reported_ok_iff (invocation : Invocation) (directory : Directory) :
    (Exists fun report => (runAll clock host invocation directory).1 = .ok report ∧ report.ok = true) <->
      ¬Reveals clock invocation directory := by
  rw [reveals_iff, not_not, ← runPackages_cleanly_iff clock host invocation.coverage, runAll]
  rcases runPackages clock host invocation.coverage invocation.packages directory with ⟨error | results, next⟩
  · simp [Cleanly]
  · cases cargo : invocation.cargo with
    | none => simp [Cleanly, fromResults_ok_iff]
    | some behaviour =>
        have rust := runRustTests_cleanly_iff clock invocation.crate behaviour next
        simp only [Option.some.injEq, forall_eq', ← rust]
        rcases runRustTests clock invocation.crate behaviour next with ⟨error | others, last⟩
        · simp [Cleanly]
        · simp [Cleanly, fromResults_ok_iff, clean_append_iff]

/-- An invocation is green exactly when no failure is masked. -/
theorem green_iff_unmasked (invocation : Invocation) (directory : Directory) :
    Green clock host directory invocation <-> Unmasked clock directory invocation := by
  constructor
  · rintro green ⟨launch, listed, failed, _⟩
    by_contra hidden
    rcases (reported_ok_iff clock host invocation directory).2 hidden with ⟨report, returned, ok⟩
    have code : launch.returncode ∈ invocation.exitCodes directory :=
      List.mem_append_left _ (List.mem_map_of_mem listed)
    exact failed (green report returned ok _ code)
  · intro unmasked report returned ok code listed
    have hidden := (reported_ok_iff clock host invocation directory).1 ⟨report, returned, ok⟩
    rcases List.mem_append.1 listed with pytest | cargo
    · rcases List.mem_map.1 pytest with ⟨launch, launched, rfl⟩
      by_contra failed
      have quiet : launch.Quiet clock := by
        by_contra loud
        exact hidden (.package launch launched loud)
      rcases quiet with passes | ⟨_, zero⟩
      · exact hidden (unmasked ⟨launch, launched, failed, passes⟩)
      · exact failed zero
    · cases given : invocation.cargo with
      | none => simp [given] at cargo
      | some behaviour =>
          cases behaviour with
          | error error => simp [given] at cargo
          | ok completed =>
              simp only [given, List.mem_singleton] at cargo
              by_contra failed
              exact hidden (.cargoFailed completed given (cargo ▸ failed))

/-! ## Histories -/

/-- The output directory after an invocation. -/
def Directory.step (directory : Directory) (invocation : Invocation) : Directory :=
  (runAll clock host invocation directory).2

/-- Along a history of invocations, every report that is ok stands for commands that all
exited with zero exactly when no invocation masks a failure. -/
theorem green_history_iff (directory : Directory) (history : List Invocation) :
    Run.Guarded (Directory.step clock host) (Green clock host) directory history <->
      Run.Guarded (Directory.step clock host) (Unmasked clock) directory history := by
  have same : Green clock host = Unmasked clock := by
    funext directory invocation
    exact propext (green_iff_unmasked clock host invocation directory)
  rw [same]

/-! ## A file from an earlier run -/

/-- A clock that reads nothing but a plain zero. -/
def zeroClock : Clock Nat where
  zero := 0
  milliseconds := fun text => if text = "0".toList then some 0 else none

def testHost : Host where
  python := "python".toList
  outputDir := "/reports".toList

def reportsPackage : PackageDir where
  parent := "/repo/python".toList
  name := "reports".toList

/-- A file with one test case that passed. -/
def passingFile : Element :=
  .mk "testsuites".toList [] none
    [.mk "testsuite".toList [("name".toList, "pytest".toList)] none
      [.mk "testcase".toList [("name".toList, "test_ok".toList)] none []]]

/-- pytest passes and writes its file. -/
def passingPytest : Completed where
  returncode := 0
  stdout := []
  stderr := []
  effect := fun directory name =>
    if name = reportsPackage.junitName then some (.ok passingFile) else directory name

/-- pytest is used wrongly; it writes no file. -/
def misusedPytest : Completed where
  returncode := 4
  stdout := []
  stderr := "usage error".toList
  effect := id

def invocationOf (completed : Completed) : Invocation where
  packages := [(reportsPackage, .ok completed)]
  cargo := none
  crate := none
  environment := "local".toList
  trigger := "manual".toList
  coverage := false
  gitSha := none

def emptyDirectory : Directory :=
  fun _ => none

theorem stale_file_hides_failure :
    ¬Run.Guarded (Directory.step zeroClock testHost) (Green zeroClock testHost) emptyDirectory
      [invocationOf passingPytest, invocationOf misusedPytest] := by
  rintro ⟨_, green, _⟩
  let directory := Directory.step zeroClock testHost emptyDirectory (invocationOf passingPytest)
  have reported : Exists fun report =>
      (runAll zeroClock testHost (invocationOf misusedPytest) directory).1 = .ok report ∧ report.ok = true :=
    ⟨_, rfl, by decide⟩
  rcases reported with ⟨report, returned, ok⟩
  have zero := green report returned ok 4 (by decide)
  cases zero

end Testing
end ApexQuant