import ExamPress.Selection
import ExamPress.Text.Duration

/-!
# Settings

What can be set from outside, by name; everything has a default.

## What is here

* `Settings` — the settings;
* `Settings.ofEnvironment` — the settings that a look-up of names gives, where a value that cannot
  be read is passed over.
-/

set_option autoImplicit false

namespace ExamPress

/-- **The settings.** -/
structure Settings where
  /-- How many exams may be typeset at a time. -/
  maxConcurrentExams : Nat := 4
  /-- The folder of the question files. -/
  questionBankFolder : String := "question_bank"
  /-- The folder of the job files. -/
  examFolder : String := "exams"
  /-- The folder that the exams are written to. -/
  outputFolder : String := "output_pdf"
  /-- The template to use. -/
  templatePath : Option String := none
  /-- A folder that may hold a template. -/
  resourcesPath : Option String := none
  /-- The typesetting program. -/
  compilerProgram : String := "latexmk"
  /-- How long typesetting may take, in seconds. -/
  compileTimeoutSecs : Option Nat := none
  /-- The folder that working directories are made in. -/
  scratchRoot : Option String := none
  /-- The folder for what is there for a time only, where no folder is given for working
  directories. -/
  temporaryFolder : Option String := none
  /-- The title of the exam given by `examSelection`. -/
  examTitle : String := "MaTeX"
  /-- One more exam, given by its questions. -/
  examSelection : Option Selection := none
  /-- Tell more of what is going on. -/
  verboseLogging : Bool := false
  /-- The file that the log goes to. -/
  outputLogFile : String := "output.txt"
  /-- The file that failures are noted in. -/
  failureLogFile : String := "failed_exams.txt"

namespace Settings

/-- The names that settings are looked up by. -/
def names : List String :=
  ["MAX_CONCURRENT_EXAMS", "QUESTION_BANK_FOLDER", "EXAM_FOLDER", "OUTPUT_FOLDER", "TEMPLATE_PATH",
    "RESOURCES_PATH", "LATEX_COMPILER", "COMPILE_TIMEOUT_SECS", "SCRATCH_ROOT", "TMPDIR",
    "EXAM_TITLE", Selection.settingName, "VERBOSE_LOGGING", "OUTPUT_LOG_FILE", "FAILURE_LOG_FILE"]

/-- A truth value is one of two words. -/
def readBool? (s : String) : Option Bool :=
  if s = "true" then some true else if s = "false" then some false else none

/-- A selection that selects something. -/
def readSelection? (s : String) : Option Selection :=
  (Selection.parse s).toOption.filter fun selection => !selection.isEmpty

/-- **The settings given by names**; each name that is not set, or has a value that cannot be
read, leaves the default. -/
def ofEnvironment (lookup : String → Option String) : Settings :=
  let default : Settings := {}
  let number? (name : String) : Option Nat :=
    (lookup name).bind fun v => Number.readWord64? v.toList
  { maxConcurrentExams :=
      ((number? "MAX_CONCURRENT_EXAMS").filter (0 < ·)).getD default.maxConcurrentExams
    questionBankFolder := (lookup "QUESTION_BANK_FOLDER").getD default.questionBankFolder
    examFolder := (lookup "EXAM_FOLDER").getD default.examFolder
    outputFolder := (lookup "OUTPUT_FOLDER").getD default.outputFolder
    templatePath := lookup "TEMPLATE_PATH"
    resourcesPath := lookup "RESOURCES_PATH"
    compilerProgram := (lookup "LATEX_COMPILER").getD default.compilerProgram
    compileTimeoutSecs := number? "COMPILE_TIMEOUT_SECS"
    scratchRoot := lookup "SCRATCH_ROOT"
    temporaryFolder := lookup "TMPDIR"
    examTitle := (lookup "EXAM_TITLE").getD default.examTitle
    examSelection := (lookup Selection.settingName).bind readSelection?
    verboseLogging := ((lookup "VERBOSE_LOGGING").bind readBool?).getD default.verboseLogging
    outputLogFile := (lookup "OUTPUT_LOG_FILE").getD default.outputLogFile
    failureLogFile := (lookup "FAILURE_LOG_FILE").getD default.failureLogFile }

/-- How long typesetting may take; no seconds mean no limit. -/
def compileTimeout (s : Settings) : Option Duration :=
  (s.compileTimeoutSecs.filter (0 < ·)).map fun secs => { seconds := secs }

end Settings

end ExamPress
