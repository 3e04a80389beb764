import ExamPress.Exam.Template
import ExamPress.Files.Tree
import ExamPress.Settings

/-!
# Where the template comes from

The settings may name a template.  Otherwise it is looked for under a fixed name, in the folder of
resources and then in the working folder, and when there is none the built-in one is used.

## What is here

* `Template.Origin` — where a template comes from, and `Template.locate` which decides it;
* `Template.Unusable` — why there is no template;
* `Template.obtain` — the template with its origin.
-/

set_option autoImplicit false

namespace ExamPress.Template

open ExamPress.Files

/-- The name under which a template is looked for. -/
def fileName : String := "exam.hbs"

/-- Where a template comes from. -/
inductive Origin
  | file (path : String)
  | builtin
  deriving DecidableEq

/-- **Where the template comes from.**  A path in the settings is not tried out first: if there is
no template at it, that is a failure. -/
def locate (t : FileTree) (s : Settings) : Origin :=
  match s.templatePath with
  | some path => .file path
  | none =>
    let packaged := s.resourcesPath.map fun folder => Path.join folder fileName
    match (packaged.toList ++ [fileName]).find? t.isFile with
    | some path => .file path
    | none => .builtin

/-- Why there is no template. -/
inductive Unusable
  /-- The file cannot be read. -/
  | unreadable (path : String) (cause : Files.Fault)
  /-- Its text is not a template. -/
  | malformed (refusal : Refusal)
  deriving DecidableEq

namespace Unusable

/-- The wording of why there is no template. -/
def message : Unusable → String
  | unreadable path cause => "读取模板文件失败 (" ++ path ++ "): " ++ cause.message
  | malformed _ => "模板解析失败"

/-- What lies behind it. -/
def causes : Unusable → List String
  | unreadable _ cause => [cause.message]
  | malformed _ => []

end Unusable

/-- The template with the given origin. -/
def ofOrigin (t : FileTree) : Origin → Except Unusable Template
  | .builtin => builtin.mapError .malformed
  | .file path => do
    let text ← (t.readText path).mapError (.unreadable path)
    (parse text.toList).mapError .malformed

/-- **The template that the settings ask for.** -/
def obtain (t : FileTree) (s : Settings) : Except Unusable Template := ofOrigin t (locate t s)

end ExamPress.Template
