/-!
# Faults of the file system

Why a path cannot be read, written or listed, and how that is worded.

## What is here

* `Files.Fault` — the causes, and `Fault.message` their wording;
* `Files.Failure` — what could not be done to which path, with its cause.
-/

set_option autoImplicit false

namespace ExamPress.Files

/-- **Why a path is refused.** -/
inductive Fault
  /-- There is nothing at the path. -/
  | notFound
  /-- There is something at the path already. -/
  | alreadyThere
  /-- A file stands where a folder is wanted. -/
  | notAFolder
  /-- A folder stands where a file is wanted. -/
  | isAFolder
  /-- A name, or the whole path, is too long. -/
  | tooLong
  /-- A path cannot hold the character with the number zero. -/
  | zeroInPath
  /-- The bytes of a file are not a text. -/
  | notText
  deriving DecidableEq

/-- The wording of a fault.  Those that the system reports carry its number. -/
def Fault.message : Fault → String
  | notFound => "No such file or directory (os error 2)"
  | alreadyThere => "File exists (os error 17)"
  | notAFolder => "Not a directory (os error 20)"
  | isAFolder => "Is a directory (os error 21)"
  | tooLong => "File name too long (os error 36)"
  | zeroInPath => "file name contained an unexpected NUL byte"
  | notText => "stream did not contain valid UTF-8"

/-- What was to be done with a path. -/
inductive Purpose
  | startLog
  | listFolder
  | readToml
  | makeOutputFolder
  | writeExam
  | openFailureLog
  deriving DecidableEq

/-- How it is said that it could not be done. -/
def Purpose.text : Purpose → String
  | startLog => "无法初始化日志文件"
  | listFolder => "无法读取文件夹"
  | readToml => "无法读取TOML文件"
  | makeOutputFolder => "无法创建输出目录"
  | writeExam => "无法写入PDF"
  | openFailureLog => "无法打开失败记录文件"

/-- **What could not be done to which path.** -/
inductive Failure
  /-- A folder that is needed is not there. -/
  | missingFolder (path : String)
  /-- The path was refused. -/
  | refused (purpose : Purpose) (path : String) (cause : Fault)
  deriving DecidableEq

namespace Failure

/-- What could not be done. -/
def headline : Failure → String
  | missingFolder path => "文件夹不存在: " ++ path
  | refused purpose path _ => purpose.text ++ ": " ++ path

/-- Why it could not be done, when there is more to say than what could not be done. -/
def causes : Failure → List String
  | missingFolder _ => []
  | refused _ _ cause => [cause.message]

end Failure

end ExamPress.Files
