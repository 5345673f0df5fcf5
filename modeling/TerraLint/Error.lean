/-!
# Errors

A check goes on after a failure: errors are collected in an `ErrorList` and handed back as one error
at the end. Pushing a collection of errors pushes its members, so a collection never holds another
one.

* `LintError.message`: the wording of every error, in one place.
* `ErrorList.collapse`: no error, the only error, or all of them together.
-/

namespace TerraLint

/-- What is wrong with an ignore configuration. `bothLists` is a block that both includes and excludes
rules. -/
inductive ConfigFault where
  | unreadable (reason : String)
  | malformed (reason : String)
  | strayAttribute (key : String)
  | unknownBlock (kind : String)
  | missingPatterns (kind : String)
  | notStringList
  | badPattern (source reason : String)
  | bothLists (kind : String)
  | unknownRule (name : String)
deriving DecidableEq, Repr

/-- The wording of a fault. -/
def ConfigFault.message : ConfigFault → String
  | unreadable reason | malformed reason => reason
  | strayAttribute key =>
    "unexpected attribute `" ++ key ++ "`, only `ignore` and `retain` blocks are allowed"
  | unknownBlock kind => "block type `" ++ kind ++ "` not supported"
  | missingPatterns kind => "`patterns` field must be declared in block `" ++ kind ++ "`"
  | notStringList => "the expression is expected to be a string list"
  | badPattern source reason => "pattern `" ++ source ++ "` is not valid: " ++ reason
  | bothLists kind =>
    "`include_rules` and `exclude_rules` can't be declared within the same block `" ++ kind ++ "`"
  | unknownRule name => "rule `" ++ name ++ "` doesn't exist"

/-- What can go wrong in a check or in its preparation. -/
inductive LintError where
  | parse (file reason : String)
  | fileNotFound (name : String)
  | emitRejected (rule reason : String)
  | evaluation (file key reason : String)
  | ignoreConfig (path : String) (fault : ConfigFault)
  | multiple (errors : List LintError)
  | other (text : String)

namespace LintError

mutual

/-- The wording of an error. -/
def message : LintError → String
  | .parse file reason => "Failed to parse " ++ file ++ ": " ++ reason
  | .fileNotFound name => "File not found: " ++ name
  | .emitRejected rule reason => "Issue rejected for rule '" ++ rule ++ "': " ++ reason
  | .evaluation file key reason =>
    "Failed to evaluate '" ++ key ++ "' in " ++ file ++ ": " ++ reason
  | .ignoreConfig path fault => "Invalid ignore config " ++ path ++ ": " ++ fault.message
  | .multiple errors => toString errors.length ++ " errors occurred:" ++ entries errors
  | .other text => text

/-- Errors as entries of a list, each on a line of its own. -/
def entries : List LintError → String
  | [] => ""
  | e :: rest => "\n\t* " ++ e.message ++ entries rest

end

end LintError

/-- Errors collected while a check goes on, in the order in which they were met. -/
structure ErrorList where
  errors : List LintError

namespace ErrorList

/-- No errors yet. -/
def empty : ErrorList := ⟨[]⟩

/-- Adds an error; of several errors together, each one. -/
def push (list : ErrorList) : LintError → ErrorList
  | .multiple inner => ⟨list.errors ++ inner⟩
  | e => ⟨list.errors ++ [e]⟩

/-- Keeps the error of a result, and gives its value if there is one. -/
def absorb {α : Type} (list : ErrorList) : Except LintError α → ErrorList × Option α
  | .ok value => (list, some value)
  | .error e => (list.push e, none)

/-- The collection as one result: success, the only error, or all errors together. -/
def collapse (list : ErrorList) : Except LintError Unit :=
  match list.errors with
  | [] => .ok ()
  | [e] => .error e
  | errors => .error (.multiple errors)

/-- The collection as a list under its count. -/
def message (list : ErrorList) : String := (LintError.multiple list.errors).message

/-- The errors pushed one after the other. -/
def ofList (errors : List LintError) : ErrorList := errors.foldl push empty

end ErrorList

end TerraLint
