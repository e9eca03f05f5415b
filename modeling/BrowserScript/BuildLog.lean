import BrowserScript.BuildError

/-!
What a build reports while it runs. A stage that succeeds adds one record, a stage that fails adds
none, and no stage runs after one that has failed.
-/

set_option autoImplicit false

namespace BrowserScript

/-- All sizes are in bytes of the UTF-8 form. -/
inductive LogRecord where
  | unwrapped (bundleSize bodySize : Nat)
  | assembled (size : Nat)
  /-- The size of the banner is not counted. -/
  | minified (name version : String) (inputSize outputSize : Nat)
  deriving DecidableEq, Repr

def LogRecord.text : LogRecord → String
  | .unwrapped bundleSize bodySize =>
    "DEBUG Unwrapped bundle: " ++ toString bundleSize ++ " bytes in, " ++ toString bodySize ++
      " bytes of function body"
  | .assembled size => "DEBUG Assembled script is " ++ toString size ++ " bytes"
  | .minified name version inputSize outputSize =>
    "INFO Minified " ++ name ++ " v" ++ version ++ ": " ++ toString inputSize ++ " bytes in, " ++
      toString outputSize ++ " bytes out"

/-- The result of some stages of a build, with the records of those that were completed. -/
structure Logged (α : Type) where
  records : List LogRecord
  outcome : Except BuildError α
  deriving Repr

namespace Logged

variable {α β : Type}

/-- A stage, and the record it adds when it succeeds. -/
def stage (outcome : Except BuildError α) (record : α → LogRecord) : Logged α :=
  match outcome with
  | .ok value => ⟨[record value], .ok value⟩
  | .error cause => ⟨[], .error cause⟩

/-- Goes on with a value, if there is one. -/
def andThen (first : Logged α) (next : α → Logged β) : Logged β :=
  match first.outcome with
  | .ok value => ⟨first.records ++ (next value).records, (next value).outcome⟩
  | .error cause => ⟨first.records, .error cause⟩

/-- Changes the value only. -/
def map (f : α → β) (x : Logged α) : Logged β := ⟨x.records, x.outcome.map f⟩

end Logged

end BrowserScript
