import WattWarden.Library.FileTree
import WattWarden.Library.Numerals

/-!
# Errors of the core crate

`WattWardenError` with the texts its variants print.  An I/O error is kept as the operating
system reports it: whether it is `PermissionDenied`, and its message.
-/

namespace WattWarden

open Library.FileTree Library.Numerals

/-- `std::io::Error`, as far as the program looks at it. -/
structure IoError where
  permissionDenied : Bool
  message : String
  deriving DecidableEq, Repr

/-- `WattWardenError`, the variants the modelled code builds. -/
inductive WattWardenError where
  | io (path : Path) (source : IoError)
  | parseInt (path : Path) (val : String)
  | interfaceNotFound (msg : String)
  | permissionDenied (msg : String)
  | unsupported (msg : String)
  | config (msg : String)
  deriving DecidableEq, Repr

/-- The text of `ParseIntError` for a `val` that is not a value of an unsigned type. -/
def parseIntErrorText (val : String) : String :=
  let digits := match val.toList with
    | '+' :: cs => cs
    | cs => cs
  if val = "" then "cannot parse integer from empty string"
  else if (parseDigits digits).isSome then "number too large to fit in target type"
  else "invalid digit found in string"

/-- `Path::display`. -/
def displayPath (p : Path) : String := "/" ++ String.intercalate "/" p

namespace WattWardenError

/-- The `#[error(..)]` texts. -/
def display : WattWardenError → String
  | io path source => s!"I/O failure on path '{displayPath path}': {source.message}"
  | parseInt path val =>
      s!"Failed to parse integer value '{val}' from '{displayPath path}': {parseIntErrorText val}"
  | interfaceNotFound msg => s!"Hardware interface not found: {msg}"
  | permissionDenied msg =>
      s!"Permission denied: root/administrator privileges required for: {msg}"
  | unsupported msg => s!"Unsupported hardware feature: {msg}"
  | config msg => s!"Configuration error: {msg}"

end WattWardenError

/-- `Result::ok`. -/
theorem toOption_eq_some {ε α : Type*} {x : Except ε α} {a : α} :
    x.toOption = some a ↔ x = .ok a := by
  cases x <;> simp [Except.toOption]

end WattWarden
