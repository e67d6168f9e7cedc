/-!
# Configuration

The settings of a session, and how a qualified name falls into library reference and name.
-/

set_option autoImplicit false

namespace DataStep

/-- The settings of a session. -/
structure Config where
  /-- The greatest number of passes of a conditional loop. -/
  maxPasses : Nat
  /-- The text of a missing value in listings. -/
  missingText : String
  /-- The library of unqualified names. -/
  defaultLibrary : String
  /-- What stands between a library reference and a name. -/
  separator : Char
  /-- What stands between the fields of delimited files. -/
  delimiter : Char
  deriving DecidableEq

namespace Config

/-- The settings that hold unless others are given. -/
def standard : Config := ⟨1000, ".", "WORK", '.', ','⟩

instance : Inhabited Config := ⟨standard⟩

/-- The library reference and the name of a qualified name, split at the first separator. Without
one the reference is empty. -/
def splitName (config : Config) (qualified : String) : String × String :=
  let cs := qualified.toList
  match cs.dropWhile (· != config.separator) with
  | [] => ("", qualified)
  | _ :: rest => (String.ofList (cs.takeWhile (· != config.separator)), String.ofList rest)

end Config

end DataStep
