/-!
# Operating-system failures

What the daemon tells apart about a failed file or socket operation.
-/

namespace FaceAuth

/-- The kinds of operating-system failures that the daemon tells apart. -/
inductive IoErrorKind where
  | notFound | alreadyExists | other
deriving DecidableEq, Repr

/-- An error of the system: its kind and the text that tells of it. -/
structure IoError where
  kind : IoErrorKind
  message : String
deriving DecidableEq, Repr

end FaceAuth
