import AdmissionGate.Identity

/-!
Which stages of the gate are on, and which paths go round them. The paths that cost no quota are
listed one by one; those that are not screened are listed by how they begin, so that a whole subtree
can be left out.
-/

namespace AdmissionGate

structure AdmissionSettings where
  rateLimiting : Bool
  screening : Bool
  identity : IdentitySettings
  freePaths : List String
  unscreenedPaths : List String
  deriving DecidableEq, Repr

namespace AdmissionSettings

/-- The paths that usually cost no quota. -/
def usualFreePaths : List String := ["/health", "/", "/docs", "/openapi.json", "/redoc"]

/-- The beginnings of the paths that usually are not screened. -/
def usualUnscreenedPaths : List String :=
  ["/docs", "/openapi.json", "/redoc", "/health", "/api/v1/files/upload"]

/-- Both stages on, with the usual exceptions. -/
def standard : AdmissionSettings :=
  ⟨true, true, .standard, usualFreePaths, usualUnscreenedPaths⟩

def isFree (s : AdmissionSettings) (path : String) : Bool :=
  s.freePaths.contains path

def isUnscreened (s : AdmissionSettings) (path : String) : Bool :=
  s.unscreenedPaths.any fun p => p.toList.isPrefixOf path.toList

/-- Whether quota is asked for on a path. -/
def meters (s : AdmissionSettings) (path : String) : Bool :=
  s.rateLimiting && !s.isFree path

/-- Whether requests for a path are screened. -/
def screens (s : AdmissionSettings) (path : String) : Bool :=
  s.screening && !s.isUnscreened path

end AdmissionSettings

end AdmissionGate
