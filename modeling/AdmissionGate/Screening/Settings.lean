import AdmissionGate.Http.Message
import AdmissionGate.Text.Case

/-!
How closely requests are screened, which bodies are looked into, and the headers that every answer
behind the screen carries.
-/

namespace AdmissionGate

structure ScreeningSettings where
  /-- Whether suspicious values are refused and not only reported. -/
  strict : Bool
  maxHeaderBytes : Nat
  maxQueryBytes : Nat
  maxBodyBytes : Nat
  maxJsonDepth : Nat
  deriving DecidableEq, Repr

def ScreeningSettings.standard : ScreeningSettings :=
  ⟨false, 8000, 2000, 10 * 1024 * 1024, 10⟩

/-- The kinds of bodies that are looked into. -/
inductive BodyKind where
  | json
  | form
  deriving DecidableEq, Repr

namespace BodyKind

/-- Whether requests of a method carry bodies that are looked into. -/
def hasBody (m : Method) : Bool :=
  m == Method.post || m == Method.put || m == Method.patch

/-- The kind of body that a content type announces. -/
def ofContentType? (contentType : String) : Option BodyKind :=
  let lowered := Text.lowerAscii contentType
  if Text.hasText "application/json" lowered then some .json
  else if Text.hasText "application/x-www-form-urlencoded" lowered then some .form
  else none

/-- The kind of body of a request that is looked into, if it is one. -/
def of? (m : Method) (h : Headers) : Option BodyKind :=
  if hasBody m then ofContentType? ((h.text? "content-type").getD "") else none

end BodyKind

/-- The headers of every answer that has passed the screen. -/
def securityHeaders : List (String × String) :=
  [("x-content-type-options", "nosniff"), ("x-frame-options", "DENY"),
    ("x-xss-protection", "1; mode=block"), ("referrer-policy", "strict-origin-when-cross-origin")]

/-- Headers with the security headers in the place of any of their names. -/
def withSecurity (h : Headers) : Headers :=
  securityHeaders.foldl (fun h (name, value) => h.setText name value) h

end AdmissionGate
