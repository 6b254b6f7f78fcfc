import AdmissionGate.Form

/-!
Routes: patterns of paths, whose segments are given or stand for parameters. A path is matched as it
is written, segment by segment. Where several patterns match, the one that gives the earliest
segment more exactly is taken; only then are percent signs undone in the parameters.
-/

namespace AdmissionGate

inductive Segment where
  /-- A given text. -/
  | literal (text : String)
  /-- Any segment, which is not empty if it is the last. -/
  | capture (name : String)
  /-- All that is left of the path, slashes included, if it is not empty. -/
  | rest (name : String)
  deriving DecidableEq, Repr

def Segment.freedom : Segment → Nat
  | .literal _ => 0
  | .capture _ => 1
  | .rest _ => 2

/-- The segment that a text describes: a name in braces captures, an asterisk before the name takes
the rest. -/
def Segment.ofText (s : String) : Segment :=
  match s.toList, s.toList.getLast? with
  | '\x7b' :: '*' :: name, some '\x7d' => .rest (String.ofList name.dropLast)
  | '\x7b' :: name, some '\x7d' => .capture (String.ofList name.dropLast)
  | _, _ => .literal s

structure PathPattern where
  segments : List Segment
  deriving DecidableEq, Repr

namespace PathPattern

/-- The segments of a path, which begins with a slash. -/
def split? (path : String) : Option (List String) :=
  match path.toList with
  | '/' :: rest => some ((Text.splitAll '/' rest).map String.ofList)
  | _ => none

def ofText (s : String) : PathPattern :=
  ⟨((split? s).getD [s]).map Segment.ofText⟩

/-- The parameters by which segments match, in their order. -/
def matchSegments : List Segment → List String → Option (List (String × String))
  | [], [] => some []
  | [.rest name], s :: ss =>
    let tail := "/".intercalate (s :: ss)
    if tail.isEmpty then none else some [(name, tail)]
  | .literal text :: ps, s :: ss => if text = s then matchSegments ps ss else none
  | [.capture name], [s] => if s.isEmpty then none else some [(name, s)]
  | .capture name :: ps, s :: ss => (matchSegments ps ss).map ((name, s) :: ·)
  | _, _ => none

/-- The parameters by which a path matches, as they are written. -/
def match? (p : PathPattern) (path : String) : Option (List (String × String)) :=
  (split? path).bind (matchSegments p.segments)

/-- Whether a pattern is to be taken before another. -/
def precedes (p q : PathPattern) : Bool :=
  p.segments.map Segment.freedom < q.segments.map Segment.freedom

end PathPattern

/-- A pattern and what it leads to. -/
structure Route (α : Type) where
  pattern : PathPattern
  target : α

namespace Route

variable {α : Type}

/-- A route that matches a path, and the parameters. -/
abbrev Hit (α : Type) := Route α × List (String × String)

/-- The one of two matching routes that is taken. -/
def better (a b : Hit α) : Hit α :=
  if b.1.pattern.precedes a.1.pattern then b else a

/-- The route that a path takes, and the parameters as they are written. -/
def find? (routes : List (Route α)) (path : String) : Option (Hit α) :=
  match routes.filterMap fun r => (r.pattern.match? path).map (r, ·) with
  | [] => none
  | hit :: hits => some (hits.foldl better hit)

/-- A parameter with its percent signs undone, if that is a text. -/
def decodeParam? (param : String × String) : Option (String × String) :=
  (Text.decode? (percentDecode (Text.encode param.2))).map (param.1, ·)

/-- Parameters with their percent signs undone, if all of them are texts. -/
def decodeParams? (params : List (String × String)) : Option (List (String × String)) :=
  params.mapM decodeParam?

end Route

end AdmissionGate
