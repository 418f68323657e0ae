/-!
Paths of files as texts with slashes, and what they mean without looking at any file.
-/

namespace DeviceConfig.FilePath

/-- One step of a path. -/
inductive Part where
  /-- The slash at the start of an absolute path. -/
  | root
  /-- A point at the start of a relative path. -/
  | here
  | up
  | name (text : String)
  deriving Repr, DecidableEq

def Part.text : Part → String
  | root => "/"
  | here => "."
  | up => ".."
  | name text => text

def isAbsolute (path : String) : Bool := path.toList.head? == some '/'

def pieces : List Char → List (List Char)
  | [] => [[]]
  | c :: rest =>
    if c == '/' then [] :: pieces rest
    else
      match pieces rest with
      | [] => [[c]]
      | piece :: more => (c :: piece) :: more

/-- The step that a text between slashes stands for; none for an empty text and for a point. -/
def partOf? (piece : List Char) : Option Part :=
  if piece.isEmpty || piece == ['.'] then none
  else if piece == ['.', '.'] then some .up
  else some (.name (String.ofList piece))

/-- The steps of a path. Repeated slashes count once, and points only at the start of a relative
    path. -/
def parts (path : String) : List Part :=
  let all := pieces path.toList
  let start :=
    if isAbsolute path then [Part.root] else if all.head? == some ['.'] then [Part.here] else []
  start ++ all.filterMap partOf?

def ofParts : List Part → String
  | [] => ""
  | .root :: rest => "/" ++ String.intercalate "/" (rest.map Part.text)
  | steps => String.intercalate "/" (steps.map Part.text)

/-- `file` as seen from `base`: an absolute path stands for itself. -/
def join (base file : String) : String :=
  if isAbsolute file || base.isEmpty then file
  else if base.toList.getLast? == some '/' then base ++ file
  else base ++ "/" ++ file

/-- The steps without the last one; an absolute path keeps its root. -/
def parentParts (steps : List Part) : Option (List Part) :=
  match steps.getLast? with
  | none | some .root => none
  | some _ => some steps.dropLast

/-- Takes a step from a place given by the steps to it, last first. The step up takes the last step
    back, also if that was a step up; where there is none, it is kept. -/
def walk (place : List Part) (step : Part) : List Part :=
  match step with
  | .here => place
  | .up =>
    match place with
    | [] => [.up]
    | .root :: rest => .up :: .root :: rest
    | _ :: rest => rest
  | step => step :: place

/-- The steps without points and without steps that are taken back. -/
def normalize (steps : List Part) : List Part := (steps.foldl walk []).reverse

/-- What is left of both lists after their common beginning. -/
def dropCommon : List Part → List Part → List Part × List Part
  | a :: as, b :: bs => if a = b then dropCommon as bs else (a :: as, b :: bs)
  | as, bs => (as, bs)

/-- The steps from the directory `base` to `target`. A target with a root that `base` does not share
    is reached from its root. -/
def relativeParts (target base : List Part) : List Part :=
  let (down, back) := dropCommon (normalize target) (normalize base)
  match down with
  | .root :: _ => down
  | _ => List.replicate back.length .up ++ down

def relative (target base : String) : String := ofParts (relativeParts (parts target) (parts base))

/-- The texts between slashes without those at the end that are no step. -/
def dropIdle (texts : List (List Char)) : List (List Char) :=
  (texts.reverse.dropWhile fun piece => (partOf? piece).isNone).reverse

/-- The text of the path to the directory that holds the last step; what comes before that step is kept
    as it is written. It is empty for a path of one step. -/
def parent? (path : String) : Option String :=
  let within (start : String) (body : List Char) (whole : Option String) : Option String :=
    match dropIdle (pieces body) with
    | [] => whole
    | steps => some (start ++ String.ofList (['/'].intercalate (dropIdle steps.dropLast)))
  match path.toList with
  | '/' :: body => within "/" body none
  | ['.'] => some ""
  | '.' :: '/' :: rest => within "." ('/' :: rest) (some "")
  | body => within "" body none

/-- The directory that a file is in, as a path from the current directory. -/
def directory (path : String) : String :=
  match parent? path with
  | none | some "" => "."
  | some parent => parent

/-- The steps to the directory of a file, and the file's name. A path that ends in a slash or in points
    is no path of a file. -/
def file? (path : String) : Option (List Part × String) :=
  match (pieces path.toList).getLast?.bind partOf? with
  | some (.name name) => some ((parts path).dropLast, name)
  | _ => none

end DeviceConfig.FilePath
