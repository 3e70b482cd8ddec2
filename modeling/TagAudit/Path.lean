import TagAudit.Text.Search

namespace TagAudit.Path

/-- What is behind the last slash of a path. -/
def fileName (path : String) : String :=
  String.ofList ((path.toList.reverse.takeWhile (· != '/')).reverse)

/-- What is before the last slash of a path, without further slashes at its end. -/
def parent (path : String) : String :=
  let start := path.toList.reverse.dropWhile (· != '/')
  if start.all (· == '/') then String.ofList start
  else String.ofList (start.dropWhile (· == '/')).reverse

/-- A path below another one. -/
def join (path below : String) : String :=
  if Text.startsWith below "/" then below
  else if path.isEmpty || Text.endsWith path "/" then path ++ below
  else path ++ "/" ++ below

/-- The names between the slashes. -/
def parts (path : String) : List String := (Text.blocks (· == '/') path.toList).map String.ofList

/-- What a path starts with if it does not depend on a working directory. Two slashes are kept. -/
def root (path : String) : String :=
  if !Text.startsWith path "/" then ""
  else if Text.startsWith path "//" && !Text.startsWith path "///" then "//"
  else "/"

/-- Goes on by one part from the parts so far, the latest first. -/
def step (rooted : Bool) (way : List String) (part : String) : List String :=
  if part == "." then way
  else if part != ".." then part :: way
  else
    match way with
    | [] => if rooted then [] else [".."]
    | last :: rest => if last == ".." then ".." :: way else rest

/-- The path without detours. -/
def normal (path : String) : String :=
  let way := (parts path).foldl (step (root path != "")) []
  let result := root path ++ "/".intercalate way.reverse
  if result.isEmpty then "." else result

/-- The path from the root, for a working directory. -/
def absolute (directory path : String) : String := normal (join directory path)

end TagAudit.Path
