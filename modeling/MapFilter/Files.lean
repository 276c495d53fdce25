/-!
# Files

The data directory as a value: file paths with their texts. Paths are relative, with a slash
between the names of directories and files.

A pattern selects files name by name. A star stands for any characters, a question mark for one,
and brackets for one of several; names that begin with a point are only found by a pattern that
begins with one.

- `Files.entry?`: what a path leads to
- `Files.glob`: the paths that a pattern selects, in order
-/

namespace MapFilter

/-- File paths and their texts. -/
abbrev Files := List (String × String)

namespace Files

/-! ## §1 Reading and writing -/

def remove (files : Files) (path : String) : Files :=
  files.filter fun file => file.1 != path

def write (files : Files) (path text : String) : Files :=
  files.remove path ++ [(path, text)]

/-! ## §2 Paths -/

/-- The names on a path. -/
def names (path : String) : List String :=
  (path.splitOn "/").filter fun name => name != "" && name != "."

/-- The slashes that a path from the root begins with: two stay two, any other number is one. -/
def root (path : String) : String :=
  let slashes := (path.toList.takeWhile (· == '/')).length
  if slashes = 0 then "" else if slashes = 2 then "//" else "/"

/-- The path without repeated slashes, names that stay in place, and a slash at its end. The empty
path is the directory itself. -/
def normalize (path : String) : String :=
  let text := root path ++ String.intercalate "/" (names path)
  if text.isEmpty then "." else text

/-- A path below a directory. A path from the root stays as it is. -/
def join (directory path : String) : String :=
  if path.startsWith "/" then path
  else if directory.isEmpty || directory.endsWith "/" then directory ++ path
  else directory ++ "/" ++ path

/-- The path without the ending of its last name. Points that begin the name begin no ending. -/
def withoutEnding (path : String) : String :=
  let reversed := path.toList.reverse
  let name := reversed.takeWhile (· != '/')
  let stem := (name.dropWhile (· != '.')).drop 1
  if stem.all (· == '.') then path
  else String.ofList (stem ++ reversed.dropWhile (· != '/')).reverse

/-- Whether names lead to a directory: the one that the files are in, or one above a file. -/
def isDirectory (files : Files) (directory : List String) : Bool :=
  directory.isEmpty || files.any fun file =>
    let names := names file.1
    directory.length < names.length && names.take directory.length == directory

/-- What a path leads to. -/
inductive Entry where
  | directory
  | file (text : String)
deriving DecidableEq

/-- Where names lead from a directory, two points going up. `none` if a name is looked for in
something that is no directory, or the names lead out. -/
def follow (files : Files) : List String → List String → Option (List String)
  | place, [] => some place
  | place, name :: rest =>
    if !files.isDirectory place then none
    else if name == ".." then
      if place.isEmpty then none else follow files place.dropLast rest
    else follow files (place ++ [name]) rest

/-- What stands at a place. -/
def entryAt? (files : Files) (place : List String) : Option Entry :=
  if files.isDirectory place then some .directory
  else (List.find? (fun file => names file.1 == place) files).map fun file => .file file.2

/-- Whether a path can only lead to a directory: it ends behind a slash. -/
def isDirectoryPath (path : String) : Bool :=
  path.endsWith "/" || path.endsWith "/."

/-- What a path leads to, if anything. The files of a path from the root are not known. -/
def entry? (files : Files) (path : String) : Option Entry :=
  if path.isEmpty || path.startsWith "/" then none
  else
    match (files.follow [] (names path)).bind files.entryAt? with
    | some (.file text) => if isDirectoryPath path then none else some (.file text)
    | other => other

/-- The text of the file that a path leads to. -/
def read? (files : Files) (path : String) : Option String :=
  match files.entry? path with
  | some (.file text) => some text
  | _ => none

/-- The path of the same file without detours. -/
def resolve (files : Files) (path : String) : String :=
  match files.follow [] (names path) with
  | some place => String.intercalate "/" place
  | none => normalize path

/-- The names in a directory, each with whether it is a directory, too. -/
def list (files : Files) (directory : List String) : List (String × Bool) :=
  (files.filterMap fun file =>
    let names := names file.1
    if names.take directory.length == directory then
      (names[directory.length]?).map fun name =>
        (name, decide (directory.length + 1 < names.length))
    else none).eraseDups

/-! ## §3 Patterns -/

/-- What one part of a pattern stands for. -/
inductive Part where
  | anything
  | one
  | literal (c : Char)
  /-- One character within, or outside, some ranges. -/
  | within (outside : Bool) (ranges : List (Char × Char))
deriving DecidableEq

/-- The characters between brackets, split at the dashes that stand for ranges. Such a dash has at
least some characters in front of it, and a later one at least two, of which the first ends the
range before. A dash at the end stands for itself. Each part takes up a character, so their number
is enough fuel. -/
def splitRanges : Nat → Nat → List Char → List (List Char)
  | 0, _, cs => [cs]
  | fuel + 1, least, cs =>
    let (more, tail) := (cs.drop least).span (· != '-')
    let chunk := cs.take least ++ more
    match tail with
    | [] => [chunk]
    | [_] => [chunk ++ ['-']]
    | _ :: rest => chunk :: splitRanges fuel 2 rest

/-- The parts without ranges that end before they begin: what is left of the two parts around such
a range becomes one part. -/
def dropEmptyRanges : List (List Char) → List (List Char)
  | [] => []
  | chunk :: rest =>
    match dropEmptyRanges rest with
    | [] => [chunk]
    | next :: others =>
      match chunk.getLast?, next with
      | some low, high :: more =>
        if high < low then (chunk.dropLast ++ more) :: others else chunk :: next :: others
      | _, _ => chunk :: next :: others

/-- The ranges in parts: each character by itself, and from the end of a part to the start of the
next. -/
def rangesOf : List (List Char) → List (Char × Char)
  | [] => []
  | chunk :: rest =>
    let single := chunk.map fun c => (c, c)
    match chunk.getLast?, (rest.head?).bind List.head? with
    | some low, some high => single ++ (low, high) :: rangesOf rest
    | _, _ => single ++ rangesOf rest

/-- What characters between brackets stand for. An exclamation mark in front means all others; that
is looked for when the empty ranges are gone. -/
def bracket (cs : List Char) : Part :=
  let least := if cs.head? == some '!' then 2 else 1
  match dropEmptyRanges (splitRanges cs.length least cs) with
  | ('!' :: chunk) :: rest => .within true (rangesOf (chunk :: rest))
  | chunks => .within false (rangesOf chunks)

/-- The characters up to a closing bracket and the rest after it. A bracket right at the start, or
behind an exclamation mark there, is an ordinary character. -/
def splitBracket (cs : List Char) : Option (List Char × List Char) :=
  let first :=
    match cs with
    | '!' :: ']' :: _ => 2
    | ']' :: _ => 1
    | _ => 0
  match (cs.drop first).span (· != ']') with
  | (_, []) => none
  | (inner, _ :: after) => some (cs.take first ++ inner, after)

/-- The parts of a pattern for one name. A bracket that is not closed stands for itself. Each part
takes up a character at least, so the length of the pattern is enough fuel. -/
def parts : Nat → List Char → List Part
  | 0, _ => []
  | _ + 1, [] => []
  | fuel + 1, '*' :: rest => .anything :: parts fuel rest
  | fuel + 1, '?' :: rest => .one :: parts fuel rest
  | fuel + 1, '[' :: rest =>
    match splitBracket rest with
    | some (inner, after) => bracket inner :: parts fuel after
    | none => .literal '[' :: parts fuel rest
  | fuel + 1, c :: rest => .literal c :: parts fuel rest

def matchParts : List Part → List Char → Bool
  | [], name => name.isEmpty
  | .anything :: rest, name =>
    (List.range (name.length + 1)).any fun i => matchParts rest (name.drop i)
  | .one :: rest, name =>
    match name with
    | _ :: name => matchParts rest name
    | [] => false
  | .literal c :: rest, name =>
    match name with
    | d :: name => c == d && matchParts rest name
    | [] => false
  | .within outside ranges :: rest, name =>
    match name with
    | d :: name =>
      (ranges.any fun r => r.1 ≤ d && d ≤ r.2) != outside && matchParts rest name
    | [] => false

def matchName (pattern name : String) : Bool :=
  let pattern := pattern.toList
  let hidden (cs : List Char) : Bool := cs.head? == some '.'
  -- A name that starts with a point is found only by a pattern that does, too.
  (hidden pattern || !hidden name.toList)
    && matchParts (parts (pattern.length + 1) pattern) name.toList

/-! ## §4 Selecting files -/

/-- Whether a pattern is one, and not just a path. -/
def isPattern (path : String) : Bool :=
  path.any fun c => c == '*' || c == '?' || c == '['

/-- The path up to its last slash, without slashes at its end, and the name after it. -/
def splitPath (path : String) : String × String :=
  let reversed := path.toList.reverse
  let name := (reversed.takeWhile (· != '/')).reverse
  let slashed := reversed.dropWhile (· != '/')
  let directory := slashed.dropWhile (· == '/')
  (String.ofList (if directory.isEmpty then slashed else directory.reverse), String.ofList name)

/-- The names in a directory that a pattern matches. -/
def matching (files : Files) (directoriesOnly : Bool) (directory pattern : String) :
    List String :=
  match files.entry? (if directory.isEmpty then "." else directory) with
  | some .directory =>
    let entries := files.list (((files.follow [] (names directory))).getD [])
    (entries.filter fun entry =>
      (entry.2 || !directoriesOnly) && matchName pattern entry.1).map Prod.fst
  | _ => []

/-- A name in a directory, if it is there. The empty name is in every directory. -/
def present (files : Files) (directory name : String) : List String :=
  match files.entry? (join directory name) with
  | some _ => [name]
  | none => []

/-- The paths that a pattern matches, directory by directory. Each directory in the pattern takes up
a character, so the length of the pattern is enough fuel. -/
def matchPaths (files : Files) : Nat → Bool → String → List String
  | 0, _, _ => []
  | fuel + 1, directoriesOnly, pattern =>
    let (directory, name) := splitPath pattern
    if !isPattern pattern then
      if (files.entry? pattern).isSome then [pattern] else []
    else if directory.isEmpty then files.matching directoriesOnly "" name
    else
      let directories :=
        if isPattern directory then matchPaths files fuel true directory else [directory]
      directories.flatMap fun directory =>
        let found :=
          if isPattern name then files.matching directoriesOnly directory name
          else files.present directory name
        found.map (join directory)

/-- The paths that a pattern selects, in order. A path may be found in several ways, and then it is
selected as often. A pattern that starts at the root selects nothing. -/
def glob (files : Files) (pattern : String) : List String :=
  (matchPaths files (pattern.length + 1) false pattern).mergeSort (· ≤ ·)

end Files

end MapFilter
