import MapFilter.Text.Basic
import MapFilter.Text.Encoding
import MapFilter.Value.Basic
import MapFilter.Value.Json

/-!
# Requests

What the service is asked over the web: a method, a target, and a body that may hold selections.

A target is a path, and perhaps a query behind a question mark. Control characters and blanks in
front of a target do not count, and neither do line breaks and tabs anywhere. A scheme and a host may
stand in front of the path, and a fragment behind all; they are passed over.

Every path that is known asks for one thing, with one method; reading methods also allow asking for
the head alone, and every path allows asking for its options. Repeated slashes in a path are sent
back to the path with single ones.

- `Target.ofText`: the path and the query of a target
- `Request.destination`: what a request asks for, or why nothing
- `Request.isImmediate`: whether the query asks for an edit to be applied at once
- `Request.payload`: the value in the body, an empty object if there is none
-/

namespace MapFilter

/-- The parts of a target that count. -/
structure Target where
  path : List Char
  query : List Char
deriving DecidableEq

namespace Target

/-! ## §1 What is passed over -/

/-- A character that may not stand in front of a target. -/
def isLeading (c : Char) : Bool :=
  c.toNat ≤ 0x20

/-- A character that counts nowhere in a target. -/
def isIgnored (c : Char) : Bool :=
  c == '\t' || c == '\n' || c == '\r'

/-- A character of a scheme. -/
def isSchemeChar (c : Char) : Bool :=
  c.isAlphanum || c == '+' || c == '-' || c == '.'

/-- The rest after a scheme: a letter, further characters, and a colon. -/
def dropScheme (cs : List Char) : List Char :=
  match cs.dropWhile isSchemeChar with
  | ':' :: rest => if cs.head?.any Char.isAlpha then rest else cs
  | _ => cs

/-- The rest after a host, which two slashes announce. -/
def dropHost (cs : List Char) : List Char :=
  match cs with
  | '/' :: '/' :: rest => rest.dropWhile fun c => c != '/' && c != '?' && c != '#'
  | _ => cs

/-! ## §2 Parts -/

/-- The parts of a text, after the scheme and the host that stand in front. -/
def split (cs : List Char) : Target :=
  let plain := (cs.dropWhile isLeading).filter fun c => !isIgnored c
  let text := (dropHost (dropScheme plain)).takeWhile (· != '#')
  { path := text.takeWhile (· != '?'), query := (text.dropWhile (· != '?')).drop 1 }

/-- The parts as one text again. -/
def join (t : Target) : List Char :=
  if t.query.isEmpty then t.path else t.path ++ '?' :: t.query

/-- The parts of a target. A second scheme and a second host are passed over as well. -/
def ofText (text : String) : Target :=
  split (split text.toList).join

end Target

/-- A request as it arrives. -/
structure Request where
  method : String
  target : String
  contentType : String := "application/json"
  body : String := ""
deriving DecidableEq

/-! ## §3 Percent escapes -/

/-- The text with its percent escapes replaced, one character for each. Only ASCII is ever compared
with the result, so an escape beyond ASCII may stand for any character beyond it. -/
def decodePercent : List Char → List Char
  | [] => []
  | '%' :: a :: b :: rest =>
    match Value.Json.hexValue? a, Value.Json.hexValue? b with
    | some high, some low => Char.ofNat (high * 16 + low) :: decodePercent rest
    | _, _ => '%' :: decodePercent (a :: b :: rest)
  | c :: rest => c :: decodePercent rest

/-- The text of a query part, where a plus sign stands for a space. -/
def decodeQueryPart (cs : List Char) : String :=
  String.ofList (decodePercent (cs.map fun c => if c == '+' then ' ' else c))

/-! ## §4 Routes -/

/-- What can be asked for. -/
inductive Route where
  | compile
  | apply
  | clear
  | summary
  | reload
  | health
  | style
  /-- A file of the page. There are none. -/
  | asset
deriving DecidableEq

def Route.ofPath? (path : String) : Option Route :=
  match path with
  | "/filters/compile" => some .compile
  | "/filters/apply" => some .apply
  | "/filters/clear" => some .clear
  | "/filters/summary" => some .summary
  | "/source/reload" => some .reload
  | "/health" => some .health
  | "/style.json" => some .style
  | _ =>
    let file := path.toList.drop "/static/".length
    if path.startsWith "/static/" && !file.isEmpty && file.head? != some '/' then some .asset
    else none

/-- Whether a route only reads. -/
def Route.isReading : Route → Bool
  | .health | .style | .asset => true
  | .compile | .apply | .clear | .summary | .reload => false

/-- How a method asks for a route. -/
inductive Access where
  /-- For its answer. -/
  | full
  /-- For its answer without the body. -/
  | head
  /-- For what may be asked. -/
  | options
  | refused
deriving DecidableEq

/-- How a method asks for a route. The case of the method is ignored. -/
def Route.access (route : Route) (method : String) : Access :=
  match String.ofList (Text.lowerAscii method.toList) with
  | "options" => .options
  | "get" => if route.isReading then .full else .refused
  | "head" => if route.isReading then .head else .refused
  | "post" => if route.isReading then .refused else .full
  | _ => .refused

/-- Slashes of a path, two made one. -/
def mergeSlashes : List Char → List Char
  | '/' :: '/' :: rest => '/' :: mergeSlashes rest
  | c :: rest => c :: mergeSlashes rest
  | [] => []

/-- Where a request leads. -/
inductive Destination where
  | route (r : Route) (access : Access)
  /-- The path is known, with fewer slashes. -/
  | moved
  | unknown
deriving DecidableEq

namespace Request

def parts (request : Request) : Target :=
  .ofText request.target

def path (request : Request) : String :=
  String.ofList ('/' :: (decodePercent request.parts.path).dropWhile (· == '/'))

def destination (request : Request) : Destination :=
  match Route.ofPath? request.path with
  | some route => .route route (route.access request.method)
  | none =>
    match Route.ofPath? (String.ofList (mergeSlashes request.path.toList)) with
    | some route =>
      match route.access request.method with
      | .refused => .route route .refused
      | .full | .head | .options => .moved
    | none => .unknown

/-! ## §5 Queries -/

/-- The parts of a query, a part being a name and a text. A part without an equals sign is a name
with an empty text. -/
def query (request : Request) : List (String × String) :=
  let text := String.ofList request.parts.query
  ((text.splitOn "&").filter fun part => !part.isEmpty).map fun part =>
    (decodeQueryPart (part.toList.takeWhile (· != '=')),
      decodeQueryPart ((part.toList.dropWhile (· != '=')).drop 1))

/-- The words that say yes. -/
def isYes (word : String) : Bool :=
  ["1", "true", "yes"].contains (Text.lower word)

/-- Whether the edit is to be applied at once. The first answer of the query counts. -/
def isImmediate (request : Request) : Bool :=
  (request.query.lookup "immediate").any isYes

/-! ## §6 Bodies -/

/-- The kind of content, without its parameters. -/
def mediaType (request : Request) : String :=
  let kind := request.contentType.toList.takeWhile (· != ';')
  String.ofList (Text.lowerAscii (Text.stripChars Text.isBlank kind))

def isJson (request : Request) : Bool :=
  let kind := request.mediaType
  kind == "application/json" || (kind.startsWith "application/" && kind.endsWith "+json")

/-- The value in the body, if it is a JSON text that can be read. -/
def json? (request : Request) : Option Value :=
  if request.isJson then
    (Text.decodeBody? request.body).bind (Value.readJson? (some Number.integerDigits))
  else none

/-- The value in the body. A value that counts as absent, and a body that cannot be read, are an
empty object. -/
def payload (request : Request) : Value :=
  match request.json? with
  | some v => if v.isTruthy then v else .object []
  | none => .object []

end Request

end MapFilter
