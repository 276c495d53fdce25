import MapFilter.Text.Basic

/-!
# Environment files

Variables may come with the program, in a file of bindings `NAME=value`, one per line. A value may
stand between quotes, where it may run over several lines and use escapes; otherwise it ends at a
blank before a number sign, or at the end of the line. Lines that are no binding are passed over.

A value may refer to other variables: `${NAME}` is the value of `NAME`, and a text after `:-`
is taken where there is none.

- `EnvFile.bindings`: the bindings of a file as they are written
- `EnvFile.values`: the bindings with all references resolved
- `Environment.extend?`: an environment with the variables of a file, its own ones first
-/

namespace MapFilter

/-- The names and texts of the variables that a program is started with. -/
abbrev Environment := List (String × String)

namespace EnvFile

open MapFilter.Text

/-! ## §1 Lines and quotes -/

/-- The text with every line break a single newline. -/
def joinLineBreaks : List Char → List Char
  | '\r' :: '\n' :: rest => '\n' :: joinLineBreaks rest
  | '\r' :: rest => '\n' :: joinLineBreaks rest
  | c :: rest => c :: joinLineBreaks rest
  | [] => []

/-- A blank within a line. -/
def isInlineBlank (c : Char) : Bool :=
  isBlank c && c != '\n'

/-- The rest of the text from the end of the line. -/
def skipLine (cs : List Char) : List Char :=
  cs.dropWhile (· != '\n')

/-- The characters up to the closing quote, and the rest after it. A backslash and the character
behind it stand together, so a quote behind a backslash does not close; they must stand on one
line. -/
def splitQuoted (quote : Char) : List Char → Option (List Char × List Char)
  | [] => none
  | ['\\'] => none
  | '\\' :: c :: rest =>
    if c == '\n' then none
    else (splitQuoted quote rest).map fun (body, after) => ('\\' :: c :: body, after)
  | c :: rest =>
    if c == quote then some ([], rest)
    else (splitQuoted quote rest).map fun (body, after) => (c :: body, after)

/-- The text with its escapes replaced; a backslash before any other character stays. -/
def unescape (escape? : Char → Option Char) : List Char → List Char
  | [] => []
  | '\\' :: c :: rest =>
    match escape? c with
    | some d => d :: unescape escape? rest
    | none => '\\' :: unescape escape? (c :: rest)
  | c :: rest => c :: unescape escape? rest

/-- What a backslash and a character stand for between single quotes. -/
def singleQuoteEscape? (c : Char) : Option Char :=
  if c == '\\' || c == '\'' then some c else none

/-- What a backslash and a character stand for between double quotes. -/
def doubleQuoteEscape? : Char → Option Char
  | 'a' => some (Char.ofNat 7)
  | 'b' => some (Char.ofNat 8)
  | 't' => some '\t'
  | 'n' => some '\n'
  | 'v' => some (Char.ofNat 11)
  | 'f' => some (Char.ofNat 12)
  | 'r' => some '\r'
  | c => if c == '\\' || c == '\'' || c == '"' then some c else none

/-! ## §2 Bindings -/

/-- The text before the first run of blanks that a number sign follows. -/
def dropComment : List Char → List Char
  | [] => []
  | c :: rest =>
    if isBlank c && (rest.dropWhile isBlank).head? == some '#' then []
    else c :: dropComment rest

/-- The value at the start of the text, and the rest; `none` if a quote is not closed. -/
def value? (cs : List Char) : Option (List Char × List Char) :=
  match cs with
  | '\'' :: rest =>
    (splitQuoted '\'' rest).map fun (body, after) => (unescape singleQuoteEscape? body, after)
  | '"' :: rest =>
    (splitQuoted '"' rest).map fun (body, after) => (unescape doubleQuoteEscape? body, after)
  | _ =>
    some (dropEndWhile isBlank (dropComment (cs.takeWhile (· != '\n'))), skipLine cs)

/-- The name at the start of the text, and the rest; `none` if there is none. -/
def name? (cs : List Char) : Option (List Char × List Char) :=
  let unquoted (c : Char) : Bool := c != '=' && c != '#' && !isBlank c
  match cs with
  | '\'' :: rest =>
    match rest.takeWhile (· != '\''), rest.dropWhile (· != '\'') with
    | c :: name, _ :: after => some (c :: name, after)
    | _, _ => none
  | _ =>
    match cs.takeWhile unquoted with
    | [] => none
    | name => some (name, cs.dropWhile unquoted)

/-- The text without a leading word `export` and the blanks after it. -/
def skipExport : List Char → List Char
  | 'e' :: 'x' :: 'p' :: 'o' :: 'r' :: 't' :: c :: rest =>
    if isInlineBlank c then rest.dropWhile isInlineBlank
    else 'e' :: 'x' :: 'p' :: 'o' :: 'r' :: 't' :: c :: rest
  | cs => cs

/-- The rest after blanks and a comment, if the line ends there. -/
def lineEnd? (cs : List Char) : Option (List Char) :=
  let rest :=
    match cs.dropWhile isInlineBlank with
    | '#' :: comment => skipLine comment
    | rest => rest
  match rest with
  | [] => some []
  | '\n' :: rest => some rest
  | _ => none

/-- A variable and its value as they are written; a name alone has none. -/
structure Binding where
  name : String
  value : Option String
deriving DecidableEq

/-- What the equals sign and the value after a name give, and the rest. -/
def assigned? (cs : List Char) : Option (Option (List Char)) × List Char :=
  match cs with
  | '=' :: rest =>
    let rest := rest.dropWhile isInlineBlank
    match value? rest with
    | some (value, rest) => (some (some value), rest)
    | none => (none, rest)
  | _ => (some none, cs)

/-- The binding at the start of a text that does not start with a blank, and the rest after its
line. -/
def binding? (cs : List Char) : Option Binding × List Char :=
  let cs := skipExport cs
  let finish (binding : Option Binding) (cs : List Char) : Option Binding × List Char :=
    match lineEnd? cs with
    | some rest => (binding, rest)
    | none => (none, skipLine cs)
  match cs with
  | '#' :: _ => finish none cs
  | _ =>
    match name? cs with
    | none => (none, skipLine cs)
    | some (name, rest) =>
      match assigned? (rest.dropWhile isInlineBlank) with
      | (none, rest) => (none, skipLine rest)
      -- Only a comment may stand behind the value.
      | (some value, rest) => finish (some ⟨String.ofList name, value.map String.ofList⟩) rest

/-- The bindings of a text, line by line. Every step takes up a character, so the length of the
text is enough fuel. -/
def bindingsFrom : Nat → List Char → List Binding
  | 0, _ => []
  | fuel + 1, cs =>
    match cs.dropWhile isBlank with
    | [] => []
    | cs =>
      let (binding, rest) := binding? cs
      binding.toList ++ bindingsFrom fuel rest

/-- The bindings of a file. -/
def bindings (text : String) : List Binding :=
  let cs := joinLineBreaks text.toList
  bindingsFrom (cs.length + 1) cs

/-! ## §3 References -/

/-- The name and the default of a reference whose opening brace has been read, and the rest. -/
def reference? (cs : List Char) : Option (List Char × List Char × List Char) :=
  let inName (c : Char) : Bool := c != '\x7d' && c != ':'
  let name := cs.takeWhile inName
  match cs.dropWhile inName with
  | '\x7d' :: rest => some (name, [], rest)
  | ':' :: '-' :: more =>
    match more.dropWhile (· != '\x7d') with
    | _ :: rest => some (name, more.takeWhile (· != '\x7d'), rest)
    | [] => none
  | _ => none

/-- The text with its references replaced by what `value` gives for a name and a default. Every
step takes up a character, so the length of the text is enough fuel. -/
def expand (value : String → String → String) : Nat → List Char → List Char
  | 0, _ => []
  | _ + 1, [] => []
  | fuel + 1, '$' :: '\x7b' :: rest =>
    match reference? rest with
    | some (name, default, rest) =>
      (value (String.ofList name) (String.ofList default)).toList ++ expand value fuel rest
    | none => '$' :: expand value fuel ('\x7b' :: rest)
  | fuel + 1, c :: rest => c :: expand value fuel rest

/-- The value of a variable: from the environment, else from the bindings before, where the last
one of a name counts and a name alone is empty. -/
def lookUp (env : Environment) (known : List Binding) (name default : String) : String :=
  match env.lookup name with
  | some text => text
  | none =>
    match known.reverse.find? (·.name == name) with
    | some binding => binding.value.getD ""
    | none => default

/-- The bindings with all references resolved, in the order of the file. -/
def values (env : Environment) (bindings : List Binding) : List Binding :=
  bindings.foldl (fun known binding =>
    let resolve (text : String) : String :=
      String.ofList (expand (lookUp env known) (text.length + 1) text.toList)
    known ++ [{ binding with value := binding.value.map resolve }]) []

end EnvFile

namespace Environment

/-! ## §4 Extending an environment -/

/-- Whether a variable can be set: the name holds no equals sign, and neither holds the character
that ends a text in the environment. -/
def canHold (name text : String) : Bool :=
  !name.contains '=' && !name.contains '\x00' && !text.contains '\x00'

/-- The environment with a variable of a file. A variable that it has already stays. -/
def extendBy (env : Environment) (binding : EnvFile.Binding) : Option Environment :=
  match env.lookup binding.name, binding.value with
  | none, some text =>
    if canHold binding.name text then some (env ++ [(binding.name, text)]) else none
  | _, _ => some env

/-- The environment with the variables of a file; of several bindings of a name the last one
counts. `none` if a variable cannot be set. -/
def extend? (env : Environment) (file : String) : Option Environment :=
  let values := EnvFile.values env (EnvFile.bindings file)
  let names := (values.map (·.name)).eraseDups
  let last := names.filterMap fun name => values.reverse.find? (·.name == name)
  last.foldlM extendBy env

end Environment

end MapFilter
