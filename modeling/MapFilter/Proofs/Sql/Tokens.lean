import MapFilter.Sql.Basic
import MapFilter.Text.Basic

/-!
# Tokens of a condition

A database reads the text of a condition character by character. A name between double quotes goes
on behind a quote that is written twice, and each question mark outside of names takes the next
parameter.

- `tokens?`: the tokens of a text with its parameters, all of which must be taken
- `Spells`: a text that is read as some tokens, whatever stands before it
- `Spells.append`, `Spells.after`: texts one behind the other
-/

namespace MapFilter.Sql

/-! ## §1 Tokens -/

/-- A comparison of two values. -/
inductive Comparison where
  | equal
  | atLeast
  | atMost
deriving DecidableEq

/-- A token of a condition. -/
inductive Token where
  /-- A column name without its quotes. -/
  | name (column : String)
  /-- The parameter in the place of a question mark. -/
  | value (v : Value)
  | number (n : Nat)
  | truth (b : Bool)
  | compares (c : Comparison)
  | opening
  | closing
  | comma
  | conjunct
  | among
  | cast
  | tryCast
  | asType
  | varchar
  | double
  | isFinite
  | caseOf
  | whenTrue
  | thenValue
  | endCase
  | coalesce
  /-- Anything else. -/
  | unknown
deriving DecidableEq

/-- The token that a word is. -/
def Token.ofWord (cs : List Char) : Token :=
  match cs with
  | ['T', 'R', 'U', 'E'] => .truth true
  | ['F', 'A', 'L', 'S', 'E'] => .truth false
  | ['A', 'N', 'D'] => .conjunct
  | ['I', 'N'] => .among
  | ['C', 'A', 'S', 'T'] => .cast
  | ['T', 'R', 'Y', '_', 'C', 'A', 'S', 'T'] => .tryCast
  | ['A', 'S'] => .asType
  | ['V', 'A', 'R', 'C', 'H', 'A', 'R'] => .varchar
  | ['D', 'O', 'U', 'B', 'L', 'E'] => .double
  | ['i', 's', 'f', 'i', 'n', 'i', 't', 'e'] => .isFinite
  | ['C', 'A', 'S', 'E'] => .caseOf
  | ['W', 'H', 'E', 'N'] => .whenTrue
  | ['T', 'H', 'E', 'N'] => .thenValue
  | ['E', 'N', 'D'] => .endCase
  | ['C', 'O', 'A', 'L', 'E', 'S', 'C', 'E'] => .coalesce
  | _ => if cs.all Char.isDigit then .number (Text.digitsValue cs) else .unknown

/-! ## §2 Scanning -/

/-- What was begun and may go on. -/
inductive Mode where
  | between
  | word (cs : List Char)
  /-- A sign that an equals sign may follow. -/
  | sign (c : Char)
  /-- A name between double quotes. -/
  | quoted (cs : List Char)
  /-- A name behind a double quote, which ends the name unless another one follows. -/
  | quote (cs : List Char)

/-- The state of reading a text. -/
structure Scanner where
  /-- The tokens read, the latest first. -/
  tokens : List Token
  mode : Mode
  /-- The parameters for the question marks to come. -/
  params : List Value

namespace Scanner

/-- A token is complete. -/
def put (s : Scanner) (t : Token) : Scanner :=
  { s with tokens := t :: s.tokens, mode := .between }

/-- What was begun ends here. -/
def flush (s : Scanner) : Scanner :=
  match s.mode with
  | .between => s
  | .word cs => s.put (.ofWord cs)
  | .quote cs => s.put (.name (String.ofList cs))
  | .sign _ | .quoted _ => s.put .unknown

/-- A character that begins a token. -/
def start (s : Scanner) (c : Char) : Scanner :=
  match c with
  | ' ' => s
  | '(' => s.put .opening
  | ')' => s.put .closing
  | ',' => s.put .comma
  | '=' => s.put (.compares .equal)
  | '>' | '<' => { s with mode := .sign c }
  | '"' => { s with mode := .quoted [] }
  | '?' =>
    match s.params with
    | v :: rest => { s with params := rest }.put (.value v)
    | [] => s.put .unknown
  | c => { s with mode := .word [c] }

/-- Whether a word may hold a character. -/
def isWordChar (c : Char) : Bool :=
  c.isAlphanum || c == '_'

/-- Reading one character. -/
def step (s : Scanner) (c : Char) : Scanner :=
  match s.mode with
  | .between => s.start c
  | .word cs => if isWordChar c then { s with mode := .word (cs ++ [c]) } else s.flush.start c
  | .sign d =>
    if c = '=' then s.put (.compares (if d = '>' then .atLeast else .atMost))
    else s.flush.start c
  | .quoted cs =>
    if c = '"' then { s with mode := .quote cs } else { s with mode := .quoted (cs ++ [c]) }
  | .quote cs => if c = '"' then { s with mode := .quoted (cs ++ ['"']) } else s.flush.start c

/-- Reading a text. -/
def run (s : Scanner) (cs : List Char) : Scanner :=
  cs.foldl step s

end Scanner

/-- The tokens of a text with its parameters. -/
def tokens? (text : String) (params : List Value) : Option (List Token) :=
  let s := (Scanner.run ⟨[], .between, params⟩ text.toList).flush
  if s.params.isEmpty then some s.tokens.reverse else none

/-! ## §3 Spelling -/

/-- Whether a character ends a word. -/
def isDelimiter (c : Char) : Bool :=
  c == ' ' || c == ')' || c == ','

/-- Whether a delimiter may come next: nothing was begun but possibly a word. -/
def Mode.isPausing : Mode → Bool
  | .between | .word _ => true
  | .sign _ | .quoted _ | .quote _ => false

/-- The characters are read as the tokens, for which they take the parameters. -/
def Spells (cs : List Char) (params : List Value) (ts : List Token) : Prop :=
  ∀ done rest, (Scanner.run ⟨done, .between, params ++ rest⟩ cs).mode.isPausing = true
    ∧ (Scanner.run ⟨done, .between, params ++ rest⟩ cs).flush = ⟨ts.reverse ++ done, .between, rest⟩

namespace Scanner

theorem run_append (s : Scanner) (cs ds : List Char) : s.run (cs ++ ds) = (s.run cs).run ds :=
  List.foldl_append

/-- A delimiter ends a word and is then read on its own. -/
theorem step_delimiter {s : Scanner} (hs : s.mode.isPausing = true) {d : Char}
    (hd : isDelimiter d = true) : s.step d = s.flush.step d := by
  have hword : isWordChar d = false := by
    simp only [isDelimiter, Bool.or_eq_true, beq_iff_eq] at hd
    rcases hd with (rfl | rfl) | rfl <;> rfl
  obtain ⟨tokens, mode, params⟩ := s
  cases mode with
  | between => rfl
  | word cs => simp [step, flush, hword, put]
  | sign c => cases hs
  | quoted cs => cases hs
  | quote cs => cases hs

end Scanner

theorem Spells.of_run {cs : List Char} {params : List Value} {ts : List Token}
    (h : ∀ done rest, Scanner.run ⟨done, .between, params ++ rest⟩ cs =
      ⟨ts.reverse ++ done, .between, rest⟩) : Spells cs params ts := by
  intro done rest
  rw [h done rest]
  exact ⟨rfl, rfl⟩

/-- A text goes on behind a delimiter. -/
theorem Spells.append {cs ds : List Char} {d : Char} {params others : List Value}
    {ts us : List Token} (h : Spells cs params ts) (h' : Spells (d :: ds) others us)
    (hd : isDelimiter d = true) : Spells (cs ++ d :: ds) (params ++ others) (ts ++ us) := by
  intro done rest
  obtain ⟨hpausing, hflush⟩ := h done (others ++ rest)
  -- The delimiter completes what the first text left open.
  have hrun : Scanner.run ⟨done, .between, params ++ others ++ rest⟩ (cs ++ d :: ds) =
      Scanner.run ⟨ts.reverse ++ done, .between, others ++ rest⟩ (d :: ds) := by
    rw [List.append_assoc, Scanner.run_append, ← hflush]
    simp only [Scanner.run, List.foldl_cons] at hpausing ⊢
    rw [Scanner.step_delimiter hpausing hd]
  rw [hrun, List.reverse_append, List.append_assoc]
  exact h' (ts.reverse ++ done) rest

/-- A text goes on behind one that is read completely and takes no parameters. -/
theorem Spells.after {ds : List Char} {params : List Value} {us : List Token}
    (h : Spells ds params us) (cs : List Char) (ts : List Token)
    (hcs : ∀ done rest, Scanner.run ⟨done, .between, rest⟩ cs =
      ⟨ts.reverse ++ done, .between, rest⟩) : Spells (cs ++ ds) params (ts ++ us) := by
  intro done rest
  rw [Scanner.run_append, hcs, List.reverse_append, List.append_assoc]
  exact h (ts.reverse ++ done) rest

theorem Spells.tokens?_eq {text : String} {params : List Value} {ts : List Token}
    (h : Spells text.toList params ts) : tokens? text params = some ts := by
  have hflush := (h [] []).2
  rw [List.append_nil] at hflush
  simp [tokens?, hflush]

/-! ## §4 Names -/

/-- A name is read up to the quote behind it, whatever characters it has. -/
theorem Scanner.run_doubleQuotes (done : List Token) (params : List Value) (cs ds : List Char) :
    Scanner.run ⟨done, .quoted cs, params⟩ (doubleQuotes ds) =
      ⟨done, .quoted (cs ++ ds), params⟩ := by
  induction ds generalizing cs with
  | nil => rw [List.append_nil]; rfl
  | cons c ds ih =>
    have hsplit : cs ++ c :: ds = cs ++ [c] ++ ds := by simp
    by_cases hc : c = '"'
    · -- A quote is written twice: the first one might end the name, the second one goes on.
      subst hc
      rw [hsplit, ← ih]
      rfl
    · rw [hsplit, ← ih]
      simp [doubleQuotes, Scanner.run, Scanner.step, hc]

/-- A name between its quotes may go on, but only with another quote. -/
theorem Scanner.run_identifier (done : List Token) (params : List Value) (name : String) :
    Scanner.run ⟨done, .between, params⟩ (identifier name).toList =
      ⟨done, .quote name.toList, params⟩ := by
  rw [identifier, String.toList_ofList, List.cons_append]
  have hquote : Scanner.run ⟨done, .between, params⟩ ('"' :: (doubleQuotes name.toList ++ ['"'])) =
      Scanner.run ⟨done, .quoted [], params⟩ (doubleQuotes name.toList ++ ['"']) := rfl
  rw [hquote, Scanner.run_append, Scanner.run_doubleQuotes, List.nil_append]
  rfl

/-- A name between quotes is one token if no quote follows. -/
theorem Scanner.run_identifier_append (done : List Token) (params : List Value) (name : String)
    {c : Char} (hc : c ≠ '"') (cs : List Char) :
    Scanner.run ⟨done, .between, params⟩ ((identifier name).toList ++ c :: cs) =
      Scanner.run ⟨.name name :: done, .between, params⟩ (c :: cs) := by
  rw [Scanner.run_append, Scanner.run_identifier]
  simp [Scanner.run, Scanner.step, hc, Scanner.flush, Scanner.put]

end MapFilter.Sql
