import CycledWorkflow.Toml.Scalar
/-!
# Reading TOML documents

A TOML document is read line by line: blank lines and comments, table headers `[a.b]`,
array-of-tables headers `[[a.b]]`, and key/value pairs `a.b = value`, each pair put into the
table of the last header. Values are strings (basic `"…"` with escapes, literal `'…'`, and
their multi-line forms `"""…"""` and `'''…'''`), bare scalars, arrays `[…]` and inline
tables `{…}`; both of the latter may run over several lines, with comments and a trailing
comma, and inside an inline table line ends and comments may stand between any two tokens.
Multi-line strings keep their line ends as written, a carriage return included. Besides the
usual escapes, `\e` is the escape character and `\xHH` the point of two hexadecimal digits.

Control characters other than tab are refused in strings and comments; a line ends with a
line feed, a carriage return and line feed, or the end of the text.

Readers return the rest of the input. Those that nest or loop take a fuel bounded by twice
the input's length, enough since every two nested steps consume a character.
-/

namespace CycledWorkflow.Toml

/-- Dropping spaces and tabs. -/
def skipBlank (cs : List Char) : List Char := cs.dropWhile fun c => c == ' ' || c == '\t'

/-- Whether a character may stand in a comment. -/
def isCommentChar (c : Char) : Bool := c == '\t' || (0x20 ≤ c.toNat && c.toNat != 0x7F)

/-- Dropping blanks, line ends and comments, as between the items of an array; `inComment`
tells whether a comment is running. -/
def skipVoid (inComment : Bool) : List Char → Except String (List Char)
  | [] => pure []
  | c :: r =>
    if c == '\n' then skipVoid false r
    else if c == '\r' then
      if r.head? == some '\n' then skipVoid inComment r else .error "lone carriage return"
    else if inComment then
      if isCommentChar c then skipVoid true r else .error "control character in a comment"
    else if c == ' ' || c == '\t' then skipVoid false r
    else if c == '#' then skipVoid true r
    else pure (c :: r)

/-- Dropping a comment up to its line end. -/
def skipComment : List Char → Except String (List Char)
  | '#' :: rest =>
    let body := rest.takeWhile fun c => c != '\n' && c != '\r'
    if body.all isCommentChar then pure (rest.drop body.length)
    else .error "control character in a comment"
  | cs => pure cs

/-- The end of a line. -/
def lineEnd : List Char → Except String (List Char)
  | [] => pure []
  | '\n' :: rest => pure rest
  | '\r' :: '\n' :: rest => pure rest
  | _ => .error "expected the end of the line"

/-- The rest of a line after an expression: blanks, a comment and the line end. -/
def finishLine (cs : List Char) : Except String (List Char) := do
  lineEnd (← skipComment (skipBlank cs))

/-- The value of exactly `n` hexadecimal digits at the front. -/
def hexValue (n : Nat) (cs : List Char) : Option Nat :=
  let ds := cs.take n
  if ds.length == n then ds.foldlM (fun v c => (digitIn 16 c).map (v * 16 + ·)) 0 else none

/-- The character of an escape, after its backslash. -/
def escape (cs : List Char) : Except String (Char × List Char) :=
  let unicode := fun (n : Nat) (rest : List Char) =>
    match hexValue n rest with
    | some v =>
      if v < 0xD800 ∨ (0xE000 ≤ v ∧ v ≤ 0x10FFFF) then .ok (Char.ofNat v, rest.drop n)
      else .error "escape is not a Unicode scalar value"
    | none => .error "bad Unicode escape"
  match cs with
  | 'b' :: r => .ok ('\x08', r)
  | 't' :: r => .ok ('\t', r)
  | 'n' :: r => .ok ('\n', r)
  | 'f' :: r => .ok ('\x0c', r)
  | 'r' :: r => .ok ('\r', r)
  | 'e' :: r => .ok ('\x1b', r)
  | '"' :: r => .ok ('"', r)
  | '\\' :: r => .ok ('\\', r)
  | 'x' :: r => unicode 2 r
  | 'u' :: r => unicode 4 r
  | 'U' :: r => unicode 8 r
  | _ => .error "bad escape"

/-- Whether a character may stand unescaped in a basic string. -/
def isBasicChar (c : Char) : Bool :=
  c == '\t' || (0x20 ≤ c.toNat && c != '"' && c != '\\' && c.toNat != 0x7F)

/-- Whether a character may stand in a literal string. -/
def isLiteralChar (c : Char) : Bool :=
  c == '\t' || (0x20 ≤ c.toNat && c != '\'' && c.toNat != 0x7F)

/-- The body of a one-line basic string, after its opening quote. -/
def basicString : Nat → List Char → List Char → Except String (String × List Char)
  | 0, _, _ => .error "string too long"
  | _ + 1, _, [] => .error "unterminated string"
  | fuel + 1, acc, c :: rest =>
    if c == '"' then .ok (String.ofList acc.reverse, rest)
    else if c == '\\' then do
      let (e, r) ← escape rest
      basicString fuel (e :: acc) r
    else if isBasicChar c then basicString fuel (c :: acc) rest
    else .error "control character in a string"

/-- The body of a one-line literal string, after its opening quote. -/
def literalString (cs : List Char) : Except String (String × List Char) :=
  let body := cs.takeWhile isLiteralChar
  match cs.drop body.length with
  | '\'' :: rest => .ok (String.ofList body, rest)
  | _ => .error "unterminated literal string"

/-- Dropping a line end right after the opening delimiter of a multi-line string. -/
def dropFirstLineEnd : List Char → List Char
  | '\n' :: rest => rest
  | '\r' :: '\n' :: rest => rest
  | cs => cs

/-- The number of times a character repeats at the front. -/
def runLength (q : Char) (cs : List Char) : Nat := (cs.takeWhile (· == q)).length

/-- Dropping the blanks and line ends that follow a line-ending backslash; a carriage return
must start a line end. -/
def skipLineBreaks : List Char → Except String (List Char)
  | ' ' :: rest | '\t' :: rest | '\n' :: rest | '\r' :: '\n' :: rest => skipLineBreaks rest
  | '\r' :: _ => .error "lone carriage return"
  | cs => pure cs

/-- The body of a multi-line basic string, after `"""`. Line ends are kept as written. -/
def multiBasic : Nat → List Char → List Char → Except String (String × List Char)
  | 0, _, _ => .error "string too long"
  | _ + 1, _, [] => .error "unterminated string"
  | fuel + 1, acc, c :: rest =>
    if c == '"' then
      let n := runLength '"' (c :: rest)
      if n < 3 then multiBasic fuel (c :: acc) rest
      else if n ≤ 5 then
        .ok (String.ofList (acc.reverse ++ List.replicate (n - 3) '"'), (c :: rest).drop n)
      else .error "too many quotes"
    else if c == '\\' then
      let afterBlank := skipBlank rest
      match afterBlank with
      | '\n' :: _ | '\r' :: '\n' :: _ => do
        multiBasic fuel acc (← skipLineBreaks afterBlank)
      | _ => do
        let (e, r) ← escape rest
        multiBasic fuel (e :: acc) r
    else if c == '\n' then multiBasic fuel ('\n' :: acc) rest
    else if c == '\r' then
      match rest with
      | '\n' :: r => multiBasic fuel ('\n' :: '\r' :: acc) r
      | _ => .error "lone carriage return"
    else if isBasicChar c then multiBasic fuel (c :: acc) rest
    else .error "control character in a string"

/-- The body of a multi-line literal string, after `'''`. Line ends are kept as written. -/
def multiLiteral : Nat → List Char → List Char → Except String (String × List Char)
  | 0, _, _ => .error "string too long"
  | _ + 1, _, [] => .error "unterminated string"
  | fuel + 1, acc, c :: rest =>
    if c == '\'' then
      let n := runLength '\'' (c :: rest)
      if n < 3 then multiLiteral fuel (c :: acc) rest
      else if n ≤ 5 then
        .ok (String.ofList (acc.reverse ++ List.replicate (n - 3) '\''), (c :: rest).drop n)
      else .error "too many quotes"
    else if c == '\n' then multiLiteral fuel ('\n' :: acc) rest
    else if c == '\r' then
      match rest with
      | '\n' :: r => multiLiteral fuel ('\n' :: '\r' :: acc) r
      | _ => .error "lone carriage return"
    else if isLiteralChar c then multiLiteral fuel (c :: acc) rest
    else .error "control character in a string"

/-- Whether a character may stand in a bare key. -/
def isBareKeyChar (c : Char) : Bool := c.isAlphanum || c == '_' || c == '-'

/-- One part of a key: bare, quoted or literal. -/
def simpleKey (cs : List Char) : Except String (String × List Char) :=
  match cs with
  | '"' :: rest => basicString (rest.length + 1) [] rest
  | '\'' :: rest => literalString rest
  | _ =>
    let bare := cs.takeWhile isBareKeyChar
    if bare.isEmpty then .error "expected a key" else .ok (String.ofList bare, cs.drop bare.length)

/-- Dropping what may stand between two tokens: blanks, and inside an inline table also line
ends and comments. -/
def skipSpace (inline : Bool) (cs : List Char) : Except String (List Char) :=
  if inline then skipVoid false cs else pure (skipBlank cs)

/-- A key, its parts joined by dots; the rest starts after its last part. -/
def key (inline : Bool) : Nat → List Char → Except String (List String × List Char)
  | 0, _ => .error "key too long"
  | fuel + 1, cs => do
    let (k, rest) ← simpleKey cs
    match ← skipSpace inline rest with
    | '.' :: more => do
      let (ks, r) ← key inline fuel (← skipSpace inline more)
      return (k :: ks, r)
    | _ => return ([k], rest)

/-- A bare scalar at the front, a date and a time joined by a space read as one. -/
def bareScalar (cs : List Char) : Except String (Value × List Char) :=
  let token := cs.takeWhile isScalarChar
  let rest := cs.drop token.length
  let (token, rest) :=
    match rest with
    | ' ' :: h1 :: h2 :: ':' :: _ =>
      if isDate token && h1.isDigit && h2.isDigit then
        let time := rest.tail.takeWhile isScalarChar
        (token ++ 'T' :: time, rest.tail.drop time.length)
      else (token, rest)
    | _ => (token, rest)
  match scalar token with
  | some v => .ok (v, rest)
  | none => .error ("bad value " ++ String.ofList token)

mutual
/-- A value at the front. -/
def value : Nat → List Char → Except String (Value × List Char)
  | 0, _ => .error "value nested too deeply"
  | fuel + 1, cs =>
    match cs with
    | '"' :: '"' :: '"' :: rest => do
      let (s, r) ← multiBasic (rest.length + 1) [] (dropFirstLineEnd rest)
      return (.string s, r)
    | '"' :: rest => do
      let (s, r) ← basicString (rest.length + 1) [] rest
      return (.string s, r)
    | '\'' :: '\'' :: '\'' :: rest => do
      let (s, r) ← multiLiteral (rest.length + 1) [] (dropFirstLineEnd rest)
      return (.string s, r)
    | '\'' :: rest => do
      let (s, r) ← literalString rest
      return (.string s, r)
    | '[' :: rest => arrayItems fuel [] rest
    | '{' :: rest => do
      match ← skipVoid false rest with
      | '}' :: r => .ok (.table [], r)
      | r => inlineEntries fuel [] r
    | _ => bareScalar cs

/-- The items of an array, after its opening bracket and the items read so far. -/
def arrayItems : Nat → List Value → List Char → Except String (Value × List Char)
  | 0, _, _ => .error "array too long"
  | fuel + 1, acc, cs => do
    match ← skipVoid false cs with
    | ']' :: rest => return (.array acc.reverse, rest)
    | cs => do
      let (v, r) ← value fuel cs
      match ← skipVoid false r with
      | ',' :: more => arrayItems fuel (v :: acc) more
      | ']' :: more => return (.array (v :: acc).reverse, more)
      | _ => .error "expected a comma or the end of the array"

/-- The pairs of an inline table, after its opening brace and the pairs read so far. -/
def inlineEntries : Nat → Entries → List Char → Except String (Value × List Char)
  | 0, _, _ => .error "inline table too long"
  | fuel + 1, es, cs => do
    let (ks, r) ← key true (cs.length + 1) cs
    match ← skipVoid false r with
    | '=' :: r => do
      let (v, r) ← value fuel (← skipVoid false r)
      let es ← insertDotted v ks es
      match ← skipVoid false r with
      | ',' :: more =>
        match ← skipVoid false more with
        | '}' :: r => return (.table (freezeEntries es), r)
        | more => inlineEntries fuel es more
      | '}' :: more => return (.table (freezeEntries es), more)
      | _ => .error "expected a comma or the end of the inline table"
    | _ => .error "expected ="
end

/-- The state of reading a document: the tree so far and the path of the last header. -/
structure Reading where
  /-- The top-level table. -/
  root : Entries
  /-- The path of the table that pairs go into. -/
  current : List String

/-- Splitting a key into the path before its last part and its last part. -/
def splitLast (ks : List String) : List String × String := (ks.dropLast, ks.getLastD "")

/-- Reading the lines of a document from a state. -/
def lines : Nat → Reading → List Char → Except String Entries
  | 0, _, _ => .error "document too long"
  | fuel + 1, st, cs =>
    let cs := skipBlank cs
    match cs with
    | [] => .ok st.root
    | '#' :: _ | '\n' :: _ | '\r' :: _ => do lines fuel st (← finishLine cs)
    | '[' :: '[' :: rest => do
      let (ks, r) ← key false (rest.length + 1) (skipBlank rest)
      match skipBlank r with
      | ']' :: ']' :: r => do
        let (path, last) := splitLast ks
        let root ← descend (defineItem last) path st.root
        lines fuel ⟨root, ks⟩ (← finishLine r)
      | _ => .error "expected ]]"
    | '[' :: rest => do
      let (ks, r) ← key false (rest.length + 1) (skipBlank rest)
      match skipBlank r with
      | ']' :: r => do
        let (path, last) := splitLast ks
        let root ← descend (defineTable last) path st.root
        lines fuel ⟨root, ks⟩ (← finishLine r)
      | _ => .error "expected ]"
    | _ => do
      let (ks, r) ← key false (cs.length + 1) cs
      match skipBlank r with
      | '=' :: r => do
        let r := skipBlank r
        let (v, r) ← value (2 * r.length + 2) r
        let root ← descend (insertDotted v ks) st.current st.root
        lines fuel { st with root } (← finishLine r)
      | _ => .error "expected ="

/-- The top-level table of a TOML text. -/
def parse (text : String) : Except String Entries :=
  let cs := match text.toList with
    | '\uFEFF' :: rest => rest
    | cs => cs
  lines (cs.length + 1) ⟨[], []⟩ cs

end CycledWorkflow.Toml
