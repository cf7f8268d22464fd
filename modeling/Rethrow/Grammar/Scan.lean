/-!
Tokens, and the characters of each kind of token. Every scan walks down the characters once; `count` is the number of
characters passed so far. The signs `<` and `>` are always tokens of their own, since they also open and close lists of
types and markup; where an operator may stand, the longer operators that begin with them are read from the characters.
-/
set_option autoImplicit false

namespace Rethrow.Grammar

inductive Punct where
  | leftBrace | rightBrace | leftParen | rightParen | leftBracket | rightBracket
  | semicolon | comma | dot | ellipsis | question | optionalDot | colon | arrow | at | equals
  | less | greater | bang | tilde | plus | minus | step | star | slash | slashEquals | pipe | ampersand
  | operator
  | assignment
deriving DecidableEq, Repr

inductive Shape where
  | word (text : String)
  | privateName
  | number
  | string
  | template
  | punct (sign : Punct)
  | finish
  | unknown
deriving DecidableEq, Repr

/-- Whether an operand may come next. An HTML comment is one only there; behind an operand it is read as operators. -/
def Shape.awaits : Shape → Bool
  | word text =>
    ["throw", "new", "typeof", "void", "delete", "in", "instanceof", "case", "else", "do", "await"].contains text
  | punct sign => sign ∉ [.rightBrace, .rightParen, .rightBracket, .step, .greater]
  | _ => false

/-- An HTML comment. The grammar counts it among the parts of what it stands in. -/
structure Remark where
  start : Nat
  stop : Nat
deriving DecidableEq, Repr

structure Token where
  shape : Shape
  start : Nat
  stop : Nat
  fresh : Bool
  remarks : List Remark
  source : List Char
deriving Repr

def Token.is (token : Token) (sign : Punct) : Bool := token.shape = .punct sign

def Token.isWord (token : Token) (text : String) : Bool := token.shape = .word text

def Token.isName (token : Token) : Bool :=
  match token.shape with
  | .word _ => true
  | _ => false

def isLineBreak (char : Char) : Bool :=
  char = '\n' || char = '\r' || char.toNat = 0x2028 || char.toNat = 0x2029

def isSpace (char : Char) : Bool :=
  let code := char.toNat
  code = 0x09 || code = 0x0B || code = 0x0C || code = 0x20 || code = 0xA0 || code = 0x1680 ||
    (0x2000 ≤ code && code ≤ 0x200B) || code = 0x202F || code = 0x205F || code = 0x2060 || code = 0x3000 ||
    code = 0xFEFF

/-- Letters, digits, and every character outside ASCII that is no space. -/
def isWordChar (char : Char) : Bool :=
  char.isAlphanum || char = '_' || char = '$' || (0x80 ≤ char.toNat && !isSpace char && !isLineBreak char)

def isWordStart (char : Char) : Bool := (isWordChar char && !char.isDigit) || char = '\\'

structure Gap where
  rest : List Char
  position : Nat
  fresh : Bool
  remarks : List Remark
deriving Repr

/-- What is being skipped. A block comment remembers whether the last character was a star that may close it. -/
inductive Skipping where
  | blanks
  | lineComment
  | blockOpening
  | blockComment (starred : Bool)
  | remark (start : Nat)
deriving DecidableEq, Repr

def opensLineComment : List Char → Bool
  | '/' :: '/' :: _ => true
  | _ => false

def opensBlockComment : List Char → Bool
  | '/' :: '*' :: _ => true
  | _ => false

def opensRemark : List Char → Bool
  | '<' :: '!' :: '-' :: '-' :: _ => true
  | '-' :: '-' :: '>' :: _ => true
  | _ => false

/-- A carriage return alone ends no HTML comment. -/
def isBreak (char : Char) : Bool := char = '\n' || char.toNat = 0x2028 || char.toNat = 0x2029

def skipGap (awaiting : Bool) : Skipping → List Remark → Bool → Nat → List Char → Gap
  | .remark start, remarks, fresh, position, [] => ⟨[], position, fresh, remarks ++ [⟨start, position⟩]⟩
  | _, remarks, fresh, position, [] => ⟨[], position, fresh, remarks⟩
  | .blanks, remarks, fresh, position, char :: rest =>
    if isLineBreak char then skipGap awaiting .blanks remarks true (position + 1) rest
    else if isSpace char then skipGap awaiting .blanks remarks fresh (position + 1) rest
    else if opensLineComment (char :: rest) then skipGap awaiting .lineComment remarks fresh (position + 1) rest
    else if opensBlockComment (char :: rest) then skipGap awaiting .blockOpening remarks fresh (position + 1) rest
    else if awaiting && opensRemark (char :: rest) then
      skipGap awaiting (.remark position) remarks fresh (position + 1) rest
    else ⟨char :: rest, position, fresh, remarks⟩
  | .lineComment, remarks, fresh, position, char :: rest =>
    if isLineBreak char then skipGap awaiting .blanks remarks true (position + 1) rest
    else skipGap awaiting .lineComment remarks fresh (position + 1) rest
  | .blockOpening, remarks, fresh, position, _ :: rest =>
    skipGap awaiting (.blockComment false) remarks fresh (position + 1) rest
  | .blockComment starred, remarks, fresh, position, char :: rest =>
    if starred && char = '/' then skipGap awaiting .blanks remarks fresh (position + 1) rest
    else skipGap awaiting (.blockComment (char = '*')) remarks (fresh || isLineBreak char) (position + 1) rest
  | .remark start, remarks, fresh, position, char :: rest =>
    if isBreak char then skipGap awaiting .blanks (remarks ++ [⟨start, position⟩]) true (position + 1) rest
    else skipGap awaiting (.remark start) remarks fresh (position + 1) rest

def wordSpan : Bool → List Char → List Char × List Char
  | _, [] => ([], [])
  | true, char :: rest =>
    let (word, after) := wordSpan (char ≠ '}') rest
    (char :: word, after)
  | false, '\\' :: 'u' :: '{' :: rest =>
    let (word, after) := wordSpan true rest
    ('\\' :: 'u' :: '{' :: word, after)
  | false, char :: rest =>
    if isWordChar char || char = '\\' then
      let (word, after) := wordSpan false rest
      (char :: word, after)
    else ([], char :: rest)

def markupName (chars : List Char) : List Char := chars.takeWhile fun char => isWordChar char || char = '-'

/-- The rest of a number. `closed` says that no point may follow, `before` is the last character read. -/
def numberSpan (radix : Bool) : Bool → Char → Nat → List Char → Nat
  | _, _, count, [] => count
  | closed, before, count, char :: rest =>
    if char.isAlphanum || char = '_' then
      numberSpan radix (closed || char = 'e' || char = 'E') char (count + 1) rest
    else if char = '.' && !closed && !radix then numberSpan radix true char (count + 1) rest
    else if (char = '+' || char = '-') && !radix && (before = 'e' || before = 'E') then
      numberSpan radix true char (count + 1) rest
    else count

def hasRadix : List Char → Bool
  | '0' :: base :: _ => base.toLower = 'x' || base.toLower = 'o' || base.toLower = 'b'
  | _ => false

def stringSpan (quote : Char) : Nat → List Char → Option Nat
  | _, [] => none
  | count, '\\' :: '\r' :: '\n' :: rest => stringSpan quote (count + 3) rest
  | count, '\\' :: _ :: rest => stringSpan quote (count + 2) rest
  | count, char :: rest =>
    if char = quote then some (count + 1)
    else if char = '\n' || char = '\r' then none
    else stringSpan quote (count + 1) rest

def attributeSpan (quote : Char) : Nat → List Char → Option Nat
  | _, [] => none
  | count, char :: rest => if char = quote then some (count + 1) else attributeSpan quote (count + 1) rest

inductive TemplateEnd where
  | quote
  | substitution
deriving DecidableEq, Repr

def templateSpan : Nat → List Char → Option (TemplateEnd × Nat)
  | _, [] => none
  | count, '\\' :: _ :: rest => templateSpan (count + 2) rest
  | count, '$' :: '{' :: _ => some (.substitution, count + 2)
  | count, char :: rest => if char = '`' then some (.quote, count + 1) else templateSpan (count + 1) rest

/-- The rest of a regular expression after its first stroke, the closing one included. Inside brackets a stroke closes
nothing. -/
def regexSpan : Bool → Nat → List Char → Option Nat
  | _, _, [] => none
  | bracketed, count, '\\' :: _ :: rest => regexSpan bracketed (count + 2) rest
  | bracketed, count, char :: rest =>
    if isLineBreak char then none
    else if char = '/' && !bracketed then some (count + 1)
    else regexSpan ((bracketed || char = '[') && char ≠ ']') (count + 1) rest

def markupTextSpan : Nat → List Char → Nat
  | count, [] => count
  | count, char :: rest => if char = '{' || char = '<' then count else markupTextSpan (count + 1) rest

def punct? : List Char → Option (Punct × Nat)
  | '{' :: _ => some (.leftBrace, 1)
  | '}' :: _ => some (.rightBrace, 1)
  | '(' :: _ => some (.leftParen, 1)
  | ')' :: _ => some (.rightParen, 1)
  | '[' :: _ => some (.leftBracket, 1)
  | ']' :: _ => some (.rightBracket, 1)
  | ';' :: _ => some (.semicolon, 1)
  | ',' :: _ => some (.comma, 1)
  | ':' :: _ => some (.colon, 1)
  | '@' :: _ => some (.at, 1)
  | '~' :: _ => some (.tilde, 1)
  | '<' :: _ => some (.less, 1)
  | '>' :: _ => some (.greater, 1)
  | '.' :: '.' :: '.' :: _ => some (.ellipsis, 3)
  | '.' :: _ => some (.dot, 1)
  | '?' :: '?' :: '=' :: _ => some (.assignment, 3)
  | '?' :: '?' :: _ => some (.operator, 2)
  | '?' :: '.' :: next :: _ => if next.isDigit then some (.question, 1) else some (.optionalDot, 2)
  | '?' :: _ => some (.question, 1)
  | '=' :: '=' :: '=' :: _ => some (.operator, 3)
  | '=' :: '=' :: _ => some (.operator, 2)
  | '=' :: '>' :: _ => some (.arrow, 2)
  | '=' :: _ => some (.equals, 1)
  | '!' :: '=' :: '=' :: _ => some (.operator, 3)
  | '!' :: '=' :: _ => some (.operator, 2)
  | '!' :: _ => some (.bang, 1)
  | '+' :: '+' :: _ => some (.step, 2)
  | '+' :: '=' :: _ => some (.assignment, 2)
  | '+' :: _ => some (.plus, 1)
  | '-' :: '-' :: _ => some (.step, 2)
  | '-' :: '=' :: _ => some (.assignment, 2)
  | '-' :: _ => some (.minus, 1)
  | '*' :: '*' :: '=' :: _ => some (.assignment, 3)
  | '*' :: '*' :: _ => some (.operator, 2)
  | '*' :: '=' :: _ => some (.assignment, 2)
  | '*' :: _ => some (.star, 1)
  | '/' :: '=' :: _ => some (.slashEquals, 2)
  | '/' :: _ => some (.slash, 1)
  | '%' :: '=' :: _ => some (.assignment, 2)
  | '%' :: _ => some (.operator, 1)
  | '&' :: '&' :: '=' :: _ => some (.assignment, 3)
  | '&' :: '&' :: _ => some (.operator, 2)
  | '&' :: '=' :: _ => some (.assignment, 2)
  | '&' :: _ => some (.ampersand, 1)
  | '|' :: '|' :: '=' :: _ => some (.assignment, 3)
  | '|' :: '|' :: _ => some (.operator, 2)
  | '|' :: '=' :: _ => some (.assignment, 2)
  | '|' :: _ => some (.pipe, 1)
  | '^' :: '=' :: _ => some (.assignment, 2)
  | '^' :: _ => some (.operator, 1)
  | _ => none

def angleOperator? : List Char → Option (Bool × Nat)
  | '<' :: '<' :: '=' :: _ => some (true, 3)
  | '<' :: '<' :: _ => some (false, 2)
  | '<' :: '=' :: _ => some (false, 2)
  | '<' :: _ => some (false, 1)
  | '>' :: '>' :: '>' :: '=' :: _ => some (true, 4)
  | '>' :: '>' :: '>' :: _ => some (false, 3)
  | '>' :: '>' :: '=' :: _ => some (true, 3)
  | '>' :: '>' :: _ => some (false, 2)
  | '>' :: '=' :: _ => some (false, 2)
  | '>' :: _ => some (false, 1)
  | _ => none

def number (chars : List Char) (closed : Bool) (first : Char) (rest : List Char) : Shape × Nat :=
  (.number, numberSpan (hasRadix chars) closed first 1 rest)

def shapeOf (chars : List Char) : Shape × Nat :=
  match chars with
  | [] => (.finish, 0)
  | char :: rest =>
    if isWordStart char then
      let (word, _) := wordSpan false chars
      (.word (String.ofList word), word.length)
    else if char.isDigit then number chars false char rest
    else if char = '"' || char = '\'' then
      match stringSpan char 1 rest with
      | some width => (.string, width)
      | none => (.unknown, 1)
    else if char = '`' then (.template, 1)
    else if char = '#' then (.privateName, (wordSpan false rest).1.length + 1)
    else if char = '.' && (rest.head?.map Char.isDigit).getD false then number chars true char rest
    else match punct? chars with
      | some (sign, width) => (.punct sign, width)
      | none => (.unknown, 1)

end Rethrow.Grammar
