import DocblockSync.Text.Bytes

/-! Tokens of PHP source. The text outside `<?php … ?>` is one token for each stretch; inside, blanks
and comments are passed over. A string, a heredoc or a shell command is one token, whatever it
holds. -/

namespace DocblockSync.Php

open Text

inductive TokenKind where
  /-- Text outside the tags. -/
  | html
  | openTag
  /-- The opening tag that also prints. -/
  | echoTag
  | closeTag
  /-- A dollar sign and a name. -/
  | variable
  /-- A name, qualified or not, or a keyword. -/
  | name
  | int
  | float
  /-- A string without interpolation. -/
  | string
  /-- An interpolated string, a heredoc or a shell command. -/
  | template
  | symbol
  deriving Repr, DecidableEq

structure Token where
  kind : TokenKind
  text : Text
  start : Nat
  deriving Repr, DecidableEq

def Token.stop (token : Token) : Nat := token.start + byteLength token.text

/-- The characters that start a name; all beyond ASCII do. -/
def isNameStart (c : Char) : Bool := c.isAlpha || c == '_' || 0x80 ≤ c.toNat

def isNamePart (c : Char) : Bool := isNameStart c || c.isDigit

/-- A lexeme: what kind of token it is, if it is one at all, and its length in characters. -/
abbrev Lexeme := Option TokenKind × Nat

def lineCommentLength : Text → Nat
  | [] => 0
  | '\n' :: _ => 0
  | '?' :: '>' :: _ => 0
  | _ :: t => 1 + lineCommentLength t

def blockCommentLength : Text → Nat
  | [] => 0
  | '*' :: '/' :: _ => 2
  | _ :: t => 1 + blockCommentLength t

inductive Enclosure where
  /-- A string that code may be interpolated into, up to its quote. -/
  | interpolating (quote : Char)
  /-- A plain string inside interpolated code. -/
  | plain
  /-- Interpolated code up to its closing brace. -/
  | code
  deriving Repr, DecidableEq

def apostrophe : Char := Char.ofNat 0x27

def grave : Char := Char.ofNat 0x60

/-- The length of the rest of a string, its closing quote included. The stack holds what encloses the
next character, innermost first. -/
def stringLength : List Enclosure → Text → Nat
  | [], _ => 0
  | _, [] => 0
  | .code :: outer, c :: t =>
      1 +
        if c == '\x7b' then stringLength (.code :: .code :: outer) t
        else if c == '\x7d' then stringLength outer t
        else if c == apostrophe then stringLength (.plain :: .code :: outer) t
        else if c == '"' || c == grave then stringLength (.interpolating c :: .code :: outer) t
        else stringLength (.code :: outer) t
  | _ :: _, ['\\'] => 1
  | inner :: outer, '\\' :: _ :: t => 2 + stringLength (inner :: outer) t
  | .plain :: outer, c :: t =>
      1 + stringLength (if c == apostrophe then outer else .plain :: outer) t
  | .interpolating quote :: outer, '\x7b' :: '$' :: t =>
      2 + stringLength (.code :: .interpolating quote :: outer) t
  | .interpolating quote :: outer, '$' :: '\x7b' :: t =>
      2 + stringLength (.code :: .interpolating quote :: outer) t
  | .interpolating quote :: outer, c :: t =>
      1 + stringLength (if c == quote then outer else .interpolating quote :: outer) t

def isInterpolated : Text → Bool
  | [] => false
  | ['\\'] => false
  | '\\' :: _ :: t => isInterpolated t
  | '\x7b' :: '$' :: _ => true
  | '$' :: '\x7b' :: _ => true
  | '$' :: c :: t => isNameStart c || isInterpolated (c :: t)
  | _ :: t => isInterpolated t

/-- The length of a heredoc's rest, which ends with its label at the start of a line, behind blanks
at most. -/
def heredocLength (label : Text) (atLineStart : Bool) : Text → Nat
  | [] => 0
  | c :: t =>
      if atLineStart &&
          (startsWith label (c :: t) &&
            !((c :: t).drop label.length).head?.any isNamePart) then label.length
      else if atLineStart && (c == ' ' || c == '\t') then 1 + heredocLength label true t
      else 1 + heredocLength label (c == '\n') t

/-- The length of a heredoc behind its three angle brackets; none if no label follows them. -/
def heredoc? (t : Text) : Option Nat :=
  let blanks := (t.takeWhile fun c => c == ' ' || c == '\t').length
  let quoted := (t.drop blanks).takeWhile fun c => c == apostrophe || c == '"'
  let label := (t.drop (blanks + quoted.length)).takeWhile isNamePart
  let head := blanks + quoted.length + label.length + quoted.length
  if label.head?.any isNameStart && quoted.length ≤ 1 then
    some (head + heredocLength label false (t.drop head))
  else none

def digitsLength (isDigit : Char → Bool) (t : Text) : Nat :=
  (t.takeWhile fun c => isDigit c || c == '_').length

def exponentLength : Text → Nat
  | e :: t =>
      if e == 'e' || e == 'E' then
        match t with
        | sign :: d :: rest =>
            if (sign == '+' || sign == '-') && d.isDigit then
              2 + digitsLength Char.isDigit (d :: rest)
            else if sign.isDigit then 1 + digitsLength Char.isDigit t
            else 0
        | [d] => if d.isDigit then 2 else 0
        | [] => 0
      else 0
  | [] => 0

def isHexDigit (c : Char) : Bool := c.isDigit || ('a' ≤ c.toLower && c.toLower ≤ 'f')

/-- A number. A point or an exponent makes it a float. -/
def numberLexeme (t : Text) : Lexeme :=
  match t with
  | '0' :: base :: rest =>
      if base == 'x' || base == 'X' then (some .int, 2 + digitsLength isHexDigit rest)
      else if base == 'b' || base == 'B' || base == 'o' || base == 'O' then
        (some .int, 2 + digitsLength Char.isDigit rest)
      else decimal
  | _ => decimal
where
  /-- A number to base ten. -/
  decimal : Lexeme :=
    let whole := digitsLength Char.isDigit t
    let point :=
      match t.drop whole with
      | '.' :: rest => 1 + digitsLength Char.isDigit rest
      | _ => 0
    let exponent := exponentLength (t.drop (whole + point))
    (some (if point + exponent == 0 then .int else .float), whole + point + exponent)

def qualifiedLength : Text → Nat
  | [] => 0
  | ['\\'] => 0
  | '\\' :: c :: t => if isNameStart c then 2 + qualifiedLength t else 0
  | c :: t => if isNamePart c then 1 + qualifiedLength t else 0

def longSymbols : List Text :=
  ["...", "?->", "??=", "::", "->", "=>", "??", "#["].map String.toList

def symbolLexeme (t : Text) : Lexeme :=
  (some .symbol, ((longSymbols.find? fun symbol => startsWith symbol t).map List.length).getD 1)

def templateLexeme (quote : Char) (t : Text) : Lexeme :=
  let length := stringLength [.interpolating quote] t
  let plain := quote == '"' && !isInterpolated (t.take (length - 1))
  (some (if plain then .string else .template), 1 + length)

def isSpace (c : Char) : Bool := c == ' ' || ('\t' ≤ c && c ≤ '\r')

def codeLexeme (t : Text) : Lexeme :=
  match t with
  | [] => (none, 0)
  | '?' :: '>' :: _ => (some .closeTag, 2)
  | '/' :: '/' :: rest => (none, 2 + lineCommentLength rest)
  | '/' :: '*' :: rest => (none, 2 + blockCommentLength rest)
  | '#' :: '[' :: _ => symbolLexeme t
  | '#' :: rest => (none, 1 + lineCommentLength rest)
  | '<' :: '<' :: '<' :: rest =>
      match heredoc? rest with
      | some length => (some .template, 3 + length)
      | none => symbolLexeme t
  | '$' :: c :: rest =>
      if isNameStart c then (some .variable, 2 + (rest.takeWhile isNamePart).length)
      else symbolLexeme t
  | '\\' :: c :: rest =>
      if isNameStart c then (some .name, 2 + qualifiedLength rest) else symbolLexeme t
  | '.' :: d :: _ => if d.isDigit then numberLexeme t else symbolLexeme t
  | c :: rest =>
      if isSpace c then (none, (t.takeWhile isSpace).length)
      else if c == apostrophe then (some .string, 1 + stringLength [.plain] rest)
      else if c == '"' || c == grave then templateLexeme c rest
      else if isNameStart c then (some .name, 1 + qualifiedLength rest)
      else if c.isDigit then numberLexeme t
      else symbolLexeme t

def openTag? (t : Text) : Option (TokenKind × Nat) :=
  if startsWith "<?=".toList t then some (.echoTag, 3)
  else if startsWith "<?php".toList (lowerAscii (t.take 5)) then some (.openTag, 5)
  else if startsWith "<?".toList t then some (.openTag, 2)
  else none

def htmlLength : Text → Nat
  | [] => 0
  | c :: t => if (openTag? (c :: t)).isSome then 0 else 1 + htmlLength t

def lexeme (inCode : Bool) (t : Text) : Lexeme :=
  if inCode then codeLexeme t
  else
    match openTag? t with
    | some (kind, length) => (some kind, length)
    | none => (some .html, htmlLength t)

def codeFollows (inCode : Bool) : Option TokenKind → Bool
  | some .openTag | some .echoTag => true
  | some .closeTag | some .html => false
  | _ => inCode

/-- The tokens of a text that starts at a given byte offset. Each lexeme takes at least one
character. -/
def tokensFrom (inCode : Bool) (start : Nat) (t : Text) : List Token :=
  match t with
  | [] => []
  | c :: rest =>
      let found := lexeme inCode (c :: rest)
      let text := c :: rest.take (found.2 - 1)
      let here := found.1.map fun kind => ({ kind, text, start } : Token)
      here.toList ++
        tokensFrom (codeFollows inCode found.1) (start + byteLength text) (rest.drop (found.2 - 1))
termination_by t.length
decreasing_by simp only [List.length_drop, List.length_cons]; omega

def tokens (source : Text) : List Token := tokensFrom false 0 source

end DocblockSync.Php
