import DocblockSync.Text.Blank

/-! Settings used in a piece of code: the literals passed to the calls that fetch a setting. The scan
keeps track of comments and strings, so that calls written inside them do not count. -/

namespace DocblockSync.Settings

open Text

inductive Mode where
  | code
  | lineComment
  | blockComment
  | quoted (quote : Char)
  deriving Repr, DecidableEq

/-- The characters that start an identifier; all beyond ASCII do. -/
def isIdentStart (c : Char) : Bool := c.isAlpha || c == '_' || 0x80 ≤ c.toNat

def isIdentChar (c : Char) : Bool := isIdentStart c || c.isDigit

/-- The content of a string up to its closing quote, and the text behind the quote. A backslash hides
the character after it. -/
def readQuoted? (quote : Char) : Text → Option (Text × Text)
  | [] => none
  | ['\\'] => none
  | '\\' :: c :: t =>
      (readQuoted? quote t).map fun (content, rest) => ('\\' :: c :: content, rest)
  | c :: t =>
      if c == quote then some ([], t)
      else (readQuoted? quote t).map fun (content, rest) => (c :: content, rest)

def unescapeChar (quote c : Char) : Text :=
  if c == '\\' then ['\\']
  else if c == quote then [quote]
  else if c == 'n' && quote == '"' then ['\n']
  else if c == 't' && quote == '"' then ['\t']
  else ['\\', c]

def unescape (quote : Char) : Text → Text
  | [] => []
  | ['\\'] => ['\\']
  | '\\' :: c :: t => unescapeChar quote c ++ unescape quote t
  | c :: t => c :: unescape quote t

def isQuote (c : Char) : Bool := c.toNat == 0x27 || c == '"'

/-- Reads a parenthesised literal and returns its text and what follows the parenthesis. A literal in
double quotes with a dollar sign is none. -/
def literalCall? (t : Text) : Option (Text × Text) :=
  match t.dropWhile isAsciiBlank with
  | '(' :: inside =>
      match inside.dropWhile isAsciiBlank with
      | quote :: quoted =>
          if isQuote quote then
            match readQuoted? quote quoted with
            | some (content, rest) =>
                if quote == '"' && content.any (· == '$') then none
                else
                  match rest.dropWhile isAsciiBlank with
                  | ')' :: behind => some (unescape quote content, behind)
                  | _ => none
            | none => none
          else none
      | [] => none
  | _ => none

theorem length_dropWhile_le (p : Char → Bool) (t : Text) : (t.dropWhile p).length ≤ t.length :=
  (List.dropWhile_suffix p).length_le

theorem length_readQuoted? {quote : Char} {t content rest : Text}
    (h : readQuoted? quote t = some (content, rest)) : rest.length < t.length := by
  fun_induction readQuoted? quote t generalizing content rest with
  | case1 => simp at h
  | case2 => simp at h
  | case3 c t ih =>
      obtain ⟨⟨inner, after⟩, found, same⟩ := Option.map_eq_some_iff.1 h
      cases same
      have := ih found
      simp only [List.length_cons]
      omega
  | case4 c t =>
      cases h
      simp
  | case5 c t _ _ _ ih =>
      obtain ⟨⟨inner, after⟩, found, same⟩ := Option.map_eq_some_iff.1 h
      cases same
      have := ih found
      simp only [List.length_cons]
      omega

theorem length_literalCall? {t name rest : Text} (h : literalCall? t = some (name, rest)) :
    rest.length < t.length := by
  unfold literalCall? at h
  have outer := length_dropWhile_le isAsciiBlank t
  split at h
  · next inside opened =>
      have inner := length_dropWhile_le isAsciiBlank inside
      split at h
      · next quote quoted found =>
          split at h
          · split at h
            · next content tail read =>
                have shorter := length_readQuoted? read
                have behind := length_dropWhile_le isAsciiBlank tail
                split at h
                · simp at h
                · split at h
                  · next closed =>
                      cases h
                      simp only [opened, found, closed, List.length_cons] at *
                      omega
                  · simp at h
            · simp at h
          · simp at h
      · simp at h
  · simp at h

/-- The literals of all fetching calls from some place on, in order. The identifier of a call follows
no dollar sign; behind a literal call the scan goes on after its parenthesis. -/
def calls (isFetch : Text → Bool) (mode : Mode) (afterDollar : Bool) (t : Text) : List Text :=
  match mode, t with
  | _, [] => []
  | .lineComment, '\n' :: rest => calls isFetch .code false rest
  | .lineComment, '?' :: '>' :: rest => calls isFetch .code false ('>' :: rest)
  | .lineComment, _ :: rest => calls isFetch .lineComment false rest
  | .blockComment, '*' :: '/' :: rest => calls isFetch .code false rest
  | .blockComment, _ :: rest => calls isFetch .blockComment false rest
  | .quoted _, ['\\'] => []
  | .quoted quote, '\\' :: _ :: rest => calls isFetch (.quoted quote) false rest
  | .quoted quote, c :: rest =>
      calls isFetch (if c == quote then .code else .quoted quote) false rest
  | .code, '/' :: '/' :: rest => calls isFetch .lineComment false rest
  | .code, '/' :: '*' :: rest => calls isFetch .blockComment false rest
  | .code, '#' :: '[' :: rest => calls isFetch .code false ('[' :: rest)
  | .code, '#' :: rest => calls isFetch .lineComment false rest
  | .code, c :: rest =>
      if isQuote c then calls isFetch (.quoted c) false rest
      else if isIdentStart c then
        if !afterDollar && isFetch (c :: rest.takeWhile isIdentChar) then
          match _found : literalCall? (rest.dropWhile isIdentChar) with
          | some (name, behind) => name :: calls isFetch .code false behind
          | none => calls isFetch .code false (rest.dropWhile isIdentChar)
        else calls isFetch .code false (rest.dropWhile isIdentChar)
      else calls isFetch .code (c == '$') rest
termination_by t.length
decreasing_by all_goals grind [length_dropWhile_le, → length_literalCall?]

def isFetchCall (functions : List Text) (ident : Text) : Bool :=
  functions.any fun name => sameIgnoringCase name ident

/-- The distinct settings that a piece of code fetches, in order of first use. -/
def scan (functions : List Text) (code : Text) : List Text :=
  (calls (isFetchCall functions) .code false code).eraseDups

end DocblockSync.Settings
