import UniformIter.Document.Position
import UniformIter.Document.PlainValue
import UniformIter.Document.Token

/-!
# How a string is written in a document

A string with line feeds becomes a literal block, a string that would be read as something
else gets single quotes, and any other string stands plain, as far as its characters allow.
Double quotes with escapes are left for what no other style can hold. Lines are never folded.
-/

namespace UniformIter.Document.ScalarText

/-- The characters that are written as they are. -/
def isPrintable (c : Char) : Bool :=
  let n := c.toNat
  n == 0x0A || (0x20 ≤ n && n ≤ 0x7E) || (0xA0 ≤ n && n ≤ 0xD7FF) ||
    (0xE000 ≤ n && n ≤ 0xFFFD && n != 0xFEFF) || 0x10000 ≤ n

/-- The characters that no plain scalar begins with. -/
def isIndicator (c : Char) : Bool :=
  ['#', ',', '[', ']', '\x7b', '\x7d', '&', '*', '!', '|', '>', '\x27', '\x22', '%', '@',
    '\x60'].contains c

/-- Whether two neighbours of the given kinds follow each other somewhere. -/
def hasPair (first second : Char → Bool) : List Char → Bool
  | a :: b :: r => (first a && second b) || hasPair first second (b :: r)
  | _ => false

/-- Whether a colon before a gap or the end, or a hash behind a gap, would cut a plain scalar
short. -/
def isCutShort : List Char → Bool
  | [] => false
  | ':' :: r => startsGapOrEnd r || isCutShort r
  | c :: r => (isGap c && r.head? == some '#') || isCutShort r

/-- Whether the beginning of a text means something else than a plain scalar. -/
def beginsOtherwise : List Char → Bool
  | '-' :: '-' :: '-' :: _ => true
  | '.' :: '.' :: '.' :: _ => true
  | c :: r => isIndicator c || ((c == '?' || c == '-') && startsGapOrEnd r)
  | [] => true

/-- Whether a space stands at an end of a text. -/
def isPadded (s : List Char) : Bool := s.head? == some ' ' || s.getLast? == some ' '

/-- Whether a text may stand plain. -/
def allowsPlain (s : List Char) : Bool :=
  s.all (fun c => isPrintable c && !isBreak c) && !isPadded s && !beginsOtherwise s &&
    !isCutShort s

/-- Whether a text may stand in single quotes. -/
def allowsSingle (s : List Char) : Bool :=
  s.all isPrintable && !hasPair (· == ' ') isBreak s && !hasPair isBreak (· == ' ') s

/-- Whether a text may stand as a literal block. -/
def allowsLiteral (s : List Char) : Bool :=
  s.all isPrintable && s.getLast? != some ' ' && !hasPair (· == ' ') isBreak s

/-- The style in which a string is written. -/
def styleOf (s : String) : ScalarStyle :=
  let cs := s.toList
  if cs.contains '\n' then (if allowsLiteral cs then .literal else .doubleQuoted)
  else if !isAmbiguous s && allowsPlain cs then .plain
  else if allowsSingle cs then .singleQuoted
  else .doubleQuoted

/-- A text with `indent` spaces before whatever begins a line. `atStart` says whether a line
begins here. -/
def indented (indent : Nat) (atStart : Bool) : List Char → List Char
  | [] => []
  | c :: r =>
    if isBreak c then c :: indented indent true r
    else (if atStart then List.replicate indent ' ' else []) ++ c :: indented indent false r

/-- Whether a text ends with a line break. -/
def endsInBreak (s : List Char) : Bool := s.getLast?.any isBreak

/-- The sign in a literal block's header for the breaks at its end: a minus sign if there is
none, a plus sign if there are several or nothing else, and no sign for one. -/
def chomping (s : List Char) : List Char :=
  match s.reverse with
  | [] => ['-']
  | c :: r =>
    if !isBreak c then ['-']
    else if r.head?.all isBreak then ['+']
    else []

/-- The width in a literal block's header, where its first line does not show it. -/
def indentation : List Char → List Char
  | c :: _ => if c == ' ' || isBreak c then ['2'] else []
  | [] => []

/-- A literal block with its lines indented, up to the end of its last line. -/
def literal (indent : Nat) (s : List Char) : List Char :=
  '|' :: indentation s ++ chomping s ++ '\n' :: indented indent true s

/-- A text in single quotes, each of its own quotes doubled. A line that it goes on in is
indented. -/
def singleQuoted (indent : Nat) (s : List Char) : List Char :=
  let body := (indented indent false s).flatMap fun c => if c == '\x27' then ['\x27', c] else [c]
  let closing := if endsInBreak s then List.replicate indent ' ' else []
  '\x27' :: body ++ closing ++ ['\x27']

/-- A number in a given count of upper-case hexadecimal digits. -/
def hexDigits (count n : Nat) : List Char :=
  (List.range count).reverse.map fun i =>
    let d := n / Nat.pow 16 i % 16
    Char.ofNat (if d < 10 then d + 48 else d + 55)

/-- The letter of a character's escape, where it has one. -/
def escapeLetter? (c : Char) : Option Char :=
  [('\x00', '0'), ('\x07', 'a'), ('\x08', 'b'), ('\t', 't'), ('\n', 'n'), ('\x0b', 'v'),
    ('\x0c', 'f'), ('\x0d', 'r'), ('\x1b', 'e'), ('\x22', '\x22'), ('\\', '\\'),
    ('\u0085', 'N'), ('\u00a0', '_'), ('\u2028', 'L'), ('\u2029', 'P')].lookup c

/-- How double quotes hold one character. -/
def escaped (c : Char) : List Char :=
  if isPrintable c && !isBreak c && c != '\x22' && c != '\\' then [c]
  else
    match escapeLetter? c with
    | some e => ['\\', e]
    | none =>
      let n := c.toNat
      if n ≤ 0xFF then '\\' :: 'x' :: hexDigits 2 n
      else if n ≤ 0xFFFF then '\\' :: 'u' :: hexDigits 4 n
      else '\\' :: 'U' :: hexDigits 8 n

/-- A text in double quotes. -/
def doubleQuoted (s : List Char) : List Char := '\x22' :: s.flatMap escaped ++ ['\x22']

end UniformIter.Document.ScalarText

namespace UniformIter.Document

/-- A string as it is written with its further lines indented, and the line ended. -/
def scalarLine (indent : Nat) (s : String) : List Char :=
  let cs := s.toList
  match ScalarText.styleOf s with
  | .literal =>
    ScalarText.literal indent cs ++ if ScalarText.endsInBreak cs then [] else ['\n']
  | .singleQuoted => ScalarText.singleQuoted indent cs ++ ['\n']
  | .doubleQuoted => ScalarText.doubleQuoted cs ++ ['\n']
  | _ => cs ++ ['\n']

end UniformIter.Document
