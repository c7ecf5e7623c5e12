import Larder.Url.PercentEncoding

/-!
Paths as lists of segments.  A segment of one dot stands for nothing and one of two dots takes the
segment before it away, also where the dots are written as percent escapes; a segment that looks
like a drive letter is never taken away.
-/

namespace Larder.Url

/-- The pieces between separators, one more than there are separators. -/
def splitOn (separator : Char) : List Char → List (List Char)
  | [] => [[]]
  | c :: rest =>
    if c = separator then [] :: splitOn separator rest
    else
      match splitOn separator rest with
      | [] => [[c]]
      | first :: others => (c :: first) :: others

/-- The dots of a segment that consists of dots, plain or escaped. -/
def dots? : List Char → Option Nat
  | [] => some 0
  | '.' :: rest => (dots? rest).map (· + 1)
  | '%' :: '2' :: 'e' :: rest => (dots? rest).map (· + 1)
  | '%' :: '2' :: 'E' :: rest => (dots? rest).map (· + 1)
  | _ => none

/-- A letter and its mark, at the end of the segment or before a backslash. -/
def isDriveLetter : List Char → Bool
  | letter :: mark :: rest =>
    letter.isAlpha && (mark == ':' || mark == '|') && (rest.isEmpty || rest.head? == some '\\')
  | _ => false

/-- The segments after the last one was taken away, if it can be; `done` holds the latest first. -/
def dropLast (done : List (List Char)) : List (List Char) :=
  match done with
  | [] => []
  | segment :: before => if isDriveLetter segment then segment :: before else before

/-- Segments without dots, the latest first. -/
def resolveDots : List (List Char) → List (List Char) → List (List Char)
  | done, [] => done
  | done, segment :: rest =>
    let (kept, isPlain) :=
      match dots? segment with
      | some 1 => (done, false)
      | some 2 => (dropLast done, false)
      | _ => (segment :: done, true)
    let isLast := rest.isEmpty
    resolveDots (if isLast && !isPlain then [] :: kept else kept) rest

/-- The path that a text after the host stands for; without a leading separator one is put there. -/
def pathOf (cs : List Char) : List Char :=
  let body := if cs.head? = some '/' then cs.tail else cs
  let segments := splitOn '/' (percentEncode inPath body)
  (resolveDots [] segments).reverse.flatMap fun segment => '/' :: segment

end Larder.Url
