import HttpExchange.Text.Ascii
import HttpExchange.Url.Form

/-!
# Paths

Tabs and line breaks are left out, but one after the name of a drive parts its segment.
-/

namespace HttpExchange

/-! ### Breaks -/

namespace Breaks

def isBreak (c : Char) : Bool :=
  c == '\t' || c == '\n' || c == '\r'

def leftOut (chars : List Char) : List Char :=
  chars.filter fun c => !isBreak c

/-- What follows the first `count` characters that are no breaks. -/
def behind : (count : Nat) → List Char → List Char
  | 0, chars => chars
  | _ + 1, [] => []
  | count + 1, c :: rest => if isBreak c then behind (count + 1) rest else behind count rest

end Breaks

namespace Path

/-! ### Segments -/

def isSingleDot (segment : List Char) : Bool :=
  [".", "%2e"].contains (Ascii.lower (String.ofList segment))

def isDoubleDot (segment : List Char) : Bool :=
  ["..", ".%2e", "%2e.", "%2e%2e"].contains (Ascii.lower (String.ofList segment))

/-- The name of a drive: a letter and a colon or bar. -/
def isDrive : List Char → Bool
  | [letter, mark] => letter.isAlpha && (mark == ':' || mark == '|')
  | _ => false

def withColon (drive : List Char) : List Char :=
  drive.take 1 ++ [':']

/-- The name of a drive that a break follows in a segment, and the rest of the segment. -/
def parted? (source : List Char) : Option (List Char × List Char) :=
  match Breaks.leftOut source with
  | letter :: ':' :: next :: rest =>
    if letter.isAlpha && (Breaks.behind 2 source).head?.any Breaks.isBreak then
      some ([letter, ':'], next :: rest)
    else none
  | _ => none

def escaped (segment : List Char) : List Char :=
  Escape.chars Escape.inPath segment

/-- A segment that is the name of a drive, or begins with one and a backslash.  Nothing is above
it. -/
def isTop (segment : List Char) : Bool :=
  isDrive (segment.take 2) && (segment.drop 2).head?.all (· == '\\')

/-- The reversed segments of the directory above. -/
def above : List (List Char) → List (List Char)
  | [] => []
  | last :: before => if isTop last then last :: before else before

/-! ### Walks -/

/-- What the segments read so far lead to. -/
structure Walk where
  /-- The segments in normal form, the last first. -/
  done : List (List Char)
  /-- Whether the path began with a segment that is the name of a drive. -/
  onDrive : Bool

namespace Walk

def start : Walk :=
  ⟨[], false⟩

/-- Add a segment.  With `drives`, the name of a drive that comes first is written with a colon, and
what a break parts from it is a segment of its own. -/
def add (drives : Bool) (walk : Walk) (source : List Char) : Walk :=
  let segment := Breaks.leftOut source
  if drives && walk.done.isEmpty then
    if isDrive segment then ⟨[withColon segment], true⟩
    else
      match parted? source with
      | some (drive, rest) => { walk with done := [escaped rest, drive] }
      | none => { walk with done := [escaped segment] }
  else { walk with done := escaped segment :: walk.done }

def pass (drives : Bool) (walk : Walk) (source : List Char) : Walk :=
  let segment := Breaks.leftOut source
  if isDoubleDot segment then { walk with done := above walk.done }
  else if isSingleDot segment then walk
  else walk.add drives source

/-- Read the last segment, which is empty if it stands for a directory. -/
def finish (drives : Bool) (walk : Walk) (source : List Char) : Walk :=
  let segment := Breaks.leftOut source
  let passed := walk.pass drives source
  if isDoubleDot segment || isSingleDot segment then { passed with done := [] :: passed.done }
  else passed

def through (drives : Bool) : Walk → List (List Char) → Walk
  | walk, [] => walk
  | walk, [last] => walk.finish drives last
  | walk, segment :: next :: rest => (walk.pass drives segment).through drives (next :: rest)

def segments (walk : Walk) : List (List Char) :=
  walk.done.reverse

end Walk

def text (segments : List (List Char)) : String :=
  String.ofList (segments.flatMap ('/' :: ·))

/-- The text of a path in normal form in which no drives are named. -/
def normal (sources : List (List Char)) : String :=
  text (Walk.start.through false sources).segments

end Path

end HttpExchange
