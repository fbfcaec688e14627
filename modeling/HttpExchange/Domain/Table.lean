import HttpExchange.Text.Ascii
import HttpExchange.Text.Pieces

/-!
# Tables of code points

A table is kept as a text of hexadecimal numerals.
-/

namespace HttpExchange
namespace Table

def words (line : List Char) : List (List Char) :=
  (pieces (· == ' ') line).filter fun word => !word.isEmpty

def lines (text : String) : List (List Char) :=
  pieces (· == '\n') text.toList

def wordsOf (text : String) : List (List Char) :=
  (lines text).flatMap words

/-- The code points of a word, with dots between them. -/
def codePoints? (word : List Char) : Option (List Nat) :=
  (pieces (· == '.') word).mapM (Numeral.value? 16)

end Table

/-- Neighbouring code points. -/
structure Span where
  first : Nat
  last : Nat
  deriving DecidableEq

namespace Span

def contains (span : Span) (point : Nat) : Bool :=
  span.first ≤ point && point ≤ span.last

/-- The span that a word writes: one code point, or the first and the last with a dash between
them. -/
def ofWord? (word : List Char) : Option Span :=
  match pieces (· == '-') word with
  | [single] => (Numeral.value? 16 single).map fun point => ⟨point, point⟩
  | [first, last] => do
    let first ← Numeral.value? 16 first
    let last ← Numeral.value? 16 last
    some ⟨first, last⟩
  | _ => none

def ofText (text : String) : List Span :=
  (Table.wordsOf text).filterMap ofWord?

def anyContains (spans : List Span) (point : Nat) : Bool :=
  spans.any (·.contains point)

end Span
end HttpExchange
