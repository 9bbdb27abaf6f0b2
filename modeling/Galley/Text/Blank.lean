/-! White space as Unicode defines it (the property `White_Space`), and the two things the library does
with it: cutting it off both ends of a text and splitting a text into words. Everything is stated on lists of
characters; the `String` forms below are the same functions behind a conversion. -/
namespace Galley.Text

/-- Membership in Unicode's `White_Space`. The information separators U+001C to U+001F are not in it. -/
def isBlank (c : Char) : Bool :=
  let n := c.toNat
  (0x09 ≤ n && n ≤ 0x0D) || n == 0x20 || n == 0x85 || n == 0xA0 || n == 0x1680 ||
    (0x2000 ≤ n && n ≤ 0x200A) || n == 0x2028 || n == 0x2029 || n == 0x202F || n == 0x205F || n == 0x3000

/-- `cs` without the longest suffix whose members all satisfy `p`. -/
def dropTrailing {α : Type} (p : α → Bool) (cs : List α) : List α :=
  (cs.reverse.dropWhile p).reverse

/-- `cs` without the blanks at either end. -/
def trimList (cs : List Char) : List Char := dropTrailing isBlank (cs.dropWhile isBlank)

/-- `s` without the blanks at either end. -/
def trim (s : String) : String := String.ofList (trimList s.toList)

/-- The maximal runs of non-blank characters of `s`, in order. -/
def words (s : String) : List String :=
  ((s.toList.splitOnP isBlank).filter (! ·.isEmpty)).map String.ofList

theorem isBlank_return : isBlank '\r' = true := rfl

theorem isBlank_newline : isBlank '\n' = true := rfl

end Galley.Text
