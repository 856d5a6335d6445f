import RequestBook.HostName.Newer
import RequestBook.Text.Marks

/-!
# Directions of writing

Labels with letters that are written from right to left have to be so as a whole, or else their
order could not be seen. The directions are those of the characters that labels admit.
-/

namespace RequestBook.HostName

open Text (Ranges)

inductive Direction where
  | leftToRight | rightToLeft | arabicNumber | europeanNumber | mark | neutral | unknown
  deriving DecidableEq, Repr

/-- The letters that are written from right to left. -/
def rightToLeftLetters : Ranges :=
  [(0x5be, 0x5be), (0x5c0, 0x5c0), (0x5c3, 0x5c3), (0x5c6, 0x5c6), (0x5d0, 0x5f4), (0x608, 0x608),
    (0x60b, 0x60b), (0x60d, 0x60d), (0x61b, 0x64a), (0x66d, 0x66f), (0x671, 0x6d5), (0x6e5, 0x6e6),
    (0x6ee, 0x6ef), (0x6fa, 0x710), (0x712, 0x72f), (0x74d, 0x7a5), (0x7b1, 0x7ea), (0x7f4, 0x7f5),
    (0x7fa, 0x7fa), (0x7fe, 0x815), (0x81a, 0x81a), (0x824, 0x824), (0x828, 0x828), (0x830, 0x858),
    (0x85e, 0x88e), (0x8a0, 0x8c9), (0x200f, 0x200f), (0xfb1d, 0xfb1d), (0xfb1f, 0xfb28),
    (0xfb2a, 0xfd3d), (0xfd50, 0xfdc7), (0xfdf0, 0xfdfc), (0xfe70, 0xfefc), (0x10800, 0x1091b),
    (0x10920, 0x10a00), (0x10a10, 0x10a35), (0x10a40, 0x10ae4), (0x10aeb, 0x10b35),
    (0x10b40, 0x10d23), (0x10e80, 0x10ea9), (0x10ead, 0x10f45), (0x10f51, 0x10f81),
    (0x10f86, 0x10ff6), (0x1e800, 0x1e8cf), (0x1e900, 0x1e943), (0x1e94b, 0x1eebb)]

def arabicNumbers : Ranges := [(0x660, 0x669), (0x10d30, 0x10d39)]

def europeanNumbers : Ranges := [(0x30, 0x39), (0x6f0, 0x6f9)]

/-- Signs, the hyphen among them, that take the direction of their neighbours. -/
def neutralSigns : Ranges :=
  [(0x2d, 0x2d), (0xb7, 0xb7), (0x2b9, 0x2ba), (0x2c6, 0x2cf), (0x2ec, 0x2ec), (0x375, 0x375),
    (0x200c, 0x200d), (0x2e2f, 0x2e2f), (0x30fb, 0x30fb), (0xa67f, 0xa67f), (0xa717, 0xa71f),
    (0xa788, 0xa788)]

/-- Marks that have a direction of their own, from left to right. -/
def directedMarks : Ranges :=
  [(0xcbf, 0xcbf), (0xcc6, 0xcc6), (0x11a07, 0x11a08), (0x11c3f, 0x11c3f)]

def Direction.of (c : Char) : Direction :=
  if newerLetters.has c then unknown
  else if rightToLeftLetters.has c then rightToLeft
  else if arabicNumbers.has c then arabicNumber
  else if europeanNumbers.has c then europeanNumber
  else if neutralSigns.has c then neutral
  else if Text.isNonspacing c && !directedMarks.has c then mark
  else leftToRight

/-- Whether a direction makes a label one from right to left. -/
def Direction.turns (d : Direction) : Bool := d = .rightToLeft || d = .arabicNumber

/-- Whether a label that is written from right to left may end in a direction. -/
def Direction.ends (d : Direction) : Bool := d.turns || d = .europeanNumber

/-- Whether the directions of a label go together: all are known, and one that is written from
right to left starts so, has no letter of the other direction, only one kind of numbers, and
ends, marks aside, in a letter or number. -/
def isDirected (label : List Char) : Bool :=
  let directions := label.map Direction.of
  !directions.contains .unknown &&
    (!directions.any Direction.turns ||
      (directions.head? = some .rightToLeft && !directions.contains .leftToRight &&
        !(directions.contains .arabicNumber && directions.contains .europeanNumber) &&
        ((directions.reverse.dropWhile (· = .mark)).head?.map Direction.ends).getD false))

end RequestBook.HostName
