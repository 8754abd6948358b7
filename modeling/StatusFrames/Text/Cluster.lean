/-
Characters as a reader sees them: a character together with the marks behind it and the signs that are written in front
of it. Syllables of several letters and flags, which have no case, count as several clusters here.
-/
import StatusFrames.Text.Mark

namespace StatusFrames.Text

/-- Controls and the like, which stand for themselves. -/
def controlRanges : List (Nat × Nat) :=
  [(0x00, 0x1F), (0x7F, 0x9F), (0xAD, 0xAD), (0x061C, 0x061C), (0x180E, 0x180E), (0x200B, 0x200B),
   (0x200E, 0x200F), (0x2028, 0x202E), (0x2060, 0x206F), (0xFEFF, 0xFEFF), (0xFFF0, 0xFFFB),
   (0x13430, 0x1343F), (0x1BCA0, 0x1BCA3), (0x1D173, 0x1D17A), (0xE0000, 0xE001F), (0xE0080, 0xE00FF),
   (0xE01F0, 0xE0FFF)]

/-- Signs that belong to the character behind them. -/
def leadingRanges : List (Nat × Nat) :=
  [(0x0600, 0x0605), (0x06DD, 0x06DD), (0x070F, 0x070F), (0x0890, 0x0891), (0x08E2, 0x08E2), (0x0D4E, 0x0D4E),
   (0x110BD, 0x110BD), (0x110CD, 0x110CD), (0x111C2, 0x111C3), (0x113D1, 0x113D1), (0x1193F, 0x1193F),
   (0x11941, 0x11941), (0x11A84, 0x11A89), (0x11D46, 0x11D46), (0x11F02, 0x11F02)]

/-- Marks that do not belong to the character before them. -/
def standingMarkRanges : List (Nat × Nat) :=
  [(0x102B, 0x102C), (0x1038, 0x1038), (0x1062, 0x1064), (0x1067, 0x106D), (0x1083, 0x1083), (0x1087, 0x108C),
   (0x108F, 0x108F), (0x109A, 0x109C), (0x1A61, 0x1A61), (0x1A63, 0x1A64), (0xAA7B, 0xAA7B), (0xAA7D, 0xAA7D),
   (0x11720, 0x11721)]

/-- Characters that are no marks and belong to the character before them. -/
def attachedRanges : List (Nat × Nat) :=
  [(0x0E33, 0x0E33), (0x0EB3, 0x0EB3), (0x200C, 0x200D), (0xFF9E, 0xFF9F), (0x1F3FB, 0x1F3FF), (0xE0020, 0xE007F)]

def isControl (c : Char) : Bool := inRanges controlRanges c.toNat

def leads (c : Char) : Bool := 0x300 ≤ c.toNat && inRanges leadingRanges c.toNat

def attaches (c : Char) : Bool :=
  0x300 ≤ c.toNat &&
    (if isMark c then !inRanges standingMarkRanges c.toNat else inRanges attachedRanges c.toNat)

/-- Whether two neighbours belong together. -/
def joined (a b : Char) : Bool :=
  (a == '\r' && b == '\n') || (!isControl a && !isControl b && (leads a || attaches b))

/-- A text cut into clusters. -/
def clusters : List Char → List (List Char)
  | [] => []
  | c :: rest =>
    match clusters rest with
    | (d :: more) :: others => if joined c d then (c :: d :: more) :: others else [c] :: (d :: more) :: others
    | others => [c] :: others

end StatusFrames.Text
