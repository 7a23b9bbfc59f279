/-
# ExprTree.Text.DefaultIgnorable — which characters a display may leave out

The Unicode property `Default_Ignorable_Code_Point` (Unicode 17.0) as ascending closed ranges of
code points. Most of these are format characters and variation selectors; four are letters, the
Hangul fillers U+115F, U+1160, U+3164 and U+FFA0. A diagnostic writes such a character by its
number, for it would not be seen.
-/

namespace ExprTree.Text

set_option autoImplicit false

/-- Ascending ranges of the code points with the property `Default_Ignorable_Code_Point`. -/
def defaultIgnorableRanges : List (Nat × Nat) :=
  [(0x00AD, 0x00AD), (0x034F, 0x034F), (0x061C, 0x061C), (0x115F, 0x1160), (0x17B4, 0x17B5),
   (0x180B, 0x180F), (0x200B, 0x200F), (0x202A, 0x202E), (0x2060, 0x206F), (0x3164, 0x3164),
   (0xFE00, 0xFE0F), (0xFEFF, 0xFEFF), (0xFFA0, 0xFFA0), (0xFFF0, 0xFFF8), (0x1BCA0, 0x1BCA3),
   (0x1D173, 0x1D17A), (0xE0000, 0xE0FFF)]

end ExprTree.Text
