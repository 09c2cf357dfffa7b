import BackendMonitor.Text.Mark
import BackendMonitor.Text.Unassigned

/-!
# Characters that do not show by themselves

Controls, format characters, separators other than the space, surrogates, private use and
unassigned code points, and the characters that extend the one before them. A text that is quoted
for a reader spells these by their number.
-/

namespace BackendMonitor.Text

/-- The characters that do not show because of what they are for: controls, format characters,
separators other than the space, surrogates and private use. -/
def invisible : Table := Table.ofText "
  0-1F 7F-A0 AD 600-605 61C 6DD 70F 890-891 8E2 1680 180E 2000-200F 2028-202F 205F-2064 2066-206F
  3000 D800-F8FF FEFF FFF9-FFFB 110BD 110CD 13430-1343F 1BCA0-1BCA3 1D173-1D17A E0001 E0020-E007F
  F0000-FFFFD 100000-10FFFD"

/-- The characters that extend the one before them, without being marks that take no room. -/
def extenders : Table := Table.ofText "
  9BE 9D7 B3E B57 BBE BD7 CC0 CC2 CC7-CC8 CCA-CCB CD5-CD6 D3E D57 DCF DDF 1715 1734 1B35 1B3B 1B3D
  1B43-1B44 1BAA 1BF2-1BF3 200C 302E-302F A953 A9C0 FF9E-FF9F 111C0 11235 1133E 1134D 11357 113B8
  113C2 113C5 113C7-113C9 113CF 114B0 114BD 115AF 116B6 11930 1193D 11F41 16FF0-16FF1 1D165-1D166
  1D16D-1D172 E0020-E007F"

/-- Whether a character shows by itself. -/
def isPrintable (c : Char) : Bool :=
  !(invisible.holds c || extenders.holds c || isNonspacing c || unassigned.holds c)

end BackendMonitor.Text
