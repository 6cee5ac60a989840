/-!
# Surrogates

A text may hold single surrogates, which have a code point but are no characters.  The last
characters of the last plane, which are for private use, stand for them; so a text that holds those
characters themselves is left out.  A surrogate is written like any other text, but no file can hold
it.
-/

namespace PicAssembly.Surrogate

/-- The code of the first character that stands for a surrogate. -/
def firstStandIn : Nat := 0x10F800

/-- The first code point of a surrogate. -/
def firstCode : Nat := 0xD800

/-- Whether a character stands for a surrogate. -/
def isStandIn (char : Char) : Bool :=
  firstStandIn ≤ char.toNat

/-- The code point of a character, which is that of a surrogate if it stands for one. -/
def codePoint (char : Char) : Nat :=
  if isStandIn char then char.toNat - firstStandIn + firstCode else char.toNat

end PicAssembly.Surrogate
