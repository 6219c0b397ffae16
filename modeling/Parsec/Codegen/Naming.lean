import Parsec.Schema.Pattern

/-! # Names in generated Go

Every pattern of a snapshot declares a constant, a channel helper if it has placeholders, and
one payload type for each aspect. Their names are built from the pattern's literal segments. -/

namespace Parsec.Codegen

open Schema (splitPatternSegments isPlaceholder)

/-- The classes and case mappings of Go's `unicode` package. -/
structure Runes where
  isLetter : Char → Bool
  isDigit : Char → Bool
  toUpper : Char → Char
  toLower : Char → Char

def Runes.ascii : Runes where
  isLetter := Char.isAlpha
  isDigit := Char.isDigit
  toUpper := Char.toUpper
  toLower := Char.toLower

variable (runes : Runes)

structure ChannelPattern where
  pattern : String
  aspects : List (String × String)

namespace ChannelPattern

variable (described : ChannelPattern)

end ChannelPattern

variable {runes} {snapshot : List ChannelPattern} {first second : ChannelPattern}

end Parsec.Codegen
