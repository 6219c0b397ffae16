import Parsec.Codegen.Naming

/-! # Channel helpers in generated Go

A helper's signature comes from the segments of the pattern, its body from a walk over the
pattern's characters. The channel it builds is read back by the registry's matcher. -/

namespace Parsec.Codegen

open Foundation
open Schema (Token Pattern Bindings parseToken parseTokens parsePattern matchTokens
  splitPatternSegments isPlaceholder)

inductive Argument
  | text (value : String)
  | rest (values : List String)
  deriving DecidableEq

variable (arguments : String → Option Argument)

section Compiling

variable (names : GoNames) (pattern : String)

end Compiling

section
variable {arguments}

end

/-! ## Segments -/

def Spells : Token → String → Prop
  | .literal text, segment =>
    segment = text ∧ ∀ char ∈ text.toList, char ≠ '\x7b' ∧ char ≠ '*'
  | .single, segment => segment = "*"
  | .double, segment => segment = "**"
  | .placeholder name, segment => segment.toList = '\x7b' :: (name.toList ++ ['\x7d'])

variable {segment : String} {token : Token}
  {source : String} {tokens : List Token} {anonCount : Nat}

def Recorded (tokens : List Token) (before after : Bindings) : Prop :=
  ∀ name,
    (.placeholder name ∈ tokens →
      ∃ value, arguments name = some (.text value) ∧ after.lookup name = some value) ∧
    (.placeholder name ∉ tokens → after.lookup name = before.lookup name)

variable {arguments}

variable {part : List Char}

variable {names : GoNames}

def named (values : List (String × Argument)) (name : String) : Option Argument :=
  values.lookup name

end Parsec.Codegen
