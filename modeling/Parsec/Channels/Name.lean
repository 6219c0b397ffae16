import Mathlib
import Parsec.Errors

/-! # Channel names and patterns

The grammar `<visibility>:<app>.<domain>[.<id>][.<topic>]` of channel names and the
patterns that scopes grant on. -/

namespace Parsec.Channels

inductive Visibility
  | «public»
  | «private»
  deriving DecidableEq

def Visibility.text : Visibility → String
  | .public => "public"
  | .private => "private"

structure Name where
  visibility : Visibility
  app : String
  domain : String
  id : String := ""
  topic : String := ""
  deriving DecidableEq

namespace Name

def segments (name : Name) : List String :=
  [name.app, name.domain] ++ [name.id, name.topic].filter (· ≠ "")

def text (name : Name) : String :=
  name.visibility.text ++ ":" ++ String.intercalate "." name.segments

def isPrivate (name : Name) : Bool := name.visibility = .private

end Name

def invalidChannel (message : String) : CodedError :=
  { code := .channelInvalid, message := message }

def splitVisibility (text : String) : Option (String × String) :=
  match text.toList.span (· ≠ ':') with
  | (before, _ :: after) =>
    if before = [] ∨ after = [] then none
    else some (String.ofList before, String.ofList after)
  | (_, []) => none

def splitDots (text : String) : List String :=
  (text.toList.splitOn '.').map String.ofList

def parseVisibility (text : String) : Option Visibility :=
  if text = "public" then some .public
  else if text = "private" then some .private
  else none

def isComponentChar (char : Char) : Bool :=
  ('a' ≤ char ∧ char ≤ 'z') ∨ ('0' ≤ char ∧ char ≤ '9') ∨ char = '-' ∨ char = '_'

def validateComponent (text : String) : Except CodedError Unit :=
  if text = "" then .error (invalidChannel "channel component must not be empty")
  else match text.toList.find? fun char => !isComponentChar char with
    | some char => .error (invalidChannel ("invalid character " ++ char.quote ++
        " in channel component " ++ text.quote))
    | none => .ok ()

def validateComponents : List String → Except CodedError Unit
  | [] => .ok ()
  | part :: rest =>
    match validateComponent part with
    | .error error => .error error
    | .ok () => validateComponents rest

def parseName (text : String) : Except CodedError Name :=
  match splitVisibility text with
  | none => .error (invalidChannel "channel name must start with public: or private:")
  | some (before, rest) =>
    match parseVisibility before with
    | none => .error (invalidChannel ("unknown visibility " ++ before.quote ++
        "; want public or private"))
    | some visibility =>
      if rest.toList.contains ':' then
        .error (invalidChannel "the : character is reserved for the visibility prefix")
      else
        let parts := splitDots rest
        if parts.length < 2 then
          .error (invalidChannel "channel name must include at least <app>.<domain>")
        else if parts.length > 4 then
          .error (invalidChannel ("channel name has too many components; " ++
            "max is <app>.<domain>.<id>.<topic>"))
        else match validateComponents parts with
          | .error error => .error error
          | .ok () =>
            let name : Name :=
              { visibility := visibility, app := parts.getD 0 "",
                domain := parts.getD 1 "", id := parts.getD 2 "",
                topic := parts.getD 3 "" }
            if visibility = .private ∧ name.id = "" then
              .error (invalidChannel "private channels must include an id segment")
            else .ok name

def maxPatternDepth : Nat := 8

inductive PatternSegment
  | literal (text : String)
  | singleStar
  | doubleStar
  deriving DecidableEq

structure Pattern where
  raw : String
  visibility : Visibility
  segments : List PatternSegment
  deriving DecidableEq

def invalidPattern (message : String) : CodedError :=
  { code := .invalidArgument, message := message }

def parseSegments : List String → Except CodedError (List PatternSegment)
  | [] => .ok []
  | part :: rest => do
      let segment ←
        if part = "" then .error (invalidPattern "pattern segment must not be empty")
        else if part = "*" then .ok .singleStar
        else if part = "**" then
          if rest ≠ [] then
            .error (invalidPattern "** is only allowed as the trailing segment")
          else .ok .doubleStar
        else match validateComponent part with
          | .error error =>
            .error (invalidPattern ("invalid pattern segment: " ++ error.text))
          | .ok () => .ok (.literal part)
      let segments ← parseSegments rest
      return segment :: segments

def parsePattern (text : String) : Except CodedError Pattern :=
  match splitVisibility text with
  | none => .error (invalidPattern "pattern must start with public: or private:")
  | some (before, rest) =>
    match parseVisibility before with
    | none => .error (invalidPattern ("pattern visibility must be public or private " ++
        "(no cross-visibility wildcards)"))
    | some visibility =>
      if rest.toList.contains ':' then
        .error (invalidPattern "the : character is reserved for the visibility prefix")
      else
        let parts := splitDots rest
        if parts.length > maxPatternDepth then
          .error (invalidPattern "pattern exceeds maximum segment depth")
        else match parseSegments parts with
          | .error error => .error error
          | .ok segments =>
            .ok { raw := text, visibility := visibility, segments := segments }

def matchSegments : List PatternSegment → List String → Bool
  | [], name => name.isEmpty
  | .doubleStar :: _, name => !name.isEmpty
  | .singleStar :: rest, _ :: name => matchSegments rest name
  | .literal text :: rest, part :: name => part = text && matchSegments rest name
  | _ :: _, [] => false

def Pattern.matches (pattern : Pattern) (name : Name) : Bool :=
  !pattern.segments.isEmpty && pattern.visibility = name.visibility &&
    matchSegments pattern.segments (name.segments.filter (· ≠ ""))

inductive State
  | «open»
  | closed
  | deleted
  deriving DecidableEq

structure Channel where
  name : Name
  state : State
  ttl : Int
  createdAt : Int
  lastActive : Int
  deltaEnabled : Bool := false
  deriving DecidableEq

end Parsec.Channels
