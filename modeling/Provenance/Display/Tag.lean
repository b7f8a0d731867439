/-!
# Display — Tag

The tags that a console finds in marked-up text: a bracket that no backslash escapes, a style, and
the next closing bracket. It does not matter who wrote them.
-/

namespace Provenance.Display

/-- A tag in a text: the place of its opening bracket, and what stands between its brackets. -/
structure Tag where
  place : Nat
  content : List Char
  deriving DecidableEq

/-- Whether a tag can begin with a character. -/
def opensTag (c : Char) : Bool := ('a' ≤ c && c ≤ 'z') || c == '#' || c == '/' || c == '@'

/-- What stands in front of the next closing bracket, if no opening one comes before it. -/
def untilClosed? : List Char → Option (List Char)
  | [] => none
  | c :: cs =>
    if c = ']' then some []
    else if c = '[' then none
    else (untilClosed? cs).map (c :: ·)

/-- What stands in a tag whose opening bracket is in front of a text, if it is one. -/
def content? (cs : List Char) : Option (List Char) :=
  (untilClosed? cs).filter fun content => content.head?.any opensTag

/-- Whether a bracket behind a text is escaped; `escaped` tells this of the place in front of it. -/
def escapedBehind (escaped : Bool) (cs : List Char) : Bool :=
  cs.foldl (fun escaped c => c == '\\' && !escaped) escaped

/-- The tags of a text that begins at a place, where a bracket is escaped or is not. -/
def tagsFrom (place : Nat) (escaped : Bool) : List Char → List Tag
  | [] => []
  | c :: cs =>
    (if c = '[' ∧ escaped = false then (content? cs).toList.map (Tag.mk place) else []) ++
      tagsFrom (place + 1) (escapedBehind escaped [c]) cs

/-- The tags of a text. -/
def tags (s : String) : List Tag := tagsFrom 0 false s.toList

/-- Whether a place is in a tag: at one of its brackets, or between them. -/
def Tag.covers (tag : Tag) (place : Nat) : Bool :=
  tag.place ≤ place && place ≤ tag.place + tag.content.length + 1

end Provenance.Display
