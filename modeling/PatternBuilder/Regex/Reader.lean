import PatternBuilder.Quantifier

/-!
# Reading expressions

The tree of an expression keeps what its source says: characters, the classes `\d` and `\w`, the
two anchors, bracketed classes with the text of their body, groups with their branches, and the
quantifier of what repeats. A sequence is a list of nodes.

The reader takes one character at a time. Its state is the element it is in, the sequence that the
element belongs to, and the open groups around that sequence. It reads the sources that patterns
are made of and refuses the rest: an unescaped `.` or bracket, an escape of another character, a
branch outside all groups, a quantifier with nothing before it, a group that stays open.
-/
namespace PatternBuilder.Regex

inductive Node
  | char (c : Char)
  | digit
  | word
  | lineStart
  | lineEnd
  | cls (body : Text)
  | group (name : Option Text) (branches : List (List Node))
  | repeated (node : Node) (quantifier : Quantifier)

def Node.times (node : Node) (q : Quantifier) : Node :=
  if q = Quantifier.once then node else .repeated node q

@[simp] theorem Node.times_once (node : Node) : node.times Quantifier.once = node := by
  simp [times]

structure Frame where
  name : Option Text := none
  branches : List (List Node) := []
  current : List Node := []

namespace Frame

def push (frame : Frame) (node : Node) : Frame :=
  { frame with current := frame.current ++ [node] }

def nextBranch (frame : Frame) : Frame :=
  { frame with branches := frame.branches ++ [frame.current], current := [] }

def close (frame : Frame) : Node := .group frame.name (frame.branches ++ [frame.current])

end Frame

/-- Where the reader is within an element. A group opens with `(`, then `(?`, then `(?<` and a name.
-/
inductive Place
  | between
  | escape
  | cls (body : Text)
  | clsEscape (body : Text)
  | after (node : Node) (suffix : Text)
  | braces (node : Node) (suffix : Text)
  | opened
  | marked
  | naming (name : Text)

structure Reading where
  place : Place := .between
  frame : Frame := {}
  outer : List Frame := []

namespace Reading

def push (r : Reading) (node : Node) : Reading :=
  { r with place := .between, frame := r.frame.push node }

def openGroup (r : Reading) (name : Option Text) : Reading :=
  { place := .between, frame := { name }, outer := r.frame :: r.outer }

def begin (r : Reading) (c : Char) : Option Reading :=
  match c with
  | '\\' => some { r with place := .escape }
  | '[' => some { r with place := .cls [] }
  | '(' => some { r with place := .opened }
  | '^' => some (r.push .lineStart)
  | '$' => some (r.push .lineEnd)
  | '|' =>
    match r.outer with
    | [] => none
    | _ => some { r with place := .between, frame := r.frame.nextBranch }
  | ')' =>
    match r.outer with
    | [] => none
    | frame :: outer => some { place := .after r.frame.close [], frame, outer }
  | _ =>
    if c ∈ ['*', '+', '?', '\x7b', '\x7d', '.', ']'] then none
    else some { r with place := .after (.char c) [] }

def settle (r : Reading) (node : Node) (suffix : Text) : Option Reading :=
  (Quantifier.read? suffix).map fun q => r.push (node.times q)

def unescape? (c : Char) : Option Node :=
  if c = 'd' then some .digit
  else if c = 'w' then some .word
  else if c ∈ Text.literalSpecials then some (.char c)
  else none

def next (r : Reading) (c : Char) : Option Reading :=
  match r.place with
  | .between => r.begin c
  | .escape => (unescape? c).map fun node => { r with place := .after node [] }
  | .cls body =>
    if c = ']' then some { r with place := .after (.cls body) [] }
    else if c = '\\' then some { r with place := .clsEscape body }
    else some { r with place := .cls (body ++ [c]) }
  | .clsEscape body => some { r with place := .cls (body ++ ['\\', c]) }
  | .after node suffix =>
    if c ∈ ['*', '+', '?'] then some { r with place := .after node (suffix ++ [c]) }
    else if c = '\x7b' then some { r with place := .braces node (suffix ++ [c]) }
    else (r.settle node suffix).bind (·.begin c)
  | .braces node suffix =>
    if c = '\x7d' then some { r with place := .after node (suffix ++ [c]) }
    else some { r with place := .braces node (suffix ++ [c]) }
  | .opened =>
    if c = '?' then some { r with place := .marked } else (r.openGroup none).begin c
  | .marked => if c = '<' then some { r with place := .naming [] } else none
  | .naming name =>
    if c = '>' then some (r.openGroup (some name))
    else some { r with place := .naming (name ++ [c]) }

def finish (r : Reading) : Option (List Node) :=
  match r.place, r.outer with
  | .between, [] => some r.frame.current
  | .after node suffix, [] => (r.settle node suffix).map (·.frame.current)
  | _, _ => none

end Reading

def read? (source : Text) : Option (List Node) :=
  (source.foldlM Reading.next {}).bind Reading.finish

end PatternBuilder.Regex
