import PatternBuilder.Proofs.Brackets
import PatternBuilder.Proofs.RegexText

/-!
# Atoms

What a quantifier repeats is the atom before it: a plain character, a backslash with the character
behind it, a class, or a group. A class ends at its first closing bracket that is not escaped. A
group ends at the parenthesis that matches its first one, where nothing counts that is escaped,
within a class or within a name. A reader of atoms knows where it is and how many parentheses are
open, and it stops when it is outside everything. The main statement is `Node.splitAtom?_render`:
from the text of a legible node that takes a quantifier the reader takes all of it, whatever comes
behind.
-/
namespace PatternBuilder.Regex
open Text

inductive Within
  | outside
  | escape
  | cls
  | clsEscape
  | opened
  | marked
  | name
  deriving DecidableEq

structure AtomReading where
  within : Within := .outside
  depth : Nat := 0
  deriving DecidableEq

namespace AtomReading

def enter (depth : Nat) (c : Char) : AtomReading :=
  if c = '\\' then ⟨.escape, depth⟩
  else if c = '[' then ⟨.cls, depth⟩
  else if c = '(' then ⟨.opened, depth + 1⟩
  else if c = ')' then ⟨.outside, depth - 1⟩
  else ⟨.outside, depth⟩

def advance (s : AtomReading) (c : Char) : AtomReading :=
  match s.within with
  | .outside => enter s.depth c
  | .escape => { s with within := .outside }
  | .cls =>
    if c = ']' then { s with within := .outside }
    else if c = '\\' then { s with within := .clsEscape }
    else s
  | .clsEscape => { s with within := .cls }
  | .opened => if c = '?' then { s with within := .marked } else enter s.depth c
  | .marked => if c = '<' then { s with within := .name } else enter s.depth c
  | .name => if c = '>' then { s with within := .outside } else s

def next (s : AtomReading) (c : Char) : Option AtomReading :=
  if s.advance c = {} then none else some (s.advance c)

def split? (s : AtomReading) : Text → Option (Text × Text)
  | [] => none
  | c :: rest =>
    match s.next c with
    | none => some ([c], rest)
    | some t => (t.split? rest).map fun parts => (c :: parts.1, parts.2)

end AtomReading

/-- Characters with which no atom begins: quantifiers, anchors, what ends a branch, a group or a
class, and the dot, which stands for any character. -/
def beginsNone : Text := ['*', '+', '?', '\x7b', '\x7d', '^', '$', '|', ')', ']', '.']

/-- The atom with which a source begins, and what comes behind it. -/
def splitAtom? (source : Text) : Option (Text × Text) :=
  if source.head?.any (· ∈ beginsNone) then none else AtomReading.split? {} source

namespace AtomReading

theorem split?_ne_nil {s : AtomReading} {source atom rest : Text}
    (h : s.split? source = some (atom, rest)) : atom ≠ [] := by
  cases source with
  | nil => simp [split?] at h
  | cons c source =>
    rw [split?] at h
    split at h
    · simp only [Option.some.injEq, Prod.mk.injEq] at h
      simp [← h.1]
    · obtain ⟨parts, _, hparts⟩ := Option.map_eq_some_iff.mp h
      simp only [Prod.mk.injEq] at hparts
      simp [← hparts.1]

def feed (s : AtomReading) (text : Text) : Option AtomReading := text.foldlM next s

theorem feed_nil (s : AtomReading) : s.feed [] = some s := rfl

theorem feed_cons (s : AtomReading) (c : Char) (text : Text) :
    s.feed (c :: text) = (s.next c).bind (·.feed text) := rfl

theorem feed_append_of_some {s t : AtomReading} {a : Text} (h : s.feed a = some t) (b : Text) :
    s.feed (a ++ b) = t.feed b := by
  have happend : s.feed (a ++ b) = (s.feed a).bind (·.feed b) := List.foldlM_append
  rw [happend, h, Option.bind_some]

theorem split?_append_of_feed {s t : AtomReading} {front : Text} (h : s.feed front = some t)
    (rest : Text) :
    s.split? (front ++ rest) = (t.split? rest).map fun parts => (front ++ parts.1, parts.2) := by
  induction front generalizing s with
  | nil =>
    obtain rfl := Option.some.inj h
    simp
  | cons c front ih =>
    rw [feed_cons] at h
    obtain ⟨u, hu, hfeed⟩ := Option.bind_eq_some_iff.mp h
    rw [List.cons_append, split?, hu]
    simp only [ih hfeed, Option.map_map]
    rfl

inductive Ready (depth : Nat) : AtomReading → Prop
  | outside : Ready depth ⟨.outside, depth⟩
  | opened : Ready depth ⟨.opened, depth⟩

theorem Ready.advance_eq {depth : Nat} {s : AtomReading} (h : Ready depth s) {c : Char}
    (hc : c ≠ '?') : s.advance c = enter depth c := by
  cases h with
  | outside => rfl
  | opened => simp [advance, hc]

theorem feed_cons_of_advance {s t : AtomReading} {c : Char} (h : s.advance c = t) (ht : t ≠ {})
    (text : Text) : s.feed (c :: text) = t.feed text := by
  rw [feed_cons, next, h, if_neg ht, Option.bind_some]

theorem enter_of_notMem {c : Char} (h : c ∉ structural) (depth : Nat) :
    enter depth c = ⟨.outside, depth⟩ := by
  simp only [structural, List.mem_cons, List.not_mem_nil, or_false, not_or] at h
  simp [enter, h]

def Passes (text : Text) : Prop :=
  ∀ ⦃s depth⦄, Ready (depth + 1) s → ∃ t, s.feed text = some t ∧ Ready (depth + 1) t

def Ends (text : Text) : Prop :=
  ∀ ⦃s depth⦄, Ready depth s → ∃ front last t,
    text = front ++ [last] ∧ s.feed front = some t ∧ t.advance last = ⟨.outside, depth⟩

theorem passes_nil : Passes [] := fun s _ h => ⟨s, feed_nil s, h⟩

theorem Passes.append {a b : Text} (ha : Passes a) (hb : Passes b) : Passes (a ++ b) := by
  intro s depth h
  obtain ⟨t, ht, hready⟩ := ha h
  rw [feed_append_of_some ht]
  exact hb hready

theorem passes_plain {c : Char} (hc : c ≠ '?') (h : c ∉ structural) : Passes [c] := by
  intro s depth hready
  have hadvance : s.advance c = ⟨.outside, depth + 1⟩ := by
    rw [hready.advance_eq hc, enter_of_notMem h]
  rw [feed_cons_of_advance hadvance (by simp)]
  exact ⟨_, feed_nil _, .outside⟩

theorem feed_plain {text : Text} (h : ∀ c ∈ text, c ∉ structural) (depth : Nat) :
    feed ⟨.outside, depth + 1⟩ text = some ⟨.outside, depth + 1⟩ := by
  induction text with
  | nil => rfl
  | cons c text ih =>
    have hadvance : advance ⟨.outside, depth + 1⟩ c = ⟨.outside, depth + 1⟩ :=
      enter_of_notMem (h c List.mem_cons_self) _
    rw [feed_cons_of_advance hadvance (by simp)]
    exact ih fun d hd => h d (List.mem_cons_of_mem c hd)

theorem Ends.feed_eq {text : Text} (h : Ends text) {s : AtomReading} {depth : Nat}
    (hready : Ready (depth + 1) s) : s.feed text = some ⟨.outside, depth + 1⟩ := by
  obtain ⟨front, last, t, rfl, hfront, hlast⟩ := h hready
  rw [feed_append_of_some hfront, feed_cons_of_advance hlast (by simp), feed_nil]

theorem Ends.passes_render {text : Text} (h : Ends text) (q : Quantifier) :
    Passes (text ++ q.render) := by
  intro s depth hready
  rw [feed_append_of_some (h.feed_eq hready),
    feed_plain fun _ => Quantifier.notMem_structural_of_mem_render]
  exact ⟨_, rfl, .outside⟩

theorem Ends.passes {text : Text} (h : Ends text) : Passes text := by
  have honce := h.passes_render Quantifier.once
  rw [Quantifier.render_once, List.append_nil] at honce
  exact honce

theorem Ends.split?_eq {text : Text} (h : Ends text) (rest : Text) :
    split? {} (text ++ rest) = some (text, rest) := by
  obtain ⟨front, last, t, rfl, hfront, hlast⟩ := h (.outside : Ready 0 {})
  have hnext : t.next last = none := if_pos hlast
  rw [List.append_assoc, List.singleton_append, split?_append_of_feed hfront, split?, hnext]
  rfl

theorem ends_pair (c : Char) : Ends ['\\', c] := by
  intro s depth hready
  have hadvance : s.advance '\\' = ⟨.escape, depth⟩ := hready.advance_eq (by decide)
  refine ⟨['\\'], c, ⟨.escape, depth⟩, rfl, ?_, rfl⟩
  rw [feed_cons_of_advance hadvance (by simp), feed_nil]

theorem ends_char {c : Char} (h : c ∉ passThrough) : Ends (escapeChar literalSpecials c) := by
  by_cases hspecial : c ∈ literalSpecials
  · rw [escapeChar_of_mem hspecial]
    exact ends_pair c
  · rw [escapeChar_of_notMem hspecial]
    intro s depth hready
    simp only [passThrough, literalSpecials, List.mem_cons, List.not_mem_nil, or_false, not_or]
      at h hspecial
    have hplain : c ∉ structural := by simp [structural, h, hspecial]
    refine ⟨[], c, s, rfl, feed_nil s, ?_⟩
    rw [hready.advance_eq h.2.1, enter_of_notMem hplain]

theorem feed_closed {body : Text} (h : Closed body) (depth : Nat) :
    feed ⟨.cls, depth⟩ body = some ⟨.cls, depth⟩ := by
  induction h with
  | nil => rfl
  | @char c rest hslash hbracket _ ih =>
    have hadvance : advance ⟨.cls, depth⟩ c = ⟨.cls, depth⟩ := by
      simp [advance, hslash, hbracket]
    rw [feed_cons_of_advance hadvance (by simp), ih]
  | @escaped c rest _ ih => exact ih

theorem ends_cls {body : Text} (h : Closed body) : Ends (Pattern.bracketed body) := by
  intro s depth hready
  have hadvance : s.advance '[' = ⟨.cls, depth⟩ := hready.advance_eq (by decide)
  refine ⟨'[' :: body, ']', ⟨.cls, depth⟩, rfl, ?_, rfl⟩
  rw [feed_cons_of_advance hadvance (by simp), feed_closed h]

theorem feed_name {name : Text} (h : '>' ∉ name) (depth : Nat) :
    feed ⟨.name, depth⟩ name = some ⟨.name, depth⟩ := by
  induction name with
  | nil => rfl
  | cons c name ih =>
    rw [List.mem_cons, not_or] at h
    have hadvance : advance ⟨.name, depth⟩ c = ⟨.name, depth⟩ := by
      simp [advance, Ne.symm h.1]
    rw [feed_cons_of_advance hadvance (by simp), ih h.2]

theorem feed_heading {name : Option Text} (h : ∀ text, name = some text → '>' ∉ text)
    (depth : Nat) :
    ∃ t, feed ⟨.opened, depth + 1⟩ (Node.heading name) = some t ∧ Ready (depth + 1) t := by
  cases name with
  | none => exact ⟨_, feed_nil _, .opened⟩
  | some text =>
    have hmark : feed ⟨.opened, depth + 1⟩ "?<".toList = some ⟨.name, depth + 1⟩ := rfl
    rw [Node.heading, List.append_assoc, feed_append_of_some hmark,
      feed_append_of_some (feed_name (h text rfl) _)]
    exact ⟨_, rfl, .outside⟩

theorem Passes.ends_group {inner : Text} (h : Passes inner) {name : Option Text}
    (hname : ∀ text, name = some text → '>' ∉ text) :
    Ends (Pattern.parenthesized (Node.heading name ++ inner)) := by
  intro s depth hready
  have hadvance : s.advance '(' = ⟨.opened, depth + 1⟩ := hready.advance_eq (by decide)
  obtain ⟨t, ht, hheading⟩ := feed_heading hname depth
  obtain ⟨u, hu, hinner⟩ := h hheading
  refine ⟨'(' :: (Node.heading name ++ inner), ')', u, rfl, ?_, ?_⟩
  · rw [feed_cons_of_advance hadvance (by simp), feed_append_of_some ht, hu]
  · rw [hinner.advance_eq (by decide)]
    rfl

mutual

theorem ends_render (node : Node) (h : node.Legible) (hatom : node.isAtom = true) :
    Ends node.render := by
  cases node with
  | char c => exact ends_char h
  | digit => exact ends_pair 'd'
  | word => exact ends_pair 'w'
  | cls body => exact ends_cls h
  | group name branches => exact (passes_renderBranches branches h.2.2).ends_group h.1
  | lineStart | lineEnd | repeated _ _ => contradiction

theorem passes_renderAll (nodes : List Node) (h : Node.LegibleAll nodes) :
    Passes (Node.renderAll nodes) := by
  cases nodes with
  | nil => exact passes_nil
  | cons node nodes =>
    have hnode : Passes node.render := by
      cases hatom : node.isAtom with
      | true => exact (ends_render node h.1 hatom).passes
      | false =>
        cases node with
        | lineStart | lineEnd => exact passes_plain (by decide) (by decide)
        | repeated inner q =>
          obtain ⟨⟨hinner, hlegible⟩, _⟩ := h.1
          exact (ends_render inner hlegible hinner).passes_render q
        | char _ | digit | word | cls _ | group _ _ => contradiction
    exact hnode.append (passes_renderAll nodes h.2)

theorem passes_renderBranches (branches : List (List Node)) (h : Node.LegibleBranches branches) :
    Passes (['|'].intercalate (Node.renderBranches branches)) := by
  cases branches with
  | nil => exact passes_nil
  | cons branch rest =>
    have hbranch := passes_renderAll branch h.1
    have hrest := passes_renderBranches rest h.2
    cases rest with
    | nil =>
      rw [Node.renderBranches, Node.renderBranches, List.intercalate_singleton]
      exact hbranch
    | cons second rest =>
      have hbar : Passes ['|'] := passes_plain (by decide) (by decide)
      rw [Node.renderBranches, Node.renderBranches, List.intercalate_cons_cons]
      exact (hbranch.append hbar).append hrest

end

end AtomReading

theorem splitAtom?_ne_nil {source atom rest : Text} (h : splitAtom? source = some (atom, rest)) :
    atom ≠ [] := by
  rw [splitAtom?] at h
  split at h
  · contradiction
  · exact AtomReading.split?_ne_nil h

theorem Node.head?_render (node : Node) (h : node.Legible) (hatom : node.isAtom = true)
    (rest : Text) : (node.render ++ rest).head?.any (· ∈ beginsNone) = false := by
  cases node with
  | char c =>
    rw [render]
    by_cases hspecial : c ∈ literalSpecials
    · rw [escapeChar_of_mem hspecial]
      rfl
    · have hplain : c ∉ passThrough := h
      rw [escapeChar_of_notMem hspecial]
      simp only [passThrough, literalSpecials, List.mem_cons, List.not_mem_nil, or_false, not_or]
        at hplain hspecial
      simp [beginsNone, hplain, hspecial]
  | digit | word | cls _ | group _ _ => rfl
  | lineStart | lineEnd | repeated _ _ => contradiction

theorem Node.splitAtom?_render {node : Node} (h : node.Legible) (hatom : node.isAtom = true)
    (rest : Text) : splitAtom? (node.render ++ rest) = some (node.render, rest) := by
  rw [splitAtom?, node.head?_render h hatom, if_neg Bool.false_ne_true]
  exact (AtomReading.ends_render node h hatom).split?_eq rest

end PatternBuilder.Regex
