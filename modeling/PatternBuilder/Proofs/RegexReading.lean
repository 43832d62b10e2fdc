import PatternBuilder.Proofs.RegexText

/-!
# Reading the text of an expression

Before each element the reader is ready: it is between elements, or after one whose quantifier is
complete, or after an opening parenthesis. Whichever it is, the next element begins the same way, as
long as its first character cannot belong to a quantifier. A text reads as some nodes when the
reader takes it from readiness to readiness and puts these nodes into the sequence. The main
statement is `read?_renderAll`.
-/
namespace PatternBuilder.Regex
open Text

def Frame.extend (frame : Frame) (nodes : List Node) : Frame :=
  { frame with current := frame.current ++ nodes }

theorem Frame.extend_nil (frame : Frame) : frame.extend [] = frame := by
  simp [extend]

theorem Frame.extend_append (frame : Frame) (a b : List Node) :
    frame.extend (a ++ b) = (frame.extend a).extend b := by
  simp [extend]

namespace Reading

def feed (r : Reading) (text : Text) : Option Reading := text.foldlM next r

theorem feed_nil (r : Reading) : r.feed [] = some r := rfl

theorem feed_cons (r : Reading) (c : Char) (text : Text) :
    r.feed (c :: text) = (r.next c).bind (·.feed text) := rfl

theorem feed_append (r : Reading) (a b : Text) :
    r.feed (a ++ b) = (r.feed a).bind (·.feed b) :=
  List.foldlM_append

theorem feed_append_of_some {r s : Reading} {a : Text} (h : r.feed a = some s) (b : Text) :
    r.feed (a ++ b) = s.feed b := by
  rw [feed_append, h, Option.bind_some]

theorem feed_cons_of_some {r s : Reading} {c : Char} (h : r.next c = some s) (text : Text) :
    r.feed (c :: text) = s.feed text := by
  rw [feed_cons, h, Option.bind_some]

/-- An element may begin, in this sequence and within these open groups. -/
inductive Ready : Reading → Frame → List Frame → Prop
  | between (frame : Frame) (outer : List Frame) : Ready ⟨.between, frame, outer⟩ frame outer
  | after {node : Node} {suffix : Text} {q : Quantifier} (h : Quantifier.read? suffix = some q)
      (frame : Frame) (outer : List Frame) :
      Ready ⟨.after node suffix, frame, outer⟩ (frame.push (node.times q)) outer
  | opened (frame : Frame) (outer : List Frame) : Ready ⟨.opened, frame, outer⟩ {} (frame :: outer)

variable {r : Reading} {frame : Frame} {outer : List Frame}

theorem next_after (node : Node) (suffix : Text) (c : Char) :
    next ⟨.after node suffix, frame, outer⟩ c =
      if c ∈ Quantifier.marks then some ⟨.after node (suffix ++ [c]), frame, outer⟩
      else if c = '\x7b' then some ⟨.braces node (suffix ++ [c]), frame, outer⟩
      else ((Quantifier.read? suffix).map fun q =>
        (⟨.between, frame.push (node.times q), outer⟩ : Reading)).bind (·.begin c) := rfl

theorem next_braces (node : Node) (suffix : Text) (c : Char) :
    next ⟨.braces node suffix, frame, outer⟩ c =
      if c = '\x7d' then some ⟨.after node (suffix ++ [c]), frame, outer⟩
      else some ⟨.braces node (suffix ++ [c]), frame, outer⟩ := rfl

theorem next_opened (c : Char) :
    next ⟨.opened, frame, outer⟩ c =
      if c = '?' then some ⟨.marked, frame, outer⟩
      else begin ⟨.between, {}, frame :: outer⟩ c := rfl

theorem next_naming (name : Text) (c : Char) :
    next ⟨.naming name, frame, outer⟩ c =
      if c = '>' then some ⟨.between, { name := some name }, frame :: outer⟩
      else some ⟨.naming (name ++ [c]), frame, outer⟩ := rfl

theorem next_cls (body : Text) (c : Char) :
    next ⟨.cls body, frame, outer⟩ c =
      if c = ']' then some ⟨.after (.cls body) [], frame, outer⟩
      else if c = '\\' then some ⟨.clsEscape body, frame, outer⟩
      else some ⟨.cls (body ++ [c]), frame, outer⟩ := rfl

theorem Ready.next_eq (h : Ready r frame outer) {c : Char} (hc : c ∉ '\x7b' :: Quantifier.marks) :
    r.next c = begin ⟨.between, frame, outer⟩ c := by
  rw [List.mem_cons, not_or] at hc
  obtain ⟨hbrace, hmarks⟩ := hc
  cases h with
  | between => rfl
  | after hq frame outer =>
    rw [next_after, if_neg hmarks, if_neg hbrace, hq, Option.map_some, Option.bind_some]
  | opened frame outer =>
    have hmark : c ≠ '?' := fun heq => hmarks (by simp [heq, Quantifier.marks])
    rw [next_opened, if_neg hmark]

theorem Ready.finish_eq (h : Ready r frame []) : r.finish = some frame.current := by
  cases h with
  | between => rfl
  | after hq frame => exact congrArg (Option.map _) (congrArg (Option.map _) hq)

def Reads (text : Text) (nodes : List Node) : Prop :=
  ∀ ⦃r frame outer⦄, Ready r frame outer →
    ∃ s, r.feed text = some s ∧ Ready s (frame.extend nodes) outer

theorem reads_nil : Reads [] [] := by
  intro r frame outer h
  rw [Frame.extend_nil]
  exact ⟨r, rfl, h⟩

theorem Reads.append {a b : Text} {first second : List Node} (ha : Reads a first)
    (hb : Reads b second) : Reads (a ++ b) (first ++ second) := by
  intro r frame outer h
  obtain ⟨s, hs, hready⟩ := ha h
  obtain ⟨t, ht, hready⟩ := hb hready
  rw [feed_append_of_some hs, Frame.extend_append]
  exact ⟨t, ht, hready⟩

theorem reads_lineStart : Reads ['^'] [.lineStart] := by
  intro r frame outer h
  rw [feed_cons, h.next_eq (by decide)]
  exact ⟨_, rfl, .between _ _⟩

theorem reads_lineEnd : Reads ['$'] [.lineEnd] := by
  intro r frame outer h
  rw [feed_cons, h.next_eq (by decide)]
  exact ⟨_, rfl, .between _ _⟩

def ReadsAtom (text : Text) (node : Node) : Prop :=
  ∀ ⦃r frame outer⦄, Ready r frame outer → r.feed text = some ⟨.after node [], frame, outer⟩

theorem feed_mark {c : Char} (h : c ∈ Quantifier.marks) (node : Node) (suffix : Text) :
    feed ⟨.after node suffix, frame, outer⟩ [c] =
      some ⟨.after node (suffix ++ [c]), frame, outer⟩ := by
  rw [feed_cons, next_after, if_pos h]
  rfl

theorem feed_bounds {bounds : Text} (h : '\x7d' ∉ bounds) (node : Node) (suffix : Text) :
    feed ⟨.braces node suffix, frame, outer⟩ bounds =
      some ⟨.braces node (suffix ++ bounds), frame, outer⟩ := by
  induction bounds generalizing suffix with
  | nil => rw [List.append_nil, feed_nil]
  | cons c bounds ih =>
    rw [List.mem_cons, not_or] at h
    rw [feed_cons, next_braces, if_neg (Ne.symm h.1), Option.bind_some, ih h.2, List.append_assoc,
      List.singleton_append]

theorem feed_braced {bounds : Text} (h : Quantifier.IsBounds bounds) (node : Node)
    (suffix : Text) :
    feed ⟨.after node suffix, frame, outer⟩ (Quantifier.braced bounds) =
      some ⟨.after node (suffix ++ Quantifier.braced bounds), frame, outer⟩ := by
  have hopen : next ⟨.after node suffix, frame, outer⟩ '\x7b' =
      some ⟨.braces node (suffix ++ ['\x7b']), frame, outer⟩ := rfl
  have hbounds : feed ⟨.braces node (suffix ++ ['\x7b']), frame, outer⟩ bounds =
      some ⟨.braces node (suffix ++ ['\x7b'] ++ bounds), frame, outer⟩ :=
    feed_bounds (h.notMem (by decide) (by decide)) node _
  rw [Quantifier.braced, List.cons_append, feed_cons_of_some hopen, feed_append_of_some hbounds,
    feed_cons, next_braces, if_pos rfl, Option.bind_some, feed_nil]
  simp

theorem feed_render (q : Quantifier) (node : Node) :
    feed ⟨.after node [], frame, outer⟩ q.render =
      some ⟨.after node q.render, frame, outer⟩ := by
  unfold Quantifier.render
  split
  · rfl
  · have hsign : feed ⟨.after node [], frame, outer⟩ (Quantifier.sign q.min q.max) =
        some ⟨.after node (Quantifier.sign q.min q.max), frame, outer⟩ := by
      rcases Quantifier.sign_shape q.min q.max with ⟨c, hc, hsign⟩ | ⟨bounds, hbounds, hsign⟩
      · rw [hsign]
        exact feed_mark hc node []
      · rw [hsign]
        exact feed_braced hbounds node []
    rw [feed_append_of_some hsign]
    split
    · exact feed_mark (by decide) node _
    · rw [List.append_nil, feed_nil]

theorem ReadsAtom.times {text : Text} {node : Node} (h : ReadsAtom text node) {q : Quantifier}
    (hq : q.Normal) : Reads (text ++ q.render) [node.times q] := by
  intro r frame outer hready
  rw [feed_append_of_some (h hready), feed_render]
  exact ⟨_, rfl, .after (Quantifier.read?_render hq) frame outer⟩

theorem ReadsAtom.reads {text : Text} {node : Node} (h : ReadsAtom text node) :
    Reads text [node] := by
  intro r frame outer hready
  have hafter : Ready ⟨.after node [], frame, outer⟩
      (frame.push (node.times Quantifier.once)) outer := .after rfl frame outer
  rw [Node.times_once] at hafter
  exact ⟨_, h hready, hafter⟩

theorem begin_plain {c : Char} (hpass : c ∉ passThrough) (hspecial : c ∉ literalSpecials) :
    begin ⟨.between, frame, outer⟩ c = some ⟨.after (.char c) [], frame, outer⟩ := by
  simp only [passThrough, literalSpecials, List.mem_cons, List.not_mem_nil, or_false, not_or]
    at hpass hspecial
  unfold begin
  split <;> simp_all

theorem readsAtom_char {c : Char} (h : c ∉ passThrough) :
    ReadsAtom (escapeChar literalSpecials c) (.char c) := by
  intro r frame outer hready
  by_cases hspecial : c ∈ literalSpecials
  · have hunescape : unescape? c = some (.char c) := by
      have hd : c ≠ 'd' := fun heq => by simp [heq, literalSpecials] at hspecial
      have hw : c ≠ 'w' := fun heq => by simp [heq, literalSpecials] at hspecial
      rw [unescape?, if_neg hd, if_neg hw, if_pos hspecial]
    have hslash : r.next '\\' = some ⟨.escape, frame, outer⟩ := hready.next_eq (by decide)
    have hc : next ⟨.escape, frame, outer⟩ c = some ⟨.after (.char c) [], frame, outer⟩ :=
      congrArg (Option.map _) hunescape
    rw [escapeChar_of_mem hspecial, feed_cons_of_some hslash, feed_cons_of_some hc, feed_nil]
  · have hquantifier : c ∉ '\x7b' :: Quantifier.marks := by
      simp only [passThrough, literalSpecials, Quantifier.marks, List.mem_cons, List.not_mem_nil,
        or_false, not_or] at h hspecial ⊢
      exact ⟨h.2.2.1, h.1, hspecial.2.2.2.2.1, h.2.1⟩
    rw [escapeChar_of_notMem hspecial, feed_cons, hready.next_eq hquantifier,
      begin_plain h hspecial]
    rfl

theorem readsAtom_digit : ReadsAtom ['\\', 'd'] .digit := by
  intro r frame outer hready
  rw [feed_cons, hready.next_eq (by decide)]
  rfl

theorem readsAtom_word : ReadsAtom ['\\', 'w'] .word := by
  intro r frame outer hready
  rw [feed_cons, hready.next_eq (by decide)]
  rfl

theorem feed_closed {text : Text} (h : Closed text) (body : Text) :
    feed ⟨.cls body, frame, outer⟩ text = some ⟨.cls (body ++ text), frame, outer⟩ := by
  induction h generalizing body with
  | nil => rw [List.append_nil, feed_nil]
  | @char c rest hslash hbracket _ ih =>
    rw [feed_cons, next_cls, if_neg hbracket, if_neg hslash, Option.bind_some, ih,
      List.append_assoc, List.singleton_append]
  | @escaped c rest _ ih =>
    have hslash : next ⟨.cls body, frame, outer⟩ '\\' = some ⟨.clsEscape body, frame, outer⟩ := rfl
    have hc : next ⟨.clsEscape body, frame, outer⟩ c =
      some ⟨.cls (body ++ ['\\', c]), frame, outer⟩ := rfl
    rw [feed_cons_of_some hslash, feed_cons_of_some hc, ih, List.append_assoc]
    rfl

theorem readsAtom_cls {body : Text} (h : Closed body) :
    ReadsAtom (Pattern.bracketed body) (.cls body) := by
  intro r frame outer hready
  have hopen : r.next '[' = some ⟨.cls [], frame, outer⟩ := hready.next_eq (by decide)
  rw [Pattern.bracketed, List.cons_append, feed_cons_of_some hopen,
    feed_append_of_some (feed_closed h [])]
  rfl

theorem feed_name {text : Text} (h : '>' ∉ text) (name : Text) :
    feed ⟨.naming name, frame, outer⟩ text = some ⟨.naming (name ++ text), frame, outer⟩ := by
  induction text generalizing name with
  | nil => rw [List.append_nil, feed_nil]
  | cons c text ih =>
    rw [List.mem_cons, not_or] at h
    rw [feed_cons, next_naming, if_neg (Ne.symm h.1), Option.bind_some, ih h.2,
      List.append_assoc, List.singleton_append]

theorem feed_heading {name : Option Text} (h : ∀ text, name = some text → '>' ∉ text) :
    ∃ s, feed ⟨.opened, frame, outer⟩ (Node.heading name) = some s ∧
      Ready s { name } (frame :: outer) := by
  cases name with
  | none => exact ⟨_, feed_nil _, .opened frame outer⟩
  | some text =>
    have hmark : feed ⟨.opened, frame, outer⟩ "?<".toList = some ⟨.naming [], frame, outer⟩ := rfl
    have hname : feed ⟨.naming [], frame, outer⟩ text = some ⟨.naming text, frame, outer⟩ :=
      feed_name (h text rfl) []
    rw [Node.heading, List.append_assoc, feed_append_of_some hmark, feed_append_of_some hname]
    exact ⟨_, rfl, .between { name := some text } (frame :: outer)⟩

def ReadsBranches (texts : List Text) (branches : List (List Node)) : Prop :=
  ∀ ⦃r name done frame outer⦄, Ready r ⟨name, done, []⟩ (frame :: outer) →
    ∃ s last, r.feed (['|'].intercalate texts) = some s ∧ Ready s last (frame :: outer) ∧
      last.close = .group name (done ++ branches)

theorem Reads.lastBranch {text : Text} {nodes : List Node} (h : Reads text nodes) :
    ReadsBranches [text] [nodes] := by
  intro r name done frame outer hready
  obtain ⟨s, hs, hready⟩ := h hready
  rw [List.intercalate_singleton]
  exact ⟨s, _, hs, hready, rfl⟩

theorem Reads.branch {text : Text} {nodes : List Node} {second : Text} {texts : List Text}
    {branches : List (List Node)} (h : Reads text nodes)
    (hrest : ReadsBranches (second :: texts) branches) :
    ReadsBranches (text :: second :: texts) (nodes :: branches) := by
  intro r name done frame outer hready
  obtain ⟨s, hs, hready⟩ := h hready
  have hbar : s.next '|' = some ⟨.between, ⟨name, done ++ [nodes], []⟩, frame :: outer⟩ :=
    hready.next_eq (by decide)
  obtain ⟨t, last, ht, hready, hclose⟩ := hrest (.between ⟨name, done ++ [nodes], []⟩ _)
  rw [List.intercalate_cons_cons, List.append_assoc, feed_append_of_some hs,
    List.singleton_append, feed_cons_of_some hbar]
  refine ⟨t, last, ht, hready, ?_⟩
  rw [hclose, List.append_assoc, List.singleton_append]

theorem ReadsBranches.group {texts : List Text} {branches : List (List Node)}
    (h : ReadsBranches texts branches) {name : Option Text}
    (hname : ∀ text, name = some text → '>' ∉ text) :
    ReadsAtom (Pattern.parenthesized (Node.heading name ++ ['|'].intercalate texts))
      (.group name branches) := by
  intro r frame outer hready
  have hopen : r.next '(' = some ⟨.opened, frame, outer⟩ := hready.next_eq (by decide)
  obtain ⟨s, hs, hready⟩ := feed_heading hname
  obtain ⟨t, last, ht, hready, hclose⟩ := h hready
  have hend : t.next ')' = some ⟨.after last.close [], frame, outer⟩ :=
    hready.next_eq (by decide)
  rw [hclose] at hend
  rw [Pattern.parenthesized, List.cons_append, feed_cons_of_some hopen, List.append_assoc,
    feed_append_of_some hs, feed_append_of_some ht, feed_cons_of_some hend, feed_nil]
  rfl

mutual

theorem readsAtom_render (node : Node) (h : node.Legible) (hatom : node.isAtom = true) :
    ReadsAtom node.render node := by
  cases node with
  | char c => exact readsAtom_char h
  | digit => exact readsAtom_digit
  | word => exact readsAtom_word
  | cls body => exact readsAtom_cls h
  | group name branches => exact (readsBranches_render branches h.2.2 h.2.1).group h.1
  | lineStart | lineEnd | repeated _ _ => contradiction

theorem reads_renderAll (nodes : List Node) (h : Node.LegibleAll nodes) :
    Reads (Node.renderAll nodes) nodes := by
  cases nodes with
  | nil => exact reads_nil
  | cons node nodes =>
    have hnode : Reads node.render [node] := by
      cases node with
      | lineStart => exact reads_lineStart
      | lineEnd => exact reads_lineEnd
      | repeated inner q =>
        obtain ⟨⟨hatom, hinner⟩, hq, hne⟩ := h.1
        have hreads := (readsAtom_render inner hinner hatom).times hq
        rw [Node.times, if_neg hne] at hreads
        exact hreads
      | char c => exact (readsAtom_render (.char c) h.1 rfl).reads
      | digit => exact (readsAtom_render .digit h.1 rfl).reads
      | word => exact (readsAtom_render .word h.1 rfl).reads
      | cls body => exact (readsAtom_render (.cls body) h.1 rfl).reads
      | group name branches => exact (readsAtom_render (.group name branches) h.1 rfl).reads
    exact hnode.append (reads_renderAll nodes h.2)

theorem readsBranches_render (branches : List (List Node)) (h : Node.LegibleBranches branches)
    (hne : branches ≠ []) : ReadsBranches (Node.renderBranches branches) branches := by
  cases branches with
  | nil => contradiction
  | cons branch rest =>
    cases rest with
    | nil => exact (reads_renderAll branch h.1).lastBranch
    | cons second rest =>
      exact (reads_renderAll branch h.1).branch
        (readsBranches_render (second :: rest) h.2 (List.cons_ne_nil second rest))

end

end Reading

theorem read?_renderAll {nodes : List Node} (h : Node.LegibleAll nodes) :
    read? (Node.renderAll nodes) = some nodes := by
  obtain ⟨s, hs, hready⟩ := Reading.reads_renderAll nodes h (.between {} [])
  have hread : read? (Node.renderAll nodes) = s.finish := by
    unfold read?
    rw [show (Node.renderAll nodes).foldlM Reading.next {} = some s from hs, Option.bind_some]
  rw [hread, hready.finish_eq]
  rfl

theorem renderAll_inj {first second : List Node} (hfirst : Node.LegibleAll first)
    (hsecond : Node.LegibleAll second) :
    Node.renderAll first = Node.renderAll second ↔ first = second := by
  constructor
  · intro h
    have hread := read?_renderAll hfirst
    rw [h, read?_renderAll hsecond] at hread
    exact (Option.some.inj hread).symm
  · intro h
    rw [h]

end PatternBuilder.Regex
