import PatternBuilder.Proofs.Deletion
import PatternBuilder.Proofs.Inspection
import PatternBuilder.Proofs.Visits

/-!
# The order of the log

The log is the list of the steps that a run reaches, in post-order, each with the one message that
it logs, if it logs one. A rejected step logs its rejection, a granted group or alternation what it
splices, and no other step logs anything. The main statement is `Pattern.log_run`.
-/
namespace PatternBuilder

namespace Step
open Repetition

/-- The message of a step that is granted what it asks for. -/
def splice? : Step → Option Message
  | .group body _ => some (.groupSpliced (fragmentAll body))
  | .namedGroup name body _ => some (.namedGroupSpliced (fragmentAll body) name)
  | .oneOfLiterals _ _ others _ | .oneOf _ _ others _ =>
    some (.alternationSpliced (others.length + 2))
  | _ => none

def message? (step : Step) : Option Message :=
  match verdict step.times with
  | .ok _ => step.splice?
  | .error r => some (.rejected r)

end Step

def Visits.messages (visits : Visits) : List Message := visits.filterMap fun v => v.2.message?

theorem Visits.messages_append (first second : Visits) :
    messages (first ++ second) = first.messages ++ second.messages := List.filterMap_append

theorem Visits.messages_under (position : Nat) (visits : Visits) :
    messages (visits.under position) = visits.messages := List.filterMap_map

namespace Step
open Repetition

theorem messages_self (step : Step) : Visits.messages [([], step)] = step.message?.toList := by
  cases h : step.message? with
  | none => simp [Visits.messages, h]
  | some m => simp [Visits.messages, h]

theorem messages_of_inside {step : Step} {log : List Message} (inside : Visits)
    (hmessages : step.messages = logged step.times log)
    (hinside : step.visitsInside = granted step.times fun _ => inside)
    (hlog : log = inside.messages ++ step.splice?.toList) :
    step.messages = Visits.messages (step.visitsInside ++ [([], step)]) := by
  rw [hmessages, hinside, Visits.messages_append, messages_self, message?, hlog]
  cases hv : verdict step.times with
  | ok q => rw [logged_of_ok hv, granted_of_ok hv]
  | error r =>
    rw [logged_of_error hv, granted_of_error hv]
    rfl

mutual

theorem messages_eq (step : Step) :
    step.messages = Visits.messages (step.visitsInside ++ [([], step)]) := by
  cases step with
  | startOfLine | endOfLine | peek | inspect => rfl
  | literal _ times | char _ times | digit times | word times | characterClass _ times
  | oneOfChars _ _ _ times | oneOfLiterals _ _ _ times =>
    exact messages_of_inside [] rfl (granted_nil times).symm rfl
  | group body times | namedGroup _ body times =>
    refine messages_of_inside (visitsAll 0 body) rfl rfl ?_
    rw [messagesAll_eq 0 body]
    rfl
  | oneOf first second others times =>
    refine messages_of_inside ((visitsAll 0 first).under 0 ++
      ((visitsAll 0 second).under 1 ++ visitsBranches 2 others)) rfl rfl ?_
    simp only [Visits.messages_append, Visits.messages_under, ← messagesAll_eq 0 first,
      ← messagesAll_eq 0 second, ← messagesBranches_eq 2 others, List.append_assoc]
    rfl

theorem messagesAll_eq (position : Nat) (steps : List Step) :
    messagesAll steps = (visitsAll position steps).messages := by
  cases steps with
  | nil => rfl
  | cons step steps =>
    rw [messagesAll, visitsAll, Visits.messages_append, Visits.messages_under, ← messages_eq step,
      ← messagesAll_eq (position + 1) steps]

theorem messagesBranches_eq (position : Nat) (branches : List (List Step)) :
    messagesBranches branches = (visitsBranches position branches).messages := by
  cases branches with
  | nil => rfl
  | cons branch branches =>
    rw [messagesBranches, visitsBranches, Visits.messages_append, Visits.messages_under,
      ← messagesAll_eq 0 branch, ← messagesBranches_eq (position + 1) branches]

end

theorem infix_written {times : Option Repetition} {q : Quantifier} (h : verdict times = .ok q)
    {element : Quantifier → Text} {text : Text} (htext : text <:+: element q) :
    text <:+: written times element := by
  rw [written_of_ok h]
  exact htext.trans (List.prefix_append _ _).isInfix

theorem infix_parenthesized (text : Text) : text <:+: Pattern.parenthesized text :=
  ⟨['('], [')'], rfl⟩

theorem infix_intercalate {branch : Text} {branches : List Text} (h : branch ∈ branches) :
    branch <:+: ['|'].intercalate branches := by
  induction branches with
  | nil => exact absurd h List.not_mem_nil
  | cons first rest ih =>
    cases rest with
    | nil =>
      obtain rfl := List.mem_singleton.mp h
      exact ⟨[], [], by rw [List.intercalate_singleton, List.append_nil, List.nil_append]⟩
    | cons second rest =>
      rw [List.intercalate_cons_cons, List.append_assoc]
      rcases List.mem_cons.mp h with rfl | hrest
      · exact (List.prefix_append _ _).isInfix
      · have hlater := ih hrest
        exact hlater.trans ((List.suffix_append _ _).trans (List.suffix_append _ _)).isInfix

theorem infix_fragmentAll {steps : List Step} {i : Nat} {step : Step} (h : steps[i]? = some step) :
    step.fragment <:+: fragmentAll steps := by
  rw [fragmentAll_eq_flatMap, List.flatMap_def]
  exact List.infix_of_mem_flatten (List.mem_map_of_mem (List.mem_of_getElem? h))

theorem mem_fragmentBranches {branches : List (List Step)} {j : Nat} {branch : List Step}
    (h : branches[j]? = some branch) : fragmentAll branch ∈ fragmentBranches branches := by
  rw [fragmentBranches_eq_map]
  exact List.mem_map_of_mem (List.mem_of_getElem? h)

theorem infix_fragment_of_body? {step : Step} {body : List Step} {q : Quantifier}
    (h : step.body? = some body) (hq : verdict step.times = .ok q) :
    fragmentAll body <:+: step.fragment := by
  cases step with
  | group body times =>
    obtain rfl := Option.some.inj h
    exact infix_written hq (infix_parenthesized _)
  | namedGroup name body times =>
    obtain rfl := Option.some.inj h
    have hnamed : fragmentAll body <:+: "?<".toList ++ name ++ '>' :: fragmentAll body :=
      ((List.suffix_cons '>' _).trans (List.suffix_append _ _)).isInfix
    exact infix_written hq (hnamed.trans (infix_parenthesized _))
  | literal _ _ | char _ _ | digit _ | word _ | startOfLine | endOfLine | characterClass _ _
  | oneOfChars _ _ _ _ | oneOfLiterals _ _ _ _ | oneOf _ _ _ _ | peek | inspect => cases h

theorem Reaches.infix_fragment {step last : Step} {place : Place} (h : step.Reaches place last) :
    last.fragment <:+: step.fragment := by
  induction h with
  | self step => exact List.infix_refl _
  | group hbody hq hinner _ ih =>
    exact (ih.trans (infix_fragmentAll hinner)).trans (infix_fragment_of_body? hbody hq)
  | @oneOf first second branch others _ q i j inner last place hq hbranch hinner _ ih =>
    have hbody := ih.trans (infix_fragmentAll hinner)
    have hmem : fragmentAll branch ∈ fragmentBranches (first :: second :: others) :=
      mem_fragmentBranches hbranch
    have hbranches := hbody.trans (infix_intercalate hmem)
    exact infix_written hq (hbranches.trans (infix_parenthesized _))

theorem ReachedAt.infix_fragmentAll {steps : List Step} {place : Place} {last : Step}
    (h : ReachedAt steps place last) : last.fragment <:+: fragmentAll steps := by
  obtain ⟨i, step, rest, _, hstep, hreaches⟩ := h
  exact hreaches.infix_fragment.trans (Step.infix_fragmentAll hstep)

/-- The line of a spliced element shows what stands between the parentheses that the step adds, and
the name in front of it, or how many branches there are. What is shown can be read back. -/
def Announces (line element : Text) : Step → Prop
  | .group _ _ => ∃ nested,
    line = "TRACE fluent_regex::pattern: ".toList ++
      ("splicing group ".toList ++ Text.quoted nested) ∧
    Text.unquote? (Text.quoted nested) = some (nested, []) ∧
    element = '(' :: nested ++ [')']
  | .namedGroup name _ _ => ∃ nested,
    line = "TRACE fluent_regex::pattern: ".toList ++
      ("splicing group ".toList ++ Text.quoted nested ++ " as ".toList ++ Text.quoted name) ∧
    Text.unquote? (Text.quoted nested) = some (nested, []) ∧
    Text.unquote? (Text.quoted name) = some (name, []) ∧
    element = '(' :: '?' :: '<' :: name ++ '>' :: nested ++ [')']
  | .oneOfLiterals first second others _ => ∃ branches : List Text,
    line = "TRACE fluent_regex::pattern: ".toList ++
      ("splicing alternation of ".toList ++ branches.length.repr.toList ++ " branches".toList) ∧
    branches = (first :: second :: others).map (fun text =>
      (Pattern.empty.literal text Quantifier.once).source) ∧
    element = '(' :: ['|'].intercalate branches ++ [')']
  | .oneOf first second others _ => ∃ branches : List Text,
    line = "TRACE fluent_regex::pattern: ".toList ++
      ("splicing alternation of ".toList ++ branches.length.repr.toList ++ " branches".toList) ∧
    (∀ saved, branches = (first :: second :: others).map fun branch =>
      (Pattern.empty.run branch saved).value.source) ∧
    element = '(' :: ['|'].intercalate branches ++ [')']
  | _ => False

theorem line_alternationSpliced (branches : Nat) :
    (Message.alternationSpliced branches).line = "TRACE fluent_regex::pattern: ".toList ++
      ("splicing alternation of ".toList ++ branches.repr.toList ++ " branches".toList) := by
  rw [Nat.toList_repr]
  rfl

theorem sources_eq (branches : List (List Step)) (saved : SavedClasses) :
    fragmentBranches branches =
      branches.map fun branch => (Pattern.empty.run branch saved).value.source := by
  simp only [fragmentBranches_eq_map, source_runAll, Pattern.source_empty, List.nil_append]

theorem announces_of_splice? {step : Step} {m : Message} {q : Quantifier}
    (h : step.splice? = some m) (hq : verdict step.times = .ok q) :
    ∃ element, step.Announces m.line element ∧ step.fragment = element ++ q.render := by
  cases step with
  | group body times =>
    obtain rfl := Option.some.inj h
    exact ⟨_, ⟨fragmentAll body, rfl, Text.unquote?_quoteWith_self _ _, rfl⟩, written_of_ok hq _⟩
  | namedGroup name body times =>
    obtain rfl := Option.some.inj h
    refine ⟨Pattern.namedElement name (fragmentAll body), ⟨fragmentAll body, rfl,
      Text.unquote?_quoteWith_self _ _, Text.unquote?_quoteWith_self _ _, ?_⟩, written_of_ok hq _⟩
    have hmark : "?<".toList = ['?', '<'] := rfl
    rw [Pattern.namedElement, Pattern.parenthesized, hmark]
    simp only [List.cons_append, List.nil_append, List.append_assoc]
  | oneOfLiterals first second others times =>
    obtain rfl := Option.some.inj h
    have hliterals : (first :: second :: others).map (Text.escape Text.literalSpecials) =
        (first :: second :: others).map fun text =>
          (Pattern.empty.literal text Quantifier.once).source :=
      List.map_congr_left fun text _ => (Pattern.source_literal_once Pattern.empty text).symm
    refine ⟨_, ⟨_, ?_, hliterals, rfl⟩, written_of_ok hq _⟩
    rw [line_alternationSpliced, List.length_map]
    rfl
  | oneOf first second others times =>
    obtain rfl := Option.some.inj h
    refine ⟨_, ⟨fragmentBranches (first :: second :: others), ?_, sources_eq _, rfl⟩,
      written_of_ok hq _⟩
    rw [line_alternationSpliced, length_fragmentBranches]
    rfl
  | literal _ _ | char _ _ | digit _ | word _ | startOfLine | endOfLine | characterClass _ _
  | oneOfChars _ _ _ _ | peek | inspect => exact nomatch h

end Step

theorem Message.isPrefixOf_line (m : Message) :
    "DEBUG ".toList.isPrefixOf m.line = m.isRejected := by
  cases m with
  | rejected _ | groupSpliced _ | namedGroupSpliced _ _ | alternationSpliced _ => rfl

theorem Message.debugLines (log : List Message) :
    (log.map Message.line).filter ("DEBUG ".toList.isPrefixOf ·) =
      (log.filterMap Message.rejection?).map Rejection.debugLine := by
  induction log with
  | nil => rfl
  | cons m log ih =>
    rw [List.map_cons, List.filter_cons, isPrefixOf_line, ih]
    cases m with
    | rejected r => exact congrArg (· :: _) (line_rejected r)
    | groupSpliced _ | namedGroupSpliced _ _ | alternationSpliced _ => rfl

open Step Repetition in
/-- The log is the list of the messages of the steps reached, in post-order and one place at a time;
its rejections are those shown, and its splices announce the elements that are put down. -/
theorem Pattern.log_run (p : Pattern) (steps : List Step) (saved : SavedClasses) :
    (((p.run steps saved).log.map Message.line).filter ("DEBUG ".toList.isPrefixOf ·) =
      ((p.run steps saved).events.filterMap Event.rejection?).map Rejection.debugLine) ∧
    ((p.run steps saved).log = (visitsAll 0 steps).messages ∧ (visitsAll 0 steps).Ordered ∧
      ((visitsAll 0 steps).map Prod.fst).Nodup ∧
      ∀ place step, (place, step) ∈ visitsAll 0 steps ↔ ReachedAt steps place step) ∧
    (∀ place step m q, ReachedAt steps place step → step.splice? = some m →
      verdict step.times = .ok q →
      ∃ element, step.Announces m.line element ∧
        (∀ p' saved', (step.run p' saved').value = p'.append (element ++ q.render)) ∧
        element <:+: (p.run steps saved).value.source) := by
  have hordered := ordered_visitsAll 0 steps
  refine ⟨?_, ⟨?_, hordered, ?_, fun place step => mem_visitsAll 0 steps step place⟩, ?_⟩
  · rw [Message.debugLines, candid_runAll steps p saved]
  · rw [log_runAll, messagesAll_eq 0 steps]
  · exact List.pairwise_map.mpr (hordered.imp Place.Before.ne)
  · intro place step m q hreached hsplice hq
    obtain ⟨element, hannounces, hfragment⟩ := announces_of_splice? hsplice hq
    refine ⟨element, hannounces, fun p' saved' => ?_, ?_⟩
    · rw [(settles_run step p' saved').1, hfragment]
    · have hinside := hreached.infix_fragmentAll
      rw [hfragment] at hinside
      rw [source_runAll]
      have hsource := (List.suffix_append p.source (fragmentAll steps)).isInfix
      exact (((List.prefix_append element q.render).isInfix).trans hinside).trans hsource

def Step.nestedSample : List Step :=
  [.digit (some (.exactly 0)),
    .oneOf [.peek]
      [.literal "x".toList none,
        .namedGroup "n".toList [.word none, .group [.digit none] (some (.range 2 1))]
          (some .optional)] [] none]

open Step in
theorem Pattern.log_run_nestedSample :
    (∃ step, ReachedAt nestedSample [1, 1, 1] step ∧
      step.splice? = some (.namedGroupSpliced "\\w".toList "n".toList) ∧
      Repetition.verdict step.times = .ok Quantifier.optional) ∧
    "(?<n>\\w)".toList <:+: (empty.run nestedSample Shelf.empty).value.source ∧
    (empty.run nestedSample Shelf.empty).log.map Message.line =
      ["DEBUG fluent_regex::error: rejected quantifier argument `count`: ".toList ++
          "must be greater than zero".toList,
        "DEBUG fluent_regex::error: rejected quantifier argument `max`: ".toList ++
          "cannot be less than min".toList,
        "TRACE fluent_regex::pattern: splicing group \"\\\\w\" as \"n\"".toList,
        "TRACE fluent_regex::pattern: splicing alternation of 2 branches".toList] := by
  obtain ⟨_, ⟨hlog, _⟩, hspliced⟩ := log_run empty nestedSample Shelf.empty
  have hreached : ReachedAt nestedSample [1, 1, 1] _ :=
    ⟨1, _, [1, 1], rfl, rfl, .oneOf (q := Quantifier.once) rfl rfl rfl (.self _)⟩
  obtain ⟨element, _, happends, hinfix⟩ :=
    hspliced [1, 1, 1] _ (.namedGroupSpliced "\\w".toList "n".toList) Quantifier.optional hreached
      rfl rfl
  have helement : "(?<n>\\w)".toList ++ ['?'] = element ++ ['?'] :=
    congrArg Pattern.source (happends empty Shelf.empty)
  rw [← List.append_cancel_right helement] at hinfix
  refine ⟨⟨_, hreached, rfl, rfl⟩, hinfix, ?_⟩
  rw [hlog]
  decide +kernel

end PatternBuilder
